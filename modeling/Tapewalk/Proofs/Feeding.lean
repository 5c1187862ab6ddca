import Tapewalk.Proofs.Reachable
import Tapewalk.Proofs.Trace

/-!
# What a run sees of its input

To a run the input is an endless stream of bytes: those that were given, and `eof` from then on. It
cannot tell where the given bytes end. So two runs with different inputs go the same way, instruction
by instruction, as long as their streams agree on what has been read (`Machine.Abreast.sameUpTo`).
Their cursors may differ meanwhile: a cursor counts the reads up to the length of its own input and
then stands still (`Machine.Fed.after?`).
-/

namespace Tapewalk

/-- The bytes of an input, and `eof` from then on. -/
def stream (input : Array UInt8) (eof : UInt8) (n : ℕ) : UInt8 := input.getD n eof

theorem stream_of_lt {input : Array UInt8} {n : ℕ} (h : n < input.size) (eof : UInt8) :
    stream input eof n = input[n] := by
  simp [stream, h]

theorem stream_of_le {input : Array UInt8} {n : ℕ} (h : input.size ≤ n) (eof : UInt8) :
    stream input eof n = eof := by
  simp [stream, Nat.not_lt.mpr h]

/-- Bytes that come anyway can as well be given. -/
theorem stream_append_replicate (input : Array UInt8) (eof : UInt8) (n : ℕ) :
    stream (input ++ Array.replicate n eof) eof = stream input eof := by
  funext a
  by_cases ha : a < input.size
  · have ha' : a < (input ++ Array.replicate n eof).size := by
      rw [Array.size_append]
      omega
    rw [stream_of_lt ha, stream_of_lt ha', Array.getElem_append_left ha]
  · rw [stream_of_le (Nat.le_of_not_lt ha), stream, Array.getD_eq_getD_getElem?,
      Array.getElem?_append_right (Nat.le_of_not_lt ha), Array.getElem?_replicate]
    split <;> rfl

namespace Machine

variable {p : Program} {j : Jumps} {m m' : Machine} {d : Dialect} {i : Instruction} {e : Effect}
  {input input' : Array UInt8} {eof eof' : UInt8} {k n r : ℕ}

/-- The machine with another input, another cursor and another `eof`. -/
def withInput (m : Machine) (input : Array UInt8) (inputPos : ℕ) (eof : UInt8) : Machine :=
  { m with input, inputPos, eof }

/-- All of a machine but its input, its cursor and its `eof`. -/
def unfed (m : Machine) : Machine := m.withInput #[] 0 0

/-- How many of the first `k` instructions are reads. -/
def reads (p : Program) (j : Jumps) (d : Dialect) (k : ℕ) (m : Machine) : ℕ :=
  (m.executed p j d k).count ','

/-- The first instruction counts if it is a read. -/
theorem reads_succ (hlive : m.halted p = false) (hs : m.step p j d = (.ok e, m')) :
    m.reads p j d (k + 1) = (if m.current p d = .read then 1 else 0) + m'.reads p j d k := by
  obtain ⟨c, hc⟩ := exists_char hlive
  have hcomma : m.current p d = .read ↔ p.char? m.pc = some ',' := current_eq_iff rfl rfl
  rw [hc, Option.some.injEq] at hcomma
  simp only [reads, executed_succ hlive hc hs, List.count_cons, beq_iff_eq, hcomma]
  omega

/-! ## The cursor -/

/-- Only a read looks at the input. -/
theorem act_withInput (hi : i ≠ .read) (input : Array UInt8) (pos : ℕ) (eof : UInt8) :
    (m.withInput input pos eof).act j i =
      ((m.act j i).1, (m.act j i).2.withInput input pos eof) := by
  have h : Transparent (withInput · input pos eof) := ⟨fun _ _ _ => rfl, fun _ _ => rfl⟩
  exact h.act (fun _ => jump_of_pc (withInput · input pos eof) rfl fun _ => rfl)
    (fun _ => .inr rfl) (fun hr => absurd hr hi) fun _ => rfl

theorem inputPos_act (hi : i ≠ .read) : (m.act j i).2.inputPos = m.inputPos :=
  congrArg (·.2.inputPos) (act_withInput (m := m) (j := j) hi m.input m.inputPos m.eof)

/-- The machine was given `input` and `eof`, and has read `n` bytes. -/
structure Fed (input : Array UInt8) (eof : UInt8) (n : ℕ) (m : Machine) : Prop where
  inputPos : m.inputPos = min n input.size
  input : m.input = input
  eof : m.eof = eof

theorem fed_start (shape : Tape.Shape) (eof : UInt8) (input : Array UInt8) :
    (start shape eof input).Fed input eof 0 :=
  ⟨(Nat.zero_min _).symm, rfl, rfl⟩

/-- A read takes the next byte of the stream, whether it was given or not. -/
theorem Fed.takeInput (h : m.Fed input eof n) :
    m.takeInput.1 = stream input eof n ∧ m.takeInput.2.Fed input eof (n + 1) := by
  obtain ⟨hpos, rfl, rfl⟩ := h
  by_cases hn : n < m.input.size
  · rw [Nat.min_eq_left hn.le] at hpos
    have hbyte : m.input[m.inputPos]? = some m.input[n] := by
      rw [hpos, Array.getElem?_eq_getElem hn]
    simp only [Machine.takeInput, hbyte]
    refine ⟨(stream_of_lt hn _).symm, ?_, rfl, rfl⟩
    show m.inputPos + 1 = min (n + 1) m.input.size
    omega
  · -- the cursor has come to the end and stays there
    have hle := Nat.le_of_not_lt hn
    rw [Nat.min_eq_right hle] at hpos
    have hbyte : m.input[m.inputPos]? = none := by
      rw [hpos, Array.getElem?_eq_none le_rfl]
    simp only [Machine.takeInput, hbyte]
    refine ⟨(stream_of_le hle _).symm, ?_, rfl, rfl⟩
    omega

/-- One instruction moves the cursor if it is a read. -/
theorem Fed.step (h : m.Fed input eof n) (hlt : m.ptr < m.tape.length)
    (hs : m.step p j d = (.ok e, m')) :
    m'.Fed input eof (n + if m.current p d = .read then 1 else 0) := by
  obtain ⟨m₁, ha, rfl⟩ := exists_act_of_step hlt hs
  by_cases hi : m.current p d = .read
  · rw [hi] at ha
    obtain ⟨-, rfl⟩ := Prod.mk.inj ha
    obtain ⟨hpos, hinput, heof⟩ := h.takeInput.2
    rw [if_pos hi]
    exact ⟨hpos, hinput, heof⟩
  · have hpos := inputPos_act (m := m) (j := j) hi
    rw [ha] at hpos
    have hf := act_ok hlt ha
    rw [if_neg hi]
    exact ⟨hpos.trans h.inputPos, hf.input.trans h.input, hf.eof.trans h.eof⟩

/-- **The cursor counts the reads**, up to the length of the input. -/
theorem Fed.after? (h : m.Fed input eof n) (hj : Jumps.build p = .ok j) (hm : m.Sound p)
    (hk : m.after? p j d k = some m') : m'.Fed input eof (n + m.reads p j d k) := by
  induction k generalizing m n with
  | zero =>
    obtain rfl := Option.some.inj hk
    exact h
  | succ k ih =>
    obtain ⟨hlive, e, m₁, hs, hrest⟩ := after?_succ_eq_some_iff.mp hk
    have h₁ := ih (h.step hm.ptr_lt hs) (hm.of_step hj hlive hs) hrest
    rwa [Nat.add_assoc, ← reads_succ hlive hs] at h₁

/-! ## Two machines with different inputs -/

theorem act_unfed (hi : i ≠ .read) : m.unfed.act j i = ((m.act j i).1, (m.act j i).2.unfed) :=
  act_withInput hi #[] 0 0

/-- Machines that differ in their inputs only answer an instruction alike. -/
theorem act_result_of_unfed (h : m.unfed = m'.unfed) (j : Jumps) (i : Instruction) :
    (m.act j i).1 = (m'.act j i).1 := by
  by_cases hi : i = .read
  · subst hi
    rfl
  · have hm := act_unfed (m := m) (j := j) hi
    rw [h, act_unfed hi] at hm
    exact (congrArg Prod.fst hm).symm

theorem unfed_act_read (m : Machine) (j : Jumps) :
    (m.act j .read).2.unfed = m.unfed.poke m.takeInput.1 := by
  show (m.takeInput.2.poke m.takeInput.1).unfed = m.unfed.poke m.takeInput.1
  unfold takeInput
  split <;> rfl

/-- They still differ in their inputs only, unless they have read different bytes. -/
theorem unfed_act (h : m.unfed = m'.unfed)
    (hread : i = .read → m.takeInput.1 = m'.takeInput.1) (j : Jumps) :
    (m.act j i).2.unfed = (m'.act j i).2.unfed := by
  by_cases hi : i = .read
  · subst hi
    rw [unfed_act_read, unfed_act_read, h, hread rfl]
  · have hm := act_unfed (m := m) (j := j) hi
    rw [h, act_unfed hi] at hm
    exact (congrArg Prod.snd hm).symm

/-- Two machines in the middle of a run, with an input each, that differ in nothing else after `n`
reads. -/
structure Abreast (p : Program) (input input' : Array UInt8) (eof eof' : UInt8) (n : ℕ)
    (m m' : Machine) : Prop where
  same : m.unfed = m'.unfed
  sound : m.Sound p
  fed : m.Fed input eof n
  fed' : m'.Fed input' eof' n

theorem abreast_start (p : Program) (shape : Tape.Shape) (input input' : Array UInt8)
    (eof eof' : UInt8) :
    Abreast p input input' eof eof' 0 (start shape eof input) (start shape eof' input') :=
  ⟨rfl, sound_start p shape eof input, fed_start shape eof input, fed_start shape eof' input'⟩

theorem Abreast.pc (h : Abreast p input input' eof eof' n m m') : m.pc = m'.pc :=
  (congrArg Machine.pc h.same :)

theorem Abreast.halted (h : Abreast p input input' eof eof' n m m') :
    m.halted p = m'.halted p := by
  simp only [Machine.halted, h.pc]

theorem Abreast.ptr_lt (h : Abreast p input input' eof eof' n m m') :
    m'.ptr < m'.tape.length := by
  have hptr : m.ptr = m'.ptr := (congrArg Machine.ptr h.same :)
  have htape : m.tape = m'.tape := (congrArg Machine.tape h.same :)
  rw [← hptr, ← htape]
  exact h.sound.ptr_lt

theorem Abreast.current (h : Abreast p input input' eof eof' n m m') (d : Dialect) :
    m.current p d = m'.current p d := by
  simp only [Machine.current, h.pc]

/-- The next instruction has one answer, even if it reads different bytes. -/
theorem Abreast.answer (h : Abreast p input input' eof eof' n m m') (j : Jumps) (d : Dialect) :
    (m.step p j d).1 = (m'.step p j d).1 := by
  rw [step_fst h.sound.ptr_lt, step_fst h.ptr_lt, h.current]
  exact act_result_of_unfed h.same j _

/-- **One instruction of two machines abreast** leaves them abreast, unless it reads different
bytes. -/
theorem Abreast.step {m₁ m₁' : Machine} {e' : Effect}
    (h : Abreast p input input' eof eof' n m m') (hj : Jumps.build p = .ok j)
    (hlive : m.halted p = false)
    (hread : m.current p d = .read → stream input eof n = stream input' eof' n)
    (hs : m.step p j d = (.ok e, m₁)) (hs' : m'.step p j d = (.ok e', m₁')) :
    Abreast p input input' eof eof' (n + if m.current p d = .read then 1 else 0) m₁ m₁' := by
  have hfed := h.fed.step h.sound.ptr_lt hs
  have hfed' := h.fed'.step h.ptr_lt hs'
  rw [← h.current] at hfed'
  refine ⟨?_, h.sound.of_step hj hlive hs, hfed, hfed'⟩
  obtain ⟨n₁, ha, rfl⟩ := exists_act_of_step h.sound.ptr_lt hs
  obtain ⟨n₁', ha', rfl⟩ := exists_act_of_step h.ptr_lt hs'
  rw [← h.current] at ha'
  have hsame : (m.act j (m.current p d)).2.unfed = (m'.act j (m.current p d)).2.unfed := by
    apply unfed_act h.same
    intro hi
    rw [h.fed.takeInput.1, h.fed'.takeInput.1, hread hi]
  rw [ha, ha'] at hsame
  exact congrArg advance hsame

/-! ## Two runs -/

/-- What a machine shows if its input is hidden: the rest of its state, and its answer to the next
instruction. -/
def seen (p : Program) (j : Jumps) (d : Dialect) (m : Machine) : Machine × Except Fault Effect :=
  (m.unfed, (m.step p j d).1)

/-- The first `k` instructions of the two runs are the same and have the same effects, and where they
lead, the machines differ in their inputs only. A run that ends before does so in both. -/
structure SameUpTo (p : Program) (j : Jumps) (d : Dialect) (k : ℕ) (m m' : Machine) : Prop where
  machines : (m.after? p j d k).map (seen p j d) = (m'.after? p j d k).map (seen p j d)
  executed : m.executed p j d k = m'.executed p j d k
  effects : (m.trace p j d k).map Prod.snd = (m'.trace p j d k).map Prod.snd

theorem SameUpTo.of_stopped (h : m.Stopped p j d) (h' : m'.Stopped p j d) :
    SameUpTo p j d (k + 1) m m' := by
  refine ⟨?_, ?_, ?_⟩
  · rw [h.after?_succ, h'.after?_succ]
  · rw [Machine.executed, Machine.executed, h.trace_succ, h'.trace_succ]
  · rw [h.trace_succ, h'.trace_succ]

theorem SameUpTo.of_ok {m₁ m₁' : Machine} (hpc : m.pc = m'.pc) (hlive : m.halted p = false)
    (hs : m.step p j d = (.ok e, m₁)) (hs' : m'.step p j d = (.ok e, m₁'))
    (h : SameUpTo p j d k m₁ m₁') : SameUpTo p j d (k + 1) m m' := by
  have hlive' : m'.halted p = false := by rwa [Machine.halted, ← hpc]
  obtain ⟨c, hc⟩ := exists_char hlive
  have hc' : p.char? m'.pc = some c := by rwa [← hpc]
  refine ⟨?_, ?_, ?_⟩
  · rw [after?_succ hlive hs, after?_succ hlive' hs', h.machines]
  · rw [executed_succ hlive hc hs, executed_succ hlive' hc' hs', h.executed]
  · rw [trace_succ hlive hs, trace_succ hlive' hs', List.map_cons, List.map_cons, h.effects]

/-- **Two runs go the same way** as long as their streams agree on what is read. -/
theorem Abreast.sameUpTo (h : Abreast p input input' eof eof' n m m') (hj : Jumps.build p = .ok j)
    (hstream : ∀ a < r, stream input eof a = stream input' eof' a)
    (hk : n + m.reads p j d k ≤ r) : SameUpTo p j d k m m' := by
  induction k generalizing m m' n with
  | zero => exact ⟨congrArg some (Prod.ext h.same (h.answer j d)), rfl, rfl⟩
  | succ k ih =>
    have hhalted := h.halted
    have hanswer := h.answer j d
    cases hlive : m.halted p with
    | true => exact .of_stopped (.inl hlive) (.inl (hhalted.symm.trans hlive))
    | false =>
      cases hs : m.step p j d with
      | mk res m₁ =>
        cases hs' : m'.step p j d with
        | mk res' m₁' =>
          rw [hs, hs'] at hanswer
          obtain rfl : res = res' := hanswer
          cases res with
          | error f =>
            exact .of_stopped (.inr ⟨f, congrArg Prod.fst hs⟩) (.inr ⟨f, congrArg Prod.fst hs'⟩)
          | ok e =>
            -- a read here is one of the `r` on which the streams agree
            rw [reads_succ hlive hs] at hk
            have hread : m.current p d = .read → stream input eof n = stream input' eof' n := by
              intro hi
              rw [if_pos hi] at hk
              exact hstream n (by omega)
            have hnext := h.step hj hlive hread hs hs'
            exact .of_ok h.pc hlive hs hs' (ih hnext (by omega))

/-- The same for runs from the beginning. -/
theorem sameUpTo_start (hj : Jumps.build p = .ok j) (shape : Tape.Shape)
    (hstream : ∀ a < (start shape eof input).reads p j d k,
      stream input eof a = stream input' eof' a) :
    SameUpTo p j d k (start shape eof input) (start shape eof' input') := by
  apply (abreast_start p shape input input' eof eof').sameUpTo hj hstream
  rw [Nat.zero_add]

end Machine

/-! ## Results -/

namespace Batch

open Machine

variable {p : Program} {j : Jumps} {m m' : Machine}

theorem ends_iff_seen {o : Outcome} : Ends (fun limit => run p j limit m) o ↔
    ∃ k u, (m.after? p j .classic k).map (seen p j .classic) = some u ∧
      u.1.halted p = true ∧ u.1.outcome = o := by
  rw [ends_iff]
  constructor
  · rintro ⟨k, n, hk, hend, ho⟩
    exact ⟨k, n.seen p j .classic, by rw [hk]; rfl, hend, ho⟩
  · rintro ⟨k, u, hk, hend, ho⟩
    obtain ⟨n, hn, rfl⟩ := Option.map_eq_some_iff.mp hk
    exact ⟨k, n, hn, hend, ho⟩

theorem fails_iff_seen {f : Fault} : Fails (fun limit => run p j limit m) f ↔
    ∃ k u, (m.after? p j .classic k).map (seen p j .classic) = some u ∧
      u.1.halted p = false ∧ u.2 = .error f := by
  rw [fails_iff]
  constructor
  · rintro ⟨k, n, hk, hlive, hf⟩
    exact ⟨k, n.seen p j .classic, by rw [hk]; rfl, hlive, hf⟩
  · rintro ⟨k, u, hk, hlive, hf⟩
    obtain ⟨n, hn, rfl⟩ := Option.map_eq_some_iff.mp hk
    exact ⟨k, n, hn, hlive, hf⟩

/-- The two machines have the same results: their batch runs hand back the same, or fail alike, or
neither of them comes to an end. -/
def SameResults (p : Program) (j : Jumps) (m m' : Machine) : Prop :=
  (∀ o, Ends (fun limit => run p j limit m) o ↔ Ends (fun limit => run p j limit m') o) ∧
  (∀ f, Fails (fun limit => run p j limit m) f ↔ Fails (fun limit => run p j limit m') f)

theorem sameResults_of_sameUpTo (h : ∀ k, SameUpTo p j .classic k m m') : SameResults p j m m' := by
  refine ⟨fun o => ?_, fun f => ?_⟩
  · simp only [ends_iff_seen, (h _).machines]
  · simp only [fails_iff_seen, (h _).machines]

end Batch

open Machine in
/-- **A run sees its input as the bytes given and `eof` from then on, and no more of it than it
reads.** A program whose brackets balance loads. After `k` instructions, in either dialect and on any
tape, the cursor is the number of reads, or the length of the input if that is less. Another input,
with another `eof`, whose stream begins with the same `r` bytes leads to the same machine but for the
input itself, with the same instructions executed, the same effects and the same answer to the next
instruction, until there have been more than `r` reads. So no result changes if bytes `eof` are
appended to the input, or if it is changed where no instruction reads it. -/
theorem input_seen_as_stream (p : Program) (hp : Balanced p.chars.toList) :
    ∃ j, Jumps.build p = .ok j ∧
      ∀ (d : Dialect) (shape : Tape.Shape) (input : Array UInt8) (eof : UInt8),
        (∀ k m, (start shape eof input).after? p j d k = some m →
          m.inputPos = min ((start shape eof input).reads p j d k) input.size) ∧
        (∀ input' eof' r, (∀ a < r, stream input eof a = stream input' eof' a) →
          ∀ k, (start shape eof input).reads p j d k ≤ r →
            SameUpTo p j d k (start shape eof input) (start shape eof' input')) ∧
        (∀ n, (∀ k, SameUpTo p j d k (start shape eof input)
            (start shape eof (input ++ Array.replicate n eof))) ∧
          Batch.SameResults p j (start shape eof input)
            (start shape eof (input ++ Array.replicate n eof))) ∧
        (∀ input' eof', (∀ k, ∀ a < (start shape eof input).reads p j d k,
            stream input eof a = stream input' eof' a) →
          (∀ k, SameUpTo p j d k (start shape eof input) (start shape eof' input')) ∧
          (d = .classic →
            Batch.SameResults p j (start shape eof input) (start shape eof' input'))) := by
  obtain ⟨t, ht⟩ := exists_tree_of_balanced hp
  have hj := Jumps.build_eq_ok_iff.mpr ⟨t, ht, rfl⟩
  refine ⟨_, hj, fun d shape input eof => ⟨?_, ?_, ?_, ?_⟩⟩
  · intro k m hk
    have hfed := (fed_start shape eof input).after? hj (sound_start p shape eof input) hk
    rw [hfed.inputPos, Nat.zero_add]
  · intro input' eof' r hstream k hk
    apply sameUpTo_start hj shape
    intro a ha
    exact hstream a (by omega)
  · intro n
    have hstream := stream_append_replicate input eof n
    have hsame := fun d k => sameUpTo_start (d := d) (k := k) hj shape fun a _ =>
      (congrFun hstream a).symm
    exact ⟨hsame d, Batch.sameResults_of_sameUpTo (hsame .classic)⟩
  · intro input' eof' hstream
    have hsame := fun k => sameUpTo_start hj shape (hstream k)
    refine ⟨hsame, ?_⟩
    rintro rfl
    exact Batch.sameResults_of_sameUpTo hsame

open Machine in
/-- A loop that copies its input until it reads a zero. The zero comes from behind the end of one
input and from the middle of the other. -/
theorem input_seen_as_stream_across_end : ∃ p j m m',
    p = Program.ofString ",[.,]" ∧ Balanced p.chars.toList ∧ Jumps.build p = .ok j ∧
    (start ⟨1, .fixed⟩ 0 #[7, 8]).reads p j .classic 8 = 3 ∧
    (∀ a < 3, stream #[7, 8] 0 a = stream #[7, 8, 0, 5] 9 a) ∧
    (start ⟨1, .fixed⟩ 0 #[7, 8]).after? p j .classic 8 = some m ∧
    (start ⟨1, .fixed⟩ 9 #[7, 8, 0, 5]).after? p j .classic 8 = some m' ∧
    m.unfed = m'.unfed ∧ m.stdout = #[7, 8] ∧ m.inputPos = 2 ∧ m'.inputPos = 3 := by
  have hp : Balanced (Program.ofString ",[.,]").chars.toList := by decide
  obtain ⟨j, hj, h⟩ := input_seen_as_stream _ hp
  obtain rfl : ⟨#[none, some 4, none, none, some 1]⟩ = j :=
    Except.ok.inj ((by decide : _ = _).symm.trans hj)
  obtain ⟨hpos, hsame, -⟩ := h .classic ⟨1, .fixed⟩ #[7, 8] 0
  obtain ⟨hpos', -⟩ := h .classic ⟨1, .fixed⟩ #[7, 8, 0, 5] 9
  have hreads : (start ⟨1, .fixed⟩ 0 #[7, 8]).reads (Program.ofString ",[.,]")
      ⟨#[none, some 4, none, none, some 1]⟩ .classic 8 = 3 := by decide
  have hstream : ∀ a < 3, stream #[7, 8] 0 a = stream #[7, 8, 0, 5] 9 a := by decide
  have h₈ := hsame #[7, 8, 0, 5] 9 3 hstream 8 hreads.le
  have hreads' := hreads
  rw [reads, h₈.executed, ← reads] at hreads'
  have hmachines := h₈.machines
  generalize hm : (start ⟨1, .fixed⟩ 0 #[7, 8]).after? _ _ .classic 8 = r at hmachines
  generalize hm' : (start ⟨1, .fixed⟩ 9 #[7, 8, 0, 5]).after? _ _ .classic 8 = r' at hmachines
  obtain rfl : some ⟨5, 0, ⟨#[0], 1⟩, .fixed, #[7, 8], 2, 0, 8, #[7, 8], #[]⟩ = r := by
    rw [← hm]
    decide
  obtain ⟨m', rfl, hseen⟩ := Option.map_eq_some_iff.mp hmachines.symm
  have hcursor := hpos 8 _ hm
  have hcursor' := hpos' 8 m' hm'
  rw [hreads] at hcursor
  rw [hreads'] at hcursor'
  exact ⟨_, _, _, m', rfl, hp, hj, hreads, hstream, hm, hm', (congrArg Prod.fst hseen).symm, rfl,
    hcursor, hcursor'⟩

end Tapewalk
