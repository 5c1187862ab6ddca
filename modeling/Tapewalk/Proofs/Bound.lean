import Tapewalk.Proofs.Padding

/-!
# Tapes with a bound

A tape that may not grow is a growable one that is cut at its length. Only a move past the last cell
looks at the growth of a tape (`Machine.act_withGrowth`), so the two runs stand at the same machine
as long as the growable tape keeps its length, and where it would grow the other run fails
(`Machine.after?_fixed_iff`, `Machine.fails_where_grown`). A longer bound is passed later, if at
all.
-/

namespace Tapewalk

namespace Machine

variable {p : Program} {j : Jumps} {m m' n : Machine} {d : Dialect} {i : Instruction} {g : Growth}
  {k : ℕ}

/-- The machine with another growth of its tape. -/
def withGrowth (m : Machine) (g : Growth) : Machine := { m with growth := g }

/-! ## One instruction -/

/-- Only a move past the last cell depends on the growth. -/
theorem act_withGrowth (hi : i = .moveRight → m.ptr + 1 < m.tape.length) (g : Growth) :
    (m.withGrowth g).act j i = ((m.act j i).1, (m.act j i).2.withGrowth g) := by
  have h : Transparent (withGrowth · g) := ⟨fun _ _ _ => rfl, fun _ _ => rfl⟩
  refine h.act (fun _ => jump_of_pc (withGrowth · g) rfl fun _ => rfl) (fun hr => .inl (hi hr)) (fun _ => ?_)
    fun _ => rfl
  simp only [takeInput, withGrowth]
  split <;> rfl

theorem step_withGrowth (h : m.ptr < m.tape.length)
    (hi : m.current p d = .moveRight → m.ptr + 1 < m.tape.length) (g : Growth) :
    (m.withGrowth g).step p j d = ((m.step p j d).1, (m.step p j d).2.withGrowth g) := by
  have hact := act_withGrowth (j := j) hi g
  rcases step_cases (p := p) (j := j) (d := d) h with ⟨e, m', ha, hs⟩ | ⟨f, ha, hs⟩
  · rw [ha] at hact
    rw [hs]
    exact step_ok (m := m.withGrowth g) h hact
  · rw [hs]
    exact step_error (m := m.withGrowth g) h (by rw [← ha, ← congrArg Prod.fst hact]; rfl)

/-- **One instruction on both tapes**: it does the same, and the growable tape keeps its length, or
it makes that tape longer and fails on the other one. -/
theorem Sound.step_fixed (h : m.Sound p) (hg : m.growth = .growable) :
    ((m.step p j d).2.tape.length = m.tape.length ∧
      (m.withGrowth .fixed).step p j d = ((m.step p j d).1, (m.step p j d).2.withGrowth .fixed)) ∨
    ((m.step p j d).2.tape.length = m.tape.length + 1 ∧ (m.step p j d).1 = .ok .none ∧
      (m.withGrowth .fixed).step p j d =
        (.error (.pastEnd m.tape.length m.tape.length), m.withGrowth .fixed)) := by
  have hlt := h.ptr_lt
  by_cases hi : m.current p d = .moveRight → m.ptr + 1 < m.tape.length
  · left
    have hs := step_withGrowth (j := j) hlt hi .fixed
    refine ⟨?_, hs⟩
    -- a fixed tape keeps its length, and here it has the length of the other one
    have hlen := length_step (m := m.withGrowth .fixed) (p := p) (j := j) (d := d) hlt
    rw [hs] at hlen
    exact hlen
  · right
    obtain ⟨hi, hn⟩ := Classical.not_imp.mp hi
    have hend : m.ptr + 1 = m.tape.length := by omega
    have hok : m.act j (m.current p d) =
        (.ok .none, { m with ptr := m.ptr + 1, tape := m.tape.push 0 }) := by
      rw [hi]
      exact moveRight_of_growable hn hg
    have hfail : ((m.withGrowth .fixed).act j (m.current p d)).1 =
        .error (.pastEnd (m.ptr + 1) m.tape.length) := by
      rw [hi]
      exact congrArg Prod.fst (moveRight_of_fixed (m := m.withGrowth .fixed) hn rfl)
    rw [hend] at hfail
    rw [step_ok hlt hok]
    exact ⟨Tape.length_push _ _, rfl, step_error (m := m.withGrowth .fixed) hlt hfail⟩

/-! ## Many instructions -/

/-- A tape never gets shorter. -/
theorem length_le_step (h : m.ptr < m.tape.length) :
    m.tape.length ≤ (m.step p j d).2.tape.length := by
  rw [length_step h]
  cases m.growth with
  | growable => exact le_max_left _ _
  | fixed => exact le_rfl

theorem growth_step (h : m.ptr < m.tape.length) : (m.step p j d).2.growth = m.growth :=
  (step_frame h).1

/-- What every instruction keeps, a run keeps. -/
theorem Sound.after?_induction {P : Machine → Prop} (h : m.Sound p) (hj : Jumps.build p = .ok j)
    (hstep : ∀ n, n.Sound p → P n → P (n.step p j d).2) (hm : P m)
    (hk : m.after? p j d k = some m') : P m' := by
  induction k generalizing m with
  | zero => obtain rfl := Option.some.inj hk; exact hm
  | succ k ih =>
    obtain ⟨hlive, e, m₁, hs, hrest⟩ := after?_succ_eq_some_iff.mp hk
    have hsound := h.step hj hlive d
    have hnext := hstep m h hm
    rw [hs] at hsound hnext
    exact ih hsound hnext hrest

theorem growth_after? (hj : Jumps.build p = .ok j) (h : m.Sound p)
    (hk : m.after? p j d k = some m') : m'.growth = m.growth :=
  h.after?_induction hj (fun _ hn hg => (growth_step hn.ptr_lt).trans hg) rfl hk

theorem length_le_after? (hj : Jumps.build p = .ok j) (h : m.Sound p)
    (hk : m.after? p j d k = some m') : m.tape.length ≤ m'.tape.length :=
  h.after?_induction (P := fun n => m.tape.length ≤ n.tape.length) hj
    (fun _ hn hle => hle.trans (length_le_step hn.ptr_lt)) le_rfl hk

/-- **The run on a fixed tape is the run on a growable one**, as long as that tape keeps its
length. -/
theorem after?_fixed_iff (hj : Jumps.build p = .ok j) (h : m.Sound p) (hg : m.growth = .growable) :
    (m.withGrowth .fixed).after? p j d k = some n ↔
      ∃ m', m.after? p j d k = some m' ∧ m'.tape.length = m.tape.length ∧
        n = m'.withGrowth .fixed := by
  induction k generalizing m with
  | zero =>
    simp only [after?_zero, Option.some.injEq]
    constructor
    · rintro rfl
      exact ⟨m, rfl, rfl, rfl⟩
    · rintro ⟨_, rfl, -, rfl⟩
      rfl
  | succ k ih =>
    cases hm : m.halted p with
    | true => simp [after?_succ_of_halted hm, after?_succ_of_halted (m := m.withGrowth .fixed) hm]
    | false =>
      have hsound := h.step hj hm d
      have hgrowth := (growth_step (p := p) (j := j) (d := d) h.ptr_lt).trans hg
      rcases h.step_fixed (j := j) (d := d) hg with ⟨hlen, hs⟩ | ⟨hlen, hok, hs⟩
      · cases hstep : m.step p j d with
        | mk r m₁ =>
          rw [hstep] at hsound hgrowth hlen hs
          cases r with
          | ok e =>
            rw [after?_succ hm hstep, after?_succ (m := m.withGrowth .fixed) hm hs,
              ih hsound hgrowth, hlen]
          | error f =>
            have hf : (m.step p j d).1 = .error f := by rw [hstep]
            rw [after?_succ_of_error hf, after?_succ_of_error (congrArg Prod.fst hs)]
            simp
      · -- the tape has grown, and stays longer than it was
        rw [after?_succ_of_error (congrArg Prod.fst hs)]
        constructor
        · exact nofun
        · rintro ⟨m', hk, hsame, -⟩
          obtain ⟨-, e, m₁, hstep, hrest⟩ := after?_succ_eq_some_iff.mp hk
          rw [hstep] at hsound hlen
          have hle := length_le_after? hj hsound hrest
          omega

/-- Where a growable tape has grown, the run on the fixed one has failed before, at the first step
past its end. -/
theorem fails_where_grown (hj : Jumps.build p = .ok j) (h : m.Sound p) (hg : m.growth = .growable)
    (hk : m.after? p j d k = some m') (hlen : m'.tape.length ≠ m.tape.length) :
    ∃ a n, (m.withGrowth .fixed).after? p j d a = some n ∧ n.halted p = false ∧
      (n.step p j d).1 = .error (.pastEnd m.tape.length m.tape.length) := by
  induction k generalizing m with
  | zero =>
    obtain rfl := Option.some.inj hk
    exact absurd rfl hlen
  | succ k ih =>
    obtain ⟨hlive, e, m₁, hstep, hrest⟩ := after?_succ_eq_some_iff.mp hk
    rcases h.step_fixed (j := j) (d := d) hg with ⟨hsame, hs⟩ | ⟨-, -, hs⟩
    · have hsound := h.step hj hlive d
      have hgrowth := (growth_step (p := p) (j := j) (d := d) h.ptr_lt).trans hg
      rw [hstep] at hsound hgrowth hsame hs
      obtain ⟨a, n, ha, hn, hf⟩ := ih hsound hgrowth hrest (by omega)
      rw [hsame] at hf
      exact ⟨a + 1, n, by rw [after?_succ (m := m.withGrowth .fixed) hlive hs, ha], hn, hf⟩
    · exact ⟨0, _, rfl, hlive, congrArg Prod.fst hs⟩

/-- A growable tape keeps its length while the pointer stays on the cells that it began with. -/
theorem length_after?_of_ptr_lt (hj : Jumps.build p = .ok j) (h : m.Sound p)
    (hg : m.growth = .growable)
    (hptr : ∀ i ≤ k, ∀ n, m.after? p j d i = some n → n.ptr < m.tape.length)
    (hk : m.after? p j d k = some m') : m'.tape.length = m.tape.length := by
  induction k generalizing m with
  | zero => obtain rfl := Option.some.inj hk; rfl
  | succ k ih =>
    obtain ⟨hlive, e, m₁, hs, hrest⟩ := after?_succ_eq_some_iff.mp hk
    have hafter : ∀ i, m.after? p j d (i + 1) = m₁.after? p j d i := fun i => after?_succ hlive hs
    have hsound := h.step hj hlive d
    have hgrowth := (growth_step (p := p) (j := j) (d := d) h.ptr_lt).trans hg
    have hlen := length_step (p := p) (j := j) (d := d) h.ptr_lt
    rw [hs] at hsound hgrowth hlen
    rw [hg] at hlen
    have hlt := hptr 1 (by omega) m₁ (hafter 0)
    have hsame : m₁.tape.length = m.tape.length := by
      simp only at hlen
      omega
    rw [← hsame]
    refine ih hsound hgrowth (fun i hi n hn => ?_) hrest
    rw [hsame]
    exact hptr (i + 1) (by omega) n (by rw [hafter, hn])

/-! ## Two bounds -/

/-- Of two twins the one with the longer tape does not grow before the other one does. -/
theorem Twins.after?_of_le (h : Twins p m m') (hj : Jumps.build p = .ok j)
    (hle : m.tape.length ≤ m'.tape.length) (hk : m.after? p j d k = some n)
    (hlen : n.tape.length = m.tape.length) :
    ∃ n', m'.after? p j d k = some n' ∧ n'.tape.length = m'.tape.length ∧ Twins p n n' := by
  induction k generalizing m m' with
  | zero =>
    obtain rfl := Option.some.inj hk
    exact ⟨m', rfl, rfl, h⟩
  | succ k ih =>
    obtain ⟨hlive, e, m₁, hstep, hrest⟩ := after?_succ_eq_some_iff.mp hk
    have hlive' : m'.halted p = false := (h.halted p).symm.trans hlive
    rcases h.step hj hlive d with ⟨e, m₂, m₂', hs, hs', htwins⟩ | ⟨hs, -⟩
    · rw [hs] at hstep
      obtain ⟨-, rfl⟩ := Prod.mk.inj hstep
      have hsame : m₂.tape.length = m.tape.length := by
        have hgrown := length_le_step (p := p) (j := j) (d := d) h.sound.ptr_lt
        have hlater := length_le_after? hj htwins.sound hrest
        rw [hs] at hgrown
        exact le_antisymm (hlater.trans hlen.le) hgrown
      -- the pointer of both stands below the length of the shorter tape
      have hsame' : m₂'.tape.length = m'.tape.length := by
        have hgrown := length_step (p := p) (j := j) (d := d) h.sound'.ptr_lt
        have hptr := htwins.sound.ptr_lt
        rw [hs', h.growable'] at hgrown
        rw [htwins.ptr] at hptr
        simp only at hgrown
        omega
      obtain ⟨n', hn', hlen', hnn⟩ := ih htwins (by omega) hrest (by omega)
      exact ⟨n', by rw [after?_succ hlive' hs', hn'], by omega, hnn⟩
    · rw [hs] at hstep
      cases hstep

end Machine

/-! ## Batch runs -/

namespace Batch

open Machine

variable {p : Program} {j : Jumps} {o : Outcome}

theorem ends_fixed_iff (hj : Jumps.build p = .ok j) (n : ℕ) (eof : UInt8) (input : Array UInt8) :
    Ends (fun limit => run p j limit (.start ⟨n, .fixed⟩ eof input)) o ↔
      Ends (fun limit => run p j limit (.start ⟨n, .growable⟩ eof input)) o ∧
        o.tape.length = max 1 n := by
  have hiff := fun k m => after?_fixed_iff (d := .classic) (k := k) (n := m) hj
    (sound_start p ⟨n, .growable⟩ eof input) rfl
  rw [ends_iff, ends_iff]
  constructor
  · rintro ⟨k, m, hm, hend, rfl⟩
    obtain ⟨m', hm', hlen, rfl⟩ := (hiff k m).mp hm
    exact ⟨⟨k, m', hm', hend, rfl⟩, hlen⟩
  · rintro ⟨⟨k, m, hm, hend, rfl⟩, hlen⟩
    exact ⟨k, _, (hiff k _).mpr ⟨m, hm, hlen, rfl⟩, hend, rfl⟩

/-- A longer bound changes nothing in a run that ends. -/
theorem ends_fixed_of_le (hj : Jumps.build p = .ok j) {n n' : ℕ} (hn : n ≤ n') {eof : UInt8}
    {input : Array UInt8}
    (h : Ends (fun limit => run p j limit (.start ⟨n, .fixed⟩ eof input)) o) :
    ∃ o', Ends (fun limit => run p j limit (.start ⟨n', .fixed⟩ eof input)) o' ∧
      o'.stdout = o.stdout ∧ o'.cycles = o.cycles ∧ o'.ptr = o.ptr := by
  rw [ends_fixed_iff hj, ends_iff] at h
  obtain ⟨⟨k, m, hm, hend, rfl⟩, hlen⟩ := h
  have hle : max 1 n ≤ max 1 n' := by omega
  obtain ⟨m', hm', hlen', htwins⟩ :=
    (twins_start p n n' eof input).after?_of_le hj hle hm hlen
  refine ⟨m'.outcome, (ends_fixed_iff hj n' eof input).mpr ⟨?_, hlen'⟩, htwins.stdout.symm,
    htwins.cycles.symm, htwins.ptr.symm⟩
  exact ends_iff.mpr ⟨k, m', hm', (htwins.halted p).symm.trans hend, rfl⟩

end Batch

open Machine Batch in
/-- **A fixed tape is a growable one that is cut at its length.** A program whose brackets balance
loads, and its runs on the two tapes stand at the same machine, their growth apart, as long as the
growable tape has the length that it began with; tapes never get shorter, so then it has never
grown. From there the next instruction does the same in both, or it makes the growable tape longer:
then it fails on the fixed one, with the index and the length at which the tape ends, and changes
nothing. A batch run ends on a fixed tape exactly if it ends on a growable one that has not grown,
with the same outcome, and then it ends on every longer fixed tape with the same output, cycles and
pointer. -/
theorem fixed_tape_cuts_growable (p : Program) (hp : Balanced p.chars.toList) :
    ∃ j, Jumps.build p = .ok j ∧ ∀ (eof : UInt8) (input : Array UInt8) (n : ℕ),
      (∀ d k m, (start ⟨n, .growable⟩ eof input).after? p j d k = some m →
        max 1 n ≤ m.tape.length ∧ (m.tape.length = max 1 n →
          (start ⟨n, .fixed⟩ eof input).after? p j d k = some (m.withGrowth .fixed) ∧
          (m.halted p = false →
            ((m.step p j d).2.tape.length = max 1 n →
              (m.withGrowth .fixed).step p j d =
                ((m.step p j d).1, (m.step p j d).2.withGrowth .fixed)) ∧
            ((m.step p j d).2.tape.length ≠ max 1 n →
              (m.withGrowth .fixed).step p j d =
                (.error (.pastEnd (max 1 n) (max 1 n)), m.withGrowth .fixed))))) ∧
      (∀ d k m, (start ⟨n, .fixed⟩ eof input).after? p j d k = some m →
        (start ⟨n, .growable⟩ eof input).after? p j d k = some (m.withGrowth .growable) ∧
        m.tape.length = max 1 n) ∧
      (max 1 n < signedBound →
        Fault.pastEnd (max 1 n) (max 1 n) = .outOfRange (max 1 n : ℕ) (max 1 n)) ∧
      (∀ o, Ends (fun limit => run p j limit (.start ⟨n, .fixed⟩ eof input)) o ↔
        Ends (fun limit => run p j limit (.start ⟨n, .growable⟩ eof input)) o ∧
          o.tape.length = max 1 n) ∧
      (∀ o, Ends (fun limit => run p j limit (.start ⟨n, .fixed⟩ eof input)) o → ∀ n' ≥ n,
        ∃ o', Ends (fun limit => run p j limit (.start ⟨n', .fixed⟩ eof input)) o' ∧
          o'.stdout = o.stdout ∧ o'.cycles = o.cycles ∧ o'.ptr = o.ptr) := by
  obtain ⟨t, ht⟩ := exists_tree_of_balanced hp
  have hj := Jumps.build_eq_ok_iff.mpr ⟨t, ht, rfl⟩
  refine ⟨_, hj, fun eof input n => ⟨fun d k m hm => ?_, fun d k m hm => ?_, fun hn => ?_,
    fun o => ends_fixed_iff hj n eof input, fun o ho n' hn => ends_fixed_of_le hj hn ho⟩⟩
  · have h₀ := sound_start p ⟨n, .growable⟩ eof input
    have hsound := after?_sound hj h₀ hm
    have hgrowth : m.growth = .growable := growth_after? hj h₀ hm
    refine ⟨length_le_after? hj h₀ hm, fun hlen => ⟨?_, fun _ => ?_⟩⟩
    · exact (after?_fixed_iff hj h₀ rfl).mpr ⟨m, hm, hlen, rfl⟩
    · rw [← hlen]
      rcases hsound.step_fixed hgrowth with ⟨hsame, hs⟩ | ⟨hgrown, -, hs⟩
      · exact ⟨fun _ => hs, fun hne => absurd hsame hne⟩
      · exact ⟨fun hsame => by omega, fun _ => hs⟩
  · obtain ⟨m', hm', hlen, rfl⟩ :=
      (after?_fixed_iff hj (sound_start p ⟨n, .growable⟩ eof input) rfl).mp hm
    have hgrowth : m'.growth = .growable := growth_after? hj (sound_start p _ eof input) hm'
    refine ⟨?_, hlen⟩
    rw [hm', ← hgrowth]
    rfl
  · rw [Fault.pastEnd, Fault.signedIndex_of_lt hn]

open Machine Batch in
/-- Two cells: a program that ends on the second one, and one that goes on past it. -/
theorem fixed_tape_cuts_growable_at_two :
    Balanced (Program.ofString "+[>]<").chars.toList ∧
    Balanced (Program.ofString "+>>").chars.toList ∧
    (∃ j o o', Jumps.build (.ofString "+[>]<") = .ok j ∧ o.cycles = 5 ∧
      Ends (fun limit => run (.ofString "+[>]<") j limit (.start ⟨2, .fixed⟩ 0 #[])) o ∧
      Ends (fun limit => run (.ofString "+[>]<") j limit (.start ⟨9, .fixed⟩ 0 #[])) o' ∧
      o'.cycles = o.cycles) ∧
    ∃ j m, Jumps.build (.ofString "+>>") = .ok j ∧
      (start ⟨2, .fixed⟩ 0 #[]).after? (.ofString "+>>") j .extended 2 = some m ∧
      m.step (.ofString "+>>") j .extended = (.error (.outOfRange 2 2), m) := by
  have hloop : Balanced (Program.ofString "+[>]<").chars.toList := by decide
  have hwalk : Balanced (Program.ofString "+>>").chars.toList := by decide
  refine ⟨hloop, hwalk, ?_, ?_⟩
  · obtain ⟨j, hj, h⟩ := fixed_tape_cuts_growable _ hloop
    obtain rfl := Except.ok.inj hj
    obtain ⟨-, -, -, -, hlonger⟩ := h 0 #[] 2
    have hends := hlonger _ ⟨5, _, rfl, rfl⟩ 9 (by decide)
    obtain ⟨o', ho', -, hcycles, -⟩ := hends
    exact ⟨_, _, o', hj, rfl, ⟨5, _, rfl, rfl⟩, ho', hcycles⟩
  · obtain ⟨j, hj, h⟩ := fixed_tape_cuts_growable _ hwalk
    obtain rfl := Except.ok.inj hj
    obtain ⟨hlock, -, hsmall, -⟩ := h 0 #[] 2
    obtain ⟨hsame, hnext⟩ := (hlock .extended 2 _ rfl).2 rfl
    have hfail := (hnext rfl).2 (by decide)
    rw [hsmall (by decide)] at hfail
    exact ⟨_, _, hj, hsame, hfail⟩

end Tapewalk
