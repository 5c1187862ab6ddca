import Mathlib.Logic.Function.Basic
import Tapewalk.Proofs.Reachable
import Tapewalk.Proofs.Trace

/-!
# The length that a growable tape begins with

A cell that the tape does not have yet counts as zero (`Tape.padded`). Growth appends zeros, so it
does not show, and neither does the length that a run begins with: two machines that differ only in
it stay alike, instruction by instruction (`Machine.Twins`).
-/

namespace Tapewalk

namespace Tape

variable {t : Tape} {i : ℕ}

/-- The cells, and zeros behind the last one. -/
def padded (t : Tape) (i : ℕ) : UInt8 := t.cells.getD i 0

theorem padded_ofLength (n : ℕ) : (ofLength n).padded = fun _ => 0 := by
  funext i
  rw [padded, cells_ofLength, Array.getD_eq_getD_getElem?, Array.getElem?_replicate]
  split <;> rfl

theorem padded_write (hi : i < t.length) (hfits : t.length ≤ t.capacity) (v : UInt8) :
    (t.write i v).padded = Function.update t.padded i v := by
  have hsize : i < t.cells.size := by
    rw [size_cells hfits]
    exact hi
  funext k
  rw [padded, cells_write, Array.getD_eq_getD_getElem?, Array.getElem?_setIfInBounds]
  by_cases hk : k = i
  · subst hk
    rw [if_pos rfl, if_pos hsize, Function.update_self]
    rfl
  · rw [if_neg (Ne.symm hk), Function.update_of_ne hk, ← Array.getD_eq_getD_getElem?, padded]

/-- Growth does not show. -/
theorem padded_push (hfits : t.length ≤ t.capacity) (hpos : 0 < t.length) :
    (t.push 0).padded = t.padded := by
  funext k
  rw [padded, cells_push hfits (by omega), Array.getD_eq_getD_getElem?, Array.getElem?_push, padded,
    Array.getD_eq_getD_getElem?]
  by_cases hk : k = t.cells.size
  · rw [if_pos hk, Array.getElem?_eq_none (by omega)]
    rfl
  · rw [if_neg hk]

end Tape

namespace Machine

variable {p : Program} {j : Jumps} {m m' : Machine} {d : Dialect} {f : Fault}

/-! ## Machines that differ in their padding -/

/-- The two machines have all in common but the number of zeros at the end of the tape. -/
structure Alike (m m' : Machine) : Prop where
  pc : m.pc = m'.pc
  ptr : m.ptr = m'.ptr
  tape : m.tape.padded = m'.tape.padded
  input : m.input = m'.input
  inputPos : m.inputPos = m'.inputPos
  eof : m.eof = m'.eof
  cycles : m.cycles = m'.cycles
  stdout : m.stdout = m'.stdout
  stderr : m.stderr = m'.stderr

/-- Two machines in the middle of a run on tapes that grow. -/
structure Twins (p : Program) (m m' : Machine) : Prop extends Alike m m' where
  sound : m.Sound p
  sound' : m'.Sound p
  growable : m.growth = .growable
  growable' : m'.growth = .growable

/-- The answers to an instruction of two machines: one effect, or a fault each. -/
inductive Agree : Except Fault Effect × Machine → Except Fault Effect × Machine → Prop
  | ok {n n' : Machine} (e : Effect) : n.Alike n' → Agree (.ok e, n) (.ok e, n')
  | error {n n' : Machine} (f f' : Fault) : Agree (.error f, n) (.error f', n')

theorem byte_eq_padded (h : m.ptr < m.tape.length) : m.byte = m.tape.padded m.ptr :=
  (Tape.getD_cells h).symm

theorem Twins.byte (h : Twins p m m') : m.byte = m'.byte := by
  rw [byte_eq_padded h.sound.ptr_lt, byte_eq_padded h.sound'.ptr_lt, h.tape, h.ptr]

theorem Alike.poke (h : m.Alike m') (hlt : m.ptr < m.tape.length) (hlt' : m'.ptr < m'.tape.length)
    (hfits : m.tape.length ≤ m.tape.capacity) (hfits' : m'.tape.length ≤ m'.tape.capacity)
    (v : UInt8) : (m.poke v).Alike (m'.poke v) := by
  have htape : (m.poke v).tape.padded = (m'.poke v).tape.padded := by
    show (m.tape.write m.ptr v).padded = (m'.tape.write m'.ptr v).padded
    rw [Tape.padded_write hlt hfits, Tape.padded_write hlt' hfits', h.tape, h.ptr]
  exact { h with tape := htape }

theorem Alike.takeInput (h : m.Alike m') :
    m.takeInput.1 = m'.takeInput.1 ∧ m.takeInput.2.Alike m'.takeInput.2 := by
  have hnext : m'.input[m'.inputPos]? = m.input[m.inputPos]? := by rw [h.input, h.inputPos]
  unfold Machine.takeInput
  rw [hnext]
  cases m.input[m.inputPos]? with
  | some b => exact ⟨rfl, { h with inputPos := congrArg (· + 1) h.inputPos }⟩
  | none => exact ⟨h.eof, h⟩

theorem Alike.jump (h : m.Alike m') (j : Jumps) : Agree (m.jump j) (m'.jump j) := by
  unfold Machine.jump
  rw [← h.pc]
  cases j.partner? m.pc with
  | some target => exact .ok _ { h with pc := rfl }
  | none => exact .error _ _

/-- A move up goes to the next cell, and it does not matter whether that was there. -/
theorem Sound.moveRight_growable (h : m.Sound p) (hg : m.growth = .growable) :
    ∃ t : Tape, t.padded = m.tape.padded ∧
      m.moveRight = (.ok .none, { m with ptr := m.ptr + 1, tape := t }) := by
  by_cases hn : m.ptr + 1 < m.tape.length
  · exact ⟨m.tape, rfl, moveRight_of_lt hn⟩
  · have hpos : 0 < m.tape.length := Nat.zero_lt_of_lt h.ptr_lt
    exact ⟨m.tape.push 0, Tape.padded_push h.fits hpos, moveRight_of_growable hn hg⟩

/-! ## One instruction -/

theorem Twins.act (h : Twins p m m') (j : Jumps) (i : Instruction) :
    Agree (m.act j i) (m'.act j i) := by
  have hpoke := h.toAlike.poke h.sound.ptr_lt h.sound'.ptr_lt h.sound.fits h.sound'.fits
  cases i with
  | increment | decrement =>
    simp only [Machine.act, h.byte]
    exact .ok _ (hpoke _)
  | moveRight =>
    -- one of the tapes may have to grow here, and the other one not
    obtain ⟨t, ht, hr⟩ := h.sound.moveRight_growable h.growable
    obtain ⟨t', ht', hr'⟩ := h.sound'.moveRight_growable h.growable'
    simp only [Machine.act, hr, hr']
    exact .ok _ { h.toAlike with
      ptr := congrArg (· + 1) h.ptr
      tape := ht.trans (h.tape.trans ht'.symm) }
  | moveLeft =>
    simp only [Machine.act]
    by_cases hz : m.ptr = 0
    · rw [moveLeft_of_zero hz, moveLeft_of_zero (h.ptr ▸ hz)]
      exact .error _ _
    · rw [moveLeft_of_pos hz, moveLeft_of_pos (h.ptr ▸ hz)]
      exact .ok _ { h.toAlike with ptr := congrArg (· - 1) h.ptr }
  | loopStart | loopEnd =>
    simp only [Machine.act, h.byte]
    split
    all_goals first
      | exact h.toAlike.jump j
      | exact .ok _ h.toAlike
  | read =>
    obtain ⟨hbyte, hin⟩ := h.toAlike.takeInput
    simp only [Machine.act, hbyte]
    refine .ok _ (hin.poke ?_ ?_ ?_ ?_ _)
    · simpa using h.sound.ptr_lt
    · simpa using h.sound'.ptr_lt
    · simpa using h.sound.fits
    · simpa using h.sound'.fits
  | write =>
    simp only [Machine.act, h.byte]
    exact .ok _ { h.toAlike with stdout := by rw [h.stdout] }
  | writeSecondary =>
    simp only [Machine.act, h.byte]
    exact .ok _ { h.toAlike with stderr := by rw [h.stderr] }
  | breakpoint | comment => exact .ok _ h.toAlike

theorem Alike.advance (h : m.Alike m') : m.advance.Alike m'.advance :=
  { h with pc := congrArg (· + 1) h.pc, cycles := congrArg (· + 1) h.cycles }

theorem Alike.halted (h : m.Alike m') (p : Program) : m.halted p = m'.halted p := by
  simp only [Machine.halted, h.pc]

/-- On a tape that grows only the low end can stop a run. -/
theorem Sound.step_error_growable (h : m.Sound p) (hj : Jumps.build p = .ok j)
    (hg : m.growth = .growable) (hf : (m.act j (m.current p d)).1 = .error f) :
    m.step p j d = (.error (.belowZero m.tape.length), m) := by
  have hstep := step_error h.ptr_lt hf
  rw [hstep]
  rcases (h.step_error_iff hj).mp (congrArg Prod.fst hstep) with ⟨-, -, rfl⟩ | ⟨-, hfixed, -⟩
  · rfl
  · rw [hg] at hfixed
    cases hfixed

/-- **One instruction of two twins**: one effect and twins again, or a move below the first cell of
both. -/
theorem Twins.step (h : Twins p m m') (hj : Jumps.build p = .ok j) (hlive : m.halted p = false)
    (d : Dialect) :
    (∃ e n n', m.step p j d = (.ok e, n) ∧ m'.step p j d = (.ok e, n') ∧ Twins p n n') ∨
    (m.step p j d = (.error (.belowZero m.tape.length), m) ∧
      m'.step p j d = (.error (.belowZero m'.tape.length), m')) := by
  have hlive' : m'.halted p = false := (h.halted p).symm.trans hlive
  have hcur : m'.current p d = m.current p d := by simp only [current, h.pc]
  have hact := h.act j (m.current p d)
  cases ha : m.act j (m.current p d)
  cases ha' : m'.act j (m.current p d)
  rw [ha, ha'] at hact
  rw [← hcur] at ha'
  cases hact with
  | ok e hn =>
    have hgrowth := (act_ok h.sound.ptr_lt ha).growth.trans h.growable
    have hgrowth' := (act_ok h.sound'.ptr_lt ha').growth.trans h.growable'
    exact .inl ⟨e, _, _, step_ok h.sound.ptr_lt ha, step_ok h.sound'.ptr_lt ha', hn.advance,
      h.sound.of_act hj hlive ha, h.sound'.of_act hj hlive' ha', hgrowth, hgrowth'⟩
  | error f f' =>
    -- the faults may differ in the length that they report, and in nothing else
    exact .inr ⟨h.sound.step_error_growable hj h.growable (congrArg Prod.fst ha),
      h.sound'.step_error_growable hj h.growable' (congrArg Prod.fst ha')⟩

/-! ## Many instructions -/

/-- **Twins stay twins**, or both runs have ended before. -/
theorem Twins.after? (h : Twins p m m') (hj : Jumps.build p = .ok j) (d : Dialect) (k : ℕ) :
    Option.Rel (Twins p) (m.after? p j d k) (m'.after? p j d k) ∧
    (m.trace p j d k).map Prod.snd = (m'.trace p j d k).map Prod.snd := by
  induction k generalizing m m' with
  | zero => exact ⟨.some h, rfl⟩
  | succ k ih =>
    have hh := h.halted p
    cases hm : m.halted p with
    | true =>
      rw [hm] at hh
      rw [after?_succ_of_halted hm, after?_succ_of_halted hh.symm]
      exact ⟨.none, by simp [trace, hm, ← hh]⟩
    | false =>
      rw [hm] at hh
      rcases h.step hj hm d with ⟨e, n, n', hs, hs', hn⟩ | ⟨hs, hs'⟩
      · obtain ⟨hrel, heffects⟩ := ih hn
        rw [after?_succ hm hs, after?_succ hh.symm hs', trace_succ hm hs, trace_succ hh.symm hs',
          List.map_cons, List.map_cons, heffects]
        exact ⟨hrel, rfl⟩
      · have hf := congrArg Prod.fst hs
        have hf' := congrArg Prod.fst hs'
        rw [after?_succ_of_error hf, after?_succ_of_error hf']
        exact ⟨.none, by simp [trace, hs, hs']⟩

theorem twins_start (p : Program) (a b : ℕ) (eof : UInt8) (input : Array UInt8) :
    Twins p (start ⟨a, .growable⟩ eof input) (start ⟨b, .growable⟩ eof input) where
  pc := rfl
  ptr := rfl
  tape := (Tape.padded_ofLength _).trans (Tape.padded_ofLength _).symm
  input := rfl
  inputPos := rfl
  eof := rfl
  cycles := rfl
  stdout := rfl
  stderr := rfl
  sound := sound_start p _ eof input
  sound' := sound_start p _ eof input
  growable := rfl
  growable' := rfl

end Machine

open Machine in
/-- **The length that a growable tape begins with cannot be observed.** A program whose brackets
balance loads, and from tapes of any two lengths it runs the same way in each dialect: after `k`
instructions with equal effects the machines have all in common but the zeros at the end of the tape,
or both runs have ended before. Either both are over then, or the next instruction has one effect in
both, or it is a move below the first cell in both. -/
theorem initial_length_unobservable (p : Program) (hp : Balanced p.chars.toList) :
    ∃ j, Jumps.build p = .ok j ∧
      ∀ (d : Dialect) (eof : UInt8) (input : Array UInt8) (a b k : ℕ),
        Option.Rel (fun m m' => m.Alike m' ∧ m.halted p = m'.halted p ∧ (m.halted p = false →
            (∃ e, (m.step p j d).1 = .ok e ∧ (m'.step p j d).1 = .ok e) ∨
            (m.step p j d = (.error (.outOfRange (-1) m.tape.length), m) ∧
              m'.step p j d = (.error (.outOfRange (-1) m'.tape.length), m'))))
          ((start ⟨a, .growable⟩ eof input).after? p j d k)
          ((start ⟨b, .growable⟩ eof input).after? p j d k) ∧
        ((start ⟨a, .growable⟩ eof input).trace p j d k).map Prod.snd =
          ((start ⟨b, .growable⟩ eof input).trace p j d k).map Prod.snd := by
  obtain ⟨t, ht⟩ := exists_tree_of_balanced hp
  have hj := Jumps.build_eq_ok_iff.mpr ⟨t, ht, rfl⟩
  refine ⟨_, hj, fun d eof input a b k => ?_⟩
  obtain ⟨hrel, heffects⟩ := (twins_start p a b eof input).after? hj d k
  refine ⟨?_, heffects⟩
  generalize (start ⟨a, .growable⟩ eof input).after? p _ d k = r at hrel ⊢
  generalize (start ⟨b, .growable⟩ eof input).after? p _ d k = r' at hrel ⊢
  cases hrel with
  | none => exact .none
  | some h =>
    refine .some ⟨h.toAlike, h.halted p, fun hlive => ?_⟩
    rcases h.step hj hlive d with ⟨e, n, n', hs, hs', -⟩ | hfail
    · exact .inl ⟨e, congrArg Prod.fst hs, congrArg Prod.fst hs'⟩
    · exact .inr hfail

open Machine in
/-- From no cell and from three: a loop over a cell that only one of the tapes has yet, and a move
too many. -/
theorem initial_length_unobservable_on_fault : ∃ p j m m',
    p = Program.ofString "+>[-]:<<" ∧ Balanced p.chars.toList ∧ Jumps.build p = .ok j ∧
    (start ⟨0, .growable⟩ 0 #[]).after? p j .extended 5 = some m ∧
    (start ⟨3, .growable⟩ 0 #[]).after? p j .extended 5 = some m' ∧
    m.Alike m' ∧ m.tape.cells = #[1, 0] ∧ m'.tape.cells = #[1, 0, 0] ∧
    m.step p j .extended = (.error (.outOfRange (-1) 2), m) ∧
    m'.step p j .extended = (.error (.outOfRange (-1) 3), m') := by
  have hp : Balanced (Program.ofString "+>[-]:<<").chars.toList := by decide
  obtain ⟨j, hj, h⟩ := initial_length_unobservable _ hp
  obtain rfl : ⟨#[none, none, some 4, none, some 2, none, none, none]⟩ = j :=
    Except.ok.inj ((by decide : _ = _).symm.trans hj)
  obtain ⟨hrel, -⟩ := h .extended 0 #[] 0 3 5
  generalize hm : (start ⟨0, .growable⟩ 0 #[]).after? _ _ .extended 5 = r at hrel
  generalize hm' : (start ⟨3, .growable⟩ 0 #[]).after? _ _ .extended 5 = r' at hrel
  obtain rfl : some ⟨7, 0, ⟨#[1, 0], 2⟩, .growable, #[], 0, 0, 5, #[], #[0]⟩ = r := by
    rw [← hm]
    decide
  obtain rfl : some ⟨7, 0, ⟨#[1, 0, 0, 0], 3⟩, .growable, #[], 0, 0, 5, #[], #[0]⟩ = r' := by
    rw [← hm']
    decide
  cases hrel with
  | some hmm =>
    obtain ⟨halike, -, hnext⟩ := hmm
    obtain ⟨e, he, -⟩ | ⟨hf, hf'⟩ := hnext rfl
    · cases he
    · exact ⟨_, _, _, _, rfl, hp, hj, hm, hm', halike, rfl, rfl, hf, hf'⟩

end Tapewalk
