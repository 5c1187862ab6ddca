import Tapewalk.Proofs.Step

/-!
# Reachable machines

`Machine.Reached` follows a machine through any number of calls of `Machine.step`, the dialect
chosen anew for each. A program that loads keeps its machine sound on every such path, the tape is
exactly as long as the pointer has made it, and only the two ends of the tape can stop the run.

`Machine.afterCalls` lets the program and the jumps change from call to call as well, and the jumps
need not be those of the program. Little is left of soundness then, but the pointer still stands on
the tape, and that is all that a fault needs to leave no trace: a read takes its byte before it
writes it, so off the tape it would fail with the byte gone.
-/

namespace Tapewalk

namespace Machine

variable {p : Program} {j : Jumps} {m m₀ : Machine} {d : Dialect} {f : Fault} {peak : ℕ}

/-- Calls of `step` lead from `m₀` to the machine, none of them after the end of the program, and
`peak` is the highest cell that the pointer has stood on. A call that fails counts as well. -/
inductive Reached (p : Program) (j : Jumps) (m₀ : Machine) : ℕ → Machine → Prop
  | start : Reached p j m₀ m₀.ptr m₀
  | call {peak : ℕ} {m : Machine} (d : Dialect) : Reached p j m₀ peak m → m.halted p = false →
      Reached p j m₀ (max peak (m.step p j d).2.ptr) (m.step p j d).2

theorem Reached.sound (hj : Jumps.build p = .ok j) (h₀ : m₀.Sound p)
    (h : Reached p j m₀ peak m) : m.Sound p := by
  induction h with
  | start => exact h₀
  | call d _ hlive ih => exact ih.step hj hlive d

/-- What a call never touches. -/
theorem step_frame (h : m.ptr < m.tape.length) : (m.step p j d).2.growth = m.growth ∧
    (m.step p j d).2.input = m.input ∧ (m.step p j d).2.eof = m.eof := by
  rcases step_cases (p := p) (j := j) (d := d) h with ⟨e, m', ha, hs⟩ | ⟨f, -, hs⟩
  · have hf := act_ok h ha
    rw [hs]
    exact ⟨hf.growth, hf.input, hf.eof⟩
  · rw [hs]
    exact ⟨rfl, rfl, rfl⟩

theorem Reached.frame (hj : Jumps.build p = .ok j) (h₀ : m₀.Sound p) (h : Reached p j m₀ peak m) :
    m.growth = m₀.growth ∧ m.input = m₀.input ∧ m.eof = m₀.eof := by
  induction h with
  | start => exact ⟨rfl, rfl, rfl⟩
  | @call peak m d hr hlive ih =>
    obtain ⟨hg, hi, he⟩ := step_frame (p := p) (j := j) (d := d) (hr.sound hj h₀).ptr_lt
    exact ⟨hg.trans ih.1, hi.trans ih.2.1, he.trans ih.2.2⟩

/-- One call lengthens the tape at most under the pointer. -/
theorem length_step (h : m.ptr < m.tape.length) : (m.step p j d).2.tape.length =
    match m.growth with
    | .growable => max m.tape.length ((m.step p j d).2.ptr + 1)
    | .fixed => m.tape.length := by
  rcases step_cases (p := p) (j := j) (d := d) h with ⟨e, m', ha, hs⟩ | ⟨f, -, hs⟩
  · rw [hs]
    exact (act_ok h ha).length
  · rw [hs]
    cases m.growth with
    | growable => simp only; omega
    | fixed => rfl

/-- **The length of the tape** is the length it began with, or what the highest pointer asked for. -/
theorem Reached.length (hj : Jumps.build p = .ok j) (h₀ : m₀.Sound p)
    (h : Reached p j m₀ peak m) : m.tape.length = match m₀.growth with
      | .growable => max m₀.tape.length (peak + 1)
      | .fixed => m₀.tape.length := by
  induction h with
  | start =>
    have := h₀.ptr_lt
    cases m₀.growth with
    | growable => simp only; omega
    | fixed => rfl
  | @call peak m d hr hlive ih =>
    rw [length_step (hr.sound hj h₀).ptr_lt, (hr.frame hj h₀).1]
    cases hg : m₀.growth with
    | growable => simp only [hg] at ih ⊢; omega
    | fixed => simp only [hg] at ih ⊢; exact ih

/-! ## Faults -/

/-- **Exactly two things stop a sound machine**: a move below the first cell, and a move past the
last cell of a tape that may not grow. -/
theorem Sound.step_error_iff (h : m.Sound p) (hj : Jumps.build p = .ok j) :
    (m.step p j d).1 = .error f ↔
      (p.char? m.pc = some '<' ∧ m.ptr = 0 ∧ f = .belowZero m.tape.length) ∨
      (p.char? m.pc = some '>' ∧ m.growth = .fixed ∧ m.ptr + 1 = m.tape.length ∧
        f = .pastEnd m.tape.length m.tape.length) := by
  rw [Machine.step_error_iff h.ptr_lt]
  constructor
  · rintro (hlow | hhigh | ⟨hb, hnone, -⟩)
    · exact .inl hlow
    · exact .inr hhigh
    · -- a bracket of a program that loads has a partner
      obtain ⟨k, hk⟩ : ∃ k, j.partner? m.pc = some k := by
        rcases hb with ⟨hb, -⟩ | ⟨hb, -⟩
        · exact Jumps.exists_partner hj hb (by decide)
        · exact Jumps.exists_partner hj hb (by decide)
      rw [hk] at hnone
      cases hnone
  · rintro (hlow | hhigh)
    · exact .inl hlow
    · exact .inr (.inl hhigh)

end Machine

theorem Fault.signedIndex_of_lt {n : ℕ} (h : n < signedBound) : signedIndex n = n := by
  unfold signedBound at h
  unfold signedIndex wordBound
  rw [Int.bmod_eq_of_le (by omega) (by omega)]

open Machine in
/-- **Execution keeps its invariant, and fails only at the ends of the tape.** On every machine
that a program which loads can reach, in whatever dialects: the pointer stands on the tape, the
program counter and the input cursor keep their bounds, and the tape has the length that it began
with or that the highest pointer asked for. The next instruction fails exactly if it is a `<` on the
first cell or a `>` on the last cell of a fixed tape. A bracket without partner is never met, and
the cell under the pointer can always be read and written. -/
theorem reached_invariant {p : Program} {j : Jumps} {shape : Tape.Shape} {eof : UInt8}
    {input : Array UInt8} {peak : ℕ} {m : Machine} (hj : Jumps.build p = .ok j)
    (h : Reached p j (Machine.start shape eof input) peak m) :
    (m.ptr < m.tape.length ∧ m.pc ≤ p.size ∧ m.inputPos ≤ input.size) ∧
    (m.tape.length = match shape.growth with
      | .growable => max (max 1 shape.length) (peak + 1)
      | .fixed => max 1 shape.length) ∧
    (m.halted p = false → ∀ d, m.tape.length < signedBound → ∀ f,
      (m.step p j d).1 = .error f ↔
        (p.char? m.pc = some '<' ∧ m.ptr = 0 ∧ f = .outOfRange (-1) m.tape.length) ∨
        (p.char? m.pc = some '>' ∧ shape.growth = .fixed ∧ m.ptr = m.tape.length - 1 ∧
          f = .outOfRange m.tape.length m.tape.length)) ∧
    (m.halted p = false → ∀ d i, (m.step p j d).1 ≠ .error (.unmatchedBracket i)) ∧
    (m.tape.length ≤ m.tape.capacity ∧ (∃ v, m.tape.get m.ptr = .ok v) ∧
      ∀ v, ∃ t, m.tape.set m.ptr v = .ok t) := by
  have h₀ := sound_start p shape eof input
  have hs := h.sound hj h₀
  obtain ⟨hg, hi, -⟩ := h.frame hj h₀
  have hlt := hs.ptr_lt
  refine ⟨⟨hlt, hs.pc_le, ?_⟩, h.length hj h₀, ?_, ?_, hs.fits, ⟨_, cell_of_lt hlt⟩, fun v => ?_⟩
  · have := hs.inputPos_le
    rw [hi] at this
    exact this
  · intro _ d hbound f
    have hgrowth : m.growth = shape.growth := hg
    have hend : m.ptr + 1 = m.tape.length ↔ m.ptr = m.tape.length - 1 := by omega
    rw [hs.step_error_iff hj, hgrowth, hend, Fault.belowZero, Fault.pastEnd,
      Fault.signedIndex_of_lt hbound]
  · intro _ d i hf
    rcases (hs.step_error_iff hj).mp hf with ⟨-, -, hf⟩ | ⟨-, -, -, hf⟩ <;> cases hf
  · exact ⟨_, if_pos hlt⟩

open Machine in
/-- Two cells that may not grow, and a program that walks past the second one. -/
theorem reached_invariant_at_fixed_end : ∃ peak m,
    Jumps.build ⟨#['+', '>', '>']⟩ = .ok ⟨#[none, none, none]⟩ ∧
    Reached ⟨#['+', '>', '>']⟩ ⟨#[none, none, none]⟩ (Machine.start ⟨2, .fixed⟩ 0 #[]) peak m ∧
    m.halted ⟨#['+', '>', '>']⟩ = false ∧ m.tape.length < signedBound ∧
    (m.step ⟨#['+', '>', '>']⟩ ⟨#[none, none, none]⟩ .extended).1 = .error (.outOfRange 2 2) := by
  have hj : Jumps.build ⟨#['+', '>', '>']⟩ = .ok ⟨#[none, none, none]⟩ := by decide
  have h₀ : Reached ⟨#['+', '>', '>']⟩ ⟨#[none, none, none]⟩ (Machine.start ⟨2, .fixed⟩ 0 #[]) 0
    (Machine.start ⟨2, .fixed⟩ 0 #[]) := .start
  have h₂ := (h₀.call .classic rfl).call .extended rfl
  refine ⟨_, _, hj, h₂, rfl, by decide, ?_⟩
  exact ((reached_invariant hj h₂).2.2.1 rfl .extended (by decide) _).mpr
    (.inr ⟨rfl, rfl, rfl, rfl⟩)

/-! ## Calls with any program -/

namespace Machine

variable {m : Machine} {c : Call} {f : Fault}

/-- What a call of `step` is given. The jumps may be those of another program, or of none. -/
structure Call where
  program : Program
  jumps : Jumps
  dialect : Dialect
  deriving DecidableEq, Repr

/-- One call. -/
def call (m : Machine) (c : Call) : Except Fault Effect × Machine :=
  m.step c.program c.jumps c.dialect

/-- The machine after some calls, whether they succeed or fail. -/
def afterCalls (m : Machine) : List Call → Machine
  | [] => m
  | c :: cs => (m.call c).2.afterCalls cs

/-- A fault, and the machine on which the call meets it. -/
def Fails (m : Machine) (c : Call) (f : Fault) : Prop :=
  (c.program.char? m.pc = some '<' ∧ m.ptr = 0 ∧ f = .belowZero m.tape.length) ∨
  (c.program.char? m.pc = some '>' ∧ m.growth = .fixed ∧ m.ptr + 1 = m.tape.length ∧
    f = .pastEnd m.tape.length m.tape.length) ∨
  (((c.program.char? m.pc = some '[' ∧ m.byte = 0) ∨
    (c.program.char? m.pc = some ']' ∧ m.byte ≠ 0)) ∧
      c.jumps.partner? m.pc = none ∧ f = .unmatchedBracket m.pc)

theorem ptr_lt_call (h : m.ptr < m.tape.length) (c : Call) :
    (m.call c).2.ptr < (m.call c).2.tape.length := by
  unfold call
  rcases step_cases (p := c.program) (j := c.jumps) (d := c.dialect) h with
    ⟨e, m', ha, hs⟩ | ⟨f, -, hs⟩
  · rw [hs]
    exact (act_ok h ha).ptr_lt
  · rw [hs]
    exact h

/-- **The pointer stands on the tape** after whatever calls. -/
theorem ptr_lt_afterCalls (h : m.ptr < m.tape.length) (cs : List Call) :
    (m.afterCalls cs).ptr < (m.afterCalls cs).tape.length := by
  induction cs generalizing m with
  | nil => exact h
  | cons c cs ih => exact ih (ptr_lt_call h c)

theorem call_of_error (h : m.ptr < m.tape.length) (hf : (m.call c).1 = .error f) :
    m.call c = (.error f, m) :=
  step_eq_of_error h hf

/-- On an empty tape a read fails when its byte is already gone. -/
example :
    let m : Machine := { tape := .ofLength 0, growth := .fixed, input := #[7], eof := 0 }
    let r := m.call ⟨⟨#[',']⟩, ⟨#[]⟩, .classic⟩
    r.1 = .error (.outOfRange 0 0) ∧ r.2.inputPos = 1 := by decide

/-- A call that fails can be repeated any number of times. -/
theorem afterCalls_replicate (hs : m.call c = (.error f, m)) (n : ℕ) :
    m.afterCalls (.replicate n c) = m := by
  induction n with
  | zero => rfl
  | succ n ih =>
    rw [List.replicate_succ, afterCalls, hs]
    exact ih

end Machine

open Machine in
/-- **A call that fails changes nothing.** On every machine that calls can lead to, each with any
program, any jumps and any dialect, and some of them failing or past the end of their program: a call
fails exactly at a `<` on the first cell, at a `>` on the last cell of a fixed tape, and at a bracket
that has to jump and for which the jumps have no partner. The machine is then what it was before, in
all its parts, and however often the call is repeated, it fails in the same way. -/
theorem failed_call_changes_nothing (shape : Tape.Shape) (eof : UInt8) (input : Array UInt8)
    (calls : List Call) (m : Machine) (hm : m = (start shape eof input).afterCalls calls) (c : Call)
    (f : Fault) :
    ((m.call c).1 = .error f ↔ m.Fails c f) ∧
    ((m.call c).1 = .error f → (m.call c).2 = m ∧
      ∀ n, (m.afterCalls (.replicate n c)).call c = (.error f, m)) := by
  have h₀ := (sound_start ⟨#[]⟩ shape eof input).ptr_lt
  have hlt : m.ptr < m.tape.length := hm ▸ ptr_lt_afterCalls h₀ calls
  refine ⟨step_error_iff hlt, fun hf => ?_⟩
  have hcall := call_of_error hlt hf
  refine ⟨congrArg Prod.snd hcall, fun n => ?_⟩
  rw [afterCalls_replicate hcall, hcall]

open Machine in
/-- A byte is read and the pointer moved by one program; then another one comes to a bracket that its
jumps do not know, and a third one to the end of the tape. -/
theorem failed_call_changes_nothing_of_three_programs : ∃ m,
    m = (start ⟨2, .fixed⟩ 0 #[5]).afterCalls
      [⟨⟨#[',', '>']⟩, ⟨#[]⟩, .classic⟩, ⟨⟨#[',', '>']⟩, ⟨#[some 7]⟩, .extended⟩] ∧
    m.inputPos = 1 ∧ m.tape.cells = #[5, 0] ∧
    (m.call ⟨⟨#['+', '+', '[', ']']⟩, ⟨#[none, none]⟩, .extended⟩).2 = m ∧
    (m.call ⟨⟨#['>', '>', '>']⟩, ⟨#[]⟩, .classic⟩).1 = .error (.outOfRange 2 2) ∧
    ∀ n, (m.afterCalls (.replicate n ⟨⟨#['>', '>', '>']⟩, ⟨#[]⟩, .classic⟩)).call
      ⟨⟨#['>', '>', '>']⟩, ⟨#[]⟩, .classic⟩ = (.error (.outOfRange 2 2), m) := by
  refine ⟨_, rfl, rfl, rfl, ?_, by decide, ?_⟩
  · exact ((failed_call_changes_nothing ⟨2, .fixed⟩ 0 #[5] _ _ rfl _ (.unmatchedBracket 2)).2
      (by decide)).1
  · exact ((failed_call_changes_nothing ⟨2, .fixed⟩ 0 #[5] _ _ rfl _ (.outOfRange 2 2)).2
      (by decide)).2

end Tapewalk
