import Tapewalk.Machine
import Tapewalk.Proofs.Matching
import Tapewalk.Proofs.Tape

/-!
# One instruction

A machine whose pointer stands on its tape reads and writes its cell without fail, so an instruction
is the plain function `Machine.act` (`Machine.perform_eq_act`). Of it everything else follows:

* `Machine.Follows`: what an instruction that succeeds can change (`Machine.act_ok`).
* `Machine.act_error_iff`: the faults, and exactly when they arise.
* `Machine.Sound`: what every instruction of a program that loads keeps (`Machine.Sound.step`).
-/

namespace Tapewalk

/-! ## Characters and instructions -/

namespace Instruction

/-- The character of an instruction. -/
def toChar? : Instruction → Option Char
  | increment => some '+'
  | decrement => some '-'
  | moveRight => some '>'
  | moveLeft => some '<'
  | loopStart => some '['
  | loopEnd => some ']'
  | read => some ','
  | write => some '.'
  | writeSecondary => some ':'
  | breakpoint => some '@'
  | comment => none

/-- Each instruction but a comment is written with one character only. -/
theorem toChar?_ofChar {d : Dialect} {c : Char} (h : ofChar d c ≠ .comment) :
    (ofChar d c).toChar? = some c := by
  unfold ofChar at h ⊢
  split at h
  case h_9 | h_10 =>
    split at h
    · rename_i hd; simp only [if_pos hd]; rfl
    · exact absurd rfl h
  case h_11 => exact absurd rfl h
  all_goals rfl

end Instruction

namespace Machine

variable {m m' : Machine} {p : Program} {j : Jumps} {d : Dialect} {i : Instruction} {e : Effect}
  {f : Fault}

/-! ## Instructions on the tape -/

/-- The byte under the pointer. -/
def byte (m : Machine) : UInt8 := m.tape.store.getD m.ptr 0

/-- The machine with another byte under its pointer. -/
def poke (m : Machine) (v : UInt8) : Machine := { m with tape := m.tape.write m.ptr v }

/-- What an instruction does while the pointer stands on the tape. -/
def act (m : Machine) (j : Jumps) : Instruction → Except Fault Effect × Machine
  | .increment => (.ok .none, m.poke (m.byte + 1))
  | .decrement => (.ok .none, m.poke (m.byte - 1))
  | .moveRight => m.moveRight
  | .moveLeft => m.moveLeft
  | .loopStart => if m.byte = 0 then m.jump j else (.ok .none, m)
  | .loopEnd => if m.byte = 0 then (.ok .none, m) else m.jump j
  | .read => (.ok .none, m.takeInput.2.poke m.takeInput.1)
  | .write => (.ok (.stdout m.byte), { m with stdout := m.stdout.push m.byte })
  | .writeSecondary => (.ok (.stderr m.byte), { m with stderr := m.stderr.push m.byte })
  | .breakpoint => (.ok .breakpoint, m)
  | .comment => (.ok .none, m)

theorem cell_of_lt (h : m.ptr < m.tape.length) : m.cell = .ok m.byte := if_pos h

theorem putCell_of_lt (h : m.ptr < m.tape.length) (v : UInt8) :
    m.putCell v = (.ok .none, m.poke v) := if_pos h

@[simp] theorem ptr_takeInput (m : Machine) : m.takeInput.2.ptr = m.ptr := by
  unfold takeInput; split <;> rfl

@[simp] theorem tape_takeInput (m : Machine) : m.takeInput.2.tape = m.tape := by
  unfold takeInput; split <;> rfl

/-- On the tape no instruction fails to read or write its cell. -/
theorem perform_eq_act (h : m.ptr < m.tape.length) : m.perform j i = m.act j i := by
  have hcell := cell_of_lt h
  cases i with
  | increment | decrement => simp only [perform, adjustCell, hcell, putCell_of_lt h, act]
  | moveRight | moveLeft | breakpoint | comment => rfl
  | loopStart => simp only [perform, jumpIf, hcell, act, beq_iff_eq]
  | loopEnd =>
    simp only [perform, jumpIf, hcell, act]
    by_cases hb : m.byte = 0 <;> simp [hb]
  | read =>
    have hin : m.takeInput.2.ptr < m.takeInput.2.tape.length := by simpa using h
    exact putCell_of_lt hin _
  | write | writeSecondary => simp only [perform, hcell, act]

theorem moveRight_of_lt (h : m.ptr + 1 < m.tape.length) :
    m.moveRight = (.ok .none, { m with ptr := m.ptr + 1 }) := if_pos h

theorem moveRight_of_growable (h : ¬ m.ptr + 1 < m.tape.length) (hg : m.growth = .growable) :
    m.moveRight = (.ok .none, { m with ptr := m.ptr + 1, tape := m.tape.push 0 }) := by
  unfold moveRight
  rw [if_neg h, hg]

theorem moveRight_of_fixed (h : ¬ m.ptr + 1 < m.tape.length) (hg : m.growth = .fixed) :
    m.moveRight = (.error (.pastEnd (m.ptr + 1) m.tape.length), m) := by
  unfold moveRight
  rw [if_neg h, hg]

theorem moveLeft_of_zero (h : m.ptr = 0) :
    m.moveLeft = (.error (.belowZero m.tape.length), m) := by
  unfold moveLeft
  rw [h]

theorem moveLeft_of_pos (h : m.ptr ≠ 0) :
    m.moveLeft = (.ok .none, { m with ptr := m.ptr - 1 }) := by
  obtain ⟨k, hk⟩ := Nat.exists_eq_succ_of_ne_zero h
  unfold moveLeft
  rw [hk]
  rfl

/-! ## What an instruction does not look at -/

/-- The machine with its pointer elsewhere, on another tape. -/
def placed (m : Machine) (ptr : ℕ) (tape : Tape) : Machine := { m with ptr, tape }

/-- A change of machines that has no part in moves and in writes to the first output. -/
structure Transparent (φ : Machine → Machine) : Prop where
  placed (m : Machine) (ptr : ℕ) (tape : Tape) : φ (m.placed ptr tape) = (φ m).placed ptr tape
  stdout (m : Machine) (b : UInt8) :
    φ { m with stdout := m.stdout.push b } = { φ m with stdout := (φ m).stdout.push b }

theorem Transparent.ptr_tape {φ : Machine → Machine} (h : Transparent φ) (m : Machine) :
    (φ m).ptr = m.ptr ∧ (φ m).tape = m.tape := by
  have hm : φ m = (φ m).placed m.ptr m.tape := h.placed m m.ptr m.tape
  rw [hm]
  exact ⟨rfl, rfl⟩

/-- A change that leaves the program counter alone has no part in jumps either. -/
theorem jump_of_pc (φ : Machine → Machine) (hm : (φ m).pc = m.pc)
    (hpc : ∀ pc, φ { m with pc } = { φ m with pc }) :
    (φ m).jump j = ((m.jump j).1, φ (m.jump j).2) := by
  simp only [jump, hm]
  cases j.partner? m.pc with
  | none => rfl
  | some target => exact congrArg (Prod.mk _) (hpc target).symm

/-- **A change that an instruction does not look at** can be made before it or after it. What is
left to see to are the jumps of brackets, the growth of the tape, the input of a read and the second
output. -/
theorem Transparent.act {φ : Machine → Machine} (h : Transparent φ) {j' : Jumps}
    (hjump : i = .loopStart ∨ i = .loopEnd → (φ m).jump j' = ((m.jump j).1, φ (m.jump j).2))
    (hgrowth : i = .moveRight → m.ptr + 1 < m.tape.length ∨ (φ m).growth = m.growth)
    (hread : i = .read → (φ m).takeInput = (m.takeInput.1, φ m.takeInput.2))
    (hstderr : i = .writeSecondary → φ { m with stderr := m.stderr.push m.byte } =
      { φ m with stderr := (φ m).stderr.push m.byte }) :
    (φ m).act j' i = ((m.act j i).1, φ (m.act j i).2) := by
  obtain ⟨hptr, htape⟩ := h.ptr_tape m
  have hbyte : (φ m).byte = m.byte := by simp only [byte, hptr, htape]
  have hpoke : ∀ (n : Machine) (v : UInt8), (φ n).poke v = φ (n.poke v) := by
    intro n v
    obtain ⟨hptr, htape⟩ := h.ptr_tape n
    have hn : φ (n.poke v) = (φ n).placed n.ptr (n.tape.write n.ptr v) := h.placed n _ _
    rw [hn, poke, htape, ← hptr]
    rfl
  cases i with
  | increment | decrement => simp only [Machine.act, hbyte, hpoke]
  | breakpoint | comment => rfl
  | write => simp only [Machine.act, hbyte, h.stdout]
  | writeSecondary => simp only [Machine.act, hbyte, hstderr rfl]
  | read => simp only [Machine.act, hread rfl, hpoke]
  | moveRight =>
    show (φ m).moveRight = (m.moveRight.1, φ m.moveRight.2)
    by_cases hn : m.ptr + 1 < m.tape.length
    · have hn' : (φ m).ptr + 1 < (φ m).tape.length := by rwa [hptr, htape]
      have hplaced : φ { m with ptr := m.ptr + 1 } = _ := h.placed m (m.ptr + 1) m.tape
      rw [moveRight_of_lt hn, moveRight_of_lt hn', hplaced, hptr, ← htape]
      rfl
    · have hn' : ¬ (φ m).ptr + 1 < (φ m).tape.length := by rwa [hptr, htape]
      have hg' := (hgrowth rfl).resolve_left hn
      cases hg : m.growth with
      | growable =>
        have hplaced : φ { m with ptr := m.ptr + 1, tape := m.tape.push 0 } = _ :=
          h.placed m (m.ptr + 1) (m.tape.push 0)
        rw [moveRight_of_growable hn hg, moveRight_of_growable hn' (hg'.trans hg), hplaced, hptr,
          htape]
        rfl
      | fixed =>
        rw [moveRight_of_fixed hn hg, moveRight_of_fixed hn' (hg'.trans hg), hptr, htape]
  | moveLeft =>
    show (φ m).moveLeft = (m.moveLeft.1, φ m.moveLeft.2)
    by_cases hz : m.ptr = 0
    · rw [moveLeft_of_zero hz, moveLeft_of_zero (hptr.trans hz), htape]
    · have hz' : (φ m).ptr ≠ 0 := by rwa [hptr]
      have hplaced : φ { m with ptr := m.ptr - 1 } = _ := h.placed m (m.ptr - 1) m.tape
      rw [moveLeft_of_pos hz, moveLeft_of_pos hz', hplaced, hptr, ← htape]
      rfl
  | loopStart =>
    simp only [Machine.act, hbyte, hjump (.inl rfl)]
    split <;> rfl
  | loopEnd =>
    simp only [Machine.act, hbyte, hjump (.inr rfl)]
    split <;> rfl

/-! ## What an instruction can change -/

/-- What an instruction that succeeds makes of a machine `m`, before the program counter advances. -/
structure Follows (j : Jumps) (m m' : Machine) : Prop where
  growth : m'.growth = m.growth
  input : m'.input = m.input
  eof : m'.eof = m.eof
  cycles : m'.cycles = m.cycles
  pc : m'.pc = m.pc ∨ j.partner? m.pc = some m'.pc
  ptr_lt : m'.ptr < m'.tape.length
  /-- A tape grows only under the pointer. -/
  length : m'.tape.length = match m.growth with
    | .growable => max m.tape.length (m'.ptr + 1)
    | .fixed => m.tape.length
  fits : m.tape.length ≤ m.tape.capacity → m'.tape.length ≤ m'.tape.capacity
  inputPos : m.inputPos ≤ m.input.size → m'.inputPos ≤ m'.input.size

/-- A machine that kept its tape's length and its pointer. -/
theorem Follows.of_still (h : m.ptr < m.tape.length) (hg : m'.growth = m.growth)
    (hi : m'.input = m.input) (he : m'.eof = m.eof) (hc : m'.cycles = m.cycles)
    (hpc : m'.pc = m.pc ∨ j.partner? m.pc = some m'.pc) (hptr : m'.ptr = m.ptr)
    (hlen : m'.tape.length = m.tape.length) (hcap : m'.tape.capacity = m.tape.capacity)
    (hpos : m.inputPos ≤ m.input.size → m'.inputPos ≤ m'.input.size) : Follows j m m' := by
  refine ⟨hg, hi, he, hc, hpc, by omega, ?_, fun hf => by omega, hpos⟩
  cases m.growth with
  | growable => simp only; omega
  | fixed => exact hlen

theorem takeInput_follows (h : m.ptr < m.tape.length) : Follows j m m.takeInput.2 := by
  unfold takeInput
  split
  · rename_i b hb
    refine .of_still h rfl rfl rfl rfl (.inl rfl) rfl rfl rfl fun _ => ?_
    exact (Array.getElem?_eq_some_iff.mp hb).1
  · exact .of_still h rfl rfl rfl rfl (.inl rfl) rfl rfl rfl id

theorem poke_follows {m₀ : Machine} (h : Follows j m₀ m) (v : UInt8) : Follows j m₀ (m.poke v) :=
  { h with fits := fun hf => by simpa [poke] using h.fits hf }

theorem jump_follows (h : m.ptr < m.tape.length) (hj : m.jump j = (.ok e, m')) :
    Follows j m m' := by
  unfold jump at hj
  split at hj
  · rename_i target ht
    obtain ⟨-, rfl⟩ := Prod.mk.inj hj
    exact .of_still h rfl rfl rfl rfl (.inr ht) rfl rfl rfl id
  · cases hj

theorem moveRight_follows (h : m.ptr < m.tape.length) (hr : m.moveRight = (.ok e, m')) :
    Follows j m m' := by
  by_cases hn : m.ptr + 1 < m.tape.length
  · rw [moveRight_of_lt hn] at hr
    obtain ⟨-, rfl⟩ := Prod.mk.inj hr
    refine ⟨rfl, rfl, rfl, rfl, .inl rfl, hn, ?_, id, id⟩
    cases m.growth with
    | growable => simp only; omega
    | fixed => rfl
  · cases hg : m.growth with
    | fixed => rw [moveRight_of_fixed hn hg] at hr; cases hr
    | growable =>
      rw [moveRight_of_growable hn hg] at hr
      obtain ⟨-, rfl⟩ := Prod.mk.inj hr
      refine ⟨rfl, rfl, rfl, rfl, .inl rfl, ?_, ?_, fun hf => ?_, id⟩
      · simp only [Tape.length_push]; omega
      · simp only [Tape.length_push, hg]; omega
      · exact Tape.length_push_le_capacity hf (by omega) 0

theorem moveLeft_follows (h : m.ptr < m.tape.length) (hl : m.moveLeft = (.ok e, m')) :
    Follows j m m' := by
  by_cases hz : m.ptr = 0
  · rw [moveLeft_of_zero hz] at hl; cases hl
  · rw [moveLeft_of_pos hz] at hl
    obtain ⟨-, rfl⟩ := Prod.mk.inj hl
    refine ⟨rfl, rfl, rfl, rfl, .inl rfl, ?_, ?_, id, id⟩
    · simp only; omega
    · cases m.growth with
      | growable => simp only; omega
      | fixed => rfl

/-- **What an instruction that succeeds can change.** -/
theorem act_ok (h : m.ptr < m.tape.length) (ha : m.act j i = (.ok e, m')) : Follows j m m' := by
  have still : Follows j m m := .of_still h rfl rfl rfl rfl (.inl rfl) rfl rfl rfl id
  cases i with
  | increment | decrement =>
    obtain ⟨-, rfl⟩ := Prod.mk.inj ha
    exact poke_follows still _
  | moveRight => exact moveRight_follows h ha
  | moveLeft => exact moveLeft_follows h ha
  | loopStart | loopEnd =>
    simp only [act] at ha
    split at ha
    all_goals first
      | exact jump_follows h ha
      | (obtain ⟨-, rfl⟩ := Prod.mk.inj ha; exact still)
  | read =>
    obtain ⟨-, rfl⟩ := Prod.mk.inj ha
    exact poke_follows (takeInput_follows h) _
  | write | writeSecondary =>
    obtain ⟨-, rfl⟩ := Prod.mk.inj ha
    exact .of_still h rfl rfl rfl rfl (.inl rfl) rfl rfl rfl id
  | breakpoint | comment =>
    obtain ⟨-, rfl⟩ := Prod.mk.inj ha
    exact still

/-! ## Faults -/

theorem moveRight_error_iff : m.moveRight.1 = .error f ↔
    m.growth = .fixed ∧ m.tape.length ≤ m.ptr + 1 ∧ f = .pastEnd (m.ptr + 1) m.tape.length := by
  by_cases hn : m.ptr + 1 < m.tape.length
  · simp only [moveRight_of_lt hn, reduceCtorEq, false_iff]
    omega
  · cases hg : m.growth with
    | growable => simp [moveRight_of_growable hn hg]
    | fixed =>
      simp only [moveRight_of_fixed hn hg, Except.error.injEq, true_and]
      exact ⟨fun h => ⟨by omega, h.symm⟩, fun h => h.2.symm⟩

theorem moveLeft_error_iff : m.moveLeft.1 = .error f ↔
    m.ptr = 0 ∧ f = .belowZero m.tape.length := by
  by_cases hz : m.ptr = 0
  · simp [moveLeft_of_zero hz, hz, eq_comm]
  · simp [moveLeft_of_pos hz, hz]

theorem jump_error_iff : (m.jump j).1 = .error f ↔
    j.partner? m.pc = none ∧ f = .unmatchedBracket m.pc := by
  unfold jump
  cases j.partner? m.pc with
  | none => simp [eq_comm]
  | some target => simp

/-- **The faults of an instruction**, and exactly when they arise. -/
theorem act_error_iff : (m.act j i).1 = .error f ↔
    (i = .moveLeft ∧ m.ptr = 0 ∧ f = .belowZero m.tape.length) ∨
    (i = .moveRight ∧ m.growth = .fixed ∧ m.tape.length ≤ m.ptr + 1 ∧
      f = .pastEnd (m.ptr + 1) m.tape.length) ∨
    (((i = .loopStart ∧ m.byte = 0) ∨ (i = .loopEnd ∧ m.byte ≠ 0)) ∧
      j.partner? m.pc = none ∧ f = .unmatchedBracket m.pc) := by
  cases i with
  | moveRight => simp [act, moveRight_error_iff]
  | moveLeft => simp [act, moveLeft_error_iff]
  | loopStart => by_cases hb : m.byte = 0 <;> simp [act, hb, jump_error_iff]
  | loopEnd => by_cases hb : m.byte = 0 <;> simp [act, hb, jump_error_iff]
  | _ => simp [act]

/-- A fault leaves the machine as it was. -/
theorem act_error_state (h : (m.act j i).1 = .error f) : (m.act j i).2 = m := by
  have hjump : ∀ {f}, (m.jump j).1 = .error f → (m.jump j).2 = m := by
    intro f hf
    obtain ⟨hnone, -⟩ := jump_error_iff.mp hf
    simp only [jump, hnone]
  rcases act_error_iff.mp h with ⟨rfl, hz, -⟩ | ⟨rfl, hg, hlen, -⟩ | ⟨⟨rfl, hb⟩ | ⟨rfl, hb⟩, -⟩
  · rw [act, moveLeft_of_zero hz]
  · rw [act, moveRight_of_fixed (by omega) hg]
  · simp only [act, if_pos hb] at h ⊢
    exact hjump h
  · simp only [act, if_neg hb] at h ⊢
    exact hjump h

/-! ## Steps -/

/-- The instruction under the program counter. -/
def current (m : Machine) (p : Program) (d : Dialect) : Instruction :=
  (p.instruction? d m.pc).getD .comment

theorem halted_eq_false_iff : m.halted p = false ↔ m.pc < p.size := by
  simp [halted]

theorem halted_eq_true_iff : m.halted p = true ↔ p.size ≤ m.pc := by
  simp [halted]

theorem exists_char (h : m.halted p = false) : ∃ c, p.char? m.pc = some c := by
  have hlt := halted_eq_false_iff.mp h
  exact ⟨_, Array.getElem?_eq_getElem hlt⟩

theorem current_of_char {c : Char} (h : p.char? m.pc = some c) :
    m.current p d = Instruction.ofChar d c := by
  simp [current, Program.instruction?, h]

/-- An instruction other than a comment stands in the program as its character. -/
theorem char_of_current {c : Char} (hi : m.current p d = i) (hc : i.toChar? = some c) :
    p.char? m.pc = some c := by
  cases h : p.char? m.pc with
  | none =>
    have : m.current p d = .comment := by simp [current, Program.instruction?, h]
    rw [← hi, this] at hc
    cases hc
  | some c' =>
    rw [current_of_char h] at hi
    have hne : Instruction.ofChar d c' ≠ .comment := by
      rw [hi]; rintro rfl; cases hc
    have := Instruction.toChar?_ofChar hne
    rw [hi, hc] at this
    exact this.symm

/-- An instruction other than a comment is under the program counter exactly if its character is. -/
theorem current_eq_iff {c : Char} (hi : Instruction.ofChar d c = i) (hc : i.toChar? = some c) :
    m.current p d = i ↔ p.char? m.pc = some c :=
  ⟨fun h => char_of_current h hc, fun h => (current_of_char h).trans hi⟩

theorem step_ok (h : m.ptr < m.tape.length) (ha : m.act j (m.current p d) = (.ok e, m')) :
    m.step p j d = (.ok e, m'.advance) := by
  unfold step
  rw [← current, perform_eq_act h, ha]

theorem step_error (h : m.ptr < m.tape.length) (ha : (m.act j (m.current p d)).1 = .error f) :
    m.step p j d = (.error f, m) := by
  have hm := act_error_state ha
  unfold step
  rw [← current, perform_eq_act h]
  generalize m.act j (m.current p d) = r at ha hm
  obtain ⟨res, m'⟩ := r
  obtain rfl : res = .error f := ha
  obtain rfl : m' = m := hm
  rfl

/-- A step is an instruction that succeeds, or a fault that changes nothing. -/
theorem step_cases (h : m.ptr < m.tape.length) :
    (∃ e m', m.act j (m.current p d) = (.ok e, m') ∧ m.step p j d = (.ok e, m'.advance)) ∨
    (∃ f, (m.act j (m.current p d)).1 = .error f ∧ m.step p j d = (.error f, m)) := by
  cases ha : m.act j (m.current p d) with
  | mk r m' =>
    cases r with
    | ok e => exact .inl ⟨e, m', rfl, step_ok h ha⟩
    | error f => exact .inr ⟨f, rfl, step_error h (by rw [ha])⟩

theorem step_fst (h : m.ptr < m.tape.length) :
    (m.step p j d).1 = (m.act j (m.current p d)).1 := by
  rcases step_cases (p := p) (j := j) (d := d) h with ⟨e, m', ha, hs⟩ | ⟨f, ha, hs⟩
  · rw [hs, ha]
  · rw [hs, ha]

theorem exists_act_of_step (h : m.ptr < m.tape.length) (hs : m.step p j d = (.ok e, m')) :
    ∃ m₁, m.act j (m.current p d) = (.ok e, m₁) ∧ m' = m₁.advance := by
  rcases step_cases (p := p) (j := j) (d := d) h with ⟨e₁, m₁, ha, hs₁⟩ | ⟨f, -, hs₁⟩
  · rw [hs₁] at hs
    obtain ⟨he, rfl⟩ := Prod.mk.inj hs
    obtain rfl := Except.ok.inj he
    exact ⟨m₁, ha, rfl⟩
  · rw [hs₁] at hs
    cases hs

theorem step_eq_of_error (h : m.ptr < m.tape.length) (hf : (m.step p j d).1 = .error f) :
    m.step p j d = (.error f, m) := by
  rw [step_fst h] at hf
  exact step_error h hf

/-- **The faults of a step**, and exactly when they arise: a move past either end of the tape, or a
bracket that has to jump and has no partner. -/
theorem step_error_iff (h : m.ptr < m.tape.length) : (m.step p j d).1 = .error f ↔
    (p.char? m.pc = some '<' ∧ m.ptr = 0 ∧ f = .belowZero m.tape.length) ∨
    (p.char? m.pc = some '>' ∧ m.growth = .fixed ∧ m.ptr + 1 = m.tape.length ∧
      f = .pastEnd m.tape.length m.tape.length) ∨
    (((p.char? m.pc = some '[' ∧ m.byte = 0) ∨ (p.char? m.pc = some ']' ∧ m.byte ≠ 0)) ∧
      j.partner? m.pc = none ∧ f = .unmatchedBracket m.pc) := by
  have hend : m.tape.length ≤ m.ptr + 1 ∧ f = .pastEnd (m.ptr + 1) m.tape.length ↔
      m.ptr + 1 = m.tape.length ∧ f = .pastEnd m.tape.length m.tape.length := by
    constructor
    · rintro ⟨hle, rfl⟩
      have hend : m.ptr + 1 = m.tape.length := by omega
      exact ⟨hend, by rw [hend]⟩
    · rintro ⟨hend, rfl⟩
      exact ⟨hend.ge, by rw [hend]⟩
  have hleft : m.current p d = .moveLeft ↔ p.char? m.pc = some '<' := current_eq_iff rfl rfl
  have hright : m.current p d = .moveRight ↔ p.char? m.pc = some '>' := current_eq_iff rfl rfl
  have hopen : m.current p d = .loopStart ↔ p.char? m.pc = some '[' := current_eq_iff rfl rfl
  have hclose : m.current p d = .loopEnd ↔ p.char? m.pc = some ']' := current_eq_iff rfl rfl
  rw [step_fst h, act_error_iff, hend, hleft, hright, hopen, hclose]

theorem cycles_step (h : m.ptr < m.tape.length) (hs : m.step p j d = (.ok e, m')) :
    m'.cycles = m.cycles + 1 := by
  obtain ⟨m₁, ha, rfl⟩ := exists_act_of_step h hs
  exact congrArg (· + 1) (act_ok h ha).cycles

/-! ## Soundness -/

/-- What every instruction of a program that loads keeps. -/
structure Sound (m : Machine) (p : Program) : Prop where
  ptr_lt : m.ptr < m.tape.length
  fits : m.tape.length ≤ m.tape.capacity
  pc_le : m.pc ≤ p.size
  inputPos_le : m.inputPos ≤ m.input.size

theorem sound_start (p : Program) (shape : Tape.Shape) (eof : UInt8) (input : Array UInt8) :
    (start shape eof input).Sound p where
  ptr_lt := by simp only [start, Tape.length_ofLength]; omega
  fits := Tape.length_le_capacity_ofLength _
  pc_le := Nat.zero_le _
  inputPos_le := Nat.zero_le _

theorem Sound.of_act (h : m.Sound p) (hj : Jumps.build p = .ok j) (hlive : m.halted p = false)
    (ha : m.act j (m.current p d) = (.ok e, m')) : m'.advance.Sound p := by
  have hf := act_ok h.ptr_lt ha
  refine ⟨hf.ptr_lt, hf.fits h.fits, ?_, hf.inputPos h.inputPos_le⟩
  show m'.pc + 1 ≤ p.size
  have hlt := halted_eq_false_iff.mp hlive
  rcases hf.pc with hpc | hpc
  · omega
  · -- a jump lands on a bracket of the program
    exact Jumps.partner_lt hj hpc

theorem Sound.step (h : m.Sound p) (hj : Jumps.build p = .ok j) (hlive : m.halted p = false)
    (d : Dialect) : (m.step p j d).2.Sound p := by
  rcases step_cases (p := p) (j := j) (d := d) h.ptr_lt with ⟨e, m', ha, hs⟩ | ⟨f, -, hs⟩
  · rw [hs]; exact h.of_act hj hlive ha
  · rw [hs]; exact h

theorem Sound.of_step (h : m.Sound p) (hj : Jumps.build p = .ok j) (hlive : m.halted p = false)
    (hs : m.step p j d = (.ok e, m')) : m'.Sound p := by
  have hstep := h.step hj hlive d
  rwa [hs] at hstep

end Machine

end Tapewalk
