import Tapewalk.Proofs.Run

/-!
# Structured loops

The meaning of a bracket tree, without program counter and jumps. A loop whose cell is zero costs one
cycle and does nothing. Otherwise `[` costs a cycle, and then the body and one cycle for `]` are
repeated until the cell is zero after the body. `Exec` gives how a text ends or fails, and holds of
nothing for a text that runs for ever.
-/

namespace Tapewalk

/-- What a structured run works on. Of the input only what has not been read is left. -/
structure Workspace where
  tape : Tape
  ptr : ℕ := 0
  growth : Growth
  input : List UInt8
  eof : UInt8
  cycles : ℕ := 0
  stdout : Array UInt8 := #[]
  deriving DecidableEq, Repr

namespace Workspace

/-- The workspace of a run that begins. -/
def start (shape : Tape.Shape) (eof : UInt8) (input : Array UInt8) : Workspace :=
  { tape := .ofLength (max 1 shape.length), growth := shape.growth, input := input.toList, eof }

/-- What a run that ends hands back. -/
def outcome (w : Workspace) : Batch.Outcome := ⟨w.stdout, w.cycles, w.tape, w.ptr⟩

/-- One cycle has passed. -/
def tick (w : Workspace) : Workspace := { w with cycles := w.cycles + 1 }

/-- The current cell. -/
def cell (w : Workspace) : Except Fault UInt8 := w.tape.get w.ptr

/-- Replaces the current cell. -/
def put (w : Workspace) (v : UInt8) : Except Fault Workspace := do
  return { w with tape := ← w.tape.set w.ptr v }

/-- What a single character does. -/
def act (w : Workspace) : Char → Except Fault Workspace
  | '+' => do w.put ((← w.cell) + 1)
  | '-' => do w.put ((← w.cell) - 1)
  | '>' =>
    if w.ptr + 1 < w.tape.length then .ok { w with ptr := w.ptr + 1 }
    else match w.growth with
      | .growable => .ok { w with ptr := w.ptr + 1, tape := w.tape.push 0 }
      | .fixed => .error (.pastEnd (w.ptr + 1) w.tape.length)
  | '<' =>
    if w.ptr = 0 then .error (.belowZero w.tape.length) else .ok { w with ptr := w.ptr - 1 }
  | ',' => { w with input := w.input.tail }.put (w.input.headD w.eof)
  | '.' => do return { w with stdout := w.stdout.push (← w.cell) }
  | _ => .ok w

end Workspace

/-- What is to be done: a text, or the rounds of a loop that has been entered. -/
inductive Task where
  | text (t : Tree)
  | rounds (body : Tree)

/-- How a task ends on a workspace, or fails. One relation for both kinds of task, so that a proof
about them is one induction. -/
inductive Exec : Task → Workspace → Except Fault Workspace → Prop
  | nil (w : Workspace) : Exec (.text .nil) w (.ok w)
  | char {c : Char} {hc : IsPlain c} {rest : Tree} {w w' : Workspace} {r : Except Fault Workspace} :
      w.act c = .ok w' → Exec (.text rest) w'.tick r → Exec (.text (.char c hc rest)) w r
  | charFault {c : Char} {hc : IsPlain c} {rest : Tree} {w : Workspace} {f : Fault} :
      w.act c = .error f → Exec (.text (.char c hc rest)) w (.error f)
  /-- The cell is zero: the loop costs one cycle. -/
  | skip {body rest : Tree} {w : Workspace} {r : Except Fault Workspace} :
      w.cell = .ok 0 → Exec (.text rest) w.tick r → Exec (.text (.loop body rest)) w r
  /-- The cell is not zero: one cycle for `[`, then the rounds. -/
  | enter {body rest : Tree} {w w' : Workspace} {v : UInt8} {r : Except Fault Workspace} :
      w.cell = .ok v → v ≠ 0 → Exec (.rounds body) w.tick (.ok w') → Exec (.text rest) w' r →
      Exec (.text (.loop body rest)) w r
  | enterFault {body rest : Tree} {w : Workspace} {v : UInt8} {f : Fault} :
      w.cell = .ok v → v ≠ 0 → Exec (.rounds body) w.tick (.error f) →
      Exec (.text (.loop body rest)) w (.error f)
  /-- The cell is zero after the body: `]` costs a cycle, and the loop is left. -/
  | last {body : Tree} {w w' : Workspace} :
      Exec (.text body) w (.ok w') → w'.cell = .ok 0 → Exec (.rounds body) w (.ok w'.tick)
  /-- The cell is not zero after the body: `]` costs a cycle, and the body is next. -/
  | again {body : Tree} {w w' : Workspace} {v : UInt8} {r : Except Fault Workspace} :
      Exec (.text body) w (.ok w') → w'.cell = .ok v → v ≠ 0 → Exec (.rounds body) w'.tick r →
      Exec (.rounds body) w r
  | roundFault {body : Tree} {w : Workspace} {f : Fault} :
      Exec (.text body) w (.error f) → Exec (.rounds body) w (.error f)

/-! ## Machines as workspaces -/

namespace Machine

variable {m : Machine} {j : Jumps} {c : Char}

/-- A machine without its program counter. -/
def view (m : Machine) : Workspace :=
  { tape := m.tape, ptr := m.ptr, growth := m.growth, input := m.input.toList.drop m.inputPos
    eof := m.eof, cycles := m.cycles, stdout := m.stdout }

theorem view_start (shape : Tape.Shape) (eof : UInt8) (input : Array UInt8) :
    (start shape eof input).view = .start shape eof input := rfl

@[simp] theorem outcome_view (m : Machine) : m.view.outcome = m.outcome := rfl

@[simp] theorem view_advance (m : Machine) : m.advance.view = m.view.tick := rfl

theorem cell_view (h : m.ptr < m.tape.length) : m.view.cell = .ok m.byte := cell_of_lt h

theorem put_view (h : m.ptr < m.tape.length) (v : UInt8) : m.view.put v = .ok (m.poke v).view := by
  have hset : m.tape.set m.ptr v = .ok (m.tape.write m.ptr v) := if_pos h
  simp only [Workspace.put, view, hset]
  rfl

theorem view_takeInput (m : Machine) : m.takeInput.1 = m.view.input.headD m.eof ∧
    m.takeInput.2.view = { m.view with input := m.view.input.tail } := by
  have hhead : m.view.input.head? = m.input[m.inputPos]? := by simp [view]
  cases hb : m.input[m.inputPos]? with
  | some b =>
    rw [hb] at hhead
    refine ⟨by simp [takeInput, hb, List.headD_eq_head?_getD, hhead], ?_⟩
    simp [takeInput, hb, view]
  | none =>
    rw [hb] at hhead
    have hnil : m.view.input = [] := List.head?_eq_none_iff.mp hhead
    refine ⟨by simp [takeInput, hb, hnil], ?_⟩
    simp only [takeInput, hb, hnil, List.tail_nil]
    rw [← hnil]

theorem act_view_of_comment {w : Workspace} (h : Instruction.ofChar .classic c = .comment) :
    w.act c = .ok w := by
  unfold Workspace.act
  split
  case h_7 => rfl
  -- the six characters with a meaning are no comments
  all_goals cases h

/-- A plain character means the same to a machine and to its view. -/
theorem act_view (hlt : m.ptr < m.tape.length) (hc : IsPlain c) :
    (∃ e m', m.act j (.ofChar .classic c) = (.ok e, m') ∧ m'.pc = m.pc ∧
      m.view.act c = .ok m'.view) ∨
    (∃ f, (m.act j (.ofChar .classic c)).1 = .error f ∧ m.view.act c = .error f) := by
  have hcell := cell_view hlt
  have hchar : ∀ {i c'}, Instruction.ofChar .classic c = i → i.toChar? = some c' → c = c' := by
    intro i c' hi hi'
    have hne : Instruction.ofChar .classic c ≠ .comment := by rw [hi]; rintro rfl; cases hi'
    have := Instruction.toChar?_ofChar hne
    rw [hi, hi'] at this
    exact (Option.some.inj this).symm
  cases hi : Instruction.ofChar .classic c with
  | increment =>
    obtain rfl := hchar hi rfl
    refine .inl ⟨_, _, rfl, rfl, ?_⟩
    simp only [Workspace.act, hcell]
    exact put_view hlt _
  | decrement =>
    obtain rfl := hchar hi rfl
    refine .inl ⟨_, _, rfl, rfl, ?_⟩
    simp only [Workspace.act, hcell]
    exact put_view hlt _
  | moveRight =>
    obtain rfl := hchar hi rfl
    by_cases hn : m.ptr + 1 < m.tape.length
    · exact .inl ⟨_, _, moveRight_of_lt hn, rfl, if_pos hn⟩
    · cases hg : m.growth with
      | growable =>
        refine .inl ⟨_, _, moveRight_of_growable hn hg, rfl, (if_neg hn).trans ?_⟩
        simp only [view, hg]
      | fixed =>
        refine .inr ⟨_, congrArg Prod.fst (moveRight_of_fixed hn hg), (if_neg hn).trans ?_⟩
        simp only [view, hg]
  | moveLeft =>
    obtain rfl := hchar hi rfl
    by_cases hz : m.ptr = 0
    · exact .inr ⟨_, congrArg Prod.fst (moveLeft_of_zero hz), if_pos hz⟩
    · exact .inl ⟨_, _, moveLeft_of_pos hz, rfl, if_neg hz⟩
  | read =>
    obtain rfl := hchar hi rfl
    obtain ⟨hb, hview⟩ := view_takeInput m
    have hin : m.takeInput.2.ptr < m.takeInput.2.tape.length := by simpa using hlt
    refine .inl ⟨_, _, rfl, ?_, ?_⟩
    · show m.takeInput.2.pc = m.pc
      unfold takeInput; split <;> rfl
    · show Workspace.put { m.view with input := m.view.input.tail } _ = _
      rw [← hview, ← put_view hin]
      exact congrArg _ hb.symm
  | write =>
    obtain rfl := hchar hi rfl
    refine .inl ⟨_, _, rfl, rfl, ?_⟩
    simp only [Workspace.act, hcell]
    rfl
  | comment => exact .inl ⟨_, _, rfl, rfl, act_view_of_comment hi⟩
  | loopStart => exact absurd (hchar hi rfl) hc.1
  | loopEnd => exact absurd (hchar hi rfl) hc.2
  | writeSecondary => obtain rfl := hchar hi rfl; cases hi
  | breakpoint => obtain rfl := hchar hi rfl; cases hi

end Machine

end Tapewalk
