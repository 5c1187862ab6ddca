import Tapewalk.Proofs.Run

/-!
# The two dialects in lockstep

To a batch run `:` and `@` are comments. A stepped run writes a byte to its second output or pauses
there, and otherwise does the same, so the two runs differ in the second output and in nothing else:
`Machine.muted` forgets it, and `Machine.after?_muted` says that the rest agrees after any number of
instructions. It takes soundness: off the tape `:` would fail where a comment does not.
-/

namespace Tapewalk

/-- What a batch run makes of an instruction. -/
def Instruction.classic : Instruction → Instruction
  | writeSecondary | breakpoint => comment
  | i => i

theorem Instruction.ofChar_classic (c : Char) : ofChar .classic c = (ofChar .extended c).classic := by
  unfold ofChar
  split <;> rfl

namespace Machine

variable {p : Program} {j : Jumps} {m m' : Machine} {i : Instruction}

/-- The machine without its second output. -/
def muted (m : Machine) : Machine := { m with stderr := #[] }

theorem ptr_of_muted (h : m.muted = m'.muted) : m.ptr = m'.ptr := by
  simpa only [muted] using congrArg ptr h

theorem tape_of_muted (h : m.muted = m'.muted) : m.tape = m'.tape := by
  simpa only [muted] using congrArg tape h

theorem pc_of_muted (h : m.muted = m'.muted) : m.pc = m'.pc := by
  simpa only [muted] using congrArg pc h

theorem outcome_of_muted (h : m.muted = m'.muted) : m.outcome = m'.outcome := by
  simpa only [muted, outcome] using congrArg outcome h

theorem halted_of_muted (h : m.muted = m'.muted) : m.halted p = m'.halted p := by
  simp only [halted, pc_of_muted h]

theorem muted_advance (h : m.muted = m'.muted) : m.advance.muted = m'.advance.muted :=
  congrArg advance h

theorem current_classic (m : Machine) (p : Program) :
    m.current p .classic = (m.current p .extended).classic := by
  unfold current Program.instruction?
  cases p.char? m.pc with
  | none => rfl
  | some c => exact Instruction.ofChar_classic c

/-! ## One instruction -/

/-- An instruction that leaves the second output alone does not depend on it either. -/
theorem act_withStderr (hi : i ≠ .writeSecondary) (bs : Array UInt8) :
    { m with stderr := bs }.act j i = ((m.act j i).1, { (m.act j i).2 with stderr := bs }) := by
  let φ : Machine → Machine := fun n => { n with stderr := bs }
  have h : Transparent φ := ⟨fun _ _ _ => rfl, fun _ _ => rfl⟩
  refine h.act (fun _ => jump_of_pc φ rfl fun _ => rfl) (fun _ => .inr rfl) (fun _ => ?_)
    fun hw => absurd hw hi
  simp only [takeInput, φ]
  split <;> rfl

theorem act_muted (hi : i ≠ .writeSecondary) :
    m.muted.act j i = ((m.act j i).1, (m.act j i).2.muted) := act_withStderr hi #[]

/-- What the two dialects make of one instruction differs in the second output at most. -/
theorem act_classic_muted (h : m.muted = m'.muted) (i : Instruction) :
    (m'.act j i.classic).2.muted = (m.act j i).2.muted ∧
      ∀ f, (m'.act j i.classic).1 = .error f ↔ (m.act j i).1 = .error f := by
  have hsame : ∀ k : Instruction, k ≠ .writeSecondary →
      (m'.act j k).2.muted = (m.act j k).2.muted ∧
        ∀ f, (m'.act j k).1 = .error f ↔ (m.act j k).1 = .error f := by
    intro k hk
    have h1 := act_muted (m := m) (j := j) hk
    have h2 := act_muted (m := m') (j := j) hk
    rw [← h, h1] at h2
    obtain ⟨hr, hs⟩ := Prod.mk.inj h2
    exact ⟨hs.symm, fun f => by rw [hr]⟩
  cases i with
  | writeSecondary => exact ⟨h.symm, fun f => by simp [act, Instruction.classic]⟩
  | breakpoint => exact ⟨h.symm, fun f => by simp [act, Instruction.classic]⟩
  | _ => exact hsame _ (by decide)

/-- **One instruction in both dialects**: it succeeds in both, and the second output apart the
machines still agree, or it fails in both with the same fault. -/
theorem step_muted (hlt : m.ptr < m.tape.length) (h : m.muted = m'.muted) :
    (∃ e e' n n', m.step p j .extended = (.ok e, n) ∧ m'.step p j .classic = (.ok e', n') ∧
      n.muted = n'.muted) ∨
    (∃ f, (m.step p j .extended).1 = .error f ∧ (m'.step p j .classic).1 = .error f) := by
  have hlt' : m'.ptr < m'.tape.length := by rwa [← ptr_of_muted h, ← tape_of_muted h]
  have hcur : m'.current p .classic = (m.current p .extended).classic := by
    rw [current_classic]
    simp only [current, pc_of_muted h]
  obtain ⟨hstate, hfault⟩ := act_classic_muted (j := j) h (m.current p .extended)
  rw [← hcur] at hstate hfault
  rcases step_cases (p := p) (j := j) (d := .classic) hlt' with ⟨e', n', ha', hs'⟩ | ⟨f, ha', hs'⟩
  · rcases step_cases (p := p) (j := j) (d := .extended) hlt with ⟨e, n, ha, hs⟩ | ⟨f, ha, hs⟩
    · rw [ha, ha'] at hstate
      exact .inl ⟨e, e', _, _, hs, hs', (muted_advance hstate).symm⟩
    · have := (hfault f).mpr ha
      rw [ha'] at this
      cases this
  · have ha := (hfault f).mp ha'
    exact .inr ⟨f, by rw [step_error hlt ha], by rw [hs']⟩

theorem step_error_muted (hlt : m.ptr < m.tape.length) (h : m.muted = m'.muted) {f : Fault} :
    (m.step p j .extended).1 = .error f ↔ (m'.step p j .classic).1 = .error f := by
  rcases step_muted (p := p) (j := j) hlt h with ⟨e, e', n, n', hs, hs', -⟩ | ⟨g, hg, hg'⟩
  · simp [hs, hs']
  · rw [hg, hg']

/-! ## Many instructions -/

/-- **Both dialects agree after any number of instructions**, the second output apart. -/
theorem after?_muted (hj : Jumps.build p = .ok j) (hs : m.Sound p) (h : m.muted = m'.muted) (k : ℕ) :
    (m.after? p j .extended k).map muted = (m'.after? p j .classic k).map muted := by
  induction k generalizing m m' with
  | zero => exact congrArg some h
  | succ k ih =>
    have hh := halted_of_muted (p := p) h
    cases hm : m.halted p with
    | true =>
      rw [after?_succ_of_halted hm, after?_succ_of_halted (hh ▸ hm)]
    | false =>
      rcases step_muted (p := p) (j := j) hs.ptr_lt h with
        ⟨e, e', n, n', hstep, hstep', hn⟩ | ⟨f, hf, hf'⟩
      · rw [after?_succ hm hstep, after?_succ (hh ▸ hm) hstep']
        have hsound := hs.step hj hm .extended
        rw [hstep] at hsound
        exact ih hsound hn
      · rw [after?_succ_of_error hf, after?_succ_of_error hf']

/-- Where one dialect leads, the other one does. -/
theorem exists_after?_muted (hj : Jumps.build p = .ok j) (hs : m.Sound p) {k : ℕ} :
    (∀ n, m.after? p j .extended k = some n →
      ∃ n', m.after? p j .classic k = some n' ∧ n.muted = n'.muted) ∧
    (∀ n', m.after? p j .classic k = some n' →
      ∃ n, m.after? p j .extended k = some n ∧ n.muted = n'.muted) := by
  have h := after?_muted hj hs (rfl : m.muted = m.muted) k
  refine ⟨fun n hn => ?_, fun n' hn' => ?_⟩
  · rw [hn] at h
    obtain ⟨n', hn', he⟩ := Option.map_eq_some_iff.mp h.symm
    exact ⟨n', hn', he.symm⟩
  · rw [hn'] at h
    exact Option.map_eq_some_iff.mp h

/-! ## A program without `:` -/

theorem stderr_act (hi : i ≠ .writeSecondary) : (m.act j i).2.stderr = m.stderr :=
  congrArg (·.2.stderr) (act_withStderr (m := m) (j := j) hi m.stderr)

/-- A program without `:` never writes to its second output. -/
theorem stderr_after? (hj : Jumps.build p = .ok j) (hs : m.Sound p) (hp : ':' ∉ p.chars.toList)
    {k : ℕ} {n : Machine} (h : m.after? p j .extended k = some n) : n.stderr = m.stderr := by
  induction k generalizing m with
  | zero => obtain rfl := Option.some.inj h; rfl
  | succ k ih =>
    obtain ⟨hlive, e, m₁, hstep, hrest⟩ := after?_succ_eq_some_iff.mp h
    have hi : m.current p .extended ≠ .writeSecondary := by
      intro hi
      have hc := char_of_current hi rfl
      rw [Program.char?, ← Array.getElem?_toList] at hc
      exact hp (List.mem_of_getElem? hc)
    have hsound := hs.of_step hj hlive hstep
    obtain ⟨n', ha, rfl⟩ := exists_act_of_step hs.ptr_lt hstep
    have h₁ := stderr_act (m := m) (j := j) hi
    rw [ha] at h₁
    exact (ih hsound hrest).trans h₁

end Machine

end Tapewalk
