import Tapewalk.Proofs.Run

/-!
# Traces of runs

`Machine.trace` lists the machines before each instruction of a run, each with the effect of its
instruction. What was executed and what was written can be read off from it, so it is the common
measure of events, views and outputs.
-/

namespace Tapewalk

/-- What an effect adds to the first output. -/
def Effect.toStdout : Effect → List UInt8
  | .stdout b => [b]
  | _ => []

/-- What an effect adds to the second output. -/
def Effect.toStderr : Effect → List UInt8
  | .stderr b => [b]
  | _ => []

namespace Machine

variable {p : Program} {j : Jumps} {m m' m'' : Machine} {d : Dialect} {k : ℕ} {e : Effect}
  {i : Instruction}

/-- The machines before the first `k` instructions, with the effects of these. It ends early where
the run does. -/
def trace (p : Program) (j : Jumps) (d : Dialect) : ℕ → Machine → List (Machine × Effect)
  | 0, _ => []
  | k + 1, m =>
    if m.halted p then []
    else match m.step p j d with
      | (.ok e, m') => (m, e) :: trace p j d k m'
      | (.error _, _) => []

/-- The characters of the first `k` instructions. -/
def executed (p : Program) (j : Jumps) (d : Dialect) (k : ℕ) (m : Machine) : List Char :=
  (m.trace p j d k).filterMap fun x => p.char? x.1.pc

/-! ## Longer traces -/

theorem trace_succ (hlive : m.halted p = false) (hs : m.step p j d = (.ok e, m')) :
    m.trace p j d (k + 1) = (m, e) :: m'.trace p j d k := by
  simp [trace, hlive, hs]

theorem Stopped.trace_succ (h : m.Stopped p j d) : m.trace p j d (k + 1) = [] := by
  rcases h with hend | ⟨f, hf⟩
  · simp [trace, hend]
  · cases hs : m.step p j d with
    | mk r m₁ =>
      rw [hs] at hf
      obtain rfl : r = .error f := hf
      simp [trace, hs]

theorem trace_snoc (h : m.after? p j d k = some m') (hlive : m'.halted p = false)
    (hs : m'.step p j d = (.ok e, m'')) :
    m.trace p j d (k + 1) = m.trace p j d k ++ [(m', e)] := by
  induction k generalizing m with
  | zero =>
    obtain rfl := Option.some.inj h
    exact trace_succ hlive hs
  | succ k ih =>
    obtain ⟨hlive₁, e₁, m₁, hs₁, hrest⟩ := after?_succ_eq_some_iff.mp h
    rw [trace_succ hlive₁ hs₁, trace_succ hlive₁ hs₁, ih hrest, List.cons_append]

theorem executed_snoc {c : Char} (h : m.after? p j d k = some m') (hc : p.char? m'.pc = some c)
    (hlive : m'.halted p = false) (hs : m'.step p j d = (.ok e, m'')) :
    m.executed p j d (k + 1) = m.executed p j d k ++ [c] := by
  simp [executed, trace_snoc h hlive hs, hc]

theorem executed_succ {c : Char} (hlive : m.halted p = false) (hc : p.char? m.pc = some c)
    (hs : m.step p j d = (.ok e, m')) :
    m.executed p j d (k + 1) = c :: m'.executed p j d k := by
  simp [executed, trace_succ hlive hs, hc]

theorem length_executed (h : m.after? p j d k = some m') : (m.executed p j d k).length = k := by
  induction k generalizing m with
  | zero => rfl
  | succ k ih =>
    obtain ⟨hlive, e, m₁, hs, hrest⟩ := after?_succ_eq_some_iff.mp h
    obtain ⟨c, hc⟩ := exists_char hlive
    rw [executed_succ hlive hc hs, List.length_cons, ih hrest]

theorem length_trace (h : m.after? p j d k = some m') : (m.trace p j d k).length = k := by
  induction k generalizing m with
  | zero => rfl
  | succ k ih =>
    obtain ⟨hlive, e, m₁, hs, hrest⟩ := after?_succ_eq_some_iff.mp h
    rw [trace_succ hlive hs, List.length_cons, ih hrest]

/-! ## Effects and outputs -/

theorem moveRight_quiet (h : m.moveRight = (.ok e, m')) :
    e = .none ∧ m'.stdout = m.stdout ∧ m'.stderr = m.stderr := by
  by_cases hn : m.ptr + 1 < m.tape.length
  · rw [moveRight_of_lt hn] at h
    cases h
    exact ⟨rfl, rfl, rfl⟩
  · cases hg : m.growth with
    | growable =>
      rw [moveRight_of_growable hn hg] at h
      cases h
      exact ⟨rfl, rfl, rfl⟩
    | fixed => rw [moveRight_of_fixed hn hg] at h; cases h

theorem moveLeft_quiet (h : m.moveLeft = (.ok e, m')) :
    e = .none ∧ m'.stdout = m.stdout ∧ m'.stderr = m.stderr := by
  by_cases hz : m.ptr = 0
  · rw [moveLeft_of_zero hz] at h; cases h
  · rw [moveLeft_of_pos hz] at h
    cases h
    exact ⟨rfl, rfl, rfl⟩

theorem jump_quiet (h : m.jump j = (.ok e, m')) :
    e = .none ∧ m'.stdout = m.stdout ∧ m'.stderr = m.stderr := by
  unfold jump at h
  split at h
  · cases h
    exact ⟨rfl, rfl, rfl⟩
  · cases h

theorem takeInput_quiet (m : Machine) :
    m.takeInput.2.stdout = m.stdout ∧ m.takeInput.2.stderr = m.stderr := by
  unfold takeInput
  split <;> exact ⟨rfl, rfl⟩

/-- What an instruction that succeeds makes of the outputs, and how it shows a breakpoint. -/
structure Shows (i : Instruction) (e : Effect) (m m' : Machine) : Prop where
  stdout : m'.stdout.toList = m.stdout.toList ++ e.toStdout
  stderr : m'.stderr.toList = m.stderr.toList ++ e.toStderr
  breakpoint : e = .breakpoint ↔ i = .breakpoint

theorem Shows.of_quiet (h : e = .none ∧ m'.stdout = m.stdout ∧ m'.stderr = m.stderr)
    (hi : i ≠ .breakpoint) : Shows i e m m' := by
  obtain ⟨rfl, hout, herr⟩ := h
  exact ⟨by simp [hout, Effect.toStdout], by simp [herr, Effect.toStderr], by simp [hi]⟩

theorem act_shows (ha : m.act j i = (.ok e, m')) : Shows i e m m' := by
  cases i with
  | moveRight => exact .of_quiet (moveRight_quiet ha) (by simp)
  | moveLeft => exact .of_quiet (moveLeft_quiet ha) (by simp)
  | loopStart | loopEnd =>
    simp only [act] at ha
    split at ha
    all_goals first
      | exact .of_quiet (jump_quiet ha) (by simp)
      | (cases ha; exact .of_quiet ⟨rfl, rfl, rfl⟩ (by simp))
  | read =>
    cases ha
    exact .of_quiet ⟨rfl, takeInput_quiet m⟩ (by simp)
  | increment | decrement | comment =>
    cases ha
    exact .of_quiet ⟨rfl, rfl, rfl⟩ (by simp)
  | write | writeSecondary | breakpoint =>
    cases ha
    exact ⟨by simp [Effect.toStdout], by simp [Effect.toStderr], by simp⟩

theorem step_shows (hlt : m.ptr < m.tape.length) (hs : m.step p j d = (.ok e, m')) :
    Shows (m.current p d) e m m' := by
  obtain ⟨m₁, ha, rfl⟩ := exists_act_of_step hlt hs
  have h := act_shows ha
  exact ⟨h.stdout, h.stderr, h.breakpoint⟩

/-- A stepped run shows a breakpoint exactly at an `@`. -/
theorem step_breakpoint_iff (hlt : m.ptr < m.tape.length)
    (hs : m.step p j .extended = (.ok e, m')) : e = .breakpoint ↔ p.char? m.pc = some '@' := by
  rw [(step_shows hlt hs).breakpoint]
  exact ⟨fun hi => char_of_current hi rfl, fun hc => current_of_char hc⟩

/-! ## What a trace tells -/

/-- **The outputs of a run** are the bytes of its effects, in order. -/
theorem outputs_after? (hj : Jumps.build p = .ok j) (hm : m.Sound p)
    (h : m.after? p j d k = some m') :
    m'.stdout.toList = m.stdout.toList ++ (m.trace p j d k).flatMap (·.2.toStdout) ∧
    m'.stderr.toList = m.stderr.toList ++ (m.trace p j d k).flatMap (·.2.toStderr) := by
  induction k generalizing m with
  | zero =>
    obtain rfl := Option.some.inj h
    simp [trace]
  | succ k ih =>
    obtain ⟨hlive, e, m₁, hs, hrest⟩ := after?_succ_eq_some_iff.mp h
    have h₁ := hm.step hj hlive d
    rw [hs] at h₁
    obtain ⟨hout, herr⟩ := ih h₁ hrest
    have hshows := step_shows hm.ptr_lt hs
    rw [trace_succ hlive hs, hout, herr, hshows.stdout, hshows.stderr]
    simp

/-- In a stepped run the effects that are breakpoints are as many as the `@` executed. -/
theorem count_breakpoints (hj : Jumps.build p = .ok j) (hm : m.Sound p) (k : ℕ) :
    (m.trace p j .extended k).countP (·.2 = .breakpoint) =
      (m.executed p j .extended k).count '@' := by
  induction k generalizing m with
  | zero => rfl
  | succ k ih =>
    unfold executed
    cases hh : m.halted p with
    | true => simp [trace, hh]
    | false =>
      obtain ⟨c, hc⟩ := exists_char hh
      cases hs : m.step p j .extended with
      | mk r m₁ =>
        cases r with
        | error f => simp [trace, hs]
        | ok e =>
          have h₁ := hm.step hj hh .extended
          rw [hs] at h₁
          have hrest := ih h₁
          unfold executed at hrest
          have hbreak := step_breakpoint_iff hm.ptr_lt hs
          rw [hc, Option.some.injEq] at hbreak
          rw [trace_succ hh hs, List.countP_cons, hrest]
          simp [hc, hbreak, List.count_cons]

end Machine

end Tapewalk
