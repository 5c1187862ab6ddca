import Tapewalk.Proofs.Lockstep
import Tapewalk.Stepper

/-!
# Stepping to the end

`Stepper.after` calls `Stepper.step` any number of times, whatever it answers. `Stepper.Stage` says
where that leads: along the run, to its end, or to the instruction that fails. A batch run of the
same program ends or fails in the same place, which is the agreement of the two modes.
-/

namespace Tapewalk

namespace Stepper

open Machine

variable {s : Stepper} {m : Machine} {e : Effect} {f : Fault} {n : ℕ}

/-! ## One call -/

theorem step_of_finished (h : s.finished = true) : s.step = .done .finished s := by
  simp only [step, h, if_true]

theorem step_of_halted (h : s.finished = false) (hh : s.machine.halted s.program = true) :
    s.step = ⟨.ok .finished, [ending s.machine], { s with finished := true }⟩ := by
  simp [step, h, hh]

theorem step_of_ok (h : s.finished = false) (hlive : s.machine.halted s.program = false)
    (hs : s.machine.step s.program s.jumps .extended = (.ok e, m)) :
    s.step = ⟨.ok (progressOf e), snapshot s.machine :: eventsOf e, { s with machine := m }⟩ := by
  simp [step, h, hlive, hs]

theorem step_of_error (h : s.finished = false) (hlive : s.machine.halted s.program = false)
    (hlt : s.machine.ptr < s.machine.tape.length)
    (hf : (s.machine.step s.program s.jumps .extended).1 = .error f) :
    s.step = ⟨.error f, [snapshot s.machine], s⟩ := by
  have hfin : ¬ s.finished = true := by rw [h]; decide
  have hend : ¬ s.machine.halted s.program = true := by rw [hlive]; decide
  unfold step
  rw [if_neg hfin, if_neg hend, step_eq_of_error hlt hf]

/-- The jumps are those of the program, and the machine is sound. -/
structure Steady (s : Stepper) : Prop where
  jumps : Jumps.build s.program = .ok s.jumps
  sound : s.machine.Sound s.program

/-- **What a call does** before the end is announced: it announces it, executes an instruction, or
meets a fault. -/
theorem Steady.step_cases (h : s.Steady) (hf : s.finished = false) :
    (s.machine.halted s.program = true ∧
      s.step = ⟨.ok .finished, [ending s.machine], { s with finished := true }⟩) ∨
    (∃ e m, s.machine.halted s.program = false ∧
      s.machine.step s.program s.jumps .extended = (.ok e, m) ∧
      s.step = ⟨.ok (progressOf e), snapshot s.machine :: eventsOf e, { s with machine := m }⟩) ∨
    (∃ f, s.machine.halted s.program = false ∧
      (s.machine.step s.program s.jumps .extended).1 = .error f ∧
      s.step = ⟨.error f, [snapshot s.machine], s⟩) := by
  have hlt := h.sound.ptr_lt
  cases hh : s.machine.halted s.program with
  | true => exact .inl ⟨rfl, step_of_halted hf hh⟩
  | false =>
    rcases Machine.step_cases (p := s.program) (j := s.jumps) (d := .extended) hlt with
      ⟨e, m, -, hs⟩ | ⟨f, -, hs⟩
    · exact .inr (.inl ⟨e, _, rfl, hs, step_of_ok hf hh hs⟩)
    · have hfail : (s.machine.step s.program s.jumps .extended).1 = .error f := by rw [hs]
      exact .inr (.inr ⟨f, rfl, hfail, step_of_error hf hh hlt hfail⟩)

theorem Steady.step (h : s.Steady) : s.step.state.Steady := by
  cases hf : s.finished with
  | true => rw [step_of_finished hf]; exact h
  | false =>
    rcases h.step_cases hf with ⟨-, hs⟩ | ⟨e, m, hlive, hm, hs⟩ | ⟨f, -, -, hs⟩
    · rw [hs]; exact ⟨h.jumps, h.sound⟩
    · have hsound := h.sound.step h.jumps hlive .extended
      rw [hm] at hsound
      rw [hs]; exact ⟨h.jumps, hsound⟩
    · rw [hs]; exact h

theorem progressOf_ne_finished (e : Effect) : progressOf e ≠ .finished := by
  cases e <;> simp [progressOf]

/-! ## Many calls -/

/-- The stepper after `n` calls of `step`, whatever they answered. -/
def after (s : Stepper) : ℕ → Stepper
  | 0 => s
  | n + 1 => (s.after n).step.state

/-- The machines at the end of the run. -/
def EndsAt (s : Stepper) (m : Machine) : Prop :=
  ∃ k, s.machine.after? s.program s.jumps .extended k = some m ∧ m.halted s.program = true

/-- The machines whose next instruction fails with `f`. -/
def FailsAt (s : Stepper) (m : Machine) (f : Fault) : Prop :=
  ∃ k, s.machine.after? s.program s.jumps .extended k = some m ∧ m.halted s.program = false ∧
    (m.step s.program s.jumps .extended).1 = .error f

/-- Where `n` calls lead. -/
inductive Stage (s : Stepper) (n : ℕ) : Stepper → Prop
  /-- Each call has executed an instruction. -/
  | running (m : Machine) : s.machine.after? s.program s.jumps .extended n = some m →
      Stage s n { s with machine := m }
  /-- The end was reached and has been announced. -/
  | ended (m : Machine) : s.EndsAt m → Stage s n { s with machine := m, finished := true }
  /-- An instruction failed, and has been tried again since. -/
  | stuck (m : Machine) (f : Fault) : s.FailsAt m f → Stage s n { s with machine := m }

/-- A stepper that has just been loaded: steady, and its end is not announced. -/
structure Loaded (s : Stepper) : Prop extends Steady s where
  fresh : s.finished = false

theorem Loaded.steady_of_after? (hl : s.Loaded)
    (h : s.machine.after? s.program s.jumps .extended n = some m) :
    Steady { s with machine := m } := ⟨hl.jumps, after?_sound hl.jumps hl.sound h⟩

/-- **What the next call does at a stage**: it stands at the end and says so, now or again; it
executes an instruction; or it meets the fault of the run. -/
theorem Stage.step_cases (hl : s.Loaded) {t : Stepper} (h : Stage s n t) :
    (s.EndsAt t.machine ∧ t.step.result = .ok .finished ∧
      (t.step.events = [] ∨ t.step.events = [ending t.machine]) ∧
      t.step.state = { s with machine := t.machine, finished := true }) ∨
    (∃ e m, s.machine.after? s.program s.jumps .extended (n + 1) = some m ∧
      t.step.result = .ok (progressOf e) ∧ t.step.state = { s with machine := m }) ∨
    (∃ f, s.FailsAt t.machine f ∧ t.step.result = .error f ∧
      t.step.state = { s with machine := t.machine }) := by
  cases h with
  | running m hm =>
    rcases (hl.steady_of_after? hm).step_cases hl.fresh with
      ⟨hh, hs⟩ | ⟨e, m', hh, hm', hs⟩ | ⟨f, hh, hf, hs⟩
    · rw [hs]; exact .inl ⟨⟨n, hm, hh⟩, rfl, .inr rfl, rfl⟩
    · rw [hs]; exact .inr (.inl ⟨e, m', after?_snoc hm hh hm', rfl, rfl⟩)
    · rw [hs]; exact .inr (.inr ⟨f, ⟨n, hm, hh, hf⟩, rfl, rfl⟩)
  | ended m hend =>
    rw [step_of_finished rfl]
    exact .inl ⟨hend, rfl, .inl rfl, rfl⟩
  | stuck m f hfail =>
    obtain ⟨k, hm, hh, hf⟩ := hfail
    have hlt := (hl.steady_of_after? hm).sound.ptr_lt
    rw [step_of_error (s := { s with machine := m }) hl.fresh hh hlt hf]
    exact .inr (.inr ⟨f, ⟨k, hm, hh, hf⟩, rfl, rfl⟩)

theorem after_stage (hl : s.Loaded) (n : ℕ) : Stage s n (s.after n) := by
  induction n with
  | zero => exact .running s.machine rfl
  | succ n ih =>
    show Stage s (n + 1) (s.after n).step.state
    rcases ih.step_cases hl with ⟨hend, -, -, ht⟩ | ⟨e, m, hm, -, ht⟩ | ⟨f, hfail, -, ht⟩
    · rw [ht]; exact .ended _ hend
    · rw [ht]; exact .running m hm
    · rw [ht]; exact .stuck _ f hfail

/-- As long as instructions succeed, each call executes one. -/
theorem after_of_after? (hl : s.Loaded)
    (h : s.machine.after? s.program s.jumps .extended n = some m) :
    s.after n = { s with machine := m } := by
  induction n generalizing m with
  | zero => obtain rfl := Option.some.inj h; rfl
  | succ n ih =>
    rw [after?_add] at h
    obtain ⟨m₁, h₁, h₂⟩ := Option.bind_eq_some_iff.mp h
    obtain ⟨hlive, e, m₂, hs, h₃⟩ := after?_succ_eq_some_iff.mp h₂
    obtain rfl := Option.some.inj h₃
    show (s.after n).step.state = _
    rw [ih h₁, step_of_ok (s := { s with machine := m₁ }) hl.fresh hlive hs]

/-- The stepper stands where `n` instructions lead exactly if each of its calls executed one. -/
theorem after?_eq_some_iff (hl : s.Loaded) :
    s.machine.after? s.program s.jumps .extended n = some m ↔
      (∀ i < n, (s.after i).step.result = .ok .executed ∨
        (s.after i).step.result = .ok .breakpoint) ∧ s.after n = { s with machine := m } := by
  constructor
  · intro h
    refine ⟨fun i hi => ?_, after_of_after? hl h⟩
    obtain ⟨c, rfl⟩ := Nat.exists_eq_add_of_lt hi
    rw [Nat.add_assoc, after?_add] at h
    obtain ⟨m₁, h₁, h₂⟩ := Option.bind_eq_some_iff.mp h
    obtain ⟨hlive, e, m₂, hs, -⟩ := after?_succ_eq_some_iff.mp h₂
    rw [after_of_after? hl h₁, step_of_ok (s := { s with machine := m₁ }) hl.fresh hlive hs]
    cases e <;> simp [progressOf]
  · rintro ⟨hres, hn⟩
    cases n with
    | zero =>
      have : s.machine = m := congrArg machine hn
      rw [← this]; rfl
    | succ n =>
      -- the last of the calls executed an instruction
      have hlast := hres n (Nat.lt_succ_self n)
      rcases (after_stage hl n).step_cases hl with ⟨-, hr, -⟩ | ⟨e, m', hm', -, ht⟩ | ⟨f, -, hr, -⟩
      · rw [hr] at hlast; simp at hlast
      · have : m' = m := congrArg machine (ht.symm.trans hn)
        rw [← this]; exact hm'
      · rw [hr] at hlast; simp at hlast

/-! ## The end and the faults -/

/-- The calls come to the end of the program: it is announced with the cycles and the output of `o`,
and the machine is left with the tape and the pointer of `o`. -/
def Finishes (s : Stepper) (o : Batch.Outcome) : Prop :=
  ∃ n err, (s.after n).step.result = .ok .finished ∧
    (s.after n).step.events = [.finished o.cycles o.stdout err] ∧
    (s.after n).machine.tape = o.tape ∧ (s.after n).machine.ptr = o.ptr

/-- A call that answers with the end stands at the end, and has announced it then or before. -/
theorem endsAt_of_result (hl : s.Loaded) (h : (s.after n).step.result = .ok .finished) :
    s.EndsAt (s.after n).machine ∧
      ((s.after n).step.events = [] ∨ (s.after n).step.events = [ending (s.after n).machine]) := by
  rcases (after_stage hl n).step_cases hl with ⟨hend, -, hev, -⟩ | ⟨e, m, -, hr, -⟩ | ⟨f, -, hr, -⟩
  · exact ⟨hend, hev⟩
  · rw [hr] at h
    exact absurd (Except.ok.inj h) (progressOf_ne_finished e)
  · rw [hr] at h
    cases h

/-- The end is only announced by a call that answers with it. -/
theorem result_of_mem_events {c : ℕ} {out err : Array UInt8}
    (h : .finished c out err ∈ s.step.events) : s.step.result = .ok .finished := by
  cases hfin : s.finished with
  | true => rw [step_of_finished hfin]; rfl
  | false =>
    cases hh : s.machine.halted s.program with
    | true => rw [step_of_halted hfin hh]
    | false =>
      simp only [step, hfin, hh, Bool.false_eq_true, if_false] at h
      split at h
      · rename_i e m hs
        cases e <;> simp [snapshot, eventsOf] at h
      · simp [snapshot] at h

/-- The first call at the end of the run announces it. -/
theorem step_of_endsAt (hl : s.Loaded) (h : s.EndsAt m) :
    ∃ n, (s.after n).machine = m ∧ (s.after n).step.result = .ok .finished ∧
      (s.after n).step.events = [ending m] := by
  obtain ⟨k, hm, hh⟩ := h
  refine ⟨k, ?_⟩
  rw [after_of_after? hl hm, step_of_halted (s := { s with machine := m }) hl.fresh hh]
  exact ⟨rfl, rfl, rfl⟩

theorem finishes_iff (hl : s.Loaded) {o : Batch.Outcome} :
    s.Finishes o ↔ ∃ m, s.EndsAt m ∧ m.outcome = o := by
  constructor
  · rintro ⟨n, err, hres, hev, htape, hptr⟩
    obtain ⟨hend, hev' | hev'⟩ := endsAt_of_result hl hres
    · rw [hev'] at hev; cases hev
    · refine ⟨_, hend, ?_⟩
      rw [hev'] at hev
      simp only [ending, List.cons.injEq, Event.finished.injEq, and_true] at hev
      obtain ⟨hc, hout, -⟩ := hev
      rw [outcome, hc, hout, htape, hptr]
  · rintro ⟨m, hend, rfl⟩
    obtain ⟨n, hm, hres, hev⟩ := step_of_endsAt hl hend
    exact ⟨n, m.stderr, hres, hev, by rw [hm]; rfl, by rw [hm]; rfl⟩

/-- A call fails exactly where an instruction of the run fails. -/
theorem reaches_error_iff (hl : s.Loaded) :
    (∃ n, (s.after n).step.result = .error f) ↔ ∃ m, s.FailsAt m f := by
  constructor
  · rintro ⟨n, h⟩
    rcases (after_stage hl n).step_cases hl with ⟨-, hr, -⟩ | ⟨e, m, -, hr, -⟩ | ⟨g, hfail, hr, -⟩
    · rw [hr] at h; cases h
    · rw [hr] at h; cases h
    · rw [hr] at h
      obtain rfl := Except.error.inj h
      exact ⟨_, hfail⟩
  · rintro ⟨m, k, hm, hh, hf⟩
    have hlt := (hl.steady_of_after? hm).sound.ptr_lt
    refine ⟨k, ?_⟩
    rw [after_of_after? hl hm, step_of_error (s := { s with machine := m }) hl.fresh hh hlt hf]

/-! ## Loading -/

variable {source : String} {shape : Tape.Shape} {eof : UInt8} {input : Array UInt8}

theorem load_of_build {j : Jumps} (h : Jumps.build (.ofString source) = .ok j) :
    load source shape eof input = .ok ⟨.ofString source, j, .start shape eof input, false⟩ := by
  simp only [load, h]
  rfl

theorem load_of_build_error (h : Jumps.build (.ofString source) = .error f) :
    load source shape eof input = .error f := by
  simp only [load, h]
  rfl

/-- What a stepper that loads is made of. -/
theorem load_ok (h : load source shape eof input = .ok s) : ∃ j,
    Jumps.build (.ofString source) = .ok j ∧
      s = ⟨.ofString source, j, .start shape eof input, false⟩ := by
  cases hj : Jumps.build (.ofString source) with
  | error g => rw [load_of_build_error hj] at h; cases h
  | ok j =>
    rw [load_of_build hj] at h
    exact ⟨j, rfl, (Except.ok.inj h).symm⟩

theorem loaded_of_load (h : load source shape eof input = .ok s) : s.Loaded := by
  obtain ⟨j, hj, rfl⟩ := load_ok h
  exact ⟨⟨hj, sound_start _ _ _ _⟩, rfl⟩

/-- Without a `:` the end is announced with an empty second output. -/
theorem stderr_of_mem_events (h : load source shape eof input = .ok s) (hq : ':' ∉ source.toList)
    {c : ℕ} {out err : Array UInt8} (hmem : .finished c out err ∈ (s.after n).step.events) :
    err = #[] := by
  have hl := loaded_of_load h
  obtain ⟨⟨k, hm, -⟩, hev | hev⟩ := endsAt_of_result hl (result_of_mem_events hmem)
  · rw [hev] at hmem; cases hmem
  · rw [hev] at hmem
    obtain ⟨j, -, rfl⟩ := load_ok h
    have hquiet := stderr_after? hl.jumps hl.sound (by simpa [Program.ofString] using hq) hm
    simp only [ending, List.mem_singleton, Event.finished.injEq] at hmem
    rw [hmem.2.2, hquiet]
    rfl

end Stepper

/-! ## The two modes agree -/

namespace Batch

variable {source : String} {shape : Tape.Shape} {eof : UInt8} {input : Array UInt8} {s : Stepper}

/-- The batch run of a text that loads is a run of the stepper's program. -/
theorem runSource_eq (h : Stepper.load source shape eof input = .ok s) :
    runSource source shape eof input = fun limit => run s.program s.jumps limit s.machine := by
  obtain ⟨j, hj, rfl⟩ := Stepper.load_ok h
  funext limit
  simp only [runSource, hj]

/-- A text that does not load fails without a cycle, and nothing else does. -/
theorem load_eq_error_iff {f : Fault} : Stepper.load source shape eof input = .error f ↔
    (∃ i, f = .unmatchedBracket i) ∧ ∀ limit, runSource source shape eof input limit = .failed f := by
  cases hj : Jumps.build (.ofString source) with
  | error g =>
    have hrun : ∀ limit, runSource source shape eof input limit = .failed g := by
      intro limit
      simp only [runSource, hj]
    simp only [Stepper.load_of_build_error hj, hrun, Except.error.injEq, Verdict.failed.injEq]
    exact ⟨fun h => ⟨h ▸ Jumps.build_error hj, fun _ => h⟩, fun h => h.2 0⟩
  | ok j =>
    rw [Stepper.load_of_build hj]
    refine ⟨fun h => (by cases h), fun ⟨_, h⟩ => ?_⟩
    have h₀ := h 0
    rw [runSource_eq (Stepper.load_of_build hj)] at h₀
    obtain ⟨k, hk, -⟩ := run_eq_failed_iff.mp h₀
    omega

open Machine

/-- The batch run ends with what is left where stepping ends. -/
theorem ends_runSource_iff (h : Stepper.load source shape eof input = .ok s) {o : Outcome} :
    Ends (runSource source shape eof input) o ↔ ∃ m, s.EndsAt m ∧ m.outcome = o := by
  have hl := Stepper.loaded_of_load h
  rw [runSource_eq h, ends_iff]
  constructor
  · rintro ⟨k, m', hm', hh, rfl⟩
    obtain ⟨m, hm, he⟩ := (exists_after?_muted hl.jumps hl.sound).2 m' hm'
    exact ⟨m, ⟨k, hm, halted_of_muted he ▸ hh⟩, outcome_of_muted he⟩
  · rintro ⟨m, ⟨k, hm, hh⟩, rfl⟩
    obtain ⟨m', hm', he⟩ := (exists_after?_muted hl.jumps hl.sound).1 m hm
    exact ⟨k, m', hm', halted_of_muted he ▸ hh, (outcome_of_muted he).symm⟩

/-- The batch run fails where stepping fails. -/
theorem fails_runSource_iff (h : Stepper.load source shape eof input = .ok s) {f : Fault} :
    Fails (runSource source shape eof input) f ↔ ∃ m, s.FailsAt m f := by
  have hl := Stepper.loaded_of_load h
  rw [runSource_eq h, fails_iff]
  constructor
  · rintro ⟨k, m', hm', hh, hf⟩
    obtain ⟨m, hm, he⟩ := (exists_after?_muted hl.jumps hl.sound).2 m' hm'
    have hlt := (after?_sound hl.jumps hl.sound hm).ptr_lt
    exact ⟨m, k, hm, halted_of_muted he ▸ hh, (step_error_muted hlt he).mpr hf⟩
  · rintro ⟨m, k, hm, hh, hf⟩
    obtain ⟨m', hm', he⟩ := (exists_after?_muted hl.jumps hl.sound).1 m hm
    have hlt := (after?_sound hl.jumps hl.sound hm).ptr_lt
    exact ⟨k, m', hm', halted_of_muted he ▸ hh, (step_error_muted hlt he).mp hf⟩

end Batch

open Machine Batch in
/-- **Both modes agree.** A text fails to load for a stepper exactly if it does for a batch run, over
the same bracket. Otherwise the machines of the two runs agree after any number of instructions, the
second output apart; the batch run ends exactly if stepping does, and hands back what is announced
then; and it fails exactly if stepping does, with the same fault. The second output stays empty
unless there is a `:`. -/
theorem stepping_agrees_with_batch (source : String) (shape : Tape.Shape) (eof : UInt8)
    (input : Array UInt8) :
    (∀ f, Stepper.load source shape eof input = .error f ↔
      (∃ i, f = .unmatchedBracket i) ∧ ∀ limit, runSource source shape eof input limit = .failed f) ∧
    ∀ s, Stepper.load source shape eof input = .ok s →
      (∀ k, (s.machine.after? s.program s.jumps .extended k).map muted =
          (s.machine.after? s.program s.jumps .classic k).map muted ∧
        (∀ m, s.machine.after? s.program s.jumps .extended k = some m ↔
          (∀ i < k, (s.after i).step.result = .ok .executed ∨
            (s.after i).step.result = .ok .breakpoint) ∧ s.after k = { s with machine := m }) ∧
        (∀ m, s.machine.after? s.program s.jumps .classic k = some m →
          runSource source shape eof input k =
            if m.halted s.program then .finished m else .unfinished m)) ∧
      (∀ o, Ends (runSource source shape eof input) o ↔ s.Finishes o) ∧
      ((∃ o, Ends (runSource source shape eof input) o) ↔
        ∃ n, (s.after n).step.result = .ok .finished) ∧
      (∀ f, Fails (runSource source shape eof input) f ↔
        ∃ n, (s.after n).step.result = .error f) ∧
      (':' ∉ source.toList → ∀ n c out err,
        .finished c out err ∈ (s.after n).step.events → err = #[]) := by
  refine ⟨fun f => load_eq_error_iff, fun s hs => ?_⟩
  have hl := Stepper.loaded_of_load hs
  refine ⟨fun k => ⟨after?_muted hl.jumps hl.sound rfl k, fun m => Stepper.after?_eq_some_iff hl, ?_⟩,
    fun o => (ends_runSource_iff hs).trans (Stepper.finishes_iff hl).symm, ?_,
    fun f => (fails_runSource_iff hs).trans (Stepper.reaches_error_iff hl).symm,
    fun hq n c out err => Stepper.stderr_of_mem_events hs hq⟩
  · intro m hm
    rw [runSource_eq hs]
    exact run_eq_of_after? hm
  · constructor
    · rintro ⟨o, ho⟩
      obtain ⟨m, hend, -⟩ := (ends_runSource_iff hs).mp ho
      obtain ⟨n, -, hres, -⟩ := Stepper.step_of_endsAt hl hend
      exact ⟨n, hres⟩
    · rintro ⟨n, hres⟩
      exact ⟨_, (ends_runSource_iff hs).mpr ⟨_, (Stepper.endsAt_of_result hl hres).1, rfl⟩⟩

open Batch in
/-- A text with both characters that only stepping knows, one without `:`, and one that does not
load. -/
theorem stepping_agrees_with_batch_on_texts :
    (∃ s, Stepper.load ":@." ⟨0, .fixed⟩ 7 #[] = .ok s ∧
      s.Finishes ⟨#[0], 3, .ofLength 1, 0⟩) ∧
    (∃ s, Stepper.load "+@." ⟨2, .growable⟩ 0 #[] = .ok s ∧ ':' ∉ "+@.".toList ∧
      ∀ n c out err, .finished c out err ∈ (s.after n).step.events → err = #[]) ∧
    Stepper.load "]" ⟨1, .fixed⟩ 0 #[] = .error (.unmatchedBracket 0) := by
  refine ⟨⟨_, rfl, ?_⟩, ⟨_, rfl, by decide, ?_⟩, ?_⟩
  · obtain ⟨-, hends, -⟩ := (stepping_agrees_with_batch ":@." ⟨0, .fixed⟩ 7 #[]).2 _ rfl
    exact (hends _).mp ⟨3, _, rfl, rfl⟩
  · obtain ⟨-, -, -, -, hquiet⟩ := (stepping_agrees_with_batch "+@." ⟨2, .growable⟩ 0 #[]).2 _ rfl
    exact hquiet (by decide)
  · exact ((stepping_agrees_with_batch "]" ⟨1, .fixed⟩ 0 #[]).1 _).mpr ⟨⟨0, rfl⟩, fun _ => rfl⟩

end Tapewalk
