import Tapewalk.Proofs.Schedule

/-!
# The life of a session

The status, the metronome and the stepper's own flag are written in different places. `Session.Sound`
says how they agree. What a step can do to a sound session is listed once in `Session.Stepped`, what
any operation can do in `Session.Turn`; the invariant and all facts about single operations are read
off from these lists.
-/

namespace Tapewalk

theorem Metronome.fire_eq_true {m m' : Metronome} {now : ℕ} (h : m.fire now = (true, m')) :
    (∃ due, m.next = some due ∧ due ≤ now) ∧ m' = m.arm now := by
  unfold fire at h
  split at h
  · rename_i due hdue
    split at h
    · rename_i hle
      obtain ⟨-, rfl⟩ := Prod.mk.inj h
      exact ⟨⟨due, hdue, hle⟩, rfl⟩
    · cases h
  · cases h

namespace Session

open Stepper (snapshot ending eventsOf)

variable {s : Session} {ops : List Op}

/-! ## What operations can do -/

/-- Status, metronome and stepper agree. -/
structure Sound (s : Session) : Prop where
  steady : s.stepper.Steady
  armed : s.metronome.isArmed = true ↔ s.status = .stepping
  finished : s.stepper.finished = true ↔ s.status = .finished
  halted : s.status = .finished → s.machine.halted s.stepper.program = true

/-- What a step can do to a session that is not over. -/
inductive Stepped (s : Session) : Reaction Session Refusal Progress → Prop
  /-- The end of the program was reached before. -/
  | ended : s.machine.halted s.stepper.program = true →
      Stepped s ⟨.ok .finished, [ending s.machine],
        { s with stepper := { s.stepper with finished := true } }.settle .finished⟩
  | executed (e : Effect) (m : Machine) : s.machine.halted s.stepper.program = false →
      s.machine.step s.stepper.program s.stepper.jumps .extended = (.ok e, m) → e ≠ .breakpoint →
      Stepped s ⟨.ok .executed, snapshot s.machine :: eventsOf e,
        { s with stepper := { s.stepper with machine := m } }⟩
  | paused (m : Machine) : s.machine.halted s.stepper.program = false →
      s.machine.step s.stepper.program s.stepper.jumps .extended = (.ok .breakpoint, m) →
      Stepped s ⟨.ok .breakpoint, [snapshot s.machine, .breakpoint],
        { s with stepper := { s.stepper with machine := m } }.settle .paused⟩
  | failed (f : Fault) : s.machine.halted s.stepper.program = false →
      (s.machine.step s.stepper.program s.stepper.jumps .extended).1 = .error f →
      Stepped s ⟨.error (.fault f), [snapshot s.machine, .error f.message], s.settle .aborted⟩

/-- What an operation can do to a session. A tick arms the metronome anew before it steps. -/
inductive Turn (s : Session) : Reaction Session Refusal Answer → Prop
  | refused {e : Refusal} : e.isRuntime = false → Turn s (.refused e s)
  | idle : Turn s (.done .idle s)
  | paced {metronome : Metronome} {status : Status} : s.status.isTerminal = false →
      status.isTerminal = false → (metronome.isArmed = true ↔ status = .stepping) →
      Turn s (.done .done { s with metronome, status })
  | stepped {metronome : Metronome} {r : Reaction Session Refusal Progress} :
      s.status.isTerminal = false → metronome.isArmed = s.metronome.isArmed →
      Stepped { s with metronome } r → Turn s (r.map .progressed)

theorem ne_finished_of_live (h : s.status.isTerminal = false) : s.status ≠ .finished := by
  intro hs
  rw [hs] at h
  cases h

theorem ne_aborted_of_live (h : s.status.isTerminal = false) : s.status ≠ .aborted := by
  intro hs
  rw [hs] at h
  cases h

theorem Sound.not_finished (h : s.Sound) (hlive : s.status.isTerminal = false) :
    s.stepper.finished = false := by
  have hne : ¬ s.stepper.finished = true := h.finished.not.mpr (ne_finished_of_live hlive)
  exact Bool.eq_false_iff.mpr hne

theorem Sound.stepped (h : s.Sound) (hlive : s.status.isTerminal = false) : s.Stepped s.step := by
  have hopen := h.not_finished hlive
  have hstep : s.step = _ := whileLive_of_live hlive
  dsimp only at hstep
  rcases h.steady.step_cases hopen with ⟨hh, hs⟩ | ⟨e, m, hh, hm, hs⟩ | ⟨f, hh, hf, hs⟩
  · rw [hs] at hstep
    rw [hstep]
    exact .ended hh
  · rw [hs] at hstep
    cases e with
    | breakpoint => rw [hstep]; exact .paused m hh hm
    | none | stdout b | stderr b => rw [hstep]; exact .executed _ m hh hm (by simp)
  · rw [hs] at hstep
    rw [hstep]
    exact .failed f hh hf

theorem Sound.with_metronome (h : s.Sound) {metronome : Metronome}
    (hm : metronome.isArmed = s.metronome.isArmed) : Sound { s with metronome } :=
  ⟨h.steady, by rw [hm]; exact h.armed, h.finished, h.halted⟩

theorem whileLive_of_terminal {α : Type} {op : Session → Reaction Session Refusal α}
    (h : s.status.isTerminal = true) :
    s.whileLive op = .refused (.sessionFinished s.id) s := if_pos h

/-- What an operation does to a session that is over. -/
theorem perform_of_terminal (h : s.status.isTerminal = true) :
    (∀ now, s.begin now = .refused (.sessionFinished s.id) s) ∧
    s.stop = .refused (.sessionFinished s.id) s ∧
    (∀ interval now, s.restart interval now = .refused (.sessionFinished s.id) s) ∧
    s.step = .refused (.sessionFinished s.id) s ∧
    ∀ now, s.tick now = .done none s := by
  have hne : ¬ s.status = .stepping := by
    intro hs
    rw [hs] at h
    cases h
  exact ⟨fun _ => whileLive_of_terminal h, whileLive_of_terminal h,
    fun _ _ => whileLive_of_terminal h, whileLive_of_terminal h, fun _ => if_neg hne⟩

/-- Either way of a restart leads to the same pace. -/
theorem Sound.restart_of_live (h : s.Sound) (hlive : s.status.isTerminal = false)
    (interval now : ℕ) : s.restart interval now =
      .done () { s with metronome := ⟨interval, some (now + interval)⟩, status := .stepping } := by
  rw [restart, whileLive_of_live hlive]
  by_cases hs : s.status = .stepping
  · -- the metronome is armed, so the new interval counts from now
    have harmed := h.armed.mpr hs
    have hset : s.metronome.setInterval interval now = ⟨interval, some (now + interval)⟩ :=
      if_pos harmed
    rw [if_pos hs, hset]
    cases s with
    | mk id stepper status metronome => cases hs; rfl
  · rw [if_neg hs]
    exact whileLive_of_live (s := { s with metronome := { interval } }) hlive

theorem turn_step (h : s.Sound) : s.Turn (s.perform .step) := by
  cases hlive : s.status.isTerminal with
  | true =>
    rw [perform, (perform_of_terminal hlive).2.2.2.1]
    exact .refused rfl
  | false => exact .stepped hlive rfl (h.stepped hlive)

theorem turn_tick (h : s.Sound) (now : ℕ) : s.Turn (s.perform (.tick now)) := by
  rw [perform, tick]
  by_cases hs : s.status = .stepping
  · rw [if_pos hs]
    have hlive : s.status.isTerminal = false := by rw [hs]; rfl
    cases hf : s.metronome.fire now with
    | mk due metronome =>
      cases due with
      | false => exact .idle
      | true =>
        obtain ⟨-, rfl⟩ := Metronome.fire_eq_true hf
        have harmed : (s.metronome.arm now).isArmed = s.metronome.isArmed := (h.armed.mpr hs).symm
        have hstep := (h.with_metronome harmed).stepped hlive
        show s.Turn (({ s with metronome := s.metronome.arm now }.step.map some).map .ofTick)
        rw [Reaction.map_map]
        exact .stepped hlive harmed hstep
  · rw [if_neg hs]
    exact .idle

/-- **What an operation can do** to a sound session. -/
theorem Sound.turn (h : s.Sound) (op : Op) : s.Turn (s.perform op) := by
  cases op with
  | step => exact turn_step h
  | tick now => exact turn_tick h now
  | begin now =>
    cases hlive : s.status.isTerminal with
    | true =>
      rw [perform, (perform_of_terminal hlive).1]
      exact .refused rfl
    | false =>
      rw [perform, begin, whileLive_of_live hlive]
      exact .paced hlive rfl (by simp [Metronome.arm, Metronome.isArmed])
  | stop =>
    cases hlive : s.status.isTerminal with
    | true =>
      rw [perform, (perform_of_terminal hlive).2.1]
      exact .refused rfl
    | false =>
      rw [perform, stop, whileLive_of_live hlive]
      by_cases hs : s.status = .stepping
      · rw [if_pos hs]
        exact .paced hlive rfl (by simp [Metronome.cancel, Metronome.isArmed])
      · rw [if_neg hs]
        exact .refused rfl
  | restart interval now =>
    cases hlive : s.status.isTerminal with
    | true =>
      rw [perform, (perform_of_terminal hlive).2.2.1]
      exact .refused rfl
    | false =>
      rw [perform, h.restart_of_live hlive]
      exact .paced hlive rfl (by simp [Metronome.isArmed])

/-! ## What operations keep -/

/-- What no operation changes: the number and the loaded program. -/
structure SameRun (s t : Session) : Prop where
  id : t.id = s.id
  program : t.stepper.program = s.stepper.program
  jumps : t.stepper.jumps = s.stepper.jumps

theorem Stepped.sameRun {r : Reaction Session Refusal Progress} (hr : s.Stepped r) :
    s.SameRun r.state := by
  cases hr <;> exact ⟨rfl, rfl, rfl⟩

theorem Turn.sameRun {r : Reaction Session Refusal Answer} (hr : s.Turn r) : s.SameRun r.state := by
  cases hr with
  | refused _ | idle | paced _ _ _ => exact ⟨rfl, rfl, rfl⟩
  | stepped _ _ hstep =>
    have h := hstep.sameRun
    exact ⟨h.id, h.program, h.jumps⟩

theorem armed_settle (s : Session) {status : Status} (hs : status ≠ .stepping) :
    (s.settle status).metronome.isArmed = true ↔ (s.settle status).status = .stepping := by
  simp [settle, Metronome.cancel, Metronome.isArmed, hs]

theorem Sound.of_stepped (h : s.Sound) (hlive : s.status.isTerminal = false)
    {r : Reaction Session Refusal Progress} (hr : s.Stepped r) : r.state.Sound := by
  have hne := ne_finished_of_live hlive
  have hopen := h.not_finished hlive
  have hsteady : ∀ {e m}, s.machine.halted s.stepper.program = false →
      s.machine.step s.stepper.program s.stepper.jumps .extended = (.ok e, m) →
      Stepper.Steady { s.stepper with machine := m } := by
    intro e m hh hm
    have hsound := h.steady.sound.step h.steady.jumps hh .extended
    rw [show s.stepper.machine.step s.stepper.program s.stepper.jumps .extended = _ from hm] at hsound
    exact ⟨h.steady.jumps, hsound⟩
  cases hr with
  | ended hh =>
    exact ⟨⟨h.steady.jumps, h.steady.sound⟩, armed_settle _ (by simp), ⟨fun _ => rfl, fun _ => rfl⟩,
      fun _ => hh⟩
  | executed e m hh hm _ =>
    exact ⟨hsteady hh hm, h.armed, h.finished, fun hs => absurd hs hne⟩
  | paused m hh hm =>
    exact ⟨hsteady hh hm, armed_settle _ (by simp), by simp [settle, hopen], by simp [settle]⟩
  | failed f hh hf =>
    exact ⟨h.steady, armed_settle _ (by simp), by simp [settle, hopen], by simp [settle]⟩

/-- **One operation keeps the agreement.** -/
theorem Sound.of_turn (h : s.Sound) {r : Reaction Session Refusal Answer} (hr : s.Turn r) :
    r.state.Sound := by
  cases hr with
  | refused _ | idle => exact h
  | @paced metronome status hlive hstatus harmed =>
    have hopen := h.not_finished hlive
    have hne : status ≠ .finished := by
      rintro rfl
      cases hstatus
    have hflag : s.stepper.finished = true ↔ status = .finished := by simp [hopen, hne]
    exact ⟨h.steady, harmed, hflag, fun hs => absurd hs hne⟩
  | stepped hlive harmed hstep => exact (h.with_metronome harmed).of_stepped hlive hstep

theorem Sound.after (h : s.Sound) (ops : List Op) : (s.after ops).Sound := by
  induction ops generalizing s with
  | nil => exact h
  | cons op ops ih => exact ih (h.of_turn (h.turn op))

theorem Sound.sameRun_after (h : s.Sound) (ops : List Op) : s.SameRun (s.after ops) := by
  induction ops generalizing s with
  | nil => exact ⟨rfl, rfl, rfl⟩
  | cons op ops ih =>
    have hop := (h.turn op).sameRun
    have hrest := ih (h.of_turn (h.turn op))
    exact ⟨hrest.id.trans hop.id, hrest.program.trans hop.program, hrest.jumps.trans hop.jumps⟩

/-- A refusal for any other reason than a fault of the program changes nothing. -/
theorem Turn.state_of_refused {r : Reaction Session Refusal Answer} (hr : s.Turn r) {e : Refusal}
    (he : r.result = .error e) (hrun : e.isRuntime = false) : r.state = s := by
  cases hr with
  | refused _ | idle => rfl
  | paced _ _ _ => cases he
  | stepped _ _ hstep =>
    cases hstep with
    | failed f _ _ => cases he; cases hrun
    | _ => cases he

theorem Turn.state_of_idle {r : Reaction Session Refusal Answer} (hr : s.Turn r)
    (hidle : r.result = .ok .idle) : r.state = s := by
  cases hr with
  | refused _ | idle => rfl
  | paced _ _ _ => cases hidle
  | stepped _ _ hstep => cases hstep <;> cases hidle

theorem after_of_terminal (h : s.status.isTerminal = true) (ops : List Op) : s.after ops = s := by
  obtain ⟨hbegin, hstop, hrestart, hstep, htick⟩ := perform_of_terminal h
  induction ops with
  | nil => rfl
  | cons op ops ih =>
    have hstate : (s.perform op).state = s := by
      cases op with
      | begin now => rw [perform, hbegin]; rfl
      | stop => rw [perform, hstop]; rfl
      | restart interval now => rw [perform, hrestart]; rfl
      | step => rw [perform, hstep]; rfl
      | tick now => rw [perform, htick]; rfl
    rw [after, hstate, ih]

variable {id : SessionId} {source : String} {shape : Tape.Shape} {eof : UInt8} {input : Array UInt8}
  {interval : ℕ}

theorem sound_of_load (h : load id source shape eof input interval = .ok s) :
    s.Sound ∧ s.id = id := by
  obtain ⟨st, hst, rfl⟩ := load_ok h
  have hl := Stepper.loaded_of_load hst
  refine ⟨⟨hl.toSteady, by simp [Metronome.isArmed], ?_, by simp⟩, rfl⟩
  simp [hl.fresh]

end Session

open Session in
/-- **The life of a session.** Whatever has been done to a loaded session, its metronome is armed
exactly while it is stepping, its stepper has announced the end exactly if its status says so, and
then the program is at its end. Changes of pace leave the stepper alone; a refusal other than a fault
of the program, and a tick that is not due, change nothing; a restart leads to the same pace from
wherever the session stands. A session that is over refuses everything, tells nothing more and stays
as it is. -/
theorem session_life (id : SessionId) (source : String) (shape : Tape.Shape) (eof : UInt8)
    (input : Array UInt8) (interval : ℕ) (s : Session)
    (hs : Session.load id source shape eof input interval = .ok s) (ops : List Op) (t : Session)
    (ht : t = s.after ops) :
    ((t.metronome.isArmed = true ↔ t.status = .stepping) ∧
      (t.stepper.finished = true ↔ t.status = .finished) ∧
      (t.status = .finished → t.machine.halted t.stepper.program = true)) ∧
    ((∀ now, (t.begin now).state.stepper = t.stepper) ∧ t.stop.state.stepper = t.stepper ∧
      ∀ i now, (t.restart i now).state.stepper = t.stepper) ∧
    (∀ op e, (t.perform op).result = .error e → e.isRuntime = false → (t.perform op).state = t) ∧
    (∀ now, (t.tick now).result = .ok none → (t.tick now).state = t) ∧
    (t.status.isTerminal = false → ∀ i now, t.restart i now =
      .done () { t with status := .stepping, metronome := ⟨i, some (now + i)⟩ }) ∧
    (t.status = .finished ∨ t.status = .aborted →
      (∀ now, t.begin now = .refused (.sessionFinished id) t) ∧
      t.stop = .refused (.sessionFinished id) t ∧
      (∀ i now, t.restart i now = .refused (.sessionFinished id) t) ∧
      t.step = .refused (.sessionFinished id) t ∧
      (∀ now, t.tick now = .done none t) ∧
      ∀ ops', t.log ops' = [] ∧ t.after ops' = t) := by
  obtain ⟨hload, hid⟩ := sound_of_load hs
  have hsound : t.Sound := ht ▸ hload.after ops
  have hid' : t.id = id := by rw [ht, (hload.sameRun_after ops).id, hid]
  refine ⟨⟨hsound.armed, hsound.finished, hsound.halted⟩,
    ⟨fun now => (idle_begin t now).stepper, (idle_stop t).stepper,
      fun i now => (idle_restart t i now).stepper⟩,
    fun op e he hrun => (hsound.turn op).state_of_refused he hrun, fun now hnone => ?_,
    fun hlive i now => hsound.restart_of_live hlive i now, fun hover => ?_⟩
  · have hidle : (t.perform (.tick now)).result = .ok .idle := by
      show (t.tick now).result.map Answer.ofTick = .ok Answer.idle
      rw [hnone]
      rfl
    exact (hsound.turn (.tick now)).state_of_idle hidle
  · have hterminal : t.status.isTerminal = true := by
      rcases hover with h | h <;> rw [h] <;> rfl
    obtain ⟨hbegin, hstop, hrestart, hstep, htick⟩ := perform_of_terminal hterminal
    rw [hid'] at hbegin hstop hrestart hstep
    exact ⟨hbegin, hstop, hrestart, hstep, htick,
      fun ops' => ⟨log_of_terminal hterminal, after_of_terminal hterminal ops'⟩⟩

open Session in
/-- Stopped by a breakpoint and restarted, then aborted by a fault. -/
theorem session_life_of_abort :
    ∃ s t u, Session.load ⟨7⟩ "+@<" ⟨1, .fixed⟩ 0 #[] 5 = .ok s ∧
      t = s.after [.begin 0, .tick 5, .tick 10] ∧ t.status = .paused ∧
      t.restart 3 20 = .done () { t with status := .stepping, metronome := ⟨3, some 23⟩ } ∧
      u = s.after [.begin 0, .tick 5, .tick 10, .restart 3 20, .tick 23] ∧ u.status = .aborted ∧
      u.step = .refused (.sessionFinished ⟨7⟩) u ∧ u.log [.restart 1 30, .step, .tick 31] = [] := by
  refine ⟨_, _, _, rfl, rfl, rfl, ?_, rfl, rfl, ?_, ?_⟩
  · exact (session_life ⟨7⟩ "+@<" ⟨1, .fixed⟩ 0 #[] 5 _ rfl _ _ rfl).2.2.2.2.1 rfl 3 20
  · exact ((session_life ⟨7⟩ "+@<" ⟨1, .fixed⟩ 0 #[] 5 _ rfl _ _ rfl).2.2.2.2.2 (.inr rfl)).2.2.2.1
  · exact (((session_life ⟨7⟩ "+@<" ⟨1, .fixed⟩ 0 #[] 5 _ rfl _ _ rfl).2.2.2.2.2
      (.inr rfl)).2.2.2.2.2 _).1

end Tapewalk
