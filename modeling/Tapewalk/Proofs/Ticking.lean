import Tapewalk.Proofs.Deadlines
import Tapewalk.Proofs.Reporting

/-!
# Left to the ticks

What becomes of a session and of its worker when nothing but ticks comes. A session that is stepping
goes on until a breakpoint, the end of its program or a fault, and the event that tells of it is the
last one (`Session.Sound.log_ticks`).
-/

namespace Tapewalk

/-! ## A session that is left to its ticks -/

/-- Nothing is stepped after this event unless somebody asks for it. -/
def Event.stops : Event → Bool
  | .breakpoint | .finished .. | .error _ => true
  | .step .. | .stdout _ | .stderr _ => false

/-- The last event stops the stepping, and no other does. -/
def StopsLast (es : List Event) : Prop :=
  ∃ init e, es = init ++ [e] ∧ e.stops = true ∧ ∀ x ∈ init, x.stops = false

theorem StopsLast.append {es es' : List Event} (h : StopsLast es') (hes : ∀ x ∈ es, x.stops = false) :
    StopsLast (es ++ es') := by
  obtain ⟨init, e, rfl, he, hinit⟩ := h
  refine ⟨es ++ init, e, (List.append_assoc _ _ _).symm, he, ?_⟩
  intro x hx
  rcases List.mem_append.mp hx with hx | hx
  · exact hes x hx
  · exact hinit x hx

namespace Session

open Stepper (snapshot eventsOf)

variable {s : Session}

theorem stops_told (m : Machine) {e : Effect} (he : e ≠ .breakpoint) :
    ∀ x ∈ snapshot m :: eventsOf e, x.stops = false := by
  cases e with
  | breakpoint => exact absurd rfl he
  | none | stdout b | stderr b => simp [snapshot, eventsOf, Event.stops]

/-- A tick leaves a session stepping, or tells last why it does not. -/
theorem Sound.tick_cases (h : s.Sound) (hs : s.status = .stepping) (now : ℕ) :
    ((s.tick now).state.status = .stepping ∧ ∀ e ∈ (s.tick now).events, e.stops = false) ∨
    ((s.tick now).state.status ≠ .stepping ∧ StopsLast (s.tick now).events) := by
  by_cases hearly : ∀ due, s.metronome.next = some due → now < due
  · rw [tick_of_early hearly]
    exact .inl ⟨hs, by simp [Reaction.done]⟩
  · simp only [not_forall, Nat.not_lt] at hearly
    obtain ⟨due, hdue, hle⟩ := hearly
    have harmed : (s.metronome.arm now).isArmed = s.metronome.isArmed := (h.armed.mpr hs).symm
    have hstep := (h.with_metronome harmed).stepped (by rw [hs]; rfl)
    rw [tick_of_due hs hdue hle]
    generalize step _ = r at hstep
    cases hstep with
    | executed e m _ _ he => exact .inl ⟨hs, stops_told _ he⟩
    | ended _ => exact .inr ⟨by simp [Reaction.map, settle], [], _, rfl, rfl, by simp⟩
    | paused m _ _ =>
      exact .inr ⟨by simp [Reaction.map, settle], [_], _, rfl, rfl, by simp [snapshot, Event.stops]⟩
    | failed f _ _ =>
      exact .inr ⟨by simp [Reaction.map, settle], [_], _, rfl, rfl, by simp [snapshot, Event.stops]⟩

theorem ticks_of_not_stepping (hs : s.status ≠ .stepping) (times : List ℕ) :
    s.log (times.map .tick) = [] ∧ s.after (times.map .tick) = s := by
  have htick : ∀ now, s.perform (.tick now) = .done .idle s := by
    intro now
    rw [perform, tick, if_neg hs]
    rfl
  induction times with
  | nil => exact ⟨rfl, rfl⟩
  | cons now times ih =>
    rw [List.map_cons, log, after, htick]
    exact ih

/-- **A session that is left to its ticks** goes on stepping, or tells last why it does not. -/
theorem Sound.log_ticks (h : s.Sound) (hs : s.status = .stepping) (times : List ℕ) :
    ((s.after (times.map .tick)).status = .stepping ∧
      ∀ e ∈ s.log (times.map .tick), e.stops = false) ∨
    ((s.after (times.map .tick)).status ≠ .stepping ∧ StopsLast (s.log (times.map .tick))) := by
  induction times generalizing s with
  | nil => exact .inl ⟨hs, by simp [log]⟩
  | cons now times ih =>
    have hsound : (s.tick now).state.Sound := h.of_turn (h.turn (.tick now))
    show ((Session.after (s.tick now).state _).status = _ ∧
      ∀ e ∈ (s.tick now).events ++ (s.tick now).state.log _, _) ∨
      ((Session.after (s.tick now).state _).status ≠ _ ∧
        StopsLast ((s.tick now).events ++ (s.tick now).state.log _))
    rcases h.tick_cases hs now with ⟨hs', hquiet⟩ | ⟨hs', hlast⟩
    · rcases ih hsound hs' with ⟨hgoes, hrest⟩ | ⟨hstops, hrest⟩
      · refine .inl ⟨hgoes, ?_⟩
        intro e he
        exact (List.mem_append.mp he).elim (hquiet e) (hrest e)
      · exact .inr ⟨hstops, hrest.append hquiet⟩
    · obtain ⟨hlog, hafter⟩ := ticks_of_not_stepping hs' times
      rw [hlog, hafter, List.append_nil]
      exact .inr ⟨hs', hlast⟩

/-! ## Ticks and steps by hand -/

/-- Sessions that have come equally far and are in the same status. -/
structure Abreast (s t : Session) : Prop where
  stepper : s.stepper = t.stepper
  status : s.status = t.status

variable {t : Session}

theorem Abreast.step (h : s.Abreast t) : s.step.state.Abreast t.step.state := by
  obtain ⟨id, stepper, status, metronome⟩ := s
  obtain ⟨id', stepper', status', metronome'⟩ := t
  obtain ⟨rfl, rfl⟩ := h
  unfold Session.step whileLive
  dsimp only
  split_ifs
  · exact ⟨rfl, rfl⟩
  · cases stepper.step.result with
    | error f => exact ⟨rfl, rfl⟩
    | ok p => cases p <;> exact ⟨rfl, rfl⟩

theorem Abreast.steps (h : s.Abreast t) (n : ℕ) :
    (s.after (.replicate n .step)).Abreast (t.after (.replicate n .step)) := by
  induction n generalizing s t with
  | zero => exact h
  | succ n ih => exact ih h.step

/-- A tick that is due does what a step by hand does. -/
theorem abreast_tick {due : ℕ} (hs : s.status = .stepping) (hdue : s.metronome.next = some due) :
    (s.tick due).state.Abreast s.step.state := by
  rw [tick_of_due hs hdue le_rfl]
  exact Abreast.step (s := { s with metronome := s.metronome.arm due }) ⟨rfl, rfl⟩

end Session

/-! ## Histories of a worker -/

namespace Worker

variable {w : Worker} {s : Session}

/-- The line of an operation, if it is one. -/
def Op.text? : Op → Option String
  | .line text _ => some text
  | .tick _ => none

theorem after_append (w : Worker) (ops ops' : List Op) :
    w.after (ops ++ ops') = (w.after ops).after ops' := by
  induction ops generalizing w with
  | nil => rfl
  | cons op ops ih => exact ih _

theorem log_append (w : Worker) (ops ops' : List Op) :
    w.log (ops ++ ops') = w.log ops ++ (w.after ops).log ops' := by
  induction ops generalizing w with
  | nil => rfl
  | cons op ops ih => simp [log, after, ih]

/-- Ticks of a worker are ticks of its session. -/
theorem log_ticks (hs : w.host.session = some s) (times : List ℕ) :
    w.log (times.map .tick) = s.log (times.map .tick) ∧
    (w.after (times.map .tick)).host.session = some (s.after (times.map .tick)) := by
  induction times generalizing w s with
  | nil => exact ⟨rfl, hs⟩
  | cons now times ih =>
    have htick : w.tick now = ((s.tick now).events, w.withSession (s.tick now).state) := by
      simp only [tick, Host.tick, hs]
      rfl
    obtain ⟨hlog, hafter⟩ := ih (w := (w.tick now).2) (s := (s.tick now).state) (by rw [htick]; rfl)
    refine ⟨?_, hafter⟩
    show (w.tick now).1 ++ (w.tick now).2.log _ = (s.tick now).events ++ (s.tick now).state.log _
    rw [hlog, htick]

/-- Whatever happens to a worker happens to its host, or does not. -/
theorem exists_host_perform (w : Worker) (op : Op) :
    ∃ ops, (w.perform op).2.host = w.host.after ops := by
  have hreport : ∀ r : Reaction Worker Refusal Unit, (reporting r).state = r.state := by
    intro r
    unfold reporting
    split
    · rfl
    · split_ifs <;> rfl
  have hcurrent : ∀ {α : Type} (op : SessionId → Reaction Host Refusal α) (hop : SessionId → Host.Op),
      (∀ id, (op id).state = w.host.after [hop id]) →
      ∃ ops, (w.onCurrent op).state.host = w.host.after ops := by
    intro α op hop heq
    unfold onCurrent
    cases w.current with
    | none => exact ⟨[], rfl⟩
    | some id => exact ⟨[hop id], heq id⟩
  cases op with
  | tick now => exact ⟨[.tick now], rfl⟩
  | line text now =>
    show ∃ ops, (w.handleLine text now).state.host = _
    rw [handleLine, hreport]
    cases Command.decode text with
    | error e => exact ⟨[], rfl⟩
    | ok c =>
      cases c with
      | start r =>
        refine ⟨[.start r now], ?_⟩
        show (w.start r now).state.host = (w.host.start r now).state
        unfold start
        dsimp only
        split <;> rfl
      | stop => exact hcurrent (fun id => w.host.stop id) .stop fun _ => rfl
      | restart interval =>
        exact hcurrent (fun id => w.host.restart id interval now) (.restart · interval now) fun _ => rfl
      | step => exact hcurrent (fun id => w.host.step id) .step fun _ => rfl

theorem exists_host_after (w : Worker) (ops : List Op) :
    ∃ hops, (w.after ops).host = w.host.after hops := by
  induction ops generalizing w with
  | nil => exact ⟨[], rfl⟩
  | cons op ops ih =>
    obtain ⟨first, hfirst⟩ := exists_host_perform w op
    obtain ⟨rest, hrest⟩ := ih (w.perform op).2
    refine ⟨first ++ rest, ?_⟩
    rw [Host.after_append, ← hfirst]
    exact hrest

/-- The session of a worker is as far as one that was loaded for a start and stepped by hand. -/
theorem exists_steps {settings : Settings} {ops : List Op}
    (hs : ((ofSettings settings).after ops).host.session = some s) :
    ∃ (r : Request) (s₀ : Session) (n : ℕ),
      Session.load s.id r.source settings.stepped r.eof r.input
        (Settings.tickInterval r.interval) = .ok s₀ ∧
      s.Alike (s₀.after (.replicate n .step)) := by
  obtain ⟨hops, hhost⟩ := exists_host_after (ofSettings settings) ops
  have horigin : (Host.after { settings } hops).session = some s := by
    rw [← hs, hhost]
    rfl
  obtain ⟨r, now, s₀, sops, hload, hafter⟩ := Host.exists_origin horigin
  obtain ⟨-, halike⟩ := (Session.alike_of_load hload hload).schedule (.begin now :: sops)
  rw [← hafter] at halike
  exact ⟨r, s₀, _, hload, halike⟩

end Worker

end Tapewalk
