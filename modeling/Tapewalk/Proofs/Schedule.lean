import Tapewalk.Proofs.Stepping
import Tapewalk.Session

/-!
# Schedules of a session

A schedule is a list of operations, with whatever times and intervals. `Session.perform_cases` says
once what an operation can do: either it calls the stepper, and then it tells what the stepper tells,
or it tells nothing and leaves the stepper alone. So a schedule is worth the number of calls that it
makes, and its log is that of as many steps by hand.
-/

namespace Tapewalk

theorem Reaction.map_map {σ ε α β γ : Type} (r : Reaction σ ε α) (f : α → β) (g : β → γ) :
    (r.map f).map g = r.map fun a => g (f a) := by
  cases r with
  | mk result events state => cases result <;> rfl

/-! ## Schedules -/

namespace Session

/-- The operation has called the stepper: it answers with progress or with a fault of the program. -/
def calls (r : Reaction Session Refusal Answer) : Bool :=
  match r.result with
  | .ok (.progressed _) | .error (.fault _) => true
  | _ => false

/-- The session after a schedule. -/
def after (s : Session) : List Op → Session
  | [] => s
  | op :: ops => (s.perform op).state.after ops

/-- All events of a schedule, in order. -/
def log (s : Session) : List Op → List Event
  | [] => []
  | op :: ops => (s.perform op).events ++ (s.perform op).state.log ops

/-- How many operations of a schedule call the stepper. -/
def callCount (s : Session) : List Op → ℕ
  | [] => 0
  | op :: ops => (if calls (s.perform op) then 1 else 0) + (s.perform op).state.callCount ops

theorem log_append (s : Session) (ops ops' : List Op) :
    s.log (ops ++ ops') = s.log ops ++ (s.after ops).log ops' := by
  induction ops generalizing s with
  | nil => rfl
  | cons op ops ih => simp [log, after, ih]

/-! ## One operation -/

/-- What a session tells of a call of its stepper. -/
def report (r : Reaction Stepper Fault Progress) : List Event :=
  match r.result with
  | .ok _ => r.events
  | .error f => r.events ++ [.error f.message]

/-- A call after which the session is over. -/
def isLast (r : Reaction Stepper Fault Progress) : Bool :=
  match r.result with
  | .ok .finished | .error _ => true
  | .ok _ => false

/-- The reaction of a session that is not over to a call of its stepper. -/
structure Driven (s : Session) (r : Reaction Session Refusal Answer) : Prop where
  calls : calls r = true
  live : s.status.isTerminal = false
  events : r.events = report s.stepper.step
  stepper : r.state.stepper = s.stepper.step.state
  terminal : r.state.status.isTerminal = isLast s.stepper.step

/-- The reaction to an operation that concerns the pace alone, or is refused. -/
structure Idle (s : Session) (r : Reaction Session Refusal Answer) : Prop where
  calls : calls r = false
  events : r.events = []
  stepper : r.state.stepper = s.stepper
  terminal : r.state.status.isTerminal = s.status.isTerminal

variable {s t : Session} {ops : List Op}

theorem Idle.of_refused {α : Type} {e : Refusal} (answer : α → Answer) (he : e.isRuntime = false) :
    s.Idle ((Reaction.refused e s).map answer) := by
  refine ⟨?_, rfl, rfl, rfl⟩
  cases e with
  | fault f => cases he
  | _ => rfl

theorem whileLive_of_live {α : Type} {op : Session → Reaction Session Refusal α}
    (h : s.status.isTerminal = false) : s.whileLive op = op s :=
  if_neg (by rw [h]; decide)

theorem idle_of_terminal {α : Type} {op : Session → Reaction Session Refusal α}
    (h : s.status.isTerminal = true) (answer : α → Answer) :
    s.Idle ((s.whileLive op).map answer) := by
  have hrefused : s.whileLive op = .refused (.sessionFinished s.id) s := if_pos h
  rw [hrefused]
  exact .of_refused answer rfl

/-- A step by hand, under whatever name its progress is answered. -/
theorem driven_step (h : s.status.isTerminal = false) (answer : Progress → Answer)
    (ha : ∀ p, answer p = .progressed p) : s.Driven (s.step.map answer) := by
  have hstep : s.step = _ := whileLive_of_live h
  dsimp only at hstep
  cases hr : s.stepper.step.result with
  | error f =>
    rw [hr] at hstep
    rw [hstep]
    exact ⟨rfl, h, by rw [report, hr]; rfl, rfl, by rw [isLast, hr]; rfl⟩
  | ok p =>
    rw [hr] at hstep
    have hcalls : ∀ es s', calls (Reaction.map answer ⟨.ok p, es, s'⟩) = true := by
      intro es s'
      simp only [calls, Reaction.map, Except.map, ha]
    cases p with
    | executed =>
      rw [hstep]
      exact ⟨hcalls _ _, h, by rw [report, hr]; rfl, rfl, by rw [isLast, hr]; exact h⟩
    | breakpoint =>
      rw [hstep]
      exact ⟨hcalls _ _, h, by rw [report, hr]; rfl, rfl, by rw [isLast, hr]; rfl⟩
    | finished =>
      rw [hstep]
      exact ⟨hcalls _ _, h, by rw [report, hr]; rfl, rfl, by rw [isLast, hr]; rfl⟩

/-- A session that is not over takes on a pace and a status. -/
theorem Idle.of_paced {status : Status} {metronome : Metronome}
    (h : s.status.isTerminal = status.isTerminal) :
    s.Idle ((Reaction.done () { s with metronome, status }).map fun _ => .done) :=
  ⟨rfl, rfl, rfl, h.symm⟩

theorem idle_begin (s : Session) (now : ℕ) : s.Idle (s.perform (.begin now)) := by
  cases h : s.status.isTerminal with
  | true => exact idle_of_terminal h _
  | false =>
    rw [perform, begin, whileLive_of_live h]
    exact .of_paced h

theorem idle_stop (s : Session) : s.Idle (s.perform .stop) := by
  cases h : s.status.isTerminal with
  | true => exact idle_of_terminal h _
  | false =>
    rw [perform, stop, whileLive_of_live h]
    by_cases hs : s.status = .stepping
    · rw [if_pos hs]
      exact .of_paced h
    · rw [if_neg hs]
      exact .of_refused _ rfl

theorem idle_restart (s : Session) (interval now : ℕ) : s.Idle (s.perform (.restart interval now)) := by
  cases h : s.status.isTerminal with
  | true => exact idle_of_terminal h _
  | false =>
    rw [perform, restart, whileLive_of_live h]
    by_cases hs : s.status = .stepping
    · rw [if_pos hs]
      exact .of_paced rfl
    · rw [if_neg hs, begin, whileLive_of_live (s := { s with metronome := { interval } }) h]
      exact .of_paced h

theorem tick_cases (s : Session) (now : ℕ) :
    s.Driven (s.perform (.tick now)) ∨ s.Idle (s.perform (.tick now)) := by
  have idle : s.Idle ((Reaction.done none s).map .ofTick) := ⟨rfl, rfl, rfl, rfl⟩
  rw [perform, tick]
  by_cases hs : s.status = .stepping
  · rw [if_pos hs]
    have hlive : s.status.isTerminal = false := by rw [hs]; rfl
    cases hf : s.metronome.fire now with
    | mk due metronome =>
      cases due with
      | false => exact .inr idle
      | true =>
        -- the stepper has no part in the pace
        have hd := driven_step (s := { s with metronome }) hlive (fun p => .ofTick (some p))
          fun _ => rfl
        refine .inl ?_
        show s.Driven (({ s with metronome }.step.map some).map .ofTick)
        rw [Reaction.map_map]
        exact ⟨hd.calls, hd.live, hd.events, hd.stepper, hd.terminal⟩
  · rw [if_neg hs]
    exact .inr idle

/-- **What an operation can do**: call the stepper, or leave it alone. -/
theorem perform_cases (s : Session) (op : Op) : s.Driven (s.perform op) ∨ s.Idle (s.perform op) := by
  cases op with
  | begin now => exact .inr (idle_begin s now)
  | stop => exact .inr (idle_stop s)
  | restart interval now => exact .inr (idle_restart s interval now)
  | step =>
    cases h : s.status.isTerminal with
    | true => exact .inr (idle_of_terminal h _)
    | false => exact .inl (driven_step h _ fun _ => rfl)
  | tick now => exact tick_cases s now

/-! ## Schedules and steps by hand -/

/-- Sessions that differ in their pace only. -/
structure Alike (s t : Session) : Prop where
  stepper : s.stepper = t.stepper
  terminal : s.status.isTerminal = t.status.isTerminal

theorem log_cons_of_driven {op : Op} (h : s.Driven (s.perform op)) :
    s.log (op :: ops) = report s.stepper.step ++ (s.perform op).state.log ops := by
  rw [log, h.events]

theorem log_cons_of_idle {op : Op} (h : s.Idle (s.perform op)) :
    s.log (op :: ops) = (s.perform op).state.log ops := by
  rw [log, h.events, List.nil_append]

/-- **A schedule is worth its calls.** Every call of the stepper is a step by hand of a session that
is paced otherwise, or not at all; the rest of the schedule changes nothing. -/
theorem Alike.schedule (h : s.Alike t) (ops : List Op) :
    s.log ops = t.log (.replicate (s.callCount ops) .step) ∧
      (s.after ops).Alike (t.after (.replicate (s.callCount ops) .step)) := by
  induction ops generalizing s t with
  | nil => exact ⟨rfl, h⟩
  | cons op ops ih =>
    rcases perform_cases s op with hd | hi
    · have ht : t.Driven (t.perform .step) := driven_step (h.terminal ▸ hd.live) _ fun _ => rfl
      have hnext : (s.perform op).state.Alike (t.perform .step).state :=
        ⟨by rw [hd.stepper, ht.stepper, h.stepper], by rw [hd.terminal, ht.terminal, h.stepper]⟩
      obtain ⟨hlog, hafter⟩ := ih hnext
      rw [callCount, hd.calls, if_pos rfl, Nat.add_comm, List.replicate_succ]
      refine ⟨?_, hafter⟩
      rw [log_cons_of_driven hd, log_cons_of_driven ht, h.stepper, hlog]
    · have hnext : (s.perform op).state.Alike t :=
        ⟨hi.stepper.trans h.stepper, hi.terminal.trans h.terminal⟩
      rw [callCount, hi.calls, if_neg (by decide), Nat.zero_add, log_cons_of_idle hi]
      exact ih hnext

theorem log_replicate_prefix {m n : ℕ} (h : m ≤ n) :
    s.log (.replicate m .step) <+: s.log (.replicate n .step) := by
  obtain ⟨k, rfl⟩ := Nat.exists_eq_add_of_le h
  rw [List.replicate_add, log_append]
  exact List.prefix_append _ _

/-! ## Cycles of the shown states -/

/-- The cycle counts of the states that are shown before instructions. -/
def stepCycles (es : List Event) : List ℕ :=
  es.filterMap fun
    | .step _ _ cycles _ => some cycles
    | _ => none

@[simp] theorem stepCycles_append (es es' : List Event) :
    stepCycles (es ++ es') = stepCycles es ++ stepCycles es' := List.filterMap_append

theorem log_of_terminal (h : s.status.isTerminal = true) : s.log ops = [] := by
  induction ops generalizing s with
  | nil => rfl
  | cons op ops ih =>
    rcases perform_cases s op with hd | hi
    · rw [hd.live] at h; cases h
    · rw [log_cons_of_idle hi]
      exact ih (hi.terminal.trans h)

end Session

namespace Stepper

open Session

/-- A call that is not the last shows one state and uses one cycle; the last one may show one. -/
theorem Steady.stepCycles_report {s : Stepper} (h : s.Steady) :
    (isLast s.step = false ∧ stepCycles (report s.step) = [s.machine.cycles] ∧
      s.step.state.machine.cycles = s.machine.cycles + 1) ∨
    (isLast s.step = true ∧ ∃ k, stepCycles (report s.step) = .range' s.machine.cycles k) := by
  cases hf : s.finished with
  | true =>
    rw [step_of_finished hf]
    exact .inr ⟨rfl, 0, rfl⟩
  | false =>
    rcases h.step_cases hf with ⟨-, hs⟩ | ⟨e, m, -, hm, hs⟩ | ⟨f, -, -, hs⟩
    · rw [hs]
      exact .inr ⟨rfl, 0, rfl⟩
    · rw [hs]
      have hcycles := Machine.cycles_step h.sound.ptr_lt hm
      cases e <;> exact .inl ⟨rfl, rfl, hcycles⟩
    · rw [hs]
      exact .inr ⟨rfl, 1, rfl⟩

end Stepper

namespace Session

variable {s t : Session} {ops : List Op}

/-- Shown states count the cycles without a gap and without repetition. -/
theorem stepCycles_log (h : s.stepper.Steady) (ops : List Op) :
    ∃ k, stepCycles (s.log ops) = .range' s.machine.cycles k := by
  induction ops generalizing s with
  | nil => exact ⟨0, rfl⟩
  | cons op ops ih =>
    rcases perform_cases s op with hd | hi
    · rw [log_cons_of_driven hd, stepCycles_append]
      rcases h.stepCycles_report with ⟨hlast, hone, hcycles⟩ | ⟨hlast, k, hk⟩
      · obtain ⟨k, hk⟩ := ih (hd.stepper ▸ h.step)
        refine ⟨k + 1, ?_⟩
        rw [hone, hk, machine, hd.stepper, hcycles]
        rfl
      · rw [log_of_terminal (hd.terminal.trans hlast), hk]
        exact ⟨k, List.append_nil _⟩
    · rw [log_cons_of_idle hi]
      obtain ⟨k, hk⟩ := ih (hi.stepper ▸ h)
      rw [machine, hi.stepper] at hk
      exact ⟨k, hk⟩

/-! ## Loaded sessions -/

variable {id id' : SessionId} {source : String} {shape : Tape.Shape} {eof : UInt8}
  {input : Array UInt8} {interval interval' : ℕ}

theorem load_ok (h : load id source shape eof input interval = .ok s) :
    ∃ st, Stepper.load source shape eof input = .ok st ∧ s = ⟨id, st, .initialized, { interval }⟩ := by
  cases hst : Stepper.load source shape eof input with
  | error f => simp only [load, hst] at h; cases h
  | ok st =>
    simp only [load, hst] at h
    exact ⟨st, rfl, (Except.ok.inj h).symm⟩

theorem steady_of_load (h : load id source shape eof input interval = .ok s) :
    s.stepper.Steady ∧ s.machine.cycles = 0 := by
  obtain ⟨st, hst, rfl⟩ := load_ok h
  refine ⟨(Stepper.loaded_of_load hst).toSteady, ?_⟩
  obtain ⟨j, -, rfl⟩ := Stepper.load_ok hst
  rfl

theorem alike_of_load (hs : load id source shape eof input interval = .ok s)
    (ht : load id' source shape eof input interval' = .ok t) : s.Alike t := by
  obtain ⟨st, hst, rfl⟩ := load_ok hs
  obtain ⟨st', hst', rfl⟩ := load_ok ht
  rw [hst] at hst'
  obtain rfl := Except.ok.inj hst'
  exact ⟨rfl, rfl⟩

end Session

open Session in
/-- **Schedules are independent of the pace.** Whatever is done to a session, its log and its stepper
are those of another session of the same program and input that is only stepped by hand, as often as
the stepper was called. So of two logs one continues the other, and the states shown in a log count
the cycles from zero. -/
theorem schedule_eq_steps (source : String) (shape : Tape.Shape) (eof : UInt8) (input : Array UInt8)
    (id id' : SessionId) (interval interval' : ℕ) (s t : Session)
    (hs : Session.load id source shape eof input interval = .ok s)
    (ht : Session.load id' source shape eof input interval' = .ok t) (ops : List Op) :
    s.log ops = t.log (.replicate (s.callCount ops) .step) ∧
    (s.after ops).stepper = (t.after (.replicate (s.callCount ops) .step)).stepper ∧
    (∀ ops', s.log ops <+: t.log ops' ∨ t.log ops' <+: s.log ops) ∧
    stepCycles (s.log ops) = .range (stepCycles (s.log ops)).length := by
  obtain ⟨hlog, hafter⟩ := (alike_of_load hs ht).schedule ops
  refine ⟨hlog, hafter.stepper, fun ops' => ?_, ?_⟩
  · obtain ⟨hlog', -⟩ := (alike_of_load ht ht).schedule ops'
    rw [hlog, hlog']
    exact (Nat.le_total _ _).imp log_replicate_prefix log_replicate_prefix
  · obtain ⟨hsteady, hzero⟩ := steady_of_load hs
    obtain ⟨k, hk⟩ := stepCycles_log hsteady ops
    rw [hk, List.length_range', hzero, List.range_eq_range']

/-- Ticks too early, late and while paused, a step by hand, a stop that is refused, and a fault. -/
theorem schedule_eq_steps_on_ticks :
    ∃ s, Session.load ⟨1⟩ "+@<" ⟨1, .fixed⟩ 0 #[] 5 = .ok s ∧
      s.log [.tick 9, .begin 0, .tick 3, .tick 70, .step, .tick 80, .stop, .restart 2 80, .tick 82,
        .step] = s.log [.step, .step, .step] ∧
      Session.stepCycles (s.log [.step, .step, .step]) = [0, 1, 2] := by
  refine ⟨_, rfl, ?_, rfl⟩
  exact (schedule_eq_steps "+@<" ⟨1, .fixed⟩ 0 #[] ⟨1⟩ ⟨1⟩ 5 5 _ _ rfl rfl _).1

end Tapewalk
