import Tapewalk.Proofs.Schema
import Tapewalk.Proofs.Segments
import Tapewalk.Worker

/-!
# What a worker reports

Errors are told in three places: by a session whose program fails, by a host that cannot start a
program, and by the worker for a line that it refuses. `Worker.Took` lists what a line can do to a
worker that remembers the session of its host (`Worker.Sound`); from this list it is read off that
every error is told once and that a refusal changes nothing.
-/

namespace Tapewalk

/-- None of the events is an error. -/
def NoError (es : List Event) : Prop := ∀ e ∈ es, e.kind ≠ .error

/-- How a result is told: an error by one error event, which comes last, and nothing else by one. -/
structure Reported {σ α : Type} (r : Reaction σ Refusal α) : Prop where
  error : ∀ e, r.result = .error e → ∃ es, r.events = es ++ [.error e.message] ∧ NoError es
  ok : ∀ a, r.result = .ok a → NoError r.events

namespace Reaction

variable {σ τ ε α β : Type}

theorem map_unit (r : Reaction σ ε Unit) : r.map (fun _ => ()) = r := by
  obtain ⟨result, events, state⟩ := r
  cases result <;> rfl

theorem within_map (r : Reaction σ ε α) (f : α → β) (g : σ → τ) :
    (r.map f).within g = (r.within g).map f := rfl

theorem map_eq_error_iff {r : Reaction σ ε α} {f : α → β} {e : ε} :
    (r.map f).result = .error e ↔ r.result = .error e := by
  obtain ⟨result, events, state⟩ := r
  cases result <;> simp [map, Except.map]

end Reaction

theorem noError_nil : NoError [] := by simp [NoError]

theorem Reported.of_ok {σ α : Type} {a : α} {es : List Event} {s : σ} (h : NoError es) :
    Reported ⟨.ok a, es, s⟩ where
  error := by rintro e ⟨⟩
  ok _ _ := h

theorem Reported.of_error {σ α : Type} {e : Refusal} {es : List Event} {s : σ} (h : NoError es) :
    Reported (α := α) ⟨.error e, es ++ [.error e.message], s⟩ where
  error := by rintro e ⟨⟩; exact ⟨es, rfl, h⟩
  ok := by rintro a ⟨⟩

theorem Reported.map {σ α β : Type} {r : Reaction σ Refusal α} (h : Reported r) (f : α → β) :
    Reported (r.map f) := by
  refine ⟨fun e he => h.error e (Reaction.map_eq_error_iff.mp he), fun b hb => ?_⟩
  obtain ⟨a, ha, -⟩ := Json.map_eq_ok_iff.mp hb
  exact h.ok a ha

/-! ## Sessions -/

namespace Session

open Stepper (snapshot eventsOf)

variable {s : Session} {r : Reaction Session Refusal Answer} {e : Refusal}

theorem isRuntime_of_calls (h : calls r = true) (he : r.result = .error e) :
    e.isRuntime = true := by
  rw [calls, he] at h
  cases e with
  | fault f => rfl
  | _ => cases h

/-- Why a session refuses an operation, if its program has not failed. -/
theorem Sound.refusal_cases (h : s.Sound) (op : Op) (he : (s.perform op).result = .error e) :
    e.isRuntime = true ∨ e = .sessionFinished s.id ∨ e = .inactiveSession s.id := by
  cases hlive : s.status.isTerminal with
  | true =>
    obtain ⟨hbegin, hstop, hrestart, hstep, htick⟩ := perform_of_terminal hlive
    right; left
    cases op with
    | begin now => rw [perform, hbegin] at he; cases he; rfl
    | stop => rw [perform, hstop] at he; cases he; rfl
    | restart interval now => rw [perform, hrestart] at he; cases he; rfl
    | step => rw [perform, hstep] at he; cases he; rfl
    | tick now => rw [perform, htick] at he; cases he
  | false =>
    -- a session that is not over refuses nothing but a stop; all other errors are faults
    cases op with
    | begin now => rw [perform, begin, whileLive_of_live hlive] at he; cases he
    | stop =>
      rw [perform, stop, whileLive_of_live hlive] at he
      by_cases hs : s.status = .stepping
      · rw [if_pos hs] at he; cases he
      · rw [if_neg hs] at he; cases he; exact .inr (.inr rfl)
    | restart interval now => rw [perform, h.restart_of_live hlive] at he; cases he
    | step => exact .inl (isRuntime_of_calls (driven_step hlive _ fun _ => rfl).calls he)
    | tick now =>
      rw [perform, tick] at he
      by_cases hs : s.status = .stepping
      · rw [if_pos hs] at he
        cases hf : s.metronome.fire now with
        | mk due metronome =>
          rw [hf] at he
          cases due with
          | false => cases he
          | true =>
            have hd := driven_step (s := { s with metronome }) hlive (fun p => .ofTick (some p))
              fun _ => rfl
            rw [← Reaction.map_map] at hd
            exact .inl (isRuntime_of_calls hd.calls he)
      · rw [if_neg hs] at he; cases he

theorem noError_told (m : Machine) (e : Effect) : NoError (snapshot m :: eventsOf e) := by
  cases e <;> simp [NoError, snapshot, eventsOf, Event.kind]

/-- What a session does not refuse, it reports. -/
theorem Turn.reported (h : s.Turn r) (hr : ∀ e, r.result = .error e → e.isRuntime = true) :
    Reported r := by
  cases h with
  | @refused e he =>
    rw [hr e rfl] at he
    cases he
  | idle | paced => exact .of_ok noError_nil
  | stepped _ _ hstep =>
    apply Reported.map
    cases hstep with
    | ended _ => exact .of_ok (by simp [NoError, Stepper.ending, Event.kind])
    | executed eff m _ _ _ => exact .of_ok (noError_told _ eff)
    | paused m _ _ => exact .of_ok (noError_told _ .breakpoint)
    | failed f _ _ => exact .of_error (e := .fault f) (noError_told _ .none)

/-- What a session refuses leaves no trace. -/
theorem Turn.eq_refused (h : s.Turn r) (he : r.result = .error e) (hrun : e.isRuntime = false) :
    r = .refused e s := by
  cases h with
  | refused _ => cases he; rfl
  | idle | paced => cases he
  | stepped _ _ hstep =>
    cases hstep with
    | failed f _ _ => cases he; cases hrun
    | _ => cases he

end Session

/-- A text that is no command is refused for its own sake. -/
theorem Command.decode_error {text : String} {e : Refusal} (h : decode text = .error e) :
    e.isRuntime = false ∧ ∀ id, e ≠ .unknownSession id := by
  unfold decode at h
  split at h
  · cases h
    exact ⟨rfl, by simp⟩
  · rcases ofJson_error h with ⟨n, rfl, -⟩ | ⟨m, rfl, -⟩ | ⟨why, rfl⟩ <;> exact ⟨rfl, by simp⟩

/-! ## Starts -/

namespace Worker

variable {w : Worker} {text : String} {now : ℕ}

/-- What a start makes of a worker: a run to the end, or one that is cut off, or a program that does
not run, all of them without a session, or a new session. -/
inductive Started (w : Worker) : Reaction Worker Refusal Unit → Prop
  | ran {es : List Event} : NoError es →
      Started w ⟨.ok (), es, ⟨{ w.host with session := none }, none⟩⟩
  | failed {f : Fault} {next : ℕ} :
      Started w ⟨.error (.fault f), [.error f.message],
        ⟨{ w.host with session := none, nextId := next }, none⟩⟩
  | opened {s : Session} {next : ℕ} : s.Sound → s.status.isTerminal = false →
      Started w ⟨.ok (), [], ⟨{ w.host with session := some s, nextId := next }, some s.id⟩⟩

theorem started (w : Worker) (r : Request) (now : ℕ) : w.Started (w.start r now) := by
  cases hmode : r.mode with
  | disabled =>
    simp only [start, Host.start, hmode, Host.runBatch]
    cases Batch.runSource r.source w.host.settings.batch r.eof r.input
      w.host.settings.cycleLimit with
    | finished m => exact .ran (by simp [NoError, Reaction.map, Event.kind])
    | failed f => exact .failed
    | unfinished m => exact .ran noError_nil
  | simple =>
    cases hj : Jumps.build (.ofString r.source) with
    | error f =>
      simp only [start, Host.start_unloadable w.host now hmode hj]
      exact .failed
    | ok j =>
      obtain ⟨s, hload, -, hst⟩ := Host.start_loadable w.host now hmode hj
      obtain ⟨hsound, -⟩ := Session.sound_of_load hload
      have hbegun : (s.begin now).state.Sound := hsound.of_turn (hsound.turn (.begin now))
      have hid : (s.begin now).state.id = s.id := (hsound.turn (.begin now)).sameRun.id
      simp only [start, hst, Reaction.done]
      rw [← hid]
      refine .opened hbegun ?_
      obtain ⟨st, -, rfl⟩ := Session.load_ok hload
      rfl

/-! ## Lines -/

/-- The worker with another state of its host's session. -/
def withSession (w : Worker) (s : Session) : Worker :=
  { w with host := { w.host with session := some s } }

theorem withSession_self {s : Session} (hs : w.host.session = some s) : w.withSession s = w := by
  unfold withSession
  rw [← hs]

/-- The worker remembers the session of its host, and the session is sound. -/
structure Sound (w : Worker) : Prop where
  current : w.current = w.host.session.map (·.id)
  session : ∀ s, w.host.session = some s → s.Sound

/-- Why a line is refused: it is no command, or its command does not suit the session. -/
inductive Refuses (w : Worker) (text : String) : Refusal → Prop
  | undecoded {e : Refusal} : Command.decode text = .error e → Refuses w text e
  | noSession : w.current = none → Refuses w text .noSession
  | finished {id : SessionId} : w.current = some id → Refuses w text (.sessionFinished id)
  | inactive {id : SessionId} : w.current = some id → Refuses w text (.inactiveSession id)

/-- **What a line can do to a worker.** -/
inductive Took (w : Worker) (text : String) : Reaction Worker Refusal Unit → Prop
  | refused {e : Refusal} : w.Refuses text e → Took w text ⟨.error e, [.error e.message], w⟩
  | passed {s : Session} {r : Reaction Session Refusal Session.Answer} :
      w.host.session = some s → s.Turn r → (∀ e, r.result = .error e → e.isRuntime = true) →
      Took w text ((r.within w.withSession).map fun _ => ())
  | started {r : Request} {a : Reaction Worker Refusal Unit} :
      Command.decode text = .ok (.start r) → w.Started a → Took w text a

/-- A refusal is told by the worker itself. -/
theorem reporting_refused {e : Refusal} (he : e.isRuntime = false) :
    reporting (.refused e w) = ⟨.error e, [.error e.message], w⟩ := by
  simp [reporting, Reaction.refused, he]

/-- What is not refused has been told where it happened. -/
theorem reporting_of_runtime {r : Reaction Worker Refusal Unit}
    (h : ∀ e, r.result = .error e → e.isRuntime = true) : reporting r = r := by
  unfold reporting
  split
  · rfl
  · rename_i e he
    rw [if_pos (h e he)]

/-- What a command asks of a session, if it is no start. -/
def asks (now : ℕ) : Command → Option Session.Op
  | .start _ => none
  | .stop => some .stop
  | .restart interval => some (.restart (Settings.tickInterval interval) now)
  | .step => some .step

theorem dispatch_of_none {c : Command} {op : Session.Op} (hc : w.current = none)
    (hop : asks now c = some op) : w.dispatch c now = .refused .noSession w := by
  cases c with
  | start r => cases hop
  | stop | restart interval => simp only [dispatch, onCurrent, hc]
  | step => simp only [dispatch, onCurrent, hc]; rfl

/-- An operation on the session that was started last, if it is still there. -/
theorem onCurrent_of_some {α : Type} {s : Session} (hc : w.current = some s.id)
    (hs : w.host.session = some s) (op : Session → Reaction Session Refusal α) :
    w.onCurrent (fun id => w.host.onSession id op) = (op s).within w.withSession := by
  obtain ⟨host, current⟩ := w
  obtain rfl : current = some s.id := hc
  simp only [onCurrent, Host.onSession_current hs]
  rfl

theorem dispatch_of_some {c : Command} {op : Session.Op} {s : Session} (hc : w.current = some s.id)
    (hs : w.host.session = some s) (hop : asks now c = some op) :
    w.dispatch c now = ((s.perform op).within w.withSession).map fun _ => () := by
  have hforget : ∀ {α : Type} (r : Reaction Session Refusal α) (f : α → Session.Answer),
      ((r.map f).within w.withSession).map (fun _ => ()) =
        (r.within w.withSession).map fun _ => () := by
    intro α r f
    rw [Reaction.within_map, Reaction.map_map]
  cases c with
  | start r => cases hop
  | stop =>
    obtain rfl := Option.some.inj hop
    rw [Session.perform, hforget, Reaction.map_unit]
    exact onCurrent_of_some hc hs Session.stop
  | restart interval =>
    obtain rfl := Option.some.inj hop
    rw [Session.perform, hforget, Reaction.map_unit]
    exact onCurrent_of_some hc hs fun s => s.restart (Settings.tickInterval interval) now
  | step =>
    obtain rfl := Option.some.inj hop
    rw [Session.perform, hforget]
    exact congrArg (Reaction.map fun _ => ()) (onCurrent_of_some hc hs Session.step)

/-- A line that holds a command is dispatched. -/
theorem handleLine_of_decode {c : Command} (h : Command.decode text = .ok c) :
    w.handleLine text now = reporting (w.dispatch c now) := by
  rw [handleLine, h]

theorem handleLine_encode (w : Worker) (c : Command) (now : ℕ) :
    w.handleLine c.encode now = reporting (w.dispatch c now) :=
  handleLine_of_decode (Command.decode_encode c)

theorem Sound.took (h : w.Sound) (text : String) (now : ℕ) :
    w.Took text (w.handleLine text now) := by
  cases hd : Command.decode text with
  | error e =>
    rw [handleLine, hd, reporting_refused (Command.decode_error hd).1]
    exact .refused (.undecoded hd)
  | ok c =>
    rw [handleLine_of_decode hd]
    cases hop : asks now c with
    | none =>
      cases c with
      | start r =>
        have hstart := started w r now
        have hfault : ∀ e, (w.start r now).result = .error e → e.isRuntime = true := by
          intro e he
          generalize w.start r now = a at hstart he
          cases hstart with
          | failed => cases he; rfl
          | ran _ | opened _ _ => cases he
        rw [dispatch, reporting_of_runtime hfault]
        exact .started hd hstart
      | _ => cases hop
    | some op =>
      cases hs : w.host.session with
      | none =>
        have hc : w.current = none := by rw [h.current, hs]; rfl
        rw [dispatch_of_none hc hop, reporting_refused rfl]
        exact .refused (.noSession hc)
      | some s =>
        have hc : w.current = some s.id := by rw [h.current, hs]; rfl
        have hsound := h.session s hs
        have hturn := hsound.turn op
        rw [dispatch_of_some hc hs hop]
        generalize hr : s.perform op = r at hturn
        by_cases hruntime : ∀ e, r.result = .error e → e.isRuntime = true
        · rw [reporting_of_runtime fun e he => hruntime e (Reaction.map_eq_error_iff.mp he)]
          exact .passed hs hturn hruntime
        · simp only [not_forall, Bool.not_eq_true] at hruntime
          obtain ⟨e, he, hrun⟩ := hruntime
          have hcases := hsound.refusal_cases op (hr ▸ he)
          rw [hturn.eq_refused he hrun]
          show w.Took text (reporting (.refused e (w.withSession s)))
          rw [withSession_self hs, reporting_refused hrun]
          rcases hcases with htrue | rfl | rfl
          · rw [hrun] at htrue; cases htrue
          · exact .refused (.finished hc)
          · exact .refused (.inactive hc)

/-- Whatever a line does, it is reported as it should be. -/
theorem Took.reported {a : Reaction Worker Refusal Unit} (h : w.Took text a) : Reported a := by
  cases h with
  | @refused e _ => exact Reported.of_error noError_nil
  | @passed s r _ hturn hruntime =>
    have hr := hturn.reported hruntime
    exact Reported.map (r := r.within w.withSession) ⟨hr.error, hr.ok⟩ _
  | started _ hstart =>
    cases hstart with
    | ran hes => exact .of_ok hes
    | @failed f next => exact Reported.of_error (e := .fault f) noError_nil
    | opened _ _ => exact .of_ok noError_nil

theorem Refuses.ne_unknownSession {e : Refusal} (h : w.Refuses text e) (id : SessionId) :
    e ≠ .unknownSession id := by
  cases h with
  | undecoded hd => exact (Command.decode_error hd).2 id
  | noSession _ | finished _ | inactive _ => simp

/-- A line fails by a fault of the program, or it is refused and changes nothing. -/
theorem Took.error_cases {a : Reaction Worker Refusal Unit} {e : Refusal} (h : w.Took text a)
    (he : a.result = .error e) : e.isRuntime = true ∨ w.Refuses text e ∧ a.state = w := by
  cases h with
  | refused hr => cases he; exact .inr ⟨hr, rfl⟩
  | passed _ _ hruntime => exact .inl (hruntime e (Reaction.map_eq_error_iff.mp he))
  | started _ hstart =>
    cases hstart with
    | ran _ | opened _ _ => cases he
    | failed => cases he; exact .inl rfl

/-! ## Histories -/

theorem Sound.withSession {s t : Session} (h : w.Sound) (hs : w.host.session = some s)
    (ht : t.Sound) (hid : t.id = s.id) : (w.withSession t).Sound := by
  refine ⟨?_, ?_⟩
  · show w.current = some t.id
    rw [h.current, hs, hid]
    rfl
  · intro u hu
    obtain rfl : t = u := Option.some.inj hu
    exact ht

theorem Sound.of_took (h : w.Sound) {a : Reaction Worker Refusal Unit} (ha : w.Took text a) :
    a.state.Sound := by
  cases ha with
  | refused _ => exact h
  | @passed s r hs hturn _ =>
    exact h.withSession hs ((h.session s hs).of_turn hturn) hturn.sameRun.id
  | started _ hstart =>
    cases hstart with
    | ran _ | failed => exact ⟨rfl, by rintro s ⟨⟩⟩
    | opened hsound _ => exact ⟨rfl, by rintro s ⟨⟩; exact hsound⟩

/-- **What a tick can do to a worker**: what it does to the session, if there is one. -/
theorem Sound.tick_cases (h : w.Sound) (now : ℕ) :
    w.tick now = ([], w) ∨ ∃ s r, w.host.session = some s ∧ s.Turn r ∧
      w.tick now = (r.events, w.withSession r.state) := by
  cases hs : w.host.session with
  | none =>
    left
    simp only [tick, Host.tick, hs]
    rfl
  | some s =>
    right
    refine ⟨s, _, rfl, (h.session s hs).turn (.tick now), ?_⟩
    simp only [tick, Host.tick, hs]
    rfl

/-- What can happen to a worker. -/
inductive Op where
  | line (text : String) (now : ℕ)
  | tick (now : ℕ)

/-- The events of what happens, and the worker after it. -/
def perform (w : Worker) : Op → List Event × Worker
  | .line text now => ((w.handleLine text now).events, (w.handleLine text now).state)
  | .tick now => w.tick now

/-- The worker after a history. -/
def after (w : Worker) : List Op → Worker
  | [] => w
  | op :: ops => (w.perform op).2.after ops

/-- All events of a history, in order. -/
def log (w : Worker) : List Op → List Event
  | [] => []
  | op :: ops => (w.perform op).1 ++ (w.perform op).2.log ops

/-- **One line or tick keeps the agreement of worker and host.** -/
theorem Sound.perform (h : w.Sound) (op : Op) : (w.perform op).2.Sound := by
  cases op with
  | line text now => exact h.of_took (h.took text now)
  | tick now =>
    show (w.tick now).2.Sound
    rcases h.tick_cases now with htick | ⟨s, r, hs, hturn, htick⟩
    · rw [htick]
      exact h
    · rw [htick]
      exact h.withSession hs ((h.session s hs).of_turn hturn) hturn.sameRun.id

theorem Sound.after (h : w.Sound) (ops : List Op) : (w.after ops).Sound := by
  induction ops generalizing w with
  | nil => exact h
  | cons op ops ih => exact ih (h.perform op)

theorem sound_ofSettings (settings : Settings) : (ofSettings settings).Sound :=
  ⟨rfl, by rintro s ⟨⟩⟩

end Worker

open Worker in
/-- **A worker reports every error once, and a refusal changes nothing.** After any lines and ticks
the worker remembers the session of its host, so it never asks for a session that is not there. A
line that fails is told by one error event with the text of the error, after everything else; a line
that succeeds is told by none. If the program is not at fault, the line is no command or does not
suit the session, and it leaves the worker as it was. -/
theorem worker_reports_once (settings : Settings) (ops : List Worker.Op) (w : Worker)
    (hw : w = (Worker.ofSettings settings).after ops) :
    w.current = w.host.session.map (·.id) ∧
    ∀ text now, let r := w.handleLine text now
      (∀ id, r.result ≠ .error (.unknownSession id)) ∧
      (∀ e, r.result = .error e → ∃ es, r.events = es ++ [.error e.message] ∧ NoError es) ∧
      (r.result = .ok () → NoError r.events) ∧
      (∀ e, r.result = .error e → e.isRuntime = false → w.Refuses text e ∧ r.state = w) := by
  have hsound : w.Sound := hw ▸ (sound_ofSettings settings).after ops
  refine ⟨hsound.current, fun text now => ?_⟩
  have htook := hsound.took text now
  refine ⟨fun id hid => ?_, htook.reported.error, htook.reported.ok (), fun e he hrun => ?_⟩
  · rcases htook.error_cases hid with hrun | ⟨hrefuses, -⟩
    · cases hrun
    · exact hrefuses.ne_unknownSession id rfl
  · rcases htook.error_cases he with htrue | hrefused
    · rw [hrun] at htrue; cases htrue
    · exact hrefused

open Worker in
/-- A second stop is refused and leaves the worker alone; a step past the low end of the tape fails,
and is told after the state in which it failed. -/
theorem worker_reports_once_after_stop :
    ∃ w, w = (Worker.ofSettings (.withLength {} 1)).after
        [.line (Command.start { mode := .simple, source := "<" }).encode 0,
          .line Command.stop.encode 1] ∧
      w.current = some ⟨1⟩ ∧
      (w.handleLine Command.stop.encode 2).result = .error (.inactiveSession ⟨1⟩) ∧
      (w.handleLine Command.stop.encode 2).state = w ∧
      ∃ es, (w.handleLine Command.step.encode 3).events =
        es ++ [.error (Fault.belowZero 1).message] ∧ NoError es := by
  refine ⟨_, rfl, ?_⟩
  generalize hw : (Worker.ofSettings (.withLength {} 1)).after _ = w
  obtain ⟨-, h⟩ := worker_reports_once _ _ w hw.symm
  have hstop := (h Command.stop.encode 2).2.2.2 (.inactiveSession ⟨1⟩)
  have hstep := (h Command.step.encode 3).2.1 (.fault (.belowZero 1))
  simp only [Worker.after, Worker.perform, handleLine_encode] at hw hstop hstep ⊢
  subst hw
  exact ⟨rfl, rfl, (hstop rfl rfl).2, hstep rfl⟩

end Tapewalk
