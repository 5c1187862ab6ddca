import Tapewalk.Proofs.Limits
import Tapewalk.Proofs.Rounds

/-!
# Serving an input

What is true of every run of a server, however it is timed, and of the one that `Server.serve` makes
of a whole input: it takes all lines (`Serving.feeding`) and then wakes up at every deadline
(`Serving.alarms`). The limit of cycles bounds the number of these wake-ups, and the server ends if
its session stops before (`Server.phase_drain_eq_ended_iff`). What comes to its end does not feel
the limit (`Serving.log_granting`, `Serving.serve_granting`).
-/

namespace Tapewalk

/-! ## Rounds under another limit -/

namespace Server

/-- The server with another limit. -/
def granting (s : Server) (limit : ℕ) : Server := { s with worker := s.worker.granting limit }

/-- A round is the same under a larger limit, unless it starts a run that is cut off. -/
theorem round_granting {s : Server} {a : Arrival} {settings : Settings} {now later limit : ℕ}
    (hs : s.worker.host.settings = settings) (hle : settings.cycleLimit ≤ limit)
    (hreturns : ∀ text ∈ (s.tasks a now later).filterMap Worker.Op.text?,
      Worker.Returns settings text) :
    (s.granting limit).round a now later =
      ((s.round a now later).1, (s.round a now later).2.granting limit) := by
  have htasks : (s.granting limit).tasks a now later = s.tasks a now later := rfl
  have hphase : (s.granting limit).phaseAfter a = s.phaseAfter a := rfl
  have hworker : (s.granting limit).worker = s.worker.granting limit := rfl
  obtain ⟨hlog, hafter⟩ := Worker.log_granting hs hle hreturns
  rw [round_eq, round_eq, htasks, hphase, hworker, hlog, hafter]
  rfl

/-! ## Waking up at deadlines -/

variable {s : Server} {done : Array Event} {fuel : ℕ}

theorem drain_of_not_draining (h : s.phase ≠ .draining) (done : Array Event) (fuel : ℕ) :
    s.drain done fuel = (done, s) := by
  cases fuel with
  | zero => rfl
  | succ fuel => rw [drain, if_neg h]

/-- More fuel makes no difference once the server is done. -/
theorem drain_add (h : (s.drain done fuel).2.phase ≠ .draining) (more : ℕ) :
    s.drain done (fuel + more) = s.drain done fuel := by
  induction fuel generalizing s done with
  | zero => exact drain_of_not_draining h done _
  | succ fuel ih =>
    rw [Nat.add_right_comm, drain, drain]
    rw [drain] at h
    split_ifs at h ⊢ with hphase
    · exact ih h
    · rfl

theorem texts_tasks_nothing (s : Server) (now later : ℕ) :
    (s.tasks .nothing now later).filterMap Worker.Op.text? = [] := by
  unfold tasks
  cases s.phase with
  | listening => rfl
  | draining =>
    dsimp only
    split_ifs <;> rfl
  | ended | failed => rfl

/-- Nothing is started while the server wakes up at deadlines, so no limit is felt. -/
theorem drain_granting (s : Server) {limit : ℕ} (hle : s.worker.host.settings.cycleLimit ≤ limit)
    (done : Array Event) (fuel : ℕ) :
    (s.granting limit).drain done fuel =
      ((s.drain done fuel).1, (s.drain done fuel).2.granting limit) := by
  induction fuel generalizing s done with
  | zero => rfl
  | succ fuel ih =>
    have hphase : (s.granting limit).phase = s.phase := rfl
    have hdue : (s.granting limit).worker.nextDeadline = s.worker.nextDeadline := rfl
    have hround : ∀ now, (s.granting limit).round .nothing now now =
        ((s.round .nothing now now).1, (s.round .nothing now now).2.granting limit) := by
      intro now
      refine round_granting rfl hle ?_
      rw [texts_tasks_nothing]
      simp
    have hsettings : ∀ now, (s.round .nothing now now).2.worker.host.settings =
        s.worker.host.settings := by
      intro now
      rw [round_eq]
      exact Worker.settings_after s.worker _
    simp only [drain, hphase, hdue, hround]
    split_ifs
    · exact ih _ (by rwa [hsettings]) _
    · rfl

/-- A round at the deadline is a step of the session. -/
theorem round_of_due {due : ℕ} (hphase : s.phase = .draining)
    (hdue : s.worker.nextDeadline = some due) :
    (s.round .nothing due due).2.phase = .draining ∧
    ∃ st st', s.worker.host.session = some st ∧ st.status = .stepping ∧
      (s.round .nothing due due).2.worker.host.session = some st' ∧
      st'.Abreast st.step.state := by
  have hround : s.round .nothing due due = s.tick [] due := by simp [round, hphase, hdue]
  have hdeadline : s.worker.host.session.bind (·.deadline) = some due :=
    (Host.nextDeadline_eq s.worker.host).symm.trans hdue
  obtain ⟨st, hst, hnext⟩ := Option.bind_eq_some_iff.mp hdeadline
  obtain ⟨hstepping, hnext⟩ := Option.ite_none_right_eq_some.mp hnext
  rw [hround]
  refine ⟨hphase, st, (st.tick due).state, hst, hstepping, ?_, Session.abreast_tick hstepping hnext⟩
  show (s.worker.host.tick due).state.session = _
  rw [Host.tick_of_some hst]
  rfl

/-- **The server ends if its session stops in time**: before the fuel is used up, at one step for
each deadline. -/
theorem phase_drain_eq_ended_iff (hsound : s.worker.Sound) (hphase : s.phase = .draining)
    (done : Array Event) (fuel : ℕ) :
    (s.drain done fuel).2.phase = .ended ↔ ∃ k < fuel, ∀ st, s.worker.host.session = some st →
      (st.after (.replicate k .step)).status ≠ .stepping := by
  induction fuel generalizing s done with
  | zero => simp [drain, hphase]
  | succ fuel ih =>
    cases hdue : s.worker.nextDeadline with
    | none =>
      have hround : s.round .nothing 0 0 = ([], { s with phase := .ended }) := by
        simp [round, hphase, hdue]
      have hquiet : ¬ ∃ st, s.worker.host.session = some st ∧ st.status = .stepping := by
        rw [← Host.isSome_nextDeadline_iff hsound.session]
        show ¬ s.worker.nextDeadline.isSome = true
        simp [hdue]
      simp only [drain, hphase, hdue, Option.getD_none, hround, if_true]
      rw [drain_of_not_draining (by simp)]
      refine iff_of_true rfl ⟨0, Nat.succ_pos fuel, ?_⟩
      intro st hst hstepping
      exact hquiet ⟨st, hst, hstepping⟩
    | some due =>
      obtain ⟨hnext, st, st', hst, hstepping, hst', habreast⟩ := round_of_due hphase hdue
      have hsound' : (s.round .nothing due due).2.worker.Sound := by
        rw [round_eq]
        exact hsound.after _
      simp only [drain, hphase, hdue, Option.getD_some, if_true]
      rw [ih hsound' hnext]
      simp only [hst, hst', Option.some.injEq, forall_eq']
      -- the session has made one of the steps
      constructor
      · rintro ⟨k, hk, hstop⟩
        rw [(habreast.steps k).status] at hstop
        exact ⟨k + 1, Nat.succ_lt_succ hk, hstop⟩
      · rintro ⟨k, hk, hstop⟩
        cases k with
        | zero => exact absurd hstepping hstop
        | succ k =>
          refine ⟨k, Nat.lt_of_succ_lt_succ hk, ?_⟩
          rw [(habreast.steps k).status]
          exact hstop

end Server

namespace Serving

variable {s : Serving} {w : Wake} {wakes : List Wake} {settings : Settings} {input : Array UInt8}

/-! ## Runs under another limit -/

/-- The server at its input, with another limit. -/
def granting (s : Serving) (limit : ℕ) : Serving := ⟨s.server.granting limit, s.pending⟩

theorem wake_granting {limit : ℕ} (hs : s.server.worker.host.settings = settings)
    (hle : settings.cycleLimit ≤ limit)
    (hreturns : ∀ text ∈ s.texts w, Worker.Returns settings text) :
    (s.granting limit).wake w = ((s.wake w).1, (s.wake w).2.granting limit) := by
  have harrival : (s.granting limit).arrival w = s.arrival w := rfl
  have hround : (s.granting limit).server.round (s.arrival w) w.now w.later =
      ((s.server.round (s.arrival w) w.now w.later).1,
        (s.server.round (s.arrival w) w.now w.later).2.granting limit) :=
    Server.round_granting hs hle hreturns
  simp only [wake, harrival, hround]
  rfl

/-- **A run is the same under a larger limit**, unless a line starts a run that is cut off. -/
theorem log_granting {limit : ℕ} (hs : s.server.worker.host.settings = settings)
    (hle : settings.cycleLimit ≤ limit)
    (hreturns : ∀ text ∈ (s.history wakes).filterMap Worker.Op.text?,
      Worker.Returns settings text) :
    (s.granting limit).log wakes = s.log wakes ∧
    (s.granting limit).after wakes = (s.after wakes).granting limit := by
  induction wakes generalizing s with
  | nil => exact ⟨rfl, rfl⟩
  | cons w wakes ih =>
    rw [texts_history_cons, List.forall_mem_append] at hreturns
    obtain ⟨hfirst, hrest⟩ := hreturns
    have hnext : (s.wake w).2.server.worker.host.settings = settings := by
      rw [worker_wake, Worker.settings_after, hs]
    obtain ⟨hlog, hafter⟩ := ih hnext hrest
    rw [log, log, after, after, wake_granting hs hle hfirst, hlog, hafter]
    exact ⟨rfl, rfl⟩

/-! ## One run of many -/

/-- Takes all lines and the end of the input while the clock stands at zero. -/
def feeding (lines : List Arrival) : List Wake := .replicate (lines.length + 1) ⟨true, 0, 0⟩

/-- Wakes up at the given times, and nothing arrives. -/
def alarms (dues : List ℕ) : List Wake := dues.map fun due => ⟨false, due, due⟩

@[simp] theorem countP_feeding (lines : List Arrival) :
    (feeding lines).countP (·.ready) = lines.length + 1 := by
  rw [feeding, List.countP_replicate]
  rfl

@[simp] theorem countP_alarms (dues : List ℕ) : (alarms dues).countP (·.ready) = 0 := by
  simp [alarms, List.countP_map]

/-- Once the end of the input is taken, the worker has been given all lines. -/
theorem texts_of_closed (h : (ofInput settings input).pending.length < wakes.countP (·.ready)) :
    ((ofInput settings input).history wakes).filterMap Worker.Op.text? =
      heard (ofInput settings input).pending := by
  rw [texts_history rfl (lines_ofInput settings input), List.take_of_length_le h.le]

/-- Once the end of the input is taken, the server waits for its session only. -/
theorem phase_feeding (hl : s.server.phase = .listening) (hp : Lines s.pending)
    (hlegible : .garbled ∉ s.pending) :
    (s.after (feeding s.pending)).server.phase = .draining := by
  obtain ⟨server, pending⟩ := s
  induction pending generalizing server with
  | nil =>
    cases woke hl hp ⟨true, 0, 0⟩ with
    | closed _ _ hphase _ => exact hphase
    | idle hr _ _ _ => cases hr
    | line _ _ hpending _ _ => cases hpending
    | garbled _ _ hpending _ _ => cases hpending
  | cons a pending ih =>
    cases woke hl hp ⟨true, 0, 0⟩ with
    | line text _ _ hphase _ =>
      exact ih (wake ⟨server, a :: pending⟩ ⟨true, 0, 0⟩).2.server hphase
        (fun b hb => hp b (List.mem_cons_of_mem a hb)) fun h => hlegible (List.mem_cons_of_mem a h)
    | idle hr _ _ _ => cases hr
    | closed _ hpending _ _ => cases hpending
    | garbled rest _ hpending _ _ =>
      obtain ⟨rfl, -⟩ := List.cons.inj hpending
      exact absurd List.mem_cons_self hlegible

/-- Taking all lines at once is a run. -/
theorem feed_pending (s : Serving) (done : Array Event) :
    let fed := (s.pending ++ [Arrival.closed]).foldl
      (fun (p : Array Event × Server) a => (p.1 ++ (p.2.round a 0 0).1, (p.2.round a 0 0).2))
      (done, s.server)
    fed.1.toList = done.toList ++ s.log (feeding s.pending) ∧
      fed.2 = (s.after (feeding s.pending)).server := by
  obtain ⟨server, pending⟩ := s
  induction pending generalizing server done with
  | nil => simp [feeding, log, after, wake, arrival]
  | cons a pending ih =>
    obtain ⟨hlog, hafter⟩ := ih (done ++ (server.round a 0 0).1) (server.round a 0 0).2
    refine ⟨hlog.trans ?_, hafter⟩
    rw [Array.toList_appendList, List.append_assoc]
    rfl

/-- The server that has taken all of its input at once. -/
def fed (settings : Settings) (input : Array UInt8) : Serving :=
  (ofInput settings input).after (feeding (ofInput settings input).pending)

/-- Serving an input in one go is to take all lines and then to wake up at every deadline. -/
theorem exists_serve_eq (settings : Settings) (input : Array UInt8) :
    ∃ told : Array Event,
      told.toList = (ofInput settings input).log (feeding (ofInput settings input).pending) ∧
      Server.serve settings input =
        (fed settings input).server.drain told settings.cycleLimit := by
  obtain ⟨htold, hserver⟩ := feed_pending (ofInput settings input) #[]
  refine ⟨_, htold, ?_⟩
  rw [fed, ← hserver]
  rfl

/-- Waking up at every deadline is a run, and the fuel is used up if it does not end. -/
theorem exists_dues (s : Serving) (done : Array Event) (fuel : ℕ) :
    ∃ dues, (s.server.drain done fuel).1.toList = done.toList ++ s.log (alarms dues) ∧
      (s.server.drain done fuel).2 = (s.after (alarms dues)).server ∧
      ((s.server.drain done fuel).2.phase = .draining → dues.length = fuel) := by
  induction fuel generalizing s done with
  | zero => exact ⟨[], (List.append_nil _).symm, rfl, fun _ => rfl⟩
  | succ fuel ih =>
    rw [Server.drain]
    split_ifs with hphase
    · let due := s.server.worker.nextDeadline.getD 0
      obtain ⟨dues, hlog, hafter, hfuel⟩ :=
        ih (s.wake ⟨false, due, due⟩).2 (done ++ (s.wake ⟨false, due, due⟩).1)
      refine ⟨due :: dues, hlog.trans ?_, hafter, fun h => congrArg Nat.succ (hfuel h)⟩
      rw [Array.toList_appendList, List.append_assoc]
      rfl
    · exact ⟨[], (List.append_nil _).symm, rfl, fun h => absurd h hphase⟩

/-- **How an input that is served in one go comes to its end.** -/
theorem phase_serve (settings : Settings) (input : Array UInt8) :
    ((Server.serve settings input).2.phase = .failed ↔
      .garbled ∈ (ofInput settings input).pending) ∧
    ((Server.serve settings input).2.phase = .ended ↔
      .garbled ∉ (ofInput settings input).pending ∧ ∃ k < settings.cycleLimit, ∀ st,
        (fed settings input).server.worker.host.session = some st →
        (st.after (.replicate k .step)).status ≠ .stepping) ∧
    (Server.serve settings input).2.phase ≠ .listening := by
  have hp := lines_ofInput settings input
  obtain ⟨told, -, hserve⟩ := exists_serve_eq settings input
  rw [hserve]
  by_cases hgarbled : .garbled ∈ (ofInput settings input).pending
  · have hphase : (fed settings input).server.phase = .failed := by
      refine (phase_after rfl hp _).1.mpr ?_
      rwa [countP_feeding, List.take_of_length_le (Nat.le_succ _)]
    rw [Server.drain_of_not_draining (by simp [hphase])]
    simp [hphase, hgarbled]
  · have hphase : (fed settings input).server.phase = .draining := phase_feeding rfl hp hgarbled
    have hsound : (fed settings input).server.worker.Sound := sound_after settings input _
    obtain ⟨dues, -, hafter, -⟩ := exists_dues (fed settings input) told settings.cycleLimit
    have hclosed := phase_of_closed (.inl hphase) (alarms dues)
    rw [← hafter] at hclosed
    refine ⟨?_, ?_, ?_⟩
    · rcases hclosed with h | h <;> simp [h, hgarbled]
    · rw [Server.phase_drain_eq_ended_iff hsound hphase]
      simp [hgarbled]
    · rcases hclosed with h | h <;> simp [h]

/-- **What is served in one go is the same under a larger limit**, unless the server was cut off. -/
theorem serve_granting {limit : ℕ}
    (hreturns : ∀ text ∈ heard (ofInput settings input).pending, Worker.Returns settings text)
    (hdone : (Server.serve settings input).2.phase ≠ .draining)
    (hle : settings.cycleLimit ≤ limit) :
    Server.serve { settings with cycleLimit := limit } input =
      ((Server.serve settings input).1, (Server.serve settings input).2.granting limit) := by
  obtain ⟨told, htold, hserve⟩ := exists_serve_eq settings input
  obtain ⟨told', htold', hserve'⟩ := exists_serve_eq { settings with cycleLimit := limit } input
  -- the lines are told the same, so what differs is the server that wakes up and its fuel
  have htexts : _ = heard (ofInput settings input).pending := texts_of_closed
    (by rw [countP_feeding]; exact Nat.lt_succ_self _)
  rw [← htexts] at hreturns
  obtain ⟨hlog, hafter⟩ := log_granting (s := ofInput settings input) rfl hle hreturns
  obtain rfl : told' = told := Array.toList_inj.mp ((htold'.trans hlog).trans htold.symm)
  have hfed : fed { settings with cycleLimit := limit } input =
      (fed settings input).granting limit := hafter
  have hsettings : (fed settings input).server.worker.host.settings = settings := by
    rw [fed, (log_eq_history _ _).2, Worker.settings_after]
    rfl
  rw [hserve] at hdone
  obtain ⟨more, rfl⟩ := Nat.exists_eq_add_of_le hle
  rw [hserve', hserve, hfed]
  refine (Server.drain_granting _ (by rwa [hsettings]) _ _).trans ?_
  rw [Server.drain_add hdone]

end Serving

open Serving in
/-- **A server takes each line once, and ends when nothing is stepping.** However lines and wake-ups
are timed, a run is a history of the worker whose lines are those that have arrived, each of them
once and in order, but for the blank ones. The server listens until all lines are taken and the
input is closed. A line that is no text makes it fail, and no later line is taken. Otherwise it ends
in the first round that finds the input closed before and no session stepping; once it has ended or
failed it does nothing more. If a session is stepping after the last line and the server ends, what
is told from there continues the log of the session's steps by hand, up to the first event that
stops it, and this event is the last one.

All this is said of runs in which every batch run that a line has started came to its end: where one
does not, no round follows. Then the limit of cycles is not felt, whatever it is.

To serve a whole input in one go is the run that takes all lines and then wakes up at every
deadline. It fails at a line that is no text. Otherwise it ends if the session that is left stepping
stops after fewer steps than the limit, and if not, it has woken up as often as the limit allows. -/
theorem serves_each_line_once (settings : Settings) (input : Array UInt8) (wakes : List Wake)
    (start done : Serving) (lines : List Arrival) (taken : ℕ) (served : Array Event × Server)
    (hstart : start = ofInput settings input) (hdone : done = start.after wakes)
    (hlines : lines = (Server.splitLines input).map .ofBytes)
    (htaken : taken = wakes.countP (·.ready)) (hserved : served = Server.serve settings input)
    (hreturns : ∀ text ∈ heard (lines.take taken), Worker.Returns settings text) :
    (start.log wakes = (Worker.ofSettings settings).log (start.history wakes) ∧
      done.server.worker = (Worker.ofSettings settings).after (start.history wakes) ∧
      (start.history wakes).filterMap Worker.Op.text? = heard (lines.take taken)) ∧
    (done.server.phase = .listening ↔ .garbled ∉ lines.take taken ∧ taken ≤ lines.length) ∧
    (done.server.phase = .failed ↔ .garbled ∈ lines.take taken) ∧
    (done.server.phase = .ended → lines.length < taken ∧ .garbled ∉ lines ∧ ¬ done.Stepping ∧
      (start.history wakes).filterMap Worker.Op.text? = lines.filterMap Arrival.text?) ∧
    (∀ w, (done.wake w).2.server.phase = .ended ↔
      done.server.phase = .ended ∨ done.server.phase = .draining ∧ ¬ done.Stepping) ∧
    (done.server.phase = .ended ∨ done.server.phase = .failed →
      ∀ more, done.log more = [] ∧ (done.after more).server = done.server) ∧
    (∀ before later st, wakes = before ++ later → lines.length ≤ before.countP (·.ready) →
      (start.after before).server.worker.host.session = some st → st.status = .stepping →
      done.server.phase = .ended →
      ∃ (r : Request) (s₀ : Session) (n k : ℕ),
        Session.load st.id r.source settings.stepped r.eof r.input
          (Settings.tickInterval r.interval) = .ok s₀ ∧
        st.stepper = (s₀.after (.replicate n .step)).stepper ∧
        s₀.log (.replicate (n + k) .step) =
          s₀.log (.replicate n .step) ++ (start.after before).log later ∧
        StopsLast ((start.after before).log later)) ∧
    (∀ limit, settings.cycleLimit ≤ limit →
      (ofInput { settings with cycleLimit := limit } input).log wakes = start.log wakes ∧
      ((ofInput { settings with cycleLimit := limit } input).after wakes).server.phase =
        done.server.phase) ∧
    ((∀ text ∈ heard lines, Worker.Returns settings text) →
      ∃ dues wakes', wakes' = feeding lines ++ alarms dues ∧
        lines.length < wakes'.countP (·.ready) ∧
        served.1.toList = start.log wakes' ∧ served.2 = (start.after wakes').server ∧
        (start.history wakes').filterMap Worker.Op.text? = heard lines ∧
        (served.2.phase = .failed ↔ .garbled ∈ lines) ∧
        (served.2.phase = .ended ↔ .garbled ∉ lines ∧ ∃ k < settings.cycleLimit, ∀ st,
          (start.after (feeding lines)).server.worker.host.session = some st →
          (st.after (.replicate k .step)).status ≠ .stepping) ∧
        (served.2.phase = .failed ∨ served.2.phase = .ended ∨
          served.2.phase = .draining ∧ dues.length = settings.cycleLimit) ∧
        (served.2.phase ≠ .draining → ∀ limit, settings.cycleLimit ≤ limit →
          (Server.serve { settings with cycleLimit := limit } input).1 = served.1 ∧
          (Server.serve { settings with cycleLimit := limit } input).2.phase =
            served.2.phase)) := by
  have hpending : (ofInput settings input).pending = lines := hlines.symm
  have hp := lines_ofInput settings input
  have htexts := texts_history (s := ofInput settings input) rfl hp wakes
  obtain ⟨hfailed, hlistening⟩ := phase_after (s := ofInput settings input) rfl hp wakes
  rw [hpending, ← htaken] at htexts hfailed hlistening
  have hquiet := nextDeadline_eq_none_iff settings input wakes
  subst hstart hdone hserved
  refine ⟨⟨(log_eq_history _ wakes).1, (log_eq_history _ wakes).2, htexts⟩, hlistening, hfailed,
    fun hended => ?_, fun w => ?_, fun hover => after_of_over hover, ?_, fun limit hle => ?_,
    fun hall => ?_⟩
  · have hnone := nextDeadline_of_ended (s := ofInput settings input) (by rintro ⟨⟩) wakes hended
    rw [hended] at hfailed hlistening
    have hgarbled : .garbled ∉ lines.take taken := by simpa using hfailed
    have hlt : lines.length < taken := by simpa [hgarbled] using hlistening
    rw [List.take_of_length_le hlt.le] at htexts hgarbled
    refine ⟨hlt, hgarbled, hquiet.mp hnone, ?_⟩
    rw [htexts, heard_of_legible hgarbled]
  · rw [phase_wake_eq_ended_iff, hquiet]
  · rintro before later st rfl hle hsession hstepping hended
    rw [after_append] at hended
    refine log_after_taken ?_ hsession hstepping hended
    rw [pending_after, hpending, List.drop_of_length_le hle]
  · rw [← htexts] at hreturns
    obtain ⟨hlog, hafter⟩ := log_granting (s := ofInput settings input) rfl hle hreturns
    exact ⟨hlog, congrArg (·.server.phase) hafter⟩
  · rw [← hpending] at hall ⊢
    obtain ⟨told, htold, hserve⟩ := exists_serve_eq settings input
    obtain ⟨dues, hlog, hafter, hfuel⟩ :=
      exists_dues (fed settings input) told settings.cycleLimit
    rw [← hserve] at hlog hafter hfuel
    obtain ⟨hfails, hends, hheard⟩ := phase_serve settings input
    have hcount : (ofInput settings input).pending.length <
        (feeding (ofInput settings input).pending ++ alarms dues).countP (·.ready) := by simp
    refine ⟨dues, _, rfl, hcount, ?_, ?_, texts_of_closed hcount, hfails, hends, ?_, ?_⟩
    · rw [hlog, htold, log_append]
      rfl
    · rw [hafter, after_append]
      rfl
    · cases hphase : (Server.serve settings input).2.phase with
      | listening => exact absurd hphase hheard
      | draining => exact .inr (.inr ⟨rfl, hfuel hphase⟩)
      | ended => exact .inr (.inl rfl)
      | failed => exact .inl rfl
    · intro hover limit hle
      rw [serve_granting hall hover hle]
      exact ⟨rfl, rfl⟩

open Serving in
/-- A batch run, a line that is no command, a blank one and a session that is left stepping. -/
theorem serves_each_line_once_to_the_end :
    let batch := "\x7b\"command\":\"start\",\"mode\":\"disabled\",\"source\":\"+\"\x7d"
    let text := "\x7b\"command\":\"start\",\"mode\":\"simple\",\"source\":\"+\"\x7d"
    let input := ((batch ++ "\noops\n\n" ++ text).toList.map fun c => UInt8.ofNat c.toNat).toArray
    let settings : Settings := { Settings.withLength {} 1 with cycleLimit := 9 }
    let start := ofInput settings input
    let served := Server.serve settings input
    let before : List Wake := .replicate 4 ⟨true, 0, 0⟩
    (∀ text' ∈ [batch, "oops", text], Worker.Returns settings text') ∧
    (start.after before).Stepping ∧ served.2.phase = .ended ∧
    (∃ later, served.1.toList = start.log before ++ (start.after before).log later ∧
      StopsLast ((start.after before).log later) ∧ ¬ (start.after (before ++ later)).Stepping ∧
      (start.history (before ++ later)).filterMap Worker.Op.text? = [batch, "oops", text]) ∧
    (Server.serve { settings with cycleLimit := 1000 } input).1 = served.1 := by
  intro batch text input settings start served before
  have hlines : (Server.splitLines input).map Arrival.ofBytes =
      [.line batch, .line "oops", .line "", .line text] := by
    simp only [input, batch, text, String.toList_append, String.reduceToList]
    rfl
  have hbatch : Json.read batch = some (.object [("command", .string "start"),
      ("mode", .string "disabled"), ("source", .string "+")]) := by
    simp only [Json.read, batch, String.reduceToList]
    rfl
  have hread : Json.read text = some (.object [("command", .string "start"),
      ("mode", .string "simple"), ("source", .string "+")]) := by
    simp only [Json.read, text, String.reduceToList]
    rfl
  have hoops : Json.read "oops" = none := by
    simp only [Json.read, String.reduceToList]
    rfl
  have hrefusal : Command.decode "oops" = .error (.malformed .notJson) := by
    rw [Command.decode, hoops]
  have hran : Command.decode batch = .ok (.start { mode := .disabled, source := "+" }) := by
    rw [Command.decode, hbatch]
    rfl
  have hstarts : Command.decode text = .ok (.start { mode := .simple, source := "+" }) := by
    rw [Command.decode, hread]
    rfl
  have hblank : isBlankText batch = false ∧ isBlankText "oops" = false ∧
      isBlankText "" = true ∧ isBlankText text = false := by
    decide +kernel
  clear_value input batch text
  have hreturns : ∀ text' ∈ [batch, "oops", text], Worker.Returns settings text' := by
    intro text' hmem
    simp only [List.mem_cons, List.not_mem_nil, or_false] at hmem
    rcases hmem with rfl | rfl | rfl
    · refine Worker.returns_of_start hran fun _ hcut => ?_
      -- the program has one instruction only
      obtain ⟨j, m, -, hafter, -⟩ := Host.cutOff_iff.mp hcut
      cases hafter
    · exact Worker.returns_of_error hrefusal
    · exact Worker.returns_of_start hstarts (by rintro ⟨⟩)
  have hheard : heard [.line batch, .line "oops", .line "", .line text] =
      [batch, "oops", text] := by
    simp [heard, Arrival.text?, hblank]
  have hall : ∀ text' ∈ heard [.line batch, .line "oops", .line "", .line text],
      Worker.Returns settings text' := by
    rwa [hheard]
  -- the first lines leave no session
  have hidle : (Worker.ofSettings settings).tick 0 = ([], .ofSettings settings) := rfl
  have hended : ((Worker.ofSettings settings).handleLine batch 0).state = .ofSettings settings := by
    rw [Worker.handleLine_of_decode hran]
    rfl
  have hrefused : ((Worker.ofSettings settings).handleLine "oops" 0).state =
      .ofSettings settings := by
    rw [Worker.handleLine, hrefusal]
    rfl
  -- one step executes the program of the last one, and the next finds its end
  obtain ⟨w, hw, htick, st, hsession, hstepping, hstatus⟩ : ∃ w,
      ((Worker.ofSettings settings).handleLine text 0).state = w ∧ (w.tick 0).2 = w ∧
      ∃ st, w.host.session = some st ∧ st.status = .stepping ∧
        (st.after (.replicate 2 .step)).status = .finished := by
    rw [Worker.handleLine_of_decode hstarts]
    exact ⟨_, rfl, rfl, _, rfl, rfl, rfl⟩
  have hbefore : start.after before = ⟨⟨w, .listening⟩, []⟩ := by
    have hstart : start = ⟨.ofSettings settings,
        [.line batch, .line "oops", .line "", .line text]⟩ := by
      rw [← hlines]
      rfl
    simp [hstart, before, List.replicate_succ, Serving.after, Serving.wake, Serving.arrival,
      Server.ofSettings, Server.round, Server.takeLine, Server.tick, hblank, hidle, hended,
      hrefused, hw, htick]
  have hfed : start.after (feeding [.line batch, .line "oops", .line "", .line text]) =
      ⟨⟨w, .draining⟩, []⟩ := by
    have hlast : feeding [.line batch, .line "oops", .line "", .line text] =
        before ++ [⟨true, 0, 0⟩] := rfl
    rw [hlast, after_append, hbefore]
    simp [Serving.after, Serving.wake, Serving.arrival, Server.round, Server.tick, htick]
  obtain ⟨-, -, -, -, -, -, -, -, hserve⟩ := serves_each_line_once settings input [] start _ _ _
    served rfl rfl hlines.symm rfl rfl (by rintro _ ⟨⟩)
  obtain ⟨dues, wakes', hwakes', hcount, hlog, hserver, htexts, -, hends, -, hlimit⟩ := hserve hall
  have hphase : served.2.phase = .ended := by
    refine hends.mpr ⟨by simp, 2, by decide, ?_⟩
    intro u hu
    rw [hfed] at hu
    obtain rfl := Option.some.inj (hsession.symm.trans hu)
    rw [hstatus]
    decide
  have hsplit : wakes' = before ++ (⟨true, 0, 0⟩ :: alarms dues) := hwakes'
  obtain ⟨-, -, -, hend, -, -, hlast, -⟩ := serves_each_line_once settings input wakes' start _ _ _
    served rfl rfl hlines.symm rfl rfl fun text' hmem => hall text' (by
      rwa [List.take_of_length_le hcount.le] at hmem)
  rw [hserver] at hphase
  obtain ⟨-, -, hquiet, -⟩ := hend hphase
  have hleft : (start.after before).server.worker.host.session = some st := by
    rw [hbefore]
    exact hsession
  obtain ⟨-, -, -, -, -, -, -, hstops⟩ :=
    hlast before _ st hsplit le_rfl hleft hstepping hphase
  rw [hsplit] at hlog hquiet htexts
  refine ⟨hreturns, ⟨st, hleft, hstepping⟩, hserver ▸ hphase, ⟨_, ?_, hstops, hquiet, ?_⟩, ?_⟩
  · rw [hlog, log_append]
  · rw [htexts, hheard]
  · exact (hlimit (by rw [hserver, hphase]; decide) 1000 (by decide)).1

end Tapewalk
