import Tapewalk.Proofs.Ticking
import Tapewalk.Server

/-!
# The rounds of a server

A server works in rounds. `Server.round_eq` says once what a round is: some tasks for the worker, at
most one line and then a tick, and the next phase. A `Serving` is a server at an input whose lines
arrive whenever they do, so a run of it is given by a list of wake-ups.

* `Serving.log_eq_history`: a run is a history of the worker.
* `Serving.texts_history`: the lines in that history are those that have arrived.
* `Serving.phase_after`: the phase is known from what has arrived.
* `Serving.log_after_taken`: after the last line, a session that is stepping goes on until it stops.
-/

namespace Tapewalk

/-! ## Rounds -/

namespace Server

/-- What a round has the worker do. -/
def tasks (s : Server) (a : Arrival) (now later : ℕ) : List Worker.Op :=
  match s.phase with
  | .listening =>
    match a with
    | .line text => (if isBlankText text then [] else [.line text now]) ++ [.tick later]
    | .garbled => []
    | .closed | .nothing => [.tick later]
  | .draining => if s.worker.nextDeadline.isNone then [] else [.tick later]
  | .ended | .failed => []

/-- The phase after a round. -/
def phaseAfter (s : Server) (a : Arrival) : Phase :=
  match s.phase with
  | .listening =>
    match a with
    | .garbled => .failed
    | .closed => .draining
    | .line _ | .nothing => .listening
  | .draining => if s.worker.nextDeadline.isNone then .ended else .draining
  | .ended => .ended
  | .failed => .failed

/-- **A round** is some tasks for the worker and the next phase. -/
theorem round_eq (s : Server) (a : Arrival) (now later : ℕ) :
    s.round a now later = (s.worker.log (s.tasks a now later),
      ⟨s.worker.after (s.tasks a now later), s.phaseAfter a⟩) := by
  obtain ⟨w, phase⟩ := s
  cases phase with
  | listening =>
    cases a with
    | line text =>
      by_cases hblank : isBlankText text = true <;>
        simp [round, takeLine, tick, tasks, phaseAfter, hblank, Worker.log, Worker.after,
          Worker.perform]
    | garbled => rfl
    | closed | nothing =>
      simp [round, tick, tasks, phaseAfter, Worker.log, Worker.after, Worker.perform]
  | draining =>
    by_cases hnone : w.nextDeadline.isNone = true
    · simp [round, tasks, phaseAfter, hnone, Worker.log, Worker.after]
    · simp [round, tick, tasks, phaseAfter, hnone, Worker.log, Worker.after, Worker.perform]
  | ended | failed => rfl

end Server

/-! ## Runs -/

/-- A server with what of its input it has not taken yet. -/
structure Serving where
  server : Server
  pending : List Arrival

/-- Whether there is more of the input when the server wakes up, when it takes that, and when it
ticks. -/
structure Wake where
  ready : Bool
  now : ℕ
  later : ℕ

/-- The text of a line that is not blank. -/
def Arrival.text? : Arrival → Option String
  | .line text => if isBlankText text then none else some text
  | _ => none

/-- The lines that are not blank, up to the first one that is no text. -/
def heard (lines : List Arrival) : List String :=
  (lines.takeWhile (· ≠ .garbled)).filterMap Arrival.text?

namespace Serving

open Server (Phase)

variable {s : Serving} {w : Wake} {wakes : List Wake}

/-- A server that has taken nothing of its input. -/
def ofInput (settings : Settings) (input : Array UInt8) : Serving :=
  ⟨.ofSettings settings, (Server.splitLines input).map .ofBytes⟩

/-- What a wake-up finds: the next line if it is there, and after the last line the end. -/
def arrival (s : Serving) (w : Wake) : Arrival :=
  if w.ready then s.pending.head?.getD .closed else .nothing

/-- A round at a wake-up. -/
def wake (s : Serving) (w : Wake) : List Event × Serving :=
  let (events, server) := s.server.round (s.arrival w) w.now w.later
  (events, ⟨server, if w.ready then s.pending.tail else s.pending⟩)

/-- All events of the rounds, in order. -/
def log (s : Serving) : List Wake → List Event
  | [] => []
  | w :: wakes => (s.wake w).1 ++ (s.wake w).2.log wakes

/-- What is left after the rounds. -/
def after (s : Serving) : List Wake → Serving
  | [] => s
  | w :: wakes => (s.wake w).2.after wakes

/-- What the rounds have the worker do. -/
def history (s : Serving) : List Wake → List Worker.Op
  | [] => []
  | w :: wakes => s.server.tasks (s.arrival w) w.now w.later ++ (s.wake w).2.history wakes

theorem events_wake (s : Serving) (w : Wake) :
    (s.wake w).1 = s.server.worker.log (s.server.tasks (s.arrival w) w.now w.later) :=
  congrArg Prod.fst (Server.round_eq s.server (s.arrival w) w.now w.later)

theorem worker_wake (s : Serving) (w : Wake) :
    (s.wake w).2.server.worker =
      s.server.worker.after (s.server.tasks (s.arrival w) w.now w.later) :=
  congrArg (·.2.worker) (Server.round_eq s.server (s.arrival w) w.now w.later)

/-- **A run of a server is a history of its worker.** -/
theorem log_eq_history (s : Serving) (wakes : List Wake) :
    s.log wakes = s.server.worker.log (s.history wakes) ∧
    (s.after wakes).server.worker = s.server.worker.after (s.history wakes) := by
  induction wakes generalizing s with
  | nil => exact ⟨rfl, rfl⟩
  | cons w wakes ih =>
    obtain ⟨hlog, hafter⟩ := ih (s.wake w).2
    constructor
    · rw [log, history, Worker.log_append, events_wake, hlog, worker_wake]
    · rw [after, history, Worker.after_append, hafter, worker_wake]

theorem phase_wake (s : Serving) (w : Wake) :
    (s.wake w).2.server.phase = s.server.phaseAfter (s.arrival w) :=
  congrArg (·.2.phase) (Server.round_eq s.server (s.arrival w) w.now w.later)

theorem pending_wake (s : Serving) (w : Wake) :
    (s.wake w).2.pending = if w.ready then s.pending.tail else s.pending := rfl

theorem after_append (s : Serving) (wakes wakes' : List Wake) :
    s.after (wakes ++ wakes') = (s.after wakes).after wakes' := by
  induction wakes generalizing s with
  | nil => rfl
  | cons w wakes ih => exact ih _

theorem log_append (s : Serving) (wakes wakes' : List Wake) :
    s.log (wakes ++ wakes') = s.log wakes ++ (s.after wakes).log wakes' := by
  induction wakes generalizing s with
  | nil => rfl
  | cons w wakes ih => rw [List.cons_append, log, log, ih, List.append_assoc, after]

/-- Each wake-up that finds something takes one of what is pending. -/
theorem pending_after (s : Serving) (wakes : List Wake) :
    (s.after wakes).pending = s.pending.drop (wakes.countP (·.ready)) := by
  induction wakes generalizing s with
  | nil => rfl
  | cons w wakes ih =>
    rw [after, ih, pending_wake]
    cases hr : w.ready with
    | false => simp [hr]
    | true => simp [hr, List.drop_tail]

/-! ## What has been heard -/

/-- All that is pending are lines, of text or not. -/
def Lines (pending : List Arrival) : Prop := ∀ a ∈ pending, (∃ text, a = .line text) ∨ a = .garbled

theorem lines_ofInput (settings : Settings) (input : Array UInt8) :
    Lines (ofInput settings input).pending := by
  intro a ha
  obtain ⟨bytes, -, rfl⟩ := List.mem_map.mp ha
  unfold Arrival.ofBytes
  cases Utf8.decode? bytes with
  | none => exact .inr rfl
  | some text => exact .inl ⟨text, rfl⟩

theorem Lines.wake (h : Lines s.pending) (w : Wake) : Lines (s.wake w).2.pending := by
  rw [pending_wake]
  split_ifs
  · exact fun a ha => h a (List.mem_of_mem_tail ha)
  · exact h

theorem heard_line (text : String) (lines : List Arrival) :
    heard (.line text :: lines) = (Arrival.line text).text?.toList ++ heard lines := by
  rw [heard, List.takeWhile_cons_of_pos (by simp), List.filterMap_cons]
  cases (Arrival.line text).text? <;> rfl

theorem heard_garbled (lines : List Arrival) : heard (.garbled :: lines) = [] := by
  rw [heard, List.takeWhile_cons_of_neg (by simp)]
  rfl

theorem heard_of_legible {lines : List Arrival} (h : .garbled ∉ lines) :
    heard lines = lines.filterMap Arrival.text? := by
  rw [heard, List.takeWhile_eq_self_iff.mpr]
  intro a ha
  simpa using fun heq : a = .garbled => h (heq ▸ ha)

/-- The texts that a round at a wake-up hands to the worker. -/
def texts (s : Serving) (w : Wake) : List String :=
  (s.server.tasks (s.arrival w) w.now w.later).filterMap Worker.Op.text?

theorem texts_history_cons (s : Serving) (w : Wake) (wakes : List Wake) :
    (s.history (w :: wakes)).filterMap Worker.Op.text? =
      s.texts w ++ ((s.wake w).2.history wakes).filterMap Worker.Op.text? := by
  rw [history, List.filterMap_append]
  rfl

/-- **What a wake-up can do** to a server that listens. -/
inductive Woke (s : Serving) (w : Wake) : Prop
  | idle : w.ready = false → (s.wake w).2.server.phase = .listening →
      (s.wake w).2.pending = s.pending → s.texts w = [] → Woke s w
  | closed : w.ready = true → s.pending = [] → (s.wake w).2.server.phase = .draining →
      s.texts w = [] → Woke s w
  | line (text : String) : w.ready = true → s.pending = .line text :: (s.wake w).2.pending →
      (s.wake w).2.server.phase = .listening → s.texts w = (Arrival.line text).text?.toList →
      Woke s w
  | garbled (rest : List Arrival) : w.ready = true → s.pending = .garbled :: rest →
      (s.wake w).2.server.phase = .failed → s.texts w = [] → Woke s w

theorem woke (hl : s.server.phase = .listening) (hp : Lines s.pending) (w : Wake) : s.Woke w := by
  have hphase := phase_wake s w
  cases hr : w.ready with
  | false =>
    have ha : s.arrival w = .nothing := by simp [arrival, hr]
    rw [ha, Server.phaseAfter, hl] at hphase
    refine .idle hr hphase (by simp [pending_wake, hr]) ?_
    rw [texts, ha, Server.tasks, hl]
    rfl
  | true =>
    cases hs : s.pending with
    | nil =>
      have ha : s.arrival w = .closed := by simp [arrival, hr, hs]
      rw [ha, Server.phaseAfter, hl] at hphase
      refine .closed hr hs hphase ?_
      rw [texts, ha, Server.tasks, hl]
      rfl
    | cons a rest =>
      have ha : s.arrival w = a := by simp [arrival, hr, hs]
      have hrest : (s.wake w).2.pending = rest := by simp [pending_wake, hr, hs]
      rcases hp a (by simp [hs]) with ⟨text, rfl⟩ | rfl
      · rw [ha, Server.phaseAfter, hl] at hphase
        refine .line text hr (by rw [hs, hrest]) hphase ?_
        rw [texts, ha, Server.tasks, hl]
        by_cases hblank : isBlankText text = true <;>
          simp [Arrival.text?, hblank, Worker.Op.text?]
      · rw [ha, Server.phaseAfter, hl] at hphase
        refine .garbled rest hr hs hphase ?_
        rw [texts, ha, Server.tasks, hl]
        rfl

theorem texts_of_not_listening (hl : s.server.phase ≠ .listening) (wakes : List Wake) :
    (s.history wakes).filterMap Worker.Op.text? = [] := by
  induction wakes generalizing s with
  | nil => rfl
  | cons w wakes ih =>
    have hnone : s.texts w = [] ∧ (s.wake w).2.server.phase ≠ .listening := by
      rw [phase_wake]
      unfold texts Server.tasks Server.phaseAfter
      cases h : s.server.phase with
      | listening => exact absurd h hl
      | draining =>
        dsimp only
        split_ifs <;> simp [Worker.Op.text?]
      | ended | failed => simp
    rw [texts_history_cons, hnone.1, ih hnone.2]
    rfl

/-- **The worker is given the lines that have arrived**, each of them once and in order, up to the
first one that is no text. -/
theorem texts_history (hl : s.server.phase = .listening) (hp : Lines s.pending)
    (wakes : List Wake) :
    (s.history wakes).filterMap Worker.Op.text? =
      heard (s.pending.take (wakes.countP (·.ready))) := by
  induction wakes generalizing s with
  | nil => rfl
  | cons w wakes ih =>
    rw [texts_history_cons]
    cases woke hl hp w with
    | idle hr hphase hpending htexts =>
      rw [htexts, ih hphase (hp.wake w), hpending, List.countP_cons_of_neg (by simp [hr])]
      rfl
    | closed hr hnil hphase htexts =>
      rw [htexts, texts_of_not_listening (by simp [hphase]), hnil, List.take_nil]
      rfl
    | line text hr hpending hphase htexts =>
      rw [htexts, ih hphase (hp.wake w), hpending, List.countP_cons_of_pos hr, List.take_succ_cons,
        heard_line]
    | garbled rest hr hpending hphase htexts =>
      rw [htexts, texts_of_not_listening (by simp [hphase]), hpending,
        List.countP_cons_of_pos hr, List.take_succ_cons, heard_garbled]
      rfl

/-! ## Phases -/

/-- A server that has ended or failed does nothing more. -/
theorem after_of_over (h : s.server.phase = .ended ∨ s.server.phase = .failed) (wakes : List Wake) :
    s.log wakes = [] ∧ (s.after wakes).server = s.server := by
  induction wakes generalizing s with
  | nil => exact ⟨rfl, rfl⟩
  | cons w wakes ih =>
    have hround : s.server.round (s.arrival w) w.now w.later = ([], s.server) := by
      rcases h with h | h <;> simp only [Server.round, h]
    have hevents : (s.wake w).1 = [] := congrArg Prod.fst hround
    have hserver : (s.wake w).2.server = s.server := congrArg Prod.snd hround
    obtain ⟨hlog, hafter⟩ := ih (s := (s.wake w).2) (by rwa [hserver])
    rw [log, after, hevents, hlog, hafter, hserver]
    exact ⟨rfl, rfl⟩

theorem phase_of_closed (h : s.server.phase = .draining ∨ s.server.phase = .ended)
    (wakes : List Wake) :
    (s.after wakes).server.phase = .draining ∨ (s.after wakes).server.phase = .ended := by
  induction wakes generalizing s with
  | nil => exact h
  | cons w wakes ih =>
    apply ih
    rw [phase_wake]
    unfold Server.phaseAfter
    rcases h with h | h
    · rw [h]
      dsimp only
      split_ifs <;> simp
    · rw [h]
      exact .inr rfl

/-- **The phase is known from what has arrived.** -/
theorem phase_after (hl : s.server.phase = .listening) (hp : Lines s.pending) (wakes : List Wake) :
    ((s.after wakes).server.phase = .failed ↔
      .garbled ∈ s.pending.take (wakes.countP (·.ready))) ∧
    ((s.after wakes).server.phase = .listening ↔
      .garbled ∉ s.pending.take (wakes.countP (·.ready)) ∧
        wakes.countP (·.ready) ≤ s.pending.length) := by
  induction wakes generalizing s with
  | nil => simp [after, hl]
  | cons w wakes ih =>
    rw [after]
    cases woke hl hp w with
    | idle hr hphase hpending htexts =>
      have hih := ih hphase (hp.wake w)
      rw [hpending] at hih
      rwa [List.countP_cons_of_neg (by simp [hr])]
    | closed hr hnil hphase htexts =>
      rw [hnil, List.take_nil, List.countP_cons_of_pos hr]
      rcases phase_of_closed (.inl hphase) wakes with h | h <;> simp [h]
    | line text hr hpending hphase htexts =>
      have hih := ih hphase (hp.wake w)
      rw [hpending, List.countP_cons_of_pos hr, List.take_succ_cons]
      simpa using hih
    | garbled rest hr hpending hphase htexts =>
      rw [(after_of_over (.inr hphase) wakes).2, hphase, hpending, List.countP_cons_of_pos hr,
        List.take_succ_cons]
      simp

/-- The server ends in the round that finds the input closed before and nothing stepping. -/
theorem phase_wake_eq_ended_iff (s : Serving) (w : Wake) :
    (s.wake w).2.server.phase = .ended ↔
      s.server.phase = .ended ∨
        s.server.phase = .draining ∧ s.server.worker.nextDeadline = none := by
  rw [phase_wake]
  unfold Server.phaseAfter
  cases s.server.phase with
  | listening => cases s.arrival w <;> simp
  | draining => cases s.server.worker.nextDeadline <;> simp
  | ended | failed => simp

/-- When the server has ended, nothing is stepping. -/
theorem nextDeadline_of_ended (h : s.server.phase = .ended → s.server.worker.nextDeadline = none)
    (wakes : List Wake) (hended : (s.after wakes).server.phase = .ended) :
    (s.after wakes).server.worker.nextDeadline = none := by
  induction wakes generalizing s with
  | nil => exact h hended
  | cons w wakes ih =>
    refine ih ?_ hended
    intro hphase
    -- the round that ends the server has no task for the worker
    have hquiet : s.server.tasks (s.arrival w) w.now w.later = [] ∧
        s.server.worker.nextDeadline = none := by
      rcases (phase_wake_eq_ended_iff s w).mp hphase with hended | ⟨hdraining, hnone⟩
      · exact ⟨by simp only [Server.tasks, hended], h hended⟩
      · exact ⟨by simp [Server.tasks, hdraining, hnone], hnone⟩
    rw [worker_wake, hquiet.1]
    exact hquiet.2

/-! ## After the last line -/

/-- Once all lines are taken, there is nothing but ticks. -/
theorem history_of_taken (hp : s.pending = []) (wakes : List Wake) :
    ∃ times : List ℕ, s.history wakes = times.map .tick := by
  induction wakes generalizing s with
  | nil => exact ⟨[], rfl⟩
  | cons w wakes ih =>
    have hnext : (s.wake w).2.pending = [] := by simp [pending_wake, hp]
    obtain ⟨times, htimes⟩ := ih hnext
    have hticks : ∃ first : List ℕ,
        s.server.tasks (s.arrival w) w.now w.later = first.map .tick := by
      unfold Server.tasks
      cases s.server.phase with
      | listening =>
        refine ⟨[w.later], ?_⟩
        cases hr : w.ready <;> simp [arrival, hr, hp]
      | draining =>
        dsimp only
        split_ifs
        · exact ⟨[], rfl⟩
        · exact ⟨[w.later], rfl⟩
      | ended | failed => exact ⟨[], rfl⟩
    obtain ⟨first, hfirst⟩ := hticks
    exact ⟨first ++ times, by rw [history, hfirst, htimes, List.map_append]⟩

variable {settings : Settings} {input : Array UInt8} {st : Session}

theorem sound_after (settings : Settings) (input : Array UInt8) (wakes : List Wake) :
    ((ofInput settings input).after wakes).server.worker.Sound := by
  rw [(log_eq_history _ wakes).2]
  exact (Worker.sound_ofSettings settings).after _

/-- Some session is stepping. -/
def Stepping (s : Serving) : Prop :=
  ∃ st, s.server.worker.host.session = some st ∧ st.status = .stepping

theorem nextDeadline_eq_none_iff (settings : Settings) (input : Array UInt8) (wakes : List Wake) :
    ((ofInput settings input).after wakes).server.worker.nextDeadline = none ↔
      ¬ ((ofInput settings input).after wakes).Stepping := by
  rw [← Option.not_isSome_iff_eq_none, not_iff_not]
  exact Host.isSome_nextDeadline_iff (sound_after settings input wakes).session

/-- **What is told after the last line.** If the server ends, the session that was stepping goes on
with its steps up to the first event that stops it, and that event is the last one. -/
theorem log_after_taken {before later : List Wake}
    (htaken : ((ofInput settings input).after before).pending = [])
    (hsession : ((ofInput settings input).after before).server.worker.host.session = some st)
    (hstepping : st.status = .stepping)
    (hended : (((ofInput settings input).after before).after later).server.phase = .ended) :
    ∃ (r : Request) (s₀ : Session) (n k : ℕ),
      Session.load st.id r.source settings.stepped r.eof r.input
        (Settings.tickInterval r.interval) = .ok s₀ ∧
      st.stepper = (s₀.after (.replicate n .step)).stepper ∧
      s₀.log (.replicate (n + k) .step) = s₀.log (.replicate n .step) ++
        ((ofInput settings input).after before).log later ∧
      StopsLast (((ofInput settings input).after before).log later) := by
  obtain ⟨times, htimes⟩ := history_of_taken htaken later
  obtain ⟨hlog, hafter⟩ := log_eq_history ((ofInput settings input).after before) later
  have hsound := (sound_after settings input before).session st hsession
  obtain ⟨hticks, hlast⟩ := Worker.log_ticks hsession times
  rw [htimes, hticks] at hlog
  rw [htimes] at hafter
  rw [(log_eq_history _ before).2] at hsession
  obtain ⟨r, s₀, n, hload, halike⟩ := Worker.exists_steps hsession
  -- its ticks go on where the steps by hand have stopped
  obtain ⟨hsteps, -⟩ := halike.schedule (times.map .tick)
  refine ⟨r, s₀, n, st.callCount (times.map .tick), hload, halike.stepper, ?_, ?_⟩
  · rw [List.replicate_add, Session.log_append, hlog, hsteps]
  · rw [hlog]
    rcases hsound.log_ticks hstepping times with ⟨hgoes, -⟩ | ⟨-, hstops⟩
    · -- the session would be stepping still
      rw [← after_append] at hended hafter
      have hnone := nextDeadline_of_ended (s := ofInput settings input) (by rintro ⟨⟩) _ hended
      rw [nextDeadline_eq_none_iff] at hnone
      exact absurd ⟨_, by rw [hafter]; exact hlast, hgoes⟩ hnone
    · exact hstops

end Serving

end Tapewalk
