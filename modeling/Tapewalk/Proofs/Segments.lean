import Mathlib.Data.List.TakeWhile
import Tapewalk.Host
import Tapewalk.Proofs.EventLog

/-!
# The log of a host

Each start discards the session before it, so the log of a host is cut at its starts. Between two
starts a host passes operations on to its session or refuses them (`Host.exists_schedule`), so what
is told there is the log of a session, or nothing if there is none. A batch run is told by its
verdict, and if nothing is told of it, it was cut off at the limit (`Host.cutOff_iff`,
`Host.events_eq_nil_iff`).
-/

namespace Tapewalk.Host

open Session (Chronicle Told)

variable {h : Host} {s : Session} {op : Op} {ops : List Op} {id : SessionId} {r : Request} {now : ℕ}

/-! ## Histories -/

/-- The host after a list of operations. -/
def after (h : Host) : List Op → Host
  | [] => h
  | op :: ops => (h.perform op).state.after ops

/-- All events of a list of operations, in order. -/
def log (h : Host) : List Op → List Event
  | [] => []
  | op :: ops => (h.perform op).events ++ (h.perform op).state.log ops

/-- What is to be started. -/
def Op.request? : Op → Option Request
  | .start r _ => some r
  | _ => none

/-- What is told from a start until the next one, and the session that is left then. -/
structure Segment where
  request : Request
  events : List Event
  session : Option Session

/-- The segment of a start with the operations that follow it. -/
def segment (h : Host) (r : Request) (now : ℕ) (ops : List Op) : Segment :=
  ⟨r, h.log (.start r now :: ops), (h.after (.start r now :: ops)).session⟩

/-- The operations before the next start. -/
def untilStart (ops : List Op) : List Op := ops.takeWhile (·.request?.isNone)

/-- The segments of a list of operations, one for each start. -/
def segments (h : Host) : List Op → List Segment
  | [] => []
  | .start r now :: ops =>
    h.segment r now (untilStart ops) :: (h.perform (.start r now)).state.segments ops
  | op :: ops => (h.perform op).state.segments ops

theorem untilStart_cons_start (r : Request) (now : ℕ) (ops : List Op) :
    untilStart (.start r now :: ops) = [] := rfl

theorem untilStart_cons (hop : op.request? = none) (ops : List Op) :
    untilStart (op :: ops) = op :: untilStart ops := by
  simp [untilStart, hop]

theorem request?_of_mem_untilStart (hmem : op ∈ untilStart ops) : op.request? = none := by
  have := List.mem_takeWhile_imp hmem
  simpa using this

theorem segments_cons (hop : op.request? = none) (ops : List Op) :
    h.segments (op :: ops) = (h.perform op).state.segments ops := by
  cases op with
  | start r now => cases hop
  | _ => rfl

/-- The log is what is told before the first start, and then all segments. -/
theorem log_eq_segments (h : Host) (ops : List Op) :
    h.log ops = h.log (untilStart ops) ++ (h.segments ops).flatMap (·.events) := by
  induction ops generalizing h with
  | nil => rfl
  | cons op ops ih =>
    have hrest := ih (h.perform op).state
    cases hop : op.request? with
    | none =>
      rw [untilStart_cons hop, segments_cons hop, log, log, hrest, List.append_assoc]
    | some r =>
      cases op with
      | start r now =>
        have hlog : h.log (.start r now :: ops) = (h.perform (.start r now)).events ++ _ :=
          congrArg _ hrest
        rw [hlog, untilStart_cons_start, segments, List.flatMap_cons, ← List.append_assoc]
        rfl
      | _ => cases hop

theorem request_segments (h : Host) (ops : List Op) :
    (h.segments ops).map (·.request) = ops.filterMap Op.request? := by
  induction ops generalizing h with
  | nil => rfl
  | cons op ops ih =>
    cases op with
    | start r now =>
      rw [segments, List.map_cons, ih]
      rfl
    | _ => exact ih _

/-! ## Between two starts -/

theorem find?_of_session (hs : h.session = some s) (id : SessionId) :
    h.find? id = if s.id = id then some s else none := by
  simp [find?, hs, Option.filter]

theorem onSession_current {α : Type} (hs : h.session = some s)
    (op : Session → Reaction Session Refusal α) :
    h.onSession s.id op = (op s).within fun s => { h with session := some s } := by
  simp [onSession, find?_of_session hs]

/-- Without a session nothing happens but starts. -/
theorem perform_of_none (hn : h.session = none) (hop : op.request? = none) :
    (h.perform op).events = [] ∧ (h.perform op).state = h := by
  have hfind : ∀ id, h.find? id = none := by
    intro id
    simp [find?, hn]
  cases op with
  | start r now => cases hop
  | stop id => simp only [perform, stop, onSession, hfind]; exact ⟨rfl, rfl⟩
  | restart id interval now => simp only [perform, restart, onSession, hfind]; exact ⟨rfl, rfl⟩
  | step id => simp only [perform, step, onSession, hfind]; exact ⟨rfl, rfl⟩
  | tick now => simp only [perform, tick, hn]; exact ⟨rfl, rfl⟩

/-- What an operation asks of the session, if it is no start. -/
def Op.asks : Op → Option Session.Op
  | .start _ _ => none
  | .stop _ => some .stop
  | .restart _ interval now => some (.restart (Settings.tickInterval interval) now)
  | .step _ => some .step
  | .tick now => some (.tick now)

theorem Op.exists_asks (hop : op.request? = none) : ∃ sop, op.asks = some sop := by
  cases op with
  | start r now => cases hop
  | _ => exact ⟨_, rfl⟩

/-- What is asked of a session is refused for its number, or done. -/
theorem perform_of_asks {sop : Session.Op} (hs : h.session = some s) (hop : op.asks = some sop) :
    ((h.perform op).events = [] ∧ (h.perform op).state = h) ∨
    ((h.perform op).events = (s.perform sop).events ∧
      (h.perform op).state = { h with session := some (s.perform sop).state }) := by
  cases op with
  | start r now => cases hop
  | tick now =>
    obtain rfl := Option.some.inj hop
    right
    simp only [perform, tick, hs]
    exact ⟨rfl, rfl⟩
  | stop id =>
    obtain rfl := Option.some.inj hop
    simp only [perform, stop, onSession, find?_of_session hs]
    split_ifs with hid
    · exact .inr ⟨rfl, rfl⟩
    · exact .inl ⟨rfl, rfl⟩
  | restart id interval now =>
    obtain rfl := Option.some.inj hop
    simp only [perform, restart, onSession, find?_of_session hs]
    split_ifs with hid
    · exact .inr ⟨rfl, rfl⟩
    · exact .inl ⟨rfl, rfl⟩
  | step id =>
    obtain rfl := Option.some.inj hop
    simp only [perform, step, onSession, find?_of_session hs]
    split_ifs with hid
    · exact .inr ⟨rfl, rfl⟩
    · exact .inl ⟨rfl, rfl⟩

/-- What is no start is refused, or done to the session. -/
theorem perform_of_some (hs : h.session = some s) (hop : op.request? = none) :
    ((h.perform op).events = [] ∧ (h.perform op).state = h) ∨
    ∃ sop, (h.perform op).events = (s.perform sop).events ∧
      (h.perform op).state = { h with session := some (s.perform sop).state } := by
  obtain ⟨sop, hsop⟩ := Op.exists_asks hop
  exact (perform_of_asks hs hsop).imp_right fun hdone => ⟨sop, hdone⟩

theorem log_of_none (hn : h.session = none) (hops : ∀ op ∈ ops, op.request? = none) :
    h.log ops = [] ∧ h.after ops = h := by
  induction ops with
  | nil => exact ⟨rfl, rfl⟩
  | cons op ops ih =>
    obtain ⟨hev, hst⟩ := perform_of_none hn (hops op (by simp))
    obtain ⟨hlog, hafter⟩ := ih fun op' hop' => hops op' (by simp [hop'])
    rw [log, after, hev, hst, hlog, hafter]
    exact ⟨rfl, rfl⟩

/-- **Between two starts a host follows a schedule of its session.** -/
theorem exists_schedule (hs : h.session = some s) (hops : ∀ op ∈ ops, op.request? = none) :
    ∃ sops, h.log ops = s.log sops ∧ h.after ops = { h with session := some (s.after sops) } := by
  induction ops generalizing h s with
  | nil =>
    refine ⟨[], rfl, ?_⟩
    cases h
    cases hs
    rfl
  | cons op ops ih =>
    have hrest : ∀ op' ∈ ops, op'.request? = none := fun op' hop' => hops op' (by simp [hop'])
    rcases perform_of_some hs (hops op (by simp)) with ⟨hev, hst⟩ | ⟨sop, hev, hst⟩
    · -- what is refused is not part of the schedule
      obtain ⟨sops, hlog, hafter⟩ := ih hs hrest
      refine ⟨sops, ?_, ?_⟩
      · rw [log, hev, hst, hlog, List.nil_append]
      · rw [after, hst, hafter]
    · have hs' : (h.perform op).state.session = some (s.perform sop).state := by rw [hst]
      obtain ⟨sops, hlog, hafter⟩ := ih hs' hrest
      refine ⟨sop :: sops, ?_, ?_⟩
      · rw [log, hev, hlog]
        rfl
      · rw [after, hafter, hst]
        rfl

/-! ## Starts -/

/-- What is told of a batch run. -/
def verdictEvents : Batch.Verdict → List Event
  | .finished m => [.finished m.cycles m.stdout #[]]
  | .failed f => [.error f.message]
  | .unfinished _ => []

/-- The verdict of a batch run of the request. -/
def verdict (settings : Settings) (r : Request) : Batch.Verdict :=
  Batch.runSource r.source settings.batch r.eof r.input settings.cycleLimit

theorem verdict_of_build {settings : Settings} {j : Jumps}
    (hj : Jumps.build (.ofString r.source) = .ok j) :
    verdict settings r = Batch.run (.ofString r.source) j settings.cycleLimit
      (.start settings.batch r.eof r.input) := by
  simp only [verdict, Batch.runSource, hj]

theorem verdict_of_build_error {settings : Settings} {f : Fault}
    (hf : Jumps.build (.ofString r.source) = .error f) : verdict settings r = .failed f := by
  simp only [verdict, Batch.runSource, hf]

/-- The batch run of the request is cut off at the limit. -/
def CutOff (settings : Settings) (r : Request) : Prop := ∃ m, verdict settings r = .unfinished m

/-- **What it means to be cut off**: the program loads, and as many instructions as the limit grants
neither bring it to its end nor fail. -/
theorem cutOff_iff {settings : Settings} : CutOff settings r ↔
    ∃ j m, Jumps.build (.ofString r.source) = .ok j ∧
      (Machine.start settings.batch r.eof r.input).after? (.ofString r.source) j .classic
        settings.cycleLimit = some m ∧ m.halted (.ofString r.source) = false := by
  unfold CutOff
  cases hj : Jumps.build (.ofString r.source) with
  | error f => simp [verdict_of_build_error hj]
  | ok j => simp [verdict_of_build hj, Batch.run_eq_unfinished_iff]

/-- A larger limit makes no difference to a run that is not cut off. -/
theorem verdict_of_le {settings : Settings} {limit : ℕ} (hr : ¬ CutOff settings r)
    (hle : settings.cycleLimit ≤ limit) :
    verdict { settings with cycleLimit := limit } r = verdict settings r := by
  cases hj : Jumps.build (.ofString r.source) with
  | error f => rw [verdict_of_build_error hj, verdict_of_build_error hj]
  | ok j =>
    rw [verdict_of_build hj, verdict_of_build hj]
    refine Batch.run_of_le ?_ hle
    intro m hm
    exact hr ⟨m, (verdict_of_build hj).trans hm⟩

/-- A batch run leaves no session, and is told by its verdict alone. -/
theorem start_disabled (h : Host) (now : ℕ) (hr : r.mode = .disabled) :
    (h.start r now).state = { h with session := none } ∧
    (h.start r now).events = verdictEvents (verdict h.settings r) ∧
    ∀ id, (h.start r now).result ≠ .ok (some id) := by
  simp only [start, hr, runBatch, verdict]
  cases Batch.runSource r.source h.settings.batch r.eof r.input h.settings.cycleLimit <;>
    exact ⟨rfl, rfl, nofun⟩

/-- Nothing is told of a batch run exactly if it is cut off. -/
theorem events_eq_nil_iff (h : Host) (now : ℕ) (hr : r.mode = .disabled) :
    (h.start r now).events = [] ↔ CutOff h.settings r := by
  rw [(start_disabled h now hr).2.1, CutOff]
  cases verdict h.settings r <;> simp [verdictEvents]

theorem start_unloadable {f : Fault} (h : Host) (now : ℕ) (hr : r.mode = .simple)
    (hf : Jumps.build (.ofString r.source) = .error f) :
    h.start r now = ⟨.error (.fault f), [.error f.message],
      { h with session := none, nextId := h.nextId + 1 }⟩ := by
  have hload : ∀ shape interval, Session.load ⟨h.nextId⟩ r.source shape r.eof r.input interval =
      .error f := by
    intro shape interval
    simp only [Session.load, Stepper.load_of_build_error hf]
    rfl
  simp only [start, hr, openSession, hload]
  rfl

/-- A program that loads is begun in a new session, and nothing is told of that. -/
theorem start_loadable {j : Jumps} (h : Host) (now : ℕ) (hr : r.mode = .simple)
    (hj : Jumps.build (.ofString r.source) = .ok j) :
    ∃ s, Session.load ⟨h.nextId⟩ r.source h.settings.stepped r.eof r.input
        (Settings.tickInterval r.interval) = .ok s ∧
      s.stepper = ⟨.ofString r.source, j, .start h.settings.stepped r.eof r.input, false⟩ ∧
      h.start r now = .done (some s.id)
        { h with session := some (s.begin now).state, nextId := h.nextId + 1 } := by
  have hload : ∀ shape interval, Session.load ⟨h.nextId⟩ r.source shape r.eof r.input interval =
      .ok { id := ⟨h.nextId⟩,
            stepper := ⟨.ofString r.source, j, .start shape r.eof r.input, false⟩,
            metronome := { interval } } := by
    intro shape interval
    simp only [Session.load, Stepper.load_of_build hj]
    rfl
  refine ⟨_, hload _ _, rfl, ?_⟩
  simp only [start, hr, openSession, hload]
  rfl

theorem settings_perform (h : Host) (op : Op) : (h.perform op).state.settings = h.settings := by
  cases hop : op.request? with
  | none =>
    cases hs : h.session with
    | none => rw [(perform_of_none hs hop).2]
    | some s =>
      rcases perform_of_some hs hop with ⟨-, hst⟩ | ⟨sop, -, hst⟩ <;> rw [hst]
  | some r =>
    cases op with
    | start r now =>
      show (h.start r now).state.settings = h.settings
      cases hmode : r.mode with
      | disabled => rw [(start_disabled h now hmode).1]
      | simple =>
        cases hj : Jumps.build (.ofString r.source) with
        | error f => rw [start_unloadable h now hmode hj]
        | ok j =>
          obtain ⟨s, -, -, hst⟩ := start_loadable h now hmode hj
          rw [hst]
          rfl
    | _ => cases hop

/-- Every segment is that of a start, with no other start in it, on a host of the same settings. -/
theorem exists_of_mem_segments {g : Segment} (hg : g ∈ h.segments ops) :
    ∃ h' r now rest, h'.settings = h.settings ∧ (∀ op ∈ rest, op.request? = none) ∧
      g = segment h' r now rest := by
  induction ops generalizing h with
  | nil => cases hg
  | cons op ops ih =>
    have hlater : g ∈ (h.perform op).state.segments ops →
        ∃ h' r now rest, h'.settings = h.settings ∧ (∀ op ∈ rest, op.request? = none) ∧
          g = segment h' r now rest := by
      intro hg
      obtain ⟨h', r, now, rest, hset, hrest⟩ := ih hg
      exact ⟨h', r, now, rest, hset.trans (settings_perform h op), hrest⟩
    cases op with
    | start r now =>
      rcases List.mem_cons.mp hg with rfl | hg
      · exact ⟨h, r, now, untilStart ops, rfl, fun _ => request?_of_mem_untilStart, rfl⟩
      · exact hlater hg
    | _ => exact hlater hg

/-! ## Segments -/

variable {rest : List Op}

/-- A start that leaves no session is all that its segment tells of. -/
theorem segment_of_none {es : List Event} (hnone : (h.start r now).state.session = none)
    (hev : (h.start r now).events = es) (hrest : ∀ op ∈ rest, op.request? = none) :
    (h.segment r now rest).session = none ∧ (h.segment r now rest).events = es := by
  obtain ⟨hlog, hafter⟩ := log_of_none (h := (h.perform (.start r now)).state) hnone hrest
  refine ⟨?_, ?_⟩
  · rw [segment, after, hafter]
    exact hnone
  · rw [segment, log, hlog, List.append_nil]
    exact hev

theorem segment_disabled (h : Host) (now : ℕ) (hr : r.mode = .disabled)
    (hrest : ∀ op ∈ rest, op.request? = none) :
    (h.segment r now rest).session = none ∧
    (h.segment r now rest).events = verdictEvents (verdict h.settings r) := by
  obtain ⟨hst, hev, -⟩ := start_disabled h now hr
  exact segment_of_none (by rw [hst]) hev hrest

theorem segment_unloadable {f : Fault} (hr : r.mode = .simple)
    (hf : Jumps.build (.ofString r.source) = .error f)
    (hrest : ∀ op ∈ rest, op.request? = none) :
    (h.segment r now rest).session = none ∧ (h.segment r now rest).events = [.error f.message] := by
  have hst := start_unloadable h now hr hf
  exact segment_of_none (by rw [hst]) (by rw [hst]) hrest

/-- The segment of a program that loads is the log of a schedule that begins its session. -/
theorem segment_loadable {j : Jumps} (h : Host) (now : ℕ) (hr : r.mode = .simple)
    (hj : Jumps.build (.ofString r.source) = .ok j) (hrest : ∀ op ∈ rest, op.request? = none) :
    ∃ s sops, Session.load ⟨h.nextId⟩ r.source h.settings.stepped r.eof r.input
        (Settings.tickInterval r.interval) = .ok s ∧
      s.stepper = ⟨.ofString r.source, j, .start h.settings.stepped r.eof r.input, false⟩ ∧
      (h.segment r now rest).session = some (s.after sops) ∧
      (h.segment r now rest).events = s.log sops := by
  obtain ⟨s, hload, hstepper, hst⟩ := start_loadable h now hr hj
  have hs : (h.perform (.start r now)).state.session = some (s.perform (.begin now)).state :=
    congrArg (·.state.session) hst
  have hev : (h.perform (.start r now)).events = (s.perform (.begin now)).events :=
    (congrArg (·.events) hst).trans (Session.idle_begin s now).events.symm
  obtain ⟨sops, hlog, hafter⟩ := exists_schedule hs hrest
  refine ⟨s, .begin now :: sops, hload, hstepper, ?_, ?_⟩
  · rw [segment, after, hafter]
    rfl
  · rw [segment, log, hlog, hev]
    rfl

/-- **The log of a session that was started** tells what its machine did. -/
theorem chronicle_segment {j : Jumps} (hr : r.mode = .simple)
    (hj : Jumps.build (.ofString r.source) = .ok j) (hrest : ∀ op ∈ rest, op.request? = none) :
    ∃ s, (h.segment r now rest).session = some s ∧ s.stepper.program = .ofString r.source ∧
      s.stepper.jumps = j ∧
      Chronicle (.start h.settings.stepped r.eof r.input) (h.segment r now rest).events s := by
  obtain ⟨s, sops, hload, hstepper, hsession, hevents⟩ :=
    segment_loadable h now hr hj hrest
  obtain ⟨hsound, -⟩ := Session.sound_of_load hload
  have htold : Told (.start h.settings.stepped r.eof r.input) [] s := by
    refine ⟨?_, [], ?_, .none ?_⟩
    · rw [Session.Ran, Session.machine, hstepper]
      rfl
    · rw [Session.traceFrom, Session.machine, hstepper]
      rfl
    · obtain ⟨st, -, rfl⟩ := Session.load_ok hload
      rfl
  have hsame := hsound.sameRun_after sops
  refine ⟨s.after sops, hsession, by rw [hsame.program, hstepper], by rw [hsame.jumps, hstepper], ?_⟩
  rw [hevents]
  exact (htold.schedule hsound sops).chronicle (hsound.after sops) (Machine.sound_start _ _ _ _)
    rfl rfl

end Tapewalk.Host

namespace Tapewalk

open Host Session in
/-- **The log of a host falls into segments, one for each start.** A batch run that comes to an end is
told by one event, and so is a program that does not load. All else is told as the rounds of a
session, and then perhaps its end: the session is over exactly if the segment says so, and nothing
follows. The bytes, breakpoints and shown states of the segment are those of the session's machine. -/
theorem log_falls_into_segments (settings : Settings) (ops : List Host.Op) :
    Host.log { settings } ops = (segments { settings } ops).flatMap (·.events) ∧
    (segments { settings } ops).map (·.request) = ops.filterMap Op.request? ∧
    ∀ g ∈ segments { settings } ops,
      (g.request.mode = .disabled → g.session = none ∧
        (∀ m, verdict settings g.request = .finished m →
          g.events = [.finished m.cycles m.stdout #[]]) ∧
        (∀ f, verdict settings g.request = .failed f → g.events = [.error f.message])) ∧
      (g.request.mode = .simple → ∀ f, Jumps.build (.ofString g.request.source) = .error f →
        g.session = none ∧ g.events = [.error f.message]) ∧
      (g.request.mode = .simple → ∀ j, Jumps.build (.ofString g.request.source) = .ok j →
        ∃ s, g.session = some s ∧ s.stepper.program = .ofString g.request.source ∧
          s.stepper.jumps = j ∧
          Chronicle (.start settings.stepped g.request.eof g.request.input) g.events s) := by
  refine ⟨?_, request_segments _ _, fun g hg => ?_⟩
  · have hquiet : Host.log { settings } (untilStart ops) = [] :=
      (log_of_none rfl fun _ => request?_of_mem_untilStart).1
    rw [log_eq_segments, hquiet, List.nil_append]
  · obtain ⟨h, r, now, rest, hset, hrest, rfl⟩ := exists_of_mem_segments hg
    obtain rfl : h.settings = settings := hset
    refine ⟨fun hr => ?_, fun hr f hf => segment_unloadable hr hf hrest,
      fun hr j hj => chronicle_segment hr hj hrest⟩
    obtain ⟨hnone, hev⟩ := segment_disabled (r := r) h now hr hrest
    refine ⟨hnone, fun m hm => ?_, fun f hf => ?_⟩
    · exact hev.trans (congrArg verdictEvents hm)
    · exact hev.trans (congrArg verdictEvents hf)

open Host in
/-- A batch run, a program that does not load, and a session that is stepped by hand and by ticks to a
breakpoint and to a fault. -/
theorem log_falls_into_three_segments : ∃ settings ops g₁ g₂ g₃,
    settings = { batch := ⟨2, .growable⟩, stepped := ⟨1, .fixed⟩, cycleLimit := 9 } ∧
    ops = [.start { mode := .disabled, source := "+." } 0, .start { mode := .simple, source := "]" } 0,
      .tick 5, .start { mode := .simple, source := ".@<" } 0, .step ⟨2⟩, .tick 200, .step ⟨9⟩,
      .restart ⟨2⟩ 5 300, .tick 305, .step ⟨2⟩] ∧
    segments { settings } ops = [g₁, g₂, g₃] ∧
    g₁.events = [.finished 2 #[1] #[]] ∧
    g₂.events = [.error (Fault.unmatchedBracket 0).message] ∧
    ∃ s, g₃.session = some s ∧ s.status = .aborted ∧
      (g₃.events.map Event.kind).count .step = s.machine.cycles + 1 ∧
      g₃.events.filterMap Event.stdoutByte? = [0] := by
  refine ⟨_, _, _, _, _, rfl, rfl, rfl, ?_⟩
  obtain ⟨-, -, h⟩ := log_falls_into_segments
    { batch := ⟨2, .growable⟩, stepped := ⟨1, .fixed⟩, cycleLimit := 9 }
    [.start { mode := .disabled, source := "+." } 0, .start { mode := .simple, source := "]" } 0,
      .tick 5, .start { mode := .simple, source := ".@<" } 0, .step ⟨2⟩, .tick 200, .step ⟨9⟩,
      .restart ⟨2⟩ 5 300, .tick 305, .step ⟨2⟩]
  have h₁ := (h _ (.head _)).1 rfl
  have h₂ := (h _ (.tail _ (.head _))).2.1 rfl _ rfl
  obtain ⟨s, hs, -, -, hc⟩ := (h _ (.tail _ (.tail _ (.head _)))).2.2 rfl _ rfl
  refine ⟨h₁.2.1 _ rfl, h₂.2, s, hs, ?_⟩
  obtain rfl := Option.some.inj hs
  exact ⟨rfl, hc.steps, hc.stdout⟩

end Tapewalk
