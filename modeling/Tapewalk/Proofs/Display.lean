import Tapewalk.Debugger
import Tapewalk.Proofs.Segments

/-!
# What the debugger shows

A view learns from events what was written and how the run ended, and takes counters and tape from
the machine after a step that succeeded. After one that failed it still has them from the event
before the instruction, which is right only because a fault changes nothing. `View.Shows` is the
agreement of a view with a session, `Debugger.Truthful` says that it holds of a debugger's own, and
every key and every tick keeps it.
-/

namespace Tapewalk

/-! ## Views and sessions -/

namespace View

open Stepper (snapshot eventsOf)
open Session (Turn Stepped)

variable {v : View} {s : Session} {m₀ : Machine}

/-- The view shows the session, which has come from `m₀`. -/
structure Shows (v : View) (m₀ : Machine) (s : Session) : Prop where
  pc : v.pc = s.machine.pc
  ptr : v.ptr = s.machine.ptr
  cycles : v.cycles = s.machine.cycles
  tape : v.tape = s.machine.tape.cells
  stdout : v.stdout = s.machine.stdout
  stderr : v.stderr = s.machine.stderr
  breaks : v.breaks =
    (m₀.executed s.stepper.program s.stepper.jumps .extended s.machine.cycles).count '@'
  finished : v.finished = true ↔ s.status = .finished
  error : v.error.isSome = true ↔ s.status = .aborted

theorem Shows.sync_eq (h : v.Shows m₀ s) : v.sync s.machine = v := by
  unfold sync
  rw [← h.pc, ← h.ptr, ← h.cycles, ← h.tape]

/-- What a view makes of the events of an instruction that succeeded. -/
theorem observeAll_round (v : View) (m : Machine) (e : Effect) :
    v.observeAll (snapshot m :: eventsOf e) =
      { v with
        pc := m.pc, ptr := m.ptr, cycles := m.cycles, tape := m.tape.cells
        stdout := v.stdout ++ e.toStdout.toArray
        stderr := v.stderr ++ e.toStderr.toArray
        breaks := v.breaks + if e = .breakpoint then 1 else 0 } := by
  cases e <;> simp [observeAll, snapshot, eventsOf, observe, Effect.toStdout, Effect.toStderr]

/-- What is shown of the end of a session that is not over is right for any other such session. -/
theorem Shows.of_live (h : v.Shows m₀ s) (hlive : s.status.isTerminal = false) {t : Session}
    (ht : t.status.isTerminal = false) :
    (v.finished = true ↔ t.status = .finished) ∧ (v.error.isSome = true ↔ t.status = .aborted) := by
  have hquiet := h.finished.not.mpr (Session.ne_finished_of_live hlive)
  have hclean := h.error.not.mpr (Session.ne_aborted_of_live hlive)
  exact ⟨iff_of_false hquiet (Session.ne_finished_of_live ht),
    iff_of_false hclean (Session.ne_aborted_of_live ht)⟩

/-- A session that is not over, and has executed another instruction. -/
theorem Shows.of_ok (h : v.Shows m₀ s) (hs : s.Sound) (hran : s.Ran m₀)
    (hlive : s.status.isTerminal = false) {e : Effect} {m : Machine}
    (hh : s.machine.halted s.stepper.program = false)
    (hm : s.machine.step s.stepper.program s.stepper.jumps .extended = (.ok e, m)) {t : Session}
    (ht : { s.stepper with machine := m } = t.stepper) (hstatus : t.status.isTerminal = false) :
    ((v.observeAll (snapshot s.machine :: eventsOf e)).sync t.machine).Shows m₀ t := by
  have hlt : s.machine.ptr < s.machine.tape.length := hs.steady.sound.ptr_lt
  have hshows := Machine.step_shows hlt hm
  have hbreak := Machine.step_breakpoint_iff hlt hm
  obtain ⟨c, hc⟩ := Machine.exists_char hh
  rw [hc, Option.some.injEq] at hbreak
  obtain ⟨hcycles, -⟩ := hran.of_ok hs hh hm
  have hexecuted := Machine.executed_snoc hran hc hh hm
  rw [← hcycles] at hexecuted
  obtain ⟨hfinished, herror⟩ := h.of_live hlive hstatus
  obtain ⟨id, stepper, status, metronome⟩ := t
  subst ht
  rw [observeAll_round]
  refine ⟨rfl, rfl, rfl, rfl, ?_, ?_, ?_, hfinished, herror⟩
  · show v.stdout ++ e.toStdout.toArray = m.stdout
    rw [h.stdout, ← Array.toList_inj, hshows.stdout]
    simp
  · show v.stderr ++ e.toStderr.toArray = m.stderr
    rw [h.stderr, ← Array.toList_inj, hshows.stderr]
    simp
  · show v.breaks + (if e = .breakpoint then 1 else 0) =
      (m₀.executed s.stepper.program s.stepper.jumps .extended m.cycles).count '@'
    rw [hexecuted, List.count_append, h.breaks]
    by_cases hat : c = '@'
    · simp [hbreak.mpr hat, hat]
    · have hne : ¬ e = .breakpoint := hbreak.not.mpr hat
      simp [hne, hat]

/-- **One operation.** The view that has learnt its events and is synchronised shows the session
again; and unless the operation was a step that succeeded, there is nothing to synchronise. -/
theorem Shows.of_turn (h : v.Shows m₀ s) (hs : s.Sound) (hran : s.Ran m₀)
    {r : Reaction Session Refusal Session.Answer} (hr : s.Turn r) :
    ((v.observeAll r.events).sync r.state.machine).Shows m₀ r.state ∧
    ((∀ p, r.result ≠ .ok (.progressed p)) → (v.observeAll r.events).Shows m₀ r.state) := by
  cases hr with
  | refused _ | idle =>
    show (v.sync s.machine).Shows m₀ s ∧ (_ → v.Shows m₀ s)
    rw [h.sync_eq]
    exact ⟨h, fun _ => h⟩
  | @paced metronome status hlive hstatus _ =>
    obtain ⟨finished, error⟩ := h.of_live hlive (t := { s with metronome, status }) hstatus
    have hpaced : v.Shows m₀ { s with metronome, status } := { h with finished, error }
    show (v.sync s.machine).Shows m₀ _ ∧ (_ → v.Shows m₀ _)
    rw [h.sync_eq]
    exact ⟨hpaced, fun _ => hpaced⟩
  | @stepped metronome r hlive _ hstep =>
    have hclean := h.error.not.mpr (Session.ne_aborted_of_live hlive)
    have hquiet := h.finished.not.mpr (Session.ne_finished_of_live hlive)
    cases hstep with
    | ended hh =>
      have hended : v.error.isSome = true ↔ Session.Status.finished = .aborted :=
        iff_of_false hclean nofun
      exact ⟨⟨rfl, rfl, rfl, rfl, rfl, rfl, h.breaks, iff_of_true rfl rfl, hended⟩,
        fun hno => absurd rfl (hno .finished)⟩
    | executed e m hh hm _ =>
      exact ⟨h.of_ok hs hran hlive hh hm rfl hlive, fun hno => absurd rfl (hno .executed)⟩
    | paused m hh hm =>
      exact ⟨h.of_ok hs hran hlive hh hm rfl rfl, fun hno => absurd rfl (hno .breakpoint)⟩
    | failed f hh hf =>
      -- the event before the instruction has told the state that the fault left
      have hfailed : (v.observeAll [snapshot s.machine, .error f.message]).Shows m₀
          ({ s with metronome }.settle .aborted) :=
        ⟨rfl, rfl, rfl, rfl, h.stdout, h.stderr, h.breaks, iff_of_false hquiet nofun,
          iff_of_true rfl rfl⟩
      exact ⟨hfailed, fun _ => hfailed⟩

end View

/-! ## Keys and ticks -/

namespace Debugger

/-- What reaches a debugger from outside. -/
inductive Input where
  | key (k : Key) (now : ℕ)
  | tick (now : ℕ)
  deriving DecidableEq, Repr

/-- Acts on a key or a tick. -/
def handle (d : Debugger) : Input → Except IntervalOverflow Debugger
  | .key k now => d.press k now
  | .tick now => .ok (d.tick now)

/-- Acts on keys and ticks in their order. -/
def run (d : Debugger) (inputs : List Input) : Except IntervalOverflow Debugger :=
  inputs.foldlM handle d

/-- The machine that each load of the request begins with. -/
def origin (request : Request) (settings : Settings) : Machine :=
  .start settings.stepped request.eof request.input

variable {d d' : Debugger} {v : View} {s : Session} {request : Request} {settings : Settings}

/-- The session runs the request, and the view shows it. -/
structure Tracks (request : Request) (settings : Settings) (v : View) (s : Session) : Prop where
  sound : s.Sound
  ran : s.Ran (origin request settings)
  program : s.stepper.program = .ofString request.source
  shows : v.Shows (origin request settings) s

/-- The debugger holds the session of its host, and shows it. -/
structure Truthful (request : Request) (settings : Settings) (d : Debugger) : Prop where
  sameSettings : d.host.settings = settings
  sameRequest : d.request = { request with interval := d.request.interval }
  session : d.session = d.host.session.map (·.id)
  tracks : ∀ s, d.host.session = some s → Tracks request settings d.view s

theorem Tracks.of_turn (h : Tracks request settings v s)
    {r : Reaction Session Refusal Session.Answer} (hr : s.Turn r) :
    Tracks request settings ((v.observeAll r.events).sync r.state.machine) r.state ∧
    ((∀ p, r.result ≠ .ok (.progressed p)) →
      Tracks request settings (v.observeAll r.events) r.state) := by
  have hsound := h.sound.of_turn hr
  have hran := h.ran.of_turn h.sound hr
  have hprogram := hr.sameRun.program.trans h.program
  obtain ⟨hsync, hplain⟩ := h.shows.of_turn h.sound h.ran hr
  exact ⟨⟨hsound, hran, hprogram, hsync⟩, fun hno => ⟨hsound, hran, hprogram, hplain hno⟩⟩

theorem Truthful.with_session (h : Truthful request settings d) (hs : d.host.session = some s)
    {r : Reaction Session Refusal Session.Answer} (hr : s.Turn r)
    (ht : Tracks request settings v r.state) : Truthful request settings
      { d with host := { d.host with session := some r.state }, view := v } := by
  refine ⟨h.sameSettings, h.sameRequest, ?_, ?_⟩
  · have hid := h.session
    rw [hs] at hid
    show d.session = some r.state.id
    rw [hr.sameRun.id]
    exact hid
  · rintro t ⟨⟩
    exact ht

theorem Truthful.current? (h : Truthful request settings d) : d.current? = d.host.session := by
  rw [Debugger.current?, h.session]
  cases hs : d.host.session with
  | none => rfl
  | some s => simp [Host.find?_of_session hs]

theorem Truthful.afterStep (h : Truthful request settings { d with view := d.view.sync s.machine })
    (hs : d.host.session = some s) (p : Progress) : Truthful request settings (d.afterStep p) := by
  have hcur : d.current? = some s := h.current?.trans hs
  cases p <;> simp only [Debugger.afterStep, hcur] <;>
    exact ⟨h.sameSettings, h.sameRequest, h.session, h.tracks⟩

/-- **An operation on the session**, with its events and perhaps a synchronisation. -/
theorem Truthful.drive (h : Truthful request settings d) (hs : d.host.session = some s)
    (op : Session.Op) {host : Host}
    (hhost : host = { d.host with session := some (s.perform op).state }) :
    (∀ p, Truthful request settings ((d.absorb host (s.perform op).events).afterStep p)) ∧
    ((∀ p, (s.perform op).result ≠ .ok (.progressed p)) →
      Truthful request settings (d.absorb host (s.perform op).events)) := by
  subst hhost
  have hturn := (h.tracks s hs).sound.turn op
  obtain ⟨hsync, hplain⟩ := (h.tracks s hs).of_turn hturn
  refine ⟨fun p => ?_, fun hno => h.with_session hs hturn (hplain hno)⟩
  exact Truthful.afterStep (h.with_session hs hturn hsync) rfl p

theorem Truthful.tick (h : Truthful request settings d) (now : ℕ) :
    Truthful request settings (d.tick now) := by
  cases hs : d.host.session with
  | none =>
    have htick : d.host.tick now = .done none d.host := by simp only [Host.tick, hs]
    rw [Debugger.tick, htick]
    exact h
  | some s =>
    have htick : d.host.tick now =
        (s.tick now).within fun s => { d.host with session := some s } := by
      simp only [Host.tick, hs]
    obtain ⟨hsync, hplain⟩ := h.drive hs (.tick now) rfl
    have hresult : (s.perform (.tick now)).result = (s.tick now).result.map .ofTick := rfl
    rw [Debugger.tick, htick]
    cases hr : (s.tick now).result with
    | ok o =>
      rw [hr] at hresult
      simp only [Reaction.within, hr]
      cases o with
      | some p => exact hsync p
      | none =>
        refine hplain fun p hp => ?_
        rw [hresult] at hp
        cases hp
    | error e =>
      rw [hr] at hresult
      simp only [Reaction.within, hr]
      have h' := hplain fun p hp => by
        rw [hresult] at hp
        cases hp
      exact ⟨h'.sameSettings, h'.sameRequest, h'.session, h'.tracks⟩

theorem Truthful.exists_session (h : Truthful request settings d) {id : SessionId}
    (hid : d.session = some id) : ∃ s, d.host.session = some s ∧ s.id = id :=
  Option.map_eq_some_iff.mp (h.session.symm.trans hid)

theorem Truthful.step (h : Truthful request settings d) : Truthful request settings d.step := by
  cases hid : d.session with
  | none =>
    simp only [Debugger.step, hid]
    exact h
  | some id =>
    obtain ⟨s, hs, rfl⟩ := h.exists_session hid
    have hstep : d.host.step s.id = s.step.within fun s => { d.host with session := some s } :=
      Host.onSession_current hs _
    obtain ⟨hsync, hplain⟩ := h.drive hs .step rfl
    have hresult : (s.perform .step).result = s.step.result.map .progressed := rfl
    simp only [Debugger.step, hid, hstep]
    cases hr : s.step.result with
    | ok p =>
      simp only [Reaction.within, hr]
      have h' := hsync p
      cases p with
      | executed => exact ⟨h'.sameSettings, h'.sameRequest, h'.session, h'.tracks⟩
      | breakpoint | finished => exact h'
    | error e =>
      rw [hr] at hresult
      have h' := hplain (by rw [hresult]; nofun)
      simp only [Reaction.within, hr]
      cases e <;> exact ⟨h'.sameSettings, h'.sameRequest, h'.session, h'.tracks⟩

/-- A change of pace leaves the view alone. -/
theorem Truthful.pace (h : Truthful request settings d) (hs : d.host.session = some s)
    {op : Session.Op} (hi : s.Idle (s.perform op)) : Truthful request settings
      { d with host := { d.host with session := some (s.perform op).state } } := by
  have hno : ∀ p, (s.perform op).result ≠ .ok (.progressed p) := by
    intro p hp
    have hcalls := hi.calls
    rw [Session.calls, hp] at hcalls
    cases hcalls
  have h' := (h.drive hs op rfl).2 hno
  rw [hi.events] at h'
  exact h'

theorem Truthful.announce {r : Reaction Host Refusal Unit}
    (h : Truthful request settings { d with host := r.state }) (message : String) :
    Truthful request settings (d.announce r message) := by
  unfold Debugger.announce
  split <;> exact ⟨h.sameSettings, h.sameRequest, h.session, h.tracks⟩

theorem Truthful.stop (h : Truthful request settings d) (hs : d.host.session = some s) :
    Truthful request settings { d with host := (d.host.stop s.id).state } := by
  rw [Host.stop, Host.onSession_current hs]
  exact h.pace hs (Session.idle_stop s)

theorem Truthful.restart (h : Truthful request settings d) (hs : d.host.session = some s)
    (interval : UInt64) (now : ℕ) :
    Truthful request settings { d with host := (d.host.restart s.id interval now).state } := by
  rw [Host.restart, Host.onSession_current hs]
  exact h.pace hs (Session.idle_restart s _ now)

/-! ## Loading -/

/-- A session that has executed nothing is shown by its empty tape. -/
theorem tracks_of_fresh {j : Jumps} (hs : s.Sound) (hlive : s.status.isTerminal = false)
    (hstepper : s.stepper = ⟨.ofString request.source, j, origin request settings, false⟩) :
    Tracks request settings { tape := Array.replicate s.machine.tape.length 0 } s := by
  have hnf := Session.ne_finished_of_live hlive
  have hna := Session.ne_aborted_of_live hlive
  obtain ⟨id, stepper, status, metronome⟩ := s
  subst hstepper
  refine ⟨hs, rfl, rfl, ⟨rfl, rfl, rfl, ?_, rfl, rfl, rfl, ?_, ?_⟩⟩
  · exact (Tape.cells_ofLength _).symm
  · exact iff_of_false nofun hnf
  · exact iff_of_false nofun hna

/-- The session that a load leaves, stopped or not. -/
theorem exists_fresh {id : SessionId} {source : String} {shape : Tape.Shape} {eof : UInt8}
    {input : Array UInt8} {interval : ℕ}
    (hload : Session.load id source shape eof input interval = .ok s) {h : Host} (run : Bool)
    (now : ℕ) (hs : h.session = some (s.begin now).state) :
    ∃ t, (if run then h else (h.stop s.id).state) = { h with session := some t } ∧ t.id = s.id ∧
      t.Sound ∧ t.status.isTerminal = false ∧ t.stepper = s.stepper := by
  obtain ⟨hsound, -⟩ := Session.sound_of_load hload
  have hturn := hsound.turn (.begin now)
  have hbegun := hsound.of_turn hturn
  have hid : (s.begin now).state.id = s.id := hturn.sameRun.id
  have hstatus : (s.begin now).state.status = .stepping := by
    obtain ⟨st, -, rfl⟩ := Session.load_ok hload
    rfl
  have hstepper : (s.begin now).state.stepper = s.stepper := (Session.idle_begin s now).stepper
  cases run with
  | true =>
    refine ⟨_, ?_, hid, hbegun, by rw [hstatus]; rfl, hstepper⟩
    cases h
    cases hs
    rfl
  | false =>
    have hstop := Host.onSession_current hs Session.stop
    rw [hid] at hstop
    have hidle := Session.idle_stop (s.begin now).state
    have hturn' := hbegun.turn .stop
    refine ⟨(s.begin now).state.stop.state, ?_, hturn'.sameRun.id.trans hid,
      hbegun.of_turn hturn', ?_, hidle.stepper.trans hstepper⟩
    · rw [Host.stop, hstop]
      rfl
    · exact hidle.terminal.trans (by rw [hstatus]; rfl)

/-- What a load leaves of a program that can be loaded. -/
theorem reload_loadable {j : Jumps} (hmode : d.request.mode = .simple)
    (hj : Jumps.build (.ofString d.request.source) = .ok j) (run : Bool) (now : ℕ) :
    ∃ t, t.Sound ∧ t.status.isTerminal = false ∧
      t.stepper = ⟨.ofString d.request.source, j, origin d.request d.host.settings, false⟩ ∧
      (d.reload run now).host = { d.host with session := some t, nextId := d.host.nextId + 1 } ∧
      (d.reload run now).session = some t.id ∧ (d.reload run now).request = d.request ∧
      (d.reload run now).view = { tape := Array.replicate t.machine.tape.length 0 } := by
  obtain ⟨s, hload, hstepper, hst⟩ := Host.start_loadable d.host now hmode hj
  generalize hh : ({ d.host with session := some (s.begin now).state, nextId := d.host.nextId + 1 } :
    Host) = h at hst
  obtain ⟨t, hhost, hid, hsound, hlive, hsame⟩ :=
    exists_fresh hload run now (h := h) (by rw [← hh])
  have hfind : Host.find? { h with session := some t } s.id = some t := by
    rw [Host.find?_of_session rfl, if_pos hid]
  have hh' : { h with session := some t } =
      ({ d.host with session := some t, nextId := d.host.nextId + 1 } : Host) := by rw [← hh]
  refine ⟨t, hsound, hlive, hsame.trans hstepper, ?_⟩
  rw [hid, ← hh']
  simp only [reload, hst, Reaction.done, absorb]
  cases run with
  | true =>
    have hhost : h = { h with session := some t } := hhost
    refine ⟨hhost, rfl, rfl, ?_⟩
    simp only [current?, if_true, Option.bind_some]
    rw [hhost, hfind]
    rfl
  | false =>
    have hhost : (h.stop s.id).state = { h with session := some t } := hhost
    refine ⟨hhost, rfl, rfl, ?_⟩
    simp only [current?, Bool.false_eq_true, if_false, Option.bind_some]
    rw [hhost, hfind]
    rfl

theorem truthful_of_none (hset : d.host.settings = settings)
    (hreq : d.request = { request with interval := d.request.interval }) (hid : d.session = none)
    (hnone : d.host.session = none) : Truthful request settings d := by
  refine ⟨hset, hreq, by rw [hid, hnone]; rfl, ?_⟩
  intro s hs
  rw [hnone] at hs
  cases hs

/-- **A load shows the machine before its first instruction**, or there is no session. -/
theorem truthful_reload (hset : d.host.settings = settings)
    (hreq : d.request = { request with interval := d.request.interval }) (run : Bool) (now : ℕ) :
    Truthful request settings (d.reload run now) := by
  cases hmode : d.request.mode with
  | disabled =>
    obtain ⟨hst, -, hno⟩ := Host.start_disabled d.host now hmode
    unfold reload
    cases hr : (d.host.start d.request now).result with
    | ok o =>
      cases o with
      | some id => exact absurd hr (hno id)
      | none =>
        simp only [absorb, hst, hr]
        exact truthful_of_none hset hreq rfl rfl
    | error e =>
      simp only [absorb, hst, hr]
      exact truthful_of_none hset hreq rfl rfl
  | simple =>
    cases hj : Jumps.build (.ofString d.request.source) with
    | error f =>
      have hst := Host.start_unloadable d.host now hmode hj
      simp only [reload, hst, absorb]
      exact truthful_of_none hset hreq rfl rfl
    | ok j =>
      obtain ⟨t, hsound, hlive, hstepper, hhost, hid, hreq', hview⟩ :=
        reload_loadable hmode hj run now
      have horigin : origin d.request d.host.settings = origin request settings := by
        rw [hset, hreq]
        rfl
      have hsource : d.request.source = request.source := by rw [hreq]
      rw [hsource, horigin] at hstepper
      refine ⟨by rw [hhost]; exact hset, by rw [hreq']; exact hreq, by rw [hid, hhost]; rfl, ?_⟩
      rw [hhost, hview]
      rintro _ ⟨⟩
      exact tracks_of_fresh hsound hlive hstepper

theorem Truthful.toggle (h : Truthful request settings d) (now : ℕ) :
    Truthful request settings (d.toggle now) := by
  cases hid : d.session with
  | none =>
    simp only [Debugger.toggle, hid]
    exact h
  | some id =>
    obtain ⟨s, hs, rfl⟩ := h.exists_session hid
    have hstatus : d.status = some s.status := by
      rw [status, h.current?, hs]
      rfl
    simp only [Debugger.toggle, hid, hstatus]
    cases s.status with
    | stepping => exact (h.stop hs).announce _
    | finished | aborted => exact truthful_reload h.sameSettings h.sameRequest true now
    | initialized | paused => exact (h.restart hs _ now).announce _

theorem Truthful.setInterval (h : Truthful request settings d) (millis : UInt64) (now : ℕ) :
    Truthful request settings (d.setInterval millis now) := by
  generalize hi : min maxInterval (max minInterval millis) = interval
  have hset : Truthful request settings { d with request := { d.request with interval } } := by
    refine ⟨h.sameSettings, ?_, h.session, h.tracks⟩
    show { d.request with interval } = { request with interval }
    rw [h.sameRequest]
  simp only [Debugger.setInterval, hi]
  split
  next id hid _ =>
    obtain ⟨s, hs, rfl⟩ := hset.exists_session hid
    have h' := hset.restart hs interval now
    exact ⟨h'.sameSettings, h'.sameRequest, h'.session, h'.tracks⟩
  next => exact ⟨hset.sameSettings, hset.sameRequest, hset.session, hset.tracks⟩

theorem Truthful.press (h : Truthful request settings d) {k : Key} {now : ℕ}
    (hp : d.press k now = .ok d') : Truthful request settings d' := by
  unfold Debugger.press at hp
  split at hp
  case h_8 =>
    split at hp
    · cases hp
      exact h.setInterval _ now
    · cases hp
  all_goals cases hp
  case h_3 | h_4 => exact h.step
  case h_5 => exact h.toggle now
  case h_6 => exact truthful_reload h.sameSettings h.sameRequest false now
  case h_7 => exact h.setInterval _ now
  case h_12 => exact h
  -- the other keys quit, or move the focus and the offsets
  all_goals exact ⟨h.sameSettings, h.sameRequest, h.session, h.tracks⟩

/-- **A run of keys and ticks.** -/
theorem Truthful.run (h : Truthful request settings d) {inputs : List Input}
    (hrun : d.run inputs = .ok d') : Truthful request settings d' := by
  induction inputs generalizing d with
  | nil =>
    cases hrun
    exact h
  | cons i is ih =>
    rw [Debugger.run, List.foldlM_cons] at hrun
    cases i with
    | tick now => exact ih (h.tick now) hrun
    | key k now =>
      cases hp : d.press k now with
      | ok d₁ =>
        rw [handle, hp] at hrun
        exact ih (h.press hp) hrun
      | error e =>
        rw [handle, hp] at hrun
        cases hrun

end Debugger

open Debugger in
/-- **What the debugger shows is what its session is.** The program is loaded at any time, and keys
and ticks come in any order at any times, as long as no key doubles the interval beyond its type.
Whenever there is a session then, it is the host's current one; it is executing the request from
the machine that it was loaded with; and counters, tape, outputs, breakpoints and end are shown as
they are. -/
theorem view_shows_session (request : Request) (settings : Settings) (loaded : ℕ)
    (inputs : List Input) (d : Debugger)
    (hrun : (ofRequest request settings loaded).run inputs = .ok d)
    (id : SessionId) (hid : d.session = some id) :
    ∃ s, d.host.session = some s ∧ s.id = id ∧ s.stepper.program = .ofString request.source ∧
      s.Ran (origin request settings) ∧ d.view.Shows (origin request settings) s := by
  have hloaded : Truthful request settings (ofRequest request settings loaded) :=
    truthful_reload (d := { host := { settings }, request }) rfl rfl false loaded
  have h := hloaded.run hrun
  obtain ⟨s, hs, hsid⟩ := h.exists_session hid
  have ht := h.tracks s hs
  exact ⟨s, hs, hsid, ht.program, ht.ran, ht.shows⟩

open Debugger in
/-- A breakpoint under ticks, a longer interval, and a fault under a step by hand. -/
theorem view_shows_aborted_session : ∃ request settings inputs d s,
    request = { mode := .simple, source := "+.@:<" } ∧ settings = { stepped := ⟨2, .fixed⟩ } ∧
    inputs = [.key (.char 's') 5, .key (.char ' ') 10, .tick 110, .tick 210, .key (.char '-') 220,
      .key (.char ' ') 230, .tick 430, .key .right 440] ∧
    (ofRequest request settings 0).run inputs = .ok d ∧ d.session = some ⟨1⟩ ∧
    d.host.session = some s ∧ s.status = .aborted ∧ d.view.Shows (origin request settings) s ∧
    d.view.breaks = 1 ∧ d.view.stdout = #[1] ∧ d.view.stderr = #[1] := by
  obtain ⟨s, hs, -, -, -, hshows⟩ := view_shows_session { mode := .simple, source := "+.@:<" }
    { stepped := ⟨2, .fixed⟩ } 0 [.key (.char 's') 5, .key (.char ' ') 10, .tick 110, .tick 210,
      .key (.char '-') 220, .key (.char ' ') 230, .tick 430, .key .right 440] _ rfl ⟨1⟩ rfl
  refine ⟨_, _, _, _, s, rfl, rfl, rfl, rfl, rfl, hs, ?_, hshows, rfl, rfl, rfl⟩
  exact hshows.error.mp rfl

end Tapewalk
