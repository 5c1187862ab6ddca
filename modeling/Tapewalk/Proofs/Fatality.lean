import Tapewalk.Proofs.Reporting

/-!
# Which errors are fatal

An error event has one of three origins: a program that fails while it is stepped, a program that
does not load or run, and a line that is refused. The first two leave the worker without a session
that could go on, and then nothing but errors is told until a start is accepted. A refused line
leaves the worker as it was: if its session could go on, it does.
-/

namespace Tapewalk

theorem NoError.notMem {es : List Event} (h : NoError es) (message : String) :
    .error message ∉ es := by
  intro hmem
  exact h _ hmem rfl

/-- An error event that is told is the last one. -/
theorem Reported.eq_snoc {σ α : Type} {r : Reaction σ Refusal α} {message : String}
    (h : Reported r) (hmem : .error message ∈ r.events) :
    ∃ es, r.events = es ++ [.error message] ∧ NoError es := by
  cases hr : r.result with
  | ok a => exact absurd hmem ((h.ok a hr).notMem message)
  | error e =>
    obtain ⟨es, hes, hno⟩ := h.error e hr
    rw [hes, List.mem_append, List.mem_singleton] at hmem
    rcases hmem with hin | hlast
    · exact absurd hin (hno.notMem message)
    · exact ⟨es, by rw [hes, hlast], hno⟩

/-! ## Sessions -/

namespace Session

variable {s : Session} {r : Reaction Session Refusal Answer}

/-- What emits events is not refused. -/
theorem Turn.isRuntime_of_events (h : s.Turn r) (hne : r.events ≠ []) {e : Refusal}
    (he : r.result = .error e) : e.isRuntime = true := by
  by_contra hrun
  rw [h.eq_refused he (Bool.eq_false_iff.mpr hrun)] at hne
  exact hne rfl

theorem Turn.reported_of_events (h : s.Turn r) (hne : r.events ≠ []) : Reported r :=
  h.reported fun _ he => h.isRuntime_of_events hne he

/-- A session that tells an error is over. -/
theorem Turn.isTerminal_of_error {message : String} (h : s.Turn r)
    (hmem : .error message ∈ r.events) : r.state.status.isTerminal = true := by
  cases h with
  | refused _ | idle | paced => cases hmem
  | stepped _ _ hstep =>
    cases hstep with
    | failed f _ _ => rfl
    | ended _ => exact absurd hmem (by simp [Reaction.map, Stepper.ending])
    | executed eff m _ _ _ => exact absurd hmem ((noError_told _ eff).notMem message)
    | paused m _ _ => exact absurd hmem ((noError_told _ .breakpoint).notMem message)

/-- A session that is over tells nothing and stays as it is. -/
theorem Turn.silent_of_terminal (h : s.Turn r) (hover : s.status.isTerminal = true) :
    r.events = [] ∧ r.state = s := by
  cases h with
  | refused _ | idle => exact ⟨rfl, rfl⟩
  | paced hlive | stepped hlive =>
    rw [hover] at hlive
    cases hlive

/-- A step of a session that is not over tells where the program is, or that it has ended. -/
theorem Sound.step_tells (h : s.Sound) (hlive : s.status.isTerminal = false) :
    ∃ e ∈ s.step.events, e.kind ≠ .error := by
  have hstep := h.stepped hlive
  generalize s.step = r at hstep
  cases hstep with
  | ended _ => exact ⟨_, List.mem_cons_self, by simp [Stepper.ending, Event.kind]⟩
  | _ => exact ⟨_, List.mem_cons_self, by simp [Stepper.snapshot, Event.kind]⟩

end Session

/-! ## Workers without a session that could go on -/

namespace Worker

variable {w : Worker} {op : Op} {message : String}

/-- There is no session, or it is over. -/
def Over (w : Worker) : Prop := ∀ s, w.host.session = some s → s.status.isTerminal = true

/-- The operation is a start, and a program is started. -/
def accepts (w : Worker) : Op → Bool
  | .line text now =>
    match Command.decode text, (w.handleLine text now).result with
    | .ok (.start _), .ok () => true
    | _, _ => false
  | .tick _ => false

/-- The operation is a line that is refused, and no program has failed. -/
def rejects (w : Worker) : Op → Bool
  | .line text now =>
    match (w.handleLine text now).result with
    | .error e => !e.isRuntime
    | .ok () => false
  | .tick _ => false

/-- The events of a history before the next start that is accepted. -/
def logUntilStart (w : Worker) : List Op → List Event
  | [] => []
  | op :: ops =>
    if w.accepts op then [] else (w.perform op).1 ++ (w.perform op).2.logUntilStart ops

theorem logUntilStart_cons (hop : w.accepts op = false) (ops : List Op) :
    w.logUntilStart (op :: ops) = (w.perform op).1 ++ (w.perform op).2.logUntilStart ops := by
  rw [logUntilStart, hop, if_neg Bool.false_ne_true]

theorem accepts_line_iff {text : String} {now : ℕ} :
    w.accepts (.line text now) = true ↔
      ∃ r, Command.decode text = .ok (.start r) ∧ (w.handleLine text now).result = .ok () := by
  simp only [accepts]
  split
  · rename_i r hd hr
    simp [hd, hr]
  · rename_i hnot
    simp only [Bool.false_eq_true, false_iff, not_exists, not_and]
    exact hnot

theorem rejects_line_iff {text : String} {now : ℕ} :
    w.rejects (.line text now) = true ↔
      ∃ e, (w.handleLine text now).result = .error e ∧ e.isRuntime = false := by
  simp only [rejects]
  split <;> simp_all

theorem over_withSession {s : Session} :
    (w.withSession s).Over ↔ s.status.isTerminal = true := by
  constructor
  · intro h
    exact h s rfl
  · intro h t ht
    obtain rfl : s = t := Option.some.inj ht
    exact h

theorem exists_live_of_not_over (h : ¬ w.Over) :
    ∃ s, w.host.session = some s ∧ s.status.isTerminal = false := by
  simpa [Over] using h

theorem Refuses.isRuntime {text : String} {e : Refusal} (h : w.Refuses text e) :
    e.isRuntime = false := by
  cases h with
  | undecoded hd => exact (Command.decode_error hd).1
  | noSession _ | finished _ | inactive _ => rfl

/-- What an operation tells is passed on. -/
theorem mem_reporting {r : Reaction Worker Refusal Unit} {e : Event} (h : e ∈ r.events) :
    e ∈ (reporting r).events := by
  unfold reporting
  split
  · exact h
  · split
    · exact h
    · exact List.mem_append_left _ h

theorem Sound.state_of_rejects (h : w.Sound) (hop : w.rejects op = true) :
    (w.perform op).2 = w := by
  cases op with
  | tick now => cases hop
  | line text now =>
    obtain ⟨e, he, hfalse⟩ := rejects_line_iff.mp hop
    rcases (h.took text now).error_cases he with htrue | ⟨-, hstate⟩
    · rw [hfalse] at htrue
      cases htrue
    · exact hstate

/-- **A worker that is over stays so until a start is accepted**, and tells nothing but errors. -/
theorem Sound.perform_of_over (h : w.Sound) (hover : w.Over) (hop : w.accepts op = false) :
    (∀ e ∈ (w.perform op).1, e.kind = .error) ∧ (w.perform op).2.Over := by
  cases op with
  | tick now =>
    show (∀ e ∈ (w.tick now).1, _) ∧ (w.tick now).2.Over
    rcases h.tick_cases now with htick | ⟨s, r, hs, hturn, htick⟩
    · rw [htick]
      exact ⟨by simp, hover⟩
    · obtain ⟨hevents, hstate⟩ := hturn.silent_of_terminal (hover s hs)
      rw [htick, hevents, hstate, withSession_self hs]
      exact ⟨by simp, hover⟩
  | line text now =>
    show (∀ e ∈ (w.handleLine text now).events, _) ∧ (w.handleLine text now).state.Over
    have htook := h.took text now
    have hnot := mt accepts_line_iff.mpr (Bool.eq_false_iff.mp hop)
    generalize w.handleLine text now = a at htook hnot
    cases htook with
    | refused _ => exact ⟨by simp [Event.kind], hover⟩
    | @passed s r hs hturn _ =>
      obtain ⟨hevents, hstate⟩ := hturn.silent_of_terminal (hover s hs)
      refine ⟨by simp [Reaction.map, Reaction.within, hevents], ?_⟩
      exact over_withSession.mpr (hstate ▸ hover s hs)
    | started hd hstart =>
      cases hstart with
      | ran _ | opened _ _ => exact absurd ⟨_, hd, rfl⟩ hnot
      | failed => exact ⟨by simp [Event.kind], by rintro s ⟨⟩⟩

theorem Sound.logUntilStart_of_over (h : w.Sound) (hover : w.Over) (ops : List Op) :
    ∀ e ∈ w.logUntilStart ops, e.kind = .error := by
  induction ops generalizing w with
  | nil => simp [logUntilStart]
  | cons op ops ih =>
    intro e he
    cases hop : w.accepts op with
    | true => simp [logUntilStart, hop] at he
    | false =>
      obtain ⟨hevents, hnext⟩ := h.perform_of_over hover hop
      rw [logUntilStart_cons hop, List.mem_append] at he
      rcases he with hnow | hlater
      · exact hevents e hnow
      · exact ih (h.perform op) hnext e hlater

/-! ## Workers that tell an error -/

/-- What tells an error either refuses a line or leaves no session that could go on. -/
theorem Sound.over_of_error (h : w.Sound) (hmem : .error message ∈ (w.perform op).1)
    (hop : w.rejects op = false) : (w.perform op).2.Over := by
  cases op with
  | tick now =>
    change .error message ∈ (w.tick now).1 at hmem
    show (w.tick now).2.Over
    rcases h.tick_cases now with htick | ⟨s, r, hs, hturn, htick⟩
    · rw [htick] at hmem
      cases hmem
    · rw [htick] at hmem ⊢
      exact over_withSession.mpr (hturn.isTerminal_of_error hmem)
  | line text now =>
    change .error message ∈ (w.handleLine text now).events at hmem
    show (w.handleLine text now).state.Over
    have htook := h.took text now
    have hnot := mt rejects_line_iff.mpr (Bool.eq_false_iff.mp hop)
    generalize w.handleLine text now = a at htook hnot hmem
    cases htook with
    | refused hr => exact absurd ⟨_, rfl, hr.isRuntime⟩ hnot
    | passed hs hturn _ => exact over_withSession.mpr (hturn.isTerminal_of_error hmem)
    | started _ hstart =>
      cases hstart with
      | ran hes => exact absurd hmem (hes.notMem message)
      | failed => rintro s ⟨⟩
      | opened _ _ => cases hmem

theorem Sound.error_last (h : w.Sound) (hmem : .error message ∈ (w.perform op).1) :
    ∃ es, (w.perform op).1 = es ++ [.error message] ∧ NoError es := by
  cases op with
  | line text now => exact (h.took text now).reported.eq_snoc hmem
  | tick now =>
    change .error message ∈ (w.tick now).1 at hmem
    show ∃ es, (w.tick now).1 = _ ∧ _
    rcases h.tick_cases now with htick | ⟨s, r, hs, hturn, htick⟩
    · rw [htick] at hmem
      cases hmem
    · rw [htick] at hmem ⊢
      exact (hturn.reported_of_events (List.ne_nil_of_mem hmem)).eq_snoc hmem

/-- A worker with a session that can go on tells so when it is asked to step. -/
theorem Sound.tells_of_not_over (h : w.Sound) (hover : ¬ w.Over) {text : String}
    (hd : Command.decode text = .ok .step) :
    ∃ e ∈ w.logUntilStart [.line text 0], e.kind ≠ .error := by
  obtain ⟨s, hs, hlive⟩ := exists_live_of_not_over hover
  have hc : w.current = some s.id := by rw [h.current, hs]; rfl
  obtain ⟨e, he, hkind⟩ := (h.session s hs).step_tells hlive
  refine ⟨e, ?_, hkind⟩
  have hop : w.accepts (.line text 0) = false := by
    rw [Bool.eq_false_iff]
    intro hop
    obtain ⟨r, hr, -⟩ := accepts_line_iff.mp hop
    rw [hd] at hr
    cases hr
  have hevents : e ∈ (w.dispatch .step 0).events := by
    rw [dispatch_of_some hc hs rfl]
    exact he
  rw [logUntilStart_cons hop]
  apply List.mem_append_left
  show e ∈ (w.handleLine text 0).events
  rw [handleLine_of_decode hd]
  exact mem_reporting hevents

end Worker

open Worker in
/-- **An error is fatal unless it refuses a line.** Whatever has happened to a worker, an error
event is the last event of the line or tick that tells it. After it nothing but errors is told until
a start is accepted, unless the error refuses a line while there is a session that could go on; such
a line leaves the worker as it was. -/
theorem error_fatal_unless_refusal (settings : Settings) (before : List Worker.Op) (w : Worker)
    (hw : w = (ofSettings settings).after before) (op : Worker.Op) (message : String)
    (hmem : .error message ∈ (w.perform op).1) :
    (∃ es, (w.perform op).1 = es ++ [.error message] ∧ NoError es) ∧
    (w.rejects op = true → (w.perform op).2 = w) ∧
    ((∀ rest, ∀ e ∈ (w.perform op).2.logUntilStart rest, e.kind = .error) ↔
      w.rejects op = false ∨ w.Over) := by
  have hsound : w.Sound := hw ▸ (sound_ofSettings settings).after before
  refine ⟨hsound.error_last hmem, hsound.state_of_rejects, ?_, ?_⟩
  · intro hquiet
    cases hop : w.rejects op with
    | false => exact .inl rfl
    | true =>
      right
      by_contra hover
      obtain ⟨e, he, hkind⟩ := hsound.tells_of_not_over hover (Command.decode_encode .step)
      rw [hsound.state_of_rejects hop] at hquiet
      exact hkind (hquiet _ e he)
  · intro h rest
    have hover : (w.perform op).2.Over := by
      cases hop : w.rejects op with
      | false => exact hsound.over_of_error hmem hop
      | true =>
        rw [hsound.state_of_rejects hop]
        exact h.resolve_left (by simp [hop])
    exact (hsound.perform op).logUntilStart_of_over hover rest

open Worker in
/-- The program `+` is stopped twice: the second stop is refused, and yet more than errors can be
told after it. After the program `<` has failed at a tick, nothing else is told. -/
theorem error_fatal_unless_refusal_of_stops :
    ∃ w v, w = (ofSettings (.withLength {} 1)).after
        [.line (Command.start { mode := .simple, source := "+" }).encode 0,
          .line Command.stop.encode 1] ∧
      v = (ofSettings (.withLength {} 1)).after
        [.line (Command.start { mode := .simple, source := "<" }).encode 0] ∧
      (w.perform (.line Command.stop.encode 2)).2 = w ∧
      (¬ ∀ rest, ∀ e ∈ (w.perform (.line Command.stop.encode 2)).2.logUntilStart rest,
        e.kind = .error) ∧
      ∀ rest, ∀ e ∈ (v.perform (.tick 100)).2.logUntilStart rest, e.kind = .error := by
  refine ⟨_, _, rfl, rfl, ?_⟩
  generalize hw : (ofSettings (.withLength {} 1)).after _ = w
  generalize hv : (ofSettings (.withLength {} 1)).after _ = v
  have hstop := error_fatal_unless_refusal _ _ w hw.symm (.line Command.stop.encode 2)
    (Refusal.inactiveSession ⟨1⟩).message
  have htick := error_fatal_unless_refusal _ _ v hv.symm (.tick 100) (Fault.belowZero 1).message
  have hstopped : w.rejects (.line Command.stop.encode 2) = true ∧
      (∃ s, w.host.session = some s ∧ s.status.isTerminal = false) ∧
      .error (Refusal.inactiveSession ⟨1⟩).message ∈
        (w.perform (.line Command.stop.encode 2)).1 := by
    simp only [Worker.after, Worker.perform, handleLine_encode] at hw
    simp only [rejects, Worker.perform, handleLine_encode]
    subst hw
    exact ⟨rfl, ⟨_, rfl, rfl⟩, List.mem_cons_self⟩
  have hfailed : .error (Fault.belowZero 1).message ∈ (v.perform (.tick 100)).1 := by
    simp only [Worker.after, Worker.perform, handleLine_encode] at hv ⊢
    subst hv
    exact List.mem_cons_of_mem _ List.mem_cons_self
  obtain ⟨hrejects, ⟨s, hs, hlive⟩, hmem⟩ := hstopped
  obtain ⟨-, hstate, hiff⟩ := hstop hmem
  refine ⟨hstate hrejects, fun h => ?_, (htick hfailed).2.2.mpr (.inl rfl)⟩
  rcases hiff.mp h with hfalse | hover
  · rw [hrejects] at hfalse
    cases hfalse
  · rw [hover s hs] at hlive
    cases hlive

open Worker in
/-- A line that is no command is refused with an error, and the session steps at its next tick. -/
theorem refused_line_not_fatal :
    ¬ ∀ (settings : Settings) (before rest : List Worker.Op) (op : Worker.Op) (message : String),
      .error message ∈ (((ofSettings settings).after before).perform op).1 →
      ∀ e ∈ (((ofSettings settings).after before).perform op).2.logUntilStart rest,
        e.kind = .error := by
  intro h
  have hread : Json.read "oops" = none := by
    simp only [Json.read, String.reduceToList]
    rfl
  have hoops : ∀ (w : Worker) now, w.handleLine "oops" now =
      reporting (.refused (.malformed .notJson) w) := by
    intro w now
    rw [handleLine, Command.decode, hread]
  have hlog := h (.withLength {} 1)
    [.line (Command.start { mode := .simple, source := "+" }).encode 0] [.tick 100] (.line "oops" 1)
    (Refusal.malformed .notJson).message
  simp only [Worker.after, Worker.perform, handleLine_encode, hoops] at hlog
  cases hlog List.mem_cons_self _ List.mem_cons_self

end Tapewalk
