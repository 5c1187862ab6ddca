import Tapewalk.Proofs.Handles

/-!
# Deadlines

Who owns a host sleeps until its next deadline. That this is right needs three things: a metronome
is armed exactly while its session is stepping (`Session.Sound`), its interval is never zero
(`Host.Paced`), and a tick arms it anew before it steps, so that a step which ends the ticking has the
last word.
-/

namespace Tapewalk

theorem Settings.one_le_tickInterval (millis : UInt64) : 1 ≤ tickInterval millis :=
  Nat.le_max_left 1 millis.toNat

theorem Metronome.interval_setInterval (m : Metronome) (interval now : ℕ) :
    (m.setInterval interval now).interval = interval := by
  simp only [setInterval]
  split_ifs <;> rfl

/-! ## Ticks of a session -/

namespace Session

variable {s : Session} {t due : ℕ}

theorem interval_whileLive {α : Type} {i : ℕ} {op : Session → Reaction Session Refusal α}
    (hs : s.metronome.interval = i) (hop : (op s).state.metronome.interval = i) :
    (s.whileLive op).state.metronome.interval = i := by
  unfold whileLive
  split_ifs
  · exact hs
  · exact hop

theorem interval_step (s : Session) : s.step.state.metronome.interval = s.metronome.interval := by
  refine interval_whileLive rfl ?_
  dsimp only
  cases s.stepper.step.result with
  | error f => rfl
  | ok p => cases p <;> rfl

/-- Only a restart changes the interval. -/
theorem interval_perform (s : Session) (op : Op) :
    (s.perform op).state.metronome.interval = s.metronome.interval ∨
    ∃ now, op = .restart (s.perform op).state.metronome.interval now := by
  cases op with
  | begin now => exact .inl (interval_whileLive rfl rfl)
  | stop =>
    left
    refine interval_whileLive rfl ?_
    split_ifs <;> rfl
  | step => exact .inl (interval_step s)
  | tick now =>
    left
    show (s.tick now).state.metronome.interval = _
    unfold tick
    split_ifs with hs
    · cases hf : s.metronome.fire now with
      | mk fired metronome =>
        cases fired with
        | false => rfl
        | true =>
          obtain ⟨-, rfl⟩ := Metronome.fire_eq_true hf
          exact interval_step { s with metronome := s.metronome.arm now }
    · rfl
  | restart interval now =>
    cases hlive : s.status.isTerminal with
    | true =>
      left
      rw [perform, (perform_of_terminal hlive).2.2.1]
      rfl
    | false =>
      right
      refine ⟨now, ?_⟩
      rw [perform, restart, whileLive_of_live hlive]
      split_ifs with hs
      · exact congrArg (Op.restart · now) (Metronome.interval_setInterval _ _ _).symm
      · rw [begin, whileLive_of_live (s := { s with metronome := { interval } }) hlive]
        rfl

/-- Before the next tick is due, a tick does nothing. -/
theorem tick_of_early (h : ∀ due, s.metronome.next = some due → t < due) :
    s.tick t = .done none s := by
  have hfire : s.metronome.fire t = (false, s.metronome) := by
    unfold Metronome.fire
    cases hnext : s.metronome.next with
    | none => rfl
    | some due => exact if_neg (Nat.not_le.mpr (h due hnext))
  rw [tick, hfire]
  split_ifs <;> rfl

/-- A tick that is due is a step of the session with its metronome armed anew. -/
theorem tick_of_due (hs : s.status = .stepping) (hnext : s.metronome.next = some due)
    (hle : due ≤ t) :
    s.tick t = { s with metronome := s.metronome.arm t }.step.map some := by
  have hfire : s.metronome.fire t = (true, s.metronome.arm t) := by
    unfold Metronome.fire
    rw [hnext]
    exact if_pos hle
  rw [tick, if_pos hs, hfire]

/-- When the next tick of a session is due, if it is ticking. -/
def deadline (s : Session) : Option ℕ := if s.status = .stepping then s.metronome.next else none

/-- **A step of a session** is one step of its stepper. The ticking goes on as it was if an
instruction was executed, and stops otherwise. -/
theorem step_of_live (hlive : s.status.isTerminal = false) :
    s.step.events = report s.stepper.step ∧
    s.step.result = s.stepper.step.result.mapError .fault ∧
    s.step.state.id = s.id ∧ s.step.state.stepper = s.stepper.step.state ∧
    (s.stepper.step.result = .ok .executed → s.step.state.deadline = s.deadline) ∧
    (s.stepper.step.result ≠ .ok .executed → s.step.state.deadline = none) := by
  have hstep : s.step = _ := whileLive_of_live hlive
  dsimp only at hstep
  cases hr : s.stepper.step.result with
  | error f =>
    rw [hr] at hstep
    rw [hstep, report, hr]
    exact ⟨rfl, rfl, rfl, rfl, by simp, fun _ => rfl⟩
  | ok p =>
    rw [hr] at hstep
    cases p with
    | executed =>
      rw [hstep, report, hr]
      exact ⟨rfl, rfl, rfl, rfl, fun _ => rfl, by simp⟩
    | breakpoint | finished =>
      rw [hstep, report, hr]
      exact ⟨rfl, rfl, rfl, rfl, by simp, fun _ => rfl⟩

end Session

/-! ## Deadlines of a host -/

namespace Host

variable {h : Host} {s : Session} {op : Op} {ops : List Op} {settings : Settings} {t due : ℕ}

theorem nextDeadline_eq (h : Host) : h.nextDeadline = h.session.bind (·.deadline) := by
  unfold nextDeadline
  cases h.session with
  | none => rfl
  | some s =>
    by_cases hs : s.status = .stepping <;> simp [Option.filter, Session.deadline, hs]

/-- The host has a deadline exactly if its session is stepping. -/
theorem isSome_nextDeadline_iff (hsound : ∀ s, h.session = some s → s.Sound) :
    h.nextDeadline.isSome = true ↔ ∃ s, h.session = some s ∧ s.status = .stepping := by
  rw [nextDeadline_eq]
  cases hs : h.session with
  | none => simp
  | some s =>
    have harmed := (hsound s hs).armed
    by_cases hstatus : s.status = .stepping
    · simpa [Session.deadline, hstatus, Metronome.isArmed] using harmed.mpr hstatus
    · simp [Session.deadline, hstatus]

/-- The session of the host ticks at most once a millisecond. -/
def Paced (h : Host) : Prop := ∀ s, h.session = some s → 1 ≤ s.metronome.interval

theorem paced_of_none (hs : h.session = none) : h.Paced := by
  intro s hsome
  rw [hs] at hsome
  cases hsome

theorem paced_of_some (hs : h.session = some s) (hi : 1 ≤ s.metronome.interval) : h.Paced := by
  intro s' hs'
  rw [hs] at hs'
  obtain rfl := Option.some.inj hs'
  exact hi

/-- A start takes the interval of its request, which is made positive. -/
theorem paced_start (h : Host) (r : Request) (now : ℕ) : (h.start r now).state.Paced := by
  have hs := started h r now
  generalize h.start r now = a at hs
  cases hs with
  | ran _ hst _ => exact paced_of_none (by rw [hst])
  | failed _ _ => exact paced_of_none rfl
  | @opened s _ hload =>
    obtain ⟨st, -, rfl⟩ := Session.load_ok hload
    exact paced_of_some rfl (Settings.one_le_tickInterval r.interval)

/-- A restart that is asked of a session has a positive interval. -/
theorem Op.one_le_of_asks {interval now : ℕ} (hop : op.asks = some (.restart interval now)) :
    1 ≤ interval := by
  cases op with
  | restart id millis now' =>
    obtain ⟨rfl, rfl⟩ := Session.Op.restart.inj (Option.some.inj hop)
    exact Settings.one_le_tickInterval millis
  | start r now' => cases hop
  | stop id | step id | tick now' => cases Option.some.inj hop

theorem Paced.perform (hp : h.Paced) (op : Op) : (h.perform op).state.Paced := by
  cases hop : op.request? with
  | some r =>
    cases op with
    | start r now => exact paced_start h r now
    | _ => cases hop
  | none =>
    obtain ⟨sop, hsop⟩ := Op.exists_asks hop
    cases hs : h.session with
    | none =>
      rw [(perform_of_none hs hop).2]
      exact hp
    | some s =>
      rcases perform_of_asks hs hsop with ⟨-, hst⟩ | ⟨-, hst⟩
      · rw [hst]
        exact hp
      · rw [hst]
        refine paced_of_some rfl ?_
        rcases Session.interval_perform s sop with hsame | ⟨now, hrestart⟩
        · rw [hsame]
          exact hp s hs
        · exact Op.one_le_of_asks (hsop.trans (congrArg some hrestart))

theorem Paced.after (hp : h.Paced) (ops : List Op) : (h.after ops).Paced := by
  induction ops generalizing h with
  | nil => exact hp
  | cons op ops ih => exact ih (hp.perform op)

theorem tick_of_none (hs : h.session = none) (t : ℕ) : h.tick t = .done none h := by
  rw [tick, hs]

theorem tick_of_some (hs : h.session = some s) (t : ℕ) :
    h.tick t = (s.tick t).within fun s => { h with session := some s } := by
  rw [tick, hs]

/-- Before the deadline, a tick does nothing. -/
theorem tick_of_early (hearly : ∀ due, h.nextDeadline = some due → t < due) :
    h.tick t = .done none h := by
  rw [nextDeadline_eq] at hearly
  cases hs : h.session with
  | none => exact tick_of_none hs t
  | some s =>
    have hidle : s.tick t = .done none s := by
      by_cases hstatus : s.status = .stepping
      · apply Session.tick_of_early
        intro due hdue
        exact hearly due (by simp [hs, Session.deadline, hstatus, hdue])
      · exact if_neg hstatus
    rw [tick_of_some hs, hidle]
    cases h
    cases hs
    rfl

/-- What a tick does that is due: one step of the session. The next tick is due one interval later
if an instruction was executed, and never otherwise. -/
structure Ticked (h : Host) (t : ℕ) (s : Session) : Prop where
  events : (h.tick t).events = Session.report s.stepper.step
  result : (h.tick t).result = (s.stepper.step.result.mapError .fault).map some
  session : ∃ s', (h.tick t).state = { h with session := some s' } ∧ s'.id = s.id ∧
    s'.stepper = s.stepper.step.state
  executed : s.stepper.step.result = .ok .executed →
    (h.tick t).state.nextDeadline = some (t + s.metronome.interval)
  otherwise : s.stepper.step.result ≠ .ok .executed → (h.tick t).state.nextDeadline = none

theorem tick_of_due (hdue : h.nextDeadline = some due) (hle : due ≤ t) :
    ∃ s, h.session = some s ∧ s.status = .stepping ∧ h.Ticked t s := by
  rw [nextDeadline_eq] at hdue
  obtain ⟨s, hs, hdue⟩ := Option.bind_eq_some_iff.mp hdue
  have hstatus : s.status = .stepping := by
    by_contra hstatus
    rw [Session.deadline, if_neg hstatus] at hdue
    cases hdue
  rw [Session.deadline, if_pos hstatus] at hdue
  have htick : h.tick t = ({ s with metronome := s.metronome.arm t }.step.map some).within
      fun s => { h with session := some s } := by
    rw [tick_of_some hs, Session.tick_of_due hstatus hdue hle]
  obtain ⟨hevents, hresult, hid, hstepper, hexecuted, hotherwise⟩ := Session.step_of_live
    (s := { s with metronome := s.metronome.arm t }) (by rw [hstatus]; rfl)
  refine ⟨s, hs, hstatus, ?_, ?_, ?_, ?_, ?_⟩
  · rw [htick]
    exact hevents
  · rw [htick]
    exact congrArg (Except.map some) hresult
  · rw [htick]
    exact ⟨_, rfl, hid, hstepper⟩
  · intro hr
    rw [htick, nextDeadline_eq]
    refine (hexecuted hr).trans ?_
    exact if_pos hstatus
  · intro hr
    rw [htick, nextDeadline_eq]
    exact hotherwise hr

end Host

open Host in
/-- **The deadline of a host is exact.** Whatever has been done to a host, a tick before its deadline,
or without one, does nothing. A tick at the deadline or later is exactly one step of the stepper of
the current session; afterwards the deadline is one interval later if an instruction was executed,
and there is none if the session has come to a breakpoint, to its end or to a fault. So the deadline
is always ahead of the last tick, and there is one exactly while a session is stepping. -/
theorem deadline_exact (settings : Settings) (ops : List Host.Op) (h : Host)
    (hh : h = Host.after { settings } ops) (t : ℕ) :
    ((∀ due, h.nextDeadline = some due → t < due) → h.tick t = .done none h) ∧
    (∀ due, h.nextDeadline = some due → due ≤ t →
      ∃ s, h.session = some s ∧ s.status = .stepping ∧ 1 ≤ s.metronome.interval ∧ h.Ticked t s) ∧
    (∀ due, (h.tick t).state.nextDeadline = some due → t < due) ∧
    (h.nextDeadline.isSome = true ↔ ∃ s, h.session = some s ∧ s.status = .stepping) := by
  have hpaced : h.Paced := hh ▸ (paced_of_none (h := { settings }) rfl).after ops
  have hsound : ∀ s, h.session = some s → s.Sound := by
    intro s hs
    rw [hh] at hs
    exact sound_of_session hs
  refine ⟨tick_of_early, ?_, ?_, isSome_nextDeadline_iff hsound⟩
  · intro due hdue hle
    obtain ⟨s, hs, hstatus, ht⟩ := tick_of_due hdue hle
    exact ⟨s, hs, hstatus, hpaced s hs, ht⟩
  · intro due hafter
    by_cases hearly : ∀ due, h.nextDeadline = some due → t < due
    · rw [tick_of_early hearly] at hafter
      exact hearly due hafter
    · simp only [not_forall, Nat.not_lt] at hearly
      obtain ⟨due', hdue', hle⟩ := hearly
      obtain ⟨s, hs, -, ht⟩ := tick_of_due hdue' hle
      by_cases hr : s.stepper.step.result = .ok .executed
      · rw [ht.executed hr] at hafter
        obtain rfl := Option.some.inj hafter
        have := hpaced s hs
        omega
      · rw [ht.otherwise hr] at hafter
        cases hafter

/-- A restart with no interval at all ticks every millisecond; the second tick comes to a
breakpoint. -/
theorem deadline_exact_until_breakpoint : ∃ settings h,
    settings = { stepped := ⟨1, .fixed⟩ } ∧
    h = Host.after { settings }
      [.start { mode := .simple, source := "+@", interval := 50 } 0, .restart ⟨1⟩ 0 10] ∧
    h.nextDeadline = some 11 ∧ h.tick 10 = .done none h ∧
    (h.tick 20).state.nextDeadline = some 21 ∧
    ((h.tick 20).state.tick 21).state.nextDeadline = none := by
  refine ⟨_, _, rfl, rfl, rfl, ?_, ?_, ?_⟩
  · refine (deadline_exact { stepped := ⟨1, .fixed⟩ } _ _ rfl 10).1 ?_
    rintro due ⟨⟩
    decide
  · obtain ⟨s, hs, -, -, ht⟩ := (deadline_exact { stepped := ⟨1, .fixed⟩ }
      [.start { mode := .simple, source := "+@", interval := 50 } 0, .restart ⟨1⟩ 0 10]
      _ rfl 20).2.1 11 rfl (by decide)
    obtain rfl := Option.some.inj hs
    exact ht.executed rfl
  · obtain ⟨s, hs, -, -, ht⟩ := (deadline_exact { stepped := ⟨1, .fixed⟩ }
      [.start { mode := .simple, source := "+@", interval := 50 } 0, .restart ⟨1⟩ 0 10, .tick 20]
      _ rfl 21).2.1 21 rfl (by decide)
    obtain rfl := Option.some.inj hs
    refine ht.otherwise ?_
    rintro ⟨⟩

end Tapewalk
