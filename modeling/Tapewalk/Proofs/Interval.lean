import Tapewalk.Proofs.Display
import Tapewalk.Proofs.Pacing

/-!
# The interval of the debugger

The interval is kept twice: in the request, from which it is shown and which keys change, and in the
metronome of the session. The two agree whenever the session is stepping (`Debugger.InStep`): a key
changes both while it is stepping, and whatever sets it off hands the interval over. The interval
has 64 bits, and a key doubles it before it is cut to its bounds. Every such key leaves it within
them (`Debugger.Paced`), so only the first one can go wrong (`Debugger.run_error_iff`).
-/

namespace Tapewalk

/-! ## Sessions at a given interval -/

namespace Session

variable {s : Session} {op : Op} {i : ℕ}

/-- The operation does not set a session off. -/
def Op.isTame : Op → Bool
  | .stop | .step | .tick _ => true
  | .begin _ | .restart _ _ => false

theorem not_stepping_perform (hs : s.status ≠ .stepping) (hop : op.isTame = true) :
    (s.perform op).state.status ≠ .stepping := by
  cases op with
  | begin _ => cases hop
  | restart _ _ => cases hop
  | step =>
    have hafter : (s.after [.step]).status ≠ .stepping := (tickTimes_of_not_stepping hs (by simp)).2
    exact hafter
  | tick now =>
    have hafter : (s.after [.tick now]).status ≠ .stepping :=
      (tickTimes_of_not_stepping hs (by simp)).2
    exact hafter
  | stop =>
    cases hlive : s.status.isTerminal with
    | true =>
      rw [perform, (perform_of_terminal hlive).2.1]
      exact hs
    | false =>
      rw [perform, stop, whileLive_of_live hlive, if_neg hs]
      exact hs

/-- While the session is stepping, it does so at the given interval. -/
def Follows (s : Session) (i : ℕ) : Prop := s.status = .stepping → s.metronome.interval = i

theorem Follows.perform (h : s.Follows i) (op : Op) (hop : op.isTame = true) :
    (s.perform op).state.Follows i := by
  intro hstepping
  by_cases hs : s.status = .stepping
  · rcases interval_perform s op with hsame | ⟨now, hrestart⟩
    · exact hsame.trans (h hs)
    · rw [hrestart] at hop
      cases hop
  · exact absurd hstepping (not_stepping_perform hs hop)

/-- A restart hands its interval over, whatever the interval was. -/
theorem Sound.follows_restart (h : s.Sound) (i now : ℕ) : (s.restart i now).state.Follows i := by
  cases hlive : s.status.isTerminal with
  | false =>
    rw [h.restart_of_live hlive]
    exact fun _ => rfl
  | true =>
    intro hstepping
    rw [(perform_of_terminal hlive).2.2.1] at hstepping
    have hstatus : s.status = .stepping := hstepping
    rw [hstatus] at hlive
    cases hlive

end Session

namespace Host

variable {h : Host} {s : Session} {i : ℕ}

/-- While the session of the host is stepping, it does so at the given interval. -/
def Follows (h : Host) (i : ℕ) : Prop := ∀ s, h.session = some s → s.Follows i

theorem follows_of_none (hs : h.session = none) : h.Follows i := by
  intro s hsome
  rw [hs] at hsome
  cases hsome

theorem Follows.onSession {α : Type} (hi : h.Follows i) (id : SessionId)
    {op : Session → Reaction Session Refusal α}
    (hop : ∀ s : Session, s.Follows i → (op s).state.Follows i) :
    (h.onSession id op).state.Follows i := by
  unfold Host.onSession
  cases hf : h.find? id with
  | none => exact hi
  | some s =>
    have hs : h.session = some s := (Option.filter_eq_some_iff.mp hf).1
    rintro t ⟨⟩
    exact hop s (hi s hs)

theorem Follows.stop (hi : h.Follows i) (id : SessionId) : (h.stop id).state.Follows i :=
  hi.onSession id fun _ hs => hs.perform .stop rfl

theorem Follows.step (hi : h.Follows i) (id : SessionId) : (h.step id).state.Follows i :=
  hi.onSession id fun _ hs => hs.perform .step rfl

theorem Follows.tick (hi : h.Follows i) (now : ℕ) : (h.tick now).state.Follows i := by
  cases hs : h.session with
  | none =>
    rw [tick_of_none hs]
    exact hi
  | some s =>
    rw [tick_of_some hs]
    rintro t ⟨⟩
    exact (hi s hs).perform (.tick now) rfl

/-- A start hands over the interval of its request. -/
theorem follows_start (h : Host) (r : Request) (now : ℕ) :
    (h.start r now).state.Follows (Settings.tickInterval r.interval) := by
  have hs := started h r now
  generalize h.start r now = a at hs
  cases hs with
  | ran _ hst _ => exact follows_of_none (by rw [hst])
  | failed _ _ => exact follows_of_none rfl
  | @opened s _ hload =>
    obtain ⟨st, -, rfl⟩ := Session.load_ok hload
    rintro t ⟨⟩
    exact fun _ => rfl

theorem follows_restart (hs : h.session = some s) (hsound : s.Sound) (interval : UInt64) (now : ℕ) :
    (h.restart s.id interval now).state.Follows (Settings.tickInterval interval) := by
  rw [restart, onSession_current hs]
  rintro t ⟨⟩
  exact hsound.follows_restart _ now

end Host

/-! ## What keys do -/

namespace Debugger

variable {d d' : Debugger} {s : Session} {request : Request} {settings : Settings} {k : Key}
  {now : ℕ} {inputs : List Input}

/-- The key changes the interval. -/
def Key.isPace : Key → Bool
  | .char '+' | .char '-' => true
  | _ => false

/-- What the key makes of the interval. -/
def Key.turn (k : Key) (n : ℕ) : ℕ :=
  match k with
  | .char '+' => min 5000 (max 1 (n / 2))
  | .char '-' => min 5000 (max 1 (2 * n))
  | _ => n

theorem Key.isPace_iff : k.isPace = true ↔ k = .char '+' ∨ k = .char '-' := by
  unfold isPace
  split
  · simp
  · simp
  · rename_i hplus hminus
    simp only [Bool.false_eq_true, false_iff, not_or]
    exact ⟨hplus, hminus⟩

theorem Key.turn_of_not_isPace (h : k.isPace = false) (n : ℕ) : k.turn n = n := by
  unfold turn
  split
  · cases h
  · cases h
  · rfl

/-- Whatever the interval was, a key that changes it brings it within its bounds. -/
theorem Key.turn_bounds (h : k.isPace = true) (n : ℕ) : 1 ≤ k.turn n ∧ k.turn n ≤ 5000 := by
  rcases isPace_iff.mp h with rfl | rfl <;> simp only [turn] <;> omega

/-- What a key can do. -/
inductive Pressed (d : Debugger) (now : ℕ) : Key → Debugger → Prop
  | halved : Pressed d now (.char '+') (d.setInterval (d.request.interval / 2) now)
  | doubled : d.request.interval.toNat * 2 < wordBound →
      Pressed d now (.char '-') (d.setInterval (d.request.interval * 2) now)
  | stepped {k : Key} : k.isPace = false → Pressed d now k d.step
  | toggled {k : Key} : k.isPace = false → Pressed d now k (d.toggle now)
  | reloaded {k : Key} : k.isPace = false → Pressed d now k (d.reload false now)
  | moved {k : Key} {focus : Focus} {scrolls : Scrolls} {quit : Bool} : k.isPace = false →
      Pressed d now k { d with focus, scrolls, quit }

theorem pressed (hp : d.press k now = .ok d') : Pressed d now k d' := by
  unfold Debugger.press at hp
  split at hp
  case h_8 =>
    split at hp
    · cases hp
      exact .doubled ‹_›
    · cases hp
  all_goals cases hp
  case h_3 | h_4 => exact .stepped rfl
  case h_5 => exact .toggled rfl
  case h_6 => exact .reloaded rfl
  case h_7 => exact .halved
  case h_12 =>
    cases hk : k.isPace with
    | false => exact .moved hk
    | true => rcases Key.isPace_iff.mp hk with rfl | rfl <;> simp_all
  all_goals exact .moved rfl

/-- The one key that can fail, and when. -/
theorem press_error_iff {e : IntervalOverflow} : d.press k now = .error e ↔
    k = .char '-' ∧ wordBound ≤ d.request.interval.toNat * 2 ∧ e = ⟨d.request.interval⟩ := by
  unfold Debugger.press
  split
  case h_8 =>
    split
    · rename_i hlt
      simp [hlt]
    · rename_i hle
      simp [Nat.le_of_not_lt hle, eq_comm]
  case h_12 => simp_all
  all_goals simp

/-! ## What becomes of the request -/

theorem frame_afterStep (d : Debugger) (p : Progress) :
    (d.afterStep p).host = d.host ∧ (d.afterStep p).request = d.request := by
  unfold afterStep
  cases d.current? <;> cases p <;> exact ⟨rfl, rfl⟩

theorem frame_tick (d : Debugger) (now : ℕ) :
    (d.tick now).host = (d.host.tick now).state ∧ (d.tick now).request = d.request := by
  unfold Debugger.tick
  dsimp only
  cases (d.host.tick now).result with
  | error e => exact ⟨rfl, rfl⟩
  | ok o =>
    cases o with
    | none => exact ⟨rfl, rfl⟩
    | some p => exact frame_afterStep _ p

theorem frame_step (d : Debugger) : d.step.request = d.request ∧
    (d.step.host = d.host ∨ ∃ id, d.step.host = (d.host.step id).state) := by
  unfold Debugger.step
  cases d.session with
  | none => exact ⟨rfl, .inl rfl⟩
  | some id =>
    dsimp only
    have hframe := frame_afterStep (d.absorb (d.host.step id).state (d.host.step id).events)
    cases (d.host.step id).result with
    | ok p =>
      obtain ⟨hhost, hrequest⟩ := hframe p
      cases p <;> exact ⟨hrequest, .inr ⟨id, hhost⟩⟩
    | error e => cases e <;> exact ⟨rfl, .inr ⟨id, rfl⟩⟩

theorem request_reload (d : Debugger) (run : Bool) (now : ℕ) :
    (d.reload run now).request = d.request := by
  unfold reload
  dsimp only
  split
  · cases run <;> rfl
  · rfl
  · rfl

theorem host_reload (d : Debugger) (run : Bool) (now : ℕ) :
    (d.reload run now).host = (d.host.start d.request now).state ∨
    ∃ id, (d.reload run now).host = ((d.host.start d.request now).state.stop id).state := by
  unfold reload
  dsimp only
  split
  · cases run with
    | true => exact .inl rfl
    | false => exact .inr ⟨_, rfl⟩
  · exact .inl rfl
  · exact .inl rfl

theorem frame_announce (d : Debugger) (r : Reaction Host Refusal Unit) (message : String) :
    (d.announce r message).host = r.state ∧ (d.announce r message).request = d.request := by
  unfold Debugger.announce
  dsimp only
  split <;> exact ⟨rfl, rfl⟩

theorem request_toggle (d : Debugger) (now : ℕ) : (d.toggle now).request = d.request := by
  unfold Debugger.toggle
  split
  · rfl
  · split
    · exact (frame_announce d _ _).2
    · exact request_reload d true now
    · exact request_reload d true now
    · exact (frame_announce d _ _).2

theorem interval_setInterval (d : Debugger) (millis : UInt64) (now : ℕ) :
    (d.setInterval millis now).request.interval = min maxInterval (max minInterval millis) := by
  unfold Debugger.setInterval
  dsimp only
  split <;> rfl

theorem toNat_clamp (millis : UInt64) :
    (min maxInterval (max minInterval millis)).toNat = min 5000 (max 1 millis.toNat) := by
  have hmin : ∀ a b : UInt64, (min a b).toNat = min a.toNat b.toNat := by
    intro a b
    show (if a ≤ b then a else b).toNat = _
    split_ifs with h <;> rw [UInt64.le_iff_toNat_le] at h <;> omega
  have hmax : ∀ a b : UInt64, (max a b).toNat = max a.toNat b.toNat := by
    intro a b
    show (if a ≤ b then b else a).toNat = _
    split_ifs with h <;> rw [UInt64.le_iff_toNat_le] at h <;> omega
  rw [hmin, hmax]
  rfl

theorem toNat_double {millis : UInt64} (h : millis.toNat * 2 < wordBound) :
    (millis * 2).toNat = 2 * millis.toNat := by
  have hexact : millis.toNat * 2 % 2 ^ 64 = millis.toNat * 2 := Nat.mod_eq_of_lt h
  rw [UInt64.toNat_mul, Nat.mul_comm 2, ← hexact]
  rfl

/-- **What a key makes of the interval.** -/
theorem Pressed.interval (h : Pressed d now k d') :
    d'.request.interval.toNat = k.turn d.request.interval.toNat := by
  cases h with
  | halved =>
    rw [interval_setInterval, toNat_clamp, UInt64.toNat_div]
    rfl
  | doubled hlt =>
    rw [interval_setInterval, toNat_clamp, toNat_double hlt]
    rfl
  | stepped hk => rw [(frame_step d).1, Key.turn_of_not_isPace hk]
  | toggled hk => rw [request_toggle, Key.turn_of_not_isPace hk]
  | reloaded hk => rw [request_reload, Key.turn_of_not_isPace hk]
  | moved hk => rw [Key.turn_of_not_isPace hk]

/-! ## The pace of the session -/

/-- While the session is stepping, it does so at the interval of the request. -/
def InStep (d : Debugger) : Prop := d.host.Follows (Settings.tickInterval d.request.interval)

theorem InStep.tick (h : d.InStep) (now : ℕ) : (d.tick now).InStep := by
  obtain ⟨hhost, hrequest⟩ := frame_tick d now
  rw [InStep, hhost, hrequest]
  exact Host.Follows.tick h now

theorem InStep.step (h : d.InStep) : d.step.InStep := by
  obtain ⟨hrequest, hhost | ⟨id, hhost⟩⟩ := frame_step d
  · rw [InStep, hhost, hrequest]
    exact h
  · rw [InStep, hhost, hrequest]
    exact Host.Follows.step h id

theorem inStep_reload (d : Debugger) (run : Bool) (now : ℕ) : (d.reload run now).InStep := by
  have hstart := d.host.follows_start d.request now
  rw [InStep, request_reload]
  rcases host_reload d run now with hhost | ⟨id, hhost⟩
  · rw [hhost]
    exact hstart
  · rw [hhost]
    exact hstart.stop id

theorem Truthful.status (ht : Truthful request settings d) (hs : d.host.session = some s) :
    d.status = some s.status := by
  rw [Debugger.status, ht.current?, hs]
  rfl

theorem Truthful.inStep_toggle (ht : Truthful request settings d) (h : d.InStep) (now : ℕ) :
    (d.toggle now).InStep := by
  cases hid : d.session with
  | none =>
    simp only [Debugger.toggle, hid]
    exact h
  | some id =>
    obtain ⟨s, hs, rfl⟩ := ht.exists_session hid
    have hannounce : ∀ (r : Reaction Host Refusal Unit) (message : String),
        r.state.Follows (Settings.tickInterval d.request.interval) →
          (d.announce r message).InStep := by
      intro r message hr
      obtain ⟨hhost, hrequest⟩ := frame_announce d r message
      rw [InStep, hhost, hrequest]
      exact hr
    simp only [Debugger.toggle, hid, ht.status hs]
    cases s.status with
    | stepping => exact hannounce _ _ (Host.Follows.stop h s.id)
    | finished | aborted => exact inStep_reload d true now
    | initialized | paused =>
      exact hannounce _ _ (Host.follows_restart hs (ht.tracks s hs).sound _ now)

/-- A new interval reaches the session at once if it is stepping, and not at all otherwise. -/
theorem Truthful.host_setInterval (ht : Truthful request settings d) (millis : UInt64) (now : ℕ) :
    (d.setInterval millis now).host = d.host ∧ d.status ≠ some .stepping ∨
    ∃ s, d.host.session = some s ∧ s.status = .stepping ∧ (d.setInterval millis now).host =
      (d.host.restart s.id (min maxInterval (max minInterval millis)) now).state := by
  unfold Debugger.setInterval
  dsimp only
  split
  next id hid hstepping =>
    obtain ⟨s, hs, rfl⟩ := ht.exists_session hid
    have hstatus : d.status = some .stepping := hstepping
    rw [ht.status hs, Option.some.injEq] at hstatus
    exact .inr ⟨s, hs, hstatus, rfl⟩
  next hno =>
    refine .inl ⟨rfl, fun hstepping => ?_⟩
    obtain ⟨s, hs, -⟩ := Option.map_eq_some_iff.mp hstepping
    obtain ⟨id, hid, -⟩ := Option.bind_eq_some_iff.mp hs
    exact hno id hid hstepping

theorem Truthful.inStep_setInterval (ht : Truthful request settings d) (millis : UInt64)
    (now : ℕ) : (d.setInterval millis now).InStep := by
  rw [InStep, interval_setInterval]
  rcases ht.host_setInterval millis now with ⟨hhost, hno⟩ | ⟨s, hs, -, hhost⟩
  · rw [hhost]
    intro s hs hstepping
    rw [ht.status hs, hstepping] at hno
    exact absurd rfl hno
  · rw [hhost]
    exact Host.follows_restart hs (ht.tracks s hs).sound _ now

/-- **One key.** -/
theorem Truthful.inStep_press (ht : Truthful request settings d) (h : d.InStep)
    (hp : d.press k now = .ok d') : d'.InStep := by
  cases pressed hp with
  | halved => exact ht.inStep_setInterval _ now
  | doubled _ => exact ht.inStep_setInterval _ now
  | stepped _ => exact h.step
  | toggled _ => exact ht.inStep_toggle h now
  | reloaded _ => exact inStep_reload d false now
  | moved _ => exact h

/-! ## Keys that leave the session alone -/

/-- The session goes on from where it was, and is shown as it was. -/
structure Undisturbed (d d' : Debugger) : Prop where
  session : d'.session = d.session
  stepper : d'.current?.map (·.stepper) = d.current?.map (·.stepper)
  status : d'.status = d.status
  view : d'.view = d.view

theorem Truthful.undisturbed_setInterval (ht : Truthful request settings d) (millis : UInt64)
    (now : ℕ) : d.Undisturbed (d.setInterval millis now) := by
  have hframe : (d.setInterval millis now).session = d.session ∧
      (d.setInterval millis now).view = d.view := by
    unfold Debugger.setInterval
    dsimp only
    split <;> exact ⟨rfl, rfl⟩
  obtain ⟨hsession, hview⟩ := hframe
  have ht' := ht.setInterval millis now
  rcases ht.host_setInterval millis now with ⟨hhost, -⟩ | ⟨s, hs, hstepping, hhost⟩
  · have hcurrent : (d.setInterval millis now).current? = d.current? := by
      rw [Debugger.current?, hsession, hhost]
      rfl
    exact ⟨hsession, by rw [hcurrent], by rw [Debugger.status, hcurrent]; rfl, hview⟩
  · -- the session is restarted, which leaves all but its metronome as it was
    have hlive : s.status.isTerminal = false := by rw [hstepping]; rfl
    rw [Host.restart, Host.onSession_current hs,
      (ht.tracks s hs).sound.restart_of_live hlive] at hhost
    have hs' : (d.setInterval millis now).host.session = some _ := congrArg Host.session hhost
    refine ⟨hsession, ?_, ?_, hview⟩
    · rw [ht'.current?, ht.current?, hs', hs]
      rfl
    · rw [ht'.status hs', ht.status hs, hstepping]
      rfl

theorem Truthful.undisturbed_press (ht : Truthful request settings d)
    (hk : k ∈ [.char '+', .char '-', .tab, .up, .down]) (hp : d.press k now = .ok d') :
    d.Undisturbed d' := by
  simp only [List.mem_cons, List.not_mem_nil, or_false] at hk
  rcases hk with rfl | rfl | rfl | rfl | rfl
  · cases hp
    exact ht.undisturbed_setInterval _ now
  · cases pressed hp with
    | doubled _ => exact ht.undisturbed_setInterval _ now
    | stepped hk | toggled hk | reloaded hk | moved hk => cases hk
  all_goals
    cases hp
    exact ⟨rfl, rfl, rfl, rfl⟩

/-! ## Runs -/

theorem run_cons_of_ok {i : Input} (h : d.handle i = .ok d') (is : List Input) :
    d.run (i :: is) = d'.run is := by
  rw [run, List.foldlM_cons, h]
  rfl

theorem run_cons_of_error {i : Input} {e : IntervalOverflow} (h : d.handle i = .error e)
    (is : List Input) : d.run (i :: is) = .error e := by
  rw [run, List.foldlM_cons, h]
  rfl

theorem exists_of_run_append {before after : List Input} (h : d.run (before ++ after) = .ok d') :
    ∃ d₁, d.run before = .ok d₁ ∧ d₁.run after = .ok d' := by
  rw [run, List.foldlM_append] at h
  cases hd : d.run before with
  | ok d₁ =>
    rw [run] at hd
    rw [hd] at h
    exact ⟨d₁, rfl, h⟩
  | error e =>
    rw [run] at hd
    rw [hd] at h
    cases h

/-- What every input keeps, every run keeps. -/
theorem run_invariant {P : Debugger → Prop}
    (hhandle : ∀ d i d', P d → d.handle i = .ok d' → P d') (h : P d)
    (hrun : d.run inputs = .ok d') : P d' := by
  induction inputs generalizing d with
  | nil =>
    cases hrun
    exact h
  | cons i is ih =>
    cases hd : d.handle i with
    | ok d₁ =>
      rw [run_cons_of_ok hd] at hrun
      exact ih (hhandle d i d₁ h hd) hrun
    | error e =>
      rw [run_cons_of_error hd] at hrun
      cases hrun

theorem Truthful.inStep_run (ht : Truthful request settings d) (h : d.InStep)
    (hrun : d.run inputs = .ok d') : d'.InStep := by
  have hboth : Truthful request settings d' ∧ d'.InStep := by
    refine run_invariant (P := fun d => Truthful request settings d ∧ d.InStep) ?_ ⟨ht, h⟩ hrun
    rintro d i d' ⟨ht, h⟩ hd
    cases i with
    | key k now => exact ⟨ht.press hd, ht.inStep_press h hd⟩
    | tick now =>
      cases hd
      exact ⟨ht.tick now, h.tick now⟩
  exact hboth.2

theorem truthful_ofRequest (request : Request) (settings : Settings) (now : ℕ) :
    Truthful request settings (ofRequest request settings now) :=
  truthful_reload (d := { host := { settings }, request }) rfl rfl false now

/-- The interval is within the bounds that keys set. -/
def Paced (d : Debugger) : Prop :=
  1 ≤ d.request.interval.toNat ∧ d.request.interval.toNat ≤ 5000

theorem paced_of_press (hk : k.isPace = true) (hp : d.press k now = .ok d') : d'.Paced := by
  rw [Paced, (pressed hp).interval]
  exact Key.turn_bounds hk _

theorem Paced.run (h : d.Paced) (hrun : d.run inputs = .ok d') : d'.Paced := by
  refine run_invariant ?_ h hrun
  intro d i d' h hd
  cases i with
  | tick now =>
    cases hd
    rw [Paced, (frame_tick d now).2]
    exact h
  | key k now =>
    cases hk : k.isPace with
    | true => exact paced_of_press hk hd
    | false =>
      rw [Paced, (pressed hd).interval, Key.turn_of_not_isPace hk]
      exact h

/-! ## The first key that changes the interval -/

/-- The key, if it changes the interval. -/
def Input.pace? : Input → Option Key
  | .key k _ => if k.isPace then some k else none
  | .tick _ => none

theorem Input.eq_key_of_pace? {i : Input} (hi : i.pace? = some k) :
    ∃ now, i = .key k now ∧ k.isPace = true := by
  cases i with
  | tick now => cases hi
  | key k' now =>
    obtain ⟨hk, heq⟩ := Option.ite_none_right_eq_some.mp hi
    cases heq
    exact ⟨now, rfl, hk⟩

/-- An input that is no such key succeeds, and keeps the interval. -/
theorem handle_of_pace?_none (d : Debugger) {i : Input} (hi : i.pace? = none) :
    ∃ d', d.handle i = .ok d' ∧ d'.request.interval = d.request.interval := by
  cases i with
  | tick now => exact ⟨_, rfl, by rw [(frame_tick d now).2]⟩
  | key k now =>
    have hk : k.isPace = false := by simpa [Input.pace?] using hi
    cases hp : d.press k now with
    | ok d' =>
      refine ⟨d', hp, UInt64.toNat_inj.mp ?_⟩
      rw [(pressed hp).interval, Key.turn_of_not_isPace hk]
    | error e =>
      rw [(press_error_iff.mp hp).1] at hk
      cases hk

/-- Within the bounds, no input fails. -/
theorem Paced.run_ne_error (h : d.Paced) (e : IntervalOverflow) : d.run inputs ≠ .error e := by
  induction inputs generalizing d with
  | nil =>
    intro hnil
    cases hnil
  | cons i is ih =>
    cases hd : d.handle i with
    | ok d₁ =>
      have hone : d.run [i] = .ok d₁ := run_cons_of_ok hd []
      rw [run_cons_of_ok hd]
      exact ih (h.run hone)
    | error e' =>
      cases i with
      | tick now => cases hd
      | key k now =>
        obtain ⟨-, hlarge, -⟩ := press_error_iff.mp hd
        have hsmall := h.2
        unfold wordBound at hlarge
        omega

/-- **A run fails at the first key that changes the interval, or not at all.** -/
theorem run_error_iff {e : IntervalOverflow} : d.run inputs = .error e ↔
    2 ^ 63 ≤ d.request.interval.toNat ∧
      (inputs.filterMap Input.pace?).head? = some (.char '-') ∧ e = ⟨d.request.interval⟩ := by
  induction inputs generalizing d with
  | nil =>
    constructor
    · intro hnil
      cases hnil
    · rintro ⟨-, hnil, -⟩
      cases hnil
  | cons i is ih =>
    cases hi : i.pace? with
    | none =>
      obtain ⟨d₁, hd₁, hsame⟩ := d.handle_of_pace?_none hi
      rw [run_cons_of_ok hd₁, ih, hsame, List.filterMap_cons_none hi]
    | some k =>
      obtain ⟨now, rfl, hk⟩ := Input.eq_key_of_pace? hi
      rw [List.filterMap_cons_some hi, List.head?_cons, Option.some.injEq]
      cases hp : d.press k now with
      | error e' =>
        obtain ⟨hminus, hlarge, rfl⟩ := press_error_iff.mp hp
        unfold wordBound at hlarge
        rw [run_cons_of_error (i := .key k now) hp, Except.error.injEq, eq_comm]
        exact ⟨fun he => ⟨by omega, hminus, he⟩, fun ⟨_, _, he⟩ => he⟩
      | ok d₁ =>
        -- the key has brought the interval within its bounds, where nothing fails
        have hpaced : d₁.Paced := paced_of_press hk hp
        rw [run_cons_of_ok (i := .key k now) hp]
        refine iff_of_false (hpaced.run_ne_error e) ?_
        rintro ⟨hlarge, rfl, -⟩
        have herror : d.press (.char '-') now = .error ⟨d.request.interval⟩ :=
          press_error_iff.mpr ⟨rfl, by unfold wordBound; omega, rfl⟩
        rw [hp] at herror
        cases herror

theorem interval_ofRequest (request : Request) (settings : Settings) (now : ℕ) :
    (ofRequest request settings now).request.interval = request.interval := by
  rw [ofRequest, request_reload]

end Debugger

open Debugger in
/-- **The session is paced by the interval that is shown.** The program is loaded at any time, and
keys and ticks come in any order at any times, as long as no key doubles the interval beyond its
type. The status bar shows the interval of the request, and a session that is stepping does so at
this interval. Once a key has changed the interval, it is within its bounds and stays there. Those
keys, and the ones that move the focus and the offsets, leave the session and what is shown of it as
they were. -/
theorem pace_is_shown_interval (request : Request) (settings : Settings) (loaded : ℕ)
    (inputs : List Input) (d : Debugger)
    (hrun : (ofRequest request settings loaded).run inputs = .ok d) :
    (∀ screen : Screen, ∃ panes : Screen, (d.render screen).2 =
      StatusBar.draw panes (screen.area.splitRows (screen.height - 1)).2 d.message d.view.cycles
        d.request.interval.toNat d.status d.view.error.isSome) ∧
    (∀ s, d.current? = some s → s.status = .stepping →
      s.metronome.interval = Settings.tickInterval d.request.interval) ∧
    (∀ k now, .key k now ∈ inputs → k = .char '+' ∨ k = .char '-' →
      1 ≤ d.request.interval.toNat ∧ d.request.interval.toNat ≤ 5000) ∧
    (∀ k ∈ [.char '+', .char '-', .tab, .up, .down], ∀ now d',
      d.press k now = .ok d' → d.Undisturbed d') := by
  have hloaded := truthful_ofRequest request settings loaded
  have ht := hloaded.run hrun
  refine ⟨fun screen => ⟨_, rfl⟩, ?_, ?_, fun k hk now d' hp => ht.undisturbed_press hk hp⟩
  · intro s hs hstepping
    rw [ht.current?] at hs
    exact hloaded.inStep_run (inStep_reload _ _ _) hrun s hs hstepping
  · intro k now hmem hk
    obtain ⟨before, after, rfl⟩ := List.append_of_mem hmem
    obtain ⟨d₀, -, hrest⟩ := exists_of_run_append hrun
    cases hp : d₀.press k now with
    | error e =>
      rw [run_cons_of_error (i := .key k now) hp] at hrest
      cases hrest
    | ok d₁ =>
      rw [run_cons_of_ok (i := .key k now) hp] at hrest
      have hpaced : d₁.Paced := paced_of_press (Key.isPace_iff.mpr hk) hp
      exact hpaced.run hrest

open Debugger in
/-- A shorter interval while the session is stepping, and a longer one while it is paused. -/
theorem pace_is_shown_interval_of_resumed : ∃ request settings inputs d s,
    request = { mode := .simple, source := "+[]", interval := 700 } ∧
    settings = { stepped := ⟨2, .fixed⟩ } ∧
    inputs = [.key (.char ' ') 10, .key (.char '+') 20, .tick 370, .key (.char ' ') 380,
      .key (.char '-') 390, .key (.char ' ') 400, .tick 1100] ∧
    (ofRequest request settings 0).run inputs = .ok d ∧ d.current? = some s ∧
    s.status = .stepping ∧ s.machine.cycles = 2 ∧ d.request.interval = 700 ∧
    s.metronome.interval = 700 ∧ d.request.interval.toNat ≤ 5000 := by
  obtain ⟨-, hpace, hbounds, -⟩ := pace_is_shown_interval
    { mode := .simple, source := "+[]", interval := 700 } { stepped := ⟨2, .fixed⟩ } 0
    [.key (.char ' ') 10, .key (.char '+') 20, .tick 370, .key (.char ' ') 380,
      .key (.char '-') 390, .key (.char ' ') 400, .tick 1100] _ rfl
  exact ⟨_, _, _, _, _, rfl, rfl, rfl, rfl, rfl, rfl, rfl, rfl, hpace _ rfl rfl,
    (hbounds (.char '-') 390 (by simp) (.inr rfl)).2⟩

open Debugger in
/-- **Only the first key that changes the interval can go wrong.** The request has any interval, and
keys and ticks come in any order at any times. This fails exactly if the interval of the request has
no double of 64 bits and the first key to change it is the one that doubles it. Otherwise the
interval is halved or doubled and cut to its bounds by these keys, and kept by all else. -/
theorem interval_keys_overflow_iff (request : Request) (settings : Settings) (loaded : ℕ)
    (inputs : List Input) :
    (∀ e, (ofRequest request settings loaded).run inputs = .error e ↔
      2 ^ 63 ≤ request.interval.toNat ∧
        (inputs.filterMap Input.pace?).head? = some (.char '-') ∧ e = ⟨request.interval⟩) ∧
    ∀ d, (ofRequest request settings loaded).run inputs = .ok d → ∀ now,
      (∃ d', d.press (.char '+') now = .ok d' ∧
        d'.request.interval.toNat = min 5000 (max 1 (d.request.interval.toNat / 2))) ∧
      (d.request.interval.toNat < 2 ^ 63 → ∃ d', d.press (.char '-') now = .ok d' ∧
        d'.request.interval.toNat = min 5000 (max 1 (2 * d.request.interval.toNat))) ∧
      (∀ i : Input, i.pace? = none → ∃ d', d.handle i = .ok d' ∧
        d'.request.interval = d.request.interval) := by
  refine ⟨fun e => ?_, fun d _ now => ⟨?_, fun hsmall => ?_, fun i => d.handle_of_pace?_none⟩⟩
  · rw [run_error_iff, interval_ofRequest]
  · exact ⟨_, rfl, Pressed.interval .halved⟩
  · cases hp : d.press (.char '-') now with
    | ok d' => exact ⟨d', rfl, (pressed hp).interval⟩
    | error e =>
      obtain ⟨-, hlarge, -⟩ := press_error_iff.mp hp
      unfold wordBound at hlarge
      omega

open Debugger in
/-- The least interval without a double: halved first it is harmless, doubled first it is not. -/
theorem interval_keys_overflow_iff_of_large : ∃ request settings d,
    request = { mode := .simple, source := "+[]", interval := 9223372036854775808 } ∧
    (ofRequest request settings 0).run [.tick 5, .key .tab 7, .key (.char '-') 10] =
      .error ⟨9223372036854775808⟩ ∧
    (ofRequest request settings 0).run [.key (.char '+') 10] = .ok d ∧
    (∃ d', d.press (.char '-') 20 = .ok d' ∧ d'.request.interval.toNat = 5000) := by
  obtain ⟨herror, -⟩ := interval_keys_overflow_iff
    { mode := .simple, source := "+[]", interval := 9223372036854775808 } {} 0
    [.tick 5, .key .tab 7, .key (.char '-') 10]
  obtain ⟨-, hkeys⟩ := interval_keys_overflow_iff
    { mode := .simple, source := "+[]", interval := 9223372036854775808 } {} 0
    [.key (.char '+') 10]
  refine ⟨_, {}, _, rfl, (herror _).mpr ⟨by decide, rfl, rfl⟩, rfl, ?_⟩
  exact (hkeys _ rfl 20).2.1 (by decide)

open Debugger in
/-- An interval that is cut to its bounds only after it has been doubled. -/
theorem doubling_precedes_bounds : ∃ request settings,
    request = { mode := .simple, source := "+", interval := 9223372036854775808 } ∧
    settings = { stepped := ⟨4, .fixed⟩ } ∧
    (ofRequest request settings 0).run [.key (.char '-') 0] = .error ⟨9223372036854775808⟩ :=
  ⟨_, _, rfl, rfl, rfl⟩

end Tapewalk
