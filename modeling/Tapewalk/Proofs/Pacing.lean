import Tapewalk.Proofs.Deadlines

/-!
# The pace of a session

A session that is stepping steps at some of the ticks it is given. `beats` says at which, in terms of
the times alone: a tick counts if it is due, and the next one is then due one interval later, however
late this one was. A session keeps to its beats until it stops stepping (`Session.tickTimes_beats`);
steps by hand have no part in them. Since beats are an interval apart, no session is ever faster than
its interval allows.
-/

namespace Tapewalk

/-! ## Beats -/

/-- Of the given times, those that count: the first one at `due` or later, and then each that is at
least an interval later than the one that counted before. -/
def beats (interval due : ℕ) : List ℕ → List ℕ
  | [] => []
  | now :: times =>
    if due ≤ now then now :: beats interval (now + interval) times else beats interval due times

variable {i due base : ℕ} {times : List ℕ}

theorem beats_subset (i due : ℕ) (times : List ℕ) : beats i due times ⊆ times := by
  induction times generalizing due with
  | nil => exact List.Subset.refl _
  | cons now times ih =>
    unfold beats
    split_ifs
    · exact List.cons_subset_cons now (ih _)
    · exact List.subset_cons_of_subset now (ih _)

/-- Beats are an interval apart, and the first one is that far from the beginning. -/
theorem pairwise_beats (h : base + i ≤ due) (times : List ℕ) :
    (base :: beats i due times).Pairwise fun a b => a + i ≤ b := by
  induction times generalizing base due with
  | nil => exact List.pairwise_singleton _ _
  | cons now times ih =>
    unfold beats
    split_ifs with hdue
    · have hrest : (now :: beats i (now + i) times).Pairwise fun a b => a + i ≤ b :=
        ih (Nat.le_refl _)
      refine List.pairwise_cons.mpr ⟨?_, hrest⟩
      intro b hb
      rcases List.mem_cons.mp hb with rfl | hb
      · omega
      · have hlater := (List.pairwise_cons.mp hrest).1 b hb
        omega
    · exact ih h

/-- Of times that are an interval apart, each takes one interval more. -/
theorem le_getElem_of_pairwise (h : (base :: times).Pairwise fun a b => a + i ≤ b) (k : ℕ)
    (hk : k < times.length) : base + (k + 1) * i ≤ times[k] := by
  induction k with
  | zero =>
    have hfirst := (List.pairwise_cons.mp h).1 _ (List.getElem_mem hk)
    omega
  | succ k ih =>
    have hbefore := ih (by omega)
    have hgap := List.pairwise_iff_getElem.mp (List.pairwise_cons.mp h).2 k (k + 1) (by omega) hk
      (Nat.lt_succ_self k)
    calc base + (k + 1 + 1) * i = base + (k + 1) * i + i := by rw [Nat.succ_mul, Nat.add_assoc]
      _ ≤ times[k] + i := Nat.add_le_add_right hbefore i
      _ ≤ times[k + 1] := hgap

/-- So their number is bounded by the time that there is. -/
theorem length_le_of_pairwise (hi : 0 < i) (h : (base :: times).Pairwise fun a b => a + i ≤ b)
    {last : ℕ} (hlast : ∀ t ∈ times, t ≤ last) : times.length ≤ (last - base) / i := by
  rw [Nat.le_div_iff_mul_le hi]
  by_cases hempty : times.length = 0
  · rw [hempty]
    omega
  · obtain ⟨k, hk⟩ := Nat.exists_eq_add_one_of_ne_zero hempty
    have hlt : k < times.length := by omega
    have hkth := le_getElem_of_pairwise h k hlt
    have hle := hlast _ (List.getElem_mem hlt)
    rw [hk]
    omega

/-! ## Ticks of a session -/

namespace Session

variable {s : Session} {ops : List Op} {now : ℕ}

/-- The time of a tick. -/
def Op.tickTime? : Op → Option ℕ
  | .tick now => some now
  | _ => none

/-- The times of the ticks in a schedule that step the session. Each of them executes an instruction,
but for the last one, which may come to the end of the program or to a fault. -/
def tickTimes (s : Session) : List Op → List ℕ
  | [] => []
  | op :: ops =>
    (if calls (s.perform op) then op.tickTime?.toList else []) ++ (s.perform op).state.tickTimes ops

/-- A step leaves the pace alone, or ends the stepping. -/
theorem step_pace (s : Session) :
    (s.step.state.status = s.status ∧ s.step.state.metronome = s.metronome) ∨
    s.step.state.status ≠ .stepping := by
  by_cases hlive : s.status.isTerminal = true
  · rw [(perform_of_terminal hlive).2.2.2.1]
    exact .inl ⟨rfl, rfl⟩
  · have hstep : s.step = _ := whileLive_of_live (Bool.eq_false_iff.mpr hlive)
    dsimp only at hstep
    rw [hstep]
    cases s.stepper.step.result with
    | error f => exact .inr (by simp [settle])
    | ok p =>
      cases p with
      | executed => exact .inl ⟨rfl, rfl⟩
      | breakpoint | finished => exact .inr (by simp [settle])

/-- A session that is not stepping does not step at ticks, and steps by hand do not change that. -/
theorem tickTimes_of_not_stepping (hs : s.status ≠ .stepping)
    (hops : ∀ op ∈ ops, op = .step ∨ ∃ now, op = .tick now) :
    s.tickTimes ops = [] ∧ (s.after ops).status ≠ .stepping := by
  induction ops generalizing s with
  | nil => exact ⟨rfl, hs⟩
  | cons op ops ih =>
    have hrest := fun {t : Session} (ht : t.status ≠ .stepping) =>
      ih ht fun op hop => hops op (List.mem_cons_of_mem _ hop)
    unfold tickTimes after
    rcases hops op List.mem_cons_self with rfl | ⟨now, rfl⟩
    · have hs' : (s.perform .step).state.status ≠ .stepping := by
        rcases step_pace s with ⟨hsame, -⟩ | hstops
        · intro hstepping
          exact hs (hsame.symm.trans hstepping)
        · exact hstops
      obtain ⟨htimes, hafter⟩ := hrest hs'
      rw [htimes]
      exact ⟨by simp [Op.tickTime?], hafter⟩
    · have htick : s.perform (.tick now) = .done .idle s := by
        rw [perform, tick, if_neg hs]
        rfl
      rw [htick]
      exact hrest hs

/-- **A session keeps to its beats** as long as it is stepping, whatever is stepped by hand in
between. -/
theorem tickTimes_beats (hs : s.status = .stepping) (hm : s.metronome = ⟨i, some due⟩)
    (hops : ∀ op ∈ ops, op = .step ∨ ∃ now, op = .tick now) :
    s.tickTimes ops <+: beats i due (ops.filterMap Op.tickTime?) ∧
    ((s.after ops).status = .stepping →
      s.tickTimes ops = beats i due (ops.filterMap Op.tickTime?)) := by
  induction ops generalizing s due with
  | nil => exact ⟨List.prefix_refl _, fun _ => rfl⟩
  | cons op ops ih =>
    have hops' : ∀ op ∈ ops, op = .step ∨ ∃ now, op = .tick now := fun op hop =>
      hops op (List.mem_cons_of_mem _ hop)
    -- a session that has stopped stepping has no more beats
    have hstopped : ∀ {t : Session} {bs : List ℕ}, t.status ≠ .stepping →
        t.tickTimes ops <+: bs ∧ ((t.after ops).status = .stepping → t.tickTimes ops = bs) := by
      intro t bs ht
      obtain ⟨htimes, hafter⟩ := tickTimes_of_not_stepping ht hops'
      rw [htimes]
      exact ⟨List.nil_prefix, fun h => absurd h hafter⟩
    unfold tickTimes after
    rcases hops op List.mem_cons_self with rfl | ⟨now, rfl⟩
    · have hnone : (if calls (s.perform .step) then Op.step.tickTime?.toList else []) = [] := by
        simp [Op.tickTime?]
      rw [hnone, List.nil_append, List.filterMap_cons_none rfl]
      rcases step_pace s with ⟨hstatus, hmetronome⟩ | hstops
      · exact ih (hstatus.trans hs) (hmetronome.trans hm) hops'
      · exact hstopped hstops
    · rw [List.filterMap_cons_some (f := Op.tickTime?) rfl, beats]
      by_cases hdue : due ≤ now
      · have hnext : s.metronome.next = some due := by rw [hm]
        have htick : s.perform (.tick now) =
            ({ s with metronome := s.metronome.arm now }.step.map some).map .ofTick := by
          rw [perform, tick_of_due hs hnext hdue]
        have hcalls : calls (s.perform (.tick now)) = true := by
          rw [htick, Reaction.map_map]
          exact (driven_step (by rw [hs]; rfl) _ fun _ => rfl).calls
        rw [if_pos hcalls, if_pos hdue]
        show now :: tickTimes _ ops <+: _ ∧ (_ → now :: tickTimes _ ops = _)
        rw [List.prefix_cons_inj, List.cons_inj_right, htick]
        rcases step_pace { s with metronome := s.metronome.arm now } with
          ⟨hstatus, hmetronome⟩ | hstops
        · refine ih (hstatus.trans hs) (hmetronome.trans ?_) hops'
          rw [hm]
          rfl
        · exact hstopped hstops
      · have htick : s.perform (.tick now) = .done .idle s := by
          rw [perform, tick_of_early]
          · rfl
          · intro due' hdue'
            rw [hm] at hdue'
            obtain rfl := Option.some.inj hdue'
            omega
        rw [htick, if_neg hdue]
        exact ih hs hm hops'

/-! ## How a session is set off -/

/-- A session to which anything may have been done since it was loaded. -/
def Reached (s : Session) : Prop :=
  ∃ id source shape eof input interval s₀ ops,
    load id source shape eof input interval = .ok s₀ ∧ s = s₀.after ops

theorem Reached.sound (h : s.Reached) : s.Sound := by
  obtain ⟨id, source, shape, eof, input, interval, s₀, ops, hload, rfl⟩ := h
  exact (sound_of_load hload).1.after ops

/-- A session has been put into stepping at time `now` with interval `i`: it was begun, it was
restarted, or a host has just started it. -/
inductive SetOff (now i : ℕ) : Session → Prop
  | begun {s : Session} : s.Reached → s.metronome.interval = i → (s.begin now).result = .ok () →
      SetOff now i (s.begin now).state
  | restarted {s : Session} : s.Reached → (s.restart i now).result = .ok () →
      SetOff now i (s.restart i now).state
  | started {h : Host} {r : Request} {s : Session} : Settings.tickInterval r.interval = i →
      (h.start r now).state.session = some s → SetOff now i s

/-- Whichever way it was, the first tick is due one interval later. -/
theorem SetOff.metronome (h : s.SetOff now i) :
    s.status = .stepping ∧ s.metronome = ⟨i, some (now + i)⟩ := by
  have live_of_ok : ∀ {t : Session} {op : Session → Reaction Session Refusal Unit},
      (t.whileLive op).result = .ok () → t.status.isTerminal = false := by
    intro t op hok
    apply Bool.eq_false_iff.mpr
    intro hover
    rw [whileLive_of_terminal hover] at hok
    cases hok
  cases h with
  | @begun t hreached hinterval hok =>
    rw [begin, whileLive_of_live (live_of_ok hok)]
    rw [← hinterval]
    exact ⟨rfl, rfl⟩
  | @restarted t hreached hok =>
    rw [hreached.sound.restart_of_live (live_of_ok hok)]
    exact ⟨rfl, rfl⟩
  | @started h r _ hinterval hsession =>
    have hs := Host.started h r now
    generalize h.start r now = a at hs hsession
    cases hs with
    | ran _ hst _ =>
      rw [hst] at hsession
      cases hsession
    | failed _ _ => cases hsession
    | @opened t _ hload =>
      obtain rfl := Option.some.inj hsession
      obtain ⟨st, -, rfl⟩ := load_ok hload
      rw [← hinterval]
      exact ⟨rfl, rfl⟩

end Session

open Session in
/-- **A session is never faster than its pace.** It has been put into stepping at time `now` with
interval `i`, and then there are only ticks, at whatever times up to `T` and in whatever order, and
steps by hand. Then the ticks that step it are at most as many as intervals fit in between; the
`k`-th of them is not before `k` intervals have passed; and two of them are never closer than an
interval, so that missed ticks are not made up for. Which ticks they are can be told from the times
of the ticks alone: steps by hand do not move them, they can only bring the stepping to its end. -/
theorem pace_never_exceeded (now i T : ℕ) (hi : 0 < i) (s : Session) (hs : s.SetOff now i)
    (ops : List Op) (hops : ∀ op ∈ ops, op = .step ∨ ∃ t ≤ T, op = .tick t) :
    (s.tickTimes ops).length ≤ (T - now) / i ∧
    (∀ k (hk : k < (s.tickTimes ops).length), now + (k + 1) * i ≤ (s.tickTimes ops)[k]) ∧
    (s.tickTimes ops).Pairwise (fun a b => a + i ≤ b) ∧
    s.tickTimes ops <+: beats i (now + i) (ops.filterMap Op.tickTime?) ∧
    ((s.after ops).status = .stepping →
      s.tickTimes ops = beats i (now + i) (ops.filterMap Op.tickTime?)) := by
  obtain ⟨hstatus, hmetronome⟩ := hs.metronome
  have hticks : ∀ op ∈ ops, op = .step ∨ ∃ t, op = .tick t := fun op hop =>
    (hops op hop).imp_right fun ⟨t, _, ht⟩ => ⟨t, ht⟩
  obtain ⟨hfirst, hall⟩ := tickTimes_beats hstatus hmetronome hticks
  have hspaced : (now :: s.tickTimes ops).Pairwise fun a b => a + i ≤ b :=
    (pairwise_beats (Nat.le_refl _) _).sublist (hfirst.sublist.cons_cons now)
  have hlast : ∀ t ∈ s.tickTimes ops, t ≤ T := by
    intro t ht
    obtain ⟨op, hop, htime⟩ := List.mem_filterMap.mp (beats_subset _ _ _ (hfirst.subset ht))
    rcases hops op hop with rfl | ⟨t', hle, rfl⟩
    · cases htime
    · obtain rfl := Option.some.inj htime
      exact hle
  exact ⟨length_le_of_pairwise hi hspaced hlast, le_getElem_of_pairwise hspaced,
    (List.pairwise_cons.mp hspaced).2, hfirst, hall⟩

/-- A tick too early, a late one that stands for five, one that comes from the past, and a step by
hand that does not delay the tick after it. -/
theorem pace_never_exceeded_by_late_ticks : ∃ s t ops,
    Session.load ⟨1⟩ "+++++" ⟨1, .fixed⟩ 0 #[] 10 = .ok s ∧ t = (s.begin 100).state ∧
    t.SetOff 100 10 ∧
    ops = [.tick 109, .tick 155, .tick 120, .step, .tick 164, .tick 165, .tick 165] ∧
    t.tickTimes ops = [155, 165] ∧ (t.tickTimes ops).length ≤ 6 := by
  have hset : Session.SetOff 100 10 _ :=
    .begun ⟨⟨1⟩, "+++++", ⟨1, .fixed⟩, 0, #[], 10, _, [], rfl, rfl⟩ rfl rfl
  refine ⟨_, _, _, rfl, rfl, hset, rfl, ?_, ?_⟩
  · exact (pace_never_exceeded 100 10 165 (by decide) _ hset _ (by simp)).2.2.2.2 rfl
  · exact (pace_never_exceeded 100 10 165 (by decide) _ hset _ (by simp)).1

end Tapewalk
