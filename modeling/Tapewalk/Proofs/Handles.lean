import Tapewalk.Proofs.Segments

/-!
# The numbers of sessions

A host numbers the sessions that it is asked to open, whether or not their programs load.
`Host.Started` lists what a start can do; from it follow the count of numbers that a history uses up
and, since nothing but a start replaces the session, that the session of a host is the one which the
last start has opened (`Host.exists_origin`).
-/

namespace Tapewalk.Host

variable {h : Host} {s : Session} {op : Op} {ops pre post : List Op} {id : SessionId} {r : Request}
  {now : ℕ} {settings : Settings}

theorem after_append (h : Host) (ops ops' : List Op) :
    h.after (ops ++ ops') = (h.after ops).after ops' := by
  induction ops generalizing h with
  | nil => rfl
  | cons op ops ih => exact ih _

theorem settings_after (h : Host) (ops : List Op) : (h.after ops).settings = h.settings := by
  induction ops generalizing h with
  | nil => rfl
  | cons op ops ih => exact (ih _).trans (settings_perform h op)

/-! ## Starts -/

/-- The request is for a session, and its program loads. -/
def Opens (r : Request) : Prop := r.mode = .simple ∧ ∃ j, Jumps.build (.ofString r.source) = .ok j

/-- What a start can do to a host: a batch run, a program that does not load, or a new session. Only
the batch run uses up no number. -/
inductive Started (h : Host) (r : Request) (now : ℕ) :
    Reaction Host Refusal (Option SessionId) → Prop
  | ran {a : Reaction Host Refusal (Option SessionId)} : r.mode = .disabled →
      a.state = { h with session := none } → (∀ id, a.result ≠ .ok (some id)) → Started h r now a
  | failed {f : Fault} : r.mode = .simple → Jumps.build (.ofString r.source) = .error f →
      Started h r now ⟨.error (.fault f), [.error f.message],
        { h with session := none, nextId := h.nextId + 1 }⟩
  | opened {s : Session} : Opens r →
      Session.load ⟨h.nextId⟩ r.source h.settings.stepped r.eof r.input
        (Settings.tickInterval r.interval) = .ok s →
      Started h r now (.done (some ⟨h.nextId⟩)
        { h with session := some (s.begin now).state, nextId := h.nextId + 1 })

theorem started (h : Host) (r : Request) (now : ℕ) : h.Started r now (h.start r now) := by
  cases hmode : r.mode with
  | disabled =>
    obtain ⟨hst, -, hno⟩ := start_disabled h now hmode
    exact .ran hmode hst hno
  | simple =>
    cases hj : Jumps.build (.ofString r.source) with
    | error f =>
      rw [start_unloadable h now hmode hj]
      exact .failed hmode hj
    | ok j =>
      obtain ⟨s, hload, -, hst⟩ := start_loadable h now hmode hj
      rw [hst, (Session.sound_of_load hload).2]
      exact .opened ⟨hmode, j, hj⟩ hload

/-- **The number of a session** is the next one of its host. -/
theorem start_eq_ok_iff (h : Host) (r : Request) (now : ℕ) :
    (h.start r now).result = .ok (some id) ↔ Opens r ∧ id = ⟨h.nextId⟩ := by
  have hs := started h r now
  generalize h.start r now = a at hs
  cases hs with
  | ran hmode _ hno =>
    refine iff_of_false (hno id) ?_
    rintro ⟨⟨hsimple, -⟩, -⟩
    rw [hmode] at hsimple
    cases hsimple
  | failed _ hf =>
    refine iff_of_false (by simp) ?_
    rintro ⟨⟨-, j, hj⟩, -⟩
    rw [hf] at hj
    cases hj
  | opened hopens _ => simp [Reaction.done, hopens, eq_comm]

/-! ## Numbers -/

/-- The operation is to open a session. -/
def Op.opens (op : Op) : Bool := op.request?.any (·.mode = .simple)

theorem nextId_perform (h : Host) (op : Op) :
    (h.perform op).state.nextId = h.nextId + [op].countP Op.opens := by
  cases hop : op.request? with
  | none =>
    have hcount : [op].countP Op.opens = 0 := by simp [Op.opens, hop]
    rw [hcount]
    cases hs : h.session with
    | none =>
      rw [(perform_of_none hs hop).2]
      rfl
    | some s => rcases perform_of_some hs hop with ⟨-, hst⟩ | ⟨sop, -, hst⟩ <;> rw [hst] <;> rfl
  | some r =>
    cases op with
    | start r now =>
      show (h.start r now).state.nextId = _
      have hs := started h r now
      generalize h.start r now = a at hs
      cases hs with
      | ran hmode hst _ => simp [hst, Op.opens, Op.request?, hmode]
      | failed hmode _ => simp [Op.opens, Op.request?, hmode]
      | opened hopens _ => simp [Reaction.done, Op.opens, Op.request?, hopens.1]
    | _ => cases hop

theorem nextId_after (h : Host) (ops : List Op) :
    (h.after ops).nextId = h.nextId + ops.countP Op.opens := by
  induction ops generalizing h with
  | nil => rfl
  | cons op ops ih =>
    rw [after, ih, nextId_perform, Nat.add_assoc, ← List.countP_append]
    rfl

/-- The number that a start has answered with, if any. -/
def number? (a : Reaction Host Refusal (Option SessionId)) : Option SessionId :=
  match a.result with
  | .ok id => id
  | .error _ => none

theorem number?_eq_some_iff {a : Reaction Host Refusal (Option SessionId)} :
    number? a = some id ↔ a.result = .ok (some id) := by
  unfold number?
  cases a.result <;> simp

/-- The numbers that the starts of a history have answered with, in order. -/
def issued (h : Host) : List Op → List SessionId
  | [] => []
  | .start r now :: ops =>
    (number? (h.start r now)).toList ++ (h.perform (.start r now)).state.issued ops
  | op :: ops => (h.perform op).state.issued ops

theorem le_of_mem_issued (hid : id ∈ h.issued ops) : h.nextId ≤ id.number := by
  induction ops generalizing h with
  | nil => cases hid
  | cons op ops ih =>
    have hlater : id ∈ (h.perform op).state.issued ops → h.nextId ≤ id.number := by
      intro hmem
      have hle := ih hmem
      rw [nextId_perform] at hle
      omega
    cases op with
    | start r now =>
      rcases List.mem_append.mp hid with hnow | hmem
      · rw [Option.mem_toList, number?_eq_some_iff, start_eq_ok_iff] at hnow
        exact Nat.le_of_eq (congrArg SessionId.number hnow.2).symm
      · exact hlater hmem
    | _ => exact hlater hid

/-- Numbers are handed out in ascending order. -/
theorem pairwise_issued (h : Host) (ops : List Op) :
    (h.issued ops).Pairwise fun a b => a.number < b.number := by
  induction ops generalizing h with
  | nil => exact .nil
  | cons op ops ih =>
    cases op with
    | start r now =>
      refine List.pairwise_append.mpr ⟨?_, ih _, ?_⟩
      · cases number? (h.start r now) <;> simp
      · intro a ha b hb
        rw [Option.mem_toList, number?_eq_some_iff, start_eq_ok_iff] at ha
        obtain ⟨hopens, rfl⟩ := ha
        -- what comes later has at least the number after this one
        have hle := le_of_mem_issued hb
        rw [nextId_perform, show [Op.start r now].countP Op.opens = 1 by
          simp [Op.opens, Op.request?, hopens.1]] at hle
        exact hle
    | _ => exact ih _

/-! ## The last start -/

/-- A history has no start, or a last one. -/
theorem exists_last_start (ops : List Op) :
    (∀ op ∈ ops, op.request? = none) ∨
    ∃ pre r now post, ops = pre ++ .start r now :: post ∧ ∀ op ∈ post, op.request? = none := by
  induction ops with
  | nil => exact .inl (by simp)
  | cons op ops ih =>
    rcases ih with hnone | ⟨pre, r, now, post, rfl, hpost⟩
    · cases hop : op.request? with
      | none =>
        left
        simpa [hop] using hnone
      | some r =>
        cases op with
        | start r now => exact .inr ⟨[], r, now, ops, rfl, hnone⟩
        | _ => cases hop
    · exact .inr ⟨op :: pre, r, now, post, rfl, hpost⟩

/-- After a start and what is no start, there is a session exactly if the start has opened it. -/
theorem after_start_cases (h : Host) (r : Request) (now : ℕ) (hpost : ∀ op ∈ post, op.request? = none) :
    (number? (h.start r now) = none ∧ (h.after (.start r now :: post)).session = none) ∨
    ∃ s sops, number? (h.start r now) = some s.id ∧
      Session.load s.id r.source h.settings.stepped r.eof r.input
        (Settings.tickInterval r.interval) = .ok s ∧
      (h.after (.start r now :: post)).session = some (s.after (.begin now :: sops)) := by
  have hs := started h r now
  have hnone : (h.start r now).state.session = none →
      (h.after (.start r now :: post)).session = none := by
    intro hnone
    have hquiet := log_of_none (h := (h.perform (.start r now)).state) hnone hpost
    rw [after, hquiet.2]
    exact hnone
  generalize ha : h.start r now = a at hs hnone
  cases hs with
  | ran _ hst hno =>
    left
    refine ⟨?_, hnone (by rw [hst])⟩
    rw [Option.eq_none_iff_forall_ne_some]
    intro id hid
    exact hno id (number?_eq_some_iff.mp hid)
  | failed _ _ => exact .inl ⟨rfl, hnone rfl⟩
  | @opened s _ hload =>
    right
    have hid := (Session.sound_of_load hload).2
    have hs : (h.perform (.start r now)).state.session = some (s.begin now).state :=
      congrArg (·.state.session) ha
    obtain ⟨sops, -, hafter⟩ := exists_schedule hs hpost
    refine ⟨s, sops, by rw [hid]; rfl, by rw [hid]; exact hload, ?_⟩
    rw [after, hafter]
    rfl

/-- Until the next start, the session has the number which the start has answered with. -/
theorem id_after_start (h : Host) (r : Request) (now : ℕ) (hpost : ∀ op ∈ post, op.request? = none) :
    (h.after (.start r now :: post)).session.map (·.id) = number? (h.start r now) := by
  rcases after_start_cases h r now hpost with ⟨hno, hnone⟩ | ⟨s, sops, hnumber, hload, hsession⟩
  · rw [hno, hnone]
    rfl
  · have hsame := (Session.sound_of_load hload).1.sameRun_after (.begin now :: sops)
    rw [hnumber, hsession, Option.map_some, hsame.id]

/-- **Where a session comes from**: it was loaded by a start, and has been worked on since. -/
theorem exists_origin (hs : (Host.after { settings } ops).session = some s) :
    ∃ (r : Request) (now : ℕ) (s₀ : Session) (sops : List Session.Op),
      Session.load s.id r.source settings.stepped r.eof r.input
        (Settings.tickInterval r.interval) = .ok s₀ ∧ s = s₀.after (.begin now :: sops) := by
  rcases exists_last_start ops with hnone | ⟨pre, r, now, post, rfl, hpost⟩
  · have hquiet := log_of_none (h := { settings }) rfl hnone
    rw [hquiet.2] at hs
    cases hs
  · rw [after_append] at hs
    rcases after_start_cases (Host.after { settings } pre) r now hpost with
      ⟨-, hnone⟩ | ⟨s₀, sops, -, hload, hsession⟩
    · rw [hnone] at hs
      cases hs
    · rw [hsession] at hs
      obtain rfl := Option.some.inj hs
      rw [settings_after] at hload
      have hid := ((Session.sound_of_load hload).1.sameRun_after (.begin now :: sops)).id
      exact ⟨r, now, s₀, sops, by rw [hid]; exact hload, rfl⟩

/-- Every session of a host is sound. -/
theorem sound_of_session (hs : (Host.after { settings } ops).session = some s) : s.Sound := by
  obtain ⟨r, now, s₀, sops, hload, rfl⟩ := exists_origin hs
  exact (Session.sound_of_load hload).1.after _

/-! ## Numbers that name no session -/

/-- The last start of a history has answered with the number. -/
def Latest (h : Host) (ops : List Op) (id : SessionId) : Prop :=
  ∃ pre r now post, ops = pre ++ .start r now :: post ∧ (∀ op ∈ post, op.request? = none) ∧
    ((h.after pre).start r now).result = .ok (some id)

theorem isSome_find?_iff : (h.find? id).isSome = true ↔ h.session.map (·.id) = some id := by
  unfold find?
  cases h.session <;> simp [Option.filter]

/-- **A host finds the session of its last start**, and no other. -/
theorem isSome_find?_iff_latest :
    ((Host.after { settings } ops).find? id).isSome = true ↔ Latest { settings } ops id := by
  rw [isSome_find?_iff]
  constructor
  · intro hid
    rcases exists_last_start ops with hnone | ⟨pre, r, now, post, rfl, hpost⟩
    · rw [(log_of_none (h := { settings }) rfl hnone).2] at hid
      cases hid
    · rw [after_append, id_after_start _ r now hpost] at hid
      exact ⟨pre, r, now, post, rfl, hpost, number?_eq_some_iff.mp hid⟩
  · rintro ⟨pre, r, now, post, rfl, hpost, hid⟩
    rw [after_append, id_after_start _ r now hpost]
    exact number?_eq_some_iff.mpr hid

/-- What is asked of a session that is not there is refused, whatever it is. -/
theorem onSession_of_none {α : Type} (hid : h.find? id = none)
    (op : Session → Reaction Session Refusal α) :
    h.onSession id op = .refused (.unknownSession id) h := by
  rw [onSession, hid]

end Tapewalk.Host

namespace Tapewalk

open Host in
/-- **Numbers of sessions are never used twice, and old ones do nothing.** Starts answer with
ascending numbers. After a history a start answers with a number exactly if it is for a session whose
program loads, and the number counts the starts for sessions up to this one, those that failed
included. A session is found by the number of the last start and by no other; whatever is asked of
any other number is refused, tells nothing and leaves the host as it was. -/
theorem handles_never_reused (settings : Settings) (ops : List Host.Op) (h : Host)
    (hh : h = Host.after { settings } ops) :
    (issued { settings } ops).Pairwise (fun a b => a.number < b.number) ∧
    (∀ r now id, (h.start r now).result = .ok (some id) ↔
      (r.mode = .simple ∧ ∃ j, Jumps.build (.ofString r.source) = .ok j) ∧
        id.number = ops.countP Op.opens + 1) ∧
    (∀ id, (h.find? id).isSome = true ↔ Latest { settings } ops id) ∧
    (∀ id, ¬ Latest { settings } ops id →
      h.stop id = .refused (.unknownSession id) h ∧
      (∀ interval now, h.restart id interval now = .refused (.unknownSession id) h) ∧
      h.step id = .refused (.unknownSession id) h) := by
  subst hh
  refine ⟨pairwise_issued _ ops, fun r now id => ?_, fun id => isSome_find?_iff_latest, fun id hid => ?_⟩
  · have hnext : (Host.after { settings } ops).nextId = ops.countP Op.opens + 1 := by
      rw [nextId_after, Nat.add_comm]
    rw [start_eq_ok_iff, hnext, Opens]
    obtain ⟨number⟩ := id
    rw [SessionId.mk.injEq]
  · have hnone : (Host.after { settings } ops).find? id = none := by
      rw [← Option.not_isSome_iff_eq_none, isSome_find?_iff_latest]
      exact hid
    exact ⟨onSession_of_none hnone _, fun _ _ => onSession_of_none hnone _, onSession_of_none hnone _⟩

open Host in
/-- The first session is discarded by a program that does not load, which uses up a number as well. -/
theorem handles_never_reused_after_failure : ∃ settings ops h,
    settings = { batch := ⟨2, .growable⟩, stepped := ⟨1, .fixed⟩, cycleLimit := 9 } ∧
    ops = [.start { mode := .simple, source := "+" } 0, .start { mode := .simple, source := "]" } 1,
      .start { mode := .disabled, source := "." } 2, .start { mode := .simple, source := "." } 3,
      .step ⟨1⟩, .tick 200] ∧
    h = Host.after { settings } ops ∧
    issued { settings } ops = [⟨1⟩, ⟨3⟩] ∧
    (h.start { mode := .simple, source := "-" } 300).result = .ok (some ⟨4⟩) ∧
    (h.find? ⟨3⟩).isSome = true ∧ h.step ⟨1⟩ = .refused (.unknownSession ⟨1⟩) h := by
  refine ⟨_, _, _, rfl, rfl, rfl, rfl, ?_⟩
  obtain ⟨-, hstart, hfind, hrefused⟩ := handles_never_reused
    { batch := ⟨2, .growable⟩, stepped := ⟨1, .fixed⟩, cycleLimit := 9 }
    [.start { mode := .simple, source := "+" } 0, .start { mode := .simple, source := "]" } 1,
      .start { mode := .disabled, source := "." } 2, .start { mode := .simple, source := "." } 3,
      .step ⟨1⟩, .tick 200] _ rfl
  refine ⟨(hstart _ _ _).mpr ⟨⟨rfl, _, rfl⟩, rfl⟩, (hfind _).mpr ?_, (hrefused _ ?_).2.2⟩
  · exact ⟨[_, _, _], _, _, [.step ⟨1⟩, .tick 200], rfl, by simp [Op.request?], rfl⟩
  · intro hlatest
    cases (hfind _).mpr hlatest

end Tapewalk
