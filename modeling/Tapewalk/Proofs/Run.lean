import Tapewalk.Batch
import Tapewalk.Proofs.Step

/-!
# Runs of many instructions

`Machine.after?` counts instructions, `Batch.run` grants them. The three verdicts of a batch run are
characterised by where `Machine.after?` leads, so a run that ends or fails does so under every
larger limit as well, and "for some limit" is what it means that a run ends or fails.
-/

namespace Tapewalk

namespace Machine

variable {p : Program} {j : Jumps} {m m' m'' : Machine} {d : Dialect} {k : ℕ}

/-- The machine after `k` instructions, none of them past the end and none of them failing. -/
def after? (p : Program) (j : Jumps) (d : Dialect) : ℕ → Machine → Option Machine
  | 0, m => some m
  | k + 1, m =>
    if m.halted p then none
    else match m.step p j d with
      | (.ok _, m) => after? p j d k m
      | (.error _, _) => none

@[simp] theorem after?_zero : m.after? p j d 0 = some m := rfl

theorem after?_succ {e : Effect} (hlive : m.halted p = false) (hs : m.step p j d = (.ok e, m')) :
    m.after? p j d (k + 1) = m'.after? p j d k := by
  simp [after?, hlive, hs]

theorem after?_succ_of_halted (h : m.halted p = true) : m.after? p j d (k + 1) = none := by
  simp [after?, h]

theorem after?_succ_of_error {f : Fault} (hf : (m.step p j d).1 = .error f) :
    m.after? p j d (k + 1) = none := by
  cases hs : m.step p j d with
  | mk r m₁ =>
    rw [hs] at hf
    obtain rfl : r = .error f := hf
    simp [after?, hs]

theorem after?_succ_eq_some_iff : m.after? p j d (k + 1) = some m'' ↔
    m.halted p = false ∧ ∃ e m', m.step p j d = (.ok e, m') ∧ m'.after? p j d k = some m'' := by
  cases hh : m.halted p with
  | true => simp [after?_succ_of_halted hh]
  | false =>
    cases hs : m.step p j d with
    | mk r m₁ =>
      cases r with
      | ok e => simp [after?_succ hh hs]
      | error f =>
        have hf : (m.step p j d).1 = .error f := by rw [hs]
        simp [after?_succ_of_error hf]

theorem after?_add (a b : ℕ) :
    m.after? p j d (a + b) = (m.after? p j d a).bind fun m' => m'.after? p j d b := by
  induction a generalizing m with
  | zero => simp
  | succ a ih =>
    rw [Nat.add_right_comm]
    cases hh : m.halted p with
    | true => simp [after?_succ_of_halted hh]
    | false =>
      cases hs : m.step p j d with
      | mk r m₁ =>
        cases r with
        | ok e => rw [after?_succ hh hs, after?_succ hh hs, ih]
        | error f =>
          have hf : (m.step p j d).1 = .error f := by rw [hs]
          simp [after?_succ_of_error hf]

/-- One more instruction at the end of a run. -/
theorem after?_snoc {e : Effect} (h : m.after? p j d k = some m') (hlive : m'.halted p = false)
    (hs : m'.step p j d = (.ok e, m'')) : m.after? p j d (k + 1) = some m'' := by
  rw [after?_add, h]
  exact after?_succ hlive hs

theorem after?_trans {a b : ℕ} (h : m.after? p j d a = some m') (h' : m'.after? p j d b = some m'') :
    m.after? p j d (a + b) = some m'' := by
  rw [after?_add, h]
  exact h'

theorem after?_sound (hj : Jumps.build p = .ok j) (hs : m.Sound p)
    (h : m.after? p j d k = some m') : m'.Sound p := by
  induction k generalizing m with
  | zero => obtain rfl := Option.some.inj h; exact hs
  | succ k ih =>
    obtain ⟨hlive, e, m₁, hstep, hrest⟩ := after?_succ_eq_some_iff.mp h
    have h₁ := hs.step hj hlive d
    rw [hstep] at h₁
    exact ih h₁ hrest

theorem cycles_after? (hj : Jumps.build p = .ok j) (hm : m.Sound p)
    (h : m.after? p j d k = some m') : m'.cycles = m.cycles + k := by
  induction k generalizing m with
  | zero =>
    obtain rfl := Option.some.inj h
    rfl
  | succ k ih =>
    obtain ⟨hlive, e, m₁, hs, hrest⟩ := after?_succ_eq_some_iff.mp h
    have hcycles := cycles_step hm.ptr_lt hs
    rw [ih (hm.of_step hj hlive hs) hrest]
    omega

/-- No instruction follows: the program is over, or its next instruction fails. -/
def Stopped (p : Program) (j : Jumps) (d : Dialect) (m : Machine) : Prop :=
  m.halted p = true ∨ ∃ f, (m.step p j d).1 = .error f

theorem Stopped.after?_succ (h : m.Stopped p j d) : m.after? p j d (k + 1) = none := by
  rcases h with hend | ⟨f, hf⟩
  · exact after?_succ_of_halted hend
  · exact after?_succ_of_error hf

/-- The run stops after exactly `n` instructions. -/
def StopsIn (p : Program) (j : Jumps) (d : Dialect) (n : ℕ) (m : Machine) : Prop :=
  ∃ m', m.after? p j d n = some m' ∧ m'.Stopped p j d

/-- What is left of a run that stops, from any machine on its way. -/
theorem StopsIn.rest {n : ℕ} (h : m.StopsIn p j d n) (hk : m.after? p j d k = some m') :
    ∃ n', n = k + n' ∧ m'.StopsIn p j d n' := by
  obtain ⟨m₁, h₁, hstop⟩ := h
  rcases Nat.lt_or_ge n k with hlt | hle
  · obtain ⟨c, rfl⟩ := Nat.exists_eq_add_of_lt hlt
    rw [Nat.add_assoc, after?_add, h₁] at hk
    have hnone : m₁.after? p j d (c + 1) = some m' := hk
    rw [hstop.after?_succ] at hnone
    cases hnone
  · obtain ⟨n', rfl⟩ := Nat.exists_eq_add_of_le hle
    rw [after?_add, hk] at h₁
    exact ⟨n', rfl, m₁, h₁, hstop⟩

/-- A run stops at one machine only. -/
theorem eq_of_stopped {a b : ℕ} (h : m.after? p j d a = some m') (hs : m'.Stopped p j d)
    (h' : m.after? p j d b = some m'') (hs' : m''.Stopped p j d) : m' = m'' := by
  obtain ⟨x, hx, -⟩ := StopsIn.rest ⟨m', h, hs⟩ h'
  obtain ⟨y, hy, -⟩ := StopsIn.rest ⟨m'', h', hs'⟩ h
  obtain rfl : a = b := by omega
  exact Option.some.inj (h.symm.trans h')

end Machine

/-! ## Batch runs -/

namespace Batch

open Machine

variable {p : Program} {j : Jumps} {m m' : Machine} {limit : ℕ} {f : Fault}

theorem run_of_halted (h : m.halted p = true) : run p j limit m = .finished m := by
  cases limit <;> simp [run, h]

theorem run_succ {e : Effect} (hlive : m.halted p = false)
    (hs : m.step p j .classic = (.ok e, m')) : run p j (limit + 1) m = run p j limit m' := by
  simp [run, hlive, hs]

theorem run_succ_error (hlive : m.halted p = false) (hf : (m.step p j .classic).1 = .error f) :
    run p j (limit + 1) m = .failed f := by
  cases hs : m.step p j .classic with
  | mk r m₁ =>
    rw [hs] at hf
    obtain rfl : r = .error f := hf
    simp [run, hlive, hs]

/-- A batch run goes where its instructions lead. -/
theorem run_add {k : ℕ} (h : m.after? p j .classic k = some m') :
    run p j (k + limit) m = run p j limit m' := by
  induction k generalizing m with
  | zero => obtain rfl := Option.some.inj h; rw [Nat.zero_add]
  | succ k ih =>
    obtain ⟨hlive, e, m₁, hs, hrest⟩ := after?_succ_eq_some_iff.mp h
    rw [Nat.add_right_comm, run_succ hlive hs, ih hrest]

theorem run_eq_finished_iff : run p j limit m = .finished m' ↔
    ∃ k ≤ limit, m.after? p j .classic k = some m' ∧ m'.halted p = true := by
  constructor
  · intro h
    induction limit generalizing m with
    | zero =>
      cases hh : m.halted p with
      | true =>
        rw [run_of_halted hh] at h
        obtain rfl := Verdict.finished.inj h
        exact ⟨0, le_rfl, rfl, hh⟩
      | false => simp [run, hh] at h
    | succ limit ih =>
      cases hh : m.halted p with
      | true =>
        rw [run_of_halted hh] at h
        obtain rfl := Verdict.finished.inj h
        exact ⟨0, Nat.zero_le _, rfl, hh⟩
      | false =>
        cases hs : m.step p j .classic with
        | mk r m₁ =>
          cases r with
          | ok e =>
            rw [run_succ hh hs] at h
            obtain ⟨k, hk, hafter, hend⟩ := ih h
            exact ⟨k + 1, by omega, by rw [after?_succ hh hs, hafter], hend⟩
          | error f => rw [run_succ_error hh (by rw [hs])] at h; cases h
  · rintro ⟨k, hk, hafter, hend⟩
    obtain ⟨c, rfl⟩ := Nat.exists_eq_add_of_le hk
    rw [run_add hafter, run_of_halted hend]

theorem run_eq_failed_iff : run p j limit m = .failed f ↔
    ∃ k < limit, ∃ m', m.after? p j .classic k = some m' ∧ m'.halted p = false ∧
      (m'.step p j .classic).1 = .error f := by
  constructor
  · intro h
    induction limit generalizing m with
    | zero => unfold run at h; split at h <;> cases h
    | succ limit ih =>
      cases hh : m.halted p with
      | true => rw [run_of_halted hh] at h; cases h
      | false =>
        cases hs : m.step p j .classic with
        | mk r m₁ =>
          cases r with
          | ok e =>
            rw [run_succ hh hs] at h
            obtain ⟨k, hk, m', hafter, hlive, hf⟩ := ih h
            exact ⟨k + 1, by omega, m', by rw [after?_succ hh hs, hafter], hlive, hf⟩
          | error g =>
            have hg : (m.step p j .classic).1 = .error g := by rw [hs]
            rw [run_succ_error hh hg] at h
            obtain rfl := Verdict.failed.inj h
            exact ⟨0, by omega, m, rfl, hh, hg⟩
  · rintro ⟨k, hk, m', hafter, hlive, hf⟩
    obtain ⟨c, rfl⟩ := Nat.exists_eq_add_of_lt hk
    rw [Nat.add_assoc, run_add hafter, run_succ_error hlive hf]

/-- Where exactly `limit` instructions lead, the run stands when the limit is used up. -/
theorem run_eq_of_after? (h : m.after? p j .classic limit = some m') :
    run p j limit m = if m'.halted p then .finished m' else .unfinished m' := by
  rw [← Nat.add_zero limit, run_add h]
  rfl

theorem run_eq_unfinished_iff : run p j limit m = .unfinished m' ↔
    m.after? p j .classic limit = some m' ∧ m'.halted p = false := by
  constructor
  · intro h
    induction limit generalizing m with
    | zero =>
      cases hh : m.halted p with
      | true => rw [run_of_halted hh] at h; cases h
      | false =>
        simp only [run, hh] at h
        obtain rfl := Verdict.unfinished.inj h
        exact ⟨rfl, hh⟩
    | succ limit ih =>
      cases hh : m.halted p with
      | true => rw [run_of_halted hh] at h; cases h
      | false =>
        cases hs : m.step p j .classic with
        | mk r m₁ =>
          cases r with
          | ok e =>
            rw [run_succ hh hs] at h
            rw [after?_succ hh hs]
            exact ih h
          | error f => rw [run_succ_error hh (by rw [hs])] at h; cases h
  · rintro ⟨hafter, hlive⟩
    rw [run_eq_of_after? hafter, if_neg (by simp [hlive])]

/-- A run that comes to its end or fails does so under every larger limit. -/
theorem run_of_le {limit' : ℕ} (h : ∀ m', run p j limit m ≠ .unfinished m') (hle : limit ≤ limit') :
    run p j limit' m = run p j limit m := by
  cases hrun : run p j limit m with
  | finished m' =>
    obtain ⟨k, hk, hend⟩ := run_eq_finished_iff.mp hrun
    exact run_eq_finished_iff.mpr ⟨k, hk.trans hle, hend⟩
  | failed f =>
    obtain ⟨k, hk, hfault⟩ := run_eq_failed_iff.mp hrun
    exact run_eq_failed_iff.mpr ⟨k, hk.trans_le hle, hfault⟩
  | unfinished m' => exact absurd hrun (h m')

/-! ## What a run hands back -/

/-- What a run that ends hands back. -/
structure Outcome where
  stdout : Array UInt8
  cycles : ℕ
  tape : Tape
  ptr : ℕ
  deriving DecidableEq, Repr

end Batch

/-- What is left of a machine when its run has ended. -/
def Machine.outcome (m : Machine) : Batch.Outcome := ⟨m.stdout, m.cycles, m.tape, m.ptr⟩

namespace Batch

open Machine

/-- Given enough cycles, the run ends and hands back `o`. -/
def Ends (run : ℕ → Verdict) (o : Outcome) : Prop :=
  ∃ limit m, run limit = .finished m ∧ m.outcome = o

/-- Given enough cycles, the run fails with `f`. -/
def Fails (run : ℕ → Verdict) (f : Fault) : Prop := ∃ limit, run limit = .failed f

variable {p : Program} {j : Jumps} {m : Machine} {o : Outcome} {f : Fault}

theorem ends_iff : Ends (fun limit => run p j limit m) o ↔
    ∃ k m', m.after? p j .classic k = some m' ∧ m'.halted p = true ∧ m'.outcome = o := by
  constructor
  · rintro ⟨limit, m', hrun, ho⟩
    obtain ⟨k, -, hafter, hend⟩ := run_eq_finished_iff.mp hrun
    exact ⟨k, m', hafter, hend, ho⟩
  · rintro ⟨k, m', hafter, hend, ho⟩
    exact ⟨k, m', run_eq_finished_iff.mpr ⟨k, le_rfl, hafter, hend⟩, ho⟩

theorem fails_iff : Fails (fun limit => run p j limit m) f ↔
    ∃ k m', m.after? p j .classic k = some m' ∧ m'.halted p = false ∧
      (m'.step p j .classic).1 = .error f := by
  constructor
  · rintro ⟨limit, hrun⟩
    obtain ⟨k, -, m', h⟩ := run_eq_failed_iff.mp hrun
    exact ⟨k, m', h⟩
  · rintro ⟨k, m', h⟩
    exact ⟨k + 1, run_eq_failed_iff.mpr ⟨k, Nat.lt_succ_self k, m', h⟩⟩

end Batch

end Tapewalk
