import Tapewalk.Proofs.Ticking

/-!
# The limit of cycles

A batch run is granted a number of cycles, and a start tells nothing if that is not enough
(`Host.CutOff`). What a worker does should not depend on this number. Nor does it, as long as no
line starts a run that is cut off (`Worker.Returns`): a worker with any larger limit tells the same
(`Worker.log_granting`).
-/

namespace Tapewalk

/-! ## Hosts -/

namespace Host

variable {h : Host} {r : Request} {limit : ℕ}

/-- The host with another limit. -/
def granting (h : Host) (limit : ℕ) : Host :=
  { h with settings := { h.settings with cycleLimit := limit } }

theorem onSession_granting {α : Type} (h : Host) (limit : ℕ) (id : SessionId)
    (op : Session → Reaction Session Refusal α) :
    (h.granting limit).onSession id op = (h.onSession id op).within (·.granting limit) := by
  have hfind : (h.granting limit).find? id = h.find? id := rfl
  unfold onSession
  rw [hfind]
  cases h.find? id <;> rfl

theorem tick_granting (h : Host) (limit now : ℕ) :
    (h.granting limit).tick now = (h.tick now).within (·.granting limit) := by
  have hsession : (h.granting limit).session = h.session := rfl
  unfold tick
  rw [hsession]
  cases h.session <;> rfl

/-- A start is the same under a larger limit, unless it is cut off. -/
theorem start_granting (hr : r.mode = .disabled → ¬ CutOff h.settings r)
    (hle : h.settings.cycleLimit ≤ limit) (now : ℕ) :
    (h.granting limit).start r now = (h.start r now).within (·.granting limit) := by
  cases hmode : r.mode with
  | disabled =>
    have hrun : Batch.runSource r.source h.settings.batch r.eof r.input limit =
        Batch.runSource r.source h.settings.batch r.eof r.input h.settings.cycleLimit :=
      verdict_of_le (hr hmode) hle
    simp only [start, hmode, runBatch, granting, hrun]
    cases Batch.runSource r.source h.settings.batch r.eof r.input h.settings.cycleLimit <;> rfl
  | simple =>
    simp only [start, hmode, openSession, granting]
    cases Session.load ⟨h.nextId⟩ r.source h.settings.stepped r.eof r.input
        (Settings.tickInterval r.interval) with
    | error f => rfl
    | ok s =>
      dsimp only
      cases (s.begin now).result <;> rfl

end Host

/-! ## Workers -/

namespace Worker

variable {w : Worker} {text : String} {settings : Settings} {limit : ℕ} {op : Op} {ops : List Op}

/-- The worker with another limit. -/
def granting (w : Worker) (limit : ℕ) : Worker := { w with host := w.host.granting limit }

/-- The line starts no batch run that is cut off. -/
def Returns (settings : Settings) (text : String) : Prop :=
  ∀ r, Command.decode text = .ok (.start r) → r.mode = .disabled → ¬ Host.CutOff settings r

theorem returns_of_start {r : Request} (hd : Command.decode text = .ok (.start r))
    (hr : r.mode = .disabled → ¬ Host.CutOff settings r) : Returns settings text := by
  intro r' hd' hmode
  obtain rfl := Command.start.inj (Except.ok.inj (hd.symm.trans hd'))
  exact hr hmode

theorem returns_of_error {e : Refusal} (hd : Command.decode text = .error e) :
    Returns settings text := by
  intro r hd'
  rw [hd] at hd'
  cases hd'

theorem reporting_within (r : Reaction Worker Refusal Unit) (f : Worker → Worker) :
    reporting (r.within f) = (reporting r).within f := by
  obtain ⟨result, events, state⟩ := r
  cases result with
  | ok a => rfl
  | error e =>
    simp only [reporting, Reaction.within]
    split_ifs <;> rfl

theorem start_granting {r : Request} (hr : r.mode = .disabled → ¬ Host.CutOff w.host.settings r)
    (hle : w.host.settings.cycleLimit ≤ limit) (now : ℕ) :
    (w.granting limit).start r now = (w.start r now).within (·.granting limit) := by
  have hstart : (w.granting limit).host.start r now = _ := Host.start_granting hr hle now
  unfold start
  rw [hstart]
  dsimp only [Reaction.within]
  cases (w.host.start r now).result <;> rfl

theorem onCurrent_granting {α : Type} (w : Worker) (limit : ℕ)
    (op : Session → Reaction Session Refusal α) :
    (w.granting limit).onCurrent (fun id => (w.granting limit).host.onSession id op) =
      (w.onCurrent fun id => w.host.onSession id op).within (·.granting limit) := by
  have hcurrent : (w.granting limit).current = w.current := rfl
  have hop : ∀ id, (w.granting limit).host.onSession id op = _ :=
    fun id => Host.onSession_granting w.host limit id op
  simp only [onCurrent, hcurrent, hop]
  cases w.current <;> rfl

/-- **A line is the same under a larger limit**, unless it starts a run that is cut off. -/
theorem handleLine_granting (hreturns : Returns w.host.settings text)
    (hle : w.host.settings.cycleLimit ≤ limit) (now : ℕ) :
    (w.granting limit).handleLine text now =
      (w.handleLine text now).within (·.granting limit) := by
  unfold handleLine
  rw [← reporting_within]
  congr 1
  cases hd : Command.decode text with
  | error e => rfl
  | ok c =>
    cases c with
    | start r => exact start_granting (hreturns r hd) hle now
    | stop => exact onCurrent_granting w limit Session.stop
    | restart interval =>
      exact onCurrent_granting w limit fun s => s.restart (Settings.tickInterval interval) now
    | step => exact congrArg (Reaction.map fun _ => ()) (onCurrent_granting w limit Session.step)

theorem tick_granting (w : Worker) (limit now : ℕ) :
    (w.granting limit).tick now = ((w.tick now).1, (w.tick now).2.granting limit) := by
  have htick : (w.granting limit).host.tick now = _ := Host.tick_granting w.host limit now
  unfold tick
  rw [htick]
  rfl

theorem settings_after (w : Worker) (ops : List Op) :
    (w.after ops).host.settings = w.host.settings := by
  obtain ⟨hops, hhost⟩ := exists_host_after w ops
  rw [hhost, Host.settings_after]

theorem perform_granting (hreturns : ∀ text, op.text? = some text → Returns w.host.settings text)
    (hle : w.host.settings.cycleLimit ≤ limit) :
    (w.granting limit).perform op = ((w.perform op).1, (w.perform op).2.granting limit) := by
  cases op with
  | line text now =>
    simp only [perform, handleLine_granting (hreturns text rfl) hle]
    rfl
  | tick now => exact tick_granting w limit now

/-- **A history is the same under a larger limit**, unless it starts a run that is cut off. -/
theorem log_granting (hw : w.host.settings = settings) (hle : settings.cycleLimit ≤ limit)
    (hreturns : ∀ text ∈ ops.filterMap Op.text?, Returns settings text) :
    (w.granting limit).log ops = w.log ops ∧
    (w.granting limit).after ops = (w.after ops).granting limit := by
  induction ops generalizing w with
  | nil => exact ⟨rfl, rfl⟩
  | cons op ops ih =>
    have hfirst : ∀ text, op.text? = some text → Returns w.host.settings text := by
      intro text htext
      rw [hw]
      exact hreturns text (List.mem_filterMap.mpr ⟨op, List.mem_cons_self, htext⟩)
    have hrest : ∀ text ∈ ops.filterMap Op.text?, Returns settings text := by
      intro text htext
      obtain ⟨op', hmem, hsome⟩ := List.mem_filterMap.mp htext
      exact hreturns text (List.mem_filterMap.mpr ⟨op', List.mem_cons_of_mem op hmem, hsome⟩)
    have hnext : (w.perform op).2.host.settings = settings := (settings_after w [op]).trans hw
    obtain ⟨hlog, hafter⟩ := ih hnext hrest
    rw [log, log, after, after, perform_granting hfirst (hw ▸ hle), hlog, hafter]
    exact ⟨rfl, rfl⟩

end Worker

end Tapewalk
