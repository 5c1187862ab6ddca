import Tapewalk.Proofs.Bound
import Tapewalk.Proofs.Segments

/-!
# The two modes of a host

A host runs a program at once or steps it in a session, and it may give the two modes tapes of
different lengths. On tapes that grow nobody notices. On fixed tapes the modes agree until the
pointer leaves the shorter one, which is that of the session: there the session fails, whatever the
batch run does (`Host.Concludes`, `Host.Reaches`).
-/

namespace Tapewalk

/-! ## Runs on two tapes -/

namespace Machine

variable {p : Program} {j : Jumps} {m m' : Machine} {d : Dialect} {f : Fault} {k a b : ℕ}
  {eof : UInt8} {input : Array UInt8}

/-- Machines that differ in the padding of their tapes fail for the same reason, unless the fixed
tape of the second one is the longer one. -/
theorem Alike.step_error (h : m.Alike m') (hm : m.Sound p) (hm' : m'.Sound p)
    (hj : Jumps.build p = .ok j) (hg : m'.growth = m.growth)
    (hle : m.growth = .fixed → m'.tape.length ≤ m.tape.length)
    (hf : (m.step p j d).1 = .error f) :
    ∃ f', (m'.step p j d).1 = .error f' ∧ f'.message = f.message := by
  rcases (hm.step_error_iff hj).mp hf with ⟨hc, hz, rfl⟩ | ⟨hc, hfixed, hend, rfl⟩
  · rw [h.pc] at hc
    rw [h.ptr] at hz
    exact ⟨_, (hm'.step_error_iff hj).mpr (.inl ⟨hc, hz, rfl⟩), rfl⟩
  · -- the pointer of both stands on the last cell, so both tapes end there
    have hlen : m'.tape.length = m.tape.length := by
      have hlt := hm'.ptr_lt
      have hle := hle hfixed
      rw [h.ptr] at hend
      omega
    rw [h.pc] at hc
    rw [h.ptr, ← hlen] at hend
    refine ⟨_, (hm'.step_error_iff hj).mpr (.inr ⟨hc, hg.trans hfixed, hend, rfl⟩), ?_⟩
    rw [hlen]

/-- Where the run of one twin has come, the run of the other one stands as well. -/
theorem Twins.exists_after? (h : Twins p m m') (hj : Jumps.build p = .ok j) {n : Machine}
    (hk : m.after? p j d k = some n) : ∃ n', m'.after? p j d k = some n' ∧ Twins p n n' := by
  have hrel := (h.after? hj d k).1
  rw [hk] at hrel
  cases hn : m'.after? p j d k with
  | none => rw [hn] at hrel; cases hrel
  | some n' =>
    rw [hn] at hrel
    cases hrel with
    | some htwins => exact ⟨n', rfl, htwins⟩

/-- What came earlier in a run has the shorter tape. -/
theorem length_le_of_le (hj : Jumps.build p = .ok j) (h : m.Sound p) {i : ℕ} {n : Machine}
    (hi : i ≤ k) (hn : m.after? p j d i = some n) (hk : m.after? p j d k = some m') :
    n.tape.length ≤ m'.tape.length := by
  obtain ⟨c, rfl⟩ := Nat.exists_eq_add_of_le hi
  rw [after?_add, hn] at hk
  exact length_le_after? hj (after?_sound hj h hn) hk

/-- **Where the run on a fixed tape has come, the run on a shorter one stands as well**, or the
pointer has left the shorter tape and the run on it has failed. -/
theorem after?_fixed_of_le (hj : Jumps.build p = .ok j) (hab : max 1 a ≤ max 1 b)
    (hm : (start ⟨b, .fixed⟩ eof input).after? p j d k = some m) :
    (∃ m', (start ⟨a, .fixed⟩ eof input).after? p j d k = some m' ∧ m.Alike m' ∧
      m.ptr < max 1 a ∧ m'.tape.length ≤ m.tape.length) ∨
    ((∃ i n, (start ⟨b, .fixed⟩ eof input).after? p j d i = some n ∧ max 1 a ≤ n.ptr) ∧
      ∃ i n, (start ⟨a, .fixed⟩ eof input).after? p j d i = some n ∧ n.halted p = false ∧
        (n.step p j d).1 = .error (.pastEnd (max 1 a) (max 1 a))) := by
  have ha := sound_start p ⟨a, .growable⟩ eof input
  have hb := sound_start p ⟨b, .growable⟩ eof input
  have htwins := twins_start p a b eof input
  obtain ⟨g, hg, hlen, rfl⟩ := (after?_fixed_iff hj hb rfl).mp hm
  obtain ⟨g', hg', hgg⟩ := (twins_start p b a eof input).exists_after? hj hg
  by_cases hsame : g'.tape.length = max 1 a
  · left
    have hlt := hgg.sound'.ptr_lt
    rw [hsame, ← hgg.ptr] at hlt
    refine ⟨_, (after?_fixed_iff hj ha rfl).mpr ⟨g', hg', hsame, rfl⟩, ?_, hlt, ?_⟩
    · exact { hgg.toAlike with }
    · exact hsame.le.trans (hab.trans hlen.ge)
  · right
    refine ⟨?_, fails_where_grown hj ha rfl hg' hsame⟩
    -- a pointer that stayed on the shorter tape would not have made it grow
    by_contra hno
    have hstay : ∀ i n, (start ⟨b, .fixed⟩ eof input).after? p j d i = some n →
        n.ptr < max 1 a := by
      intro i n hn
      by_contra hge
      exact hno ⟨i, n, hn, by omega⟩
    refine hsame (length_after?_of_ptr_lt hj ha rfl (fun i hi n hn => ?_) hg')
    obtain ⟨n', hn', hnn⟩ := htwins.exists_after? hj hn
    have hlen' : n'.tape.length = max 1 b :=
      le_antisymm ((length_le_of_le hj hb hi hn' hg).trans hlen.le) (length_le_after? hj hb hn')
    rw [hnn.ptr]
    exact hstay i (n'.withGrowth .fixed) ((after?_fixed_iff hj hb rfl).mpr ⟨n', hn', hlen', rfl⟩)

/-- The same for tapes of either growth; of two growable ones neither is ever left. -/
theorem after?_of_nested (hj : Jumps.build p = .ok j) {g : Growth}
    (hab : g = .fixed → max 1 a ≤ max 1 b)
    (hm : (start ⟨b, g⟩ eof input).after? p j d k = some m) :
    (∃ m', (start ⟨a, g⟩ eof input).after? p j d k = some m' ∧ m.Alike m' ∧
      (g = .fixed → m.ptr < max 1 a ∧ m'.tape.length ≤ m.tape.length)) ∨
    (g = .fixed ∧
      (∃ i n, (start ⟨b, g⟩ eof input).after? p j d i = some n ∧ max 1 a ≤ n.ptr) ∧
      ∃ i n, (start ⟨a, g⟩ eof input).after? p j d i = some n ∧ n.halted p = false ∧
        (n.step p j d).1 = .error (.pastEnd (max 1 a) (max 1 a))) := by
  cases g with
  | growable =>
    obtain ⟨m', hm', htwins⟩ := (twins_start p b a eof input).exists_after? hj hm
    exact .inl ⟨m', hm', htwins.toAlike, nofun⟩
  | fixed =>
    rcases after?_fixed_of_le hj (hab rfl) hm with ⟨m', hm', halike, hlt, hle⟩ | hleft
    · exact .inl ⟨m', hm', halike, fun _ => ⟨hlt, hle⟩⟩
    · exact .inr ⟨rfl, hleft⟩

end Machine

/-! ## Stepping on two tapes -/

namespace Stepper

open Machine

variable {p : Program} {j : Jumps} {g : Growth} {a b : ℕ} {eof : UInt8} {input : Array UInt8}
  {m : Machine} {f : Fault}

/-- A program that has been loaded onto a fresh tape. -/
def onTape (p : Program) (j : Jumps) (shape : Tape.Shape) (eof : UInt8) (input : Array UInt8) :
    Stepper := ⟨p, j, .start shape eof input, false⟩

/-- The run moves its pointer to the given cell or past it. -/
def Reaches (s : Stepper) (d : Dialect) (cell : ℕ) : Prop :=
  ∃ k m, s.machine.after? s.program s.jumps d k = some m ∧ cell ≤ m.ptr

theorem endsAt_of_nested (hj : Jumps.build p = .ok j) (hab : g = .fixed → max 1 a ≤ max 1 b)
    (hstay : g = .fixed → ¬ (onTape p j ⟨b, g⟩ eof input).Reaches .extended (max 1 a))
    (h : (onTape p j ⟨b, g⟩ eof input).EndsAt m) :
    ∃ m', (onTape p j ⟨a, g⟩ eof input).EndsAt m' ∧ m.Alike m' := by
  obtain ⟨k, hm, hend⟩ := h
  rcases after?_of_nested hj hab hm with ⟨m', hm', halike, -⟩ | ⟨hg, hleft, -⟩
  · exact ⟨m', ⟨k, hm', (halike.halted p).symm.trans hend⟩, halike⟩
  · exact absurd hleft (hstay hg)

theorem failsAt_of_nested (hj : Jumps.build p = .ok j) (hab : g = .fixed → max 1 a ≤ max 1 b)
    (hstay : g = .fixed → ¬ (onTape p j ⟨b, g⟩ eof input).Reaches .extended (max 1 a))
    (h : (onTape p j ⟨b, g⟩ eof input).FailsAt m f) :
    ∃ m' f', (onTape p j ⟨a, g⟩ eof input).FailsAt m' f' ∧ f'.message = f.message := by
  obtain ⟨k, hm, hlive, hf⟩ := h
  have hb := sound_start p ⟨b, g⟩ eof input
  have ha := sound_start p ⟨a, g⟩ eof input
  rcases after?_of_nested hj hab hm with ⟨m', hm', halike, hle⟩ | ⟨hg, hleft, -⟩
  · have hgrowth : m.growth = g := growth_after? hj hb hm
    have hgrowth' : m'.growth = g := growth_after? hj ha hm'
    obtain ⟨f', hf', hmessage⟩ := halike.step_error (after?_sound hj hb hm)
      (after?_sound hj ha hm') hj (hgrowth'.trans hgrowth.symm)
      (fun hfixed => (hle (hgrowth.symm.trans hfixed)).2) hf
    exact ⟨m', f', ⟨k, hm', (halike.halted p).symm.trans hlive, hf'⟩, hmessage⟩
  · exact absurd hleft (hstay hg)

/-- A run that reaches past the shorter tape fails on it. -/
theorem failsAt_of_reaches (hj : Jumps.build p = .ok j) (hab : max 1 a ≤ max 1 b)
    (h : (onTape p j ⟨b, .fixed⟩ eof input).Reaches .extended (max 1 a)) :
    ∃ m, (onTape p j ⟨a, .fixed⟩ eof input).FailsAt m (.pastEnd (max 1 a) (max 1 a)) := by
  obtain ⟨k, m, hm, hge⟩ := h
  rcases after?_of_nested hj (fun _ => hab) hm with ⟨m', -, -, hlt⟩ | ⟨-, -, i, n, hn, hlive, hf⟩
  · have := (hlt rfl).1
    omega
  · exact ⟨n, i, hn, hlive, hf⟩

/-- The pointer goes the same way in both dialects. -/
theorem reaches_classic_iff {s : Stepper} (h : s.Steady) {cell : ℕ} :
    s.Reaches .classic cell ↔ s.Reaches .extended cell := by
  constructor
  · rintro ⟨k, m', hm', hge⟩
    obtain ⟨m, hm, he⟩ := (exists_after?_muted h.jumps h.sound).2 m' hm'
    exact ⟨k, m, hm, by rwa [ptr_of_muted he]⟩
  · rintro ⟨k, m, hm, hge⟩
    obtain ⟨m', hm', he⟩ := (exists_after?_muted h.jumps h.sound).1 m hm
    exact ⟨k, m', hm', by rwa [← ptr_of_muted he]⟩

end Stepper

/-! ## Steps by hand -/

namespace Session

open Stepper (ending)

variable {s : Session} {m : Machine} {f : Fault} {k : ℕ}

/-- As long as instructions succeed, each step by hand executes one and the session goes on. -/
theorem after_steps (hl : s.stepper.Loaded) (hlive : s.status.isTerminal = false)
    (hk : s.machine.after? s.stepper.program s.stepper.jumps .extended k = some m) :
    (s.after (.replicate k .step)).stepper = { s.stepper with machine := m } ∧
      (s.after (.replicate k .step)).status.isTerminal = false := by
  induction k generalizing s with
  | zero => obtain rfl := Option.some.inj hk; exact ⟨rfl, hlive⟩
  | succ k ih =>
    obtain ⟨hh, e, m₁, hs, hrest⟩ := Machine.after?_succ_eq_some_iff.mp hk
    have hstep := Stepper.step_of_ok (s := s.stepper) hl.fresh hh hs
    have hd : s.Driven (s.perform .step) := driven_step hlive _ fun _ => rfl
    have hstepper : (s.perform .step).state.stepper = { s.stepper with machine := m₁ } := by
      rw [hd.stepper, hstep]
    have hnext : (s.perform .step).state.status.isTerminal = false := by
      rw [hd.terminal, hstep]
      cases e <;> rfl
    have hsteady := hl.toSteady.step
    rw [hstep] at hsteady
    have hl' : (s.perform .step).state.stepper.Loaded := hstepper ▸ ⟨hsteady, hl.fresh⟩
    have hrun := ih hl' hnext (by rw [machine, hstepper]; exact hrest)
    rwa [hstepper] at hrun

/-- One more step by hand after `k` instructions tells what the stepper does then. -/
theorem log_steps_succ (hl : s.stepper.Loaded) (hlive : s.status.isTerminal = false)
    (hk : s.machine.after? s.stepper.program s.stepper.jumps .extended k = some m) :
    s.log (.replicate (k + 1) .step) =
      s.log (.replicate k .step) ++ report (Stepper.step { s.stepper with machine := m }) := by
  obtain ⟨hstepper, hgoing⟩ := after_steps hl hlive hk
  have hd : Driven _ ((s.after (.replicate k .step)).perform .step) :=
    driven_step hgoing _ fun _ => rfl
  have hone : (s.after (.replicate k .step)).log [.step] =
      report (s.after (.replicate k .step)).stepper.step ++ [] := log_cons_of_driven hd
  rw [List.replicate_succ', log_append, hone, List.append_nil, hstepper]

theorem log_steps_of_endsAt (hl : s.stepper.Loaded) (hlive : s.status.isTerminal = false)
    (h : s.stepper.EndsAt m) : ∃ n, (s.log (.replicate n .step)).getLast? = some (ending m) := by
  obtain ⟨k, hk, hh⟩ := h
  have hstep := Stepper.step_of_halted (s := { s.stepper with machine := m }) hl.fresh hh
  refine ⟨k + 1, ?_⟩
  rw [log_steps_succ hl hlive hk, hstep]
  exact List.getLast?_concat

theorem log_steps_of_failsAt (hl : s.stepper.Loaded) (hlive : s.status.isTerminal = false)
    (h : s.stepper.FailsAt m f) :
    ∃ n, (s.log (.replicate n .step)).getLast? = some (.error f.message) := by
  obtain ⟨k, hk, hh, hf⟩ := h
  have hlt := (hl.steady_of_after? hk).sound.ptr_lt
  have hstep := Stepper.step_of_error (s := { s.stepper with machine := m }) hl.fresh hh hlt hf
  refine ⟨k + 1, ?_⟩
  rw [log_steps_succ hl hlive hk, hstep]
  simp [report]

end Session

namespace Host

open Stepper (ending)

variable {h : Host} {s : Session} {r : Request} {now : ℕ} {e e' : Event} {m : Machine} {f : Fault}
  {j : Jumps}

/-- The request is started to be stepped, and is stepped by hand. -/
def byHand (h : Host) (r : Request) (now steps : ℕ) : List Op :=
  .start { r with mode := .simple } now :: .replicate steps (.step ⟨h.nextId⟩)

/-- The session of the request, stepped by hand often enough, ends and tells `e` last. -/
def Concludes (h : Host) (r : Request) (now : ℕ) (e : Event) : Prop :=
  e.isTerminal = true ∧ ∃ n, (h.log (h.byHand r now n)).getLast? = some e

/-- Steps by hand are those of the current session. -/
theorem log_steps (hs : h.session = some s) (hsound : s.Sound) (n : ℕ) :
    h.log (.replicate n (.step s.id)) = s.log (.replicate n .step) := by
  induction n generalizing h s with
  | zero => rfl
  | succ n ih =>
    have hperform : h.perform (.step s.id) = _ :=
      congrArg (Reaction.map fun p => Answer.session (.progressed p))
        (onSession_current hs Session.step)
    have hid : (s.perform .step).state.id = s.id := (hsound.turn .step).sameRun.id
    have hrest := ih (h := (h.perform (.step s.id)).state) (s := (s.perform .step).state)
      (by rw [hperform]; rfl) (hsound.of_turn (hsound.turn .step))
    rw [hid] at hrest
    rw [List.replicate_succ, List.replicate_succ, log, hrest, hperform]
    rfl

/-- A request that loads concludes as its session does. -/
theorem log_byHand (h : Host) (now : ℕ) (hj : Jumps.build (.ofString r.source) = .ok j) :
    ∃ s : Session, s.status.isTerminal = false ∧ s.Sound ∧
      s.stepper = .onTape (.ofString r.source) j h.settings.stepped r.eof r.input ∧
      ∀ n, h.log (h.byHand r now n) = s.log (.replicate n .step) := by
  obtain ⟨s, hload, hstepper, hst⟩ :=
    start_loadable (r := { r with mode := .simple }) h now rfl hj
  obtain ⟨hsound, hid⟩ := Session.sound_of_load hload
  have hbegun := hsound.of_turn (hsound.turn (.begin now))
  have hidle := Session.idle_begin s now
  refine ⟨(s.perform (.begin now)).state, ?_, hbegun, hidle.stepper.trans hstepper, fun n => ?_⟩
  · obtain ⟨st, -, rfl⟩ := Session.load_ok hload
    rfl
  · have hperform : h.perform (.start { r with mode := .simple } now) = _ :=
      congrArg (Reaction.map Answer.started) hst
    have hsame : (s.perform (.begin now)).state.id = ⟨h.nextId⟩ :=
      (hsound.turn (.begin now)).sameRun.id.trans hid
    rw [byHand, log, hperform, ← hsame]
    exact log_steps rfl hbegun n

theorem concludes_of_endsAt (h : Host) (now : ℕ) (hj : Jumps.build (.ofString r.source) = .ok j)
    (hend : (Stepper.onTape (.ofString r.source) j h.settings.stepped r.eof r.input).EndsAt m) :
    h.Concludes r now (ending m) := by
  obtain ⟨s, hlive, hsound, hstepper, hlog⟩ := log_byHand h now hj
  have hl : s.stepper.Loaded := ⟨hsound.steady, by rw [hstepper]; rfl⟩
  obtain ⟨n, hn⟩ := Session.log_steps_of_endsAt hl hlive (hstepper ▸ hend)
  exact ⟨rfl, n, by rw [hlog, hn]⟩

theorem concludes_of_failsAt (h : Host) (now : ℕ) (hj : Jumps.build (.ofString r.source) = .ok j)
    (hfail : (Stepper.onTape (.ofString r.source) j h.settings.stepped r.eof r.input).FailsAt m f) :
    h.Concludes r now (.error f.message) := by
  obtain ⟨s, hlive, hsound, hstepper, hlog⟩ := log_byHand h now hj
  have hl : s.stepper.Loaded := ⟨hsound.steady, by rw [hstepper]; rfl⟩
  obtain ⟨n, hn⟩ := Session.log_steps_of_failsAt hl hlive (hstepper ▸ hfail)
  exact ⟨rfl, n, by rw [hlog, hn]⟩

theorem concludes_of_unloadable (h : Host) (now : ℕ)
    (hf : Jumps.build (.ofString r.source) = .error f) : h.Concludes r now (.error f.message) := by
  have hst := start_unloadable (r := { r with mode := .simple }) h now rfl hf
  refine ⟨rfl, 0, ?_⟩
  have hperform : h.perform (.start { r with mode := .simple } now) = _ :=
    congrArg (Reaction.map Answer.started) hst
  rw [byHand, log, hperform]
  rfl

theorem log_append (h : Host) (ops ops' : List Op) :
    h.log (ops ++ ops') = h.log ops ++ (h.after ops).log ops' := by
  induction ops generalizing h with
  | nil => rfl
  | cons op ops ih => simp [log, after, ih]

/-- Nothing follows the event that ends a session stepped by hand. -/
theorem eq_nil_of_byHand {n : ℕ} {pre post : List Event}
    (hlog : h.log (h.byHand r now n) = pre ++ e :: post) (he : e.isTerminal = true) :
    post = [] := by
  have hrest : ∀ op ∈ List.replicate n (Op.step ⟨h.nextId⟩), op.request? = none := by
    intro op hop
    rw [List.eq_of_mem_replicate hop]
    rfl
  cases hj : Jumps.build (.ofString r.source) with
  | ok j =>
    obtain ⟨s, -, -, -, hc⟩ := chronicle_segment (r := { r with mode := .simple }) rfl hj hrest
    exact hc.last pre e post hlog he
  | error f =>
    obtain ⟨-, hev⟩ := segment_unloadable (r := { r with mode := .simple }) rfl hj hrest
    have hone : [.error f.message] = pre ++ e :: post := hev.symm.trans hlog
    cases pre with
    | nil => simpa using (List.cons.inj hone).2.symm
    | cons x pre => simp at hone

/-- A session concludes in one way only. -/
theorem Concludes.unique (he : h.Concludes r now e) (he' : h.Concludes r now e') : e = e' := by
  have hearlier : ∀ {e e' a b}, e.isTerminal = true → a ≤ b →
      (h.log (h.byHand r now a)).getLast? = some e →
      (h.log (h.byHand r now b)).getLast? = some e' → e = e' := by
    intro e e' a b he hab ha hb
    obtain ⟨c, rfl⟩ := Nat.exists_eq_add_of_le hab
    have hsplit : h.byHand r now (a + c) = h.byHand r now a ++ .replicate c (.step ⟨h.nextId⟩) := by
      rw [byHand, List.replicate_add]
      rfl
    obtain ⟨pre, hpre⟩ := List.getLast?_eq_some_iff.mp ha
    have hlog : h.log (h.byHand r now (a + c)) =
        pre ++ e :: (h.after (h.byHand r now a)).log (.replicate c (.step ⟨h.nextId⟩)) := by
      rw [hsplit, log_append, hpre, List.append_assoc]
      rfl
    have hnil := eq_nil_of_byHand hlog he
    rw [hlog, hnil, List.getLast?_concat] at hb
    exact Option.some.inj hb
  obtain ⟨ht, n, hn⟩ := he
  obtain ⟨ht', n', hn'⟩ := he'
  rcases Nat.le_total n n' with hle | hle
  · exact hearlier ht hle hn hn'
  · exact (hearlier ht' hle hn' hn).symm

/-! ## Agreement -/

/-- The batch run of the request moves its pointer to the given cell or past it. -/
def Reaches (settings : Settings) (r : Request) (cell : ℕ) : Prop :=
  ∃ j, Jumps.build (.ofString r.source) = .ok j ∧
    (Stepper.onTape (.ofString r.source) j settings.batch r.eof r.input).Reaches .classic cell

/-- Both modes have the same growth, and a fixed tape of the session is not the longer one. -/
structure Nested (settings : Settings) : Prop where
  growth : settings.batch.growth = settings.stepped.growth
  length : settings.batch.growth = .fixed →
    max 1 settings.stepped.length ≤ max 1 settings.batch.length

variable {settings : Settings} {mb : Machine}

theorem Nested.stepped_eq (hn : Nested settings) :
    settings.stepped = ⟨settings.stepped.length, settings.batch.growth⟩ := by
  rw [hn.growth]

/-- The run of a request that stays on the session's tape does so in both dialects. -/
theorem not_reaches_extended (hj : Jumps.build (.ofString r.source) = .ok j) {cell : ℕ}
    (h : ¬ Reaches settings r cell) :
    ¬ (Stepper.onTape (.ofString r.source) j settings.batch r.eof r.input).Reaches .extended cell :=
  fun hreach =>
    h ⟨j, hj, (Stepper.reaches_classic_iff ⟨hj, Machine.sound_start _ _ _ _⟩).mpr hreach⟩

/-- A batch run that ends is told by the session as well, with the same cycles and output. -/
theorem concludes_of_finished (hn : Nested h.settings)
    (hstay : h.settings.batch.growth = .fixed →
      ¬ Reaches h.settings r (max 1 h.settings.stepped.length))
    (hv : verdict h.settings r = .finished mb) (now : ℕ) :
    ∃ err, h.Concludes r now (.finished mb.cycles mb.stdout err) := by
  cases hj : Jumps.build (.ofString r.source) with
  | error f =>
    simp only [verdict, Batch.runSource, hj] at hv
    cases hv
  | ok j =>
    have hload : Stepper.load r.source h.settings.batch r.eof r.input = .ok (.onTape _ j _ _ _) :=
      Stepper.load_of_build hj
    obtain ⟨m, hend, hout⟩ := (Batch.ends_runSource_iff hload).mp ⟨_, mb, hv, rfl⟩
    obtain ⟨m', hend', halike⟩ := Stepper.endsAt_of_nested hj hn.length
      (fun hg => not_reaches_extended hj (hstay hg)) hend
    rw [← hn.stepped_eq] at hend'
    have hcycles : mb.cycles = m'.cycles := (congrArg (·.cycles) hout).symm.trans halike.cycles
    have hstdout : mb.stdout = m'.stdout := (congrArg (·.stdout) hout).symm.trans halike.stdout
    rw [hcycles, hstdout]
    exact ⟨m'.stderr, concludes_of_endsAt h now hj hend'⟩

/-- A batch run that fails is told by the session as well, with the same message. -/
theorem concludes_of_failed (hn : Nested h.settings)
    (hstay : h.settings.batch.growth = .fixed →
      ¬ Reaches h.settings r (max 1 h.settings.stepped.length))
    (hv : verdict h.settings r = .failed f) (now : ℕ) : h.Concludes r now (.error f.message) := by
  cases hj : Jumps.build (.ofString r.source) with
  | error f' =>
    simp only [verdict, Batch.runSource, hj] at hv
    obtain rfl := Batch.Verdict.failed.inj hv
    exact concludes_of_unloadable h now hj
  | ok j =>
    have hload : Stepper.load r.source h.settings.batch r.eof r.input = .ok (.onTape _ j _ _ _) :=
      Stepper.load_of_build hj
    obtain ⟨m, hfail⟩ := (Batch.fails_runSource_iff hload).mp ⟨_, hv⟩
    obtain ⟨m', f', hfail', hmessage⟩ := Stepper.failsAt_of_nested hj hn.length
      (fun hg => not_reaches_extended hj (hstay hg)) hfail
    rw [← hn.stepped_eq] at hfail'
    rw [← hmessage]
    exact concludes_of_failsAt h now hj hfail'

/-- The pointer never leaves a fixed tape. -/
theorem not_reaches_end (hg : settings.batch.growth = .fixed) :
    ¬ Reaches settings r (max 1 settings.batch.length) := by
  rintro ⟨j, hj, k, m, hm, hge⟩
  have hbatch : settings.batch = ⟨settings.batch.length, .fixed⟩ := by rw [← hg]
  rw [hbatch] at hm
  obtain ⟨m', hm', hlen, rfl⟩ :=
    (Machine.after?_fixed_iff hj (Machine.sound_start _ ⟨settings.batch.length, .growable⟩ _ _)
      rfl).mp hm
  have hlt := (Machine.after?_sound hj (Machine.sound_start _ _ _ _) hm').ptr_lt
  rw [hlen] at hlt
  exact absurd hge (Nat.not_le.mpr hlt)

/-- A session fails at the end of its fixed tape if the batch run goes on past it. -/
theorem concludes_of_reaches (hn : Nested h.settings) (hg : h.settings.batch.growth = .fixed)
    (hreach : Reaches h.settings r (max 1 h.settings.stepped.length)) (now : ℕ) :
    h.Concludes r now (.error (Fault.pastEnd (max 1 h.settings.stepped.length)
      (max 1 h.settings.stepped.length)).message) := by
  obtain ⟨j, hj, hreach⟩ := hreach
  rw [Stepper.reaches_classic_iff ⟨hj, Machine.sound_start _ _ _ _⟩] at hreach
  have hbatch : h.settings.batch = ⟨h.settings.batch.length, .fixed⟩ := by rw [← hg]
  rw [hbatch] at hreach
  obtain ⟨m, hfail⟩ := Stepper.failsAt_of_reaches hj (hn.length hg) hreach
  rw [← hg, ← hn.stepped_eq] at hfail
  exact concludes_of_failsAt h now hj hfail

end Host

/-! ## A walk along the tape -/

namespace Machine

variable {d : Dialect} {g : Growth} {n k b : ℕ}

/-- The program that moves up `n` times. -/
def walk (n : ℕ) : Program := ⟨Array.replicate n '>'⟩

theorem build_walk (n : ℕ) : ∃ j, Jumps.build (walk n) = .ok j := by
  have hcount : ∀ u, u <+: List.replicate n '>' → ∀ c ≠ '>', u.count c = 0 := by
    intro u hu c hc
    refine List.count_eq_zero.mpr fun hmem => hc ?_
    exact List.eq_of_mem_replicate (hu.mem hmem)
  have hp : Balanced (walk n).chars.toList := by
    rw [walk, Array.toList_replicate]
    refine ⟨fun u hu => ?_, ?_⟩
    · rw [hcount u hu ']' (by decide)]
      exact Nat.zero_le _
    · rw [hcount _ List.prefix_rfl '[' (by decide), hcount _ List.prefix_rfl ']' (by decide)]
  obtain ⟨t, ht⟩ := exists_tree_of_balanced hp
  exact ⟨_, Jumps.build_eq_ok_iff.mpr ⟨t, ht, rfl⟩⟩

/-- On a tape that is long enough each move goes one cell up. -/
theorem after?_walk (j : Jumps) (eof : UInt8) (input : Array UInt8) (hk : k ≤ n) (hb : k < b) :
    (start ⟨b, g⟩ eof input).after? (walk n) j d k =
      some { start ⟨b, g⟩ eof input with pc := k, ptr := k, cycles := k } := by
  induction k with
  | zero => rfl
  | succ k ih =>
    have hchar : (walk n).char? k = some '>' := by
      simp only [walk, Program.char?, Array.getElem?_replicate]
      exact if_pos hk
    let m : Machine := { start ⟨b, g⟩ eof input with pc := k, ptr := k, cycles := k }
    have hlive : m.halted (walk n) = false := by
      simp only [halted, walk, Program.size, Array.size_replicate, decide_eq_false_iff_not]
      exact Nat.not_le.mpr hk
    have hlen : k + 1 < m.tape.length := by
      show k + 1 < max 1 b
      omega
    have hact : m.act j (m.current (walk n) d) = (.ok .none, { m with ptr := k + 1 }) := by
      rw [current_of_char (m := m) hchar]
      exact moveRight_of_lt hlen
    exact after?_snoc (ih (by omega) (by omega)) hlive (step_ok (Nat.lt_of_succ_lt hlen) hact)

end Machine

namespace Host

variable {settings : Settings} {n : ℕ}

/-- A request to move up `n` cells. -/
def walking (n : ℕ) : Request := { mode := .simple, source := .ofList (.replicate n '>') }

theorem ofString_walking (n : ℕ) : Program.ofString (walking n).source = Machine.walk n := by
  simp [walking, Program.ofString, Machine.walk, String.toList_ofList, List.toArray_replicate]

theorem reaches_walking (hn : n < settings.batch.length) : Reaches settings (walking n) n := by
  obtain ⟨j, hj⟩ := Machine.build_walk n
  rw [Reaches, ofString_walking]
  exact ⟨j, hj, n, _, Machine.after?_walk j _ _ le_rfl hn, le_rfl⟩

/-- A walk that stays on the batch tape ends after `n` cycles. -/
theorem verdict_walking (hn : n < settings.batch.length) (hlimit : n ≤ settings.cycleLimit) :
    verdictEvents (verdict settings (walking n)) = [.finished n #[] #[]] := by
  obtain ⟨j, hj⟩ := Machine.build_walk n
  have hend := Batch.run_eq_finished_iff.mpr ⟨n, hlimit,
    Machine.after?_walk (g := settings.batch.growth) j (walking n).eof (walking n).input le_rfl hn,
    by simp [Machine.halted, Machine.walk, Program.size]⟩
  simp only [verdict, Batch.runSource, ofString_walking, hj]
  exact congrArg verdictEvents hend

end Host

namespace Settings

/-- The settings of a host that was given a growth and perhaps a length. -/
def chosen (g : Growth) : Option ℕ → Settings
  | none => .withGrowth g
  | some n => (Settings.withGrowth g).withLength n

theorem nested_chosen (g : Growth) (length : Option ℕ) (limit : ℕ) :
    Host.Nested { chosen g length with cycleLimit := limit } := by
  cases length with
  | none => exact ⟨rfl, fun _ => by simp [chosen, withGrowth]⟩
  | some n => exact ⟨rfl, fun _ => le_rfl⟩

end Settings

open Host in
/-- **Both modes agree as long as the session stays on its tape.** Whatever a batch run tells of a
request, its end or a fault, a session of the same request on a host with the same settings comes to
tell as well, with the same cycles and output or the same message, if tapes grow, if the host was
given a length, or if the batch run stays on the first 1024 cells. Otherwise the session fails at
the end of its own tape. -/
theorem modes_agree_on_session_tape (g : Growth) (length : Option ℕ) (limit : ℕ) (h h' : Host)
    (hs : h.settings = { Settings.chosen g length with cycleLimit := limit })
    (hs' : h'.settings = h.settings) (r : Request) (now now' : ℕ) :
    (g = .growable ∨ length ≠ none ∨ ¬ Reaches h.settings r 1024 →
      (∀ cycles out err,
        .finished cycles out err ∈ (h.start { r with mode := .disabled } now).events →
          ∃ err', h'.Concludes r now' (.finished cycles out err')) ∧
      (∀ message, .error message ∈ (h.start { r with mode := .disabled } now).events →
        h'.Concludes r now' (.error message))) ∧
    (g = .fixed → length = none → Reaches h.settings r 1024 →
      h'.Concludes r now' (.error (Fault.outOfRange 1024 1024).message)) := by
  obtain ⟨-, hev, -⟩ := start_disabled (r := { r with mode := .disabled }) h now rfl
  have hverdict : verdict h.settings { r with mode := .disabled } = verdict h'.settings r := by
    rw [hs']
    rfl
  have hn : Nested h'.settings := by
    rw [hs', hs]
    exact Settings.nested_chosen g length limit
  rw [hev, hverdict, ← hs']
  rw [← hs'] at hs
  refine ⟨fun hcase => ?_, fun hg hnone hreach => ?_⟩
  · have hstay : h'.settings.batch.growth = .fixed →
        ¬ Reaches h'.settings r (max 1 h'.settings.stepped.length) := by
      intro hfixed
      cases length with
      | some n =>
        -- both modes have the same tape, and nothing leads past its end
        have hlen : h'.settings.stepped.length = h'.settings.batch.length := by rw [hs]; rfl
        rw [hlen]
        exact not_reaches_end hfixed
      | none =>
        have hg : g ≠ .growable := by
          rintro rfl
          rw [hs] at hfixed
          cases hfixed
        have hlen : max 1 h'.settings.stepped.length = 1024 := by rw [hs]; rfl
        rw [hlen]
        exact (hcase.resolve_left hg).resolve_left fun hne => hne rfl
    refine ⟨fun cycles out err hmem => ?_, fun message hmem => ?_⟩
    · cases hv : verdict h'.settings r with
      | finished m =>
        rw [hv] at hmem
        obtain ⟨rfl, rfl, -⟩ := Event.finished.inj (List.mem_singleton.mp hmem)
        exact concludes_of_finished hn hstay hv now'
      | failed f => rw [hv] at hmem; cases List.mem_singleton.mp hmem
      | unfinished m => rw [hv] at hmem; cases hmem
    · cases hv : verdict h'.settings r with
      | finished m => rw [hv] at hmem; cases List.mem_singleton.mp hmem
      | failed f =>
        rw [hv] at hmem
        obtain rfl := Event.error.inj (List.mem_singleton.mp hmem)
        exact concludes_of_failed hn hstay hv now'
      | unfinished m => rw [hv] at hmem; cases hmem
  · subst hg hnone
    have hlen : max 1 h'.settings.stepped.length = 1024 := by rw [hs]; rfl
    have hc := concludes_of_reaches (r := r) hn (by rw [hs]; rfl) (by rw [hlen]; exact hreach) now'
    rw [hlen] at hc
    exact hc

open Host in
/-- On two cells a loop ends and a walk fails in both modes; a walk to cell 1024 of tapes whose
length was left open fails in the session. -/
theorem modes_agree_on_session_tape_of_two_cells :
    let h : Host := { settings := { Settings.chosen .fixed (some 2) with cycleLimit := 20 } }
    let long : Host := { settings := { Settings.chosen .fixed none with cycleLimit := 20 } }
    (∃ err, h.Concludes { mode := .simple, source := "++[>+.<-]" } 7 (.finished 15 #[1, 2] err)) ∧
      h.Concludes { mode := .simple, source := "+>>" } 7 (.error (Fault.outOfRange 2 2).message) ∧
      h.Concludes { mode := .simple, source := "[" } 7 (.error (Fault.unmatchedBracket 0).message) ∧
      long.Concludes (walking 1024) 7 (.error (Fault.outOfRange 1024 1024).message) := by
  intro h long
  have hagree := fun r =>
    (modes_agree_on_session_tape .fixed (some 2) 20 h h rfl rfl r 0 7).1 (.inr (.inl nofun))
  refine ⟨(hagree _).1 15 #[1, 2] #[] (by decide), (hagree _).2 _ (by decide),
    (hagree _).2 _ (by decide), ?_⟩
  exact (modes_agree_on_session_tape .fixed none 20 long long rfl rfl _ 0 7).2 rfl rfl
    (reaches_walking (by decide))

open Host in
/-- A walk to cell 1024 of fixed tapes ends in the batch run and fails in the session. -/
theorem modes_disagree_past_session_tape :
    let h : Host := { settings := .withGrowth .fixed }
    (h.start { walking 1024 with mode := .disabled } 0).events = [.finished 1024 #[] #[]] ∧
      h.Concludes (walking 1024) 0 (.error (Fault.outOfRange 1024 1024).message) ∧
      ∀ cycles out err, ¬ h.Concludes (walking 1024) 0 (.finished cycles out err) := by
  intro h
  have hlen : 1024 < h.settings.batch.length := by decide
  have hmax : max 1 h.settings.stepped.length = 1024 := rfl
  have hfail : h.Concludes (walking 1024) 0 (.error (Fault.outOfRange 1024 1024).message) := by
    have hc := concludes_of_reaches (h := h) (r := walking 1024) ⟨rfl, fun _ => by decide⟩ rfl
      (by rw [hmax]; exact reaches_walking hlen) 0
    rw [hmax] at hc
    exact hc
  refine ⟨?_, hfail, fun cycles out err hend => nomatch hfail.unique hend⟩
  rw [(start_disabled h 0 rfl).2.1]
  exact verdict_walking hlen (by decide)

end Tapewalk
