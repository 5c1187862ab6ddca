import Mathlib.Computability.RegularExpressions
import Tapewalk.Proofs.Lifecycle
import Tapewalk.Proofs.Trace

/-!
# The log of a session

A session tells its trace, one round of events for each instruction, and then how it ended, if it
did (`Session.Told`). This holds after every schedule, so the shape of the log, the bytes in it and
the numbers of its events are facts about the trace (`Session.Chronicle`).
-/

namespace Tapewalk

/-! ## Shapes of logs -/

namespace Event

/-- Events without what they carry. -/
inductive Kind where
  | step
  | stdout
  | stderr
  | breakpoint
  | finished
  | error
  deriving DecidableEq, Repr

/-- The kind of an event. -/
def kind : Event → Kind
  | .step .. => .step
  | .stdout _ => .stdout
  | .stderr _ => .stderr
  | .breakpoint => .breakpoint
  | .finished .. => .finished
  | .error _ => .error

/-- The byte that is told to be written to the first output. -/
def stdoutByte? : Event → Option UInt8
  | .stdout b => some b
  | _ => none

/-- The byte that is told to be written to the second output. -/
def stderrByte? : Event → Option UInt8
  | .stderr b => some b
  | _ => none

open RegularExpression

/-- An instruction is shown, and then what it did. -/
def round : RegularExpression Kind :=
  char Kind.step * (1 + char Kind.stdout + char Kind.stderr + char Kind.breakpoint)

/-- Perhaps the end of the program, or an instruction that failed. -/
def close : RegularExpression Kind := 1 + char Kind.finished + char Kind.step * char Kind.error

/-- Rounds, and then perhaps a close. -/
def grammar : RegularExpression Kind := round.star * close

example : grammar.rmatch [.step, .stdout, .step, .step, .error] = true := by decide

example : grammar.rmatch [.step, .error, .finished] = false := by decide

end Event

/-! ## The events of a trace -/

namespace Stepper

open Event

/-- What is told of instructions that succeed: the machine before each, then its effect. -/
def tell (l : List (Machine × Effect)) : List Event :=
  l.flatMap fun x => snapshot x.1 :: eventsOf x.2

variable {l : List (Machine × Effect)}

theorem tell_cons (x : Machine × Effect) (l : List (Machine × Effect)) :
    tell (x :: l) = snapshot x.1 :: eventsOf x.2 ++ tell l := by
  simp [tell]

theorem tell_snoc (l : List (Machine × Effect)) (x : Machine × Effect) :
    tell (l ++ [x]) = tell l ++ snapshot x.1 :: eventsOf x.2 := by
  simp [tell]

theorem stdout_tell (l : List (Machine × Effect)) :
    (tell l).filterMap stdoutByte? = l.flatMap (·.2.toStdout) := by
  induction l with
  | nil => rfl
  | cons x l ih =>
    obtain ⟨m, e⟩ := x
    rw [tell_cons, List.filterMap_append, ih, List.flatMap_cons]
    cases e <;> rfl

theorem stderr_tell (l : List (Machine × Effect)) :
    (tell l).filterMap stderrByte? = l.flatMap (·.2.toStderr) := by
  induction l with
  | nil => rfl
  | cons x l ih =>
    obtain ⟨m, e⟩ := x
    rw [tell_cons, List.filterMap_append, ih, List.flatMap_cons]
    cases e <;> rfl

theorem count_step_tell (l : List (Machine × Effect)) :
    ((tell l).map kind).count .step = l.length := by
  induction l with
  | nil => rfl
  | cons x l ih =>
    obtain ⟨m, e⟩ := x
    rw [tell_cons, List.map_append, List.count_append, ih, List.length_cons, Nat.add_comm]
    cases e <;> rfl

theorem count_breakpoint_tell (l : List (Machine × Effect)) :
    ((tell l).map kind).count .breakpoint = l.countP (·.2 = .breakpoint) := by
  induction l with
  | nil => rfl
  | cons x l ih =>
    obtain ⟨m, e⟩ := x
    rw [tell_cons, List.map_append, List.count_append, ih, List.countP_cons, Nat.add_comm]
    cases e <;> rfl

theorem isTerminal_tell {e : Event} (h : e ∈ tell l) : e.isTerminal = false := by
  obtain ⟨⟨m, eff⟩, -, he⟩ := List.mem_flatMap.mp h
  rcases List.mem_cons.mp he with rfl | he
  · rfl
  · cases eff with
    | none => cases he
    | stdout b | stderr b | breakpoint =>
      obtain rfl := List.mem_singleton.mp he
      rfl

/-- What is told of instructions that succeed is a row of rounds. -/
theorem tell_mem_rounds (l : List (Machine × Effect)) :
    (tell l).map kind ∈ round.star.matches' := by
  rw [RegularExpression.matches'_star, Language.mem_kstar]
  refine ⟨l.map fun x => (snapshot x.1 :: eventsOf x.2).map kind, ?_, ?_⟩
  · rw [tell, List.map_flatMap, List.flatMap_def]
  · intro w hw
    obtain ⟨⟨m, e⟩, -, rfl⟩ := List.mem_map.mp hw
    rw [← RegularExpression.rmatch_iff_matches']
    cases e <;> rfl

end Stepper

/-! ## The log of a session -/

namespace Session

open Event Stepper

variable {s : Session} {m₀ : Machine} {es : List Event}

/-- The session's machine is where its cycles have led from `m₀`. -/
def Ran (s : Session) (m₀ : Machine) : Prop :=
  m₀.after? s.stepper.program s.stepper.jumps .extended s.machine.cycles = some s.machine

/-- How a session takes its leave. -/
inductive Coda (s : Session) : List Event → Prop
  | none : s.status.isTerminal = false → Coda s []
  | finished : s.status = .finished → Coda s [ending s.machine]
  | aborted (f : Fault) : s.status = .aborted → Coda s [snapshot s.machine, .error f.message]

/-- The trace of the session from a machine `m₀` that had executed nothing. -/
def traceFrom (s : Session) (m₀ : Machine) : List (Machine × Effect) :=
  m₀.trace s.stepper.program s.stepper.jumps .extended s.machine.cycles

/-- The session has come from `m₀`, and its log is `es`. -/
structure Told (m₀ : Machine) (es : List Event) (s : Session) : Prop where
  run : s.Ran m₀
  log : ∃ coda, es = tell (s.traceFrom m₀) ++ coda ∧ s.Coda coda

theorem Told.log_of_live (h : Told m₀ es s) (hlive : s.status.isTerminal = false) :
    es = tell (s.traceFrom m₀) := by
  obtain ⟨coda, rfl, hcoda⟩ := h.log
  cases hcoda with
  | none _ => exact List.append_nil _
  | finished hs => rw [hs] at hlive; cases hlive
  | aborted f hs => rw [hs] at hlive; cases hlive

theorem Ran.of_ok (h : s.Ran m₀) (hs : s.Sound) {e : Effect} {m : Machine}
    (hh : s.machine.halted s.stepper.program = false)
    (hm : s.machine.step s.stepper.program s.stepper.jumps .extended = (.ok e, m)) :
    m.cycles = s.machine.cycles + 1 ∧
      m₀.after? s.stepper.program s.stepper.jumps .extended m.cycles = some m := by
  have hcycles : m.cycles = s.machine.cycles + 1 := Machine.cycles_step hs.steady.sound.ptr_lt hm
  exact ⟨hcycles, by rw [hcycles]; exact Machine.after?_snoc h hh hm⟩

theorem Ran.of_turn (h : s.Ran m₀) (hs : s.Sound) {r : Reaction Session Refusal Answer}
    (hr : s.Turn r) : r.state.Ran m₀ := by
  cases hr with
  | refused _ | idle | paced _ _ _ => exact h
  | stepped _ _ hstep =>
    cases hstep with
    | ended _ | failed _ _ _ => exact h
    | executed e m hh hm _ | paused m hh hm => exact (h.of_ok hs hh hm).2

/-- The log after an instruction that succeeded. -/
theorem Told.of_ok (h : Told m₀ es s) (hs : s.Sound) (hlive : s.status.isTerminal = false)
    {e : Effect} {m : Machine} (hh : s.machine.halted s.stepper.program = false)
    (hm : s.machine.step s.stepper.program s.stepper.jumps .extended = (.ok e, m)) {t : Session}
    (ht : { s.stepper with machine := m } = t.stepper) (hstatus : t.status.isTerminal = false) :
    Told m₀ (es ++ snapshot s.machine :: eventsOf e) t := by
  obtain ⟨hcycles, hrun⟩ := h.run.of_ok hs hh hm
  have htrace := Machine.trace_snoc h.run hh hm
  rw [← hcycles] at htrace
  obtain ⟨id, stepper, status, metronome⟩ := t
  subst ht
  refine ⟨hrun, [], ?_, .none hstatus⟩
  -- so far the trace was all that was told, and it is longer by one round now
  have htell := tell_snoc (s.traceFrom m₀) (s.machine, e)
  rw [List.append_nil, h.log_of_live hlive, ← htell]
  exact congrArg tell htrace.symm

/-- **One operation continues the log.** -/
theorem Told.of_turn (h : Told m₀ es s) (hs : s.Sound) {r : Reaction Session Refusal Answer}
    (hr : s.Turn r) : Told m₀ (es ++ r.events) r.state := by
  have hsame : es ++ [] = es := List.append_nil es
  cases hr with
  | refused _ | idle =>
    show Told m₀ (es ++ []) s
    rwa [hsame]
  | @paced metronome status hlive hstatus _ =>
    show Told m₀ (es ++ []) { s with metronome, status }
    rw [hsame]
    exact ⟨h.run, [], by rw [List.append_nil]; exact h.log_of_live hlive, .none hstatus⟩
  | @stepped metronome r hlive harmed hstep =>
    have hlog := h.log_of_live hlive
    cases hstep with
    | ended hh => exact ⟨h.run, _, by rw [hlog]; rfl, .finished rfl⟩
    | executed e m hh hm _ => exact h.of_ok hs hlive hh hm rfl hlive
    | paused m hh hm => exact h.of_ok hs hlive hh hm rfl rfl
    | failed f hh hf => exact ⟨h.run, _, by rw [hlog]; rfl, .aborted f rfl⟩

/-- **A schedule continues the log.** -/
theorem Told.schedule (h : Told m₀ es s) (hs : s.Sound) (ops : List Op) :
    Told m₀ (es ++ s.log ops) (s.after ops) := by
  induction ops generalizing s es with
  | nil =>
    show Told m₀ (es ++ []) s
    rwa [List.append_nil]
  | cons op ops ih =>
    have hturn := hs.turn op
    have hnext := ih (h.of_turn hs hturn) (hs.of_turn hturn)
    rwa [List.append_assoc] at hnext

/-! ## What a log amounts to -/

variable {coda : List Event}

theorem Coda.shape (h : s.Coda coda) : coda.map kind ∈ close.matches' := by
  rw [← RegularExpression.rmatch_iff_matches']
  cases h <;> rfl

theorem Coda.stdout (h : s.Coda coda) : coda.filterMap stdoutByte? = [] := by
  cases h <;> rfl

theorem Coda.stderr (h : s.Coda coda) : coda.filterMap stderrByte? = [] := by
  cases h <;> rfl

theorem Coda.breaks (h : s.Coda coda) : (coda.map kind).count .breakpoint = 0 := by
  cases h <;> rfl

theorem Coda.steps (h : s.Coda coda) :
    (coda.map kind).count .step = if s.status = .aborted then 1 else 0 := by
  cases h with
  | none hlive => rw [if_neg (ne_aborted_of_live hlive)]; rfl
  | finished hs => rw [hs]; rfl
  | aborted f hs => rw [hs]; rfl

theorem Coda.ending (h : s.Coda coda) {cycles : ℕ} {out err : Array UInt8}
    (hmem : .finished cycles out err ∈ coda) :
    cycles = s.machine.cycles ∧ out = s.machine.stdout ∧ err = s.machine.stderr := by
  cases h with
  | none _ => cases hmem
  | finished _ => simpa [Stepper.ending] using hmem
  | aborted f _ => simp [snapshot] at hmem

/-- All events but the last leave the run going. -/
theorem Coda.cases_last (h : s.Coda coda) (body : List Event)
    (hbody : ∀ e ∈ body, e.isTerminal = false) :
    (s.status.isTerminal = false ∧ ∀ e ∈ body ++ coda, e.isTerminal = false) ∨
    (∃ init, body ++ coda = init ++ [Stepper.ending s.machine] ∧ s.status = .finished ∧
      ∀ e ∈ init, e.isTerminal = false) ∨
    (∃ init f, body ++ coda = init ++ [.error (Fault.message f)] ∧ s.status = .aborted ∧
      ∀ e ∈ init, e.isTerminal = false) := by
  cases h with
  | none hlive => exact .inl ⟨hlive, by simpa using hbody⟩
  | finished hs => exact .inr (.inl ⟨body, rfl, hs, hbody⟩)
  | aborted f hs =>
    refine .inr (.inr ⟨body ++ [snapshot s.machine], f, by simp, hs, fun e he => ?_⟩)
    rcases List.mem_append.mp he with he | he
    · exact hbody e he
    · obtain rfl := List.mem_singleton.mp he
      rfl

/-- Nothing follows an event that ends a run, if none of the others does. -/
theorem eq_nil_of_isTerminal {init pre post : List Event} {x e : Event}
    (hinit : ∀ e ∈ init, e.isTerminal = false) (h : init ++ [x] = pre ++ e :: post)
    (he : e.isTerminal = true) : post = [] := by
  rcases List.eq_nil_or_concat post with rfl | ⟨post', y, rfl⟩
  · rfl
  · have hsplit : init ++ [x] = (pre ++ e :: post') ++ [y] := by simpa using h
    obtain ⟨hb, -⟩ := List.append_inj' hsplit rfl
    have hmem : e ∈ init := by rw [hb]; simp
    rw [hinit e hmem] at he
    cases he

/-- What the log `es` of a session that came from `m₀` amounts to. -/
structure Chronicle (m₀ : Machine) (es : List Event) (s : Session) : Prop where
  run : s.Ran m₀
  shape : es.map kind ∈ grammar.matches'
  /-- Nothing follows the end of the run. -/
  last : ∀ pre e post, es = pre ++ e :: post → e.isTerminal = true → post = []
  finished : s.status = .finished ↔ ∃ cycles out err, es.getLast? = some (.finished cycles out err)
  aborted : s.status = .aborted ↔ ∃ message, es.getLast? = some (.error message)
  stdout : es.filterMap stdoutByte? = s.machine.stdout.toList
  stderr : es.filterMap stderrByte? = s.machine.stderr.toList
  /-- The end is announced with all that was written. -/
  ending : ∀ cycles out err, .finished cycles out err ∈ es →
    cycles = s.machine.cycles ∧ out = s.machine.stdout ∧ err = s.machine.stderr
  breaks : (es.map kind).count .breakpoint =
    (m₀.executed s.stepper.program s.stepper.jumps .extended s.machine.cycles).count '@'
  steps : (es.map kind).count .step = s.machine.cycles + if s.status = .aborted then 1 else 0

/-- **The log of a session** that came from a machine which had written nothing. -/
theorem Told.chronicle (h : Told m₀ es s) (hs : s.Sound) (hm₀ : m₀.Sound s.stepper.program)
    (hout : m₀.stdout = #[]) (herr : m₀.stderr = #[]) : Chronicle m₀ es s := by
  have hj := hs.steady.jumps
  obtain ⟨hstdout, hstderr⟩ := Machine.outputs_after? hj hm₀ h.run
  rw [hout, List.nil_append] at hstdout
  rw [herr, List.nil_append] at hstderr
  have hlength := Machine.length_trace h.run
  have hbreaks := Machine.count_breakpoints hj hm₀ s.machine.cycles
  obtain ⟨coda, rfl, hcoda⟩ := h.log
  -- the status is known by the last event, as no other event ends a run
  have hlast := hcoda.cases_last (tell (s.traceFrom m₀)) fun e => isTerminal_tell
  refine ⟨h.run, ?_, ?_, ?_, ?_, ?_, ?_, ?_, ?_, ?_⟩
  · rw [List.map_append]
    exact Language.mem_mul.mpr ⟨_, tell_mem_rounds _, _, hcoda.shape, rfl⟩
  · intro pre e post hsplit he
    rcases hlast with ⟨-, hall⟩ | ⟨init, hinit, -, hall⟩ | ⟨init, f, hinit, -, hall⟩
    · rw [hall e (by rw [hsplit]; simp)] at he
      cases he
    · exact eq_nil_of_isTerminal hall (hinit.symm.trans hsplit) he
    · exact eq_nil_of_isTerminal hall (hinit.symm.trans hsplit) he
  · rcases hlast with ⟨hlive, hall⟩ | ⟨init, hinit, hfin, -⟩ | ⟨init, f, hinit, habort, -⟩
    · refine ⟨fun hfin => absurd hfin (ne_finished_of_live hlive), ?_⟩
      rintro ⟨c, out, err, hget⟩
      cases hall _ (List.mem_of_getLast? hget)
    · simp [hinit, hfin, Stepper.ending]
    · simp [hinit, habort]
  · rcases hlast with ⟨hlive, hall⟩ | ⟨init, hinit, hfin, -⟩ | ⟨init, f, hinit, habort, -⟩
    · refine ⟨fun habort => absurd habort (ne_aborted_of_live hlive), ?_⟩
      rintro ⟨message, hget⟩
      cases hall _ (List.mem_of_getLast? hget)
    · simp [hinit, hfin, Stepper.ending]
    · simp [hinit, habort]
  · rw [List.filterMap_append, stdout_tell, hcoda.stdout, List.append_nil]
    exact hstdout.symm
  · rw [List.filterMap_append, stderr_tell, hcoda.stderr, List.append_nil]
    exact hstderr.symm
  · intro cycles out err hmem
    rcases List.mem_append.mp hmem with htell | hmem
    · cases isTerminal_tell htell
    · exact hcoda.ending hmem
  · rw [List.map_append, List.count_append, count_breakpoint_tell, hcoda.breaks]
    exact hbreaks
  · rw [List.map_append, List.count_append, count_step_tell, hcoda.steps]
    exact congrArg (· + _) hlength

end Session

end Tapewalk
