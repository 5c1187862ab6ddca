import Tapewalk.Proofs.Reachable
import Tapewalk.Proofs.Stripping
import Tapewalk.Proofs.Trace

/-!
# Comments do not matter

A program and the program without its comments run side by side. A comment moves only the first
run, and there only the program counter and the cycle count; every other instruction moves both runs
in the same way, the second one at the ranks of the first (`Machine.thinned`). A run meets only
finitely many comments in a row, so the first run gets wherever the second one does
(`Machine.Sound.exists_after?`).
-/

namespace Tapewalk

namespace Machine

open Program

variable {p : Program} {d : Dialect} {j j' : Jumps} {m m₁ m₂ : Machine} {e : Effect} {f : Fault}
  {i : Instruction} {ch : Char} {c k : ℕ}

/-- What the first `k` instructions show, in order. -/
def effects (p : Program) (j : Jumps) (d : Dialect) (k : ℕ) (m : Machine) : List Effect :=
  ((m.trace p j d k).map (·.2)).filter (· ≠ .none)

/-- How many of the first `k` instructions are comments. -/
def comments (p : Program) (j : Jumps) (d : Dialect) (k : ℕ) (m : Machine) : ℕ :=
  (m.executed p j d k).countP (!d.keeps ·)

/-- How many of the first `k` instructions are no comments. -/
def proper (p : Program) (j : Jumps) (d : Dialect) (k : ℕ) (m : Machine) : ℕ :=
  (m.executed p j d k).countP d.keeps

/-- The machine at the rank of its program counter, with a cycle count of its own. -/
def thinned (m : Machine) (p : Program) (d : Dialect) (c : ℕ) : Machine :=
  { m with pc := p.rank d m.pc, cycles := c }

/-! ## One instruction -/

theorem ofChar_of_comment (h : d.keeps ch = false) : Instruction.ofChar d ch = .comment := by
  by_contra hne
  rw [Dialect.keeps_iff.mpr hne] at h
  cases h

theorem kept_or_comment (hlive : m.halted p = false) (d : Dialect) :
    p.Kept d m.pc ∨ ∃ ch, p.char? m.pc = some ch ∧ d.keeps ch = false := by
  obtain ⟨ch, hc⟩ := exists_char hlive
  cases hk : d.keeps ch with
  | true => exact .inl ⟨ch, hc, hk⟩
  | false => exact .inr ⟨ch, hc, hk⟩

theorem step_comment (hlt : m.ptr < m.tape.length) (hc : p.char? m.pc = some ch)
    (hk : d.keeps ch = false) : m.step p j d = (.ok .none, m.advance) := by
  apply step_ok hlt
  rw [current_of_char hc, ofChar_of_comment hk]
  rfl

/-- The second run does not notice a comment. -/
theorem thinned_advance (hc : p.char? m.pc = some ch) (hk : d.keeps ch = false) (c : ℕ) :
    m.advance.thinned p d c = m.thinned p d c := by
  unfold thinned advance
  simp only [rank_succ hc, hk, Bool.false_eq_true, if_false, Nat.add_zero]

/-- An instruction looks at the program counter only to jump, and at the cycle count never. -/
theorem act_thinned (hb : i = .loopStart ∨ i = .loopEnd → ∃ n, j.partner? m.pc = some n ∧
      j'.partner? (p.rank d m.pc) = some (p.rank d n)) (c : ℕ) :
    (m.thinned p d c).act j' i = ((m.act j i).1, (m.act j i).2.thinned p d c) := by
  have h : Transparent (thinned · p d c) := ⟨fun _ _ _ => rfl, fun _ _ => rfl⟩
  refine h.act (fun hi => ?_) (fun _ => .inr rfl) (fun _ => ?_) fun _ => rfl
  · obtain ⟨n, hn, hn'⟩ := hb hi
    have hpc : j'.partner? (m.thinned p d c).pc = some (p.rank d n) := hn'
    simp only [jump, hn, hpc]
    rfl
  · simp only [takeInput, thinned]
    split <;> rfl

theorem current_thinned (hk : p.Kept d m.pc) (c : ℕ) :
    (m.thinned p d c).current (p.stripped d) d = m.current p d := by
  obtain ⟨ch, hc, hkeep⟩ := hk
  have hc' : (p.stripped d).char? (m.thinned p d c).pc = some ch := char?_stripped hc hkeep
  rw [current_of_char hc, current_of_char hc']

/-- **One instruction that is no comment**, in both runs. -/
theorem step_thinned (hj : Jumps.build p = .ok j) (ht : Jumps.Thins p d j j')
    (hlt : m.ptr < m.tape.length) (hk : p.Kept d m.pc) (c : ℕ) :
    (∃ e m₁, m.step p j d = (.ok e, m₁) ∧
      (m.thinned p d c).step (p.stripped d) j' d = (.ok e, m₁.thinned p d (c + 1))) ∨
    (∃ f, m.step p j d = (.error f, m) ∧
      (m.thinned p d c).step (p.stripped d) j' d = (.error f, m.thinned p d c)) := by
  have hact : (m.thinned p d c).act j' ((m.thinned p d c).current (p.stripped d) d) =
      ((m.act j (m.current p d)).1, (m.act j (m.current p d)).2.thinned p d c) := by
    rw [current_thinned hk]
    apply act_thinned
    intro hi
    -- a bracket has a partner, and the partner's rank is the partner of its rank
    have hbracket : ∃ b, p.char? m.pc = some b ∧ ¬ IsPlain b := by
      rcases hi with hi | hi
      · exact ⟨_, char_of_current hi rfl, by decide⟩
      · exact ⟨_, char_of_current hi rfl, by decide⟩
    obtain ⟨b, hb, hplain⟩ := hbracket
    obtain ⟨n, hn⟩ := Jumps.exists_partner hj hb hplain
    exact ⟨n, hn, by rw [ht.partner _ hk, hn]; rfl⟩
  rcases step_cases (p := p) (j := j) (d := d) hlt with ⟨e, m₁, ha, hs⟩ | ⟨f, ha, hs⟩
  · left
    refine ⟨e, _, hs, ?_⟩
    rw [ha] at hact
    rw [step_ok (m := m.thinned p d c) hlt hact]
    -- the program counter is still at the instruction, or on its partner
    have hkept : p.Kept d m₁.pc := by
      rcases (act_ok hlt ha).pc with hpc | hpc
      · rw [hpc]
        exact hk
      · exact ht.target _ _ hpc
    have hrank : p.rank d (m₁.pc + 1) = p.rank d m₁.pc + 1 := hkept.rank_succ
    unfold thinned advance
    rw [hrank]
  · right
    refine ⟨f, hs, step_error (m := m.thinned p d c) hlt ?_⟩
    rw [hact]
    exact ha

theorem halted_thinned_of_kept (hk : p.Kept d m.pc) (c : ℕ) :
    (m.thinned p d c).halted (p.stripped d) = false :=
  halted_eq_false_iff.mpr hk.rank_lt_size

theorem halted_thinned_of_halted (h : m.halted p = true) (c : ℕ) :
    (m.thinned p d c).halted (p.stripped d) = true :=
  halted_eq_true_iff.mpr (rank_of_size_le (halted_eq_true_iff.mp h)).ge

/-! ## Counting instructions -/

theorem proper_succ (hlive : m.halted p = false) (hc : p.char? m.pc = some ch)
    (hs : m.step p j d = (.ok e, m₁)) :
    m.proper p j d (k + 1) = m₁.proper p j d k + if d.keeps ch then 1 else 0 := by
  unfold proper
  rw [executed_succ hlive hc hs, List.countP_cons]

theorem proper_snoc (h : m.after? p j d k = some m₁) (hc : p.char? m₁.pc = some ch)
    (hlive : m₁.halted p = false) (hs : m₁.step p j d = (.ok e, m₂)) :
    m.proper p j d (k + 1) = m.proper p j d k + if d.keeps ch then 1 else 0 := by
  unfold proper
  rw [executed_snoc h hc hlive hs, List.countP_append, List.countP_singleton]

theorem effects_succ (hlive : m.halted p = false) (hs : m.step p j d = (.ok e, m₁)) :
    m.effects p j d (k + 1) = [e].filter (· ≠ .none) ++ m₁.effects p j d k := by
  unfold effects
  rw [trace_succ hlive hs, List.map_cons, ← List.singleton_append, List.filter_append]

/-- Every instruction is a comment or it is none. -/
theorem proper_eq_sub (h : m.after? p j d k = some m₁) :
    m.proper p j d k = k - m.comments p j d k := by
  have hlength := List.length_eq_countP_add_countP d.keeps (l := m.executed p j d k)
  rw [length_executed h] at hlength
  have hcomments : m.comments p j d k =
      (m.executed p j d k).countP (fun ch => ¬ d.keeps ch = true) := by
    simp [comments]
  unfold proper
  omega

/-! ## Many instructions -/

/-- **The second run keeps up**: it takes the instructions that are no comments, shows what the
first run shows, and stands at its rank. -/
theorem Sound.after?_thinned (hj : Jumps.build p = .ok j) (ht : Jumps.Thins p d j j')
    (hm : m.Sound p) (h : m.after? p j d k = some m₁) (c : ℕ) :
    (m.thinned p d c).after? (p.stripped d) j' d (m.proper p j d k) =
      some (m₁.thinned p d (c + m.proper p j d k)) ∧
    (m.thinned p d c).effects (p.stripped d) j' d (m.proper p j d k) = m.effects p j d k := by
  induction k generalizing m c with
  | zero =>
    obtain rfl := Option.some.inj h
    exact ⟨rfl, rfl⟩
  | succ k ih =>
    obtain ⟨hlive, e, m₂, hs, hrest⟩ := after?_succ_eq_some_iff.mp h
    have hm₂ := hm.of_step hj hlive hs
    obtain ⟨ch, hc⟩ := exists_char hlive
    rw [proper_succ hlive hc hs, effects_succ hlive hs]
    cases hk : d.keeps ch with
    | true =>
      have hkept : p.Kept d m.pc := ⟨ch, hc, hk⟩
      have hlive' := halted_thinned_of_kept hkept c
      rcases step_thinned hj ht hm.ptr_lt hkept c with ⟨e', m', hs₁, hs'⟩ | ⟨f, hs₁, -⟩
      · rw [hs] at hs₁
        obtain ⟨he, rfl⟩ := Prod.mk.inj hs₁
        obtain rfl := Except.ok.inj he
        obtain ⟨hafter, heffects⟩ := ih hm₂ hrest (c + 1)
        rw [if_pos rfl, after?_succ hlive' hs', effects_succ hlive' hs', hafter, heffects,
          Nat.add_right_comm, Nat.add_assoc]
        exact ⟨rfl, rfl⟩
      · rw [hs] at hs₁
        cases hs₁
    | false =>
      -- the second run stays where it is, and nothing is shown
      rw [step_comment hm.ptr_lt hc hk] at hs
      obtain ⟨he, rfl⟩ := Prod.mk.inj hs
      obtain rfl := Except.ok.inj he
      have hnext := ih hm₂ hrest c
      rw [thinned_advance hc hk] at hnext
      exact hnext

/-- The next instruction is no comment, or there is none. -/
def Settled (p : Program) (d : Dialect) (m : Machine) : Prop :=
  m.halted p = true ∨ p.Kept d m.pc

/-- Comments that follow each other come to an end. -/
theorem Sound.exists_settled (hj : Jumps.build p = .ok j) (hm : m.Sound p)
    (h : m.after? p j d k = some m₁) : ∃ n m₂, m.after? p j d n = some m₂ ∧
      m₂.Settled p d ∧ m.proper p j d n = m.proper p j d k := by
  -- by induction on what is left of the text
  induction hleft : p.size - m₁.pc generalizing k m₁ with
  | zero =>
    refine ⟨k, m₁, h, .inl (halted_eq_true_iff.mpr ?_), rfl⟩
    omega
  | succ r ih =>
    have hlive : m₁.halted p = false := halted_eq_false_iff.mpr (by omega)
    rcases kept_or_comment hlive d with hk | ⟨ch, hc, hk⟩
    · exact ⟨k, m₁, h, .inr hk, rfl⟩
    · have hs := step_comment (j := j) (after?_sound hj hm h).ptr_lt hc hk
      have hpc : m₁.advance.pc = m₁.pc + 1 := rfl
      obtain ⟨n, m₂, hn, hsettled, hproper⟩ := ih (after?_snoc h hlive hs) (by omega)
      refine ⟨n, m₂, hn, hsettled, hproper.trans ?_⟩
      rw [proper_snoc h hc hlive hs, hk]
      rfl

/-- **The first run keeps up**: wherever the second run comes to, the first one does, and it stands
where its next instruction is no comment. -/
theorem Sound.exists_after? (hj : Jumps.build p = .ok j) (ht : Jumps.Thins p d j j')
    (hm : m.Sound p) (h : (m.thinned p d c).after? (p.stripped d) j' d k = some m₂) :
    ∃ n m₁, m.after? p j d n = some m₁ ∧ m₁.Settled p d ∧ m.proper p j d n = k := by
  induction k generalizing m₂ with
  | zero => exact hm.exists_settled (k := 0) hj rfl
  | succ k ih =>
    rw [after?_add] at h
    obtain ⟨m', hm', hstep⟩ := Option.bind_eq_some_iff.mp h
    obtain ⟨n, m₁, hn, hsettled, rfl⟩ := ih hm'
    obtain ⟨hlive', e, m'', hs', -⟩ := after?_succ_eq_some_iff.mp hstep
    have hthinned := (hm.after?_thinned hj ht hn c).1
    rw [hm'] at hthinned
    obtain rfl := Option.some.inj hthinned
    -- the second run goes on, so the first one has not ended
    rcases hsettled with hend | hk
    · rw [halted_thinned_of_halted hend] at hlive'
      cases hlive'
    have hlive : m₁.halted p = false := halted_eq_false_iff.mpr hk.lt_size
    obtain ⟨ch, hc, hkeep⟩ := id hk
    rcases step_thinned hj ht (after?_sound hj hm hn).ptr_lt hk (c + m.proper p j d n) with
      ⟨e₁, m₃, hs₁, -⟩ | ⟨f, -, hs₁⟩
    · obtain ⟨n', m₄, hn', hsettled, hproper⟩ := hm.exists_settled hj (after?_snoc hn hlive hs₁)
      refine ⟨n', m₄, hn', hsettled, hproper.trans ?_⟩
      rw [proper_snoc hn hc hlive hs₁, hkeep]
      rfl
    · rw [hs'] at hs₁
      cases hs₁

/-! ## How runs stop -/

/-- Why no instruction follows: the program is over, or its next instruction fails. -/
def StopsWith (p : Program) (j : Jumps) (d : Dialect) (m : Machine) : Option Fault → Prop
  | none => m.halted p = true
  | some f => m.halted p = false ∧ (m.step p j d).1 = .error f

theorem Sound.settled_of_stopsWith (hm : m.Sound p) {o : Option Fault}
    (h : m.StopsWith p j d o) : m.Settled p d := by
  cases o with
  | none => exact .inl h
  | some f =>
    obtain ⟨hlive, hf⟩ := h
    rcases kept_or_comment hlive d with hk | ⟨ch, hc, hk⟩
    · exact .inr hk
    · rw [step_comment hm.ptr_lt hc hk] at hf
      cases hf

/-- Where no comment follows, both runs stop for the same reason or go on. -/
theorem Sound.stopsWith_thinned (hj : Jumps.build p = .ok j) (ht : Jumps.Thins p d j j')
    (hm : m.Sound p) (hs : m.Settled p d) (c : ℕ) (o : Option Fault) :
    (m.thinned p d c).StopsWith (p.stripped d) j' d o ↔ m.StopsWith p j d o := by
  rcases hs with hend | hk
  · have hend' := halted_thinned_of_halted (d := d) hend c
    cases o <;> simp [StopsWith, hend, hend']
  · have hlive : m.halted p = false := halted_eq_false_iff.mpr hk.lt_size
    have hlive' := halted_thinned_of_kept hk c
    rcases step_thinned hj ht hm.ptr_lt hk c with ⟨e, m₁, hs, hs'⟩ | ⟨f, hs, hs'⟩
    all_goals cases o <;> simp [StopsWith, hlive, hlive', hs, hs']

/-- **Both runs stop for the same reason**, or neither stops. -/
theorem Sound.stops_iff (hj : Jumps.build p = .ok j) (ht : Jumps.Thins p d j j') (hm : m.Sound p)
    (c : ℕ) (o : Option Fault) :
    (∃ k m₁, m.after? p j d k = some m₁ ∧ m₁.StopsWith p j d o) ↔
      ∃ k m₂, (m.thinned p d c).after? (p.stripped d) j' d k = some m₂ ∧
        m₂.StopsWith (p.stripped d) j' d o := by
  constructor
  · rintro ⟨k, m₁, h, ho⟩
    have hm₁ := after?_sound hj hm h
    have hs := hm₁.settled_of_stopsWith ho
    exact ⟨_, _, (hm.after?_thinned hj ht h c).1, (hm₁.stopsWith_thinned hj ht hs _ o).mpr ho⟩
  · rintro ⟨k, m₂, h, ho⟩
    obtain ⟨n, m₁, hn, hs, rfl⟩ := hm.exists_after? hj ht h
    have hm₂ := (hm.after?_thinned hj ht hn c).1
    rw [h] at hm₂
    obtain rfl := Option.some.inj hm₂
    exact ⟨n, m₁, hn, ((after?_sound hj hm hn).stopsWith_thinned hj ht hs _ o).mp ho⟩

theorem Sound.outOfRange_of_stopsWith (hj : Jumps.build p = .ok j) (hm : m.Sound p)
    (h : m.StopsWith p j d (some f)) : ∃ i n, f = .outOfRange i n := by
  rcases (hm.step_error_iff hj).mp h.2 with ⟨-, -, hf⟩ | ⟨-, -, -, hf⟩
  · exact ⟨_, _, hf⟩
  · exact ⟨_, _, hf⟩

/-! ## Runs from the start -/

variable {shape : Tape.Shape} {eof : UInt8} {input : Array UInt8}

theorem thinned_start : (start shape eof input).thinned p d 0 = start shape eof input := rfl

/-- The cycles of the second run are those of the first without its comments. -/
theorem thinned_of_start (hj : Jumps.build p = .ok j)
    (h : (start shape eof input).after? p j d k = some m) :
    m.thinned p d (0 + (k - (start shape eof input).comments p j d k)) =
      { m with
        pc := p.rank d m.pc
        cycles := m.cycles - (start shape eof input).comments p j d k } := by
  have hcycles := cycles_after? hj (sound_start p shape eof input) h
  have hzero : (start shape eof input).cycles = 0 := rfl
  unfold thinned
  congr 1
  omega

end Machine

open Machine in
/-- **Comments do not matter.** If a program does not load, the same bracket is to blame without its
comments, at its rank. If it loads, so does the program without its comments, and the runs of the
two go together. Each moment of the one belongs to a moment of the other at which the same has been
shown, and the machines differ only in the program counter and in the cycles spent on comments. Both
runs go on for ever, or both end, or both fail with the same fault, at an end of the tape. -/
theorem comments_unobservable (p : Program) (d : Dialect) :
    (∀ i, Jumps.build p = .error (.unmatchedBracket i) ↔
      p.Kept d i ∧ Jumps.build (p.stripped d) = .error (.unmatchedBracket (p.rank d i))) ∧
    ∀ j, Jumps.build p = .ok j → ∃ j', Jumps.build (p.stripped d) = .ok j' ∧
      ∀ shape eof input, let m₀ := Machine.start shape eof input
        (∀ k m, m₀.after? p j d k = some m →
          let n := m₀.comments p j d k
          let m' := { m with pc := p.rank d m.pc, cycles := m.cycles - n }
          m₀.after? (p.stripped d) j' d (k - n) = some m' ∧
          m₀.effects (p.stripped d) j' d (k - n) = m₀.effects p j d k ∧
          ∀ o, m.StopsWith p j d o → m'.StopsWith (p.stripped d) j' d o) ∧
        (∀ k' m', m₀.after? (p.stripped d) j' d k' = some m' →
          ∃ k m, m₀.after? p j d k = some m ∧ k' = k - m₀.comments p j d k) ∧
        (∀ o, (∃ k m, m₀.after? p j d k = some m ∧ m.StopsWith p j d o) ↔
          ∃ k m, m₀.after? (p.stripped d) j' d k = some m ∧ m.StopsWith (p.stripped d) j' d o) ∧
        ∀ k m f, m₀.after? p j d k = some m → m.StopsWith p j d (some f) →
          ∃ i n, f = .outOfRange i n := by
  refine ⟨fun i => Jumps.build_error_iff_stripped, fun j hj => ?_⟩
  obtain ⟨j', hj', ht⟩ := Jumps.build_stripped_of_ok hj d
  refine ⟨j', hj', fun shape eof input => ?_⟩
  intro m₀
  have h₀ : m₀.Sound p := sound_start p shape eof input
  have hthin : m₀.thinned p d 0 = m₀ := thinned_start
  refine ⟨fun k m h => ?_, fun k' m' h => ?_, fun o => ?_, fun k m f h ho => ?_⟩
  · have hm := after?_sound hj h₀ h
    obtain ⟨hafter, heffects⟩ := h₀.after?_thinned hj ht h 0
    rw [proper_eq_sub h, thinned_of_start hj h, hthin] at hafter
    rw [proper_eq_sub h, hthin] at heffects
    refine ⟨hafter, heffects, fun o ho => ?_⟩
    rw [← thinned_of_start hj h]
    exact (hm.stopsWith_thinned hj ht (hm.settled_of_stopsWith ho) _ o).mpr ho
  · rw [← hthin] at h
    obtain ⟨k, m, hk, -, rfl⟩ := h₀.exists_after? hj ht h
    exact ⟨k, m, hk, proper_eq_sub hk⟩
  · have hiff := h₀.stops_iff hj ht 0 o
    rwa [hthin] at hiff
  · exact (after?_sound hj h₀ h).outOfRange_of_stopsWith hj ho

open Machine in
/-- A loop with comments before it, in it and after it: `@` is one in the classic dialect. Four of
its thirteen cycles are spent on comments. -/
theorem comments_unobservable_around_loop :
    let p : Program := ⟨#['+', '+', 'a', '[', '-', 'b', '.', ']', '@']⟩
    let m₀ := Machine.start ⟨1, .fixed⟩ 0 #[]
    ∃ j j', Jumps.build p = .ok j ∧ Jumps.build (p.stripped .classic) = .ok j' ∧
      m₀.comments p j .classic 13 = 4 ∧
      ∃ m', m₀.after? (p.stripped .classic) j' .classic 9 = some m' ∧
        m'.StopsWith (p.stripped .classic) j' .classic none ∧ m'.cycles = 9 ∧
        m'.stdout = #[1, 0] := by
  intro p m₀
  let j : Jumps := ⟨#[none, none, none, some 7, none, none, none, some 3, none]⟩
  have hj : Jumps.build p = .ok j := rfl
  have hcomments : m₀.comments p j .classic 13 = 4 := by
    simp only [p, m₀, j]
    decide +kernel
  have hend : (m₀.after? p j .classic 13).map (fun m => (m.halted p, m.cycles, m.stdout)) =
      some (true, 13, #[1, 0]) := by
    simp only [p, m₀, j]
    decide +kernel
  obtain ⟨m, hm, hfields⟩ := Option.map_eq_some_iff.mp hend
  simp only [Prod.mk.injEq] at hfields
  obtain ⟨hhalted, hcycles, hout⟩ := hfields
  obtain ⟨j', hj', hrun⟩ := (comments_unobservable p .classic).2 j hj
  obtain ⟨hafter, -, hstops⟩ := (hrun ⟨1, .fixed⟩ 0 #[]).1 13 m hm
  have hnine : 13 - m₀.comments p j .classic 13 = 9 := by rw [hcomments]
  change m₀.after? _ j' .classic (13 - m₀.comments p j .classic 13) = _ at hafter
  rw [hnine] at hafter
  refine ⟨j, j', hj, hj', hcomments, _, hafter, hstops none hhalted, ?_, hout⟩
  show m.cycles - m₀.comments p j .classic 13 = 9
  rw [hcycles, hnine]

end Tapewalk
