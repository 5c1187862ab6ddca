import Tapewalk.Proofs.Structured

/-!
# Jumps implement structured loops

A task is *placed* where the program and its jumps have the layout of its tree, and a machine stands
*before* it with the program counter on its first character. What an instruction makes of that is
said once for each kind of task (`Before.char`, `Before.skip`, `Before.enter`, `Before.round`). A
structured run of the task is followed by the machine to the end of the task (`Exec.arrives`), and a
machine that stops has a structured run of the task before it (`exists_exec`). As a run stops at one
machine only, both ways together make the two semantics agree.
-/

namespace Tapewalk

/-! ## Tasks in a program -/

namespace Task

/-- How many characters a task still has before it. -/
def size : Task → ℕ
  | .text t => t.size
  | .rounds body => body.size + 1

/-- The task is what the program has from `i` on. The closing bracket of rounds leads back to the
bracket before their body. -/
def Placed (p : Program) (j : Jumps) : Task → ℕ → Prop
  | .text t, i => t.Layout p j i
  | .rounds body, i => body.Layout p j i ∧ p.char? (i + body.size) = some ']' ∧
      ∃ k, j.partner? (i + body.size) = some k ∧ k + 1 = i

theorem placed_rounds {p : Program} {j : Jumps} {body rest : Tree} {i : ℕ}
    (h : (Tree.loop body rest).Layout p j i) : (rounds body).Placed p j (i + 1) := by
  obtain ⟨-, hbody, ⟨hchar, hpartner⟩, -⟩ := h
  rw [Nat.add_right_comm] at hchar hpartner
  exact ⟨hbody, hchar, i, hpartner, rfl⟩

end Task

namespace Machine

variable {p : Program} {j : Jumps} {m m' : Machine} {c : Char} {r : Except Fault Workspace}

theorem live_of_char (h : p.char? m.pc = some c) : m.halted p = false :=
  halted_eq_false_iff.mpr (Array.getElem?_eq_some_iff.mp h).1

theorem byte_of_cell_view {v : UInt8} (hlt : m.ptr < m.tape.length) (h : m.view.cell = .ok v) :
    m.byte = v := by
  rw [cell_view hlt] at h
  exact Except.ok.inj h

/-! ## Brackets -/

theorem after?_one (hlt : m.ptr < m.tape.length) (hc : p.char? m.pc = some c) {e : Effect}
    (ha : m.act j (.ofChar .classic c) = (.ok e, m')) :
    m.after? p j .classic 1 = some m'.advance := by
  rw [← current_of_char hc] at ha
  exact after?_succ (live_of_char hc) (step_ok hlt ha)

theorem jump_of_partner {k : ℕ} (hk : j.partner? m.pc = some k) :
    m.jump j = (.ok .none, { m with pc := k }) := by
  simp only [jump, hk]

theorem after?_open {k : ℕ} (hlt : m.ptr < m.tape.length) (hc : p.char? m.pc = some '[')
    (hk : j.partner? m.pc = some k) : ∃ m', m.after? p j .classic 1 = some m' ∧
      m'.view = m.view.tick ∧ m'.pc = (if m.byte = 0 then k else m.pc) + 1 := by
  by_cases hb : m.byte = 0
  · refine ⟨_, after?_one hlt hc ((if_pos hb).trans (jump_of_partner hk)), rfl, ?_⟩
    rw [if_pos hb]; rfl
  · refine ⟨_, after?_one hlt hc (if_neg hb), rfl, ?_⟩
    rw [if_neg hb]; rfl

theorem after?_close {k : ℕ} (hlt : m.ptr < m.tape.length) (hc : p.char? m.pc = some ']')
    (hk : j.partner? m.pc = some k) : ∃ m', m.after? p j .classic 1 = some m' ∧
      m'.view = m.view.tick ∧ m'.pc = (if m.byte = 0 then m.pc else k) + 1 := by
  by_cases hb : m.byte = 0
  · refine ⟨_, after?_one hlt hc (if_pos hb), rfl, ?_⟩
    rw [if_pos hb]; rfl
  · refine ⟨_, after?_one hlt hc ((if_neg hb).trans (jump_of_partner hk)), rfl, ?_⟩
    rw [if_neg hb]; rfl

/-! ## From task to task -/

/-- The machine stands before a task, which ends in front of `n`. -/
structure Before (p : Program) (j : Jumps) (m : Machine) (task : Task) (n : ℕ) : Prop where
  sound : m.Sound p
  placed : task.Placed p j m.pc
  stop : m.pc + task.size = n

section Before

variable {body rest : Tree} {n : ℕ} (hj : Jumps.build p = .ok j)

include hj

/-- A plain character leads to the rest, or fails as it does on the view. -/
theorem Before.char {hc : IsPlain c} (h : m.Before p j (.text (.char c hc rest)) n) :
    (∃ w m₁, m.view.act c = .ok w ∧ m.after? p j .classic 1 = some m₁ ∧ m₁.view = w.tick ∧
      m₁.Before p j (.text rest) n) ∨
    (∃ f, m.view.act c = .error f ∧ m.halted p = false ∧ (m.step p j .classic).1 = .error f) := by
  obtain ⟨hs, ⟨hchar, hrest⟩, hn⟩ := h
  simp only [Task.size, Tree.size_char] at hn
  rcases act_view (j := j) hs.ptr_lt hc with ⟨e, m₁, ha, hpc, hview⟩ | ⟨f, ha, hview⟩
  · have hone := after?_one hs.ptr_lt hchar ha
    have hpc₁ : m₁.advance.pc = m.pc + 1 := congrArg (· + 1) hpc
    refine .inl ⟨_, _, hview, hone, view_advance m₁, after?_sound hj hs hone, ?_, ?_⟩
    · rw [hpc₁]; exact hrest
    · simp only [Task.size]; omega
  · rw [← current_of_char hchar] at ha
    exact .inr ⟨f, hview, live_of_char hchar, by rw [step_error hs.ptr_lt ha]⟩

/-- On a zero cell an opening bracket leads to what follows the loop. -/
theorem Before.skip (h : m.Before p j (.text (.loop body rest)) n) (hb : m.byte = 0) :
    ∃ m₁, m.after? p j .classic 1 = some m₁ ∧ m₁.view = m.view.tick ∧
      m₁.Before p j (.text rest) n := by
  obtain ⟨hs, ⟨⟨hchar, hpartner⟩, -, -, hrest⟩, hn⟩ := h
  simp only [Task.size, Tree.size_loop] at hn
  obtain ⟨m₁, hone, hview, hpc⟩ := after?_open hs.ptr_lt hchar hpartner
  rw [if_pos hb] at hpc
  refine ⟨m₁, hone, hview, after?_sound hj hs hone, by rw [hpc]; exact hrest, ?_⟩
  simp only [Task.size]; omega

/-- On any other cell it leads to the rounds, and where they end the loop has ended. -/
theorem Before.enter (h : m.Before p j (.text (.loop body rest)) n) (hb : m.byte ≠ 0) :
    ∃ m₁ n₁, m.after? p j .classic 1 = some m₁ ∧ m₁.view = m.view.tick ∧
      m₁.Before p j (.rounds body) n₁ ∧
      ∀ {m₂ : Machine}, m₂.Sound p → m₂.pc = n₁ → m₂.Before p j (.text rest) n := by
  obtain ⟨hs, hplaced, hn⟩ := h
  have hrounds := Task.placed_rounds hplaced
  obtain ⟨⟨hchar, hpartner⟩, -, -, hrest⟩ := hplaced
  simp only [Task.size, Tree.size_loop] at hn
  obtain ⟨m₁, hone, hview, hpc⟩ := after?_open hs.ptr_lt hchar hpartner
  rw [if_neg hb] at hpc
  refine ⟨m₁, m.pc + body.size + 2, hone, hview, ⟨after?_sound hj hs hone, ?_, ?_⟩, ?_⟩
  · rw [hpc]; exact hrounds
  · simp only [Task.size]; omega
  · intro m₂ hs₂ hpc₂
    refine ⟨hs₂, by rw [hpc₂]; exact hrest, ?_⟩
    simp only [Task.size]; omega

/-- A round is the body and a closing bracket. The bracket leads out of the loop on a zero cell, and
to the rounds again on any other. -/
theorem Before.round (h : m.Before p j (.rounds body) n) :
    ∃ n₁, m.Before p j (.text body) n₁ ∧
      ∀ {m₁ : Machine}, m₁.Sound p → m₁.pc = n₁ → ∃ m₂, m₁.after? p j .classic 1 = some m₂ ∧
        m₂.view = m₁.view.tick ∧ (m₁.byte = 0 → m₂.Sound p ∧ m₂.pc = n) ∧
        (m₁.byte ≠ 0 → m₂.Before p j (.rounds body) n) := by
  obtain ⟨hs, hplaced, hn⟩ := h
  have hback := hplaced
  obtain ⟨hbody, hchar, k, hpartner, hk⟩ := hplaced
  simp only [Task.size] at hn
  refine ⟨m.pc + body.size, ⟨hs, hbody, rfl⟩, fun {m₁} hs₁ hpc => ?_⟩
  rw [← hpc] at hchar hpartner
  obtain ⟨m₂, hone, hview, hpc₂⟩ := after?_close hs₁.ptr_lt hchar hpartner
  have hs₂ := after?_sound hj hs₁ hone
  refine ⟨m₂, hone, hview, fun hb => ⟨hs₂, ?_⟩, fun hb => ?_⟩
  · rw [if_pos hb] at hpc₂
    omega
  · rw [if_neg hb, hk] at hpc₂
    exact ⟨hs₂, by rw [hpc₂]; exact hback, by rw [hpc₂]; exact hn⟩

end Before

/-! ## From structured runs to machines -/

/-- The machine comes to the result: to `n` with the workspace of a run that ended, or to the
instruction that fails. -/
def Arrives (p : Program) (j : Jumps) (m : Machine) (n : ℕ) : Except Fault Workspace → Prop
  | .ok w => ∃ k m', m.after? p j .classic k = some m' ∧ m'.view = w ∧ m'.Sound p ∧ m'.pc = n
  | .error f => ∃ k m', m.after? p j .classic k = some m' ∧ m'.halted p = false ∧
      (m'.step p j .classic).1 = .error f

theorem Arrives.of_after? {k n : ℕ} (h : m.after? p j .classic k = some m')
    (h' : Arrives p j m' n r) : Arrives p j m n r := by
  cases r with
  | ok w =>
    obtain ⟨k', m₁, hrun, hm₁⟩ := h'
    exact ⟨k + k', m₁, after?_trans h hrun, hm₁⟩
  | error f =>
    obtain ⟨k', m₁, hrun, hm₁⟩ := h'
    exact ⟨k + k', m₁, after?_trans h hrun, hm₁⟩

/-- A fault is met wherever the task was to end. -/
theorem Arrives.of_fault {n n' : ℕ} {f : Fault} (h : Arrives p j m n (.error f)) :
    Arrives p j m n' (.error f) := h

/-- **The machine follows a structured run.** The induction is on the run, so a loop is followed
round by round. -/
theorem Exec.arrives (hj : Jumps.build p = .ok j) {task : Task} {w : Workspace}
    (h : Exec task w r) {m : Machine} {n : ℕ} (hw : m.view = w) (hm : m.Before p j task n) :
    Arrives p j m n r := by
  induction h generalizing m n with
  | nil w => exact ⟨0, m, rfl, hw, hm.sound, hm.stop⟩
  | char hact _ ih =>
    subst hw
    rcases hm.char hj with ⟨w₁, m₁, hw₁, hone, hview, hm₁⟩ | ⟨f, hf, -⟩
    · rw [hact] at hw₁
      obtain rfl := Except.ok.inj hw₁
      exact .of_after? hone (ih hview hm₁)
    · rw [hact] at hf; cases hf
  | charFault hact =>
    subst hw
    rcases hm.char hj with ⟨w₁, m₁, hw₁, -⟩ | ⟨f, hf, hlive, hstep⟩
    · rw [hact] at hw₁; cases hw₁
    · rw [hact] at hf
      obtain rfl := Except.error.inj hf
      exact ⟨0, m, rfl, hlive, hstep⟩
  | skip hzero _ ih =>
    subst hw
    obtain ⟨m₁, hone, hview, hm₁⟩ := hm.skip hj (byte_of_cell_view hm.sound.ptr_lt hzero)
    exact .of_after? hone (ih hview hm₁)
  | enter hcell hv _ _ ihrounds ihrest =>
    subst hw
    have hb := byte_of_cell_view hm.sound.ptr_lt hcell
    obtain ⟨m₁, n₁, hone, hview, hm₁, hnext⟩ := hm.enter hj (hb ▸ hv)
    obtain ⟨k, m₂, hrun, hview₂, hs₂, hpc₂⟩ := ihrounds hview hm₁
    exact .of_after? hone (.of_after? hrun (ihrest hview₂ (hnext hs₂ hpc₂)))
  | enterFault hcell hv _ ihrounds =>
    subst hw
    have hb := byte_of_cell_view hm.sound.ptr_lt hcell
    obtain ⟨m₁, n₁, hone, hview, hm₁, -⟩ := hm.enter hj (hb ▸ hv)
    exact .of_after? hone (.of_fault (ihrounds hview hm₁))
  | last _ hzero ih =>
    obtain ⟨n₁, hbody, hclose⟩ := hm.round hj
    obtain ⟨k, m₁, hrun, rfl, hs₁, hpc₁⟩ := ih hw hbody
    obtain ⟨m₂, hone, hview₂, hleave, -⟩ := hclose hs₁ hpc₁
    exact .of_after? hrun ⟨1, m₂, hone, hview₂, hleave (byte_of_cell_view hs₁.ptr_lt hzero)⟩
  | again _ hcell hv _ ih ihrounds =>
    obtain ⟨n₁, hbody, hclose⟩ := hm.round hj
    obtain ⟨k, m₁, hrun, rfl, hs₁, hpc₁⟩ := ih hw hbody
    obtain ⟨m₂, hone, hview₂, -, hback⟩ := hclose hs₁ hpc₁
    have hb := byte_of_cell_view hs₁.ptr_lt hcell
    exact .of_after? hrun (.of_after? hone (ihrounds hview₂ (hback (hb ▸ hv))))
  | roundFault _ ih =>
    obtain ⟨n₁, hbody, -⟩ := hm.round hj
    exact .of_fault (ih hw hbody)

/-! ## From machines to structured runs -/

/-- Every task met after at least one more instruction has a structured run. -/
def Onward (p : Program) (j : Jumps) (m : Machine) : Prop :=
  ∀ {k n : ℕ} {m₁ : Machine} {task : Task}, m.after? p j .classic k = some m₁ → 0 < k →
    m₁.Before p j task n → ∃ r, Exec task m₁.view r

theorem exists_exec_text (hj : Jumps.build p = .ok j) (later : m.Onward p j) {t : Tree} {n : ℕ}
    (hm : m.Before p j (.text t) n) : ∃ r, Exec (.text t) m.view r := by
  have hcell := cell_view hm.sound.ptr_lt
  cases t with
  | nil => exact ⟨_, .nil _⟩
  | char c hc rest =>
    rcases hm.char hj with ⟨w, m₁, hact, hone, hview, hm₁⟩ | ⟨f, hact, -⟩
    · obtain ⟨r, hr⟩ := later hone Nat.one_pos hm₁
      rw [hview] at hr
      exact ⟨r, .char hact hr⟩
    · exact ⟨_, .charFault hact⟩
  | loop body rest =>
    by_cases hb : m.byte = 0
    · obtain ⟨m₁, hone, hview, hm₁⟩ := hm.skip hj hb
      obtain ⟨r, hr⟩ := later hone Nat.one_pos hm₁
      rw [hview] at hr
      exact ⟨r, .skip (by rw [hcell, hb]) hr⟩
    · obtain ⟨m₁, n₁, hone, hview, hm₁, hnext⟩ := hm.enter hj hb
      obtain ⟨r, hr⟩ := later hone Nat.one_pos hm₁
      have harrives := Exec.arrives hj hr rfl hm₁
      rw [hview] at hr
      cases r with
      | error f => exact ⟨_, .enterFault hcell hb hr⟩
      | ok w =>
        -- the rounds end, so the machine comes to what follows the loop
        obtain ⟨k, m₂, hrun, rfl, hs₂, hpc₂⟩ := harrives
        obtain ⟨r', hr'⟩ := later (after?_trans hone hrun) (by omega) (hnext hs₂ hpc₂)
        exact ⟨r', .enter hcell hb hr hr'⟩

theorem exists_exec_rounds (hj : Jumps.build p = .ok j) (later : m.Onward p j) {body : Tree} {n : ℕ}
    (hm : m.Before p j (.rounds body) n) : ∃ r, Exec (.rounds body) m.view r := by
  obtain ⟨n₁, hbody, hclose⟩ := hm.round hj
  obtain ⟨r, hr⟩ := exists_exec_text hj later hbody
  have harrives := Exec.arrives hj hr rfl hbody
  cases r with
  | error f => exact ⟨_, .roundFault hr⟩
  | ok w =>
    obtain ⟨k, m₁, hrun, rfl, hs₁, hpc₁⟩ := harrives
    have hcell := cell_view hs₁.ptr_lt
    obtain ⟨m₂, hone, hview, -, hback⟩ := hclose hs₁ hpc₁
    by_cases hb : m₁.byte = 0
    · exact ⟨_, .last hr (by rw [hcell, hb])⟩
    · obtain ⟨r', hr'⟩ := later (after?_trans hrun hone) (by omega) (hback hb)
      rw [hview] at hr'
      exact ⟨r', .again hr hcell hb hr'⟩

/-- **A machine that stops has a structured run** of the task before it. The induction is on the
number of instructions left: a text has its first instruction behind it when its parts are met, and
rounds come back to their body only after a closing bracket. -/
theorem exists_exec (hj : Jumps.build p = .ok j) {left n : ℕ} {m : Machine} {task : Task}
    (hstop : m.StopsIn p j .classic left) (hm : m.Before p j task n) :
    ∃ r, Exec task m.view r := by
  induction left using Nat.strongRecOn generalizing m task n with
  | ind left ih =>
    have later : m.Onward p j := by
      intro k n₁ m₁ task₁ hrun hk hm₁
      obtain ⟨left₁, rfl, hstop₁⟩ := hstop.rest hrun
      exact ih left₁ (by omega) hstop₁ hm₁
    cases task with
    | text t => exact exists_exec_text hj later hm
    | rounds body => exact exists_exec_rounds hj later hm

end Machine

/-! ## Agreement -/

namespace Batch

open Machine

variable {p : Program} {j : Jumps} {t : Tree} {m m' : Machine} {o : Outcome} {f : Fault} {k : ℕ}

section

variable (hj : Jumps.build p = .ok j) (hm : m.Before p j (.text t) p.size)

include hj hm

/-- A machine stops where its structured run leads. -/
theorem exec_of_stopped (hrun : m.after? p j .classic k = some m') (hstop : m'.Stopped p j .classic) :
    (m'.halted p = true ∧ Exec (.text t) m.view (.ok m'.view)) ∨
    (∃ f, m'.halted p = false ∧ (m'.step p j .classic).1 = .error f ∧
      Exec (.text t) m.view (.error f)) := by
  obtain ⟨r, hr⟩ := exists_exec hj ⟨m', hrun, hstop⟩ hm
  have harrives := Exec.arrives hj hr rfl hm
  cases r with
  | ok w =>
    obtain ⟨k₁, m₁, hrun₁, rfl, -, hpc⟩ := harrives
    have hend := halted_eq_true_iff.mpr hpc.ge
    obtain rfl := eq_of_stopped hrun hstop hrun₁ (.inl hend)
    exact .inl ⟨hend, hr⟩
  | error f =>
    obtain ⟨k₁, m₁, hrun₁, hlive, hf⟩ := harrives
    obtain rfl := eq_of_stopped hrun hstop hrun₁ (.inr ⟨f, hf⟩)
    exact .inr ⟨f, hlive, hf, hr⟩

theorem ends_iff_exec : Ends (fun limit => run p j limit m) o ↔
    ∃ w, Exec (.text t) m.view (.ok w) ∧ w.outcome = o := by
  rw [ends_iff]
  constructor
  · rintro ⟨k, m', hrun, hend, rfl⟩
    rcases exec_of_stopped hj hm hrun (.inl hend) with ⟨-, hexec⟩ | ⟨f, hlive, -⟩
    · exact ⟨_, hexec, outcome_view m'⟩
    · rw [hend] at hlive; cases hlive
  · rintro ⟨w, hw, rfl⟩
    obtain ⟨k, m', hrun, rfl, -, hpc⟩ := Exec.arrives hj hw rfl hm
    exact ⟨k, m', hrun, halted_eq_true_iff.mpr hpc.ge, (outcome_view m').symm⟩

theorem fails_iff_exec : Fails (fun limit => run p j limit m) f ↔
    Exec (.text t) m.view (.error f) := by
  rw [fails_iff]
  constructor
  · rintro ⟨k, m', hrun, hlive, hf⟩
    rcases exec_of_stopped hj hm hrun (.inr ⟨f, hf⟩) with ⟨hend, -⟩ | ⟨g, -, hg, hexec⟩
    · rw [hend] at hlive; cases hlive
    · rw [hf] at hg
      obtain rfl := Except.error.inj hg
      exact hexec
  · exact fun h => Exec.arrives hj h rfl hm

end

end Batch

open Batch in
/-- **Jumps implement structured loops.** A program whose brackets balance loads and has a tree, and
on every tape, byte at the end of the input and input its batch run ends or fails exactly as the
structured run of the tree does. -/
theorem batch_agrees_with_exec (p : Program) (hp : Balanced p.chars.toList) :
    ∃ j t, Jumps.build p = .ok j ∧ Tree.parse? p.chars.toList = some t ∧
      ∀ (shape : Tape.Shape) (eof : UInt8) (input : Array UInt8),
        (∀ o, Ends (fun limit => run p j limit (.start shape eof input)) o ↔
          ∃ w, Exec (.text t) (.start shape eof input) (.ok w) ∧ w.outcome = o) ∧
        (∀ f, Fails (fun limit => run p j limit (.start shape eof input)) f ↔
          Exec (.text t) (.start shape eof input) (.error f)) := by
  obtain ⟨t₀, ht₀⟩ := exists_tree_of_balanced hp
  have hj := Jumps.build_eq_ok_iff.mpr ⟨t₀, ht₀, rfl⟩
  obtain ⟨t, ht, hl⟩ := Jumps.exists_layout hj
  have hsize : 0 + t.size = p.size := by simp [Tree.size, ht, Program.size]
  refine ⟨_, t, hj, Tree.parse?_eq_some_iff.mpr ht, fun shape eof input => ?_⟩
  have hm : (Machine.start shape eof input).Before p _ (.text t) p.size :=
    ⟨Machine.sound_start p shape eof input, hl, hsize⟩
  rw [← Machine.view_start]
  exact ⟨fun o => ends_iff_exec hj hm, fun f => fails_iff_exec hj hm⟩

/-- A loop that is skipped when there is no input, and whose body fails when there is some. -/
theorem batch_agrees_with_exec_on_loop :
    Balanced (Program.ofString ",[.<]").chars.toList ∧
    ∃ t, Tree.parse? (Program.ofString ",[.<]").chars.toList = some t ∧
      (∃ w, Exec (.text t) (.start ⟨2, .fixed⟩ 0 #[]) (.ok w) ∧
        w.outcome = ⟨#[], 2, .ofLength 2, 0⟩) ∧
      Exec (.text t) (.start ⟨2, .fixed⟩ 0 #[7]) (.error (.belowZero 2)) := by
  refine ⟨by decide, ?_⟩
  obtain ⟨j, t, hj, ht, h⟩ := batch_agrees_with_exec (Program.ofString ",[.<]") (by decide)
  obtain rfl := Except.ok.inj hj
  exact ⟨t, ht, ((h ⟨2, .fixed⟩ 0 #[]).1 _).mp ⟨2, _, rfl, rfl⟩,
    ((h ⟨2, .fixed⟩ 0 #[7]).2 _).mp ⟨4, rfl⟩⟩

end Tapewalk
