import Tapewalk.Jumps
import Tapewalk.Proofs.Brackets

/-!
# What the bracket scan computes

On the text of a tree the scan leaves the open brackets alone and appends `Tree.partners`, which
says where each bracket's partner stands.

* `Jumps.build_eq_ok_iff`: a program loads exactly if its text is that of a tree.
* `Tree.Layout`: the characters and jumps of a program from a position on are those of a tree. This
  is all that a run needs to know of the jumps.
* `Jumps.exists_layout`: a program that loads is laid out as a tree.
-/

namespace Tapewalk

namespace Jumps.Scan

/-! ## One character of the scan -/

theorem next_plain {c : Char} (h : IsPlain c) (s : Scan) :
    s.next c = .ok ⟨s.opened, s.partners.push none⟩ := by
  simp only [next, if_neg h.1, if_neg h.2]

theorem next_open (s : Scan) :
    s.next '[' = .ok ⟨s.partners.size :: s.opened, s.partners.push none⟩ := rfl

theorem next_close {s : Scan} {start : ℕ} {rest : List ℕ} (h : s.opened = start :: rest) :
    s.next ']' = .ok ⟨rest, (s.partners.setIfInBounds start (some s.partners.size)).push
      (some start)⟩ := by
  have hc : ¬ (']' = '[') := by decide
  simp only [next, if_neg hc, if_true, h]

theorem next_close_nil {s : Scan} (h : s.opened = []) :
    s.next ']' = .error (.unmatchedBracket s.partners.size) := by
  have hc : ¬ (']' = '[') := by decide
  simp only [next, if_neg hc, if_true, h]

/-- Only a closing bracket with nothing to close stops the scan. -/
theorem next_error {s : Scan} {c : Char} {f : Fault} (h : s.next c = .error f) :
    f = .unmatchedBracket s.partners.size := by
  by_cases hc : IsPlain c
  · rw [next_plain hc] at h; cases h
  · rcases not_isPlain_iff.mp hc with rfl | rfl
    · rw [next_open] at h; cases h
    · cases ho : s.opened with
      | nil => rw [next_close_nil ho] at h; exact (Except.error.inj h).symm
      | cons start rest => rw [next_close ho] at h; cases h

/-- The open brackets are as many as were opened and not closed. -/
theorem opened_next {s s' : Scan} {c : Char} (h : s.next c = .ok s') :
    s'.opened.length + [c].count ']' = s.opened.length + [c].count '[' := by
  by_cases hc : IsPlain c
  · rw [next_plain hc] at h
    obtain rfl := Except.ok.inj h
    rw [List.count_cons_of_ne hc.1, List.count_cons_of_ne hc.2]
    rfl
  · rcases not_isPlain_iff.mp hc with rfl | rfl
    · rw [next_open] at h
      obtain rfl := Except.ok.inj h
      rfl
    · cases ho : s.opened with
      | nil => rw [next_close_nil ho] at h; cases h
      | cons start rest =>
        rw [next_close ho] at h
        obtain rfl := Except.ok.inj h
        rfl

/-- A scan of several characters, the first one apart. -/
theorem foldlM_cons_ok {s s' : Scan} {c : Char} {w : List Char}
    (h : (c :: w).foldlM next s = .ok s') : ∃ s₁, s.next c = .ok s₁ ∧ w.foldlM next s₁ = .ok s' := by
  rw [List.foldlM_cons] at h
  cases hs : s.next c with
  | error e => rw [hs] at h; cases h
  | ok s₁ => rw [hs] at h; exact ⟨s₁, rfl, h⟩

theorem opened_foldlM {w : List Char} {s s' : Scan} (h : w.foldlM next s = .ok s') :
    s'.opened.length + w.count ']' = s.opened.length + w.count '[' := by
  induction w generalizing s with
  | nil => obtain rfl := Except.ok.inj h; rfl
  | cons c w ih =>
    obtain ⟨s₁, hc, hw⟩ := foldlM_cons_ok h
    have h1 := opened_next hc
    have h2 := ih hw
    rw [← List.singleton_append, List.count_append, List.count_append]
    omega

theorem foldlM_error {w : List Char} {s : Scan} {f : Fault} (h : w.foldlM next s = .error f) :
    ∃ i, f = .unmatchedBracket i := by
  induction w generalizing s with
  | nil => cases h
  | cons c w ih =>
    rw [List.foldlM_cons] at h
    cases hs : s.next c with
    | ok s₁ => rw [hs] at h; exact ih h
    | error g =>
      rw [hs] at h
      obtain rfl : g = f := Except.error.inj h
      exact ⟨_, next_error hs⟩

theorem foldlM_append_ok {u v : List Char} {s s' : Scan} (h : (u ++ v).foldlM next s = .ok s') :
    ∃ s₁, u.foldlM next s = .ok s₁ := by
  rw [List.foldlM_append] at h
  cases hs : u.foldlM next s with
  | error e => rw [hs] at h; cases h
  | ok s₁ => exact ⟨s₁, rfl⟩

end Jumps.Scan

/-! ## The scan of a tree -/

/-- The partners of the characters of a tree whose text begins at `base`. -/
def Tree.partners : Tree → ℕ → List (Option ℕ)
  | .nil, _ => []
  | .char _ _ rest, base => none :: rest.partners (base + 1)
  | .loop body rest, base => some (base + body.size + 1) ::
      (body.partners (base + 1) ++ some base :: rest.partners (base + body.size + 2))

@[simp] theorem Tree.length_partners (t : Tree) (base : ℕ) : (t.partners base).length = t.size := by
  induction t generalizing base with
  | nil => rfl
  | char c h rest ih => simp [partners, ih]
  | loop body rest ihb ihr => simp [partners, ihb, ihr]; omega

namespace Jumps

open Scan

/-- **The scan of a tree** leaves the open brackets alone and records its pairs. -/
theorem foldlM_text (t : Tree) (opened : List ℕ) (found : Array (Option ℕ)) (w : List Char) :
    (t.text ++ w).foldlM next ⟨opened, found⟩ =
      w.foldlM next ⟨opened, found ++ (t.partners found.size).toArray⟩ := by
  induction t generalizing opened found w with
  | nil => simp [Tree.text, Tree.partners]
  | char c h rest ih =>
    rw [Tree.text, List.cons_append, List.foldlM_cons, next_plain h]
    show (rest.text ++ w).foldlM next ⟨opened, found.push none⟩ = _
    rw [ih]
    simp [Tree.partners]
  | loop body rest ihb ihr =>
    rw [Tree.text, List.cons_append, List.append_assoc, List.foldlM_cons, next_open]
    show (body.text ++ (']' :: rest.text ++ w)).foldlM next
      ⟨found.size :: opened, found.push none⟩ = _
    rw [ihb, List.cons_append, List.foldlM_cons, next_close rfl]
    -- the opening bracket's entry is filled in where the loop began
    have hset : ∀ (b : List (Option ℕ)) (x : Option ℕ),
        (found.push none ++ b.toArray).setIfInBounds found.size x = found.push x ++ b.toArray := by
      intro b x
      apply Array.ext'
      simp
    have hhere : (found.push none ++ (body.partners (found.push none).size).toArray).size =
        found.size + body.size + 1 := by
      simp; omega
    rw [hset, hhere]
    show (rest.text ++ w).foldlM next _ = _
    rw [ihr]
    have hnext : ((found.push (some (found.size + body.size + 1)) ++
        (body.partners (found.push none).size).toArray).push (some found.size)).size =
        found.size + body.size + 2 := by
      simp; omega
    rw [hnext]
    congr 2
    apply Array.ext'
    simp [Tree.partners]

/-- The jumps of a program whose text is that of a tree. -/
theorem build_text (t : Tree) : build ⟨t.text.toArray⟩ = .ok ⟨(t.partners 0).toArray⟩ := by
  have h := foldlM_text t [] #[] []
  rw [List.append_nil] at h
  simp only [build]
  rw [show ({} : Scan) = ⟨[], #[]⟩ from rfl, h]
  simp [finish, pure, Except.pure, bind, Except.bind]

theorem balanced_of_build {p : Program} {j : Jumps} (h : build p = .ok j) :
    Balanced p.chars.toList := by
  unfold build at h
  cases hs : p.chars.toList.foldlM next {} with
  | error e => rw [hs] at h; cases h
  | ok s =>
    rw [hs] at h
    change s.finish = .ok j at h
    have hopen : s.opened = [] := by
      unfold finish at h
      split at h
      · assumption
      · cases h
    refine ⟨fun u hu => ?_, ?_⟩
    · obtain ⟨v, hv⟩ := hu
      rw [← hv] at hs
      obtain ⟨s₁, hs₁⟩ := foldlM_append_ok hs
      have := opened_foldlM hs₁
      change _ = 0 + _ at this
      omega
    · have := opened_foldlM hs
      rw [hopen] at this
      change 0 + _ = 0 + _ at this
      omega

/-- A program that does not load has a bracket to blame. -/
theorem build_error {p : Program} {f : Fault} (h : build p = .error f) :
    ∃ i, f = .unmatchedBracket i := by
  unfold build at h
  cases hs : p.chars.toList.foldlM next {} with
  | error g =>
    rw [hs] at h
    obtain rfl : g = f := Except.error.inj h
    exact foldlM_error hs
  | ok s =>
    rw [hs] at h
    change s.finish = .error f at h
    unfold finish at h
    split at h
    · cases h
    · exact ⟨_, (Except.error.inj h).symm⟩

/-- **A program loads exactly if its text is that of a tree**, and then its jumps are the tree's. -/
theorem build_eq_ok_iff {p : Program} {j : Jumps} :
    build p = .ok j ↔
      ∃ t : Tree, t.text = p.chars.toList ∧ j = ⟨(t.partners 0).toArray⟩ := by
  have hp : ∀ t : Tree, t.text = p.chars.toList → build p = .ok ⟨(t.partners 0).toArray⟩ := by
    intro t ht
    have h := build_text t
    rwa [ht] at h
  constructor
  · intro h
    obtain ⟨t, ht⟩ := exists_tree_of_balanced (balanced_of_build h)
    refine ⟨t, ht, ?_⟩
    rw [hp t ht] at h
    exact (Except.ok.inj h).symm
  · rintro ⟨t, ht, rfl⟩
    exact hp t ht

end Jumps

/-! ## Layout -/

/-- From `base` on, the characters and the jumps of the program are those of the tree. -/
def Tree.Layout (p : Program) (j : Jumps) : Tree → ℕ → Prop
  | .nil, _ => True
  | .char c _ rest, base => p.char? base = some c ∧ rest.Layout p j (base + 1)
  | .loop body rest, base =>
    (p.char? base = some '[' ∧ j.partner? base = some (base + body.size + 1)) ∧
    body.Layout p j (base + 1) ∧
    (p.char? (base + body.size + 1) = some ']' ∧ j.partner? (base + body.size + 1) = some base) ∧
    rest.Layout p j (base + body.size + 2)

section Layout

variable {α : Type} {l u v : List α} {n : ℕ}

theorem drop_add_of_drop (h : l.drop n = u ++ v) : l.drop (n + u.length) = v := by
  rw [← List.drop_drop, h, List.drop_left]

theorem getElem?_of_drop {a : α} (h : l.drop n = a :: v) : l[n]? = some a := by
  have := congrArg (·[0]?) h
  simpa using this

end Layout

namespace Tree

variable {p : Program} {j : Jumps}

theorem layout_of_drop {t : Tree} {base : ℕ} {w : List Char} {k : List (Option ℕ)}
    (hc : p.chars.toList.drop base = t.text ++ w)
    (hk : j.partners.toList.drop base = t.partners base ++ k) : t.Layout p j base := by
  have hchar : ∀ {i : ℕ} {c : Char} {v : List Char}, p.chars.toList.drop i = c :: v →
      p.char? i = some c := by
    intro i c v h
    simpa [Program.char?] using getElem?_of_drop h
  have hpartner : ∀ {i : ℕ} {k : ℕ} {v : List (Option ℕ)}, j.partners.toList.drop i = some k :: v →
      j.partner? i = some k := by
    intro i k v h
    have := getElem?_of_drop h
    rw [Array.getElem?_toList] at this
    simp [Jumps.partner?, this]
  induction t generalizing base w k with
  | nil => trivial
  | char c h rest ih =>
    exact ⟨hchar hc, ih (drop_add_of_drop (u := [c]) hc) (drop_add_of_drop (u := [none]) hk)⟩
  | loop body rest ihb ihr =>
    have hc₁ : p.chars.toList.drop (base + 1) = body.text ++ (']' :: (rest.text ++ w)) := by
      simpa [text] using drop_add_of_drop (u := ['[']) hc
    have hk₁ : j.partners.toList.drop (base + 1) = body.partners (base + 1) ++
        (some base :: (rest.partners (base + body.size + 2) ++ k)) := by
      simpa [partners] using drop_add_of_drop (u := [_]) hk
    have hc₂ := drop_add_of_drop hc₁
    have hk₂ := drop_add_of_drop hk₁
    rw [show base + 1 + body.text.length = base + body.size + 1 by unfold size; omega] at hc₂
    rw [length_partners, show base + 1 + body.size = base + body.size + 1 by omega] at hk₂
    exact ⟨⟨hchar hc, hpartner hk⟩, ihb hc₁ hk₁, ⟨hchar hc₂, hpartner hk₂⟩,
      ihr (drop_add_of_drop (u := [']']) hc₂) (drop_add_of_drop (u := [_]) hk₂)⟩

/-- Every bracket of a layout has a partner. -/
theorem Layout.exists_partner {t : Tree} {base i : ℕ} {c : Char} (h : t.Layout p j base)
    (hi : base ≤ i) (hi' : i < base + t.size) (hc : p.char? i = some c) (hb : ¬ IsPlain c) :
    ∃ k, j.partner? i = some k := by
  induction t generalizing base with
  | nil => simp at hi'; omega
  | char c' hc' rest ih =>
    obtain ⟨h0, hr⟩ := h
    rw [size_char] at hi'
    by_cases hib : i = base
    · subst hib
      rw [h0] at hc
      obtain rfl := Option.some.inj hc
      exact absurd hc' hb
    · exact ih hr (by omega) (by omega)
  | loop body rest ihb ihr =>
    obtain ⟨⟨-, hopen⟩, hbody, ⟨-, hclose⟩, hrest⟩ := h
    rw [size_loop] at hi'
    by_cases h1 : i = base
    · subst h1; exact ⟨_, hopen⟩
    · by_cases h2 : i < base + body.size + 1
      · exact ihb hbody (by omega) (by omega)
      · by_cases h3 : i = base + body.size + 1
        · subst h3; exact ⟨_, hclose⟩
        · exact ihr hrest (by omega) (by omega)

/-- Partners stand in the text of the tree. -/
theorem lt_of_mem_partners {t : Tree} {base k : ℕ} (h : some k ∈ t.partners base) :
    k < base + t.size := by
  induction t generalizing base with
  | nil => simp [partners] at h
  | char c hc rest ih =>
    simp only [partners, List.mem_cons, reduceCtorEq, false_or] at h
    have := ih h
    rw [size_char]; omega
  | loop body rest ihb ihr =>
    simp only [partners, List.mem_cons, List.mem_append, Option.some.injEq] at h
    rw [size_loop]
    rcases h with rfl | h | rfl | h
    · omega
    · have := ihb h; omega
    · omega
    · have := ihr h; omega

end Tree

namespace Jumps

variable {p : Program} {j : Jumps}

/-- A program that loads is laid out as a tree. -/
theorem exists_layout (h : build p = .ok j) :
    ∃ t : Tree, t.text = p.chars.toList ∧ t.Layout p j 0 := by
  obtain ⟨t, ht, rfl⟩ := build_eq_ok_iff.mp h
  exact ⟨t, ht, Tree.layout_of_drop (w := []) (k := []) (by simp [ht]) (by simp)⟩

/-- Every bracket of a program that loads has a partner. -/
theorem exists_partner (h : build p = .ok j) {i : ℕ} {c : Char} (hc : p.char? i = some c)
    (hb : ¬ IsPlain c) : ∃ k, j.partner? i = some k := by
  obtain ⟨t, ht, hl⟩ := exists_layout h
  have hsize : t.size = p.size := by simp [Tree.size, ht, Program.size]
  have hi : i < p.size := by
    unfold Program.char? at hc
    exact (Array.getElem?_eq_some_iff.mp hc).1
  exact hl.exists_partner (Nat.zero_le i) (by omega) hc hb

/-- Partners are positions of the program. -/
theorem partner_lt (h : build p = .ok j) {i k : ℕ} (hk : j.partner? i = some k) : k < p.size := by
  obtain ⟨t, ht, rfl⟩ := build_eq_ok_iff.mp h
  have hsize : t.size = p.size := by simp [Tree.size, ht, Program.size]
  have hmem : some k ∈ t.partners 0 := by
    have := Option.join_eq_some_iff.mp hk
    exact List.mem_of_getElem? (by simpa using this)
  have := Tree.lt_of_mem_partners hmem
  omega

end Jumps

end Tapewalk
