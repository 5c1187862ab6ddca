import Mathlib.Data.List.Forall2
import Tapewalk.Proofs.Schema

/-!
# Which fields of a command count

A text may name a field more than once, in any place and among others that no command has.
`Json.entries?` lists the fields of an object as they are written; the value that is read keeps the
last field of each name (`Json.read_eq_object_iff`, `Json.lookup_settle`). Values are compared as
maps, whatever the order of their fields (`Value.Alike`). Readers answer alike values alike
(`Json.Uniform`), so what is decoded from a text depends on the last fields of six names only.
-/

namespace Tapewalk

/-! ## Fields as they are written -/

namespace Json

variable {fields : List (String × Value)} {name : String}

/-- The fields of an object up to its closing brace, as they are written. -/
def readEntries (item : Reader Value) : (fuel : ℕ) → Reader (List (String × Value))
  | 0, _ => none
  | fuel + 1, cs => do
    let (f, r) ← readField item cs
    match skipBlanks r with
    | ',' :: r => (readEntries item fuel r).map fun (es, r) => (f :: es, r)
    | '\x7d' :: r => some ([f], r)
    | _ => none

/-- The fields of an object whose opening brace has been read, as they are written. -/
def readBraced (item : Reader Value) (fuel : ℕ) : Reader (List (String × Value)) := fun cs =>
  match skipBlanks cs with
  | '\x7d' :: r => some ([], r)
  | cs => readEntries item fuel cs

/-- The fields of the object that a text holds, as they are written, or nothing if the text is no
JSON or holds no object. -/
def entries? (text : String) : Option (List (String × Value)) :=
  match skipBlanks text.toList with
  | '\x7b' :: cs => do
    let (es, r) ← readBraced (readValue text.toList.length (maxDepth - 1)) text.toList.length cs
    if skipBlanks r = [] then some es else none
  | _ => none

/-- Sets fields one after the other. -/
def settle (done es : List (String × Value)) : List (String × Value) :=
  es.foldl (fun done f => setField f.1 f.2 done) done

theorem lookup_cons_ite (k name : String) (v : Value) (fields : List (String × Value)) :
    ((k, v) :: fields).lookup name = if name = k then some v else fields.lookup name := by
  rw [List.lookup_cons]
  by_cases h : name = k
  · simp [h]
  · rw [beq_eq_false_iff_ne.mpr h, if_neg h]

theorem lookup_setField (n name : String) (v : Value) (fields : List (String × Value)) :
    (setField n v fields).lookup name = if name = n then some v else fields.lookup name := by
  induction fields with
  | nil => exact lookup_cons_ite n name v []
  | cons f fields ih =>
    obtain ⟨k, w⟩ := f
    rw [setField]
    by_cases hk : k = n
    · rw [if_pos hk, lookup_cons_ite, lookup_cons_ite, hk]
      split_ifs <;> rfl
    · rw [if_neg hk, lookup_cons_ite, lookup_cons_ite, ih]
      -- the field that was there first is not the one that is set
      split_ifs with hname hn
      · exact absurd (hname.symm.trans hn) hk
      · rfl
      · rfl
      · rfl

/-- **The last field of a name counts.** -/
theorem lookup_settle (done es : List (String × Value)) (name : String) :
    (settle done es).lookup name = (es.reverse.lookup name).or (done.lookup name) := by
  induction es generalizing done with
  | nil => rfl
  | cons f es ih =>
    rw [show settle done (f :: es) = settle (setField f.1 f.2 done) es from rfl, ih,
      List.reverse_cons, List.lookup_append, lookup_setField, lookup_cons_ite]
    cases es.reverse.lookup name with
    | some v => rfl
    | none => split_ifs <;> rfl

theorem readFields_eq (item : Reader Value) (fuel : ℕ) (done : List (String × Value))
    (cs : List Char) : readFields item fuel done cs =
      (readEntries item fuel cs).map fun (es, r) => (settle done es, r) := by
  induction fuel generalizing done cs with
  | zero => rfl
  | succ fuel ih =>
    simp only [readFields, readEntries]
    cases readField item cs with
    | none => rfl
    | some a =>
      obtain ⟨⟨n, v⟩, r⟩ := a
      simp only [Option.bind_eq_bind, Option.bind_some]
      generalize skipBlanks r = rest
      split
      · show readFields item fuel (setField n v done) _ = Option.map _ (Option.map _ _)
        rw [ih, Option.map_map]
        rfl
      · rfl
      · simp

theorem readObject_eq (item : Reader Value) (fuel : ℕ) (cs : List Char) :
    readObject item fuel cs =
      (readBraced item fuel cs).map fun (es, r) => (.object (settle [] es), r) := by
  unfold readObject readBraced
  generalize skipBlanks cs = rest
  split
  · rfl
  · simp only [readFields_eq, Option.map_map]
    rfl

theorem number_ne_object (negative : Bool) (whole : List Char) (fraction : Option (List Char))
    (power : Option ℤ) : number negative whole fraction power ≠ some (.object fields) := by
  have hfloat : ∀ o : Option Binary64, (o >>= fun x => pure (Value.float negative x)) ≠
      some (.object fields) := by
    intro o
    cases o <;> simp
  unfold number
  intro h
  dsimp only at h
  split_ifs at h
  · split at h
    · cases h
    · exact hfloat _ h
  · exact hfloat _ h

theorem readNumber_ne_object (cs r : List Char) : readNumber cs ≠ some (.object fields, r) := by
  intro h
  simp only [readNumber, Option.bind_eq_bind, Option.bind_eq_some_iff, Option.pure_def,
    Option.some.injEq, Prod.mk.injEq] at h
  obtain ⟨_, -, _, -, _, -, v, hv, rfl, -⟩ := h
  exact number_ne_object _ _ _ _ hv

theorem readArray_ne_object (item : Reader Value) (fuel : ℕ) (cs r : List Char) :
    readArray item fuel cs ≠ some (.object fields, r) := by
  intro h
  unfold readArray at h
  split at h
  · cases h
  · obtain ⟨a, -, ha⟩ := Option.map_eq_some_iff.mp h
    cases ha

/-- Only what begins with a brace is read as an object. -/
theorem readLevel_eq_object_iff {item : Reader Value} {fuel : ℕ} {cs r : List Char} :
    readLevel item fuel cs = some (.object fields, r) ↔
      ∃ rest, skipBlanks cs = '\x7b' :: rest ∧
        readObject item fuel rest = some (.object fields, r) := by
  unfold readLevel
  generalize skipBlanks cs = start
  split
  case h_2 => simp [readArray_ne_object]
  case h_7 hbrace _ _ _ =>
    constructor
    · intro h
      exact absurd h (readNumber_ne_object _ _)
    · rintro ⟨rest, rfl, -⟩
      exact absurd rfl (hbrace rest)
  all_goals simp

/-- **A text holds an object exactly if its fields can be listed**, and then the object has the last
ones of each name. -/
theorem read_eq_object_iff {text : String} :
    read text = some (.object fields) ↔ ∃ es, entries? text = some es ∧ settle [] es = fields := by
  have hlevel : readValue text.toList.length maxDepth =
      readLevel (readValue text.toList.length (maxDepth - 1)) text.toList.length := rfl
  unfold entries?
  simp only [read, hlevel, Option.bind_eq_bind, Option.bind_eq_some_iff]
  constructor
  · rintro ⟨⟨v, r⟩, hv, hend⟩
    split_ifs at hend with hr
    obtain rfl := Option.some.inj hend
    obtain ⟨rest, hrest, hobject⟩ := readLevel_eq_object_iff.mp hv
    rw [readObject_eq] at hobject
    obtain ⟨⟨es, r'⟩, hes, heq⟩ := Option.map_eq_some_iff.mp hobject
    obtain ⟨hfields, rfl⟩ := Prod.mk.inj heq
    refine ⟨es, ?_, Value.object.inj hfields⟩
    rw [hrest]
    show (readBraced _ _ rest).bind _ = some es
    rw [hes]
    exact if_pos hr
  · rintro ⟨es, hes, rfl⟩
    split at hes
    case h_2 => cases hes
    case h_1 cs hcs =>
      obtain ⟨⟨es', r⟩, hbraced, hend⟩ := Option.bind_eq_some_iff.mp hes
      dsimp only at hend
      split_ifs at hend with hr
      obtain rfl := Option.some.inj hend
      refine ⟨(.object (settle [] es'), r), ?_, if_pos hr⟩
      refine readLevel_eq_object_iff.mpr ⟨cs, hcs, ?_⟩
      rw [readObject_eq, hbraced]
      rfl

/-! ## Values as maps -/

/-- Values that differ in the order of fields only, in themselves or anywhere inside. -/
inductive Value.Alike : Value → Value → Prop
  | scalar {v : Value} : v.isScalar = true → Alike v v
  | array {vs ws : List Value} : List.Forall₂ Alike vs ws → Alike (.array vs) (.array ws)
  | object {fs gs hs : List (String × Value)} : fs.map Prod.fst = gs.map Prod.fst →
      List.Forall₂ Alike (fs.map Prod.snd) (gs.map Prod.snd) → gs.Perm hs →
      Alike (.object fs) (.object hs)

variable {v w : Value} {α β : Type}

/-- Alike values are the same text, if they are one. -/
theorem Value.Alike.string_iff (h : v.Alike w) (s : String) : v = .string s ↔ w = .string s := by
  cases h with
  | scalar _ => rfl
  | array _ | object _ _ _ => simp

/-- A reader answers alike values with the same result or the same message. -/
def Uniform (read : Value → Except Misfit α) : Prop :=
  ∀ v w : Value, v.Alike w → (read v).mapError Misfit.message = (read w).mapError Misfit.message

theorem mapError_bind {ε ε' : Type} (g : ε → ε') (x : Except ε α) (f : α → Except ε β) :
    (x >>= f).mapError g = x.mapError g >>= fun a => (f a).mapError g := by
  cases x <;> rfl

theorem mapError_map {ε ε' : Type} (g : ε → ε') (x : Except ε α) (f : α → β) :
    (x.map f).mapError g = (x.mapError g).map f := by
  cases x <;> rfl

theorem uniform_bounded (bound : ℕ) (wanted : Wanted) :
    Uniform fun v => v.bounded bound wanted := by
  intro v w h
  cases h <;> rfl

theorem Uniform.map {read : Value → Except Misfit α} (h : Uniform read) (f : α → β) :
    Uniform fun v => (read v).map f := by
  intro v w hvw
  rw [mapError_map, mapError_map, h v w hvw]

theorem uniform_byte : Uniform Value.byte := (uniform_bounded _ _).map _

theorem uniform_word : Uniform Value.word := (uniform_bounded _ _).map _

theorem uniform_text : Uniform Value.text := by
  intro v w h
  cases h <;> rfl

/-- The first element that does not fit is told in the same words. -/
theorem Uniform.mapM {read : Value → Except Misfit α} (h : Uniform read) {vs ws : List Value}
    (hvs : List.Forall₂ Value.Alike vs ws) :
    (vs.mapM read).mapError Misfit.message = (ws.mapM read).mapError Misfit.message := by
  induction hvs with
  | nil => rfl
  | cons hvw _ ih =>
    simp only [List.mapM_cons, mapError_bind, h _ _ hvw, ih]

theorem uniform_bytes : Uniform Value.bytes := by
  intro v w h
  cases h with
  | scalar _ => rfl
  | array hvs =>
    show ((List.mapM Value.byte _).map _).mapError _ = ((List.mapM Value.byte _).map _).mapError _
    rw [mapError_map, mapError_map, uniform_byte.mapM hvs]
  | object _ _ _ => rfl

/-- A field that may be missing. -/
theorem Uniform.optional {read : Value → Except Misfit α} (h : Uniform read)
    (hname : Option.Rel Value.Alike (v.field? name) (w.field? name)) :
    (v.optional name read).mapError Misfit.message =
      (w.optional name read).mapError Misfit.message := by
  unfold Value.optional
  generalize v.field? name = x, w.field? name = y at hname
  cases hname with
  | none => rfl
  | some hvw =>
    show ((read _).map _).mapError _ = ((read _).map _).mapError _
    rw [mapError_map, mapError_map, h _ _ hvw]

end Json

open Json

/-! ## Commands -/

namespace Mode

variable {a b : Value} {fs : List (String × Value)}

/-- A mode that is named by an object, which holds nothing or something else. -/
theorem ofJson_single (n : String) (h : a.Alike b) :
    (ofJson (.object [(n, a)])).mapError Misfit.message =
      (ofJson (.object [(n, b)])).mapError Misfit.message := by
  show (ofName n >>= _).mapError _ = (ofName n >>= _).mapError _
  cases ofName n with
  | error e => rfl
  | ok m =>
    cases h with
    | scalar _ | array _ => rfl
    | @object fs gs hs hnames _ hperm =>
      -- an object without fields has none in any order
      cases fs with
      | nil =>
        obtain rfl := List.map_eq_nil_iff.mp hnames.symm
        obtain rfl := hperm.nil_eq
        rfl
      | cons f fs =>
        cases hs with
        | nil =>
          obtain rfl := hperm.eq_nil
          cases hnames
        | cons h hs => rfl

/-- Several fields name no mode. -/
theorem ofJson_several (hfs : 2 ≤ fs.length) :
    (ofJson (.object fs)).mapError Misfit.message =
      .error (Misfit.wrongValue (.object []) .singleKey).message := by
  cases fs with
  | nil => simp at hfs
  | cons f fs =>
    cases fs with
    | nil => simp at hfs
    | cons g fs => rfl

/-- **A mode is read from alike values alike.** -/
theorem uniform_ofJson : Uniform ofJson := by
  intro v w h
  cases h with
  | scalar _ | array _ => rfl
  | @object fs gs hs hnames hvalues hperm =>
    have hlen : fs.length = hs.length := by
      have hcount := congrArg List.length hnames
      rw [List.length_map, List.length_map] at hcount
      rw [hcount, hperm.length_eq]
    by_cases hseveral : 2 ≤ fs.length
    · rw [ofJson_several hseveral, ofJson_several (hlen ▸ hseveral)]
    cases fs with
    | nil =>
      obtain rfl := List.eq_nil_of_length_eq_zero hlen.symm
      rfl
    | cons f fs =>
      rw [List.length_cons] at hseveral
      obtain rfl : fs = [] := List.eq_nil_of_length_eq_zero (by omega)
      obtain ⟨g, rfl⟩ := List.length_eq_one_iff.mp hlen.symm
      obtain rfl := List.perm_singleton.mp hperm
      obtain ⟨n, a⟩ := f
      obtain ⟨n', b⟩ := g
      obtain rfl : n = n' := by simpa using hnames
      exact ofJson_single n (by simpa using hvalues)

end Mode

/-- A refusal as a host learns of it: of what is malformed, only the text is told. -/
def Refusal.told : Refusal → Refusal ⊕ String
  | .malformed why => .inr why.message
  | e => .inl e

section Commands

variable {v w : Value} {α : Type}

/-- The values have alike fields of the given names. -/
def Json.Value.SameFields (v w : Value) (names : List String) : Prop :=
  ∀ name ∈ names, Option.Rel Value.Alike (v.field? name) (w.field? name)

/-- A field holds the same text in both values, if it holds one. -/
theorem Json.Value.SameFields.string_iff {names : List String} (h : v.SameFields w names)
    {name : String} (hname : name ∈ names) (s : String) :
    v.field? name = some (.string s) ↔ w.field? name = some (.string s) := by
  have hrel := h name hname
  generalize v.field? name = x, w.field? name = y at hrel
  cases hrel with
  | none => rfl
  | some halike =>
    rw [Option.some.injEq, Option.some.injEq]
    exact halike.string_iff s

namespace Command

/-- The fields that commands have. -/
def fieldNames : List String := ["command", "mode", "source", "eof", "input", "interval"]

/-- **The fields of a request** are read one after the other, in an order that the text has no part
in. -/
theorem request_told (h : v.SameFields w fieldNames) :
    (Request.ofJson v).mapError Misfit.message = (Request.ofJson w).mapError Misfit.message := by
  have heof := uniform_byte.optional (h "eof" (by decide))
  have hinput := uniform_bytes.optional (h "input" (by decide))
  have hinterval := uniform_word.optional (h "interval" (by decide))
  have hmode := Mode.uniform_ofJson.optional (h "mode" (by decide))
  have hsource := uniform_text.optional (h "source" (by decide))
  simp only [Request.ofJson, mapError_bind, heof, hinput, hinterval, hmode, hsource]

theorem told_fitting (x : Except Misfit α) :
    (fitting x).mapError Refusal.told = (x.mapError Misfit.message).mapError .inr := by
  cases x <;> rfl

theorem startOfJson_told (h : v.SameFields w fieldNames) :
    (startOfJson v).mapError Refusal.told = (startOfJson w).mapError Refusal.told := by
  have hmode := h.string_iff (by decide : "mode" ∈ fieldNames)
  rcases startOfJson_cases v with ⟨m, hm, hn, hv⟩ | ⟨hknown, hv⟩
  · rcases startOfJson_cases w with ⟨m', hm', -, hw⟩ | ⟨hknown, -⟩
    · rw [(hmode m).mp hm] at hm'
      obtain rfl : m = m' := by simpa using hm'
      rw [hv, hw]
    · exact absurd hn (hknown m ((hmode m).mp hm))
  · rcases startOfJson_cases w with ⟨m, hm, hn, -⟩ | ⟨-, hw⟩
    · exact absurd hn (hknown m ((hmode m).mpr hm))
    · rw [hv, hw, mapError_map, mapError_map, told_fitting, told_fitting, request_told h]

theorem restartOfJson_told (h : v.SameFields w fieldNames) :
    (restartOfJson v).mapError Refusal.told = (restartOfJson w).mapError Refusal.told := by
  have hinterval := uniform_word.optional (h "interval" (by decide))
  simp only [restartOfJson, mapError_bind, told_fitting, hinterval]

/-- **A command depends on its own fields only.** -/
theorem ofJson_told (h : v.SameFields w fieldNames) :
    (ofJson v).mapError Refusal.told = (ofJson w).mapError Refusal.told := by
  have hname := h.string_iff (by decide : "command" ∈ fieldNames)
  by_cases hnamed : ∃ n, v.field? "command" = some (.string n)
  · obtain ⟨n, hn⟩ := hnamed
    rw [ofJson_of_name hn, ofJson_of_name ((hname n).mp hn)]
    split_ifs
    · exact startOfJson_told h
    · rfl
    · exact restartOfJson_told h
    · rfl
    · rfl
  · have hv : ∀ n, v.field? "command" ≠ some (.string n) := fun n hn => hnamed ⟨n, hn⟩
    have hw : ∀ n, w.field? "command" ≠ some (.string n) := fun n hn => hv n ((hname n).mpr hn)
    rw [ofJson_of_unnamed hv, ofJson_of_unnamed hw]

end Command

end Commands

/-- **Only the last values of its own fields matter to a command.** Every text that holds an object
has its fields listed as they are written. If two such texts agree on the last fields of the six
names that commands use, the same command is decoded from both, or both are refused for the same
reason and in the same words: it does not matter what other fields there are, in which order fields
are written, what earlier fields of the same names hold, or how the text is spaced. -/
theorem decode_sees_last_fields :
    (∀ text, (∃ fields, Json.read text = some (.object fields)) ↔ ∃ es, entries? text = some es) ∧
    ∀ text text' es es', entries? text = some es → entries? text' = some es' →
      (∀ name ∈ ["command", "mode", "source", "eof", "input", "interval"],
        Option.Rel Value.Alike (es.reverse.lookup name) (es'.reverse.lookup name)) →
      (Command.decode text).mapError Refusal.told =
        (Command.decode text').mapError Refusal.told := by
  have hread : ∀ {text es}, entries? text = some es →
      Json.read text = some (.object (settle [] es)) := by
    intro text es hes
    exact read_eq_object_iff.mpr ⟨es, hes, rfl⟩
  refine ⟨fun text => ⟨?_, ?_⟩, ?_⟩
  · rintro ⟨fields, hfields⟩
    obtain ⟨es, hes, -⟩ := read_eq_object_iff.mp hfields
    exact ⟨es, hes⟩
  · rintro ⟨es, hes⟩
    exact ⟨_, hread hes⟩
  · intro text text' es es' hes hes' hsame
    have hfield : ∀ (es : List (String × Value)) name,
        (Value.object (settle [] es)).field? name = es.reverse.lookup name := by
      intro es name
      rw [Value.field?, lookup_settle]
      exact Option.or_none
    have h : (Value.object (settle [] es)).SameFields (.object (settle [] es'))
        Command.fieldNames := by
      intro name hname
      rw [hfield, hfield]
      exact hsame name hname
    rw [Command.decode, Command.decode, hread hes, hread hes']
    exact Command.ofJson_told h

/-- A mode that is none, in another order and after one that is unknown, and a byte after one that
is too large. -/
theorem decode_sees_last_fields_of_start :
    let plain := "\x7b\"command\":\"start\",\"source\":\"+\",\"eof\":0," ++
      "\"mode\":\x7b\"a\":1,\"b\":[]\x7d\x7d"
    let crowded := " \x7b\"mode\":\"turbo\", \"eof\":300, \"x\":null, " ++
      "\"mode\":\x7b\"b\":[],\"a\":1\x7d, \"eof\":0, \"source\":\"+\", \"command\":\"start\"\x7d"
    ∃ es es', entries? plain = some es ∧ entries? crowded = some es' ∧
      es.length = 4 ∧ es'.length = 7 ∧
      (Command.decode plain).mapError Refusal.told =
        .error (.inr "invalid value: map, expected map with a single key") ∧
      (Command.decode crowded).mapError Refusal.told =
        .error (.inr "invalid value: map, expected map with a single key") := by
  intro plain crowded
  have hplain : entries? plain = some [("command", .string "start"), ("source", .string "+"),
      ("eof", .integer 0), ("mode", .object [("a", .integer 1), ("b", .array [])])] := by
    simp only [entries?, plain, String.toList_append, String.reduceToList]
    rfl
  have hcrowded : entries? crowded = some [("mode", .string "turbo"), ("eof", .integer 300),
      ("x", .null), ("mode", .object [("b", .array []), ("a", .integer 1)]), ("eof", .integer 0),
      ("source", .string "+"), ("command", .string "start")] := by
    simp only [entries?, crowded, String.toList_append, String.reduceToList]
    rfl
  have hmode : (Value.object [("a", .integer 1), ("b", .array [])]).Alike
      (.object [("b", .array []), ("a", .integer 1)]) :=
    .object rfl (.cons (.scalar rfl) (.cons (.array .nil) .nil)) (.swap _ _ _)
  have hsame := decode_sees_last_fields.2 plain crowded _ _ hplain hcrowded (by
    simp only [List.forall_mem_cons]
    exact ⟨.some (.scalar rfl), .some hmode, .some (.scalar rfl), .some (.scalar rfl), .none, .none,
      nofun⟩)
  have hdecode : (Command.decode plain).mapError Refusal.told =
      .error (.inr "invalid value: map, expected map with a single key") := by
    rw [Command.decode, read_eq_object_iff.mpr ⟨_, hplain, rfl⟩]
    rfl
  exact ⟨_, _, hplain, hcrowded, rfl, rfl, hdecode, hsame.symm.trans hdecode⟩

end Tapewalk
