import Tapewalk.Proofs.Wire

/-!
# Which texts are commands

The fields of a command are read one after the other, and a start has the name of its mode looked at
before that. `Value.Gives` says what a field that may be missing gives, `Request.Written` what the
object of a start holds; the readers accept exactly this (`Request.ofJson_eq_ok_iff`). What is not
accepted is refused for the first of four reasons that applies.
-/

namespace Tapewalk

open Json (Value Misfit Wanted required)

/-! ## Fields -/

namespace Json

variable {α β : Type} {v w : Value} {name : String}

/-- A field that may be missing: it is there as it is written for `a`, or `a` is the default. -/
def Value.Gives (v : Value) (name : String) (default : α) (write : α → Value) (a : α) : Prop :=
  v.field? name = some (write a) ∨ v.field? name = none ∧ a = default

/-- The reader accepts what is written and nothing else. -/
def Recovers (read : Value → Except Misfit α) (write : α → Value) : Prop :=
  ∀ w a, read w = .ok a ↔ w = write a

theorem bind_eq_ok_iff {ε : Type} {x : Except ε α} {f : α → Except ε β} {b : β} :
    x >>= f = .ok b ↔ ∃ a, x = .ok a ∧ f a = .ok b := by
  cases x <;> simp [bind, Except.bind]

theorem map_eq_ok_iff {ε : Type} {x : Except ε α} {f : α → β} {b : β} :
    x.map f = .ok b ↔ ∃ a, x = .ok a ∧ f a = b := by
  cases x <;> simp [Except.map]

theorem required_eq_ok_iff {o : Option α} {a : α} : required name o = .ok a ↔ o = some a := by
  cases o <;> simp [required]

theorem Value.bounded_eq_ok_iff {bound n : ℕ} {wanted : Wanted} :
    w.bounded bound wanted = .ok n ↔ w = .integer n ∧ n < bound := by
  unfold Value.bounded
  split
  · rename_i k
    split_ifs with hk
    · simp only [Except.ok.injEq, Value.integer.injEq]
      omega
    · simp only [Value.integer.injEq, false_iff]
      omega
  · rename_i hw
    simp only [reduceCtorEq, false_iff, not_and]
    intro h
    exact absurd h (hw n)

/-- Numbers of a fixed size are recovered from the integers below their bound. -/
theorem recovers_bounded {bound : ℕ} {wanted : Wanted} {ofNat : ℕ → α} {toNat : α → ℕ}
    (hlt : ∀ a, toNat a < bound) (hof : ∀ a, ofNat (toNat a) = a)
    (hto : ∀ n < bound, toNat (ofNat n) = n) :
    Recovers (fun w => (w.bounded bound wanted).map ofNat) fun a => .integer (toNat a) := by
  intro w a
  simp only [map_eq_ok_iff, Value.bounded_eq_ok_iff]
  constructor
  · rintro ⟨n, ⟨rfl, hn⟩, rfl⟩
    rw [hto n hn]
  · rintro rfl
    exact ⟨toNat a, ⟨rfl, hlt a⟩, hof a⟩

theorem recovers_byte : Recovers Value.byte fun b => .integer b.toNat :=
  recovers_bounded UInt8.toNat_lt (fun _ => UInt8.ofNat_toNat) fun _ => UInt8.toNat_ofNat_of_lt

theorem recovers_word : Recovers Value.word fun n => .integer n.toNat :=
  recovers_bounded UInt64.toNat_lt (fun _ => UInt64.ofNat_toNat) fun _ => UInt64.toNat_ofNat_of_lt

theorem recovers_text : Recovers Value.text .string := by
  intro w s
  cases w <;> simp [Value.text]

theorem mapM_byte_eq_ok {items : List Value} {bs : List UInt8}
    (h : items.mapM Value.byte = .ok bs) : items = bs.map fun b => .integer b.toNat := by
  induction items generalizing bs with
  | nil => obtain rfl : [] = bs := Except.ok.inj h; rfl
  | cons w items ih =>
    rw [List.mapM_cons] at h
    obtain ⟨b, hb, h⟩ := bind_eq_ok_iff.mp h
    obtain ⟨bs', hbs, h⟩ := bind_eq_ok_iff.mp h
    obtain rfl : b :: bs' = bs := Except.ok.inj h
    rw [(recovers_byte w b).mp hb, ih hbs, List.map_cons]

theorem recovers_bytes : Recovers Value.bytes .ofBytes := by
  intro w bs
  constructor
  · intro h
    unfold Value.bytes at h
    split at h
    · obtain ⟨l, hl, rfl⟩ := map_eq_ok_iff.mp h
      rw [mapM_byte_eq_ok hl, Value.ofBytes]
    · cases h
  · rintro rfl
    exact Value.bytes_ofBytes bs

/-- A field that may be missing gives what was read, or the default. -/
theorem optional_iff_gives {read : Value → Except Misfit α} {write : α → Value}
    (hread : Recovers read write) {default a : α} :
    (∃ o, v.optional name read = .ok o ∧ o.getD default = a) ↔ v.Gives name default write a := by
  unfold Value.optional Value.Gives
  cases v.field? name with
  | none => simp [eq_comm]
  | some w =>
    simp only [map_eq_ok_iff, Option.some.injEq, reduceCtorEq, false_and, or_false, ← hread w a]
    constructor
    · rintro ⟨o, ⟨b, hb, rfl⟩, rfl⟩
      exact hb
    · intro ha
      exact ⟨some a, ⟨a, ha, rfl⟩, rfl⟩

/-- A field that must be there. -/
theorem optional_eq_some_iff {read : Value → Except Misfit α} {a : α} :
    v.optional name read = .ok (some a) ↔ ∃ w, v.field? name = some w ∧ read w = .ok a := by
  unfold Value.optional
  cases v.field? name with
  | none => simp
  | some w => simp [map_eq_ok_iff]

end Json

open Json

/-! ## Modes -/

namespace Mode

/-- The names of a mode. -/
def names : Mode → List String
  | .disabled => ["disabled", "disable"]
  | .simple => ["simple"]

/-- A value that names a mode: one of its names, or an object that has the name for its only key and
nothing, or an empty object, for the value. -/
inductive Named (m : Mode) : Value → Prop
  | name {n : String} : n ∈ m.names → Named m (.string n)
  | null {n : String} : n ∈ m.names → Named m (.object [(n, .null)])
  | empty {n : String} : n ∈ m.names → Named m (.object [(n, .object [])])

theorem ofName?_eq_some_iff {n : String} {m : Mode} : ofName? n = some m ↔ n ∈ m.names := by
  unfold ofName?
  split
  · cases m <;> simp [names]
  · cases m <;> simp [names]
  · cases m <;> simp [names]
  · rename_i hdisabled hdisable hsimple
    simp only [reduceCtorEq, false_iff]
    intro hn
    cases m with
    | disabled => simp [names] at hn; exact hn.elim hdisabled hdisable
    | simple => simp [names] at hn; exact hsimple hn

theorem ofName?_eq_none_iff {n : String} :
    ofName? n = none ↔ n ∉ ["disabled", "disable", "simple"] := by
  unfold ofName?
  split <;> simp_all

theorem ofName_eq_ok_iff {n : String} {m : Mode} : ofName n = .ok m ↔ n ∈ m.names := by
  unfold ofName
  rw [← ofName?_eq_some_iff]
  cases ofName? n <;> simp

theorem ofJson_eq_ok_iff {w : Value} {m : Mode} : ofJson w = .ok m ↔ m.Named w := by
  constructor
  · intro h
    unfold ofJson at h
    split at h
    · exact .name (ofName_eq_ok_iff.mp h)
    · obtain ⟨m', hm, h⟩ := bind_eq_ok_iff.mp h
      have hn := ofName_eq_ok_iff.mp hm
      split at h
      · obtain rfl := Except.ok.inj h
        exact .null hn
      · obtain rfl := Except.ok.inj h
        exact .empty hn
      · cases h
    · cases h
    · cases h
  · intro h
    cases h with
    | name hn => exact ofName_eq_ok_iff.mpr hn
    | null hn => exact bind_eq_ok_iff.mpr ⟨m, ofName_eq_ok_iff.mpr hn, rfl⟩
    | empty hn => exact bind_eq_ok_iff.mpr ⟨m, ofName_eq_ok_iff.mpr hn, rfl⟩

end Mode

/-! ## Requests -/

/-- The fields of the object of a start. -/
structure Request.Written (r : Request) (v : Value) : Prop where
  mode : ∃ w, v.field? "mode" = some w ∧ r.mode.Named w
  source : v.field? "source" = some (.string r.source)
  eof : v.Gives "eof" 0 (fun b => .integer b.toNat) r.eof
  input : v.Gives "input" #[] (fun bs => .array (bs.toList.map fun b => .integer b.toNat)) r.input
  interval : v.Gives "interval" 100 (fun n => .integer n.toNat) r.interval

/-- **A request is read exactly from an object with its fields.** -/
theorem Request.ofJson_eq_ok_iff {r : Request} {v : Value} : ofJson v = .ok r ↔ r.Written v := by
  unfold ofJson
  simp only [bind_eq_ok_iff, required_eq_ok_iff]
  constructor
  · rintro ⟨eof, heof, input, hinput, interval, hinterval, mode, hmode, source, hsource, m, rfl, s,
      rfl, h⟩
    obtain rfl := Except.ok.inj h
    obtain ⟨w, hw, hm⟩ := optional_eq_some_iff.mp hmode
    obtain ⟨u, hu, hs⟩ := optional_eq_some_iff.mp hsource
    rw [(recovers_text u s).mp hs] at hu
    exact ⟨⟨w, hw, Mode.ofJson_eq_ok_iff.mp hm⟩, hu,
      (optional_iff_gives recovers_byte).mp ⟨_, heof, rfl⟩,
      (optional_iff_gives recovers_bytes).mp ⟨_, hinput, rfl⟩,
      (optional_iff_gives recovers_word).mp ⟨_, hinterval, rfl⟩⟩
  · intro h
    obtain ⟨eof, heof, he⟩ := (optional_iff_gives recovers_byte).mpr h.eof
    obtain ⟨input, hinput, hi⟩ := (optional_iff_gives recovers_bytes).mpr h.input
    obtain ⟨interval, hinterval, ht⟩ := (optional_iff_gives recovers_word).mpr h.interval
    obtain ⟨w, hw, hm⟩ := h.mode
    have hmode := optional_eq_some_iff.mpr ⟨w, hw, Mode.ofJson_eq_ok_iff.mpr hm⟩
    have hsource := optional_eq_some_iff.mpr ⟨_, h.source, (recovers_text _ _).mpr rfl⟩
    refine ⟨eof, heof, input, hinput, interval, hinterval, _, hmode, _, hsource, _, rfl, _, rfl, ?_⟩
    cases r
    simp only at he hi ht
    subst he hi ht
    rfl

/-! ## Commands -/

namespace Command

variable {v : Value}

theorem fitting_eq_ok_iff {α : Type} {x : Except Misfit α} {a : α} :
    fitting x = .ok a ↔ x = .ok a := by
  cases x <;> simp [fitting]

theorem fitting_error {α : Type} {x : Except Misfit α} {e : Refusal} (h : fitting x = .error e) :
    ∃ why, e = .malformed why := by
  cases x with
  | ok a => cases h
  | error m => exact ⟨_, (Except.error.inj h).symm⟩

/-- **What becomes of a start**: the name of an unknown mode is refused whatever the fields are, and
otherwise the fields decide. -/
theorem startOfJson_cases (v : Value) :
    (∃ m, v.field? "mode" = some (.string m) ∧ Mode.ofName? m = none ∧
      startOfJson v = .error (.unknownMode m)) ∨
    ((∀ m, v.field? "mode" = some (.string m) → Mode.ofName? m ≠ none) ∧
      startOfJson v = (fitting (Request.ofJson v)).map .start) := by
  unfold startOfJson
  split
  · rename_i m hm
    cases hn : Mode.ofName? m with
    | none => exact .inl ⟨m, hm, hn, rfl⟩
    | some mode =>
      refine .inr ⟨fun m' hm' => ?_, rfl⟩
      rw [hm] at hm'
      obtain rfl : m = m' := by simpa using hm'
      simp [hn]
  · rename_i hm
    exact .inr ⟨fun m' hm' => absurd hm' (hm m'), rfl⟩

/-- The mode of a request that was written by a name has this name. -/
theorem ofName?_of_written {r : Request} {m : String} (hr : r.Written v)
    (hm : v.field? "mode" = some (.string m)) : Mode.ofName? m = some r.mode := by
  obtain ⟨w, hw, hnamed⟩ := hr.mode
  rw [hm] at hw
  obtain rfl := Option.some.inj hw
  cases hnamed with
  | name hmem => exact Mode.ofName?_eq_some_iff.mpr hmem

theorem startOfJson_eq_ok_iff {c : Command} :
    startOfJson v = .ok c ↔ ∃ r : Request, c = .start r ∧ r.Written v := by
  rcases startOfJson_cases v with ⟨m, hm, hn, hs⟩ | ⟨-, hs⟩
  · rw [hs]
    simp only [reduceCtorEq, false_iff, not_exists, not_and]
    intro r _ hr
    rw [ofName?_of_written hr hm] at hn
    cases hn
  · rw [hs]
    simp only [map_eq_ok_iff, fitting_eq_ok_iff, Request.ofJson_eq_ok_iff]
    constructor
    · rintro ⟨r, hr, rfl⟩
      exact ⟨r, rfl, hr⟩
    · rintro ⟨r, rfl, hr⟩
      exact ⟨r, hr, rfl⟩

theorem restartOfJson_eq_ok_iff {c : Command} : restartOfJson v = .ok c ↔
    ∃ n, c = .restart n ∧ v.Gives "interval" 100 (fun n => .integer n.toNat) n := by
  simp only [restartOfJson, bind_eq_ok_iff, fitting_eq_ok_iff, ← optional_iff_gives recovers_word]
  constructor
  · rintro ⟨o, ho, h⟩
    exact ⟨_, (Except.ok.inj h).symm, o, ho, rfl⟩
  · rintro ⟨n, rfl, o, ho, rfl⟩
    exact ⟨o, ho, rfl⟩

/-- The refusals of a start. -/
theorem startOfJson_error {e : Refusal} (h : startOfJson v = .error e) :
    (∃ m, e = .unknownMode m ∧ v.field? "mode" = some (.string m) ∧ Mode.ofName? m = none) ∨
    ∃ why, e = .malformed why := by
  rcases startOfJson_cases v with ⟨m, hm, hn, hs⟩ | ⟨-, hs⟩
  · rw [hs] at h
    exact .inl ⟨m, (Except.error.inj h).symm, hm, hn⟩
  · rw [hs] at h
    cases hf : fitting (Request.ofJson v) with
    | ok r => rw [hf] at h; cases h
    | error e' =>
      rw [hf] at h
      obtain rfl : e' = e := Except.error.inj h
      exact .inr (fitting_error hf)

theorem restartOfJson_error {e : Refusal} (h : restartOfJson v = .error e) :
    ∃ why, e = .malformed why := by
  unfold restartOfJson at h
  cases hf : fitting (v.optional "interval" Value.word) with
  | ok o => rw [hf] at h; cases h
  | error e' =>
    rw [hf] at h
    obtain rfl : e' = e := Except.error.inj h
    exact fitting_error hf

/-- The object of a command: its name, and the fields that belong to it. -/
def Written (v : Value) : Command → Prop
  | .start r => v.field? "command" = some (.string "start") ∧ r.Written v
  | .stop => v.field? "command" = some (.string "stop")
  | .restart n => v.field? "command" = some (.string "restart") ∧
      v.Gives "interval" 100 (fun n => .integer n.toNat) n
  | .step => v.field? "command" = some (.string "step")

/-- The name of a command, as far as a value has one. -/
theorem ofJson_of_name {n : String} (h : v.field? "command" = some (.string n)) : ofJson v =
    if n = "start" then startOfJson v else if n = "stop" then .ok .stop
    else if n = "restart" then restartOfJson v else if n = "step" then .ok .step
    else .error (.unknownCommand n) := by
  unfold ofJson
  rw [h]
  split
  all_goals simp_all

theorem ofJson_of_unnamed (h : ∀ n, v.field? "command" ≠ some (.string n)) :
    ofJson v = .error (.malformed .noCommand) := by
  unfold ofJson
  split
  case h_6 => rfl
  all_goals exact absurd ‹_› (h _)

/-- What `ofJson` makes of a value, by the name that it has. -/
theorem ofJson_cases (v : Value) :
    (∃ n, v.field? "command" = some (.string n) ∧
      ((n = "start" ∧ ofJson v = startOfJson v) ∨ (n = "stop" ∧ ofJson v = .ok .stop) ∨
        (n = "restart" ∧ ofJson v = restartOfJson v) ∨ (n = "step" ∧ ofJson v = .ok .step) ∨
        (n ∉ ["start", "stop", "restart", "step"] ∧ ofJson v = .error (.unknownCommand n)))) ∨
    ((∀ n, v.field? "command" ≠ some (.string n)) ∧ ofJson v = .error (.malformed .noCommand)) := by
  by_cases h : ∃ n, v.field? "command" = some (.string n)
  · obtain ⟨n, hn⟩ := h
    refine .inl ⟨n, hn, ?_⟩
    rw [ofJson_of_name hn]
    split_ifs <;> simp_all
  · have h' : ∀ n, v.field? "command" ≠ some (.string n) := fun n hn => h ⟨n, hn⟩
    exact .inr ⟨h', ofJson_of_unnamed h'⟩

/-- **A command is read exactly from its object.** -/
theorem ofJson_eq_ok_iff {c : Command} : ofJson v = .ok c ↔ c.Written v := by
  rcases ofJson_cases v with ⟨n, hn, h⟩ | ⟨hn, h⟩
  · rcases h with ⟨rfl, h⟩ | ⟨rfl, h⟩ | ⟨rfl, h⟩ | ⟨rfl, h⟩ | ⟨hunknown, h⟩
    · rw [h, startOfJson_eq_ok_iff]
      cases c <;> simp [Written, hn]
    · rw [h]
      cases c <;> simp [Written, hn]
    · rw [h, restartOfJson_eq_ok_iff]
      cases c <;> simp [Written, hn]
    · rw [h]
      cases c <;> simp [Written, hn]
    · rw [h]
      cases c <;> simp_all [Written]
  · rw [h]
    cases c <;> simp [Written, hn]

/-- The value names a command that there is not. -/
def UnknownName (v : Value) (n : String) : Prop :=
  v.field? "command" = some (.string n) ∧ n ∉ ["start", "stop", "restart", "step"]

/-- The value is a start that names a mode that there is not. -/
def UnknownMode (v : Value) (m : String) : Prop :=
  v.field? "command" = some (.string "start") ∧ v.field? "mode" = some (.string m) ∧
    m ∉ ["disabled", "disable", "simple"]

/-- The refusals of a value. -/
theorem ofJson_error {e : Refusal} (h : ofJson v = .error e) :
    (∃ n, e = .unknownCommand n ∧ UnknownName v n) ∨ (∃ m, e = .unknownMode m ∧ UnknownMode v m) ∨
    ∃ why, e = .malformed why := by
  rcases ofJson_cases v with ⟨n, hn, hcases⟩ | ⟨-, hv⟩
  · rcases hcases with ⟨rfl, hv⟩ | ⟨rfl, hv⟩ | ⟨rfl, hv⟩ | ⟨rfl, hv⟩ | ⟨hunknown, hv⟩
    · rw [hv] at h
      rcases startOfJson_error h with ⟨m, he, hm, hnone⟩ | hwhy
      · exact .inr (.inl ⟨m, he, hn, hm, Mode.ofName?_eq_none_iff.mp hnone⟩)
      · exact .inr (.inr hwhy)
    · rw [hv] at h; cases h
    · rw [hv] at h
      exact .inr (.inr (restartOfJson_error h))
    · rw [hv] at h; cases h
    · rw [hv] at h
      exact .inl ⟨n, (Except.error.inj h).symm, hn, hunknown⟩
  · rw [hv] at h
    exact .inr (.inr ⟨_, (Except.error.inj h).symm⟩)

theorem ofJson_unknownCommand_iff {n : String} :
    ofJson v = .error (.unknownCommand n) ↔ UnknownName v n := by
  constructor
  · intro h
    rcases ofJson_error h with ⟨n', he, hn⟩ | ⟨m, he, -⟩ | ⟨why, he⟩
    · cases he
      exact hn
    · cases he
    · cases he
  · rintro ⟨hn, hunknown⟩
    rw [ofJson_of_name hn]
    simp_all

theorem ofJson_unknownMode_iff {m : String} :
    ofJson v = .error (.unknownMode m) ↔ UnknownMode v m := by
  constructor
  · intro h
    rcases ofJson_error h with ⟨n, he, -⟩ | ⟨m', he, hm⟩ | ⟨why, he⟩
    · cases he
    · cases he
      exact hm
    · cases he
  · rintro ⟨hn, hm, hunknown⟩
    rw [ofJson_of_name hn, if_pos rfl]
    rcases startOfJson_cases v with ⟨m', hm', -, hs⟩ | ⟨hknown, -⟩
    · rw [hm] at hm'
      obtain rfl : m = m' := by simpa using hm'
      exact hs
    · exact absurd (Mode.ofName?_eq_none_iff.mpr hunknown) (hknown m hm)

/-- What is neither a command nor names something unknown is malformed. -/
theorem ofJson_malformed_iff : (∃ why, ofJson v = .error (.malformed why)) ↔
    (∀ c : Command, ¬ c.Written v) ∧ (∀ n, ¬ UnknownName v n) ∧ ∀ m, ¬ UnknownMode v m := by
  simp only [← ofJson_eq_ok_iff, ← ofJson_unknownCommand_iff, ← ofJson_unknownMode_iff]
  constructor
  · rintro ⟨why, h⟩
    simp [h]
  · rintro ⟨hok, hname, hmode⟩
    cases h : ofJson v with
    | ok c => exact absurd h (hok c)
    | error e =>
      rcases ofJson_error h with ⟨n, rfl, -⟩ | ⟨m, rfl, -⟩ | ⟨why, rfl⟩
      · exact absurd h (hname n)
      · exact absurd h (hmode m)
      · exact ⟨why, rfl⟩

end Command

/-- **A text is decoded exactly if its value has the fields of a command.** Otherwise it is refused:
as malformed if no command is named, else for the name of the command, else, whatever its fields
are, for the name of the mode of a start, else as malformed. -/
theorem decode_accepts_schema (text : String) (v : Value) (hv : Json.read text = some v) :
    (∀ c, Command.decode text = .ok c ↔ c.Written v) ∧
    (∀ n, Command.decode text = .error (.unknownCommand n) ↔ Command.UnknownName v n) ∧
    (∀ m, Command.decode text = .error (.unknownMode m) ↔ Command.UnknownMode v m) ∧
    ((∃ why, Command.decode text = .error (.malformed why)) ↔ (∀ c : Command, ¬ c.Written v) ∧
      (∀ n, ¬ Command.UnknownName v n) ∧ ∀ m, ¬ Command.UnknownMode v m) ∧
    ((∀ n, v.field? "command" ≠ some (.string n)) →
      Command.decode text = .error (.malformed .noCommand)) := by
  have hdecode : Command.decode text = Command.ofJson v := by
    rw [Command.decode, hv]
  rw [hdecode]
  exact ⟨fun c => Command.ofJson_eq_ok_iff, fun n => Command.ofJson_unknownCommand_iff,
    fun m => Command.ofJson_unknownMode_iff, Command.ofJson_malformed_iff,
    Command.ofJson_of_unnamed⟩

/-- A mode that is named by an object, an unknown mode beside a number that does not fit, and an
interval that is there but is nothing. -/
theorem decode_accepts_schema_of_texts :
    let start := "\x7b\"eof\":255,\"mode\":\x7b\"disable\":\x7b\x7d\x7d,\"source\":\"+\"," ++
      "\"command\":\"start\"\x7d"
    let turbo := "\x7b\"command\":\"start\",\"mode\":\"turbo\",\"eof\":-1\x7d"
    let null := "\x7b\"command\":\"restart\",\"interval\":null\x7d"
    Command.decode start = .ok (.start { mode := .disabled, source := "+", eof := 255 }) ∧
    Command.decode turbo = .error (.unknownMode "turbo") ∧
    ∃ why, Command.decode null = .error (.malformed why) := by
  intro start turbo null
  have hstart : Json.read start = some (.object [("eof", .integer 255),
      ("mode", .object [("disable", .object [])]), ("source", .string "+"),
      ("command", .string "start")]) := by
    simp only [Json.read, start, String.toList_append, String.reduceToList]
    rfl
  have hturbo : Json.read turbo = some (.object [("command", .string "start"),
      ("mode", .string "turbo"), ("eof", .integer (-1))]) := by
    simp only [Json.read, turbo, String.reduceToList]
    rfl
  have hnull : Json.read null = some (.object [("command", .string "restart"),
      ("interval", .null)]) := by
    simp only [Json.read, null, String.reduceToList]
    rfl
  refine ⟨?_, ?_, ?_⟩
  · refine ((decode_accepts_schema _ _ hstart).1 _).mpr ⟨rfl, ?_⟩
    exact ⟨⟨_, rfl, .empty (by decide)⟩, rfl, .inl rfl, .inr ⟨rfl, rfl⟩, .inr ⟨rfl, rfl⟩⟩
  · exact ((decode_accepts_schema _ _ hturbo).2.2.1 _).mpr ⟨rfl, rfl, by decide⟩
  · have hname : ∀ n, (Value.object [("command", .string "restart"), ("interval", .null)]).field?
        "command" = some (.string n) → n = "restart" := by
      intro n h
      exact (Value.string.inj (Option.some.inj h)).symm
    refine (decode_accepts_schema _ _ hnull).2.2.2.1.mpr ⟨fun c hc => ?_, fun n hn => ?_,
      fun m hm => absurd (hname _ hm.1) (by decide)⟩
    · cases c with
      | start r => exact absurd (hname _ hc.1) (by decide)
      | restart n =>
        obtain ⟨-, h | ⟨h, -⟩⟩ := hc
        · cases h
        · cases h
      | stop => exact absurd (hname _ hc) (by decide)
      | step => exact absurd (hname _ hc) (by decide)
    · obtain ⟨h, hunknown⟩ := hn
      obtain rfl := hname n h
      exact hunknown (by decide)

end Tapewalk
