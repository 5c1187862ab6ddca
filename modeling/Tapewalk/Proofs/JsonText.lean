import Mathlib.Data.List.TakeWhile
import Tapewalk.Json.Reader
import Tapewalk.Json.Writer

/-!
# What is written is read

The reader inverts the writer: it reads the text of a value as this value, whatever follows the text
(`readValue_write`, `read_toText`). This is so for every value without floating point numbers whose
integers fit 64 bits, whose fields have distinct names and which is not nested too deep
(`Value.Fits`). Written texts have no control characters, so each is one line.
-/

namespace Tapewalk

namespace Json

/-! ## Strings -/

theorem hexValue_digitChar : ∀ n < 16, hexValue (Nat.digitChar n) = some n := by decide

/-- A character that needs no escape stands for itself. -/
theorem readChars_cons {c : Char} (hquote : c ≠ '"') (hslash : c ≠ '\\') (hc : ¬ c < ' ')
    (done r : List Char) : readChars done (c :: r) = readChars (c :: done) r := by
  rw [readChars, if_neg hc]
  · exact hquote
  · exact fun _ _ _ _ _ h => absurd h hslash
  · exact fun _ _ h => absurd h hslash

/-- The code of a control character is read as this character. -/
theorem readChars_code {c : Char} (hc : c < ' ') (done r : List Char) :
    readChars done ('\\' :: 'u' :: '0' :: '0' :: Nat.digitChar (c.toNat / 16) ::
      Nat.digitChar (c.toNat % 16) :: r) = readChars (c :: done) r := by
  have hlt : c.toNat < 32 := hc
  have hcode : hexValue4 '0' '0' (Nat.digitChar (c.toNat / 16)) (Nat.digitChar (c.toNat % 16)) =
      some c.toNat := by
    have hzero : hexValue '0' = some 0 := rfl
    simp only [hexValue4, hzero, hexValue_digitChar (c.toNat / 16) (by omega),
      hexValue_digitChar (c.toNat % 16) (by omega), Option.bind_eq_bind, Option.bind_some,
      Option.pure_def, Option.some.injEq]
    omega
  -- a control character is no half of a character outside the basic plane
  have hhigh : isHighSurrogate c.toNat = false := by simp [isHighSurrogate]; omega
  have hlow : isLowSurrogate c.toNat = false := by simp [isLowSurrogate]; omega
  rw [readChars]
  simp only [hcode, hhigh, hlow, Char.ofNat_toNat, Bool.false_eq_true, if_false]

/-- A character of a string is read as it was written. -/
theorem readChars_writeChar (c : Char) (done r : List Char) :
    readChars done (writeChar c ++ r) = readChars (c :: done) r := by
  unfold writeChar
  split_ifs with hspecial hb hf hn hr ht hcontrol
  · obtain rfl | rfl := hspecial <;> rfl
  · rw [hb]; rfl
  · rw [hf]; rfl
  · rw [hn]; rfl
  · rw [hr]; rfl
  · rw [ht]; rfl
  · exact readChars_code hcontrol done r
  · exact readChars_cons (fun h => hspecial (.inl h)) (fun h => hspecial (.inr h)) hcontrol done r

theorem readChars_writeChars (cs done r : List Char) :
    readChars done (cs.flatMap writeChar ++ '"' :: r) = some (done.reverse ++ cs, r) := by
  induction cs generalizing done with
  | nil => simp [readChars]
  | cons c cs ih =>
    rw [List.flatMap_cons, List.append_assoc, readChars_writeChar, ih, List.reverse_cons,
      List.append_assoc]
    rfl

theorem writeString_append (s : String) (r : List Char) :
    writeString s ++ r = '"' :: (s.toList.flatMap writeChar ++ '"' :: r) := by
  simp [writeString]

/-- **A string is read as it was written.** -/
theorem readString_written (s : String) (r : List Char) :
    readString (s.toList.flatMap writeChar ++ '"' :: r) = some (s, r) := by
  simp [readString, readChars_writeChars]

/-! ## Numbers -/

/-- What may follow a value that was written: nothing, a comma or the end of an array or object. -/
def Delimited (r : List Char) : Prop := ∀ c ∈ r.head?, c = ',' ∨ c = ']' ∨ c = '\x7d'

theorem delimited_nil : Delimited [] := nofun

theorem delimited_cons {c : Char} {r : List Char} (hc : c = ',' ∨ c = ']' ∨ c = '\x7d') :
    Delimited (c :: r) := by
  rintro d ⟨⟩
  exact hc

theorem readFraction_of_delimited {r : List Char} (hr : Delimited r) :
    readFraction r = some (none, r) := by
  cases r with
  | nil => rfl
  | cons c r => obtain rfl | rfl | rfl := hr c rfl <;> rfl

theorem readExponent_of_delimited {r : List Char} (hr : Delimited r) :
    readExponent r = some (none, r) := by
  cases r with
  | nil => rfl
  | cons c r => obtain rfl | rfl | rfl := hr c rfl <;> rfl

theorem digitValue_digitChar {d : ℕ} (hd : d < 10) : digitValue (Nat.digitChar d) = d := by
  have hzero : '0'.toNat = 48 := rfl
  rw [digitValue, Nat.toNat_digitChar_of_lt_ten hd, hzero]
  omega

theorem decimal_of_lt {n : ℕ} (hn : n < 10) : Digits.decimal n = [Nat.digitChar n] :=
  Nat.toDigits_of_lt_base hn

theorem decimal_of_le {n : ℕ} (hn : 10 ≤ n) :
    Digits.decimal n = Digits.decimal (n / 10) ++ [Nat.digitChar (n % 10)] :=
  Nat.toDigits_of_base_le (by decide) hn

/-- The digits of a positive number do not begin with a zero. -/
theorem exists_decimal_eq_cons {n : ℕ} (hn : 0 < n) :
    ∃ d ds, Digits.decimal n = d :: ds ∧ d.isDigit = true ∧ d ≠ '0' := by
  induction n using Nat.strongRecOn with
  | ind n ih =>
    by_cases hlt : n < 10
    · have hne : ∀ k < 10, 0 < k → Nat.digitChar k ≠ '0' := by decide
      refine ⟨_, [], decimal_of_lt hlt, ?_, hne n hlt hn⟩
      rw [Nat.isDigit_digitChar]
      exact decide_eq_true hlt
    · obtain ⟨d, ds, hds, hd⟩ := ih (n / 10) (by omega) (by omega)
      refine ⟨d, ds ++ [Nat.digitChar (n % 10)], ?_, hd⟩
      rw [decimal_of_le (Nat.le_of_not_lt hlt), hds]
      rfl

theorem isDigit_of_mem_decimal {n : ℕ} {c : Char} (hc : c ∈ Digits.decimal n) : c.isDigit = true :=
  Nat.isDigit_of_mem_toDigits (by decide) (by decide) hc

/-- The digits of a number are read up to what follows them. -/
theorem readWhole_decimal (n : ℕ) {r : List Char} (hr : Delimited r) :
    readWhole (Digits.decimal n ++ r) = some (Digits.decimal n, r) := by
  have hstop : r.takeWhile Char.isDigit = [] ∧ r.dropWhile Char.isDigit = r := by
    cases r with
    | nil => exact ⟨rfl, rfl⟩
    | cons c r => obtain rfl | rfl | rfl := hr c rfl <;> exact ⟨rfl, rfl⟩
  have hdigits : readDigits (Digits.decimal n ++ r) = some (Digits.decimal n, r) := by
    rw [readDigits, List.takeWhile_append_of_pos fun _ => isDigit_of_mem_decimal,
      List.dropWhile_append_of_pos fun _ => isDigit_of_mem_decimal, hstop.1, hstop.2,
      List.append_nil]
  simp only [readWhole, hdigits, Option.bind_eq_bind, Option.bind_some]
  rcases Nat.eq_zero_or_pos n with rfl | hn
  · rfl
  · obtain ⟨d, ds, hds, -, hne⟩ := exists_decimal_eq_cons hn
    rw [hds]
    split <;> simp_all

/-- One more digit is absorbed as long as the number stays below the bound. -/
theorem absorb_concat {n k : ℕ} {ds : List Char} {c : Char} (h : absorb n ds = (k, 0))
    (hk : k * 10 + digitValue c < wordBound) :
    absorb n (ds ++ [c]) = (k * 10 + digitValue c, 0) := by
  induction ds generalizing n with
  | nil =>
    obtain ⟨rfl, -⟩ := Prod.mk.inj h
    simp [absorb, hk]
  | cons d ds ih =>
    by_cases hd : n * 10 + digitValue d < wordBound
    · simp only [absorb, hd, if_true, List.cons_append] at h ⊢
      exact ih h
    · simp [absorb, hd] at h

/-- The digits of a number below the bound are absorbed to this number. -/
theorem absorb_decimal {n : ℕ} (hn : n < wordBound) : absorb 0 (Digits.decimal n) = (n, 0) := by
  induction n using Nat.strongRecOn with
  | ind n ih =>
    by_cases hlt : n < 10
    · simp [decimal_of_lt hlt, absorb, digitValue_digitChar hlt, hn]
    · have hvalue : n / 10 * 10 + digitValue (Nat.digitChar (n % 10)) = n := by
        rw [digitValue_digitChar (Nat.mod_lt _ (by decide))]
        omega
      rw [decimal_of_le (Nat.le_of_not_lt hlt),
        absorb_concat (ih (n / 10) (by omega) (by omega)) (by omega), hvalue]

/-- A number begins with a digit. -/
theorem exists_digit_decimal (n : ℕ) : ∃ d ds, Digits.decimal n = d :: ds ∧ d.isDigit = true := by
  cases h : Digits.decimal n with
  | nil => exact absurd h Nat.toDigits_ne_nil
  | cons d ds => exact ⟨d, ds, rfl, isDigit_of_mem_decimal (n := n) (by simp [h])⟩

theorem number_decimal {n : ℕ} {i : ℤ} {negative : Bool} (hn : n < wordBound)
    (hi : signedInteger negative n = some i) :
    number negative (Digits.decimal n) none none = some (.integer i) := by
  simp [number, absorb_decimal hn, hi]

/-- An integer that fits 64 bits, with or without a sign. -/
def IsWord (n : ℤ) : Prop := -(signedBound : ℤ) ≤ n ∧ n < wordBound

theorem isWord_of_lt {n : ℕ} (hn : n < wordBound) : IsWord n :=
  ⟨by omega, Int.ofNat_lt.mpr hn⟩

/-- **An integer is read as it was written.** -/
theorem readNumber_writeInt {n : ℤ} (hn : IsWord n) {r : List Char} (hr : Delimited r) :
    readNumber (writeInt n ++ r) = some (.integer n, r) := by
  obtain ⟨hlow, hhigh⟩ := hn
  cases n with
  | ofNat n =>
    -- the digits do not look like a sign
    obtain ⟨d, ds, hds, hd⟩ := exists_digit_decimal n
    have hminus : d ≠ '-' := by rintro rfl; cases hd
    have hread := readWhole_decimal n hr
    have hnumber : number false (Digits.decimal n) none none = some (.integer (.ofNat n)) :=
      number_decimal (Int.ofNat_lt.mp hhigh) rfl
    rw [hds, List.cons_append] at hread
    rw [hds] at hnumber
    simp [readNumber, writeInt, hds, hminus, hread, readFraction_of_delimited hr,
      readExponent_of_delimited hr, hnumber]
  | negSucc n =>
    have hbound : n + 1 ≤ signedBound := by omega
    have hword : n + 1 < wordBound := Nat.lt_of_le_of_lt hbound (by decide)
    have hnumber : number true (Digits.decimal (n + 1)) none none = some (.integer (.negSucc n)) :=
      number_decimal hword (by simp [signedInteger, hbound]; omega)
    simp [readNumber, writeInt, readWhole_decimal _ hr, readFraction_of_delimited hr,
      readExponent_of_delimited hr, hnumber]

/-! ## Values -/

/-- A value that can be written and read back: no floating point numbers, integers of 64 bits,
fields of distinct names, and no more than `depth` arrays and objects inside one another. -/
def Value.Fits : (depth : ℕ) → Value → Prop
  | _, .null | _, .bool _ | _, .string _ => True
  | _, .integer n => IsWord n
  | _, .float .. | 0, .array _ | 0, .object _ => False
  | depth + 1, .array items => ∀ v ∈ items, v.Fits depth
  | depth + 1, .object fields => (fields.map Prod.fst).Nodup ∧ ∀ f ∈ fields, f.2.Fits depth

theorem skipBlanks_cons {c : Char} (hc : isBlank c = false) (r : List Char) :
    skipBlanks (c :: r) = c :: r := by
  simp [skipBlanks, hc]

theorem isBlank_of_isDigit {c : Char} (hc : c.isDigit = true) : isBlank c = false := by
  by_contra hblank
  simp only [isBlank, Bool.not_eq_false, Bool.or_eq_true, beq_iff_eq] at hblank
  obtain ((rfl | rfl) | rfl) | rfl := hblank <;> cases hc

/-- An integer begins with a digit or a sign. -/
theorem exists_head_writeInt (n : ℤ) :
    ∃ c cs, writeInt n = c :: cs ∧ (c.isDigit = true ∨ c = '-') := by
  cases n with
  | ofNat n =>
    obtain ⟨d, ds, hds, hd⟩ := exists_digit_decimal n
    exact ⟨d, ds, hds, .inl hd⟩
  | negSucc n => exact ⟨'-', _, rfl, .inr rfl⟩

/-- What begins with a digit or a sign is read as a number. -/
theorem readLevel_of_head {c : Char} (hc : c.isDigit = true ∨ c = '-') (item : Reader Value)
    (fuel : ℕ) (r : List Char) : readLevel item fuel (c :: r) = readNumber (c :: r) := by
  have hblank : isBlank c = false := by
    obtain hc | rfl := hc
    · exact isBlank_of_isDigit hc
    · rfl
  have hne : ∀ d : Char, d.isDigit = false → d ≠ '-' → c ≠ d := by
    rintro d hd hminus rfl
    simp [hd, hminus] at hc
  rw [readLevel, skipBlanks_cons hblank]
  split
  case h_7 => rfl
  all_goals exact absurd (List.cons.inj ‹c :: r = _›).1 (hne _ rfl (by decide))

/-- The values that hold no others. -/
def Value.isScalar : Value → Bool
  | .array _ | .object _ => false
  | _ => true

/-- A value that holds no others is read at any level. -/
theorem readLevel_write_of_isScalar {v : Value} {depth : ℕ} (hv : v.Fits depth)
    (hscalar : v.isScalar = true) (item : Reader Value) (fuel : ℕ) {r : List Char}
    (hr : Delimited r) : readLevel item fuel (v.write ++ r) = some (v, r) := by
  cases v with
  | null => rfl
  | bool b => cases b <;> rfl
  | integer n =>
    have hn : IsWord n := by cases depth <;> exact hv
    obtain ⟨c, cs, hcs, hc⟩ := exists_head_writeInt n
    have hread := readNumber_writeInt hn hr
    rw [hcs] at hread
    rw [Value.write, hcs]
    exact (readLevel_of_head hc item fuel _).trans hread
  | float negative x => cases depth <;> exact hv.elim
  | string s =>
    rw [Value.write, writeString_append, readLevel, skipBlanks_cons rfl]
    simp [readString_written]
  | array items => cases hscalar
  | object fields => cases hscalar

/-- The text of a value begins neither with a blank nor with the end of an array, and with the
beginning of one only if the value holds others. -/
theorem exists_head_write {v : Value} {depth : ℕ} (hv : v.Fits depth) :
    ∃ c cs, v.write = c :: cs ∧ isBlank c = false ∧ c ≠ ']' ∧
      (v.isScalar = true → c ≠ '[' ∧ c ≠ '\x7b') := by
  cases v with
  | null => exact ⟨_, _, rfl, rfl, by decide, fun _ => by decide⟩
  | bool b => cases b <;> exact ⟨_, _, rfl, rfl, by decide, fun _ => by decide⟩
  | integer n =>
    obtain ⟨c, cs, hcs, hc⟩ := exists_head_writeInt n
    refine ⟨c, cs, hcs, ?_⟩
    obtain hc | rfl := hc
    · refine ⟨isBlank_of_isDigit hc, ?_, fun _ => ⟨?_, ?_⟩⟩ <;>
      · rintro rfl
        cases hc
    · exact ⟨rfl, by decide, fun _ => by decide⟩
  | float negative x => cases depth <;> exact hv.elim
  | string s => exact ⟨_, _, rfl, rfl, by decide, fun _ => by decide⟩
  | array items => exact ⟨_, _, rfl, rfl, by decide, nofun⟩
  | object fields => exact ⟨_, _, rfl, rfl, by decide, nofun⟩

section Containers

variable {item : Reader Value} {fuel : ℕ}

theorem writeItems_cons_cons (v w : Value) (vs : List Value) :
    writeItems (v :: w :: vs) = v.write ++ ',' :: writeItems (w :: vs) := by
  rw [writeItems]
  exact nofun

theorem writeFields_cons_cons (f g : String × Value) (fs : List (String × Value)) :
    writeFields (f :: g :: fs) =
      writeString f.1 ++ ':' :: (f.2.write ++ ',' :: writeFields (g :: fs)) := by
  rw [writeFields, List.append_assoc, List.cons_append]
  exact nofun

/-- The reader of the elements reads what was written of a value. -/
def Reads (item : Reader Value) (v : Value) : Prop :=
  ∀ r, Delimited r → item (v.write ++ r) = some (v, r)

/-- The elements of an array are read as they were written. -/
theorem readItems_writeItems {items : List Value} (hne : items ≠ []) (hfuel : items.length ≤ fuel)
    (hitem : ∀ v ∈ items, Reads item v) (done : List Value) (r : List Char) :
    readItems item fuel done (writeItems items ++ ']' :: r) = some (done.reverse ++ items, r) := by
  induction items generalizing fuel done with
  | nil => exact absurd rfl hne
  | cons v vs ih =>
    obtain ⟨fuel, rfl⟩ : ∃ n, fuel = n + 1 := ⟨fuel - 1, by simp at hfuel; omega⟩
    have hv := hitem v List.mem_cons_self
    cases vs with
    | nil =>
      have hread := hv (']' :: r) (delimited_cons (.inr (.inl rfl)))
      simp [readItems, writeItems, hread, skipBlanks_cons (c := ']') rfl]
    | cons w ws =>
      have hread := hv (',' :: (writeItems (w :: ws) ++ ']' :: r)) (delimited_cons (.inl rfl))
      have hrest : readItems item fuel (v :: done) (writeItems (w :: ws) ++ ']' :: r) =
          some ((v :: done).reverse ++ w :: ws, r) :=
        ih (by simp) (by simp at hfuel ⊢; omega)
          (fun u hu => hitem u (List.mem_cons_of_mem _ hu)) (v :: done)
      simp only [readItems, writeItems_cons_cons, List.append_assoc, List.cons_append, hread,
        skipBlanks_cons (c := ',') rfl, Option.bind_eq_bind, Option.bind_some, hrest]
      simp

theorem setField_of_notMem {fields : List (String × Value)} {name : String} (v : Value)
    (h : name ∉ fields.map Prod.fst) : setField name v fields = fields ++ [(name, v)] := by
  induction fields with
  | nil => rfl
  | cons f fields ih =>
    simp only [List.map_cons, List.mem_cons, not_or] at h
    simp [setField, Ne.symm h.1, ih h.2]

theorem readField_write (name : String) {v : Value} (hv : Reads item v) {r : List Char}
    (hr : Delimited r) :
    readField item (writeString name ++ ':' :: (v.write ++ r)) = some ((name, v), r) := by
  rw [writeString_append, readField, skipBlanks_cons rfl]
  simp [readString_written, skipBlanks_cons (c := ':') rfl, hv r hr]

/-- The fields of an object are read as they were written. -/
theorem readFields_writeFields {fields done : List (String × Value)} (hne : fields ≠ [])
    (hfuel : fields.length ≤ fuel) (hnodup : ((done ++ fields).map Prod.fst).Nodup)
    (hitem : ∀ f ∈ fields, Reads item f.2) (r : List Char) :
    readFields item fuel done (writeFields fields ++ '\x7d' :: r) = some (done ++ fields, r) := by
  induction fields generalizing fuel done with
  | nil => exact absurd rfl hne
  | cons f fs ih =>
    obtain ⟨name, v⟩ := f
    obtain ⟨fuel, rfl⟩ : ∃ n, fuel = n + 1 := ⟨fuel - 1, by simp at hfuel; omega⟩
    have hv := hitem (name, v) List.mem_cons_self
    -- a name that was not there before goes to the end
    have hset : setField name v done = done ++ [(name, v)] := by
      refine setField_of_notMem v fun hmem => ?_
      rw [List.map_append, List.nodup_append] at hnodup
      exact hnodup.2.2 name hmem name (by simp) rfl
    cases fs with
    | nil =>
      have hread := readField_write name hv
        (delimited_cons (r := r) (c := '\x7d') (.inr (.inr rfl)))
      simp [readFields, writeFields, hread, hset, skipBlanks_cons (c := '\x7d') rfl]
    | cons g gs =>
      have hread := readField_write name hv
        (delimited_cons (r := writeFields (g :: gs) ++ '\x7d' :: r) (.inl rfl))
      have hrest :
          readFields item fuel (done ++ [(name, v)]) (writeFields (g :: gs) ++ '\x7d' :: r) =
          some (done ++ [(name, v)] ++ g :: gs, r) :=
        ih (by simp) (by simp at hfuel ⊢; omega) (by simpa using hnodup)
          (fun u hu => hitem u (List.mem_cons_of_mem _ hu))
      simp only [readFields, writeFields_cons_cons, List.append_assoc, List.cons_append, hread,
        hset, skipBlanks_cons (c := ',') rfl, Option.bind_eq_bind, Option.bind_some, hrest]
      simp

theorem readArray_write {items : List Value} {depth : ℕ} (hfits : ∀ v ∈ items, v.Fits depth)
    (hfuel : items.length ≤ fuel) (hitem : ∀ v ∈ items, Reads item v) (r : List Char) :
    readArray item fuel (writeItems items ++ ']' :: r) = some (.array items, r) := by
  cases items with
  | nil => rfl
  | cons v vs =>
    obtain ⟨c, cs, hcs, hblank, hend, -⟩ := exists_head_write (hfits v List.mem_cons_self)
    have hread := readItems_writeItems (by simp) hfuel hitem [] r
    -- the first element is not taken for the end of the array
    obtain ⟨cs', hcs'⟩ : ∃ cs', writeItems (v :: vs) = c :: cs' := by
      cases vs with
      | nil => exact ⟨cs, hcs⟩
      | cons w ws => exact ⟨_, by rw [writeItems_cons_cons, hcs]; rfl⟩
    rw [hcs'] at hread ⊢
    rw [List.cons_append] at hread ⊢
    simp [readArray, skipBlanks_cons hblank, hend, hread]

theorem readObject_write {fields : List (String × Value)} (hfuel : fields.length ≤ fuel)
    (hnodup : (fields.map Prod.fst).Nodup) (hitem : ∀ f ∈ fields, Reads item f.2) (r : List Char) :
    readObject item fuel (writeFields fields ++ '\x7d' :: r) = some (.object fields, r) := by
  cases fields with
  | nil => rfl
  | cons f fs =>
    have hread :
        readFields item fuel [] (writeFields (f :: fs) ++ '\x7d' :: r) = some (f :: fs, r) :=
      readFields_writeFields (by simp) hfuel (by simpa using hnodup) hitem r
    obtain ⟨cs, hcs⟩ : ∃ cs, writeFields (f :: fs) = '"' :: cs := by
      cases fs <;> exact ⟨_, rfl⟩
    rw [hcs] at hread ⊢
    rw [List.cons_append] at hread ⊢
    simp [readObject, skipBlanks_cons (c := '"') rfl, hread]

end Containers

/-! ## Lists of texts

The elements of an array and the fields of an object are texts with commas between them. -/

/-- The text of a field. -/
def writeField (f : String × Value) : List Char := writeString f.1 ++ ':' :: f.2.write

theorem writeItems_eq (items : List Value) :
    writeItems items = [','].intercalate (items.map Value.write) := by
  induction items with
  | nil => rfl
  | cons v vs ih =>
    cases vs with
    | nil => exact List.intercalate_singleton.symm
    | cons w ws =>
      simp only [writeItems_cons_cons, ih, List.map_cons, List.intercalate_cons_cons,
        List.append_assoc, List.singleton_append]

theorem writeFields_eq (fields : List (String × Value)) :
    writeFields fields = [','].intercalate (fields.map writeField) := by
  induction fields with
  | nil => rfl
  | cons f fs ih =>
    cases fs with
    | nil => exact List.intercalate_singleton.symm
    | cons g gs =>
      simp only [writeFields_cons_cons, ih, List.map_cons, List.intercalate_cons_cons, writeField,
        List.append_assoc, List.cons_append, List.nil_append]

/-- A comma stands after each text but the last, so there are hardly more texts than characters. -/
theorem length_le_intercalate (ts : List (List Char)) :
    ts.length ≤ ([','].intercalate ts).length + 1 := by
  induction ts with
  | nil => exact Nat.zero_le _
  | cons t ts ih =>
    cases ts with
    | nil => simp
    | cons u us =>
      rw [List.intercalate_cons_cons]
      simp only [List.length_append, List.length_cons, List.length_nil] at ih ⊢
      omega

theorem length_le_of_mem_intercalate {ts : List (List Char)} {t : List Char} (ht : t ∈ ts) :
    t.length ≤ ([','].intercalate ts).length := by
  induction ts with
  | nil => cases ht
  | cons u us ih =>
    cases us with
    | nil => rw [List.mem_singleton.mp ht, List.intercalate_singleton]
    | cons w ws =>
      rw [List.intercalate_cons_cons]
      simp only [List.length_append]
      rcases List.mem_cons.mp ht with rfl | ht
      · omega
      · have := ih ht
        omega

/-! ## Reading back -/

/-- Below the deepest level there are no arrays and objects, and all else is read as elsewhere. -/
theorem readValue_zero_of_isScalar {v : Value} (hv : v.Fits 0) (hscalar : v.isScalar = true)
    (fuel : ℕ) (r : List Char) :
    readValue fuel 0 (v.write ++ r) = readLevel (fun _ => none) fuel (v.write ++ r) := by
  obtain ⟨c, cs, hcs, hblank, -, hhead⟩ := exists_head_write hv
  obtain ⟨harray, hobject⟩ := hhead hscalar
  simp only [hcs, List.cons_append, readValue, skipBlanks_cons hblank]
  split
  · exact absurd (List.cons.inj ‹c :: (cs ++ r) = _›).1 harray
  · exact absurd (List.cons.inj ‹c :: (cs ++ r) = _›).1 hobject
  · rfl

/-- **A value is read as it was written**, and what follows its text is left. The induction is on
the depth, as in the reader; the fuel is that of the whole text. -/
theorem readValue_write {depth fuel : ℕ} {v : Value} (hv : v.Fits depth)
    (hfuel : v.write.length ≤ fuel) {r : List Char} (hr : Delimited r) :
    readValue fuel depth (v.write ++ r) = some (v, r) := by
  induction depth generalizing v r with
  | zero =>
    have hscalar : v.isScalar = true := by
      cases v with
      | array items => exact hv.elim
      | object fields => exact hv.elim
      | _ => rfl
    exact (readValue_zero_of_isScalar hv hscalar fuel r).trans
      (readLevel_write_of_isScalar hv hscalar _ fuel hr)
  | succ depth ih =>
    rw [readValue]
    cases v with
    | array items =>
      have hlen : (writeItems items).length + 2 ≤ fuel := by
        simp only [Value.write, List.length_append, List.length_cons, List.length_nil] at hfuel
        omega
      rw [writeItems_eq] at hlen
      have hcount : items.length ≤ fuel := by
        have := length_le_intercalate (items.map Value.write)
        rw [List.length_map] at this
        omega
      have hitem : ∀ v ∈ items, Reads (readValue fuel depth) v := by
        intro v hmem r hr
        have := length_le_of_mem_intercalate (List.mem_map_of_mem (f := Value.write) hmem)
        exact ih (hv v hmem) (by omega) hr
      rw [Value.write, List.append_assoc, List.cons_append, readLevel, skipBlanks_cons rfl]
      exact readArray_write hv hcount hitem r
    | object fields =>
      have hlen : (writeFields fields).length + 2 ≤ fuel := by
        simp only [Value.write, List.length_append, List.length_cons, List.length_nil] at hfuel
        omega
      rw [writeFields_eq] at hlen
      have hcount : fields.length ≤ fuel := by
        have := length_le_intercalate (fields.map writeField)
        rw [List.length_map] at this
        omega
      have hitem : ∀ f ∈ fields, Reads (readValue fuel depth) f.2 := by
        intro f hmem r hr
        have := length_le_of_mem_intercalate (List.mem_map_of_mem (f := writeField) hmem)
        rw [writeField, List.length_append, List.length_cons] at this
        exact ih (hv.2 f hmem) (by omega) hr
      rw [Value.write, List.append_assoc, List.cons_append, readLevel, skipBlanks_cons rfl]
      exact readObject_write hcount hv.1 hitem r
    | _ => exact readLevel_write_of_isScalar hv rfl _ fuel hr

/-- **The compact text of a value holds this value.** -/
theorem read_toText {v : Value} (hv : v.Fits maxDepth) : read v.toText = some v := by
  have hread := readValue_write hv le_rfl delimited_nil
  rw [List.append_nil] at hread
  simp only [read, Value.toText, String.toList_ofList, hread, Option.bind_eq_bind, Option.bind_some]
  exact if_pos rfl

/-! ## One line -/

/-- No character of the text is a control character. -/
def Printable (cs : List Char) : Prop := ∀ c ∈ cs, ' '.toNat ≤ c.toNat

instance (cs : List Char) : Decidable (Printable cs) := List.decidableBAll _ cs

theorem printable_append_iff {cs ds : List Char} :
    Printable (cs ++ ds) ↔ Printable cs ∧ Printable ds := List.forall_mem_append

theorem printable_cons_iff {c : Char} {cs : List Char} :
    Printable (c :: cs) ↔ ' '.toNat ≤ c.toNat ∧ Printable cs := List.forall_mem_cons

theorem Printable.newline_notMem {cs : List Char} (h : Printable cs) : '\n' ∉ cs :=
  fun hmem => absurd (h _ hmem) (by decide)

/-- Control characters are escaped. -/
theorem printable_writeChar (c : Char) : Printable (writeChar c) := by
  have hdigit : ∀ n < 16, ' '.toNat ≤ (Nat.digitChar n).toNat := by decide
  unfold writeChar
  split_ifs with hspecial hb hf hn hr ht hcontrol
  · obtain rfl | rfl := hspecial <;> decide
  · decide
  · decide
  · decide
  · decide
  · decide
  · have hlt : c.toNat < 32 := hcontrol
    simp only [printable_cons_iff]
    exact ⟨by decide, by decide, by decide, by decide, hdigit _ (by omega), hdigit _ (by omega),
      nofun⟩
  · exact printable_cons_iff.mpr ⟨Nat.le_of_not_lt hcontrol, nofun⟩

theorem printable_writeString (s : String) : Printable (writeString s) := by
  intro c hc
  simp only [writeString, List.cons_append, List.mem_cons, List.mem_append, List.mem_flatMap,
    List.not_mem_nil, or_false] at hc
  obtain rfl | ⟨d, -, hd⟩ | rfl := hc
  · decide
  · exact printable_writeChar d c hd
  · decide

theorem printable_decimal (n : ℕ) : Printable (Digits.decimal n) := by
  intro c hc
  have hdigit := isDigit_of_mem_decimal hc
  simp only [Char.isDigit, Bool.and_eq_true, decide_eq_true_eq] at hdigit
  exact UInt32.le_trans (by decide) hdigit.1

theorem printable_intercalate {ts : List (List Char)} (h : ∀ t ∈ ts, Printable t) :
    Printable ([','].intercalate ts) := by
  induction ts with
  | nil => exact nofun
  | cons t ts ih =>
    have ht := h t List.mem_cons_self
    have hts := ih fun u hu => h u (List.mem_cons_of_mem _ hu)
    cases ts with
    | nil => rwa [List.intercalate_singleton]
    | cons u us =>
      rw [List.intercalate_cons_cons, printable_append_iff, printable_append_iff]
      exact ⟨⟨ht, by decide⟩, hts⟩

theorem printable_write_of_isScalar {depth : ℕ} {v : Value} (hv : v.Fits depth)
    (hscalar : v.isScalar = true) : Printable v.write := by
  cases v with
  | null => decide
  | bool b => cases b <;> decide
  | integer n =>
    cases n with
    | ofNat n => exact printable_decimal n
    | negSucc n => exact printable_cons_iff.mpr ⟨by decide, printable_decimal (n + 1)⟩
  | float negative x => cases depth <;> exact hv.elim
  | string s => exact printable_writeString s
  | array items => cases hscalar
  | object fields => cases hscalar

/-- **The text of a value is printable**, so it stands on one line. -/
theorem printable_write {depth : ℕ} {v : Value} (hv : v.Fits depth) : Printable v.write := by
  induction depth generalizing v with
  | zero =>
    cases v with
    | array items => exact hv.elim
    | object fields => exact hv.elim
    | _ => exact printable_write_of_isScalar hv rfl
  | succ depth ih =>
    cases v with
    | array items =>
      have hitems : ∀ t ∈ items.map Value.write, Printable t := by
        intro t ht
        obtain ⟨v, hmem, rfl⟩ := List.mem_map.mp ht
        exact ih (hv v hmem)
      simp only [Value.write, writeItems_eq, printable_append_iff, printable_cons_iff]
      exact ⟨⟨by decide, printable_intercalate hitems⟩, by decide, nofun⟩
    | object fields =>
      have hfields : ∀ t ∈ fields.map writeField, Printable t := by
        intro t ht
        obtain ⟨f, hmem, rfl⟩ := List.mem_map.mp ht
        rw [writeField, printable_append_iff, printable_cons_iff]
        exact ⟨printable_writeString f.1, by decide, ih (hv.2 f hmem)⟩
      simp only [Value.write, writeFields_eq, printable_append_iff, printable_cons_iff]
      exact ⟨⟨by decide, printable_intercalate hfields⟩, by decide, nofun⟩
    | _ => exact printable_write_of_isScalar hv rfl

end Json

end Tapewalk
