import Tapewalk.Command
import Tapewalk.Event
import Tapewalk.Proofs.JsonText
import Tapewalk.Proofs.Lines

/-!
# Messages on the wire

Commands and events are read back from their texts. The text of an event is one line, so a stream of
events is cut at its line feeds into the events it was made of.
-/

namespace Tapewalk

/-! ## Fields -/

namespace Json

namespace Value

theorem bounded_of_lt {n bound : ℕ} (hn : n < bound) (wanted : Wanted) :
    (integer n).bounded bound wanted = .ok n := by
  simp [bounded, hn]

@[simp] theorem byte_toNat (b : UInt8) : (integer b.toNat).byte = .ok b := by
  have hb : b.toNat < byteBound := b.toNat_lt
  rw [byte, bounded_of_lt hb]
  exact congrArg Except.ok UInt8.ofNat_toNat

@[simp] theorem word_toNat (w : UInt64) : (integer w.toNat).word = .ok w := by
  have hw : w.toNat < wordBound := w.toNat_lt
  rw [word, bounded_of_lt hw]
  exact congrArg Except.ok UInt64.ofNat_toNat

@[simp] theorem bytes_ofBytes (bytes : Array UInt8) : (ofBytes bytes).bytes = .ok bytes := by
  have hitems : ∀ bs : List UInt8, (bs.map fun b => integer b.toNat).mapM byte = .ok bs := by
    intro bs
    induction bs with
    | nil => rfl
    | cons b bs ih =>
      rw [List.map_cons, List.mapM_cons, byte_toNat, ih]
      rfl
  rw [ofBytes, Value.bytes, hitems]
  rfl

/-- A field that is there and can be read. -/
theorem optional_eq_ok {α : Type} {v w : Value} {name : String} {a : α}
    {read : Value → Except Misfit α} (hw : v.field? name = some w) (ha : read w = .ok a) :
    v.optional name read = .ok (some a) := by
  simp only [optional, hw, ha, Except.map]

theorem fits_integer {n depth : ℕ} (hn : n < wordBound) : (integer n).Fits depth := by
  cases depth <;> exact isWord_of_lt hn

theorem fits_byte (b : UInt8) (depth : ℕ) : (integer b.toNat).Fits depth :=
  fits_integer (Nat.lt_trans b.toNat_lt (by decide))

theorem fits_string (s : String) (depth : ℕ) : (string s).Fits depth := by
  cases depth <;> exact trivial

theorem fits_ofBytes (bytes : Array UInt8) (depth : ℕ) : (ofBytes bytes).Fits (depth + 1) := by
  intro v hv
  obtain ⟨b, -, rfl⟩ := List.mem_map.mp hv
  exact fits_byte b depth

end Value

end Json

open Json (Value)

/-! ## Commands -/

namespace Command

theorem fits_toJson (c : Command) (depth : ℕ) : c.toJson.Fits (depth + 2) := by
  cases c with
  | start r =>
    refine ⟨by simp, ?_⟩
    simp only [List.forall_mem_cons]
    exact ⟨Value.fits_string _ _, Value.fits_string _ _, Value.fits_string _ _, Value.fits_byte _ _,
      Value.fits_ofBytes _ _, Value.fits_integer r.interval.toNat_lt, nofun⟩
  | stop => exact ⟨by simp, by simp [Value.fits_string]⟩
  | restart interval =>
    refine ⟨by simp, ?_⟩
    simp only [List.forall_mem_cons]
    exact ⟨Value.fits_string _ _, Value.fits_integer interval.toNat_lt, nofun⟩
  | step => exact ⟨by simp, by simp [Value.fits_string]⟩

theorem ofName?_name (m : Mode) : Mode.ofName? m.name = some m := by
  cases m <;> rfl

/-- A request is read back from the object of its command. -/
theorem ofJson_request (r : Request) : Request.ofJson (toJson (.start r)) = .ok r := by
  have heof : (toJson (.start r)).optional "eof" Value.byte = .ok (some r.eof) :=
    Value.optional_eq_ok rfl (Value.byte_toNat r.eof)
  have hinput : (toJson (.start r)).optional "input" Value.bytes = .ok (some r.input) :=
    Value.optional_eq_ok rfl (Value.bytes_ofBytes r.input)
  have hinterval : (toJson (.start r)).optional "interval" Value.word = .ok (some r.interval) :=
    Value.optional_eq_ok rfl (Value.word_toNat r.interval)
  have hmode : (toJson (.start r)).optional "mode" Mode.ofJson = .ok (some r.mode) := by
    refine Value.optional_eq_ok rfl ?_
    simp only [Mode.ofJson, Mode.ofName, ofName?_name]
  have hsource : (toJson (.start r)).optional "source" Value.text = .ok (some r.source) :=
    Value.optional_eq_ok rfl rfl
  rw [Request.ofJson, heof, hinput, hinterval, hmode, hsource]
  rfl

/-- A command is read back from its object. -/
theorem ofJson_toJson (c : Command) : ofJson c.toJson = .ok c := by
  cases c with
  | start r =>
    -- the name of the mode is known, so the start is not refused before its fields are read
    show startOfJson (toJson (.start r)) = .ok (.start r)
    have hmode : (toJson (.start r)).field? "mode" = some (.string r.mode.name) := rfl
    simp only [startOfJson, hmode, ofName?_name, ofJson_request]
    rfl
  | stop => rfl
  | restart interval =>
    have hinterval : (toJson (.restart interval)).optional "interval" Value.word =
        .ok (some interval) := Value.optional_eq_ok rfl (Value.word_toNat interval)
    show restartOfJson (toJson (.restart interval)) = .ok (.restart interval)
    rw [restartOfJson, hinterval]
    rfl
  | step => rfl

/-- The text of a command is the JSON text of its object. -/
theorem read_encode (c : Command) : Json.read c.encode = some c.toJson :=
  Json.read_toText (fits_toJson c 125)

theorem decode_encode (c : Command) : decode c.encode = .ok c := by
  rw [decode, read_encode]
  exact ofJson_toJson c

theorem encode_injective : Function.Injective encode := by
  intro c c' h
  have hdecode := decode_encode c
  rw [h, decode_encode c'] at hdecode
  exact (Except.ok.inj hdecode).symm

end Command

/-- **Commands survive the wire.** The text of every command is JSON for its object and is decoded
to this command; a text that is decoded to a command means the same as the text that is encoded for
it, and different commands have different texts. -/
theorem commands_survive_wire :
    (∀ c : Command, Json.read c.encode = some c.toJson ∧ Command.decode c.encode = .ok c) ∧
    (∀ text c, Command.decode text = .ok c → Command.decode c.encode = Command.decode text) ∧
    Function.Injective Command.encode := by
  refine ⟨fun c => ⟨Command.read_encode c, Command.decode_encode c⟩, ?_, Command.encode_injective⟩
  intro text c h
  rw [h]
  exact Command.decode_encode c

/-- A start with all kinds of characters and the largest numbers; a text with a blank and a code for
a character means the same as its compact form. -/
theorem commands_survive_wire_with_escapes :
    let c : Command := .start {
      mode := .simple, source := "\"\\\n\x01é😀"
      eof := 255, input := #[0, 255], interval := 18446744073709551615 }
    let text := " \x7b\"command\":\"st\\u006fp\"\x7d"
    Command.decode c.encode = .ok c ∧ Command.decode text = .ok .stop ∧
      Command.decode Command.stop.encode = Command.decode text ∧
      c.encode ≠ Command.stop.encode := by
  intro c text
  obtain ⟨hround, hnormal, hinj⟩ := commands_survive_wire
  have hread : Json.read text = some (.object [("command", .string "stop")]) := by
    simp only [Json.read, text, String.reduceToList]
    rfl
  have htext : Command.decode text = .ok .stop := by
    rw [Command.decode, hread]
    rfl
  exact ⟨(hround c).2, htext, hnormal text .stop htext, fun h => absurd (hinj h) (by decide)⟩

/-! ## Events -/

namespace Event

/-- The counters of the event are numbers of 64 bits. -/
def Sized : Event → Prop
  | .step pc ptr cycles _ => pc < wordBound ∧ ptr < wordBound ∧ cycles < wordBound
  | .finished cycles _ _ => cycles < wordBound
  | _ => True

instance : DecidablePred Sized
  | .step pc ptr cycles _ =>
    inferInstanceAs (Decidable (pc < wordBound ∧ ptr < wordBound ∧ cycles < wordBound))
  | .finished cycles _ _ => inferInstanceAs (Decidable (cycles < wordBound))
  | .stdout _ | .stderr _ | .breakpoint | .error _ => inferInstanceAs (Decidable True)

variable {e : Event}

theorem fits_toJson (he : e.Sized) (depth : ℕ) : e.toJson.Fits (depth + 2) := by
  cases e with
  | step pc ptr cycles tape =>
    obtain ⟨hpc, hptr, hcycles⟩ := he
    refine ⟨by simp, ?_⟩
    simp only [List.forall_mem_cons]
    exact ⟨Value.fits_string _ _, Value.fits_integer hpc, Value.fits_integer hptr,
      Value.fits_integer hcycles, Value.fits_ofBytes _ _, nofun⟩
  | stdout byte =>
    refine ⟨by simp, ?_⟩
    simp only [List.forall_mem_cons]
    exact ⟨Value.fits_string _ _, Value.fits_byte _ _, nofun⟩
  | stderr byte =>
    refine ⟨by simp, ?_⟩
    simp only [List.forall_mem_cons]
    exact ⟨Value.fits_string _ _, Value.fits_byte _ _, nofun⟩
  | breakpoint => exact ⟨by simp, by simp [Value.fits_string]⟩
  | finished cycles out err =>
    refine ⟨by simp, ?_⟩
    simp only [List.forall_mem_cons]
    exact ⟨Value.fits_string _ _, Value.fits_integer he, Value.fits_ofBytes _ _,
      Value.fits_ofBytes _ _, nofun⟩
  | error message =>
    refine ⟨by simp, ?_⟩
    simp only [List.forall_mem_cons]
    exact ⟨Value.fits_string _ _, Value.fits_string _ _, nofun⟩

/-- An object of a known kind is read as an event of this kind. -/
theorem ofJson_of_kind {kind : String} {v : Value} (htype : v.field? "type" = some (.string kind))
    (hkind : kind ∈ kinds) : ofJson v = ofFields kind v := by
  cases v with
  | object fields =>
    simp only [ofJson, htype, readKind, hkind, if_true]
    rfl
  | _ => cases htype

/-- An event is read back from its object. -/
theorem ofJson_toJson (he : e.Sized) : ofJson e.toJson = .ok e := by
  cases e with
  | step pc ptr cycles tape =>
    obtain ⟨hpc, hptr, hcycles⟩ := he
    have hcycles' : (toJson (.step pc ptr cycles tape)).optional "cycle_count" Value.count =
        .ok (some cycles) := Value.optional_eq_ok rfl (Value.bounded_of_lt hcycles _)
    have hptr' : (toJson (.step pc ptr cycles tape)).optional "data_ptr" Value.index =
        .ok (some ptr) := Value.optional_eq_ok rfl (Value.bounded_of_lt hptr _)
    have hpc' : (toJson (.step pc ptr cycles tape)).optional "prog_ptr" Value.index =
        .ok (some pc) := Value.optional_eq_ok rfl (Value.bounded_of_lt hpc _)
    have htape : (toJson (.step pc ptr cycles tape)).optional "tape_snapshot" Value.bytes =
        .ok (some tape) := Value.optional_eq_ok rfl (Value.bytes_ofBytes tape)
    rw [ofJson_of_kind rfl (by decide : "step" ∈ kinds), ofFields, hcycles', hptr', hpc', htape]
    rfl
  | stdout byte =>
    have hbyte : (toJson (.stdout byte)).optional "byte" Value.byte = .ok (some byte) :=
      Value.optional_eq_ok rfl (Value.byte_toNat byte)
    rw [ofJson_of_kind rfl (by decide : "stdout" ∈ kinds), ofFields, hbyte]
    rfl
  | stderr byte =>
    have hbyte : (toJson (.stderr byte)).optional "byte" Value.byte = .ok (some byte) :=
      Value.optional_eq_ok rfl (Value.byte_toNat byte)
    rw [ofJson_of_kind rfl (by decide : "stderr" ∈ kinds), ofFields, hbyte]
    rfl
  | breakpoint => rfl
  | finished cycles out err =>
    have hcycles : (toJson (.finished cycles out err)).optional "cycle_count" Value.count =
        .ok (some cycles) := Value.optional_eq_ok rfl (Value.bounded_of_lt he _)
    have herr : (toJson (.finished cycles out err)).optional "stderr_bytes" Value.bytes =
        .ok (some err) := Value.optional_eq_ok rfl (Value.bytes_ofBytes err)
    have hout : (toJson (.finished cycles out err)).optional "stdout_bytes" Value.bytes =
        .ok (some out) := Value.optional_eq_ok rfl (Value.bytes_ofBytes out)
    rw [ofJson_of_kind rfl (by decide : "finished" ∈ kinds), ofFields, hcycles, herr, hout]
    rfl
  | error message => rfl

theorem decode_encode (he : e.Sized) : decode e.encode = some (.ok e) := by
  rw [decode, encode, Json.read_toText (fits_toJson he 125)]
  exact congrArg some (ofJson_toJson he)

/-- The text of an event is one line. -/
theorem newline_notMem_encode (he : e.Sized) : '\n' ∉ e.encode.toList := by
  rw [encode, Value.toText, String.toList_ofList]
  exact (Json.printable_write (fits_toJson he 125)).newline_notMem

end Event

/-! ## Streams -/

theorem Event.toList_lines (es : List Event) :
    (lines es).toList = (es.map fun e => e.encode.toList).flatMap (· ++ ['\n']) := by
  simp [lines, line, String.toList_join, List.flatMap_map]

/-- **Streams of events survive the wire.** A stream has one line feed for each event, which ends
its line, and its lines are decoded to the events that were written. -/
theorem events_survive_stream (es : List Event) (hes : ∀ e ∈ es, e.Sized) :
    (Event.lines es).toList.count '\n' = es.length ∧
    splitLines (Event.lines es).toList = es.map (fun e => e.encode.toList) ++ [[]] ∧
    (splitLines (Event.lines es).toList).dropLast.map (fun l => Event.decode (String.ofList l)) =
      es.map fun e => some (.ok e) := by
  have hlines : ∀ l ∈ es.map fun e => e.encode.toList, '\n' ∉ l := by
    intro l hl
    obtain ⟨e, he, rfl⟩ := List.mem_map.mp hl
    exact Event.newline_notMem_encode (hes e he)
  have hsplit := splitLines_ended hlines
  have hcount := count_newline_ended hlines
  rw [Event.toList_lines]
  refine ⟨by rw [hcount, List.length_map], hsplit, ?_⟩
  rw [hsplit, List.dropLast_concat, List.map_map]
  refine List.map_congr_left fun e he => ?_
  simp [Event.decode_encode (hes e he)]

/-- A message with a line feed, quotes and a control character between the largest counters. -/
theorem events_survive_stream_with_newlines :
    let es : List Event := [.step 18446744073709551615 0 18446744073709551615 #[0, 255],
      .error "a\n\"\\\x01\r😀\n", .breakpoint, .finished 7 #[10] #[]]
    (∀ e ∈ es, e.Sized) ∧ (Event.lines es).toList.count '\n' = 4 ∧
      (splitLines (Event.lines es).toList).dropLast.map (fun l => Event.decode (String.ofList l)) =
        es.map fun e => some (.ok e) := by
  intro es
  have hes : ∀ e ∈ es, e.Sized := by decide
  obtain ⟨hcount, -, hdecode⟩ := events_survive_stream es hes
  exact ⟨hes, hcount, hdecode⟩

end Tapewalk
