import Tapewalk.Text.Emoji
import Tapewalk.Text.Ligature
import Tapewalk.Text.Wide

/-!
# Columns

How many columns of a terminal a text takes. Most characters have a width of their own, but some
depend on what follows them: a selector changes the form of a picture, joined pictures are drawn as
one, and some letters share a column. So a text is measured from its end, and what has been read is
remembered as far as the character before it may depend on it.
-/

namespace Tapewalk

namespace Columns

/-- How the rest of a text begins. -/
inductive Form where
  | plain
  | lineFeed
  /-- A skin tone. -/
  | tone
  | flagLetter
  | flagLetters
  /-- A picture in colour. -/
  | picture
  /-- A joiner and a picture. -/
  | joinedPicture
  /-- The frame of a key, a joiner and a picture. -/
  | joinedKey
  /-- One, an even number or an odd number of flag letters, a joiner and a picture. -/
  | joinedFlagLetter
  | joinedFlags
  | joinedOddFlags
  /-- The end of a tag, a joiner and a picture; before it, letters or digits of the tag. -/
  | tagEnd
  | tagLetters (count : Nat)
  | tagDigits (count : Nat)
  | alef
  /-- A letter of a ligature, perhaps with a joiner before it. -/
  | lamed (joined : Bool)
  | ya (joined : Bool)
  | yaAfterVowel
  | tifinagh (joined : Bool)
  | tifinaghAfterJoiner
  | lisuTone
  | orkhonI (joined : Bool)
  | subscript
  deriving DecidableEq, Repr, Inhabited

/-- The rest begins with the last letter of a ligature. -/
def Form.isLigature : Form → Bool
  | .alef | .lamed _ | .ya _ | .yaAfterVowel | .tifinagh _ | .tifinaghAfterJoiner => true
  | .lisuTone | .orkhonI _ | .subscript => true
  | _ => false

/-- The rest begins with a letter that marks may part from the one before it. -/
def Form.isSpaced (f : Form) : Bool := f.isLigature && f ≠ .alef

/-- The rest begins with a joiner and something in colour. -/
def Form.isJoined : Form → Bool
  | .joinedPicture | .joinedKey => true
  | _ => false

/-- The same rest with a joiner before it. -/
def Form.join : Form → Form
  | .lamed _ => .lamed true
  | .ya _ => .ya true
  | .tifinagh _ => .tifinagh true
  | .orkhonI _ => .orkhonI true
  | f => f

/-- How the rest of a text begins, after a selector that asks for colour or for a letter. -/
structure Rest where
  form : Form := .plain
  colour : Bool := false
  letter : Bool := false
  deriving DecidableEq, Repr, Inhabited

namespace Rest

/-- A selector for colour comes before the rest. -/
def addColour (r : Rest) : Rest :=
  if r.form.isLigature || r.form.isJoined then { r with colour := true } else { colour := true }

/-- The selector for colour had nothing to select. -/
def dropColour (r : Rest) : Rest :=
  if !r.colour then r else if r.form.isLigature then { r with colour := false } else {}

/-- A selector for a letter comes before the rest. -/
def addLetter (r : Rest) : Rest :=
  if r.form.isLigature then { r with letter := true } else { letter := true }

/-- The selector for a letter had nothing to select. -/
def dropLetter (r : Rest) : Rest :=
  if !r.letter then r else if r.form.isLigature then { r with letter := false } else {}

end Rest

/-- The columns of a character by itself. -/
def ofChar (c : Char) : Nat :=
  if CharSet.columnless.contains c then 0
  else if c = '\u17d8' then 3
  else if CharSet.wide.contains c then 2
  else 1

/-- The rest that begins with a character which does not depend on what follows. -/
def restOf (c : Char) : Rest :=
  if c = '\ufe0e' then { letter := true }
  else if c = '\ufe0f' then { colour := true }
  else if c = '\u05dc' then { form := .lamed false }
  else if c = '\u1a10' then { form := .ya false }
  else if between 0xa4fc 0xa4fd c then { form := .lisuTone }
  else if between 0x10c03 0x10c03 c then { form := .orkhonI false }
  else if isFlagLetter c then { form := .flagLetter }
  else if isTone c then { form := .tone }
  else if CharSet.colourful.contains c then { form := .picture }
  else if CharSet.alef.contains c then { form := .alef }
  else if CharSet.subscript.contains c then { form := .subscript }
  else if CharSet.tifinagh.contains c then { form := .tifinagh false }
  else {}

/-- A character that goes together with the rest: by how much it changes the columns, and what the
rest is then. -/
def merge? (form : Form) (c : Char) : Option (Int × Form) :=
  match form with
  | .alef =>
    if CharSet.lam.contains c then some (0, .plain)
    else if CharSet.transparent.contains c then some (0, .alef)
    else none
  | .lamed true => if c = '\u05d0' then some (0, .plain) else none
  | .subscript => if c = '\u17d2' then some (-1, .plain) else none
  | .ya true => if c = '\u1a17' then some (0, .yaAfterVowel) else none
  | .yaAfterVowel => if c = '\u1a15' then some (0, .plain) else none
  | .tifinagh joined =>
    if c = '\u2d7f' then some (1, .tifinaghAfterJoiner)
    else if joined && CharSet.tifinagh.contains c then some (0, .plain)
    else none
  | .tifinaghAfterJoiner => if CharSet.tifinagh.contains c then some (-1, .plain) else none
  | .lisuTone => if between 0xa4f8 0xa4fb c then some (0, .plain) else none
  | .orkhonI true => if between 0x10c32 0x10c32 c then some (0, .plain) else none
  | .tone =>
    if CharSet.tonable.contains c then some (0, .picture)
    else if c = joiner then some (0, .joinedPicture)
    else none
  | .flagLetter => if isFlagLetter c then some (1, .flagLetters) else none
  | .flagLetters =>
    if isFlagLetter c then some (1, .flagLetters)
    else if c = joiner then some (0, .joinedPicture)
    else none
  | .picture => if c = joiner then some (0, .joinedPicture) else none
  | .joinedPicture =>
    if c = '\u20e3' then some (0, .joinedKey)
    else if isFlagLetter c then some (1, .joinedFlagLetter)
    else if isTone c then some (0, .tone)
    else if between 0xe007f 0xe007f c then some (0, .tagEnd)
    else if CharSet.colourful.contains c then some (0, .picture)
    else none
  | .joinedFlagLetter => if isFlagLetter c then some (-1, .joinedFlags) else none
  | .joinedFlags =>
    if isFlagLetter c then some (3, .joinedOddFlags)
    else if c = joiner then some (0, .joinedPicture)
    else none
  | .joinedOddFlags =>
    if isFlagLetter c then some (-1, .joinedFlags)
    else if c = joiner then some (0, .joinedPicture)
    else none
  | .tagEnd =>
    if between 0xe0061 0xe007a c then some (0, .tagLetters 1)
    else if between 0xe0030 0xe0039 c then some (0, .tagDigits 1)
    else none
  | .tagLetters n =>
    if between 0xe0061 0xe007a c && n < 6 then some (0, .tagLetters (n + 1))
    else if between 0xe0030 0xe0039 c && n < 5 then some (0, .tagDigits 1)
    else if between 0x1f3f4 0x1f3f4 c && 3 ≤ n then some (0, .picture)
    else none
  | .tagDigits n =>
    if between 0xe0030 0xe0039 c && n < 3 then some (0, .tagDigits (n + 1))
    else if between 0x1f3f4 0x1f3f4 c && n = 3 then some (0, .picture)
    else none
  | _ => none

/-- A character up to the no-break space. Controls take a column, but line ends do not. -/
def simple (c : Char) (r : Rest) : Int × Rest :=
  if c = '\n' then (0, { form := .lineFeed })
  else if c = '\r' && r.form = .lineFeed then (0, {})
  else (1, {})

/-- A character that no pending selector applies to. -/
def settled (c : Char) (r : Rest) : Int × Rest :=
  if r.form.isSpaced && c = joiner then (0, { r with form := r.form.join })
  else if r.form.isSpaced && CharSet.ignorable.contains c then (0, r)
  else
    match merge? r.form c with
    | some (n, form) => (n, { form })
    | none => (ofChar c, restOf c)

/-- A character before a rest: by how much it changes the columns, and what the rest is then. -/
def before (c : Char) (r : Rest) : Int × Rest :=
  if r.colour && CharSet.colourable.contains c then
    (if r.form.isJoined then 0 else 2, { form := .picture })
  else
    let r := r.dropColour
    if c.toNat ≤ 0xa0 then simple c r
    else if r = {} then (ofChar c, restOf c)
    else if c = '\ufe0f' then (0, r.addColour)
    else if c = '\ufe0e' then (0, r.addLetter)
    else if r.letter && CharSet.decolourable.contains c then (1, {})
    else settled c r.dropLetter

end Columns

/-- The columns that a text takes. -/
def columns (text : List Char) : Nat :=
  (text.foldr (fun c (n, r) => let (k, r) := Columns.before c r; (n + k, r))
    ((0 : Int), ({} : Columns.Rest))).1.toNat

end Tapewalk
