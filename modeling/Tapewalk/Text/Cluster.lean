import Tapewalk.Text.ClusterClass
import Tapewalk.Text.Extending

/-!
# Clusters

A cluster is what a reader takes for one character: a letter with its marks, a syllable block, a
flag, a picture with what is joined to it. Text is placed on a screen cluster by cluster.
-/

namespace Tapewalk

namespace Cluster

/-- How a character takes part in clusters. -/
inductive Role where
  | carriageReturn
  | lineFeed
  | breaking
  | extending
  /-- A mark that parts linked consonants. -/
  | parting
  /-- A mark that links two consonants. -/
  | linking
  | joiner
  | spacing
  | prepended
  | leadingJamo
  | vowelJamo
  | trailingJamo
  | openSyllable
  | closedSyllable
  | flagLetter
  | picture
  /-- A consonant that may be linked. -/
  | linkable
  | other
  deriving DecidableEq, Repr, Inhabited

/-- The role of a character. -/
def role (c : Char) : Role :=
  if c = '\r' then .carriageReturn
  else if c = '\n' then .lineFeed
  else if between 0x20 0x7e c then .other
  else if c = joiner then .joiner
  else if c = '\u200c' then .parting
  else if CharSet.linking.contains c then .linking
  else if CharSet.extending.contains c || isTone c then .extending
  else if CharSet.breaking.contains c then .breaking
  else if CharSet.spacing.contains c then .spacing
  else if CharSet.prepended.contains c then .prepended
  else if between 0x1100 0x115f c || between 0xa960 0xa97c c then .leadingJamo
  else if between 0x1160 0x11a7 c || between 0xd7b0 0xd7c6 c then .vowelJamo
  else if between 0x16d63 0x16d63 c || between 0x16d67 0x16d6a c then .vowelJamo
  else if between 0x11a8 0x11ff c || between 0xd7cb 0xd7fb c then .trailingJamo
  else if between 0xac00 0xd7a3 c then
    if (c.toNat - 0xac00) % 28 = 0 then .openSyllable else .closedSyllable
  else if isFlagLetter c then .flagLetter
  else if CharSet.pictographic.contains c then .picture
  else if CharSet.linkable.contains c then .linkable
  else .other

/-- How far a row of linked consonants has come. -/
inductive Link where
  | none
  /-- A consonant, perhaps with marks. -/
  | consonant
  /-- A consonant and a mark that links it to the next. -/
  | linked
  deriving DecidableEq, Repr, Inhabited

/-- The link after one more character. -/
def Link.next (l : Link) : Role → Link
  | .linkable => .consonant
  | .linking => if l = .none then .none else .linked
  | .extending | .joiner => l
  | _ => .none

/-- What the characters read so far say about the next one. -/
structure Context where
  last : Role
  /-- A picture with marks, and then perhaps a joiner, came last. -/
  picture : Bool
  /-- An odd number of flag letters came last. -/
  halfFlag : Bool
  /-- A consonant with marks came last. -/
  link : Link

/-- After the first character of a text. -/
def Context.first (r : Role) : Context :=
  ⟨r, r = .picture, r = .flagLetter, Link.next .none r⟩

/-- A mark that extends the character before it, whatever else it does. -/
def Role.isMark : Role → Bool
  | .extending | .parting | .linking => true
  | _ => false

/-- After one more character. -/
def Context.next (x : Context) (r : Role) : Context where
  last := r
  picture := r = .picture || (x.picture && (r.isMark || r = .joiner) && x.last ≠ .joiner)
  halfFlag := r = .flagLetter && !x.halfFlag
  link := x.link.next r

/-- Whether the next character belongs to the same cluster. -/
def Context.joins (x : Context) (r : Role) : Bool :=
  match x.last, r with
  | .carriageReturn, .lineFeed => true
  | .carriageReturn, _ | .lineFeed, _ | .breaking, _ => false
  | _, .carriageReturn | _, .lineFeed | _, .breaking => false
  | .leadingJamo, .leadingJamo | .leadingJamo, .vowelJamo => true
  | .leadingJamo, .openSyllable | .leadingJamo, .closedSyllable => true
  | .openSyllable, .vowelJamo | .openSyllable, .trailingJamo => true
  | .vowelJamo, .vowelJamo | .vowelJamo, .trailingJamo => true
  | .closedSyllable, .trailingJamo | .trailingJamo, .trailingJamo => true
  | _, .extending | _, .parting | _, .linking | _, .joiner | _, .spacing => true
  | .prepended, _ => true
  | _, .linkable => x.link = .linked
  | .joiner, .picture => x.picture
  | .flagLetter, .flagLetter => x.halfFlag
  | _, _ => false

/-- Cuts the rest of a text, of which the characters of `current` came last. -/
def cut (x : Context) (current : List Char) : List Char → List (List Char)
  | [] => [current.reverse]
  | c :: cs =>
    let r := role c
    if x.joins r then cut (x.next r) (c :: current) cs
    else current.reverse :: cut (x.next r) [c] cs

/-- The clusters of a text. -/
def split : List Char → List (List Char)
  | [] => []
  | c :: cs => cut (.first (role c)) [c] cs

end Cluster

end Tapewalk
