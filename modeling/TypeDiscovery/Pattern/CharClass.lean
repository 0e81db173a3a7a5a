import TypeDiscovery.Pattern.Tree

/-!
# Classes of characters

What a class, an escape or a dot admits under given flags. Which characters are digits or have a
property, and which differ in case only, depends on the version of Unicode, whose tables are a
parameter (`UnicodeTables`). Without the Unicode flag a class is a set of bytes, and one that
reaches beyond ASCII is refused.
-/

namespace TypeDiscovery.Pattern

/-- The flags in force at a place of a pattern, as far as they bear on what matches. -/
structure Flags where
  caseless : Bool
  multiLine : Bool
  dotAll : Bool
  unicode : Bool
  crlf : Bool
  deriving DecidableEq

namespace Flags

def default : Flags := ⟨false, false, false, true, false⟩

/-- The flags after a flag group. -/
def update (flags : Flags) (g : FlagGroup) : Flags where
  caseless := (g.state? .caseless).getD flags.caseless
  multiLine := (g.state? .multiLine).getD flags.multiLine
  dotAll := (g.state? .dotAll).getD flags.dotAll
  unicode := (g.state? .unicode).getD flags.unicode
  crlf := (g.state? .crlf).getD flags.crlf

end Flags

abbrev CharClass := Char → Bool

/-- What a version of Unicode says of characters. -/
class UnicodeTables where
  digit : CharClass
  space : CharClass
  word : CharClass
  /-- The set that a property query asks for, if there is one. -/
  property? : PropertyQuery → Option CharClass
  /-- The characters that differ from a character in case at most. -/
  caseClass : Char → List Char

variable [UnicodeTables]

namespace CharClass

def range (first last : Char) : CharClass := fun c => first ≤ c && c ≤ last

def ofRanges (ranges : List (Char × Char)) : CharClass := fun c =>
  ranges.any fun (first, last) => first ≤ c && c ≤ last

def union (p q : CharClass) : CharClass := fun c => p c || q c

def negatedIf (negated : Bool) (p : CharClass) : CharClass := fun c => p c != negated

/-- The class with every character that differs in case only from one of its members. -/
def caseless (p : CharClass) : CharClass := fun c =>
  (UnicodeTables.caseClass c).any p

/-- The same for the letters of ASCII alone. -/
def caselessAscii (p : CharClass) : CharClass := fun c =>
  p c || (c.isUpper && p c.toLower) || (c.isLower && p c.toUpper)

def caselessIf (flags : Flags) (p : CharClass) : CharClass :=
  if flags.caseless then if flags.unicode then caseless p else caselessAscii p else p

end CharClass

namespace AsciiClass

def ranges : AsciiClass → List (Char × Char)
  | alnum => [('0', '9'), ('A', 'Z'), ('a', 'z')]
  | alpha => [('A', 'Z'), ('a', 'z')]
  | ascii => [('\x00', '\x7f')]
  | blank => [('\t', '\t'), (' ', ' ')]
  | cntrl => [('\x00', '\x1f'), ('\x7f', '\x7f')]
  | digit => [('0', '9')]
  | graph => [('!', '~')]
  | lower => [('a', 'z')]
  | print => [(' ', '~')]
  | punct => [('!', '/'), (':', '@'), ('[', '\x60'), ('\x7b', '~')]
  | space => [('\t', '\r'), (' ', ' ')]
  | upper => [('A', 'Z')]
  | word => [('0', '9'), ('A', 'Z'), ('_', '_'), ('a', 'z')]
  | xdigit => [('0', '9'), ('A', 'F'), ('a', 'f')]

end AsciiClass

namespace LetterClass

def asciiClass : LetterClass → AsciiClass
  | digit => .digit
  | space => .space
  | word => .word

def contains (unicode : Bool) (k : LetterClass) : CharClass :=
  if unicode then
    match k with
    | digit => UnicodeTables.digit
    | space => UnicodeTables.space
    | word => UnicodeTables.word
  else .ofRanges k.asciiClass.ranges

end LetterClass

/-- The bytes beyond ASCII, each as the character of its number. -/
def highBytes : List Char := (List.range 128).map fun i => Char.ofNat (128 + i)

/-- Case folding, if asked for, and then negation, if asked for. -/
def Flags.finish? (flags : Flags) (negated : Bool) (p : CharClass) : Option CharClass :=
  let q := CharClass.negatedIf negated (.caselessIf flags p)
  if flags.unicode then some q
  else if highBytes.any q then none
  else some fun c => c.toNat < 128 && q c

namespace LetterClass

def set? (flags : Flags) (negated : Bool) (k : LetterClass) : Option CharClass :=
  if negated && !flags.unicode then none
  else some (.negatedIf negated (k.contains flags.unicode))

end LetterClass

/-- The set of a property under given flags. -/
def PropertyQuery.setUnder? (flags : Flags) (negated : Bool) (q : PropertyQuery) :
    Option CharClass :=
  if flags.unicode then (UnicodeTables.property? q).bind (flags.finish? negated) else none

def ClassOperation.apply : ClassOperation → CharClass → CharClass → CharClass
  | intersection, p, q => fun c => p c && q c
  | difference, p, q => fun c => p c && !q c
  | symmetricDifference, p, q => fun c => p c != q c

namespace ClassTree

mutual

def set? (flags : Flags) : ClassTree → Option CharClass
  | empty => some fun _ => false
  | literal c byte => if flags.unicode || byte then some (.range c c) else none
  | range first last bytes => if flags.unicode || bytes then some (.range first last) else none
  | ascii k negated => flags.finish? negated (.ofRanges k.ranges)
  | letterClass k negated => k.set? flags negated
  | property q negated => q.setUnder? flags negated
  | bracketed negated body => (body.set? flags).bind (flags.finish? negated)
  | union items => unionOf? flags items
  | operation op left right => do
    let p ← left.set? flags
    let q ← right.set? flags
    return op.apply (.caselessIf flags p) (.caselessIf flags q)

/-- The union of the sets of several trees. -/
def unionOf? (flags : Flags) : List ClassTree → Option CharClass
  | [] => some fun _ => false
  | item :: rest => do
    let p ← item.set? flags
    let q ← unionOf? flags rest
    return .union p q

end

end ClassTree

end TypeDiscovery.Pattern
