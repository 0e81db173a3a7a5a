import TypeDiscovery.Pattern.CharClass

/-!
# Regular expressions

What a pattern means, with the flags worked in: tests of single characters and of positions,
combined by sequence, choice and repetition. `Expr.ofTree?` takes the meaning of a syntax tree.
`Expr.Spans` says which stretches of a text an expression matches.
-/

namespace TypeDiscovery.Pattern

/-- Tests of a position by the characters on its two sides. -/
inductive Look where
  | textStart
  | textEnd
  | lineStart
  | lineEnd
  | crlfLineStart
  | crlfLineEnd
  | wordBoundary (unicode : Bool)
  | notWordBoundary (unicode : Bool)
  | wordStart (unicode : Bool)
  | wordEnd (unicode : Bool)
  | wordStartHalf (unicode : Bool)
  | wordEndHalf (unicode : Bool)
  deriving DecidableEq

variable [UnicodeTables]

/-- Whether there is a character on that side and it belongs to words. -/
def isWordSide (unicode : Bool) (side : Option Char) : Bool :=
  side.any (LetterClass.word.contains unicode)

/-- Whether a position between two characters passes. A carriage return and a line feed together
are one line end. -/
def Look.holds : Look → Option Char → Option Char → Bool
  | textStart, before, _ => before.isNone
  | textEnd, _, after => after.isNone
  | lineStart, before, _ => before.isNone || before == some '\n'
  | lineEnd, _, after => after.isNone || after == some '\n'
  | crlfLineStart, before, after =>
    before.isNone || before == some '\n' || (before == some '\r' && after != some '\n')
  | crlfLineEnd, before, after =>
    after.isNone || after == some '\r' || (after == some '\n' && before != some '\r')
  | wordBoundary u, before, after => isWordSide u before != isWordSide u after
  | notWordBoundary u, before, after => isWordSide u before == isWordSide u after
  | wordStart u, before, after => !isWordSide u before && isWordSide u after
  | wordEnd u, before, after => isWordSide u before && !isWordSide u after
  | wordStartHalf u, before, _ => !isWordSide u before
  | wordEndHalf u, _, after => !isWordSide u after

/-- The test that an assertion is under given flags. -/
def Assertion.look (flags : Flags) : Assertion → Look
  | lineStart =>
    if flags.multiLine then if flags.crlf then .crlfLineStart else .lineStart else .textStart
  | lineEnd =>
    if flags.multiLine then if flags.crlf then .crlfLineEnd else .lineEnd else .textEnd
  | textStart => .textStart
  | textEnd => .textEnd
  | wordBoundary => .wordBoundary flags.unicode
  | notWordBoundary => .notWordBoundary flags.unicode
  | wordStart => .wordStart flags.unicode
  | wordEnd => .wordEnd flags.unicode
  | wordStartHalf => .wordStartHalf flags.unicode
  | wordEndHalf => .wordEndHalf flags.unicode

inductive Expr where
  | empty
  | char (p : CharClass)
  | look (l : Look)
  | seq (first second : Expr)
  | choice (first second : Expr)
  /-- At least `least` times, and at most `most` times if there is such a bound. -/
  | repeated (least : Nat) (most : Option Nat) (item : Expr)

namespace Expr

/-- The character before a position of a text. -/
def charBefore (text : List Char) : Nat → Option Char
  | 0 => none
  | i + 1 => text[i]?

/-- The stretches of a text that an expression matches, by their two ends. -/
inductive Spans (text : List Char) : Expr → Nat → Nat → Prop where
  | empty {i : Nat} (h : i ≤ text.length) : Spans text empty i i
  | char {p : CharClass} {i : Nat} {c : Char} (hc : text[i]? = some c) (hp : p c = true) :
    Spans text (char p) i (i + 1)
  | look {l : Look} {i : Nat} (h : i ≤ text.length)
    (hl : l.holds (charBefore text i) text[i]? = true) : Spans text (look l) i i
  | seq {a b : Expr} {i j k : Nat} (ha : Spans text a i j) (hb : Spans text b j k) :
    Spans text (seq a b) i k
  | choiceFirst {a b : Expr} {i j : Nat} (h : Spans text a i j) : Spans text (choice a b) i j
  | choiceSecond {a b : Expr} {i j : Nat} (h : Spans text b i j) : Spans text (choice a b) i j
  | none {most : Option Nat} {a : Expr} {i : Nat} (h : i ≤ text.length) :
    Spans text (repeated 0 most a) i i
  | more {least : Nat} {most : Option Nat} {a : Expr} {i j k : Nat} (hm : most ≠ some 0)
    (ha : Spans text a i j) (hr : Spans text (repeated (least - 1) (most.map (· - 1)) a) j k) :
    Spans text (repeated least most a) i k

/-- The characters that a dot stands for. -/
def dotClass (flags : Flags) : CharClass := fun c =>
  flags.dotAll || (c != '\n' && !(flags.crlf && c == '\r'))

/-- The meaning of a primitive under given flags. Bytes beyond ASCII and dots ask for Unicode. -/
def ofPrimitive? (flags : Flags) : Primitive → Option Expr
  | .literal c byte =>
    if byte && !flags.unicode && 128 ≤ c.toNat then Option.none
    else some (char (.caselessIf flags (.range c c)))
  | .dot => if flags.unicode then some (char (dotClass flags)) else Option.none
  | .assertion a => some (look (a.look flags))
  | .letterClass k negated => (k.set? flags negated).map char
  | .property q negated => (q.setUnder? flags negated).map char

mutual

/-- The meaning of a tree, and the flags after it. Flags set in a group end with the group. -/
def ofTree? (flags : Flags) : Tree → Option (Expr × Flags)
  | .empty => some (empty, flags)
  | .flags g => some (empty, flags.update g)
  | .primitive p => (ofPrimitive? flags p).map (·, flags)
  | .bracketed negated body => do
    let p ← body.set? flags
    return (char (← flags.finish? negated p), flags)
  | .repeated least most item => do
    let (e, flags) ← ofTree? flags item
    return (repeated least most e, flags)
  | .group g _ body => do
    let (e, _) ← ofTree? (flags.update g) body
    return (e, flags)
  | .alternatives branches => ofBranches? flags branches
  | .sequence items => ofSequence? flags items

/-- The meaning of items in sequence. -/
def ofSequence? (flags : Flags) : List Tree → Option (Expr × Flags)
  | [] => some (empty, flags)
  | item :: rest => do
    let (e, flags) ← ofTree? flags item
    let (f, flags) ← ofSequence? flags rest
    return (seq e f, flags)

/-- The meaning of a choice. Flags set in one branch are in force in the later ones. -/
def ofBranches? (flags : Flags) : List Tree → Option (Expr × Flags)
  | [] => some (empty, flags)
  | [branch] => ofTree? flags branch
  | branch :: next :: rest => do
    let (e, flags) ← ofTree? flags branch
    let (f, flags) ← ofBranches? flags (next :: rest)
    return (choice e f, flags)

end

end Expr

end TypeDiscovery.Pattern
