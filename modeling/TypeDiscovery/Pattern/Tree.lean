/-!
# Syntax trees of patterns

The tree of a pattern as it is written: items in sequence, alternatives, groups, repetitions and
bracketed classes, with the flags left where they stand. `Tree.depth` counts the nested levels,
of which a pattern may have only so many.
-/

namespace TypeDiscovery.Pattern

inductive Flag where
  | caseless
  | multiLine
  | dotAll
  | swapGreed
  | unicode
  | crlf
  | verbose
  deriving DecidableEq

/-- The flags that one flag group turns on and off; no flag is named twice. -/
structure FlagGroup where
  on : List Flag
  off : List Flag
  deriving DecidableEq

namespace FlagGroup

def none : FlagGroup := ⟨[], []⟩

/-- What the group says of a flag, if it names it. -/
def state? (g : FlagGroup) (f : Flag) : Option Bool :=
  if f ∈ g.on then some true else if f ∈ g.off then some false else Option.none

end FlagGroup

/-- Tests of a position that take no character. -/
inductive Assertion where
  | lineStart
  | lineEnd
  | textStart
  | textEnd
  | wordBoundary
  | notWordBoundary
  | wordStart
  | wordEnd
  | wordStartHalf
  | wordEndHalf
  deriving DecidableEq

/-- Classes written with one letter after a backslash. -/
inductive LetterClass where
  | digit
  | space
  | word
  deriving DecidableEq

/-- A set of characters asked for by a property's name, or by a property and one of its values. -/
inductive PropertyQuery where
  | named (name : String)
  | valued (name value : String)
  deriving DecidableEq

/-- What takes one character or none and has no parts. -/
inductive Primitive where
  /-- A character; `byte` tells that it was written as a byte of two hexadecimal digits. -/
  | literal (c : Char) (byte : Bool)
  | dot
  | assertion (a : Assertion)
  | letterClass (k : LetterClass) (negated : Bool)
  | property (q : PropertyQuery) (negated : Bool)
  deriving DecidableEq

/-- The named classes of ASCII characters. -/
inductive AsciiClass where
  | alnum
  | alpha
  | ascii
  | blank
  | cntrl
  | digit
  | graph
  | lower
  | print
  | punct
  | space
  | upper
  | word
  | xdigit
  deriving DecidableEq

inductive ClassOperation where
  | intersection
  | difference
  | symmetricDifference
  deriving DecidableEq

/-- What stands between the brackets of a class. -/
inductive ClassTree where
  | empty
  /-- A character; `byte` tells that it is one of ASCII or was written as a byte. -/
  | literal (c : Char) (byte : Bool)
  /-- The characters between two ends; `bytes` tells the same of both of them. -/
  | range (first last : Char) (bytes : Bool)
  | ascii (k : AsciiClass) (negated : Bool)
  | letterClass (k : LetterClass) (negated : Bool)
  | property (q : PropertyQuery) (negated : Bool)
  | bracketed (negated : Bool) (body : ClassTree)
  | union (items : List ClassTree)
  | operation (op : ClassOperation) (left right : ClassTree)

inductive Tree where
  | empty
  | flags (g : FlagGroup)
  | primitive (p : Primitive)
  | bracketed (negated : Bool) (body : ClassTree)
  | repeated (least : Nat) (most : Option Nat) (item : Tree)
  | group (g : FlagGroup) (captures : Bool) (body : Tree)
  | alternatives (branches : List Tree)
  | sequence (items : List Tree)

namespace ClassTree

/-- One item stands for itself, several for their union. -/
def ofItems : List ClassTree → ClassTree
  | [] => empty
  | [item] => item
  | items => union items

mutual

def depth : ClassTree → Nat
  | bracketed _ body => body.depth + 1
  | union items => depths items + 1
  | operation _ left right => max left.depth right.depth + 1
  | _ => 0

/-- The greatest depth of several trees. -/
def depths : List ClassTree → Nat
  | [] => 0
  | item :: rest => max item.depth (depths rest)

end

end ClassTree

namespace Tree

/-- One item stands for itself, several for their sequence. -/
def ofSequence : List Tree → Tree
  | [] => empty
  | [item] => item
  | items => sequence items

/-- One branch stands for itself, several for the choice between them. -/
def ofBranches : List Tree → Tree
  | [] => empty
  | [branch] => branch
  | branches => alternatives branches

mutual

def depth : Tree → Nat
  | bracketed _ body => body.depth + 1
  | repeated _ _ item => item.depth + 1
  | group _ _ body => body.depth + 1
  | alternatives branches => depths branches + 1
  | sequence items => depths items + 1
  | _ => 0

/-- The greatest depth of several trees. -/
def depths : List Tree → Nat
  | [] => 0
  | item :: rest => max item.depth (depths rest)

end

/-- An item that a repetition can follow. -/
def canRepeat : Tree → Bool
  | empty => false
  | flags _ => false
  | _ => true

end Tree

end TypeDiscovery.Pattern
