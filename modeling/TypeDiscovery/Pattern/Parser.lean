import TypeDiscovery.Pattern.ClassParser
import TypeDiscovery.Unicode.Property

/-!
# Reading patterns

A pattern is read from left to right; groups and alternatives that are still open wait on a
stack. `Tree.ofText?` gives the syntax tree, or nothing for a text that is no pattern.
-/

namespace TypeDiscovery.Pattern

open Text (isBlank)

/-- What is left open while a pattern is read: a group, with the items before it and the mode in
which reading goes on after it, or the earlier branches of a choice. -/
inductive OpenTree where
  | group (before : List Tree) (verbose : Bool) (flags : FlagGroup) (captures : Bool)
  | choice (branches : List Tree)

/-- The state of reading a pattern. Items and branches stand last one first. -/
structure Reading where
  rest : List Char
  verbose : Bool
  names : List (List Char)
  items : List Tree
  pending : List OpenTree

namespace Reading

def start (text : List Char) : Reading := ⟨text, false, [], [], []⟩

def withItem (r : Reading) (item : Tree) (rest : List Char) : Reading :=
  { r with rest, items := item :: r.items }

/-- The innermost branch, together with the branches before it. -/
def closeBranch (r : Reading) : Tree × List OpenTree :=
  let branch := Tree.ofSequence r.items.reverse
  match r.pending with
  | .choice branches :: pending => (.ofBranches (branch :: branches).reverse, pending)
  | pending => (branch, pending)

/-- Starts the next branch of a choice. -/
def nextBranch (r : Reading) (rest : List Char) : Reading :=
  let branch := Tree.ofSequence r.items.reverse
  match r.pending with
  | .choice branches :: pending =>
    { r with rest, items := [], pending := .choice (branch :: branches) :: pending }
  | pending => { r with rest, items := [], pending := .choice [branch] :: pending }

/-! ### Groups -/

def flagLetters : List (Char × Flag) :=
  [('i', .caseless), ('m', .multiLine), ('s', .dotAll), ('U', .swapGreed), ('u', .unicode),
    ('R', .crlf), ('x', .verbose)]

/-- The flags of a flag group, the character after them and the text after that. A minus sign
stands before the flags to turn off; it comes once at most, and not last. -/
def flagGroup? (g : FlagGroup) (negative afterSign : Bool) :
    List Char → Option (FlagGroup × Char × List Char)
  | [] => none
  | c :: rest =>
    if c == ':' || c == ')' then if afterSign then none else some (g, c, rest)
    else if c == '-' then if negative then none else flagGroup? g true true rest
    else
      match flagLetters.lookup c with
      | none => none
      | some f =>
        if f ∈ g.on ++ g.off then none
        else flagGroup? (if negative then ⟨g.on, f :: g.off⟩ else ⟨f :: g.on, g.off⟩)
          negative false rest

/-- Characters of group names. -/
def isNameStart (c : Char) : Bool := c == '_' || Unicode.isAlphabetic c

def isNameChar (c : Char) : Bool :=
  isNameStart c || Unicode.isNumeric c || c == '.' || c == '[' || c == ']'

def isGroupName : List Char → Bool
  | [] => false
  | c :: rest => isNameStart c && rest.all isNameChar

/-- Opens a group; `rest` is the text after what opens it. -/
def openGroup (r : Reading) (g : FlagGroup) (captures : Bool) (rest : List Char) : Reading :=
  { r with
    rest
    verbose := (g.state? .verbose).getD r.verbose
    items := []
    pending := .group r.items r.verbose g captures :: r.pending }

/-- A named group; names do not repeat. -/
def namedGroup? (r : Reading) (rest : List Char) : Option Reading :=
  let name := rest.takeWhile (· != '>')
  match rest.drop name.length with
  | '>' :: rest =>
    if isGroupName name && !r.names.contains name then
      some { r.openGroup .none true rest with names := name :: r.names }
    else none
  | _ => none

/-- What an opening parenthesis before `rest` starts: a group, or flags for the rest of the
enclosing one. -/
def group? (r : Reading) (rest : List Char) : Option Reading :=
  match skip r.verbose rest with
  | '?' :: '=' :: _ => none
  | '?' :: '!' :: _ => none
  | '?' :: '<' :: '=' :: _ => none
  | '?' :: '<' :: '!' :: _ => none
  | '?' :: 'P' :: '<' :: rest => r.namedGroup? rest
  | '?' :: '<' :: rest => r.namedGroup? rest
  | '?' :: rest =>
    match flagGroup? .none false false rest with
    | none => none
    | some (g, ':', rest) => some (r.openGroup g false rest)
    | some (g, _, rest) =>
      if g = .none then none
      else some { r.withItem (.flags g) rest with
        verbose := (g.state? .verbose).getD r.verbose }
  | rest => some (r.openGroup .none true rest)

/-- Closes the innermost group; `rest` is the text after it. -/
def closeGroup? (r : Reading) (rest : List Char) : Option Reading :=
  let (body, pending) := r.closeBranch
  match pending with
  | .group before verbose g captures :: pending =>
    some { r with rest, verbose, items := .group g captures body :: before, pending }
  | _ => none

/-! ### Repetitions -/

/-- The last item, which a repetition sign repeats. -/
def repeated? (r : Reading) (least : Nat) (most : Option Nat) (rest : List Char) :
    Option Reading :=
  match r.items with
  | item :: before =>
    if item.canRepeat then some { r with rest, items := .repeated least most item :: before }
    else none
  | [] => none

/-- The text after a question mark that asks for as few repetitions as possible. -/
def afterLazySign : List Char → List Char
  | '?' :: rest => rest
  | rest => rest

/-- The digits at the start of a text and the text after them. -/
def digits (verbose : Bool) (cs : List Char) : List Char × List Char :=
  match cs with
  | [] => ([], [])
  | c :: rest =>
    if c.isDigit then
      let (more, after) := digits verbose (skip verbose rest)
      (c :: more, after)
    else ([], c :: rest)
termination_by cs.length
decreasing_by
  have := skip_length_le verbose rest
  simp only [List.length_cons]
  omega

/-- The number that decimal digits stand for. -/
def decimal? (ds : List Char) : Option Nat :=
  if ds.isEmpty then none else some (Nat.ofDigitChars 10 ds 0)

/-- A count of at most 32 bits, between blanks. -/
def count? (verbose : Bool) (cs : List Char) : Option (Nat × List Char) := do
  let (ds, rest) := digits verbose (cs.dropWhile isBlank)
  let n ← decimal? ds
  guard (n < 0x100000000)
  return (n, rest.dropWhile isBlank)

/-- The bounds of a counted repetition after its opening brace. -/
def bounds? (verbose : Bool) (cs : List Char) :
    Option (Nat × Option Nat × List Char) := do
  let (least, rest) ← count? verbose (skip verbose cs)
  match rest with
  | '\x7d' :: rest => return (least, some least, rest)
  | ',' :: rest =>
    match skip verbose rest with
    | '\x7d' :: rest => return (least, none, rest)
    | rest =>
      let (most, rest) ← count? verbose rest
      match rest with
      | '\x7d' :: rest =>
        guard (least ≤ most)
        return (least, some most, rest)
      | _ => none
  | _ => none

/-! ### Reading -/

/-- Reads one item, sign or group end, which starts with `c`. -/
def step? (r : Reading) (c : Char) (rest : List Char) : Option Reading :=
  match c with
  | '(' => r.group? rest
  | ')' => r.closeGroup? rest
  | '|' => some (r.nextBranch rest)
  | '[' => (bracketed? r.verbose rest).map fun (tree, rest) => r.withItem tree rest
  | '?' => r.repeated? 0 (some 1) (afterLazySign rest)
  | '*' => r.repeated? 0 none (afterLazySign rest)
  | '+' => r.repeated? 1 none (afterLazySign rest)
  | '\x7b' => do
    let (least, most, rest) ← bounds? r.verbose rest
    r.repeated? least most (afterLazySign (skip r.verbose rest))
  | '\\' => (escape? r.verbose rest).map fun (p, rest) => r.withItem (.primitive p) rest
  | '.' => some (r.withItem (.primitive .dot) rest)
  | '^' => some (r.withItem (.primitive (.assertion .lineStart)) rest)
  | '$' => some (r.withItem (.primitive (.assertion .lineEnd)) rest)
  | c => some (r.withItem (.primitive (.literal c false)) rest)

/-- The whole tree, once the text is read. -/
def finish? (r : Reading) : Option Tree :=
  match r.closeBranch with
  | (tree, []) => some tree
  | _ => none

/-- Reads to the end of the text in at most `fuel` steps. -/
def run? : Nat → Reading → Option Tree
  | 0, _ => none
  | fuel + 1, r =>
    match skip r.verbose r.rest with
    | [] => r.finish?
    | c :: rest => (r.step? c rest).bind (run? fuel)

end Reading

/-- The greatest depth of nested groups, repetitions, sequences and classes. -/
def depthLimit : Nat := 250

/-- The syntax tree of a pattern. Every step takes a character, so there are no more steps than
characters. -/
def Tree.ofText? (text : List Char) : Option Tree := do
  let tree ← Reading.run? (text.length + 1) (.start text)
  guard (tree.depth ≤ depthLimit)
  return tree

end TypeDiscovery.Pattern
