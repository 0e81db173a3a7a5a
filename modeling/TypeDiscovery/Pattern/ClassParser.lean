import TypeDiscovery.Pattern.Escape

/-!
# Reading bracketed classes

Classes nest and combine by the operators `&&`, `--` and `~~`, which group from left to right and
bind less than the sequence of items. A hyphen or a closing bracket right after the opening
bracket stands for itself.
-/

namespace TypeDiscovery.Pattern

open Text (isBlank)

namespace AsciiClass

def names : List (String × AsciiClass) :=
  [("alnum", alnum), ("alpha", alpha), ("ascii", ascii), ("blank", blank), ("cntrl", cntrl),
    ("digit", digit), ("graph", graph), ("lower", lower), ("print", print), ("punct", punct),
    ("space", space), ("upper", upper), ("word", word), ("xdigit", xdigit)]

/-- A named class such as `[:alpha:]` or `[:^alpha:]`, after its opening bracket. -/
def ofText? (cs : List Char) : Option (ClassTree × List Char) :=
  match cs with
  | ':' :: '^' :: rest => named? true rest
  | ':' :: rest => named? false rest
  | _ => none
where
  named? (negated : Bool) (cs : List Char) : Option (ClassTree × List Char) :=
    let name := cs.takeWhile (· != ':')
    match cs.drop name.length with
    | ':' :: ']' :: rest =>
      (names.lookup (String.ofList name)).map fun k => (.ascii k negated, rest)
    | _ => none

end AsciiClass

/-- A character that is one of ASCII or was written as a byte. -/
def isByte (c : Char) (byte : Bool) : Bool := byte || c.toNat < 128

/-- The class item that a primitive is; dots and assertions are none. -/
def Primitive.toClassItem? : Primitive → Option ClassTree
  | .literal c byte => some (.literal c (isByte c byte))
  | .letterClass k negated => some (.letterClass k negated)
  | .property q negated => some (.property q negated)
  | .dot | .assertion _ => none

/-- The character that a primitive is, as an end of a range, and whether it is a byte. -/
def Primitive.toRangeEnd? : Primitive → Option (Char × Bool)
  | .literal c byte => some (c, isByte c byte)
  | _ => none

/-- What is left open while a class is read: a bracket with the items read before it, or an
operator with its left side. -/
inductive OpenClass where
  | bracket (before : List ClassTree) (negated : Bool)
  | operator (op : ClassOperation) (left : ClassTree)

/-- The state of reading a class. The items of the innermost sequence stand last one first. -/
structure ClassReading where
  rest : List Char
  items : List ClassTree
  pending : List OpenClass

namespace ClassReading

/-- The hyphens, or else the closing bracket, right after an opening bracket. -/
def leadingLiterals? (verbose : Bool) (cs : List Char) : Option (List ClassTree × List Char) :=
  match cs with
  | [] => none
  | ']' :: rest =>
    (nonEmpty? (skip verbose rest)).map fun rest => ([.literal ']' true], rest)
  | cs => hyphens? [] cs
where
  nonEmpty? (cs : List Char) : Option (List Char) := if cs.isEmpty then none else some cs
  hyphens? (items : List ClassTree) (cs : List Char) : Option (List ClassTree × List Char) :=
    match cs with
    | [] => none
    | '-' :: rest => hyphens? (.literal '-' true :: items) (skip verbose rest)
    | cs => some (items, cs)
  termination_by cs.length
  decreasing_by
    have := skip_length_le verbose rest
    simp only [List.length_cons]
    omega

/-- Opens a bracket; `rest` is the text after it. -/
def enter? (verbose : Bool) (r : ClassReading) (rest : List Char) : Option ClassReading :=
  match skip verbose rest with
  | '^' :: rest => enterItems true (skip verbose rest)
  | rest => enterItems false rest
where
  enterItems (negated : Bool) (rest : List Char) : Option ClassReading := do
    let (items, rest) ← leadingLiterals? verbose rest
    return ⟨rest, items, .bracket r.items negated :: r.pending⟩

/-- The innermost sequence as the right side of the operator before it, if there is one. -/
def closeOperator (r : ClassReading) : ClassTree × List OpenClass :=
  let item := ClassTree.ofItems r.items.reverse
  match r.pending with
  | .operator op left :: pending => (.operation op left item, pending)
  | pending => (item, pending)

/-- The character after the current one. In verbose mode it is the next one that is not blank, and
a number sign before it is passed over once. -/
def lookAhead (verbose : Bool) (rest : List Char) : Option Char :=
  if verbose then (beyond false rest).or rest.head? else rest.head?
where
  beyond (signSeen : Bool) : List Char → Option Char
    | [] => none
    | c :: rest =>
      if isBlank c then beyond signSeen rest
      else if c == '#' && !signSeen then beyond true rest
      else some c

/-- One character or escape. -/
def member? (verbose : Bool) : List Char → Option (Primitive × List Char)
  | [] => none
  | '\\' :: rest => escape? verbose rest
  | c :: rest => some (.literal c false, rest)

/-- One member, or a range between two. -/
def rangeOrMember? (verbose : Bool) (cs : List Char) : Option (ClassTree × List Char) := do
  let (first, rest) ← member? verbose cs
  match skip verbose rest with
  | [] => none
  | '-' :: rest =>
    let next := lookAhead verbose rest
    if next = some ']' || next = some '-' then return (← first.toClassItem?, '-' :: rest)
    else
      let (last, rest) ← member? verbose (skip verbose rest)
      let (first, firstByte) ← first.toRangeEnd?
      let (last, lastByte) ← last.toRangeEnd?
      guard (first ≤ last)
      return (.range first last (firstByte && lastByte), rest)
  | rest => return (← first.toClassItem?, rest)

/-- What one step of reading comes to. -/
inductive Step where
  | more (r : ClassReading)
  | done (tree : Tree) (rest : List Char)

def withOperator (r : ClassReading) (op : ClassOperation) (rest : List Char) : Step :=
  let (left, pending) := r.closeOperator
  .more ⟨rest, [], .operator op left :: pending⟩

def withItem (r : ClassReading) (item : ClassTree) (rest : List Char) : Step :=
  .more ⟨rest, item :: r.items, r.pending⟩

/-- Closes the innermost bracket; `rest` is the text after it. -/
def leave? (r : ClassReading) (rest : List Char) : Option Step :=
  let (body, pending) := r.closeOperator
  match pending with
  | [.bracket _ negated] => some (.done (.bracketed negated body) rest)
  | .bracket before negated :: pending =>
    some (.more ⟨rest, .bracketed negated body :: before, pending⟩)
  | _ => none

/-- Reads one item, operator or bracket. -/
def step? (verbose : Bool) (r : ClassReading) : Option Step :=
  match skip verbose r.rest with
  | [] => none
  | '[' :: rest =>
    match AsciiClass.ofText? rest with
    | some (item, rest) => some (r.withItem item rest)
    | none => (r.enter? verbose rest).map .more
  | ']' :: rest => r.leave? rest
  | '&' :: '&' :: rest => some (r.withOperator .intersection rest)
  | '-' :: '-' :: rest => some (r.withOperator .difference rest)
  | '~' :: '~' :: rest => some (r.withOperator .symmetricDifference rest)
  | rest => do
    let (item, rest) ← rangeOrMember? verbose rest
    return r.withItem item rest

/-- Reads to the end of the outermost bracket, in at most `fuel` steps. -/
def run? (verbose : Bool) : Nat → ClassReading → Option (Tree × List Char)
  | 0, _ => none
  | fuel + 1, r =>
    match r.step? verbose with
    | none => none
    | some (.done tree rest) => some (tree, rest)
    | some (.more r) => run? verbose fuel r

end ClassReading

/-- The class whose opening bracket stands before `rest`. Every step takes a character, so there
are no more steps than characters. -/
def bracketed? (verbose : Bool) (rest : List Char) : Option (Tree × List Char) := do
  let start ← ClassReading.enter? verbose ⟨rest, [], []⟩ rest
  ClassReading.run? verbose (rest.length + 1) start

end TypeDiscovery.Pattern
