import TypeDiscovery.Pattern.CharClass

/-!
# Sizes of patterns

An estimate of how large the machine for a pattern is. Repetitions are written out in it, and what
all branches of a choice begin with is built once, in front of the choice. A pattern that stands for
a few plain texts needs no machine, however large it would be, as these are searched for directly.
-/

namespace TypeDiscovery.Pattern

/-! ### Trees that are written alike -/

mutual

def ClassTree.same : ClassTree → ClassTree → Bool
  | empty, empty => true
  | literal c byte, literal d byte' => c == d && byte == byte'
  | range a b bytes, range c d bytes' => a == c && b == d && bytes == bytes'
  | ascii k negated, ascii k' negated' => k == k' && negated == negated'
  | letterClass k negated, letterClass k' negated' => k == k' && negated == negated'
  | property q negated, property q' negated' => q == q' && negated == negated'
  | bracketed negated body, bracketed negated' body' => negated == negated' && body.same body'
  | union items, union items' => ClassTree.sameAll items items'
  | operation op left right, operation op' left' right' =>
    op == op' && left.same left' && right.same right'
  | _, _ => false

def ClassTree.sameAll : List ClassTree → List ClassTree → Bool
  | [], [] => true
  | item :: rest, item' :: rest' => item.same item' && ClassTree.sameAll rest rest'
  | _, _ => false

end

mutual

def Tree.same : Tree → Tree → Bool
  | empty, empty => true
  | flags g, flags g' => g == g'
  | primitive p, primitive p' => p == p'
  | bracketed negated body, bracketed negated' body' => negated == negated' && body.same body'
  | repeated least most item, repeated least' most' item' =>
    least == least' && most == most' && item.same item'
  | group g captures body, group g' captures' body' =>
    g == g' && captures == captures' && body.same body'
  | alternatives branches, alternatives branches' => Tree.sameAll branches branches'
  | sequence items, sequence items' => Tree.sameAll items items'
  | _, _ => false

def Tree.sameAll : List Tree → List Tree → Bool
  | [], [] => true
  | item :: rest, item' :: rest' => item.same item' && Tree.sameAll rest rest'
  | _, _ => false

end

/-! ### Sizes -/

/-- The size of one state of a machine. -/
def stateSize : Nat := 32

def utf8Size (c : Char) : Nat := c.utf8Size

def LetterClass.weight (flags : Flags) (negated : Bool) (k : LetterClass) : Nat :=
  if !flags.unicode then 3 * stateSize
  else
    match k with
    | digit => 5000
    | space => if negated then 1500 else 1000
    | word => 50000

/-- The same for every property, since few patterns are near the limit. -/
def PropertyQuery.weight : PropertyQuery → Nat := fun _ => 20000

mutual

def ClassTree.weight (flags : Flags) : ClassTree → Nat
  | empty => stateSize
  | literal c _ => stateSize * utf8Size c
  | range first last _ =>
    if last.toNat < 128 then stateSize
    else 4 * stateSize * (utf8Size last - utf8Size first + 1)
  | ascii .. => stateSize
  | letterClass k negated => k.weight flags negated
  | property q _ => q.weight
  | bracketed negated body => body.weight flags + if negated then 500 else 0
  | union items => ClassTree.weightOfAll flags items
  | operation _ left right => left.weight flags + right.weight flags

def ClassTree.weightOfAll (flags : Flags) : List ClassTree → Nat
  | [] => 0
  | item :: rest => item.weight flags + ClassTree.weightOfAll flags rest

end

def Primitive.weight (flags : Flags) : Primitive → Nat
  | .literal c _ => stateSize * utf8Size c
  | .dot => 500
  | .assertion _ => stateSize
  | .letterClass k negated => k.weight flags negated
  | .property q _ => q.weight

namespace Tree

/-- The items of a tree in sequence. -/
def items : Tree → List Tree
  | sequence items => items
  | t => [t]

def isFlags : Tree → Bool
  | flags _ => true
  | _ => false

/-- How many items two sequences have in common at their starts. -/
def sharedStart : List Tree → List Tree → Nat
  | s :: rest, t :: rest' => if s.same t then sharedStart rest rest' + 1 else 0
  | _, _ => 0

/-- How many items all branches of a choice begin with alike. They are taken in front of the choice
only if every branch is a sequence; branches that set flags are left as they are. -/
def sharedItems : List Tree → Nat
  | [] => 0
  | first :: rest =>
    if (first :: rest).all fun t => 2 ≤ t.items.length && !t.items.any isFlags then
      rest.foldl (fun n t => min n (sharedStart first.items t.items)) first.items.length
    else 0

def total (sizes : List Nat) : Nat := sizes.foldr (· + ·) 0

mutual

/-- The sizes of the machines for the items of a tree, and the flags after it. -/
def weights (flags : Flags) : Tree → List Nat × Flags
  | empty => ([stateSize], flags)
  | .flags g => ([stateSize], flags.update g)
  | primitive p => ([p.weight flags], flags)
  | bracketed negated body =>
    ([body.weight flags + stateSize + if negated then 500 else 0], flags)
  | repeated least most item =>
    let (sizes, flags) := weights flags item
    ([match most with
      | none => (max least 1) * total sizes + stateSize
      | some most => most * total sizes + (most - least) * (stateSize + 8)], flags)
  | group g captures body =>
    ([total (weights (flags.update g) body).1 + if captures then 2 * stateSize else 0], flags)
  | alternatives branches =>
    let (sizes, flags) := weightsOfBranches flags branches
    let shared := sharedItems branches
    ([total ((sizes.headD []).take shared) +
      total (sizes.map fun ws => total (ws.drop shared)) + stateSize], flags)
  | sequence items => weightsOfItems flags items

def weightsOfItems (flags : Flags) : List Tree → List Nat × Flags
  | [] => ([], flags)
  | item :: rest =>
    let (sizes, flags) := weights flags item
    let (more, flags) := weightsOfItems flags rest
    (total sizes :: more, flags)

def weightsOfBranches (flags : Flags) : List Tree → List (List Nat) × Flags
  | [] => ([], flags)
  | branch :: rest =>
    let (sizes, flags) := weights flags branch
    let (more, flags) := weightsOfBranches flags rest
    (sizes :: more, flags)

end

/-- The size of the machine for a tree. -/
def weight (t : Tree) : Nat := total (t.weights .default).1

end Tree

/-! ### Plain texts -/

/-- The greatest number of characters that are taken out of one class, and of repetitions that are
written out in plain texts. -/
def plainLimit : Nat := 10

mutual

/-- The characters of a class, if they are few. -/
def ClassTree.chars? : ClassTree → Option (List Char)
  | empty => some []
  | literal c _ => some [c]
  | range first last _ =>
    if last.toNat - first.toNat < plainLimit then
      some ((List.range (last.toNat - first.toNat + 1)).map fun i => Char.ofNat (first.toNat + i))
    else none
  | bracketed negated body => if negated then none else body.chars?
  | union items => ClassTree.charsOfAll? items
  | operation op left right => do
    let p ← left.chars?
    let q ← right.chars?
    return (p ++ q).filter (op.apply p.contains q.contains)
  | ascii .. | letterClass .. | property .. => none

def ClassTree.charsOfAll? : List ClassTree → Option (List Char)
  | [] => some []
  | item :: rest => do return (← item.chars?) ++ (← ClassTree.charsOfAll? rest)

end

/-- Texts that are short and few. -/
def fewTexts? (texts : List (List Char)) : Option (List (List Char)) :=
  if texts.length ≤ 250 && texts.all (·.length ≤ 100) then some texts else none

/-- Every text of the first list before every text of the second. -/
def joinTexts? (heads tails : List (List Char)) : Option (List (List Char)) :=
  fewTexts? (heads.flatMap fun head => tails.map (head ++ ·))

def repeatTexts? (texts : List (List Char)) : Nat → Option (List (List Char))
  | 0 => some [[]]
  | count + 1 => (repeatTexts? texts count).bind (joinTexts? texts)

namespace Tree

mutual

/-- The texts that a tree stands for, if they are few and plain. What comes after something that
nothing matches is not looked at. -/
def texts? : Tree → Option (List (List Char))
  | empty => some [[]]
  | primitive p =>
    match p with
    | .literal c _ => some [[c]]
    | _ => none
  | bracketed negated body =>
    if negated then none
    else
      match body.chars? with
      | some cs => if cs.length ≤ plainLimit then some (cs.map ([·])) else none
      | none => none
  | repeated least most item =>
    if most = some least && least ≤ plainLimit then
      match texts? item with
      | some texts => repeatTexts? texts least
      | none => none
    else none
  | group g captures body => if g = .none && !captures then texts? body else none
  | alternatives branches => textsOfBranches? branches
  | sequence items => textsOfItems? items
  | flags _ => none

def textsOfBranches? : List Tree → Option (List (List Char))
  | [] => some []
  | branch :: rest =>
    match texts? branch, textsOfBranches? rest with
    | some texts, some more => fewTexts? (texts ++ more)
    | _, _ => none

def textsOfItems? : List Tree → Option (List (List Char))
  | [] => some [[]]
  | item :: rest =>
    match texts? item with
    | none => none
    | some [] => some []
    | some texts =>
      match textsOfItems? rest with
      | some more => joinTexts? texts more
      | none => none

end

/-- Whether a tree stands for a few plain texts, none of them empty. -/
def isPlain (t : Tree) : Bool :=
  match t.texts? with
  | some texts => !texts.isEmpty && texts.all (!·.isEmpty)
  | none => false

end Tree

/-- The greatest size of a machine. -/
def weightLimit : Nat := 10 * 1024 * 1024

/-- Whether a pattern needs a machine that is too large. -/
def Tree.isTooLarge (t : Tree) : Bool := !t.isPlain && weightLimit < t.weight

end TypeDiscovery.Pattern
