import TypeDiscovery.Pattern.Expr

/-!
# Matching

An expression is matched against all positions of one text at once. A set of positions is a
number whose bits are the positions; `Program.ends` takes the positions from which an expression
starts to those at which it can end. The work is bounded by the size of the pattern times the
square of the length of the text.
-/

namespace TypeDiscovery.Pattern

/-- The set of the places in a list that hold `true`. -/
def placesOf (bits : List Bool) : Nat :=
  bits.foldr (fun bit set => 2 * set + bit.toNat) 0

/-- An expression with its tests worked out at every position of one text. -/
inductive Program where
  | empty
  | char (places : Nat)
  | look (places : Nat)
  | seq (first second : Program)
  | choice (first second : Program)
  | repeated (least : Nat) (most : Option Nat) (item : Program)

variable [UnicodeTables]

/-- The results of a test at all positions of a text, the one after its end included. -/
def lookPlaces (l : Look) (text : List Char) : List Bool :=
  go none text
where
  go (before : Option Char) : List Char → List Bool
    | [] => [l.holds before none]
    | c :: rest => l.holds before (some c) :: go (some c) rest

/-- The expression made ready for one text. -/
def Expr.prepare (text : List Char) : Expr → Program
  | empty => .empty
  | char p => .char (placesOf (text.map p))
  | look l => .look (placesOf (lookPlaces l text))
  | seq a b => .seq (a.prepare text) (b.prepare text)
  | choice a b => .choice (a.prepare text) (b.prepare text)
  | repeated least most a => .repeated least most (a.prepare text)

/-- A step taken `count` times, less the times after it changes nothing. -/
def iterate (step : Nat → Nat) : Nat → Nat → Nat
  | 0, set => set
  | count + 1, set =>
    let next := step set
    if next = set then set else iterate step count next

/-- The places reached in at most `count` steps: `reached` holds those known, and `latest` the ones
that the last step was the first to reach. -/
def reach (step : Nat → Nat) : Nat → Nat → Nat → Nat
  | 0, reached, _ => reached
  | count + 1, reached, latest =>
    let next := step latest
    let new := next ^^^ (next &&& reached)
    if new = 0 then reached else reach step count (reached ||| new) new

/-- The places where a program can end that starts at one of the given places, in a text with
`size` positions. Without an upper bound no place is reached later than in `size` steps. -/
def Program.ends (size : Nat) : Program → Nat → Nat
  | empty, set => set
  | char places, set => (set &&& places) <<< 1
  | look places, set => set &&& places
  | seq a b, set => b.ends size (a.ends size set)
  | choice a b, set => a.ends size set ||| b.ends size set
  | repeated least most a, set =>
    let start := iterate (a.ends size) least set
    let further := match most with
      | none => size
      | some most => most - least
    reach (a.ends size) further start start

/-- The set of the first `size` places. -/
def allPlaces (size : Nat) : Nat := (1 <<< size) - 1

/-- Whether an expression matches some stretch of a text. -/
def Expr.isMatch (e : Expr) (text : List Char) : Bool :=
  let size := text.length + 1
  (e.prepare text).ends size (allPlaces size) != 0

end TypeDiscovery.Pattern
