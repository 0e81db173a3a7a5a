import TypeDiscovery.Text.Blank

/-!
# Sets of characters as tables of ranges

The tables of the Unicode standard are written as texts: hexadecimal code points and ranges
`first-last`, increasing and separated by blanks.
-/

namespace TypeDiscovery.Unicode

/-- A set of code points as inclusive ranges. -/
structure RangeTable where
  ranges : List (Nat × Nat)

def hexDigit? (c : Char) : Option Nat :=
  if '0' ≤ c ∧ c ≤ '9' then some (c.toNat - 48)
  else if 'a' ≤ c ∧ c ≤ 'f' then some (c.toNat - 87)
  else if 'A' ≤ c ∧ c ≤ 'F' then some (c.toNat - 55)
  else none

namespace RangeTable

def contains (t : RangeTable) (c : Char) : Bool :=
  t.ranges.any fun (lo, hi) => lo ≤ c.toNat && c.toNat ≤ hi

/-- The number that a list of hexadecimal digits denotes; other characters are passed over. -/
def hexValue (cs : List Char) : Nat :=
  cs.foldl (fun n c => match hexDigit? c with
    | some d => n * 16 + d
    | none => n) 0

/-- The table written as a text of blank-separated code points and ranges. -/
def ofText (text : String) : RangeTable :=
  ⟨(Text.words text.toList).map fun word =>
    let first := word.takeWhile (· != '-')
    match word.drop (first.length + 1) with
    | [] => (hexValue first, hexValue first)
    | last => (hexValue first, hexValue last)⟩

end RangeTable

end TypeDiscovery.Unicode
