import TypeDiscovery.ClassFile.Error

/-!
# Parsing bytes

A parser takes bytes from the front of its input or fails. Numbers are big-endian. `splitExact?`
is the one place where bytes are counted off, and `splitExact?_eq` says what it does.
-/

namespace TypeDiscovery.ClassFile

/-- Parsers of a byte sequence; the state is the input that is left. -/
abbrev Parser := StateT (List UInt8) (Except ParseError)

/-- The first `n` elements and the others, if there are that many. -/
def splitExact? (n : Nat) (s : List UInt8) : Option (List UInt8 × List UInt8) :=
  go n s []
where
  /-- `taken` holds the elements counted off so far, the last one first. -/
  go : Nat → List UInt8 → List UInt8 → Option (List UInt8 × List UInt8)
    | 0, s, taken => some (taken.reverse, s)
    | _ + 1, [], _ => none
    | n + 1, b :: s, taken => go n s (b :: taken)

theorem splitExact?_go_eq (n : Nat) (s taken : List UInt8) :
    splitExact?.go n s taken =
      if n ≤ s.length then some (taken.reverse ++ s.take n, s.drop n) else none := by
  induction n generalizing s taken with
  | zero => simp [splitExact?.go]
  | succ n ih =>
    cases s with
    | nil => simp [splitExact?.go]
    | cons b s => simp [splitExact?.go, ih]

theorem splitExact?_eq (n : Nat) (s : List UInt8) :
    splitExact? n s = if n ≤ s.length then some (s.take n, s.drop n) else none := by
  simp [splitExact?, splitExact?_go_eq]

namespace Parser

def take (n : Nat) : Parser (List UInt8) := fun s =>
  match splitExact? n s with
  | some r => .ok r
  | none => .error .unexpectedEnd

def skip (n : Nat) : Parser Unit := do
  let _ ← take n

/-- A number of one byte. -/
def u1 : Parser Nat := fun
  | a :: s => .ok (a.toNat, s)
  | [] => .error .unexpectedEnd

/-- A number of two bytes. -/
def u2 : Parser Nat := fun
  | a :: b :: s => .ok (a.toNat * 256 + b.toNat, s)
  | _ => .error .unexpectedEnd

/-- A number of four bytes. -/
def u4 : Parser Nat := fun
  | a :: b :: c :: d :: s =>
    .ok (((a.toNat * 256 + b.toNat) * 256 + c.toNat) * 256 + d.toNat, s)
  | _ => .error .unexpectedEnd

/-- The results of a parser run a given number of times. -/
def times {α : Type} (n : Nat) (p : Parser α) : Parser (List α) :=
  go n []
where
  /-- `results` holds the results so far, the last one first. -/
  go : Nat → List α → Parser (List α)
    | 0, results => return results.reverse
    | n + 1, results => do
      let a ← p
      go n (a :: results)

/-- A parser run a given number of times for its effect on the input alone. -/
def repeatedly (p : Parser Unit) : Nat → Parser Unit
  | 0 => return
  | n + 1 => do
    p
    repeatedly p n

end Parser

end TypeDiscovery.ClassFile
