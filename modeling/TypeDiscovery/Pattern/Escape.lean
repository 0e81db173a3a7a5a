import TypeDiscovery.Pattern.Tree
import TypeDiscovery.Text.Blank
import TypeDiscovery.Unicode.RangeTable

/-!
# Reading escapes

What a backslash introduces, inside and outside of brackets. In verbose mode blanks and comments
may stand between the characters of an escape.
-/

namespace TypeDiscovery.Pattern

open Text (isBlank)

/-- The text after blanks and comments; a comment runs from `#` to the end of its line. -/
def dropComments (inComment : Bool) : List Char → List Char
  | [] => []
  | c :: rest =>
    if inComment then dropComments (c != '\n') rest
    else if isBlank c then dropComments false rest
    else if c == '#' then dropComments true rest
    else c :: rest

/-- The text from the next character that counts. -/
def skip (verbose : Bool) (cs : List Char) : List Char :=
  if verbose then dropComments false cs else cs

theorem dropComments_length_le (inComment : Bool) (cs : List Char) :
    (dropComments inComment cs).length ≤ cs.length := by
  induction cs generalizing inComment with
  | nil => simp [dropComments]
  | cons c rest ih =>
    simp only [dropComments]
    split
    · exact Nat.le_succ_of_le (ih _)
    · split
      · exact Nat.le_succ_of_le (ih _)
      · split
        · exact Nat.le_succ_of_le (ih _)
        · exact Nat.le_refl _

theorem skip_length_le (verbose : Bool) (cs : List Char) :
    (skip verbose cs).length ≤ cs.length := by
  unfold skip
  split
  · exact dropComments_length_le _ _
  · exact Nat.le_refl _

/-- The number that hexadecimal digits denote, as a character if it is one. -/
def charOfHex? (digits : List Char) : Option Char :=
  let n := Unicode.RangeTable.hexValue digits
  if n.isValidChar then some (Char.ofNat n) else none

/-- A given number of hexadecimal digits. -/
def fixedHex? (verbose : Bool) : Nat → List Char → Option (List Char × List Char)
  | 0, cs => some ([], cs)
  | count + 1, c :: rest => do
    let _ ← Unicode.hexDigit? c
    let (digits, rest) ← fixedHex? verbose count (skip verbose rest)
    return (c :: digits, rest)
  | _ + 1, [] => none

/-- The characters up to a closing brace, and the text after the brace. -/
def untilBrace? (verbose : Bool) (cs : List Char) : Option (List Char × List Char) :=
  match _h : skip verbose cs with
  | [] => none
  | '\x7d' :: rest => some ([], rest)
  | c :: rest => do
    let (inside, rest) ← untilBrace? verbose rest
    return (c :: inside, rest)
termination_by cs.length
decreasing_by
  have := skip_length_le verbose cs
  simp only [_h, List.length_cons] at this
  omega

/-- A character written by its number, after the letter that announces it. -/
def hexEscape? (verbose : Bool) (digits : Nat) (cs : List Char) :
    Option (Primitive × List Char) :=
  match skip verbose cs with
  | '\x7b' :: rest => do
    let (inside, rest) ← untilBrace? verbose rest
    guard (!inside.isEmpty && inside.all fun c => (Unicode.hexDigit? c).isSome)
    return (.literal (← charOfHex? inside) false, skip verbose rest)
  | cs => do
    let (inside, rest) ← fixedHex? verbose digits cs
    return (.literal (← charOfHex? inside) (digits == 2), rest)

/-- A property is asked for by one name, or by a name and a value after one of three signs. -/
def PropertyQuery.ofText (text : List Char) : PropertyQuery :=
  match cut ['!', '='] text with
  | some query => query
  | none =>
    match cut [':'] text with
    | some query => query
    | none =>
      match cut ['='] text with
      | some query => query
      | none => .named (String.ofList text)
where
  /-- The texts before and after the first occurrence of a sign. -/
  cut (sign text : List Char) : Option PropertyQuery :=
    (List.range text.length).findSome? fun i =>
      if sign.isPrefixOf (text.drop i) then
        some (.valued (String.ofList (text.take i)) (String.ofList (text.drop (i + sign.length))))
      else none

/-- A class named by a property, after the letter that announces it. -/
def propertyEscape? (verbose negated : Bool) (cs : List Char) :
    Option (Primitive × List Char) :=
  match skip verbose cs with
  | [] => none
  | '\\' :: _ => none
  | '\x7b' :: rest => do
    let (inside, rest) ← untilBrace? verbose rest
    return (.property (.ofText inside) negated, rest)
  | c :: rest => some (.property (.named c.toString) negated, skip verbose rest)

def isBoundaryLetter (c : Char) : Bool := c.isAlpha || c == '-'

/-- The letters at the start of a text and the text after them. -/
def boundaryName (verbose : Bool) (cs : List Char) : List Char × List Char :=
  match cs with
  | [] => ([], [])
  | c :: rest =>
    if isBoundaryLetter c then
      let (name, after) := boundaryName verbose (skip verbose rest)
      (c :: name, after)
    else ([], c :: rest)
termination_by cs.length
decreasing_by
  have := skip_length_le verbose rest
  simp only [List.length_cons]
  omega

/-- A kind of word boundary, which may be narrowed by a name in braces. Braces that do not start
with a letter are left for a repetition. -/
def boundaryEscape? (verbose : Bool) (cs : List Char) : Option (Primitive × List Char) :=
  let plain := (Primitive.assertion .wordBoundary, cs)
  match cs with
  | '\x7b' :: rest =>
    match skip verbose rest with
    | [] => none
    | c :: inside =>
      if isBoundaryLetter c then
        match boundaryName verbose (c :: inside) with
        | (name, '\x7d' :: after) =>
          match String.ofList name with
          | "start" => some (.assertion .wordStart, after)
          | "end" => some (.assertion .wordEnd, after)
          | "start-half" => some (.assertion .wordStartHalf, after)
          | "end-half" => some (.assertion .wordEndHalf, after)
          | _ => none
        | _ => none
      else some plain
  | _ => some plain

/-- ASCII characters other than letters, digits and angle brackets stand for themselves after a
backslash. -/
def standsForItself (c : Char) : Bool :=
  c.toNat < 128 && !c.isAlphanum && c != '<' && c != '>'

/-- Letters that name a control character after a backslash. -/
def controlEscapes : List (Char × Char) :=
  [('a', '\x07'), ('f', '\x0c'), ('t', '\t'), ('n', '\n'), ('r', '\r'), ('v', '\x0b')]

/-- What stands after a backslash. -/
def escape? (verbose : Bool) : List Char → Option (Primitive × List Char)
  | [] => none
  | c :: rest =>
    match c with
    | 'x' => hexEscape? verbose 2 rest
    | 'u' => hexEscape? verbose 4 rest
    | 'U' => hexEscape? verbose 8 rest
    | 'p' => propertyEscape? verbose false rest
    | 'P' => propertyEscape? verbose true rest
    | 'd' => some (.letterClass .digit false, rest)
    | 'D' => some (.letterClass .digit true, rest)
    | 's' => some (.letterClass .space false, rest)
    | 'S' => some (.letterClass .space true, rest)
    | 'w' => some (.letterClass .word false, rest)
    | 'W' => some (.letterClass .word true, rest)
    | 'A' => some (.assertion .textStart, rest)
    | 'z' => some (.assertion .textEnd, rest)
    | 'b' => boundaryEscape? verbose rest
    | 'B' => some (.assertion .notWordBoundary, rest)
    | '<' => some (.assertion .wordStart, rest)
    | '>' => some (.assertion .wordEnd, rest)
    | c =>
      match controlEscapes.lookup c with
      | some control => some (.literal control false, rest)
      | none => if standsForItself c then some (.literal c false, rest) else none

end TypeDiscovery.Pattern
