/-!
# Blank characters, words and lines

`isBlank` is the Unicode property White_Space. Words are separated by blanks; lines end at a
line feed, and a carriage return right before it belongs to the line end.
-/

namespace TypeDiscovery.Text

/-- The ranges of the Unicode property White_Space. -/
def blankRanges : List (Nat × Nat) :=
  [(0x9, 0xD), (0x20, 0x20), (0x85, 0x85), (0xA0, 0xA0), (0x1680, 0x1680), (0x2000, 0x200A),
    (0x2028, 0x2029), (0x202F, 0x202F), (0x205F, 0x205F), (0x3000, 0x3000)]

def isBlank (c : Char) : Bool :=
  blankRanges.any fun (lo, hi) => lo ≤ c.toNat && c.toNat ≤ hi

/-- The text without the blanks at its two ends. -/
def trim (cs : List Char) : List Char :=
  ((cs.dropWhile isBlank).reverse.dropWhile isBlank).reverse

/-- The maximal runs of characters that are not blank. -/
def words (cs : List Char) : List (List Char) :=
  go cs []
where
  /-- `word` holds the characters of the current run, the last one first. -/
  go : List Char → List Char → List (List Char)
    | [], word => if word.isEmpty then [] else [word.reverse]
    | c :: rest, word =>
      if isBlank c then
        if word.isEmpty then go rest [] else word.reverse :: go rest []
      else go rest (c :: word)

/-- A line without the carriage return that belongs to its line end. -/
def dropReturn (line : List Char) : List Char :=
  if line.getLast? = some '\r' then line.dropLast else line

/-- The lines of a text. A line feed at the very end opens no further line, and a carriage return
is dropped only where a line feed follows it. -/
def lines (cs : List Char) : List (List Char) :=
  go cs []
where
  /-- `line` holds the characters of the current line, the last one first. -/
  go : List Char → List Char → List (List Char)
    | [], line => if line.isEmpty then [] else [line.reverse]
    | '\n' :: rest, line => dropReturn line.reverse :: go rest []
    | c :: rest, line => go rest (c :: line)

theorem dropReturn_append (line : List Char) : dropReturn (line ++ ['\r']) = line := by
  rw [dropReturn, List.getLast?_concat, if_pos rfl, List.dropLast_concat]

theorem dropReturn_of_not_mem {line : List Char} (h : '\r' ∉ line) : dropReturn line = line := by
  rw [dropReturn, if_neg]
  intro hlast
  exact h (List.mem_of_getLast? hlast)

theorem lines_go_append {cs : List Char} (h : '\n' ∉ cs) (rest line : List Char) :
    lines.go (cs ++ '\n' :: rest) line = dropReturn (line.reverse ++ cs) :: lines rest := by
  induction cs generalizing line with
  | nil => simp [lines.go, lines]
  | cons c cs ih =>
    rw [List.mem_cons, not_or] at h
    rw [List.cons_append, lines.go, ih h.2, List.reverse_cons, List.append_assoc,
      List.singleton_append]
    exact fun hfeed => h.1 hfeed.symm

/-- What stands before the first line feed is a line. -/
theorem lines_append {cs : List Char} (h : '\n' ∉ cs) (rest : List Char) :
    lines (cs ++ '\n' :: rest) = dropReturn cs :: lines rest :=
  lines_go_append h rest []

/-- A letter of the ASCII alphabet in lower case, any other character as it is. -/
def asciiLower (c : Char) : Char :=
  if 'A' ≤ c ∧ c ≤ 'Z' then Char.ofNat (c.toNat + 32) else c

/-- Equality up to the case of ASCII letters. -/
def sameUpToAsciiCase (a b : List Char) : Bool :=
  a.map asciiLower = b.map asciiLower

end TypeDiscovery.Text
