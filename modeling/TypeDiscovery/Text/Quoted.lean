import TypeDiscovery.Unicode.Property

/-!
# Quoted texts

The debug form of a text stands in double quotes. Control characters, characters without a visible
shape, combining characters, quotes and backslashes are escaped; all else stands for itself.
-/

namespace TypeDiscovery.Text.Quoted

def hexDigits (n : Nat) : List Char := Nat.toDigits 16 n

/-- One character inside quotes. A single quote is escaped in the debug form of paths only. -/
def escapeChar (singleQuote : Bool) (c : Char) : List Char :=
  match c with
  | '\x00' => ['\\', '0']
  | '\t' => ['\\', 't']
  | '\r' => ['\\', 'r']
  | '\n' => ['\\', 'n']
  | '\\' => ['\\', '\\']
  | '"' => ['\\', '"']
  | '\'' => if singleQuote then ['\\', '\''] else ['\'']
  | c =>
    if Unicode.isGraphemeExtend c || !Unicode.isPrintable c then
      ['\\', 'u', '\x7b'] ++ hexDigits c.toNat ++ ['\x7d']
    else [c]

def quote (singleQuote : Bool) (s : String) : String :=
  String.ofList ('"' :: s.toList.flatMap (escapeChar singleQuote) ++ ['"'])

/-- The debug form of a text. -/
def text (s : String) : String := quote false s

/-- The debug form of a path. -/
def path (s : String) : String := quote true s

/-- The debug form of a list whose items are in debug form. -/
def list (items : List String) : String := "[" ++ ", ".intercalate items ++ "]"

/-- The debug form of a set whose items are in debug form. -/
def set (items : List String) : String := "\x7b" ++ ", ".intercalate items ++ "\x7d"

/-- The debug form of a structure whose fields are in debug form. -/
def record (name : String) (fields : List (String × String)) : String :=
  name ++ " \x7b " ++ ", ".intercalate (fields.map fun (field, value) => field ++ ": " ++ value)
    ++ " \x7d"

def bool (b : Bool) : String := if b then "true" else "false"

/-- The debug form of an optional number. -/
def option (n : Option Nat) : String :=
  match n with
  | none => "None"
  | some n => "Some(" ++ toString n ++ ")"

end TypeDiscovery.Text.Quoted
