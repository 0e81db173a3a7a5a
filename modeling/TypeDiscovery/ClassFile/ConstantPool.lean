import TypeDiscovery.ClassFile.Parser
import TypeDiscovery.Text.Split

/-!
# The constant pool

Constants are numbered from one; a constant of tag 5 or 6 takes two numbers, the second of which
denotes nothing. Texts are decoded when they are looked up, so that a text which is no name may
hold any bytes.
-/

namespace TypeDiscovery.ClassFile

inductive Constant where
  | text (bytes : List UInt8)
  | classRef (nameIndex : Nat)
  /-- A constant that no name is read from. -/
  | other
  /-- A number that denotes no constant. -/
  | unusable
  deriving DecidableEq

namespace Constant

/-- The size of what follows the tag of a constant that no name is read from. -/
def otherSize? : Nat → Option Nat
  | 3 | 4 | 9 | 10 | 11 | 12 | 17 | 18 => some 4
  | 5 | 6 => some 8
  | 8 | 16 | 19 | 20 => some 2
  | 15 => some 3
  | _ => none

/-- Whether constants of a tag take two numbers. -/
def isWideTag (tag : Nat) : Bool := tag == 5 || tag == 6

/-- What follows the tag of a constant. -/
def body (tag : Nat) : Parser Constant := do
  if tag = 1 then
    let length ← Parser.u2
    return .text (← Parser.take length)
  else if tag = 7 then
    return .classRef (← Parser.u2)
  else match otherSize? tag with
    | some size =>
      Parser.skip size
      return .other
    | none => throw (.unsupportedConstant tag)

end Constant

/-- The constants by their numbers, from zero on. -/
abbrev ConstantPool := Array Constant

namespace ConstantPool

/-- Constants for the given count of numbers, appended to those in hand. The last constant may
take one number more than the count. -/
def constants (pool : ConstantPool) : Nat → Parser ConstantPool
  | 0 => return pool
  | n + 1 => do
    let tag ← Parser.u1
    let constant ← Constant.body tag
    if Constant.isWideTag tag then
      let pool := (pool.push constant).push .unusable
      match n with
      | 0 => return pool
      | n + 1 => constants pool n
    else constants (pool.push constant) n

/-- The pool with its leading count, which is one more than the numbers in use; zero stands for an
empty pool like one does. -/
def parse : Parser ConstantPool := do
  let count ← Parser.u2
  constants #[.unusable] (count - 1)

/-- The text at an index. -/
def text (pool : ConstantPool) (index : Nat) : Except ParseError String :=
  match pool[index]? with
  | some (.text bytes) =>
    match Text.Utf8.decode bytes with
    | .ok s => .ok s
    | .error fault => .error (.invalidName fault)
  | _ => .error (.invalidConstantIndex index)

/-- A class name with slashes written with dots. -/
def dotted (name : String) : String :=
  String.ofList (Text.replaceChar '/' '.' name.toList)

/-- The dotted name of the class at an index. -/
def className (pool : ConstantPool) (index : Nat) : Except ParseError String :=
  match pool[index]? with
  | some (.classRef nameIndex) => (pool.text nameIndex).map dotted
  | _ => .error (.invalidConstantIndex index)

end ConstantPool

end TypeDiscovery.ClassFile
