import TypeDiscovery.ClassFile.Annotation
import TypeDiscovery.Reader

/-!
# Class file headers

The header is what a scan needs of a class file: its names and the types of its class-level
annotations. Members and all other attributes are passed over, and bytes after the class are not
looked at. Interfaces and attribute names are resolved where they stand, the class and its super
class at the end.
-/

namespace TypeDiscovery.ClassFile

structure Header where
  name : String
  majorVersion : Nat
  accessFlags : Nat
  /-- Absent for the root type and for module descriptors. -/
  superClass : Option String
  interfaces : List String
  /-- Types of the class-level annotations. -/
  annotations : List String
  deriving DecidableEq

namespace Header

/-- The super class and the interfaces are the ancestors, the annotations are the markers. -/
def toRecord (h : Header) : Record :=
  .ofLists (h.superClass.toList ++ h.interfaces) h.annotations

def magicNumber : Nat := 0xCAFEBABE

def isSupported (major : Nat) : Bool := 45 ≤ major && major ≤ 69

/-- The attributes whose annotations count, those kept in the class file only on request. -/
def wants (invisible : Bool) (name : String) : Bool :=
  name == "RuntimeVisibleAnnotations"
    || (invisible && name == "RuntimeInvisibleAnnotations")

/-- Passes over an attribute whatever its name. -/
def skipAttribute : Parser Unit := do
  Parser.skip 2
  let length ← Parser.u4
  Parser.skip length

/-- Passes over a field or method. -/
def skipMember : Parser Unit := do
  Parser.skip 2
  Parser.skip 2
  Parser.skip 2
  let attributes ← Parser.u2
  Parser.repeatedly skipAttribute attributes

/-- The annotation types of one class-level attribute. -/
def classAttribute (invisible : Bool) (pool : ConstantPool) : Parser (List String) := do
  let nameIndex ← Parser.u2
  let length ← Parser.u4
  let name ← pool.text nameIndex
  if wants invisible name then
    let body ← Parser.take length
    annotationsOfBody pool body
  else
    Parser.skip length
    return []

/-- The version number, refused before anything else is read. -/
def version : Parser Nat := do
  let magic ← Parser.u4
  if magic ≠ magicNumber then throw .invalidMagic
  Parser.skip 2
  let major ← Parser.u2
  if !isSupported major then throw (.unsupportedVersion major)
  return major

def superName (pool : ConstantPool) (index : Nat) : Except ParseError (Option String) :=
  if index = 0 then .ok none else (pool.className index).map some

def parser (invisible : Bool) : Parser Header := do
  let majorVersion ← version
  let pool ← ConstantPool.parse
  let accessFlags ← Parser.u2
  let thisIndex ← Parser.u2
  let superIndex ← Parser.u2
  let interfaces ← Parser.times (← Parser.u2) (do pool.className (← Parser.u2))
  Parser.repeatedly skipMember (← Parser.u2)
  Parser.repeatedly skipMember (← Parser.u2)
  let annotations ← Parser.times (← Parser.u2) (classAttribute invisible pool)
  let superClass ← superName pool superIndex
  let name ← pool.className thisIndex
  return ⟨name, majorVersion, accessFlags, superClass, interfaces, annotations.flatten⟩

/-- Reads the header of a class file. -/
def parse (invisible : Bool) (bytes : List UInt8) : Except ParseError Header :=
  StateT.run' (parser invisible) bytes

end Header

/-- The universal root of the type hierarchy. -/
def rootType : String := "java.lang.Object"

/-- The reader of class files, which counts invisible annotations as markers on request. -/
def reader (invisible : Bool) : Reader where
  root := rootType
  read bytes := (Outcome.ofExcept ParseError.message (Header.parse invisible bytes)).bind
    fun header => .done header.toRecord

end TypeDiscovery.ClassFile
