import TypeDiscovery.ClassFile.Header
import Mathlib.Data.List.Forall2

/-!
# The class file format

Class files as data, their big-endian layout, and the header that one denotes. Nothing here reads
bytes: `encode` only writes, and names are found by the numbers of constants. Counts and lengths
fit the fields they are written in by construction.
-/

namespace TypeDiscovery.ClassFile.Format

def u2 (n : UInt16) : List UInt8 := [UInt8.ofNat (n.toNat / 256), UInt8.ofNat n.toNat]

def u4 (n : UInt32) : List UInt8 :=
  [UInt8.ofNat (n.toNat / 16777216), UInt8.ofNat (n.toNat / 65536), UInt8.ofNat (n.toNat / 256),
    UInt8.ofNat n.toNat]

/-- As many items as a count of two bytes can announce. -/
abbrev Table (α : Type) := { items : List α // items.length < 65536 }

/-- The count, then the items. -/
def Table.encode {α : Type} (write : α → List UInt8) (table : Table α) : List UInt8 :=
  u2 (UInt16.ofNat table.val.length) ++ table.val.flatMap write

/-! ## Constants -/

/-- The tags of constants that no name is read from, with the sizes of what follows. -/
def payloadSizes : List (UInt8 × Nat) :=
  [(3, 4), (4, 4), (5, 8), (6, 8), (8, 2), (9, 4), (10, 4), (11, 4), (12, 4), (15, 3), (16, 2),
    (17, 4), (18, 4), (19, 2), (20, 2)]

inductive PoolEntry where
  | text (bytes : List UInt8) (bounded : bytes.length < 65536)
  | classRef (nameIndex : UInt16)
  | other (tag : UInt8) (payload : List UInt8) (sized : (tag, payload.length) ∈ payloadSizes)

namespace PoolEntry

def tag : PoolEntry → UInt8
  | text .. => 1
  | classRef _ => 7
  | other tag .. => tag

def payload : PoolEntry → List UInt8
  | text bytes _ => u2 (UInt16.ofNat bytes.length) ++ bytes
  | classRef nameIndex => u2 nameIndex
  | other _ payload _ => payload

def encode (c : PoolEntry) : List UInt8 := c.tag :: c.payload

/-- Longs and doubles take two numbers. -/
def Wide (c : PoolEntry) : Prop := c.tag = 5 ∨ c.tag = 6

instance (c : PoolEntry) : Decidable c.Wide := inferInstanceAs (Decidable (_ ∨ _))

def slots (c : PoolEntry) : Nat := if c.Wide then 2 else 1

end PoolEntry

/-- The numbers that constants take together. -/
def slots : List PoolEntry → Nat
  | [] => 0
  | c :: constants => c.slots + slots constants

/-- The counts that announce a pool: one more than the numbers in use. Zero announces an empty pool
too, and the second number of a wide constant at the end may be left out. -/
def Announces (count : Nat) (constants : List PoolEntry) : Prop :=
  count = slots constants + 1 ∨ count = 0 ∧ constants = [] ∨
    count = slots constants ∧ ∃ c ∈ constants.getLast?, c.Wide

/-- Constants are numbered from one, by the numbers that those before them take. -/
def At (constants : List PoolEntry) (index : UInt16) (c : PoolEntry) : Prop :=
  ∃ before after, constants = before ++ c :: after ∧ index.toNat = slots before + 1

def TextAt (constants : List PoolEntry) (index : UInt16) (s : String) : Prop :=
  ∃ bounded, At constants index (.text s.toUTF8.data.toList bounded)

/-- A name with its slashes written as dots. -/
def dotted (name : String) : String := name.map fun c => if c = '/' then '.' else c

def ClassAt (constants : List PoolEntry) (index : UInt16) (name : String) : Prop :=
  ∃ nameIndex internal, At constants index (.classRef nameIndex) ∧
    TextAt constants nameIndex internal ∧ name = dotted internal

/-! ## Annotations -/

/-- The tags of element values that are one index. -/
def indexTags : List UInt8 :=
  ['B', 'C', 'D', 'F', 'I', 'J', 'S', 'Z', 's', 'c'].map fun c => UInt8.ofNat c.toNat

/-- The elements of an annotation, each a name and a value that is already written. -/
def elements (count : UInt16) (names : Fin count.toNat → UInt16)
    (values : Fin count.toNat → List UInt8) : List UInt8 :=
  u2 count ++ (List.ofFn fun i => u2 (names i) ++ values i).flatten

inductive ElementValue where
  | scalar (tag : UInt8) (known : tag ∈ indexTags) (index : UInt16)
  | enum (type name : UInt16)
  | nested (type count : UInt16) (names : Fin count.toNat → UInt16)
      (values : Fin count.toNat → ElementValue)
  | array (count : UInt16) (values : Fin count.toNat → ElementValue)

def ElementValue.encode : ElementValue → List UInt8
  | scalar tag _ index => tag :: u2 index
  | enum type name => 0x65 :: (u2 type ++ u2 name)
  | nested type count names values =>
    0x40 :: (u2 type ++ elements count names fun i => (values i).encode)
  | array count values => 0x5B :: (u2 count ++ (List.ofFn fun i => (values i).encode).flatten)

/-- An annotation. -/
structure Marker where
  type : UInt16
  count : UInt16
  names : Fin count.toNat → UInt16
  values : Fin count.toNat → ElementValue

def Marker.encode (m : Marker) : List UInt8 :=
  u2 m.type ++ elements m.count m.names fun i => (m.values i).encode

/-- The type of an annotation is named by a descriptor such as `Lcom/acme/Plugin;`. -/
def Marker.Named (constants : List PoolEntry) (m : Marker) (type : String) : Prop :=
  ∃ name, name ≠ "" ∧ TextAt constants m.type ("L" ++ name ++ ";") ∧ type = dotted name

/-! ## Attributes and members -/

structure Attribute where
  name : UInt16
  body : List UInt8
  bounded : body.length < 4294967296

def Attribute.encode (a : Attribute) : List UInt8 :=
  u2 a.name ++ u4 (UInt32.ofNat a.body.length) ++ a.body

/-- The attributes whose annotations count. -/
def Wanted (invisible : Bool) (name : String) : Prop :=
  name = "RuntimeVisibleAnnotations" ∨ invisible = true ∧ name = "RuntimeInvisibleAnnotations"

/-- What a class attribute adds to the header. The body of a wanted one begins with annotations;
that of any other is free, but its name is still text. -/
def Attribute.Contributes (constants : List PoolEntry) (invisible : Bool) (a : Attribute)
    (types : List String) : Prop :=
  ∃ name, TextAt constants a.name name ∧
    (¬Wanted invisible name ∧ types = [] ∨
      Wanted invisible name ∧ ∃ (markers : Table Marker) (rest : List UInt8),
        a.body = markers.encode Marker.encode ++ rest ∧
          List.Forall₂ (Marker.Named constants) markers.val types)

/-- A field or a method. -/
structure Member where
  accessFlags : UInt16
  name : UInt16
  descriptor : UInt16
  attributes : Table Attribute

def Member.encode (m : Member) : List UInt8 :=
  u2 m.accessFlags ++ u2 m.name ++ u2 m.descriptor ++ m.attributes.encode Attribute.encode

/-! ## Class files -/

/-- What follows the constants. -/
structure Body where
  accessFlags : UInt16
  thisClass : UInt16
  superClass : UInt16
  interfaces : Table UInt16
  fields : Table Member
  methods : Table Member
  attributes : Table Attribute

namespace Body

def encode (b : Body) : List UInt8 :=
  u2 b.accessFlags ++ u2 b.thisClass ++ u2 b.superClass ++ b.interfaces.encode u2
    ++ b.fields.encode Member.encode ++ b.methods.encode Member.encode
    ++ b.attributes.encode Attribute.encode

/-- The super class index may be zero: the root type and module descriptors have none. -/
def Super (constants : List PoolEntry) (b : Body) (superClass : Option String) : Prop :=
  b.superClass = 0 ∧ superClass = none ∨
    b.superClass ≠ 0 ∧ ∃ name, ClassAt constants b.superClass name ∧ superClass = some name

/-- The header that a class has when all its names resolve. -/
structure Denotes (constants : List PoolEntry) (invisible : Bool) (b : Body) (h : Header) :
    Prop where
  name : ClassAt constants b.thisClass h.name
  accessFlags : h.accessFlags = b.accessFlags.toNat
  superClass : b.Super constants h.superClass
  interfaces : List.Forall₂ (ClassAt constants) b.interfaces.val h.interfaces
  annotations : ∃ types, h.annotations = types.flatten ∧
    List.Forall₂ (Attribute.Contributes constants invisible) b.attributes.val types

end Body

structure File extends Body where
  minor : UInt16
  major : UInt16
  supported : 45 ≤ major.toNat ∧ major.toNat ≤ 69
  count : UInt16
  constants : List PoolEntry
  announced : Announces count.toNat constants

namespace File

def encode (f : File) : List UInt8 :=
  u4 0xCAFEBABE ++ u2 f.minor ++ u2 f.major ++ u2 f.count ++ f.constants.flatMap PoolEntry.encode
    ++ f.toBody.encode

def Denotes (f : File) (invisible : Bool) (h : Header) : Prop :=
  h.majorVersion = f.major.toNat ∧ f.toBody.Denotes f.constants invisible h

end File

end TypeDiscovery.ClassFile.Format
