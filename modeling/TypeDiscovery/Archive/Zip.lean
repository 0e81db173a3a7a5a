import TypeDiscovery.Archive
import TypeDiscovery.Archive.Checksum
import TypeDiscovery.Archive.Inflate
import TypeDiscovery.Text.Utf8

/-!
# The archive library of this library

An archive is a sequence of members' data, each after a header of its own, followed by a directory
of all members and a closing record that says where the directory starts. Other data may stand
before the first member and after the closing record. Members that are stored as they are or
deflated can be read.
-/

namespace TypeDiscovery

namespace Zip

inductive ZipError where
  | noDirectory
  | passwordRequired
  | badMemberHeader
  | unsupportedMethod
  | noSuchMember
  | badChecksum
  | corruptData
  deriving DecidableEq, Inhabited

def ZipError.message : ZipError → String
  | noDirectory => "invalid Zip archive: Could not find EOCD"
  | passwordRequired => "unsupported Zip archive: Password required to decrypt file"
  | badMemberHeader => "invalid Zip archive: Invalid local file header"
  | unsupportedMethod => "unsupported Zip archive: Compression method not supported"
  | noSuchMember => "specified file not found in archive"
  | badChecksum => "Invalid checksum"
  | corruptData => "corrupt deflate stream"

/-! ### Fields -/

/-- The bytes of an archive. -/
abbrev Image := Array UInt8

/-- The number in so many bytes at a place, the lowest byte first. -/
def field? (image : Image) : Nat → Nat → Option Nat
  | _, 0 => some 0
  | start, width + 1 => do
    let low ← image[start]?
    let high ← field? image (start + 1) width
    return low.toNat + 256 * high

/-- The bytes from one place to another, or to the end. -/
def slice (image : Image) (start size : Nat) : List UInt8 :=
  (image.extract start (start + size)).toList

/-- The marks at which records start. -/
def memberMark : Nat := 0x04034b50
def entryMark : Nat := 0x02014b50
def closingMark : Nat := 0x06054b50

def hasMark (image : Image) (start mark : Nat) : Bool := field? image start 4 == some mark

/-! ### Names -/

/-- The upper half of the character set of names without the UTF-8 flag. -/
def upperCharacters : Array Char :=
  ("ÇüéâäàåçêëèïîìÄÅÉæÆôöòûùÿÖÜ¢£¥₧ƒ" ++
      "áíóúñÑªº¿⌐¬½¼¡«»░▒▓│┤╡╢╖╕╣║╗╝╜╛┐" ++
      "└┴┬├─┼╞╟╚╔╩╦╠═╬╧╨╤╥╙╘╒╓╫╪┘┌█▄▌▐▀" ++
      "αßΓπΣσµτΦΘΩδ∞φε∩≡±≥≤⌠⌡÷≈°∙·√ⁿ²■\xa0").toList.toArray

def legacyChar (b : UInt8) : Char :=
  if b < 128 then Char.ofNat b.toNat else upperCharacters[b.toNat - 128]?.getD '?'

def decodeName (utf8 : Bool) (bytes : List UInt8) : String :=
  String.ofList (if utf8 then Text.Utf8.decodeLossy bytes else bytes.map legacyChar)

/-! ### The directory -/

/-- What the directory says of one member. -/
structure Member where
  name : String
  encrypted : Bool
  method : Nat
  checksum : Nat
  packedSize : Nat
  /-- Where the member's own header starts. -/
  header : Nat
  deriving DecidableEq, Inhabited

/-- The member described at a place of the directory, and the place after it. Stated places count
from `base`. -/
def memberAt? (image : Image) (base start : Nat) : Option (Member × Nat) := do
  guard (hasMark image start entryMark)
  let flags ← field? image (start + 8) 2
  let method ← field? image (start + 10) 2
  let checksum ← field? image (start + 16) 4
  let packedSize ← field? image (start + 20) 4
  let nameSize ← field? image (start + 28) 2
  let extraSize ← field? image (start + 30) 2
  let commentSize ← field? image (start + 32) 2
  let header ← field? image (start + 42) 4
  let stop := start + 46 + nameSize + extraSize + commentSize
  guard (stop ≤ image.size)
  return (⟨decodeName (flags.testBit 11) (slice image (start + 46) nameSize), flags.testBit 0,
    method, checksum, packedSize, base + header⟩, stop)

/-- So many members from a place of the directory on. -/
def membersFrom? (image : Image) (base : Nat) : Nat → Nat → Option (List Member)
  | 0, _ => some []
  | count + 1, start => do
    let (m, next) ← memberAt? image base start
    return m :: (← membersFrom? image base count next)

/-- The first place in a range at which a mark stands. -/
def findMark? (image : Image) (mark first last : Nat) : Option Nat :=
  ((List.range (last - first)).map (first + ·)).find? (hasMark image · mark)

/-- The members that the closing record at a place leads to. What stands before the first member
moves the directory; the distance is found by looking for its first entry. -/
def membersByRecord? (image : Image) (start : Nat) : Option (List Member) := do
  guard (hasMark image start closingMark)
  let count ← field? image (start + 10) 2
  let directory ← field? image (start + 16) 4
  let commentSize ← field? image (start + 20) 2
  guard (start + 22 + commentSize ≤ image.size)
  if count == 0 then return []
  let first ← findMark? image entryMark directory start
  membersFrom? image (first - directory) count first

/-- The members by the last closing record that leads to a directory. -/
def members? (image : Image) : Option (List Member) :=
  (List.range image.size).reverse.findSome? (membersByRecord? image)

end Zip

/-- An archive's bytes and its members, in the order in which their names first came. A repeated
name stands for the last member of that name. -/
structure Zip where
  image : Zip.Image
  members : List Zip.Member

namespace Zip

/-- The members with a later member in the place of an earlier one of the same name. -/
def mergeNames (ms : List Member) : List Member :=
  ms.foldl (fun kept m =>
    if kept.any (·.name == m.name) then kept.map fun k => if k.name == m.name then m else k
    else kept ++ [m]) []

def ofBytes (bytes : List UInt8) : Except ZipError Zip :=
  let image := bytes.toArray
  match members? image with
  | some ms => .ok ⟨image, mergeNames ms⟩
  | none => .error .noDirectory

/-- The packed data of a member, if its header is sound and its form is known. -/
def packed (a : Zip) (m : Member) : Except ZipError (List UInt8) :=
  if m.encrypted then .error .passwordRequired
  else
    match hasMark a.image m.header memberMark, field? a.image (m.header + 26) 2,
      field? a.image (m.header + 28) 2 with
    | true, some nameSize, some extraSize =>
      if m.method == 0 || m.method == 8 then
        .ok (slice a.image (m.header + 30 + nameSize + extraSize) m.packedSize)
      else .error .unsupportedMethod
    | _, _, _ => .error .badMemberHeader

/-- The data of a member, checked against its checksum. -/
def content (a : Zip) (m : Member) : Except ZipError (List UInt8) := do
  let data ← a.packed m
  let data ← if m.method == 0 then .ok data
    else match Archive.inflate data with
      | some data => .ok data
      | none => .error .corruptData
  if (Archive.checksum data).toNat == m.checksum then return data else .error .badChecksum

/-- The packed data of a member that is only stored are its data. -/
theorem content_of_stored {a : Zip} {m : Member} {data : List UInt8}
    (h : a.packed m = .ok data) (stored : m.method = 0)
    (sound : (Archive.checksum data).toNat = m.checksum) : a.content m = .ok data := by
  simp [content, h, stored, sound, bind, Except.bind, pure, Except.pure]

def member? (a : Zip) (name : String) : Option Member := a.members.find? (·.name == name)

/-- The archive as it is asked for members. -/
def toArchive (a : Zip) : Archive where
  members := a.members.map fun m => do
    let _ ← (a.packed m).mapError ZipError.message
    return ⟨m.name, Archive.namesDirectory m.name⟩
  byName name :=
    match a.member? name with
    | none => .error ZipError.noSuchMember.message
    | some m => do
      let _ ← (a.packed m).mapError ZipError.message
      return (a.content m).mapError ZipError.message

theorem byName_of_content {a : Zip} {m : Member} {name : String} {packed data : List UInt8}
    (hmember : a.member? name = some m) (hpacked : a.packed m = .ok packed)
    (hcontent : a.content m = .ok data) : a.toArchive.byName name = .ok (.ok data) := by
  simp only [toArchive, hmember, hpacked, hcontent]
  rfl

/-- The member of a name is read if its data can be. -/
theorem read_of_content {a : Zip} {m : Member} {name : String} {packed data : List UInt8}
    (hmember : a.member? name = some m) (hpacked : a.packed m = .ok packed)
    (hcontent : a.content m = .ok data) : a.toArchive.read name = .ok data := by
  rw [Archive.read, byName_of_content hmember hpacked hcontent]

theorem documented (a : Zip) : a.toArchive.Documented where
  directories m hm := by
    obtain ⟨member, _, hmember⟩ := List.mem_map.mp hm
    cases hpacked : a.packed member with
    | error e =>
      rw [hpacked] at hmember
      cases hmember
    | ok data =>
      rw [hpacked] at hmember
      cases hmember
      rfl
  named name data h := by
    simp only [toArchive] at h
    cases hfound : a.member? name with
    | none => simp [hfound] at h
    | some m =>
      cases hpacked : a.packed m with
      | error e =>
        simp only [hfound, hpacked] at h
        cases h
      | ok packed =>
        have hname : m.name = name := by
          have hfind := List.find?_some (p := fun m : Member => m.name == name) hfound
          exact beq_iff_eq.mp hfind
        refine ⟨⟨m.name, Archive.namesDirectory m.name⟩, ?_, hname⟩
        refine List.mem_map.mpr ⟨m, List.mem_of_find?_eq_some hfound, ?_⟩
        simp only [hpacked, hname]
        rfl

end Zip

/-- Programs that are run open archives by this library. -/
instance : ArchiveLibrary where
  openArchive bytes := ((Zip.ofBytes bytes).mapError Zip.ZipError.message).map Zip.toArchive
  documented bytes archive h := by
    cases hzip : Zip.ofBytes bytes with
    | error e =>
      rw [hzip] at h
      cases h
    | ok zip =>
      rw [hzip] at h
      cases h
      exact zip.documented
  openArchive_nil archive h := by cases h

end TypeDiscovery
