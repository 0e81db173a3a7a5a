import TypeDiscovery.Archive.Zip
import TypeDiscovery.ClassPath

/-!
# Reading an archive

What an archive is listed as is what the library opens its bytes as (`openBytes_eq_ok_iff`), and
what it refers to is what the bytes of its manifest, decoded, give as the class path
(`references_of_read`). The archives with nothing but a stored manifest are those of the examples of
archives that refer to others (`Opens.exists_listing`).
-/

namespace TypeDiscovery.ClassPath

open Text.Utf8 Manifest

theorem mapM_id_eq_ok_iff {α : Type} {answers : List (Except String α)} {xs : List α} :
    answers.mapM id = .ok xs ↔ answers = xs.map .ok := by
  induction answers generalizing xs with
  | nil => simp [pure, Except.pure, eq_comm]
  | cons answer rest ih =>
    rw [List.mapM_cons]
    cases answer with
    | error reason => cases xs <;> simp [bind, Except.bind]
    | ok x =>
      cases xs with
      | nil => cases rest.mapM id <;> simp [bind, Except.bind, pure, Except.pure]
      | cons y ys =>
        rw [List.map_cons, List.cons.injEq, Except.ok.injEq, ← ih]
        cases rest.mapM id <;> simp [bind, Except.bind, pure, Except.pure]

variable {fs : FileSystem}

theorem isFile_of_find {p : Path} {place : Place} {bytes : List UInt8} {modified : Nat}
    (h : fs.find p = .ok (place, .file bytes modified)) : fs.isFile p = true := by
  rw [FileSystem.isFile, h]

theorem stampOf_file {p : Path} {place : Place} {bytes : List UInt8} {modified : Nat}
    (h : fs.find p = .ok (place, .file bytes modified)) :
    stampOf fs p = .ok ⟨bytes.length, modified⟩ := by
  rw [stampOf, h]

section Library

variable [ArchiveLibrary]

/-- Bytes are opened as an archive all of whose members can be read in form. -/
theorem openBytes_eq_ok_iff {bytes : List UInt8} {archive : Archive}
    {members : List Archive.Member} {manifest : List Char} :
    openBytes bytes = .ok (archive, members, manifest) ↔
      ArchiveLibrary.openArchive bytes = .ok archive ∧ archive.members = members.map .ok ∧
        manifestOf archive = .ok manifest := by
  unfold openBytes
  cases ArchiveLibrary.openArchive bytes with
  | error e => simp [bind, Except.bind]
  | ok opened =>
    rw [show archive.members = members.map .ok ↔ archive.members.mapM id = .ok members from
      mapM_id_eq_ok_iff.symm]
    cases hmembers : opened.members.mapM id with
    | error e =>
      simp only [bind, Except.bind, reduceCtorEq, Except.ok.injEq, false_iff, hmembers]
      rintro ⟨rfl, h, -⟩
      rw [hmembers] at h
      cases h
    | ok listed =>
      cases hmanifest : manifestOf opened with
      | error e =>
        simp only [bind, Except.bind, reduceCtorEq, Except.ok.injEq, false_iff, hmembers, hmanifest]
        rintro ⟨rfl, -, h⟩
        rw [hmanifest] at h
        cases h
      | ok text =>
        simp only [bind, Except.bind, pure, Except.pure, Except.ok.injEq, Prod.mk.injEq, hmembers,
          hmanifest]
        constructor
        · rintro ⟨rfl, rfl, rfl⟩
          exact ⟨rfl, hmembers, hmanifest⟩
        · rintro ⟨rfl, hmem, htext⟩
          exact ⟨rfl, Except.ok.inj (hmembers.symm.trans hmem),
            Except.ok.inj (hmanifest.symm.trans htext)⟩

theorem readArchive_file {p : Path} {place : Place} {bytes : List UInt8} {modified : Nat}
    (h : fs.find p = .ok (place, .file bytes modified)) (stamp : Stamp) :
    readArchive fs p stamp = listBytes p stamp bytes := by
  have hread : fs.readFile p = .ok bytes := by
    simp only [FileSystem.readFile, h]
    rfl
  rw [readArchive, hread]
  rfl

/-- Only files are read as archives. -/
theorem file_of_readArchive {p : Path} {stamp : Stamp} {l : ArchiveListing}
    (h : readArchive fs p stamp = .ok l) :
    ∃ place bytes modified, fs.find p = .ok (place, .file bytes modified) := by
  rw [readArchive, FileSystem.readFile] at h
  cases hfind : fs.find p with
  | error e =>
    rw [hfind] at h
    cases h
  | ok found =>
    rw [hfind] at h
    obtain ⟨place, item⟩ := found
    cases item with
    | file bytes modified => exact ⟨place, bytes, modified, rfl⟩
    | directory | link target => cases h

theorem listBytes_of_openBytes {path : Path} {stamp : Stamp} {bytes : List UInt8}
    {archive : Archive} {members : List Archive.Member} {manifest : List Char}
    (h : openBytes bytes = .ok (archive, members, manifest)) :
    ∃ l, listBytes path stamp bytes = .ok l ∧ l.stamp = stamp ∧ l.archive = archive ∧
      l.references = (classPath manifest).map (resolve path) := by
  rw [listBytes, h]
  exact ⟨_, rfl, rfl, rfl, rfl⟩

/-- No listing is made of nothing. -/
theorem ne_nil_of_listBytes {path : Path} {stamp : Stamp} {bytes : List UInt8} {l : ArchiveListing}
    (h : listBytes path stamp bytes = .ok l) : bytes ≠ [] := by
  rintro rfl
  cases hopen : openBytes [] with
  | error e => simp [listBytes, hopen, bind, Except.bind] at h
  | ok opened =>
    obtain ⟨harchive, _⟩ := openBytes_eq_ok_iff.mp hopen
    exact ArchiveLibrary.openArchive_nil opened.1 harchive

/-- What an archive refers to is what the bytes of its manifest, decoded, give as the class path. -/
theorem references_of_read {path : Path} {stamp : Stamp} {l : ArchiveListing}
    {bytes : List UInt8} (listed : readArchive fs path stamp = .ok l)
    (manifest : l.archive.read memberName = .ok bytes) :
    l.references = (classPath (decodeLossy bytes)).map (resolve path) := by
  obtain ⟨place, image, modified, hfind⟩ := file_of_readArchive listed
  rw [readArchive_file hfind] at listed
  cases hopen : openBytes image with
  | error e => simp [listBytes, hopen, bind, Except.bind] at listed
  | ok opened =>
    obtain ⟨archive, members, text⟩ := opened
    obtain ⟨l', hl', _, harchive, hreferences⟩ := listBytes_of_openBytes hopen
    obtain rfl := Except.ok.inj (hl'.symm.trans listed)
    obtain ⟨_, _, htext⟩ := openBytes_eq_ok_iff.mp hopen
    rw [harchive, Archive.read] at manifest
    rw [manifestOf] at htext
    cases hmember : archive.byName memberName with
    | error e => simp [hmember] at manifest
    | ok data =>
      simp only [hmember] at manifest htext
      rw [manifest] at htext
      cases htext
      exact hreferences

end Library

/-! ## Archives with nothing but a manifest -/

/-- An archive with nothing but a manifest, which is stored under its checksum. -/
def manifestArchive (sum : UInt32) (manifest : List UInt8) : List UInt8 :=
  let sums := [sum.toUInt8, (sum >>> 8).toUInt8, (sum >>> 16).toUInt8, (sum >>> 24).toUInt8]
  let size := [manifest.length.toUInt8, 0x00, 0x00, 0x00]
  let fields := [0x14, 0x00, 0x00, 0x00, 0x00, 0x00, 0x00, 0x00, 0x21, 0x50] ++ sums ++ size ++
    size ++ [0x14, 0x00, 0x00, 0x00]
  let name := memberName.toList.map Char.toUInt8
  [0x50, 0x4b, 0x03, 0x04] ++ fields ++ name ++ manifest ++
    [0x50, 0x4b, 0x01, 0x02, 0x14, 0x03] ++ fields ++
    [0x00, 0x00, 0x00, 0x00, 0x00, 0x00, 0x00, 0x00, 0xa4, 0x01, 0x00, 0x00, 0x00, 0x00] ++ name ++
    [0x50, 0x4b, 0x05, 0x06, 0x00, 0x00, 0x00, 0x00, 0x01, 0x00, 0x01, 0x00, 0x42, 0x00, 0x00, 0x00,
      (50 + manifest.length).toUInt8, 0x00, 0x00, 0x00, 0x00, 0x00]

def manifestMember (sum : UInt32) (size : Nat) : Zip.Member :=
  ⟨memberName, false, 0, sum.toNat, size, 0⟩

/-- What such an archive is opened as. -/
def manifestOnly (sum : UInt32) (manifest : List UInt8) : Zip :=
  ⟨(manifestArchive sum manifest).toArray, [manifestMember sum manifest.length]⟩

/-- The bytes make the archive that is meant, and the checksum is right. -/
structure Opens (sum : UInt32) (manifest : List UInt8) : Prop where
  directory : Zip.ofBytes (manifestArchive sum manifest) = .ok (manifestOnly sum manifest)
  packed : (manifestOnly sum manifest).packed (manifestMember sum manifest.length) = .ok manifest
  sound : Archive.checksum manifest = sum

theorem Opens.exists_listing {sum : UInt32} {manifest : List UInt8} (opens : Opens sum manifest)
    {fs : FileSystem} {path : Path} {place : Place} {modified : Nat}
    (found : fs.find path = .ok (place, .file (manifestArchive sum manifest) modified))
    (stamp : Stamp) :
    ∃ l, readArchive fs path stamp = .ok l ∧ l.archive.read memberName = .ok manifest := by
  generalize ha : manifestOnly sum manifest = a
  have hdirectory := ha ▸ opens.directory
  have hpacked := ha ▸ opens.packed
  have hcontent := Zip.content_of_stored hpacked rfl (congrArg UInt32.toNat opens.sound)
  have hmembers : a.members = [manifestMember sum manifest.length] := by rw [← ha]; rfl
  have hmember : a.member? memberName = some (manifestMember sum manifest.length) := by
    rw [Zip.member?, hmembers]
    rfl
  have hbyName := Zip.byName_of_content hmember hpacked hcontent
  have hopen : openBytes (manifestArchive sum manifest) =
      .ok (a.toArchive, [⟨memberName, Archive.namesDirectory memberName⟩],
        decodeLossy manifest) := by
    refine openBytes_eq_ok_iff.mpr ⟨?_, ?_, ?_⟩
    · simp only [ArchiveLibrary.openArchive, hdirectory]
      rfl
    · simp only [Zip.toArchive, hmembers, List.map_cons, List.map_nil, hpacked]
      rfl
    · rw [manifestOf, hbyName]
      rfl
  obtain ⟨l, hl, _, harchive, _⟩ := listBytes_of_openBytes hopen
  refine ⟨l, (readArchive_file found stamp).trans hl, ?_⟩
  rw [harchive, Archive.read, hbyName]

end TypeDiscovery.ClassPath
