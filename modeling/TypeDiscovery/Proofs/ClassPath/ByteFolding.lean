import TypeDiscovery.Proofs.ClassPath.Folding
import TypeDiscovery.Proofs.ClassPath.Reading
import TypeDiscovery.Proofs.Path.Below
import TypeDiscovery.Proofs.Text.Lossy

/-!
# Headers folded between bytes

In an archive a manifest is bytes, and its headers are cut between bytes. The bytes are decoded
before the folds are undone, so that each piece is decoded by itself (`decodeLossy_written`). A cut
inside a character is lost that way. It does no harm in a header that gives no class path, since it
cannot turn that header into one that does (`Encodes.gives_of_decoded`). So an archive has the same
references as with its headers uncut if those of the header that gives the class path are cut
between characters (`references_of_folded`), and otherwise it may have others
(`references_cut_inside`).
-/

namespace TypeDiscovery.Manifest

open Text Text.Utf8

/-! ## Decoding pieces -/

def Folded.decoded (h : Folded UInt8) : Folded Char where
  first := (decodeLossy h.first.1, h.first.2)
  more := h.more.map fun line => (decodeLossy line.1, line.2)

def Layout.decoded (l : Layout UInt8) : Layout Char where
  headers := l.headers.map (·.decoded)
  sequel := l.sequel.map fun sequel => (sequel.1, decodeLossy sequel.2)

theorem decodeLossy_ending (bytes : List UInt8) (ending : LineEnd) (rest : List UInt8) :
    decodeLossy (bytes ++ (ending.text.map Char.toUInt8 ++ rest)) =
      decodeLossy bytes ++ (ending.text ++ decodeLossy rest) := by
  cases ending with
  | feed => exact decodeLossy_append (c := '\n') (by decide) bytes rest
  | returnFeed =>
    have hfeed := decodeLossy_cons_ascii (c := '\n') (by decide) rest
    have hreturn := decodeLossy_append (c := '\r') (by decide) bytes ('\n'.toUInt8 :: rest)
    rwa [hfeed] at hreturn

theorem decodeLossy_more (more : List (List UInt8 × LineEnd)) (rest : List UInt8) :
    decodeLossy ((more.flatMap fun line =>
        ' '.toUInt8 :: line.1 ++ line.2.text.map Char.toUInt8) ++ rest) =
      ((more.map fun line => (decodeLossy line.1, line.2)).flatMap fun line =>
        ' ' :: line.1 ++ line.2.text) ++ decodeLossy rest := by
  induction more with
  | nil => rfl
  | cons line more ih =>
    have hspace := decodeLossy_cons_ascii (c := ' ') (by decide) line.1
    rw [List.flatMap_cons, List.append_assoc, List.append_assoc, decodeLossy_ending, hspace, ih]
    simp

theorem Folded.decodeLossy_written (h : Folded UInt8) (rest : List UInt8) :
    decodeLossy (h.written Char.toUInt8 ++ rest) = h.decoded.written id ++ decodeLossy rest := by
  rw [written, List.append_assoc, List.append_assoc, decodeLossy_ending, decodeLossy_more]
  simp [written, decoded]

/-- A manifest is decoded piece by piece. -/
theorem Layout.decodeLossy_written (l : Layout UInt8) :
    decodeLossy (l.written Char.toUInt8) = l.decoded.written id := by
  have hending : decodeLossy (l.ending Char.toUInt8) = l.decoded.ending id := by
    cases hsequel : l.sequel with
    | none => simp [ending, decoded, hsequel, decodeLossy]
    | some sequel =>
      have hdecode := decodeLossy_ending [] sequel.1 sequel.2
      rw [List.nil_append, decodeLossy, List.nil_append] at hdecode
      simp [ending, decoded, hsequel, hdecode]
  have hheaders : ∀ headers : List (Folded UInt8),
      decodeLossy (headers.flatMap (·.written Char.toUInt8) ++ l.ending Char.toUInt8) =
        (headers.map (·.decoded)).flatMap (·.written id) ++ l.decoded.ending id := by
    intro headers
    induction headers with
    | nil => exact hending
    | cons h headers ih =>
      rw [List.flatMap_cons, List.append_assoc, h.decodeLossy_written, ih, List.map_cons,
        List.flatMap_cons, List.append_assoc]
  exact hheaders l.headers

/-! ## Headers as bytes -/

/-- The header is the encoding of a text, and something of it is on the first line. -/
structure Folded.Encodes (h : Folded UInt8) (text : List Char) : Prop where
  header : IsHeader text
  begun : h.first.1 ≠ []
  whole_eq : h.whole = text.flatMap encodeChar

namespace Folded

variable {α : Type}

def pieces (h : Folded α) : List (List α) := h.first.1 :: h.more.map (·.1)

theorem flatten_pieces (h : Folded α) : h.pieces.flatten = h.whole := rfl

/-- The header is cut between characters only. -/
def Uncut (h : Folded UInt8) : Prop :=
  ∀ piece ∈ h.pieces, ∃ cs : List Char, piece = cs.flatMap encodeChar

/-- The header on one line. -/
def unfolded (h : Folded α) : Folded α := ⟨(h.whole, h.first.2), []⟩

theorem whole_unfolded (h : Folded α) : h.unfolded.whole = h.whole := List.append_nil h.whole

theorem whole_decoded (h : Folded UInt8) : h.decoded.whole = h.pieces.flatMap decodeLossy := by
  simp [whole, decoded, pieces, List.flatMap_map]

namespace Encodes

variable {h : Folded UInt8} {text : List Char}

theorem decodeLossy_whole (encodes : h.Encodes text) : decodeLossy h.whole = text := by
  rw [encodes.whole_eq, decodeLossy_encode]

/-- Without cuts inside characters the header is read as it is. -/
theorem whole_of_uncut (encodes : h.Encodes text) (uncut : h.Uncut) : h.decoded.whole = text := by
  rw [whole_decoded, flatMap_decodeLossy uncut, flatten_pieces, encodes.decodeLossy_whole]

/-- Up to the first replacement the header is read as it is. -/
theorem eq_append (encodes : h.Encodes text) {cs more : List Char}
    (hdecoded : h.decoded.whole = cs ++ more) (kept : replacement ∉ cs) :
    ∃ rest, text = cs ++ rest := by
  rw [whole_decoded] at hdecoded
  obtain ⟨rest, hrest⟩ := eq_encode_append_of_pieces hdecoded kept
  refine ⟨decodeLossy rest, ?_⟩
  rw [← encodes.decodeLossy_whole, ← flatten_pieces, hrest, decodeLossy_encode_append]

theorem mem_of_ascii (encodes : h.Encodes text) {c : Char} (hc : c.toNat < 128)
    (hmem : c ∈ h.decoded.whole) : c ∈ text := by
  rw [whole_decoded, List.mem_flatMap] at hmem
  obtain ⟨piece, hpiece, hmem⟩ := hmem
  refine mem_of_mem_encode hc ?_
  rw [← encodes.whole_eq, ← flatten_pieces, List.mem_flatten]
  exact ⟨piece, hpiece, mem_of_mem_decodeLossy hc hmem⟩

theorem sound (encodes : h.Encodes text) : h.decoded.Sound := by
  have begun : h.decoded.first.1 ≠ [] := fun hnil =>
    encodes.begun (decodeLossy_eq_nil_iff.mp hnil)
  refine ⟨⟨?_, ?_, ?_, ?_⟩, begun⟩
  · exact List.append_ne_nil_of_left_ne_nil begun _
  · exact fun hfeed => encodes.header.unfed (encodes.mem_of_ascii (by decide) hfeed)
  · exact fun hreturn => encodes.header.unreturned (encodes.mem_of_ascii (by decide) hreturn)
  -- a space that is read first stands before any replacement, so the header would begin with it
  · intro hspace
    obtain ⟨more, hmore⟩ := List.head?_eq_some_iff.mp hspace
    have hsplit : h.decoded.whole = [' '] ++ more := hmore
    obtain ⟨rest, rfl⟩ := encodes.eq_append hsplit (by decide)
    exact encodes.header.unindented rfl

theorem unfolded (encodes : h.Encodes text) : h.unfolded.Encodes text where
  header := encodes.header
  begun := List.append_ne_nil_of_left_ne_nil encodes.begun _
  whole_eq := by rw [whole_unfolded, encodes.whole_eq]

theorem whole_unfolded (encodes : h.Encodes text) : h.unfolded.decoded.whole = text := by
  refine encodes.unfolded.whole_of_uncut fun piece hpiece => ⟨text, ?_⟩
  obtain rfl := List.mem_singleton.mp hpiece
  exact encodes.whole_eq

end Encodes

end Folded

/-! ## What a lost character cannot do -/

theorem mem_trim {c : Char} (hc : isBlank c = false) {cs : List Char} (h : c ∈ cs) :
    c ∈ trim cs := by
  have hdrop : ∀ {xs : List Char}, c ∈ xs → c ∈ xs.dropWhile isBlank := by
    intro xs hmem
    rw [← List.takeWhile_append_dropWhile (p := isBlank) (l := xs), List.mem_append] at hmem
    refine hmem.resolve_left fun htake => ?_
    have hblank := List.all_eq_true.mp List.all_takeWhile c htake
    rw [hc] at hblank
    cases hblank
  rw [trim, List.mem_reverse]
  exact hdrop (List.mem_reverse.mpr (hdrop h))

/-- A key that is read as the name for the class path has lost no character. -/
theorem replacement_not_mem_key {key : List Char}
    (same : sameUpToAsciiCase (trim key) "Class-Path".toList = true) : replacement ∉ key := by
  intro hmem
  have htrim := List.mem_map_of_mem (f := asciiLower) (mem_trim (by decide) hmem)
  rw [sameUpToAsciiCase, decide_eq_true_eq] at same
  rw [same] at htrim
  revert htrim
  decide

/-- A cut makes no header one that gives a class path. -/
theorem Folded.Encodes.gives_of_decoded {h : Folded UInt8} {text value : List Char}
    (encodes : h.Encodes text) (gives : Gives h.decoded.whole value) : ∃ v, Gives text v := by
  obtain ⟨key, hdecoded, hkey, same⟩ := gives
  have kept : replacement ∉ key ++ [':'] := by
    rw [List.mem_append, not_or]
    exact ⟨replacement_not_mem_key same, by decide⟩
  have hsplit : h.decoded.whole = (key ++ [':']) ++ value := by
    rw [hdecoded, List.append_assoc, List.singleton_append]
  obtain ⟨rest, hrest⟩ := encodes.eq_append hsplit kept
  exact ⟨rest, key, by rw [hrest, List.append_assoc, List.singleton_append], hkey, same⟩

/-! ## The class path -/

/-- The header gives a class path. -/
def Folded.GivesClassPath (h : Folded UInt8) : Prop :=
  ∃ text value, h.Encodes text ∧ Gives text value

/-- The manifest with each header on one line. -/
def Layout.unfolded {α : Type} (l : Layout α) : Layout α :=
  { l with headers := l.headers.map (·.unfolded) }

/-- A manifest of headers in which the first one that gives a class path is cut between characters
only. -/
structure Layout.Readable (l : Layout UInt8) : Prop where
  encodes : ∀ h ∈ l.headers, ∃ text, h.Encodes text
  uncut : ∀ before h after, l.headers = before ++ h :: after →
    (∀ b ∈ before, ¬b.GivesClassPath) → h.GivesClassPath → h.Uncut

theorem findSome?_decoded {headers : List (Folded UInt8)}
    (encodes : ∀ h ∈ headers, ∃ text, h.Encodes text)
    (uncut : ∀ before h after, headers = before ++ h :: after →
      (∀ b ∈ before, ¬b.GivesClassPath) → h.GivesClassPath → h.Uncut) :
    headers.findSome? (fun h => references? h.decoded.whole) =
      headers.findSome? (fun h => references? h.unfolded.decoded.whole) := by
  induction headers with
  | nil => rfl
  | cons h headers ih =>
    obtain ⟨⟨text, htext⟩, hrest⟩ := List.forall_mem_cons.mp encodes
    rw [List.findSome?_cons, List.findSome?_cons, htext.whole_unfolded]
    -- the first header that gives a class path ends the search, and those before it still give none
    by_cases gives : h.GivesClassPath
    · rw [htext.whole_of_uncut (uncut [] h headers rfl nofun gives)]
      obtain ⟨text', value, htext', hgives⟩ := gives
      obtain rfl : text' = text := htext'.decodeLossy_whole.symm.trans htext.decodeLossy_whole
      rw [references?_eq_some_iff.mpr ⟨value, hgives, rfl⟩]
    · have hnone : references? text = none :=
        references?_eq_none_iff.mpr fun value hgives => gives ⟨text, value, htext, hgives⟩
      have hdecoded : references? h.decoded.whole = none := by
        refine references?_eq_none_iff.mpr fun value hgives => ?_
        obtain ⟨v, hgives⟩ := htext.gives_of_decoded hgives
        exact gives ⟨text, v, htext, hgives⟩
      rw [hnone, hdecoded]
      refine ih hrest fun before h' after hsplit hbefore => ?_
      exact uncut (h :: before) h' after (by rw [hsplit, List.cons_append])
        (List.forall_mem_cons.mpr ⟨gives, hbefore⟩)

theorem classPath_unfolded (l : Layout UInt8) (readable : l.Readable) :
    classPath (decodeLossy (l.written Char.toUInt8)) =
      classPath (decodeLossy (l.unfolded.written Char.toUInt8)) := by
  have sound : ∀ h ∈ l.decoded.headers, h.Sound := by
    intro h hh
    obtain ⟨b, hb, rfl⟩ := List.mem_map.mp hh
    obtain ⟨text, htext⟩ := readable.encodes b hb
    exact htext.sound
  have sound' : ∀ h ∈ l.unfolded.decoded.headers, h.Sound := by
    intro h hh
    obtain ⟨_, hunfolded, rfl⟩ := List.mem_map.mp hh
    obtain ⟨b, hb, rfl⟩ := List.mem_map.mp hunfolded
    obtain ⟨text, htext⟩ := readable.encodes b hb
    exact htext.unfolded.sound
  rw [l.decodeLossy_written, l.unfolded.decodeLossy_written, classPath_of_layout _ sound,
    classPath_of_layout _ sound', Layout.decoded, Layout.decoded, Layout.unfolded]
  simp only [List.map_map, List.findSome?_map, Function.comp_def]
  rw [findSome?_decoded readable.encodes readable.uncut]

end TypeDiscovery.Manifest

namespace TypeDiscovery.ClassPath

open Text.Utf8 FileSystem Manifest

/-! ## Archives -/

/-- If the header of an archive that gives the class path is cut between characters, the archive
refers to what it refers to with all headers uncut. -/
theorem references_of_folded [ArchiveLibrary] {fs fs' : FileSystem} {path : Path}
    {stamp stamp' : Stamp} {l l' : ArchiveListing} {layout : Layout UInt8}
    (readable : layout.Readable)
    (listed : readArchive fs path stamp = .ok l) (listed' : readArchive fs' path stamp' = .ok l')
    (folded : l.archive.read memberName = .ok (layout.written Char.toUInt8))
    (unfolded : l'.archive.read memberName = .ok (layout.unfolded.written Char.toUInt8)) :
    l.references = l'.references := by
  rw [references_of_read listed folded, references_of_read listed' unfolded,
    classPath_unfolded layout readable]

/-- A file system with an archive that has nothing but a manifest. -/
def bearing (sum : UInt32) (manifest : List UInt8) : FileSystem :=
  ⟨[([], .directory), (["work"], .directory),
    (["work", "x.jar"], .file (manifestArchive sum manifest) 1000000000)]⟩

theorem find_bearing (sum : UInt32) (manifest : List UInt8) :
    (bearing sum manifest).find ⟨"x.jar"⟩ =
      .ok (["work", "x.jar"], .file (manifestArchive sum manifest) 1000000000) :=
  find_name (by decide) rfl rfl nofun

/-- A header that gives no class path, cut inside a character of two bytes. -/
def aside : Folded UInt8 :=
  ⟨([0x4e, 0x3a, 0xc3], .feed), [([0xa9], .feed)]⟩

/-- A header that gives a class path of such a character, cut before it and cut inside it. -/
def cutBefore : Folded UInt8 :=
  ⟨("Class-Path:".toList.map Char.toUInt8, .feed), [([0xc3, 0xa9], .feed)]⟩

def cutInside : Folded UInt8 :=
  ⟨("Class-Path:".toList.map Char.toUInt8 ++ [0xc3], .feed), [([0xa9], .feed)]⟩

theorem encodes_aside : aside.Encodes "N:é".toList :=
  ⟨⟨by decide, by decide, by decide, by decide⟩, by decide, by decide⟩

theorem encodes_cutBefore : cutBefore.Encodes "Class-Path:é".toList :=
  ⟨⟨by decide, by decide, by decide, by decide⟩, by decide, by decide⟩

theorem encodes_cutInside : cutInside.Encodes "Class-Path:é".toList :=
  ⟨⟨by decide, by decide, by decide, by decide⟩, by decide, by decide⟩

/-- Manifests of both headers, which differ in the cut of the second one. -/
def mended : Layout UInt8 := ⟨[aside, cutBefore], none⟩

def severed : Layout UInt8 := ⟨[aside, cutInside], none⟩

theorem readable_mended : mended.Readable := by
  constructor
  · intro h hh
    simp only [mended, List.mem_cons, List.not_mem_nil, or_false] at hh
    rcases hh with rfl | rfl
    · exact ⟨_, encodes_aside⟩
    · exact ⟨_, encodes_cutBefore⟩
  · intro before h after hsplit _ gives
    have hmem : h ∈ mended.headers := hsplit ▸ List.mem_append_right _ List.mem_cons_self
    simp only [mended, List.mem_cons, List.not_mem_nil, or_false] at hmem
    rcases hmem with rfl | rfl
    · obtain ⟨text, value, htext, hgives⟩ := gives
      rw [← htext.decodeLossy_whole, encodes_aside.decodeLossy_whole] at hgives
      exact absurd hgives (references?_eq_none_iff.mp rfl value)
    · exact List.forall_mem_cons.mpr ⟨⟨"Class-Path:".toList, by decide⟩,
        List.forall_mem_singleton.mpr ⟨['é'], by decide⟩⟩

/-- The archives of these manifests, and the one of the manifest with the headers uncut. -/
def mendedFiles : FileSystem := bearing 0xf025bcce (mended.written Char.toUInt8)

def severedFiles : FileSystem := bearing 0x700b17c7 (severed.written Char.toUInt8)

def uncutFiles : FileSystem := bearing 0xe6e4e574 (mended.unfolded.written Char.toUInt8)

set_option maxRecDepth 4000 in
theorem opens_mended :
    Opens 0xf025bcce (mended.written Char.toUInt8) := by
  refine ⟨(rfl), (rfl), ?_⟩
  rw [Archive.checksum_eq]
  decide +kernel

set_option maxRecDepth 4000 in
theorem opens_severed :
    Opens 0x700b17c7 (severed.written Char.toUInt8) := by
  refine ⟨(rfl), (rfl), ?_⟩
  rw [Archive.checksum_eq]
  decide +kernel

set_option maxRecDepth 4000 in
theorem opens_uncut :
    Opens 0xe6e4e574 (mended.unfolded.written Char.toUInt8) := by
  refine ⟨(rfl), (rfl), ?_⟩
  rw [Archive.checksum_eq]
  decide +kernel

theorem references_of_folded_mended :
    mended.Readable ∧ ∃ l l', readArchive mendedFiles ⟨"x.jar"⟩ ⟨0, 0⟩ = .ok l ∧
      readArchive uncutFiles ⟨"x.jar"⟩ ⟨0, 0⟩ = .ok l' ∧
      l.archive.read memberName = .ok (mended.written Char.toUInt8) ∧
      l'.archive.read memberName = .ok (mended.unfolded.written Char.toUInt8) ∧
      l.references = l'.references ∧ l'.references = [⟨"é"⟩] := by
  obtain ⟨l, hlisted, hread⟩ := opens_mended.exists_listing (find_bearing _ _) ⟨0, 0⟩
  obtain ⟨l', hlisted', hread'⟩ := opens_uncut.exists_listing (find_bearing _ _) ⟨0, 0⟩
  refine ⟨readable_mended, l, l', hlisted, hlisted', hread, hread',
    references_of_folded readable_mended hlisted hlisted' hread hread', ?_⟩
  rw [references_of_read hlisted' hread']
  decide +kernel

/-- An archive whose class path is cut inside a character refers to something else. -/
theorem references_cut_inside :
    (∀ h ∈ severed.headers, ∃ text, h.Encodes text) ∧
    ∃ l l', readArchive severedFiles ⟨"x.jar"⟩ ⟨0, 0⟩ = .ok l ∧
      readArchive uncutFiles ⟨"x.jar"⟩ ⟨0, 0⟩ = .ok l' ∧
      l.archive.read memberName = .ok (severed.written Char.toUInt8) ∧
      l'.archive.read memberName = .ok (severed.unfolded.written Char.toUInt8) ∧
      l.references = [⟨"\uFFFD\uFFFD"⟩] ∧ l'.references = [⟨"é"⟩] := by
  have encodes : ∀ h ∈ severed.headers, ∃ text, h.Encodes text := by
    intro h hh
    simp only [severed, List.mem_cons, List.not_mem_nil, or_false] at hh
    rcases hh with rfl | rfl
    · exact ⟨_, encodes_aside⟩
    · exact ⟨_, encodes_cutInside⟩
  obtain ⟨l, hlisted, hread⟩ := opens_severed.exists_listing (find_bearing _ _) ⟨0, 0⟩
  obtain ⟨l', hlisted', hread'⟩ := opens_uncut.exists_listing (find_bearing _ _) ⟨0, 0⟩
  refine ⟨encodes, l, l', hlisted, hlisted', hread, hread', ?_, ?_⟩
  · rw [references_of_read hlisted hread]
    decide +kernel
  · rw [references_of_read hlisted' hread']
    decide +kernel

end TypeDiscovery.ClassPath
