import TypeDiscovery.Proofs.ClassPath.Standing
import TypeDiscovery.Proofs.Path.Below
import TypeDiscovery.Proofs.Query.Scopes

/-!
# Directories and archives with the same files

A directory is walked and an archive is read off its members, and yet both are classified by nothing
but the texts of the ways to their files. What a class path offers of some files is described once
for both (`Offers`), by a site for each text. Class paths that offer the same files list the same,
open the same and answer requests alike, wherever the files are (`Offers.alike`); a directory that
holds the files and an archive that they are packed into do offer the same (`listings_of_packed`).
-/

namespace TypeDiscovery.ClassPath

open FileSystem

/-- Files by the names on the way to them. -/
abbrev Files := List (Place × List UInt8)

theorem isClassFile_of_classIdentity? {text : String} {id : Identity}
    (h : classIdentity? text = some id) : isClassFile text = true := by
  unfold classIdentity? at h
  split at h
  · cases h
  · unfold Identity.ofResourcePath? at h
    cases hstem : Text.stripSuffix? Identity.fileEnding text.toList with
    | none =>
      rw [hstem] at h
      cases h
    | some stem =>
      rw [isClassFile, List.isSuffixOf_iff_suffix, Text.stripSuffix?_eq_some_iff.mp hstem]
      exact List.suffix_append _ _

namespace Files

/-- The texts under which files are listed. -/
def texts (files : Files) : List String := files.map fun f => relative f.1

/-- The classes among files, if the file listed under a text is at a site. -/
def classesAt (files : Files) (site : String → Location) : List (Identity × Location) :=
  files.texts.filterMap fun text => (classIdentity? text).map (·, site text)

def resourcesAt (files : Files) (site : String → Location) : List Resource :=
  files.texts.filterMap fun text => if isClassFile text then none else some ⟨text, site text⟩

/-- Files that can stand in a directory, none in two places, and as classes without repeats; a
manifest among them refers to nothing. -/
structure Packable (files : Files) : Prop where
  distinct : (files.map (·.1)).Nodup
  named : ∀ f ∈ files, f.1 ≠ []
  plain : ∀ f ∈ files, ∀ n ∈ f.1, Plain n
  alone : ∀ bytes, (["META-INF", "MANIFEST.MF"], bytes) ∈ files →
    Manifest.classPath (Text.Utf8.decodeLossy bytes) = []
  apart : ∀ f ∈ files, ∀ g ∈ files, ∀ id, classIdentity? (relative f.1) = some id →
    classIdentity? (relative g.1) = some id → f.1 = g.1

/-- In an archive, a member whose name ends in a backslash counts as a directory. -/
def Unslashed (files : Files) : Prop :=
  ∀ f ∈ files, (relative f.1).toList.getLast? ≠ some '\\'

variable {files : Files} {site : String → Location}

theorem Packable.eq_of_way (packable : files.Packable) {f g : Place × List UInt8} (hf : f ∈ files)
    (hg : g ∈ files) (h : f.1 = g.1) : f = g :=
  List.inj_on_of_nodup_map packable.distinct hf hg h

theorem Packable.eq_of_text (packable : files.Packable) {f g : Place × List UInt8} (hf : f ∈ files)
    (hg : g ∈ files) (h : relative f.1 = relative g.1) : f = g :=
  packable.eq_of_way hf hg (relative_inj (packable.named f hf) (packable.plain f hf)
    (packable.named g hg) (packable.plain g hg) h)

theorem mem_classesAt {id : Identity} {l : Location} : (id, l) ∈ files.classesAt site ↔
    ∃ f ∈ files, classIdentity? (relative f.1) = some id ∧ l = site (relative f.1) := by
  simp only [classesAt, texts, List.mem_filterMap, List.mem_map, Option.map_eq_some_iff,
    Prod.mk.injEq]
  constructor
  · rintro ⟨_, ⟨f, hf, rfl⟩, id, hid, rfl, rfl⟩
    exact ⟨f, hf, hid, rfl⟩
  · rintro ⟨f, hf, hid, rfl⟩
    exact ⟨_, ⟨f, hf, rfl⟩, id, hid, rfl, rfl⟩

theorem mem_resourcesAt {r : Resource} (h : r ∈ files.resourcesAt site) :
    ∃ f ∈ files, r.name = relative f.1 ∧ r.location = site (relative f.1) := by
  simp only [resourcesAt, texts, List.mem_filterMap, List.mem_map] at h
  obtain ⟨_, ⟨f, hf, rfl⟩, hr⟩ := h
  split at hr
  · cases hr
  · cases hr
    exact ⟨f, hf, rfl, rfl⟩

/-- Which classes there are is no matter of the site. -/
theorem map_fst_classesAt (files : Files) (site : String → Location) :
    (files.classesAt site).map (·.1) = files.texts.filterMap classIdentity? := by
  rw [classesAt, List.map_filterMap]
  refine List.filterMap_congr fun text _ => ?_
  cases classIdentity? text <;> rfl

theorem map_name_resourcesAt (files : Files) (site : String → Location) :
    (files.resourcesAt site).map (·.name) = files.texts.filter fun text => !isClassFile text := by
  rw [resourcesAt, List.map_filterMap, ← List.filterMap_eq_filter]
  refine List.filterMap_congr fun text _ => ?_
  cases h : isClassFile text <;> simp [Option.guard, h]

theorem Packable.nodup_identities (packable : files.Packable) (site : String → Location) :
    ((files.classesAt site).map (·.1)).Nodup := by
  rw [map_fst_classesAt, texts, List.filterMap_map]
  have hways : files.Pairwise fun f g => f ∈ files ∧ g ∈ files ∧ f.1 ≠ g.1 :=
    List.Pairwise.and_mem.mp (List.pairwise_map.mp packable.distinct)
  refine hways.filterMap _ ?_
  rintro f g ⟨hf, hg, hne⟩ id hid id' hid' rfl
  exact hne (packable.apart f hf g hg id hid hid')

/-- One file is packable unless it is a manifest. -/
theorem packable_singleton {f : Place × List UInt8} (named : f.1 ≠ []) (plain : ∀ n ∈ f.1, Plain n)
    (manifest : f.1 ≠ ["META-INF", "MANIFEST.MF"]) : Packable [f] where
  distinct := List.nodup_singleton _
  named _ hf := List.mem_singleton.mp hf ▸ named
  plain _ hf := List.mem_singleton.mp hf ▸ plain
  alone _ hf := absurd (congrArg Prod.fst (List.mem_singleton.mp hf)).symm manifest
  apart f hf g hg _ _ _ := by rw [List.mem_singleton.mp hf, List.mem_singleton.mp hg]

end Files

variable {fs fs' : FileSystem} {name name' : String} {entries entries' : List String}
  {files : Files} {site site' : String → Location}

/-! ## Offering files -/

section Library

variable [ArchiveLibrary]

/-- A class path offers some files if it lists and opens them as if each were at its site. -/
structure Offers (name : String) (entries : List String) (fs : FileSystem) (files : Files)
    (site : String → Location) : Prop where
  classes : ∃ classes, (((new entries).withName name).artifacts fs).1.answer =
    .ok ((firstClasses classes).map entryOf) ∧ classes.Perm (files.classesAt site)
  resources : ∃ listed, (((new entries).withName name).resources fs).1.answer = .ok listed ∧
    listed.Perm (files.resourcesAt site)
  opens : ∀ f ∈ files, (((new entries).withName name).fetch fs (site (relative f.1))).1 = .done f.2

theorem Offers.artifacts (offers : Offers name entries fs files site) (packable : files.Packable) :
    ∃ classes : List (Identity × Location),
      (((new entries).withName name).artifacts fs).1.answer = .ok (classes.map entryOf) ∧
      classes.Perm (files.classesAt site) := by
  obtain ⟨classes, hlisted, hperm⟩ := offers.classes
  have hnodup : (classes.map (·.1)).Nodup :=
    (hperm.map _).nodup_iff.mpr (packable.nodup_identities site)
  have hfirst : firstClasses classes = classes := Distinct.firsts_eq_self Prod.fst hnodup
  rw [hfirst] at hlisted
  exact ⟨classes, hlisted, hperm⟩

theorem Offers.locate_iff (offers : Offers name entries fs files site) (packable : files.Packable)
    {id : Identity} {l : Location} : (((new entries).withName name).view fs).locate id = some l ↔
      ∃ f ∈ files, classIdentity? (relative f.1) = some id ∧ l = site (relative f.1) := by
  obtain ⟨classes, hlisted, hperm⟩ := offers.artifacts packable
  have hentry : (⟨id, some l⟩ : Entry) = entryOf (id, l) := rfl
  rw [locatesListed_view name entries fs id l, ← Files.mem_classesAt, ← hperm.mem_iff, hentry]
  constructor
  · rintro ⟨listed, hlisted', hmem⟩
    obtain rfl := Except.ok.inj (hlisted.symm.trans hlisted')
    exact (List.mem_map_of_injective entryOf_injective).mp hmem
  · exact fun hmem => ⟨_, hlisted, List.mem_map_of_mem hmem⟩

/-- Where the same files are offered, the same identities are located, with the same bytes. -/
theorem Offers.covers (offers : Offers name entries fs files site)
    (offers' : Offers name' entries' fs' files site') (packable : files.Packable) :
    (((new entries').withName name').view fs').Covers []
      (((new entries).withName name).view fs) := by
  intro id l hl
  obtain ⟨f, hf, hid, rfl⟩ := (offers.locate_iff packable).mp hl
  refine ⟨site' (relative f.1), (offers'.locate_iff packable).mpr ⟨f, hf, hid, rfl⟩, ?_, ?_⟩
  · rw [fetch_view, fetch_view, offers.opens f hf, offers'.opens f hf]
  · exact fun p hp => absurd hp List.not_mem_nil

/-- Class paths that offer the same files list the same identities and the same names of resources,
open the same bytes, and answer requests without patterns by the same identities. -/
theorem Offers.alike [Pattern.Engine] (offers : Offers name entries fs files site)
    (offers' : Offers name' entries' fs' files site') (packable : files.Packable) :
    let c := (new entries).withName name
    let c' := (new entries').withName name'
    (∃ listed listed', (c.artifacts fs).1.answer = .ok listed ∧
      (c'.artifacts fs').1.answer = .ok listed' ∧
      (listed.map (·.identity)).Perm (listed'.map (·.identity)) ∧
      ∀ e ∈ listed, ∀ e' ∈ listed', e.identity = e'.identity → ∃ l l' bytes,
        e.location = some l ∧ e'.location = some l' ∧
        ((c.artifacts fs).2.fetch fs l).1 = .done bytes ∧
        ((c'.artifacts fs').2.fetch fs' l').1 = .done bytes) ∧
    (∃ listed listed', (c.resources fs).1.answer = .ok listed ∧
      (c'.resources fs').1.answer = .ok listed' ∧
      (listed.map (·.name)).Perm (listed'.map (·.name)) ∧
      ∀ r ∈ listed, ∀ r' ∈ listed', r.name = r'.name → ∃ bytes,
        ((c.resources fs).2.fetch fs r.location).1 = .done bytes ∧
        ((c'.resources fs').2.fetch fs' r'.location).1 = .done bytes) ∧
    ∀ f : TypeFinder, f.locations = [] →
      TypeFinder.identities (c.findTypes fs f).1.answer =
        TypeFinder.identities (c'.findTypes fs' f).1.answer := by
  intro c c'
  obtain ⟨classes, hclasses, hperm⟩ := offers.artifacts packable
  obtain ⟨classes', hclasses', hperm'⟩ := offers'.artifacts packable
  obtain ⟨resources, hresources, hperms⟩ := offers.resources
  obtain ⟨resources', hresources', hperms'⟩ := offers'.resources
  refine ⟨⟨_, _, hclasses, hclasses', ?_, ?_⟩, ⟨_, _, hresources, hresources', ?_, ?_⟩, ?_⟩
  · have hmap : ∀ found : List (Identity × Location),
        (found.map entryOf).map (·.identity) = found.map (·.1) := by
      intro found
      rw [List.map_map]
      rfl
    rw [hmap, hmap]
    refine (hperm.map _).trans (.trans ?_ (hperm'.map _).symm)
    rw [Files.map_fst_classesAt, Files.map_fst_classesAt]
  · intro e he e' he' hsame
    obtain ⟨⟨id, l⟩, hfound, rfl⟩ := List.mem_map.mp he
    obtain ⟨⟨id', l'⟩, hfound', rfl⟩ := List.mem_map.mp he'
    obtain rfl : id = id' := hsame
    obtain ⟨f, hf, hid, rfl⟩ := Files.mem_classesAt.mp (hperm.mem_iff.mp hfound)
    obtain ⟨g, hg, hid', rfl⟩ := Files.mem_classesAt.mp (hperm'.mem_iff.mp hfound')
    obtain rfl : f = g := packable.eq_of_way hf hg (packable.apart f hf g hg id hid hid')
    refine ⟨_, _, f.2, rfl, rfl, ?_, ?_⟩
    · rw [fetch_listed, offers.opens f hf]
    · rw [fetch_listed, offers'.opens f hf]
  · refine (hperms.map _).trans (.trans ?_ (hperms'.map _).symm)
    rw [Files.map_name_resourcesAt, Files.map_name_resourcesAt]
  · intro r hr r' hr' hsame
    obtain ⟨f, hf, hname, hsite⟩ := Files.mem_resourcesAt (hperms.mem_iff.mp hr)
    obtain ⟨g, hg, hname', hsite'⟩ := Files.mem_resourcesAt (hperms'.mem_iff.mp hr')
    obtain rfl : f = g := packable.eq_of_text hf hg (hname.symm.trans (hsame.trans hname'))
    refine ⟨f.2, ?_, ?_⟩
    · rw [fetch_resourcesListed, hsite, offers.opens f hf]
    · rw [fetch_resourcesListed, hsite', offers'.opens f hf]
  · intro f hlocations
    refine TypeFinder.identities_find_of_covers (fun patterns hpatterns => ?_)
      (locatesListed_view name entries fs) (locatesListed_view name' entries' fs')
      hclasses hclasses'
    obtain rfl : [] = patterns := by
      rw [hlocations] at hpatterns
      exact Except.ok.inj hpatterns
    exact ⟨offers.covers offers' packable, offers'.covers offers packable⟩

/-! ## A directory -/

/-- A directory holds some files if they are what is below it, links aside. -/
structure Holds (fs : FileSystem) (dir : Path) (files : Files) : Prop where
  tree : fs.Tree
  held : ∃ place, fs.find dir = .ok (place, .directory) ∧ ∀ names bytes,
    (names, bytes) ∈ files ↔ ∃ modified, fs.item? (place ++ names) = some (.file bytes modified)

theorem offers_of_holds {dir : String} (packable : files.Packable) (holds : Holds fs ⟨dir⟩ files) :
    Offers name [dir] fs files fun text => .file (Path.join ⟨dir⟩ text) := by
  obtain ⟨tree, place, hdir, hheld⟩ := holds
  have hdirectory : fs.isDirectory ⟨dir⟩ = true := by
    rw [isDirectory, hdir]
  have hroots : (((new [dir]).withName name).roots fs).1 = [.directory ⟨dir⟩] :=
    roots_eq_of_visit (.directory List.not_mem_nil hdirectory .done)
  have hlistable := listableRoots_singleton hroots rfl
  have hbelow : (fs.filesBelow ⟨dir⟩).Perm
      (files.texts.map fun text => (text, Path.join ⟨dir⟩ text)) := by
    have hways : ∀ names, names ∈ files.map (·.1) ↔
        ∃ bytes modified, fs.item? (place ++ names) = some (.file bytes modified) := by
      intro names
      simp only [← hheld, List.mem_map]
      constructor
      · rintro ⟨⟨names, bytes⟩, hf, rfl⟩
        exact ⟨bytes, hf⟩
      · rintro ⟨bytes, hf⟩
        exact ⟨_, hf, rfl⟩
    have hperm := filesBelow_perm tree hdir packable.distinct hways
    rw [List.map_map] at hperm
    rw [Files.texts, List.map_map]
    exact hperm
  constructor
  · refine ⟨_, artifacts_of_listableRoots hlistable, ?_⟩
    rw [List.flatMap_cons, List.flatMap_nil, List.append_nil, classesOf]
    refine (hbelow.filterMap _).trans (.of_eq ?_)
    rw [List.filterMap_map]
    rfl
  · refine ⟨_, resources_of_listableRoots hlistable, ?_⟩
    rw [List.flatMap_cons, List.flatMap_nil, List.append_nil, resourcesOf]
    refine (hbelow.filterMap _).trans (.of_eq ?_)
    rw [List.filterMap_map]
    rfl
  · rintro ⟨names, bytes⟩ hf
    obtain ⟨modified, hitem⟩ := (hheld names bytes).mp hf
    have hfind := find_relative tree hdir (packable.plain _ hf) hitem
    simp [fetch, readFile, hfind, Outcome.ofExcept, bind, Except.bind, pure, Except.pure]

/-! ## An archive -/

/-- An archive packs some files if its members are named by their texts, in any order, and have
their contents. -/
def Packs (fs : FileSystem) (jar : Path) (files : Files) : Prop :=
  ∃ place bytes modified archive members manifest,
    fs.find jar = .ok (place, .file bytes modified) ∧
    openBytes bytes = .ok (archive, members, manifest) ∧
    (members.map (·.name)).Perm files.texts ∧
    ∀ f ∈ files, archive.read (relative f.1) = .ok f.2

/-- What is documented about an archive, said of the members that it was opened with. -/
theorem documented_of_openBytes {bytes : List UInt8} {archive : Archive}
    {members : List Archive.Member} {manifest : List Char}
    (h : openBytes bytes = .ok (archive, members, manifest)) :
    (∀ m ∈ members, m.isDirectory = Archive.namesDirectory m.name) ∧
    ∀ name data, archive.byName name = .ok data → name ∈ members.map (·.name) := by
  obtain ⟨hopen, hmembers, _⟩ := openBytes_eq_ok_iff.mp h
  obtain ⟨directories, named⟩ := ArchiveLibrary.documented _ _ hopen
  have hlisted : ∀ m, (.ok m : Except String Archive.Member) ∈ archive.members ↔ m ∈ members := by
    intro m
    rw [hmembers, List.mem_map_of_injective fun _ _ h => Except.ok.inj h]
  refine ⟨fun m hm => directories m ((hlisted m).mpr hm), fun name data hdata => ?_⟩
  obtain ⟨m, hm, rfl⟩ := named name data hdata
  exact List.mem_map_of_mem ((hlisted m).mp hm)

/-- The manifest is the one among the files, which refers to nothing. -/
theorem references_of_packs {bytes : List UInt8} {archive : Archive}
    {members : List Archive.Member} {manifest : List Char} (packable : files.Packable)
    (hopen : openBytes bytes = .ok (archive, members, manifest))
    (named : (members.map (·.name)).Perm files.texts)
    (contents : ∀ f ∈ files, archive.read (relative f.1) = .ok f.2) :
    Manifest.classPath manifest = [] := by
  have h := (openBytes_eq_ok_iff.mp hopen).2.2
  unfold manifestOf at h
  cases hmember : archive.byName Manifest.memberName with
  | error e =>
    rw [hmember] at h
    cases h
    rfl
  | ok data =>
    have hmem : Manifest.memberName ∈ files.texts :=
      named.mem_iff.mp ((documented_of_openBytes hopen).2 _ _ hmember)
    obtain ⟨⟨way, content⟩, hf, htext⟩ := List.mem_map.mp hmem
    have hway : way = ["META-INF", "MANIFEST.MF"] := by
      refine relative_inj (packable.named _ hf) (packable.plain _ hf) (List.cons_ne_nil _ _) ?_
        htext
      intro n hn
      simp only [List.mem_cons, List.not_mem_nil, or_false] at hn
      rcases hn with rfl | rfl <;> constructor <;> decide
    subst hway
    have hread := contents _ hf
    rw [htext, Archive.read, hmember] at hread
    obtain rfl : data = .ok content := hread
    simp only [hmember, Except.map, Except.ok.injEq] at h
    rw [← h]
    exact packable.alone content hf

/-- No member of the archive counts as a directory. -/
theorem isDirectory_eq_false_of_packs {bytes : List UInt8} {archive : Archive}
    {members : List Archive.Member} {manifest : List Char} (packable : files.Packable)
    (unslashed : files.Unslashed) (hopen : openBytes bytes = .ok (archive, members, manifest))
    (named : (members.map (·.name)).Perm files.texts) {m : Archive.Member} (hm : m ∈ members) :
    m.isDirectory = false := by
  have hmem : m.name ∈ files.texts := named.mem_iff.mp (List.mem_map_of_mem hm)
  obtain ⟨f, hf, htext⟩ := List.mem_map.mp hmem
  have hslash := getLast?_relative (packable.named f hf) (packable.plain f hf)
  have hbackslash := unslashed f hf
  rw [htext] at hslash hbackslash
  rw [(documented_of_openBytes hopen).1 m hm, Archive.namesDirectory]
  split
  · rename_i c hlast
    rw [hlast, ne_eq, Option.some.injEq] at hslash hbackslash
    simp [hslash, hbackslash]
  · rfl

/-- What the archive is listed as. -/
theorem listing_of_packs {jar : Path} (packable : files.Packable) (unslashed : files.Unslashed)
    (packs : Packs fs jar files) :
    ∃ (texts : List String) (l : ArchiveListing), (listing fs [] jar).1 = .ok l ∧
      texts.Perm files.texts ∧
      l.classes = texts.filterMap (fun text => (classIdentity? text).map (·, text)) ∧
      l.resources = texts.filter (fun text => !isClassFile text) ∧ l.references = [] ∧
      ∀ f ∈ files, l.archive.read (relative f.1) = .ok f.2 := by
  obtain ⟨place, bytes, modified, archive, members, manifest, hfind, hopen, named, contents⟩ :=
    packs
  have hreferences := references_of_packs packable hopen named contents
  have hfiles : members.filter (fun m => !m.isDirectory) = members := by
    refine List.filter_eq_self.mpr fun m hm => ?_
    rw [isDirectory_eq_false_of_packs packable unslashed hopen named hm]
    rfl
  rw [listing_nil (stampOf_file hfind), readArchive_file hfind, listBytes, hopen]
  refine ⟨_, _, rfl, named, ?_, ?_, ?_, contents⟩
  · rw [hfiles, List.filterMap_map]
    refine List.filterMap_congr fun m _ => ?_
    cases hid : classIdentity? m.name with
    | none => simp [hid]
    | some id => simp [hid, isClassFile_of_classIdentity? hid]
  · rw [hfiles, List.filter_map]
    rfl
  · rw [hreferences]
    rfl

/-- An archive without references is the only root. -/
theorem listableRoots_of_archive {jar : String} {l : ArchiveListing}
    (found : fs.isFile ⟨jar⟩ = true) (listed : (listing fs [] ⟨jar⟩).1 = .ok l)
    (alone : l.references = []) :
    (((new [jar]).withName name).listableRoots fs).1 = .ok [.archive ⟨jar⟩ l] := by
  have hinner : Visit fs fs.key (((new [jar]).withName name).reading fs) [fs.key ⟨jar⟩]
      l.references [] [fs.key ⟨jar⟩] := by
    rw [alone]
    exact .done
  have hvisit := Visit.archive List.not_mem_nil found listed hinner .done
  exact listableRoots_singleton (roots_eq_of_visit hvisit) rfl

theorem offers_of_packs {jar : String} (packable : files.Packable) (unslashed : files.Unslashed)
    (packs : Packs fs ⟨jar⟩ files) :
    Offers name [jar] fs files fun text => .archive ⟨jar⟩ text := by
  obtain ⟨texts, l, hlisting, named, hclasses, hresources, hreferences, contents⟩ :=
    listing_of_packs packable unslashed packs
  obtain ⟨_, _, _, _, _, _, hfind, _⟩ := packs
  have hlistable := @listableRoots_of_archive fs name _ jar l (isFile_of_find hfind) hlisting
    hreferences
  constructor
  · refine ⟨_, artifacts_of_listableRoots hlistable, ?_⟩
    rw [List.flatMap_cons, List.flatMap_nil, List.append_nil, classesOf, hclasses,
      List.map_filterMap]
    refine .trans (.of_eq ?_) (named.filterMap _)
    refine List.filterMap_congr fun text _ => ?_
    rw [Option.map_map]
    rfl
  · refine ⟨_, resources_of_listableRoots hlistable, ?_⟩
    rw [List.flatMap_cons, List.flatMap_nil, List.append_nil, resourcesOf, hresources,
      ← List.filterMap_eq_filter, List.map_filterMap]
    refine .trans (.of_eq ?_) (named.filterMap _)
    refine List.filterMap_congr fun text _ => ?_
    cases h : isClassFile text <;> simp [Option.guard, h]
  · intro f hf
    have hmemo : ((new [jar]).withName name).memo = [] := rfl
    simp only [fetch, hmemo, hlisting, contents f hf]
    rfl

/-! ## Both -/

/-- Over a directory that holds some files and over an archive that packs them, in whatever order, a
class path lists the same identities and the same names of resources, opens the same bytes, and
answers requests without patterns by the same identities. -/
theorem listings_of_packed [Pattern.Engine] {dir jar : String} (packable : files.Packable)
    (unslashed : files.Unslashed) (holds : Holds fs ⟨dir⟩ files) (packs : Packs fs' ⟨jar⟩ files) :
    let c := (new [dir]).withName name
    let c' := (new [jar]).withName name'
    (∃ listed listed', (c.artifacts fs).1.answer = .ok listed ∧
      (c'.artifacts fs').1.answer = .ok listed' ∧
      (listed.map (·.identity)).Perm (listed'.map (·.identity)) ∧
      ∀ e ∈ listed, ∀ e' ∈ listed', e.identity = e'.identity → ∃ l l' bytes,
        e.location = some l ∧ e'.location = some l' ∧
        ((c.artifacts fs).2.fetch fs l).1 = .done bytes ∧
        ((c'.artifacts fs').2.fetch fs' l').1 = .done bytes) ∧
    (∃ listed listed', (c.resources fs).1.answer = .ok listed ∧
      (c'.resources fs').1.answer = .ok listed' ∧
      (listed.map (·.name)).Perm (listed'.map (·.name)) ∧
      ∀ r ∈ listed, ∀ r' ∈ listed', r.name = r'.name → ∃ bytes,
        ((c.resources fs).2.fetch fs r.location).1 = .done bytes ∧
        ((c'.resources fs').2.fetch fs' r'.location).1 = .done bytes) ∧
    ∀ f : TypeFinder, f.locations = [] →
      TypeFinder.identities (c.findTypes fs f).1.answer =
        TypeFinder.identities (c'.findTypes fs' f).1.answer :=
  (offers_of_holds packable holds).alike (offers_of_packs packable unslashed packs) packable

end Library

/-- A class in a directory, and beside the directory the archive of the shelf, which packs it. -/
def parcel : FileSystem :=
  ⟨[([], .directory), (["work"], .directory), (["work", "d"], .directory),
    (["work", "d", "a"], .directory), (["work", "d", "a", "B.class"], .file [0x42] 1),
    (["work", "a.jar"], .file shelfArchive 1000000000)]⟩

theorem packable_parcel : Files.Packable [(["a", "B.class"], [0x42])] :=
  Files.packable_singleton (by decide) (by decide) (by decide)

theorem find_parcel : parcel.find ⟨"d"⟩ = .ok (["work", "d"], .directory) ∧
    parcel.find ⟨"a.jar"⟩ = .ok (["work", "a.jar"], .file shelfArchive 1000000000) :=
  ⟨find_name (by decide) rfl rfl nofun, find_name (by decide) rfl rfl nofun⟩

theorem holds_parcel : Holds parcel ⟨"d"⟩ [(["a", "B.class"], [0x42])] := by
  have tree : parcel.Tree := ⟨by decide, by decide⟩
  refine ⟨tree, ["work", "d"], find_parcel.1, fun names bytes => ?_⟩
  simp only [item?_eq_some_iff tree.once]
  simp [parcel]

theorem packs_parcel : Packs parcel ⟨"a.jar"⟩ [(["a", "B.class"], [0x42])] := by
  refine ⟨["work", "a.jar"], shelfArchive, 1000000000, _, _, [], find_parcel.2,
    openBytes_shelfArchive, .refl _, fun f hf => ?_⟩
  obtain rfl := List.mem_singleton.mp hf
  exact read_shelfListing

theorem listings_of_packed_parcel :
    Files.Packable [(["a", "B.class"], [0x42])] ∧ Files.Unslashed [(["a", "B.class"], [0x42])] ∧
    Holds parcel ⟨"d"⟩ [(["a", "B.class"], [0x42])] ∧
    Packs parcel ⟨"a.jar"⟩ [(["a", "B.class"], [0x42])] ∧
    ∃ listed listed', (((new ["d"]).withName "loose").artifacts parcel).1.answer = .ok listed ∧
      (((new ["a.jar"]).withName "packed").artifacts parcel).1.answer = .ok listed' ∧
      (listed.map (·.identity)).Perm (listed'.map (·.identity)) := by
  have unslashed : Files.Unslashed [(["a", "B.class"], [0x42])] := by
    intro f hf
    obtain rfl := List.mem_singleton.mp hf
    decide
  obtain ⟨⟨listed, listed', h, h', hperm, _⟩, _⟩ :=
    @listings_of_packed parcel parcel "loose" "packed" _ _ _ "d" "a.jar" packable_parcel unslashed
      holds_parcel packs_parcel
  exact ⟨packable_parcel, unslashed, holds_parcel, packs_parcel, listed, listed', h, h', hperm⟩

/-- An archive with one member, the name of which ends in a backslash. -/
def slashArchive : List UInt8 :=
  [0x50, 0x4b, 0x03, 0x04, 0x14, 0x00, 0x00, 0x00, 0x00, 0x00, 0x00, 0x00, 0x21, 0x50, 0x31, 0xcf,
    0xd0, 0x4a, 0x01, 0x00, 0x00, 0x00, 0x01, 0x00, 0x00, 0x00, 0x02, 0x00, 0x00, 0x00, 0x61, 0x5c,
    0x42, 0x50, 0x4b, 0x01, 0x02, 0x14, 0x03, 0x14, 0x00, 0x00, 0x00, 0x00, 0x00, 0x00, 0x00, 0x21,
    0x50, 0x31, 0xcf, 0xd0, 0x4a, 0x01, 0x00, 0x00, 0x00, 0x01, 0x00, 0x00, 0x00, 0x02, 0x00, 0x00,
    0x00, 0x00, 0x00, 0x00, 0x00, 0x00, 0x00, 0x00, 0x00, 0xa4, 0x01, 0x00, 0x00, 0x00, 0x00, 0x61,
    0x5c, 0x50, 0x4b, 0x05, 0x06, 0x00, 0x00, 0x00, 0x00, 0x01, 0x00, 0x01, 0x00, 0x30, 0x00, 0x00,
    0x00, 0x21, 0x00, 0x00, 0x00, 0x00, 0x00]

/-- A file whose name ends in a backslash, and an archive that packs it. -/
def slashed : FileSystem :=
  ⟨[([], .directory), (["work"], .directory), (["work", "d"], .directory),
    (["work", "d", "a\\"], .file [0x42] 1),
    (["work", "x.jar"], .file slashArchive 1000000000)]⟩

/-- What it is opened as. -/
def slashZip : Zip := ⟨slashArchive.toArray, [⟨"a\\", false, 0, 0x4ad0cf31, 1, 0⟩]⟩

theorem openBytes_slashArchive : openBytes slashArchive =
    .ok (slashZip.toArchive, [⟨"a\\", true⟩], []) := (rfl)

theorem packed_slashZip :
    slashZip.packed ⟨"a\\", false, 0, 0x4ad0cf31, 1, 0⟩ = .ok [0x42] := (rfl)

theorem find_slashed : slashed.find ⟨"d"⟩ = .ok (["work", "d"], .directory) ∧
    slashed.find ⟨"x.jar"⟩ = .ok (["work", "x.jar"], .file slashArchive 1000000000) :=
  ⟨find_name (by decide) rfl rfl nofun, find_name (by decide) rfl rfl nofun⟩

theorem packable_slashed : Files.Packable [(["a\\"], [0x42])] :=
  Files.packable_singleton (by decide) (by decide) (by decide)

theorem holds_slashed : Holds slashed ⟨"d"⟩ [(["a\\"], [0x42])] := by
  have tree : slashed.Tree := ⟨by decide, by decide⟩
  refine ⟨tree, ["work", "d"], find_slashed.1, fun names bytes => ?_⟩
  simp only [item?_eq_some_iff tree.once]
  simp [slashed]

theorem packs_slashed : Packs slashed ⟨"x.jar"⟩ [(["a\\"], [0x42])] := by
  refine ⟨["work", "x.jar"], slashArchive, 1000000000, _, _, [], find_slashed.2,
    openBytes_slashArchive, .refl _, fun f hf => ?_⟩
  obtain rfl := List.mem_singleton.mp hf
  exact Zip.read_of_content (by decide) packed_slashZip
    (Zip.content_of_stored packed_slashZip rfl checksum_shelf)

/-- A file whose name ends in a backslash is a resource in a directory and none in an archive. -/
theorem resources_slashed :
    Files.Packable [(["a\\"], [0x42])] ∧ Holds slashed ⟨"d"⟩ [(["a\\"], [0x42])] ∧
    Packs slashed ⟨"x.jar"⟩ [(["a\\"], [0x42])] ∧
    (((new ["d"]).withName "classpath").resources slashed).1.answer =
      .ok [⟨"a\\", .file ⟨"d/a\\"⟩⟩] ∧
    (((new ["x.jar"]).withName "classpath").resources slashed).1.answer = .ok [] := by
  refine ⟨packable_slashed, holds_slashed, packs_slashed, ?_, ?_⟩
  · obtain ⟨_, ⟨listed, hlisted, hperm⟩, _⟩ :=
      @offers_of_holds slashed "classpath" _ _ "d" packable_slashed holds_slashed
    rw [hlisted]
    exact congrArg Except.ok (List.perm_singleton.mp hperm)
  · obtain ⟨l, hlisting, hresources, hreferences⟩ : ∃ l,
        (listing slashed [] ⟨"x.jar"⟩).1 = .ok l ∧ l.resources = [] ∧ l.references = [] := by
      rw [listing_nil (stampOf_file find_slashed.2), readArchive_file find_slashed.2, listBytes,
        openBytes_slashArchive]
      exact ⟨_, rfl, rfl, rfl⟩
    have hlistable := @listableRoots_of_archive slashed "classpath" _ "x.jar" l
      (isFile_of_find find_slashed.2) hlisting hreferences
    rw [resources_of_listableRoots hlistable, List.flatMap_cons, List.flatMap_nil, List.append_nil,
      resourcesOf, hresources]
    rfl

end TypeDiscovery.ClassPath
