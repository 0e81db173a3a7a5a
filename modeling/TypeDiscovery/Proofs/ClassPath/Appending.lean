import TypeDiscovery.Proofs.ClassPath.Standing
import TypeDiscovery.Proofs.Path.Below
import TypeDiscovery.Proofs.Query.Scopes

/-!
# Class paths with more entries at the end

Entries are searched in order, and what counts as visited after the first ones does not depend on
those that follow. So more entries at the end of a class path put more roots at the end, and with
them more classes and resources: none of those listed before is lost, moved or shadowed. The scope
with more entries covers the one with fewer, and a request finds no less in it (`findTypes_append`).
-/

namespace TypeDiscovery.ClassPath

variable {fs : FileSystem} {name : String} {entries more : List String}

/-! ## Listing -/

theorem firstClasses_mono {classes all : List (Identity × Location)} (h : classes <+: all) :
    firstClasses classes <+: firstClasses all := by
  obtain ⟨rest, rfl⟩ := h
  exact Distinct.firsts_prefix_append Prod.fst classes rest

section Library

variable [ArchiveLibrary]

theorem roots_append (name : String) (entries more : List String) (fs : FileSystem) :
    (((new entries).withName name).roots fs).1 <+:
      (((new (entries ++ more)).withName name).roots fs).1 := by
  obtain ⟨_, hvisit⟩ := roots_visit ((new entries).withName name) fs
  obtain ⟨_, hall⟩ := roots_visit ((new (entries ++ more)).withName name) fs
  have hentries : ((new (entries ++ more)).withName name).entries =
      ((new entries).withName name).entries ++ (new more).entries := List.map_append
  rw [hentries] at hall
  obtain ⟨first, second, middle, hroots, hfirst, _⟩ := hall.split
  obtain ⟨rfl, _⟩ := hvisit.unique hfirst
  rw [hroots]
  exact List.prefix_append _ _

theorem artifacts_append {listed all : List Entry}
    (hlisted : (((new entries).withName name).artifacts fs).1.answer = .ok listed)
    (hall : (((new (entries ++ more)).withName name).artifacts fs).1.answer = .ok all) :
    listed <+: all := by
  have hroots := artifacts_of_listableRoots (listableRoots_of_artifacts hlisted)
  have hallRoots := artifacts_of_listableRoots (listableRoots_of_artifacts hall)
  obtain rfl := Except.ok.inj (hroots.symm.trans hlisted)
  obtain rfl := Except.ok.inj (hallRoots.symm.trans hall)
  refine List.IsPrefix.map entryOf (firstClasses_mono ?_)
  exact (roots_append name entries more fs).flatMap _

/-! ## Finding -/

/-- Each class is located where it was. -/
theorem locate_append {listed all : List Entry}
    (hlisted : (((new entries).withName name).artifacts fs).1.answer = .ok listed)
    (hall : (((new (entries ++ more)).withName name).artifacts fs).1.answer = .ok all)
    {id : Identity} {l : Location}
    (h : (((new entries).withName name).view fs).locate id = some l) :
    (((new (entries ++ more)).withName name).view fs).locate id = some l := by
  obtain ⟨listed', hlisted', hmem⟩ := (locatesListed_view name entries fs id l).mp h
  obtain rfl : listed = listed' := Except.ok.inj (hlisted.symm.trans hlisted')
  refine (locatesListed_view name (entries ++ more) fs id l).mpr ⟨all, hall, ?_⟩
  exact (artifacts_append hlisted hall).subset hmem

theorem covers_append {listed all : List Entry}
    (hlisted : (((new entries).withName name).artifacts fs).1.answer = .ok listed)
    (hall : (((new (entries ++ more)).withName name).artifacts fs).1.answer = .ok all)
    (patterns : List Pattern) :
    (((new (entries ++ more)).withName name).view fs).Covers patterns
      (((new entries).withName name).view fs) := by
  intro id l h
  refine ⟨l, locate_append hlisted hall h, ?_, fun _ _ hmatch => hmatch⟩
  rw [fetch_view, fetch_view]
  exact fetch_new name (entries ++ more) entries fs l

/-- If a class path can be listed both with some entries and with more at the end, then its classes
and its resources with the former are the first of those with the latter, and each request finds
with the latter whatever it finds with the former, at the same location. -/
theorem findTypes_append [Pattern.Engine] {listed all : List Entry}
    (hlisted : (((new entries).withName name).artifacts fs).1.answer = .ok listed)
    (hall : (((new (entries ++ more)).withName name).artifacts fs).1.answer = .ok all) :
    listed <+: all ∧
    (∃ resources allResources,
      (((new entries).withName name).resources fs).1.answer = .ok resources ∧
      (((new (entries ++ more)).withName name).resources fs).1.answer = .ok allResources ∧
      resources <+: allResources) ∧
    ∀ (f : TypeFinder) (found : List Handle),
      (((new entries).withName name).findTypes fs f).1.answer = .ok found →
      ∃ wide, (((new (entries ++ more)).withName name).findTypes fs f).1.answer = .ok wide ∧
        ∀ x ∈ found, x ∈ wide := by
  refine ⟨artifacts_append hlisted hall, ?_, ?_⟩
  · have hresources := resources_of_listableRoots (listableRoots_of_artifacts hlisted)
    have hallResources := resources_of_listableRoots (listableRoots_of_artifacts hall)
    refine ⟨_, _, hresources, hallResources, ?_⟩
    exact (roots_append name entries more fs).flatMap _
  · intro f found hfound
    obtain ⟨wide, hwide, hcovered⟩ := TypeFinder.find_of_covers
      (fun patterns _ => covers_append hlisted hall patterns)
      (locatesListed_view name entries fs) (locatesListed_view name (entries ++ more) fs)
      hall hfound
    refine ⟨wide, hwide, fun x hx => ?_⟩
    obtain ⟨m, hm, hmem⟩ := hcovered x hx
    have hlocate := locate_append hlisted hall (TypeFinder.locate_of_mem_find hfound hx)
    obtain rfl : m = x.location := Option.some.inj (hm.symm.trans hlocate)
    exact hmem

end Library

/-- Two directories that both hold a class of one name. -/
def annex : FileSystem :=
  ⟨[([], .directory), (["work"], .directory), (["work", "d"], .directory),
    (["work", "d", "A.class"], .file [0] 1), (["work", "e"], .directory),
    (["work", "e", "A.class"], .file [1] 1), (["work", "e", "B.class"], .file [1] 1)]⟩

open FileSystem in
theorem find_annex : annex.find ⟨"d"⟩ = .ok (["work", "d"], .directory) ∧
    annex.find ⟨"e"⟩ = .ok (["work", "e"], .directory) ∧
    annex.find ⟨"d/A.class"⟩ = .ok (["work", "d", "A.class"], .file [0] 1) := by
  have tree : annex.Tree := ⟨by decide, by decide⟩
  have hd : annex.find ⟨"d"⟩ = .ok (["work", "d"], .directory) :=
    find_name (by decide) rfl rfl nofun
  refine ⟨hd, find_name (by decide) rfl rfl nofun, ?_⟩
  have hjoin : Path.join ⟨"d"⟩ (relative ["A.class"]) = ⟨"d/A.class"⟩ := by
    simp [Path.join, relative]
  rw [← hjoin]
  exact find_relative tree hd (by decide) rfl

theorem filesBelow_annex : annex.filesBelow ⟨"d"⟩ = [("A.class", ⟨"d/A.class"⟩)] ∧
    annex.filesBelow ⟨"e"⟩ = [("A.class", ⟨"e/A.class"⟩), ("B.class", ⟨"e/B.class"⟩)] := by
  obtain ⟨hd, he, _⟩ := find_annex
  have hplaceD : annex.canonical? ⟨"d"⟩ = some ["work", "d"] := by
    simp [FileSystem.canonical?, hd]
  have hplaceE : annex.canonical? ⟨"e"⟩ = some ["work", "e"] := by
    simp [FileSystem.canonical?, he]
  have hsorted : [["A.class"], ["B.class"]].mergeSort FileSystem.comesFirst =
      [["A.class"], ["B.class"]] := by
    have hcomes : FileSystem.comesFirst ["A.class"] ["B.class"] = true := by decide
    apply List.mergeSort_of_pairwise
    simp only [List.pairwise_pair, hcomes]
  constructor
  · rw [FileSystem.filesBelow, hplaceD]
    simp only [annex, List.filterMap_cons, List.filterMap_nil]
    simp [Path.join]
  · rw [FileSystem.filesBelow, hplaceE]
    simp only [annex, List.filterMap_cons, List.filterMap_nil]
    simp [Path.join, hsorted]

theorem artifacts_annex :
    (((new ["d"]).withName "annex").artifacts annex).1.answer =
      .ok [⟨⟨"A"⟩, some (.file ⟨"d/A.class"⟩)⟩] ∧
    (((new ["d", "e"]).withName "annex").artifacts annex).1.answer =
      .ok [⟨⟨"A"⟩, some (.file ⟨"d/A.class"⟩)⟩, ⟨⟨"B"⟩, some (.file ⟨"e/B.class"⟩)⟩] := by
  obtain ⟨hd, he, _⟩ := find_annex
  obtain ⟨hbelowD, hbelowE⟩ := filesBelow_annex
  have hroots : (((new ["d"]).withName "annex").listableRoots annex).1 =
      .ok [.directory ⟨"d"⟩] := by
    simp [new, withName, listableRoots, roots, expand, FileSystem.isDirectory, hd, skipped?]
  have hallRoots : (((new ["d", "e"]).withName "annex").listableRoots annex).1 =
      .ok [.directory ⟨"d"⟩, .directory ⟨"e"⟩] := by
    simp [new, withName, listableRoots, roots, expand, FileSystem.isDirectory, FileSystem.key,
      FileSystem.canonical?, FileSystem.straight, hd, he, skipped?]
  rw [artifacts_of_listableRoots hroots, artifacts_of_listableRoots hallRoots]
  simp only [List.flatMap_cons, List.flatMap_nil, classesOf, hbelowD, hbelowE]
  exact ⟨rfl, rfl⟩

open TypeFinder in
/-- The artifacts that a marker marks. -/
def markedFinder : TypeFinder :=
  (TypeFinder.new "lang.Object" readableKnot markingReader .default).having "m.M"

/-- A class is found where it was, although the directory added holds another one of its name. -/
theorem findTypes_append_annex :
    (((new ["d"]).withName "annex").artifacts annex).1.answer =
      .ok [⟨⟨"A"⟩, some (.file ⟨"d/A.class"⟩)⟩] ∧
    (((new ["d", "e"]).withName "annex").artifacts annex).1.answer =
      .ok [⟨⟨"A"⟩, some (.file ⟨"d/A.class"⟩)⟩, ⟨⟨"B"⟩, some (.file ⟨"e/B.class"⟩)⟩] ∧
    ∃ wide, (((new ["d", "e"]).withName "annex").findTypes annex markedFinder).1.answer = .ok wide ∧
      ⟨⟨"A"⟩, .file ⟨"d/A.class"⟩⟩ ∈ wide := by
  obtain ⟨hlisted, hall⟩ := artifacts_annex
  refine ⟨hlisted, hall, ?_⟩
  have located := locatesListed_view "annex" ["d"] annex
  have answerable : (markedFinder.inScope (((new ["d"]).withName "annex").view annex)).Answerable []
      [⟨⟨"A"⟩, some (.file ⟨"d/A.class"⟩)⟩] := by
    refine ⟨?_, rfl, hlisted⟩
    rintro ⟨_, hmarkers⟩
    cases hmarkers
  have hlocate : (((new ["d"]).withName "annex").view annex).locate ⟨"A"⟩ =
      some (.file ⟨"d/A.class"⟩) :=
    (located _ _).mpr ⟨_, hlisted, List.mem_cons_self⟩
  have hfetch : (((new ["d"]).withName "annex").view annex).fetch (.file ⟨"d/A.class"⟩) =
      .done [0] := by
    rw [fetch_view]
    simp [fetch, FileSystem.readFile, find_annex, Outcome.ofExcept, bind, Except.bind, pure,
      Except.pure]
  obtain ⟨found, hfound, mem_found⟩ := answerable.find
  have hA : ⟨⟨"A"⟩, .file ⟨"d/A.class"⟩⟩ ∈ found := by
    refine (mem_found _).mpr ⟨hlocate, ?_⟩
    refine (TypeFinder.matches_iff_answers (located.agrees hlisted)).mpr ?_
    refine ⟨⟨.ofLists ["a.A", "b.B"] ["m.M"], ⟨?_, ?_⟩, rfl⟩, fun htarget => absurd rfl htarget⟩
    · refine .start ⟨_, List.mem_cons_self, rfl, .inr rfl, .inl rfl, _, rfl, .inl rfl⟩ ?_
      show "A" ≠ "lang.Object"
      decide
    · show ((((new ["d"]).withName "annex").view annex).fetch _).bind _ = _
      rw [← Scope.placeOf_eq hlocate, hfetch]
      rfl
  obtain ⟨wide, hwide, hsubset⟩ :=
    (@findTypes_append annex "annex" ["d"] ["e"] _ _ _ _ hlisted hall).2.2 markedFinder found hfound
  exact ⟨wide, hwide, hsubset _ hA⟩

end TypeDiscovery.ClassPath
