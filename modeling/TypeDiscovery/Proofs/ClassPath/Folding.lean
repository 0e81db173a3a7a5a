import TypeDiscovery.ClassPath.Manifest

/-!
# Folded headers

A header is written on one line or cut into the pieces of several, of which all but the first are
indented by a space (`Folded`). A manifest has such headers in its main section, and after an empty
line anything at all (`Layout`). However the headers are cut, they are read as they were before
(`unfold_written`), so that the class path is the one that the first header for it gives
(`classPath_written`).
-/

namespace TypeDiscovery.Manifest

open Text

variable {α : Type}

/-! ## Writing -/

inductive LineEnd where
  | feed
  | returnFeed

def LineEnd.text : LineEnd → List Char
  | feed => ['\n']
  | returnFeed => ['\r', '\n']

/-- A header as the pieces on its lines, each with the end of its line. -/
structure Folded (α : Type) where
  first : List α × LineEnd
  more : List (List α × LineEnd)

/-- The header without its folds. -/
def Folded.whole (h : Folded α) : List α := h.first.1 ++ h.more.flatMap (·.1)

/-- The lines of a header; `mark` stands for the spaces and line ends. -/
def Folded.written (mark : Char → α) (h : Folded α) : List α :=
  h.first.1 ++ h.first.2.text.map mark ++
    h.more.flatMap fun line => mark ' ' :: line.1 ++ line.2.text.map mark

/-- The headers of a main section, and what stands after the empty line that ends it, if there is
one. -/
structure Layout (α : Type) where
  headers : List (Folded α)
  sequel : Option (LineEnd × List α)

def Layout.ending (mark : Char → α) (l : Layout α) : List α :=
  match l.sequel with
  | none => []
  | some (ending, rest) => ending.text.map mark ++ rest

def Layout.written (mark : Char → α) (l : Layout α) : List α :=
  l.headers.flatMap (·.written mark) ++ l.ending mark

/-- What a header may be. -/
structure IsHeader (text : List Char) : Prop where
  nonempty : text ≠ []
  unfed : '\n' ∉ text
  unreturned : '\r' ∉ text
  unindented : text.head? ≠ some ' '

/-- A header that has something on its first line. -/
structure Folded.Sound (h : Folded Char) : Prop where
  header : IsHeader h.whole
  begun : h.first.1 ≠ []

/-! ## Reading the lines -/

variable {piece : List Char} {h : Folded Char}

theorem lines_piece (fed : '\n' ∉ piece) (returned : '\r' ∉ piece) (ending : LineEnd)
    (rest : List Char) : lines (piece ++ (ending.text ++ rest)) = piece :: lines rest := by
  cases ending with
  | feed =>
    have hline := lines_append fed rest
    rwa [dropReturn_of_not_mem returned] at hline
  | returnFeed =>
    have hfed : '\n' ∉ piece ++ ['\r'] := by simp [fed]
    have hline := lines_append hfed rest
    rwa [dropReturn_append, List.append_assoc] at hline

/-- The lines that a header is written on. -/
def Folded.lines (h : Folded Char) : List (List Char) :=
  h.first.1 :: h.more.map fun line => ' ' :: line.1

theorem lines_more {more : List (List Char × LineEnd)} (fed : '\n' ∉ more.flatMap (·.1))
    (returned : '\r' ∉ more.flatMap (·.1)) (rest : List Char) :
    Text.lines ((more.flatMap fun line => ' ' :: line.1 ++ line.2.text) ++ rest) =
      (more.map fun line => ' ' :: line.1) ++ Text.lines rest := by
  induction more with
  | nil => rfl
  | cons line more ih =>
    simp only [List.flatMap_cons, List.mem_append, not_or] at fed returned
    have hfed : '\n' ∉ ' ' :: line.1 := by simp [fed.1]
    have hreturned : '\r' ∉ ' ' :: line.1 := by simp [returned.1]
    rw [List.flatMap_cons, List.append_assoc, List.append_assoc, lines_piece hfed hreturned,
      ih fed.2 returned.2]
    rfl

theorem Folded.Sound.lines_written (sound : h.Sound) (rest : List Char) :
    Text.lines (h.written id ++ rest) = h.lines ++ Text.lines rest := by
  have fed := sound.header.unfed
  have returned := sound.header.unreturned
  simp only [whole, List.mem_append, not_or] at fed returned
  simp only [written, List.map_id, id]
  rw [List.append_assoc, List.append_assoc, lines_piece fed.1 returned.1,
    lines_more fed.2 returned.2]
  rfl

theorem Folded.Sound.mainSection_written (sound : h.Sound) (rest : List Char) :
    mainSection (h.written id ++ rest) = h.lines ++ mainSection rest := by
  rw [mainSection, sound.lines_written, List.takeWhile_append_of_pos]
  · rfl
  · intro line hline
    rcases List.mem_cons.mp hline with rfl | hline
    · simpa using sound.begun
    · obtain ⟨more, -, rfl⟩ := List.mem_map.mp hline
      rfl

theorem Layout.mainSection_ending (l : Layout Char) : mainSection (l.ending id) = [] := by
  cases hsequel : l.sequel with
  | none => simp [ending, hsequel, mainSection, lines, lines.go]
  | some sequel =>
    have hline := @lines_piece [] List.not_mem_nil List.not_mem_nil sequel.1 sequel.2
    rw [List.nil_append] at hline
    simp [ending, hsequel, mainSection, hline]

/-! ## Undoing the folds -/

theorem unfold_more (header : List Char) (before : List (List Char))
    (more : List (List Char × LineEnd)) (rest : List (List Char)) :
    unfold (header :: before) ((more.map fun line => ' ' :: line.1) ++ rest) =
      unfold ((header ++ more.flatMap (·.1)) :: before) rest := by
  induction more generalizing header with
  | nil => simp
  | cons line more ih =>
    rw [List.map_cons, List.cons_append, unfold, ih, List.flatMap_cons, List.append_assoc]

theorem Folded.Sound.unfold_lines (sound : h.Sound) (before rest : List (List Char)) :
    unfold before (h.lines ++ rest) = unfold (h.whole :: before) rest := by
  obtain ⟨c, cs, hfirst⟩ := List.exists_cons_of_ne_nil sound.begun
  have hc : c ≠ ' ' := by
    have hindented := sound.header.unindented
    rw [whole, hfirst] at hindented
    simpa using hindented
  rw [lines, whole, List.cons_append, unfold, unfold_more]
  intro more heq
  rw [hfirst] at heq
  exact hc (List.cons.inj heq).1

/-- Headers are read as they were before they were cut. -/
theorem unfold_written (l : Layout Char) (sound : ∀ h ∈ l.headers, h.Sound) :
    unfold [] (mainSection (l.written id)) = l.headers.map (·.whole) := by
  have hall : ∀ (before : List (List Char)) (headers : List (Folded Char)),
      (∀ h ∈ headers, h.Sound) →
      unfold before (mainSection (headers.flatMap (·.written id) ++ l.ending id)) =
        before.reverse ++ headers.map (·.whole) := by
    intro before headers
    induction headers generalizing before with
    | nil =>
      intro _
      rw [List.flatMap_nil, List.nil_append, l.mainSection_ending, unfold, List.map_nil,
        List.append_nil]
    | cons h headers ih =>
      intro hsound
      obtain ⟨hfirst, hrest⟩ := List.forall_mem_cons.mp hsound
      rw [List.flatMap_cons, List.append_assoc, hfirst.mainSection_written, hfirst.unfold_lines,
        ih _ hrest, List.reverse_cons, List.append_assoc, List.map_cons, List.singleton_append]
  exact hall [] l.headers sound

/-! ## The class path -/

/-- A header that gives a class path: what stands before its first colon is the name `Class-Path`,
blanks around it and the case of letters aside. -/
def Gives (header value : List Char) : Prop :=
  ∃ key, header = key ++ ':' :: value ∧ ':' ∉ key ∧
    sameUpToAsciiCase (trim key) "Class-Path".toList = true

theorem keyAndValue?_eq_some_iff {header key value : List Char} :
    keyAndValue? header = some (key, value) ↔ header = key ++ ':' :: value ∧ ':' ∉ key := by
  have hjoin := join_segments ':' header
  constructor
  · intro h
    unfold keyAndValue? at h
    split at h
    · rename_i first next more hsegments
      obtain ⟨rfl, rfl⟩ := Prod.mk.inj (Option.some.inj h)
      refine ⟨?_, not_mem_of_mem_segments (hsegments ▸ List.mem_cons_self)⟩
      rw [← hjoin, hsegments, join, List.append_assoc, List.singleton_append]
    · cases h
  · rintro ⟨rfl, hkey⟩
    have hvalue := join_segments ':' value
    rw [keyAndValue?, segments_append, segments_eq_singleton hkey, List.singleton_append]
    cases hsegments : segments ':' value with
    | nil => exact absurd hsegments (segments_ne_nil ':' value)
    | cons next more =>
      rw [hsegments] at hvalue
      simp only [hvalue]

theorem references?_eq_some_iff {header : List Char} {found : List (List Char)} :
    references? header = some found ↔ ∃ value, Gives header value ∧ found = words value := by
  constructor
  · intro h
    unfold references? at h
    split at h
    · rename_i key value hheader
      obtain ⟨rfl, hkey⟩ := keyAndValue?_eq_some_iff.mp hheader
      split at h
      · rename_i hsame
        exact ⟨value, ⟨key, rfl, hkey, hsame⟩, (Option.some.inj h).symm⟩
      · cases h
    · cases h
  · rintro ⟨value, ⟨key, rfl, hkey, hsame⟩, rfl⟩
    have hheader : keyAndValue? (key ++ ':' :: value) = some (key, value) :=
      keyAndValue?_eq_some_iff.mpr ⟨rfl, hkey⟩
    simp only [references?, hheader, hsame, if_true]

theorem references?_eq_none_iff {header : List Char} :
    references? header = none ↔ ∀ value, ¬Gives header value := by
  rw [Option.eq_none_iff_forall_ne_some]
  constructor
  · intro h value hgives
    exact h _ (references?_eq_some_iff.mpr ⟨value, hgives, rfl⟩)
  · intro h found hfound
    obtain ⟨value, hgives, -⟩ := references?_eq_some_iff.mp hfound
    exact h value hgives

/-- The words of a text are its stretches between blanks, without the empty ones. -/
theorem words_eq (cs : List Char) :
    words cs = (cs.splitOnP isBlank).filter fun word => !word.isEmpty := by
  have hgo : ∀ word : List Char, (∀ c ∈ word, isBlank c = false) →
      words.go cs word = ((word.reverse ++ cs).splitOnP isBlank).filter fun w => !w.isEmpty := by
    induction cs with
    | nil =>
      intro word hword
      rw [List.append_nil, List.splitOnP_eq_singleton (by simpa using hword)]
      cases word <;> simp [words.go]
    | cons c rest ih =>
      intro word hword
      rw [words.go]
      by_cases hc : isBlank c = true
      · have hrest := ih [] nofun
        rw [List.reverse_nil, List.nil_append] at hrest
        rw [if_pos hc, List.splitOnP_append_cons_of_forall_mem (by simpa using hword) c hc, hrest]
        cases word <;> simp
      · have hnext := ih (c :: word)
          (List.forall_mem_cons.mpr ⟨Bool.eq_false_iff.mpr hc, hword⟩)
        rw [if_neg hc, hnext, List.reverse_cons, List.append_assoc, List.singleton_append]
  exact hgo [] nofun

theorem classPath_of_layout (l : Layout Char) (sound : ∀ h ∈ l.headers, h.Sound) :
    classPath (l.written id) = ((l.headers.map (·.whole)).findSome? references?).getD [] := by
  rw [classPath, unfold_written l sound]

/-- However the headers of a main section are cut and whatever follows it, the class path is what
stands between the blanks of the first header that gives one, and empty if there is none. -/
theorem classPath_written (l : Layout Char) (sound : ∀ h ∈ l.headers, h.Sound) :
    (∀ before h after value, l.headers = before ++ h :: after →
      (∀ b ∈ before, ∀ v, ¬Gives b.whole v) → Gives h.whole value →
      classPath (l.written id) = (value.splitOnP isBlank).filter fun word => !word.isEmpty) ∧
    ((∀ h ∈ l.headers, ∀ v, ¬Gives h.whole v) → classPath (l.written id) = []) := by
  rw [classPath_of_layout l sound]
  have hnone : ∀ headers : List (Folded Char), (∀ h ∈ headers, ∀ v, ¬Gives h.whole v) →
      ∀ header ∈ headers.map (·.whole), references? header = none := by
    intro headers hgives header hheader
    obtain ⟨h, hh, rfl⟩ := List.mem_map.mp hheader
    exact references?_eq_none_iff.mpr (hgives h hh)
  constructor
  · intro before h after value hheaders hbefore hgives
    have hfirst : (l.headers.map (·.whole)).findSome? references? = some (words value) := by
      rw [hheaders, List.map_append, List.map_cons]
      exact List.findSome?_eq_some_iff.mpr
        ⟨_, _, _, rfl, references?_eq_some_iff.mpr ⟨value, hgives, rfl⟩, hnone before hbefore⟩
    rw [hfirst, Option.getD_some, words_eq]
  · intro hgives
    rw [List.findSome?_eq_none_iff.mpr (hnone l.headers hgives), Option.getD_none]

/-- A header without a colon, and one that is cut inside its key, at its colon and inside a word. -/
def plainHeader : Folded Char := ⟨("x".toList, .feed), []⟩

def pleatedHeader : Folded Char :=
  ⟨("cLASS".toList, .returnFeed), [("-Path".toList, .feed), ([], .feed), (":".toList, .feed),
    (" a.jar  b".toList, .returnFeed), (".jar".toList, .feed)]⟩

/-- Both headers in a main section, with a section after it that names another archive. -/
def pleated : Layout Char := ⟨[plainHeader, pleatedHeader], some (.feed, "Class-Path: c".toList)⟩

theorem classPath_written_pleated :
    (∀ h ∈ pleated.headers, h.Sound) ∧ (∀ v, ¬Gives plainHeader.whole v) ∧
    Gives pleatedHeader.whole " a.jar  b.jar".toList ∧
    classPath (pleated.written id) = ["a.jar".toList, "b.jar".toList] := by
  have sound : ∀ h ∈ pleated.headers, h.Sound := by
    intro h hh
    simp only [pleated, List.mem_cons, List.not_mem_nil, or_false] at hh
    rcases hh with rfl | rfl
    · exact ⟨⟨by decide, by decide, by decide, by decide⟩, by decide⟩
    · exact ⟨⟨by decide, by decide, by decide, by decide⟩, by decide⟩
  have plain : ∀ v, ¬Gives plainHeader.whole v := references?_eq_none_iff.mp rfl
  have gives : Gives pleatedHeader.whole " a.jar  b.jar".toList :=
    ⟨"cLASS-Path".toList, rfl, by decide, by decide⟩
  refine ⟨sound, plain, gives, ?_⟩
  rw [(classPath_written pleated sound).1 [plainHeader] pleatedHeader [] _ rfl
    (List.forall_mem_singleton.mpr plain) gives]
  decide

end TypeDiscovery.Manifest
