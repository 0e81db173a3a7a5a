import Mathlib.Data.List.DropRight
import Mathlib.Data.List.TakeWhile
import TypeDiscovery.Identity

/-!
# What names stand for

The name of a type and its place in an archive are read off each other. Dots become slashes and
slashes dots, so that neither way loses anything as long as a text has only one of the two, and the
ones at its start are not dropped (`resourcePath_eq_iff`, `ofResourcePath?_resourcePath_iff`).

Namespaces are nested by segments: a type is in a namespace if the segments of the namespace come
first in the name before its last segment (`inNamespace_iff`).
-/

namespace TypeDiscovery

namespace Text

theorem dropWhile_beq_eq_self_iff {c : Char} {cs : List Char} :
    cs.dropWhile (· == c) = cs ↔ cs.head? ≠ some c := by
  rw [List.dropWhile_eq_self_iff]
  cases cs <;> simp

theorem rdropWhile_append {α : Type} (p : α → Bool) (xs ys : List α) :
    (xs ++ ys).rdropWhile p =
      if ys.rdropWhile p = [] then xs.rdropWhile p else xs ++ ys.rdropWhile p := by
  simp only [List.rdropWhile, List.reverse_append, List.dropWhile_append, List.isEmpty_iff,
    List.reverse_eq_nil_iff]
  split <;> simp

theorem trimEnd_eq_rdropWhile (sep : Char) (cs : List Char) :
    trimEnd sep cs = cs.rdropWhile (· == sep) := by
  induction cs with
  | nil => rfl
  | cons c rest ih =>
    rw [trimEnd, ih, ← List.singleton_append (x := c) (l := rest), rdropWhile_append,
      List.rdropWhile_singleton]
    cases rest.rdropWhile (· == sep) with
    | nil => simp
    | cons d kept => rfl

/-- The segments of one text still come first among those of another one when the separators at the
end of both do not count. -/
theorem segments_trimEnd {sep : Char} {xs ys : List Char}
    (h : segments sep xs <+: segments sep ys) :
    segments sep (trimEnd sep xs) <+: segments sep (trimEnd sep ys) := by
  simp only [trimEnd_eq_rdropWhile, segments_prefix_iff] at h ⊢
  rcases h with rfl | ⟨rest, rfl⟩
  · exact .inl rfl
  rw [List.append_assoc, List.singleton_append, rdropWhile_append]
  split
  · exact .inl rfl
  · rename_i hkept
    -- what is cut off from `xs` consists of separators, and what is kept after it begins with one
    have hrest : [sep] <+: (sep :: rest).rdropWhile (· == sep) := by
      obtain ⟨d, kept, heq⟩ := List.exists_cons_of_ne_nil hkept
      have hbegin := List.rdropWhile_prefix (· == sep) (l := sep :: rest)
      rw [heq, List.cons_prefix_cons] at hbegin
      rw [heq, hbegin.1]
      exact ⟨kept, rfl⟩
    have hcut : [sep] <+: xs.rtakeWhile (· == sep) ++ (sep :: rest).rdropWhile (· == sep) := by
      cases htail : xs.rtakeWhile (· == sep) with
      | nil => exact hrest
      | cons c more =>
        have hc : c ∈ xs.rtakeWhile (· == sep) := htail ▸ List.mem_cons_self
        rw [beq_iff_eq.mp (List.mem_rtakeWhile_imp (p := (· == sep)) hc)]
        exact ⟨_, rfl⟩
    right
    conv_rhs => rw [← List.rdropWhile_append_rtakeWhile (p := (· == sep)) (l := xs)]
    rw [List.append_assoc, List.prefix_append_right_inj]
    exact hcut

end Text

namespace Identity

open Text

variable {id : Identity} {path ns shorter : String}

/-! ## Places in an archive -/

/-- A simple name that is there and is not that of a descriptor. -/
def NamesType (simple : List Char) : Prop := simple ≠ [] ∧ simple ∉ descriptorNames

/-- The type that a place stands for: the ending is cut off, slashes at the start do not count, and
the others are dots. -/
theorem ofResourcePath?_eq_some_iff : ofResourcePath? path = some id ↔
    ∃ stem, path.toList = stem ++ fileEnding ∧ NamesType (lastPiece '/' stem) ∧
      id.name.toList = replaceChar '/' '.' (stem.dropWhile (· == '/')) := by
  have hname : ∀ cs : List Char, (⟨String.ofList cs⟩ : Identity) = id ↔ id.name.toList = cs := by
    obtain ⟨name⟩ := id
    intro cs
    rw [Identity.mk.injEq, ← String.toList_inj, String.toList_ofList, eq_comm]
  simp only [← stripSuffix?_eq_some_iff, ← hname]
  unfold ofResourcePath?
  cases stripSuffix? fileEnding path.toList with
  | none => simp
  | some stem =>
    simp only [Option.some.injEq, exists_eq_left']
    show (if (lastPiece '/' stem).isEmpty || descriptorNames.contains (lastPiece '/' stem)
      then none else some (⟨_⟩ : Identity)) = some id ↔ _
    simp [NamesType, ite_eq_iff]

theorem toList_resourcePath (id : Identity) :
    id.resourcePath.toList = replaceChar '.' '/' id.name.toList ++ fileEnding := by
  rw [resourcePath, String.toList_ofList]

/-- A place is that of the type that it stands for if no slash at its start has been dropped and no
dot in it becomes a slash. -/
theorem resourcePath_eq_iff (h : ofResourcePath? path = some id) : id.resourcePath = path ↔
    path.toList.head? ≠ some '/' ∧ ∃ stem, path.toList = stem ++ fileEnding ∧ '.' ∉ stem := by
  obtain ⟨stem, hpath, ⟨hsimple, _⟩, hname⟩ := ofResourcePath?_eq_some_iff.mp h
  have hback : id.resourcePath = path ↔
      replaceChar '.' '/' (stem.dropWhile (· == '/')) = stem := by
    rw [← String.toList_inj, toList_resourcePath, hpath, List.append_cancel_right_eq, hname,
      replaceChar_replaceChar]
  have hhead : path.toList.head? = stem.head? := by
    cases stem with
    | nil => exact absurd rfl hsimple
    | cons c rest => rw [hpath]; rfl
  rw [hback, hhead]
  constructor
  · intro heq
    -- nothing has been dropped, since what is left is as long as the stem
    have hwhole : stem.dropWhile (· == '/') = stem := by
      refine (List.dropWhile_suffix _).eq_of_length ?_
      have hlength := congrArg List.length heq
      rwa [replaceChar, List.length_map] at hlength
    refine ⟨dropWhile_beq_eq_self_iff.mp hwhole, stem, hpath, fun hdot => ?_⟩
    rw [← heq, mem_replaceChar] at hdot
    simp at hdot
  · rintro ⟨hstart, stem', hpath', hdot⟩
    obtain rfl : stem = stem' := List.append_cancel_right (hpath.symm.trans hpath')
    rw [dropWhile_beq_eq_self_iff.mpr hstart, replaceChar_of_not_mem hdot]

/-- A type is the one that its place stands for if no slash in its name comes back as a dot, no dot
at its start is dropped, and its simple name is that of a type. -/
theorem ofResourcePath?_resourcePath_iff : ofResourcePath? id.resourcePath = some id ↔
    '/' ∉ id.name.toList ∧ id.name.toList.head? ≠ some '.' ∧ NamesType id.simpleNameChars := by
  constructor
  · intro h
    obtain ⟨hstart, _⟩ := (resourcePath_eq_iff h).mp rfl
    obtain ⟨stem, hpath, hsimple, hname⟩ := ofResourcePath?_eq_some_iff.mp h
    rw [toList_resourcePath, List.append_cancel_right_eq] at hpath
    have hslash : '/' ∉ id.name.toList := by
      rw [hname, mem_replaceChar]
      simp
    refine ⟨hslash, fun hdot => hstart ?_, ?_⟩
    · rw [toList_resourcePath, List.head?_append,
        (head?_replaceChar_eq_some_iff hslash).mpr hdot]
      rfl
    · rwa [← hpath, lastPiece_replaceChar hslash] at hsimple
  · rintro ⟨hslash, hstart, hsimple⟩
    refine ofResourcePath?_eq_some_iff.mpr ⟨_, toList_resourcePath id, ?_, ?_⟩
    · rwa [lastPiece_replaceChar hslash]
    · have hwhole : (replaceChar '.' '/' id.name.toList).dropWhile (· == '/') =
          replaceChar '.' '/' id.name.toList :=
        dropWhile_beq_eq_self_iff.mpr fun h =>
          hstart ((head?_replaceChar_eq_some_iff hslash).mp h)
      rw [hwhole, replaceChar_replaceChar, replaceChar_of_not_mem hslash]

/-- The place of a type and the type of a place are inverse on the well-formed ones and on no
others. -/
theorem resourcePath_inverse :
    (∀ path id, ofResourcePath? path = some id →
      (id.resourcePath = path ↔ path.toList.head? ≠ some '/' ∧
        ∃ stem : String, path = stem ++ ".class" ∧ '.' ∉ stem.toList)) ∧
    ∀ name, ofResourcePath? (resourcePath ⟨name⟩) = some ⟨name⟩ ↔
      '/' ∉ name.toList ∧ name.toList.head? ≠ some '.' ∧
        simpleName ⟨name⟩ ≠ "" ∧ simpleName ⟨name⟩ ≠ "module-info" ∧
        simpleName ⟨name⟩ ≠ "package-info" := by
  refine ⟨fun path id h => ?_, fun name => ?_⟩
  · rw [resourcePath_eq_iff h]
    refine and_congr_right fun _ => ⟨?_, ?_⟩
    · rintro ⟨stem, hpath, hdot⟩
      refine ⟨String.ofList stem, ?_, by rwa [String.toList_ofList]⟩
      rw [← String.toList_inj, String.toList_append, String.toList_ofList, hpath]
      rfl
    · rintro ⟨stem, rfl, hdot⟩
      exact ⟨stem.toList, String.toList_append, hdot⟩
  · have hsimple : ∀ text : String, simpleName ⟨name⟩ = text ↔
        simpleNameChars ⟨name⟩ = text.toList := by
      intro text
      rw [simpleName, ← String.toList_inj, String.toList_ofList]
    rw [ofResourcePath?_resourcePath_iff, NamesType]
    simp only [ne_eq, hsimple, descriptorNames, List.mem_cons, List.not_mem_nil, or_false, not_or,
      String.toList_empty]

/-- Slashes that follow each other come back, also when a name is nested. -/
theorem resourcePath_inverse_nested :
    ofResourcePath? "a//B$C.class" = some ⟨"a..B$C"⟩ ∧
    resourcePath ⟨"a..B$C"⟩ = "a//B$C.class" ∧
    ofResourcePath? (resourcePath ⟨"a..B$C"⟩) = some ⟨"a..B$C"⟩ := by
  have hread : ofResourcePath? "a//B$C.class" = some ⟨"a..B$C"⟩ := by decide +kernel
  refine ⟨hread, (resourcePath_inverse.1 _ _ hread).mpr ⟨by decide +kernel, "a//B$C", ?_⟩, ?_⟩
  · decide +kernel
  · exact (resourcePath_inverse.2 _).mpr (by decide +kernel)

/-- A slash at the start and a dot in a directory are lost. -/
example : (ofResourcePath? "/a.b/C.class").map resourcePath = some "a/b/C.class" := by
  decide +kernel

/-! ## Namespaces -/

/-- The namespace is the name without its last segment. -/
theorem namespaceChars_eq (id : Identity) :
    id.namespaceChars = join ['.'] (segments '.' id.name.toList).dropLast := by
  unfold namespaceChars
  cases hsplit : splitLast? '.' id.name.toList with
  | none =>
    rw [segments_eq_singleton (splitLast?_eq_none_iff.mp hsplit)]
    rfl
  | some p =>
    obtain ⟨hname, hdot⟩ := splitLast?_eq_some hsplit
    rw [hname, segments_append, segments_eq_singleton hdot, List.dropLast_concat, join_segments]

theorem inNamespace_iff : id.inNamespace ns = true ↔
    trimEnd '.' ns.toList = [] ∨
      segments '.' (trimEnd '.' ns.toList) <+: segments '.' id.namespaceChars := by
  rw [segments_prefix_iff, eq_comm (b := id.namespaceChars), ← or_assoc]
  simp only [inNamespace, Bool.or_eq_true, List.isEmpty_iff, beq_iff_eq,
    List.isPrefixOf_iff_prefix]

theorem inNamespace_of_shorter (first : segments '.' shorter.toList <+: segments '.' ns.toList)
    (h : id.inNamespace ns = true) : id.inNamespace shorter = true := by
  have htrimmed := segments_trimEnd first
  rw [inNamespace_iff] at h ⊢
  rcases h with hempty | hown
  · rw [hempty, segments_prefix_iff] at htrimmed
    left
    simpa using htrimmed
  · exact .inr (htrimmed.trans hown)

/-- A type is in a namespace exactly if the segments of the namespace, dots at its end aside, come
first among those of its name without the last one; and then it is in every namespace whose segments
come first among those of this one. -/
theorem inNamespace_iff_segments (id : Identity) (ns : String) :
    (id.inNamespace ns = true ↔
      ns.toList.rdropWhile (· == '.') = [] ∨
        segments '.' (ns.toList.rdropWhile (· == '.')) <+:
          segments '.' id.namespaceName.toList) ∧
    id.namespaceName.toList = join ['.'] (segments '.' id.name.toList).dropLast ∧
    ∀ shorter : String, segments '.' shorter.toList <+: segments '.' ns.toList →
      id.inNamespace ns = true → id.inNamespace shorter = true := by
  rw [namespaceName, String.toList_ofList, ← trimEnd_eq_rdropWhile]
  exact ⟨inNamespace_iff, namespaceChars_eq id, fun _ => inNamespace_of_shorter⟩

/-- A namespace asked for with dots at its end, and the one above it. -/
theorem inNamespace_iff_segments_audio :
    segments '.' "com.acme".toList <+: segments '.' "com.acme.plugins..".toList ∧
    inNamespace ⟨"com.acme.plugins.Audio"⟩ "com.acme.plugins.." = true ∧
    inNamespace ⟨"com.acme.plugins.Audio"⟩ "com.acme" = true := by
  have above : segments '.' "com.acme".toList <+: segments '.' "com.acme.plugins..".toList := by
    decide +kernel
  obtain ⟨within, -, wider⟩ :=
    inNamespace_iff_segments ⟨"com.acme.plugins.Audio"⟩ "com.acme.plugins.."
  have inside := within.mpr (.inr (by decide +kernel))
  exact ⟨above, inside, wider _ above inside⟩

/-- A segment that only begins alike is another one. -/
example : inNamespace ⟨"com.acmeX.Audio"⟩ "com.acme" = false := by decide +kernel

end Identity

end TypeDiscovery
