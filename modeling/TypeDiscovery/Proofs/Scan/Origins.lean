import TypeDiscovery.Proofs.Scan.Report

/-!
# Where opened locations come from

A scan opens an identity at the location of a candidate, or where the scope locates an ancestor that
is admitted and named in a record read before (`Rightful`). Nothing is asked of the scope, which may
locate an identity elsewhere than it lists it, nor of the cache at the start. If the candidates are
those that the patterns of the scan select, every location opened is therefore one at which a
pattern finds a match (`opened_of_candidates`).
-/

namespace TypeDiscovery

namespace Scan

/-- An identity named in a record among those read. -/
def NamedIn (s : Scan) (opened : List (Identity × Location)) (a : Identity) : Prop :=
  ∃ x l r, (x, l) ∈ opened ∧ s.outcome l = .done r ∧ a.name ∈ r.ancestors

/-- A place at which a scan may open an identity after it has opened others. -/
def Rightful (s : Scan) (cs : List Candidate) (opened : List (Identity × Location))
    (x : Identity) (l : Location) : Prop :=
  x.name ≠ s.reader.root ∧
    (⟨x, l⟩ ∈ cs ∨ s.scope.locate x = some l ∧ s.Admitted l ∧ s.NamedIn opened x)

/-- Whatever was opened might be opened after what came before it. -/
def OpensRightfully (s : Scan) (cs : List Candidate) (opened : List (Identity × Location)) : Prop :=
  ∀ before x l after, opened = before ++ (x, l) :: after → s.Rightful cs before x l

variable {s : Scan} {cs : List Candidate} {opened : List (Identity × Location)}
  {x a : Identity} {l : Location}

theorem NamedIn.mono (h : s.NamedIn opened a) (more : List (Identity × Location)) :
    s.NamedIn (opened ++ more) a := by
  obtain ⟨x, l, r, hx, hr, hname⟩ := h
  exact ⟨x, l, r, List.mem_append_left more hx, hr, hname⟩

theorem Rightful.mono (h : s.Rightful cs opened x l) (more : List (Identity × Location)) :
    s.Rightful cs (opened ++ more) x l := by
  refine ⟨h.1, h.2.imp_right ?_⟩
  rintro ⟨located, admitted, named⟩
  exact ⟨located, admitted, named.mono more⟩

theorem namedIn_of_mem_named (h : a ∈ named (s.outcome l)) :
    s.NamedIn (opened ++ [(x, l)]) a := by
  obtain ⟨r, hr, hname⟩ := mem_named.mp h
  exact ⟨x, l, r, by simp, hr, hname⟩

theorem OpensRightfully.concat (opens : s.OpensRightfully cs opened)
    (next : s.Rightful cs opened x l) : s.OpensRightfully cs (opened ++ [(x, l)]) := by
  intro before y m after hsplit
  rcases List.eq_nil_or_concat after with rfl | ⟨after, last, rfl⟩
  · obtain ⟨rfl, hlast⟩ := List.append_inj' hsplit rfl
    cases hlast
    exact next
  · refine opens before y m after ?_
    rw [List.concat_eq_append, ← List.cons_append, ← List.append_assoc] at hsplit
    exact (List.append_inj' hsplit rfl).1

end Scan

namespace WorkItem

open Scan

/-- An item works on identities that it may open. -/
def Vouched (s : Scan) (cs : List Candidate) (opened : List (Identity × Location)) :
    WorkItem → Prop
  | waiting c => c ∈ cs
  | locating id _ => id.name ≠ s.reader.root
  | claiming id l _ | reading id l _ => s.Rightful cs opened id l
  | _ => True

variable {s : Scan} {cs : List Candidate} {opened : List (Identity × Location)}
  {sh sh' : Shared} {item item' : WorkItem}

theorem Vouched.mono (h : item.Vouched s cs opened) (more : List (Identity × Location)) :
    item.Vouched s cs (opened ++ more) := by
  cases item with
  | claiming | reading => exact Rightful.mono h more
  | _ => exact h

theorem Move.named (move : Move s sh item sh' item')
    (named : ∀ a ∈ item.todo, s.NamedIn opened a) :
    ∀ a ∈ item'.todo, s.NamedIn (opened ++ item.opens) a := by
  intro a ha
  rcases move.mem_todo ha with hold | ⟨id, l, stack, rfl, hnew⟩
  · exact (named a hold).mono item.opens
  · exact namedIn_of_mem_named hnew

theorem Move.vouched (move : Move s sh item sh' item') (vouched : item.Vouched s cs opened)
    (named : ∀ a ∈ item.todo, s.NamedIn opened a) : item'.Vouched s cs (opened ++ item.opens) := by
  refine Vouched.mono ?_ item.opens
  cases move with
  | begin notRoot => exact ⟨notRoot, .inl vouched⟩
  | look notRoot => exact notRoot
  | enter located admitted =>
    exact ⟨vouched, .inr ⟨located, admitted, named _ List.mem_cons_self⟩⟩
  | claim => exact vouched
  | _ => trivial

end WorkItem

namespace Pool

open Scan WorkItem

/-- Names on the stacks stand in records read, and whatever is or was opened is opened
rightfully. -/
structure Warranted (s : Scan) (cs : List Candidate) (opened : List (Identity × Location))
    (p : Pool) : Prop where
  named : ∀ item ∈ p.items, ∀ a ∈ item.todo, s.NamedIn opened a
  vouched : ∀ item ∈ p.items, item.Vouched s cs opened
  opens : s.OpensRightfully cs opened

variable {s : Scan} {c : Cache} {cs : List Candidate} {opened : List (Identity × Location)}
  {p : Pool} {sh sh' : Shared} {item item' : WorkItem} {rest : Multiset WorkItem}

theorem Warranted.step (next : item.step s sh = some (sh', item'))
    (warranted : Warranted s cs opened ⟨sh, item ::ₘ rest⟩) :
    Warranted s cs (opened ++ item.opens) ⟨sh', item' ::ₘ rest⟩ := by
  have move := move_of_step next
  have named := warranted.named item (Multiset.mem_cons_self item rest)
  have vouched := warranted.vouched item (Multiset.mem_cons_self item rest)
  refine ⟨?_, ?_, ?_⟩
  · intro other hother
    rcases Multiset.mem_cons.mp hother with rfl | hmem
    · exact move.named named
    · intro a ha
      exact (warranted.named other (Multiset.mem_cons_of_mem hmem) a ha).mono item.opens
  · intro other hother
    rcases Multiset.mem_cons.mp hother with rfl | hmem
    · exact move.vouched vouched named
    · exact (warranted.vouched other (Multiset.mem_cons_of_mem hmem)).mono item.opens
  · cases item with
    | reading => exact warranted.opens.concat vouched
    | _ =>
      show s.OpensRightfully cs (opened ++ [])
      rw [List.append_nil]
      exact warranted.opens

theorem warranted_start (s : Scan) (c : Cache) (cs : List Candidate) :
    Warranted s cs [] (startOn c cs) := by
  have waiting : ∀ item ∈ (startOn c cs).items, ∃ d ∈ cs, .waiting d = item := by
    intro item hitem
    exact List.mem_map.mp (Multiset.mem_coe.mp hitem)
  refine ⟨?_, ?_, by simp [OpensRightfully]⟩
  · intro item hitem a ha
    obtain ⟨d, _, rfl⟩ := waiting item hitem
    cases ha
  · intro item hitem
    obtain ⟨d, hd, rfl⟩ := waiting item hitem
    exact hd

/-- Every run opens rightfully, also one that has not come to its end. -/
theorem opensRightfully_of_run (run : Run s (startOn c cs) opened p) :
    s.OpensRightfully cs opened :=
  (run.keeps (fun _ _ _ _ _ _ next warranted => warranted.step next)
    (warranted_start s c cs)).opens

end Pool

/-! ## Scans with a filter -/

namespace Scan

open Pool

variable {s : Scan}

/-- A location at which a pattern of the scan finds a match, for a candidate there or for an
ancestor located there whose name stands in a record read before. -/
structure Justified (s : Scan) (cs : List Candidate) (before : List (Identity × Location))
    (x : Identity) (l : Location) : Prop where
  matched : ∃ p ∈ s.patterns, p.isMatch l.matchTarget .find = true
  notRoot : x.name ≠ s.reader.root
  origin : ⟨x, l⟩ ∈ cs ∨ s.scope.locate x = some l ∧
    ∃ y m r, (y, m) ∈ before ∧ s.outcome m = .done r ∧ x.name ∈ r.ancestors

theorem Rightful.justified {cs : List Candidate} {before : List (Identity × Location)}
    {x : Identity} {l : Location} (h : s.Rightful cs before x l)
    (filters : s.filterAncestors = true) (hasPattern : s.patterns ≠ [])
    (admitted : ∀ c ∈ cs, s.Admitted c.location) : s.Justified cs before x l := by
  have matched : s.Admitted l → ∃ p ∈ s.patterns, p.isMatch l.matchTarget .find = true := by
    rintro (off | none | matched)
    · rw [filters] at off
      cases off
    · exact absurd none hasPattern
    · exact matched
  obtain ⟨notRoot, candidate | ⟨located, hadmitted, named⟩⟩ := h
  · have hadmitted : s.Admitted l := admitted ⟨x, l⟩ candidate
    exact ⟨matched hadmitted, notRoot, .inl candidate⟩
  · exact ⟨matched hadmitted, notRoot, .inr ⟨located, named⟩⟩

/-- A scan that filters ancestors by some patterns, from the candidates that the same patterns
select, opens no location that they reject, in whatever order its work items take their steps. What
it opens is a candidate where it is listed, or an ancestor where it is located, named in a record
read before; and the root is never opened. The locations that the sequential scan opens are those
in its trace. -/
theorem opened_of_candidates {s : Scan} {sel : Selection} {cs : List Candidate}
    (filters : s.filterAncestors = true) (hasPattern : s.patterns ≠ [])
    (patterns : sel.patterns = s.patterns) (listed : s.scope.candidates sel = .ok cs) (c : Cache) :
    (∀ opened p, Run s (startOn c cs) opened p →
      ∀ before x l after, opened = before ++ (x, l) :: after → s.Justified cs before x l) ∧
    ∀ t, ∃ opened, (s.run cs (.start c t)).trace.opened = t.opened ++ opened.map (·.2) ∧
      ∀ before x l after, opened = before ++ (x, l) :: after → s.Justified cs before x l := by
  have justified : ∀ opened p, Run s (startOn c cs) opened p →
      ∀ before x l after, opened = before ++ (x, l) :: after → s.Justified cs before x l := by
    intro opened p run before x l after hsplit
    exact (opensRightfully_of_run run before x l after hsplit).justified filters hasPattern
      (admitted_of_candidates patterns listed)
  refine ⟨justified, fun t => ?_⟩
  obtain ⟨opened, q, run, _, _, _, htrace⟩ := exists_run s c cs t
  exact ⟨opened, htrace, justified opened q run⟩

/-- The knot with a filter, in a scope that locates the second artifact elsewhere than it lists
it. -/
def movedKnot : Scan where
  scope :=
    { knot.scope with
      locate := fun id =>
        if id.name = "b.B" then some (.memory "m.B")
        else if id.name ∈ ["a.A", "c.C"] then some (.memory id.name) else none
      fetch := fun
        | .memory "a.A" => .done [0]
        | .memory "m.B" => .done [1]
        | _ => .failed "absent"
      mem_visible := by
        rintro ⟨name⟩ h
        by_cases hb : name = "b.B"
        · simp [hb, knot]
        · simpa [hb, knot] using h }
  reader := knot.reader
  patterns := (Pattern.compile? "[AB]").toList
  filterAncestors := true

/-- The second artifact is opened where it is located, since the record of the first one names it,
and the third one, which is located at a rejected place, is not opened. -/
theorem opened_of_candidates_movedKnot :
    movedKnot.filterAncestors = true ∧ movedKnot.patterns ≠ [] ∧
    movedKnot.scope.candidates ⟨false, [], movedKnot.patterns⟩ = .ok filteredCandidates ∧
    (movedKnot.run filteredCandidates (.start .empty #[])).trace.opened =
      [.memory "a.A", .memory "m.B"] ∧
    ∃ opened, opened.map (·.2) = [.memory "a.A", .memory "m.B"] ∧
      ∀ before x l after, opened = before ++ (x, l) :: after →
        movedKnot.Justified filteredCandidates before x l := by
  have hasPattern : movedKnot.patterns ≠ [] := by
    have hlength : movedKnot.patterns.length = 1 := by decide +kernel
    rw [← List.length_pos_iff, hlength]
    exact Nat.one_pos
  have listed : movedKnot.scope.candidates ⟨false, [], movedKnot.patterns⟩ =
      .ok filteredCandidates := by decide +kernel
  have trace : (movedKnot.run filteredCandidates (.start .empty #[])).trace.opened =
      [.memory "a.A", .memory "m.B"] := by
    have evaluated : (filteredCandidates.foldlM (movedKnot.scanWithin 9) (.start .empty #[])).map
        (·.trace.opened) = some [.memory "a.A", .memory "m.B"] := by
      decide +kernel
    obtain ⟨done, hdone, hopened⟩ := Option.map_eq_some_iff.mp evaluated
    rw [run_of_within hdone]
    exact Trace.opened_note.trans hopened
  obtain ⟨opened, hopened, justified⟩ :=
    (opened_of_candidates rfl hasPattern rfl listed .empty).2 #[]
  refine ⟨rfl, hasPattern, listed, trace, opened, ?_, justified⟩
  have hempty : Trace.opened #[] = [] := rfl
  rw [trace, hempty, List.nil_append] at hopened
  exact hopened.symm

end Scan

end TypeDiscovery
