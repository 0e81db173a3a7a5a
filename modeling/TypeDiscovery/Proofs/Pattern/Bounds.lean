import TypeDiscovery.Pattern.Engine
import TypeDiscovery.Proofs.Pattern.Matching

/-!
# Bounds of repetitions

A counted repetition is read only if it asks for no more than it allows. So every expression that
a text denotes is one whose matches the matcher finds (`Expr.isMatch_iff_of_ofText?`).
-/

namespace TypeDiscovery.Pattern

/-! ## Trees -/

mutual

/-- No repetition in a tree asks for more than it allows. -/
def Tree.Bounded : Tree → Prop
  | .repeated least most item => (∀ m, most = some m → least ≤ m) ∧ item.Bounded
  | .group _ _ body => body.Bounded
  | .alternatives branches => Tree.AllBounded branches
  | .sequence items => Tree.AllBounded items
  | .empty | .flags _ | .primitive _ | .bracketed .. => True

def Tree.AllBounded : List Tree → Prop
  | [] => True
  | item :: rest => item.Bounded ∧ Tree.AllBounded rest

end

theorem Tree.allBounded_iff {trees : List Tree} :
    Tree.AllBounded trees ↔ ∀ t ∈ trees, t.Bounded := by
  induction trees with
  | nil => simp [Tree.AllBounded]
  | cons t rest ih => simp [Tree.AllBounded, ih]

theorem Tree.bounded_ofSequence {items : List Tree} (h : ∀ t ∈ items, t.Bounded) :
    (Tree.ofSequence items).Bounded := by
  match items with
  | [] => trivial
  | [item] => exact h item (List.mem_singleton.mpr rfl)
  | _ :: _ :: _ => exact Tree.allBounded_iff.mpr h

theorem Tree.bounded_ofBranches {branches : List Tree} (h : ∀ t ∈ branches, t.Bounded) :
    (Tree.ofBranches branches).Bounded := by
  match branches with
  | [] => trivial
  | [branch] => exact h branch (List.mem_singleton.mpr rfl)
  | _ :: _ :: _ => exact Tree.allBounded_iff.mpr h

namespace Expr

variable [UnicodeTables]

theorem ofPrimitive?_bounded {flags : Flags} {p : Primitive} {e : Expr}
    (h : ofPrimitive? flags p = some e) : e.Bounded := by
  cases p with
  | literal c byte =>
    simp only [ofPrimitive?] at h
    split at h
    · cases h
    · cases h
      trivial
  | dot =>
    simp only [ofPrimitive?] at h
    split at h
    · cases h
      trivial
    · cases h
  | assertion a =>
    cases h
    trivial
  | letterClass k negated =>
    obtain ⟨p, -, rfl⟩ := Option.map_eq_some_iff.mp h
    trivial
  | property q negated =>
    obtain ⟨p, -, rfl⟩ := Option.map_eq_some_iff.mp h
    trivial

mutual

/-- The meaning of a tree keeps the bounds of its repetitions. -/
theorem ofTree?_bounded {flags flags' : Flags} {t : Tree} {e : Expr}
    (h : ofTree? flags t = some (e, flags')) (bounded : t.Bounded) : e.Bounded := by
  match t with
  | .empty | .flags _ =>
    cases h
    trivial
  | .primitive p =>
    obtain ⟨f, hf, h⟩ := Option.map_eq_some_iff.mp h
    cases h
    exact ofPrimitive?_bounded hf
  | .bracketed negated body =>
    simp only [ofTree?, Option.bind_eq_bind, Option.bind_eq_some_iff] at h
    obtain ⟨p, -, q, -, h⟩ := h
    cases h
    trivial
  | .repeated least most item =>
    simp only [ofTree?, Option.bind_eq_bind, Option.bind_eq_some_iff] at h
    obtain ⟨⟨f, after⟩, hitem, h⟩ := h
    cases h
    exact ⟨bounded.1, ofTree?_bounded hitem bounded.2⟩
  | .group g captures body =>
    simp only [ofTree?, Option.bind_eq_bind, Option.bind_eq_some_iff] at h
    obtain ⟨⟨f, after⟩, hbody, h⟩ := h
    cases h
    exact ofTree?_bounded hbody bounded
  | .alternatives branches => exact ofBranches?_bounded h bounded
  | .sequence items => exact ofSequence?_bounded h bounded

theorem ofSequence?_bounded {flags flags' : Flags} {items : List Tree} {e : Expr}
    (h : ofSequence? flags items = some (e, flags')) (bounded : Tree.AllBounded items) :
    e.Bounded := by
  match items with
  | [] =>
    cases h
    trivial
  | item :: rest =>
    simp only [ofSequence?, Option.bind_eq_bind, Option.bind_eq_some_iff] at h
    obtain ⟨⟨f, after⟩, hitem, ⟨g, last⟩, hrest, h⟩ := h
    cases h
    exact ⟨ofTree?_bounded hitem bounded.1, ofSequence?_bounded hrest bounded.2⟩

theorem ofBranches?_bounded {flags flags' : Flags} {branches : List Tree} {e : Expr}
    (h : ofBranches? flags branches = some (e, flags')) (bounded : Tree.AllBounded branches) :
    e.Bounded := by
  match branches with
  | [] =>
    cases h
    trivial
  | [branch] => exact ofTree?_bounded h bounded.1
  | branch :: next :: rest =>
    simp only [ofBranches?, Option.bind_eq_bind, Option.bind_eq_some_iff] at h
    obtain ⟨⟨f, after⟩, hbranch, ⟨g, last⟩, hrest, h⟩ := h
    cases h
    exact ⟨ofTree?_bounded hbranch bounded.1, ofBranches?_bounded hrest bounded.2⟩

end

end Expr

/-! ## Reading -/

theorem ClassReading.leave?_bounded {r : ClassReading} {tree : Tree} {cs rest : List Char}
    (h : r.leave? cs = some (.done tree rest)) : tree.Bounded := by
  simp only [leave?] at h
  split at h
  · cases h
    trivial
  · cases h
  · cases h

theorem ClassReading.step?_bounded {verbose : Bool} {r : ClassReading} {tree : Tree}
    {rest : List Char} (h : r.step? verbose = some (.done tree rest)) : tree.Bounded := by
  unfold step? at h
  split at h
  case h_1 => cases h
  case h_2 =>
    split at h
    · cases h
    · obtain ⟨s, -, h⟩ := Option.map_eq_some_iff.mp h
      cases h
  case h_3 => exact leave?_bounded h
  case h_4 | h_5 | h_6 => cases h
  case h_7 =>
    obtain ⟨⟨item, after⟩, -, h⟩ := Option.bind_eq_some_iff.mp h
    cases h

theorem bracketed?_bounded {verbose : Bool} {tree : Tree} {cs rest : List Char}
    (h : bracketed? verbose cs = some (tree, rest)) : tree.Bounded := by
  have hrun : ∀ fuel r, ClassReading.run? verbose fuel r = some (tree, rest) → tree.Bounded := by
    intro fuel
    induction fuel with
    | zero => exact fun r h => nomatch h
    | succ fuel ih =>
      intro r h
      rw [ClassReading.run?] at h
      split at h
      · cases h
      · rename_i hstep
        cases h
        exact ClassReading.step?_bounded hstep
      · exact ih _ h
  obtain ⟨start, -, h⟩ := Option.bind_eq_some_iff.mp h
  exact hrun _ _ h

/-- The trees before what is left open have bounds. -/
def OpenTree.Bounded : OpenTree → Prop
  | .group before .. => ∀ t ∈ before, t.Bounded
  | .choice branches => ∀ t ∈ branches, t.Bounded

namespace Reading

/-- The trees read so far have bounds. -/
structure Bounded (r : Reading) : Prop where
  items : ∀ t ∈ r.items, t.Bounded
  pending : ∀ o ∈ r.pending, o.Bounded

namespace Bounded

variable {r s : Reading} {rest : List Char}

theorem withItem (bounded : r.Bounded) {item : Tree} (h : item.Bounded) (rest : List Char) :
    (r.withItem item rest).Bounded where
  items := List.forall_mem_cons.mpr ⟨h, bounded.items⟩
  pending := bounded.pending

theorem withPrimitive (bounded : r.Bounded) (p : Primitive) (rest : List Char) :
    (r.withItem (.primitive p) rest).Bounded := by
  have hitem : (Tree.primitive p).Bounded := trivial
  exact bounded.withItem hitem rest

theorem openGroup (bounded : r.Bounded) (g : FlagGroup) (captures : Bool) (rest : List Char) :
    (r.openGroup g captures rest).Bounded where
  items := List.forall_mem_nil _
  pending := List.forall_mem_cons.mpr ⟨bounded.items, bounded.pending⟩

theorem namedGroup? (bounded : r.Bounded) (h : r.namedGroup? rest = some s) : s.Bounded := by
  simp only [Reading.namedGroup?] at h
  split at h
  · split at h
    · cases h
      have hopen := bounded.openGroup .none true rest
      exact ⟨hopen.items, hopen.pending⟩
    · cases h
  · cases h

theorem group? (bounded : r.Bounded) (h : r.group? rest = some s) : s.Bounded := by
  unfold Reading.group? at h
  split at h
  case h_1 | h_2 | h_3 | h_4 => cases h
  case h_5 | h_6 => exact bounded.namedGroup? h
  case h_7 =>
    split at h
    · cases h
    · cases h
      exact bounded.openGroup _ _ _
    · rename_i g _ after _ _
      split at h
      · cases h
      · cases h
        have hitem : (Tree.flags g).Bounded := trivial
        have hflags := bounded.withItem hitem after
        exact ⟨hflags.items, hflags.pending⟩
  case h_8 =>
    cases h
    exact bounded.openGroup _ _ _

theorem branch (bounded : r.Bounded) : (Tree.ofSequence r.items.reverse).Bounded :=
  Tree.bounded_ofSequence fun t ht => bounded.items t (List.mem_reverse.mp ht)

theorem closeBranch (bounded : r.Bounded) :
    r.closeBranch.1.Bounded ∧ ∀ o ∈ r.closeBranch.2, o.Bounded := by
  have hpending := bounded.pending
  simp only [Reading.closeBranch]
  split
  · rename_i branches pending heq
    rw [heq] at hpending
    obtain ⟨hbranches, hpending⟩ := List.forall_mem_cons.mp hpending
    have hall := List.forall_mem_cons.mpr ⟨bounded.branch, hbranches⟩
    exact ⟨Tree.bounded_ofBranches fun t ht => hall t (List.mem_reverse.mp ht), hpending⟩
  · exact ⟨bounded.branch, hpending⟩

theorem nextBranch (bounded : r.Bounded) (rest : List Char) : (r.nextBranch rest).Bounded := by
  have hpending := bounded.pending
  simp only [Reading.nextBranch]
  split
  · rename_i branches pending heq
    rw [heq] at hpending
    obtain ⟨hbranches, hpending⟩ := List.forall_mem_cons.mp hpending
    have hall := List.forall_mem_cons.mpr ⟨bounded.branch, hbranches⟩
    exact ⟨List.forall_mem_nil _, List.forall_mem_cons.mpr ⟨hall, hpending⟩⟩
  · have hall : ∀ t ∈ [Tree.ofSequence r.items.reverse], t.Bounded :=
      List.forall_mem_singleton.mpr bounded.branch
    exact ⟨List.forall_mem_nil _, List.forall_mem_cons.mpr ⟨hall, hpending⟩⟩

theorem closeGroup? (bounded : r.Bounded) (h : r.closeGroup? rest = some s) : s.Bounded := by
  obtain ⟨hbody, hpending⟩ := bounded.closeBranch
  simp only [Reading.closeGroup?] at h
  split at h
  · rename_i before verbose g captures pending hclose
    cases h
    rw [hclose] at hpending
    obtain ⟨hbefore, hpending⟩ := List.forall_mem_cons.mp hpending
    exact ⟨List.forall_mem_cons.mpr ⟨hbody, hbefore⟩, hpending⟩
  · cases h

theorem repeated? (bounded : r.Bounded) {least : Nat} {most : Option Nat}
    (hmost : ∀ m, most = some m → least ≤ m) (h : r.repeated? least most rest = some s) :
    s.Bounded := by
  unfold Reading.repeated? at h
  split at h
  · rename_i item before hitems
    split at h
    · cases h
      have hall := bounded.items
      rw [hitems] at hall
      obtain ⟨hitem, hbefore⟩ := List.forall_mem_cons.mp hall
      exact ⟨List.forall_mem_cons.mpr ⟨⟨hmost, hitem⟩, hbefore⟩, bounded.pending⟩
    · cases h
  · cases h

end Bounded

theorem bounds?_le {verbose : Bool} {cs rest : List Char} {least : Nat} {most : Option Nat}
    (h : bounds? verbose cs = some (least, most, rest)) (m : Nat) (hm : most = some m) :
    least ≤ m := by
  simp only [bounds?, Option.bind_eq_bind, Option.bind_eq_some_iff] at h
  obtain ⟨⟨first, own⟩, -, h⟩ := h
  simp only at h
  split at h
  · cases h
    cases hm
    exact Nat.le_refl _
  · split at h
    · cases h
      cases hm
    · obtain ⟨⟨second, after⟩, -, h⟩ := Option.bind_eq_some_iff.mp h
      simp only at h
      split at h
      · obtain ⟨⟨⟩, hguard, h⟩ := Option.bind_eq_some_iff.mp h
        cases h
        cases hm
        simpa [guard] using hguard
      · cases h
  · cases h

theorem Bounded.step? {r s : Reading} {c : Char} {rest : List Char} (bounded : r.Bounded)
    (h : r.step? c rest = some s) : s.Bounded := by
  unfold Reading.step? at h
  split at h
  case h_1 => exact bounded.group? h
  case h_2 => exact bounded.closeGroup? h
  case h_3 =>
    cases h
    exact bounded.nextBranch rest
  case h_4 =>
    obtain ⟨⟨tree, own⟩, hclass, h⟩ := Option.map_eq_some_iff.mp h
    cases h
    exact bounded.withItem (bracketed?_bounded hclass) own
  case h_5 => exact bounded.repeated? (by simp) h
  case h_6 | h_7 => exact bounded.repeated? (by simp) h
  case h_8 =>
    obtain ⟨⟨least, most, own⟩, hbounds, h⟩ := Option.bind_eq_some_iff.mp h
    exact bounded.repeated? (bounds?_le hbounds) h
  case h_9 =>
    obtain ⟨⟨p, own⟩, hescape, h⟩ := Option.map_eq_some_iff.mp h
    cases h
    exact bounded.withPrimitive p own
  all_goals
    cases h
    exact bounded.withPrimitive _ rest

theorem Bounded.run? {fuel : Nat} {r : Reading} {tree : Tree} (bounded : r.Bounded)
    (h : run? fuel r = some tree) : tree.Bounded := by
  induction fuel generalizing r with
  | zero => cases h
  | succ fuel ih =>
    rw [Reading.run?] at h
    split at h
    · have hbody := bounded.closeBranch.1
      unfold finish? at h
      split at h
      · rename_i hclose
        cases h
        rw [hclose] at hbody
        exact hbody
      · cases h
    · obtain ⟨s, hstep, h⟩ := Option.bind_eq_some_iff.mp h
      exact ih (bounded.step? hstep) h

end Reading

theorem Tree.ofText?_bounded {text : List Char} {tree : Tree} (h : Tree.ofText? text = some tree) :
    tree.Bounded := by
  obtain ⟨t, hrun, h⟩ := Option.bind_eq_some_iff.mp h
  obtain ⟨-, -, h⟩ := Option.bind_eq_some_iff.mp h
  cases h
  have hstart : (Reading.start text).Bounded :=
    ⟨List.forall_mem_nil _, List.forall_mem_nil _⟩
  exact hstart.run? hrun

/-- What a text denotes has bounds. -/
theorem Expr.ofText?_bounded [UnicodeTables] {text : List Char} {e : Expr}
    (h : ofText? text = some e) : e.Bounded := by
  obtain ⟨tree, htree, h⟩ := Option.bind_eq_some_iff.mp h
  obtain ⟨⟨f, flags⟩, hf, h⟩ := Option.bind_eq_some_iff.mp h
  cases h
  exact ofTree?_bounded hf (Tree.ofText?_bounded htree)

/-- The matcher finds a match of what a text denotes if it spans some stretch of the subject. -/
theorem Expr.isMatch_iff_of_ofText? [UnicodeTables] {text subject : List Char} {e : Expr}
    (h : ofText? text = some e) : e.isMatch subject = true ↔ ∃ i j, e.Spans subject i j :=
  isMatch_iff (ofText?_bounded h)

end TypeDiscovery.Pattern
