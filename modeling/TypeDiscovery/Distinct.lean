/-!
# Lists without repeats

A list that is only ever extended by `addNew` keeps the order in which its elements first came.
`firsts` drops the later repetitions from a list, and `insertOrdered` builds an ordered set in
which the first of several equal elements is kept.
-/

namespace TypeDiscovery.Distinct

variable {α : Type}

/-- The list with an element appended unless it is there already. -/
def addNew [DecidableEq α] (xs : List α) (x : α) : List α := if x ∈ xs then xs else xs ++ [x]

theorem mem_addNew [DecidableEq α] {xs : List α} {x y : α} :
    y ∈ addNew xs x ↔ y ∈ xs ∨ y = x := by
  unfold addNew
  split
  · rename_i h
    exact ⟨Or.inl, fun hy => hy.elim id (fun e => e ▸ h)⟩
  · simp

theorem mem_foldl_addNew [DecidableEq α] {xs ys : List α} {y : α} :
    y ∈ ys.foldl addNew xs ↔ y ∈ xs ∨ y ∈ ys := by
  induction ys generalizing xs with
  | nil => simp
  | cons z rest ih => rw [List.foldl_cons, ih, mem_addNew, List.mem_cons, or_assoc]

/-- The elements that are not the same as an earlier one. -/
def firsts (same : α → α → Bool) (xs : List α) : List α :=
  go [] xs
where
  /-- `kept` holds the elements kept so far, the last one first. -/
  go (kept : List α) : List α → List α
    | [] => kept.reverse
    | x :: rest => if kept.any (same · x) then go kept rest else go (x :: kept) rest

section firsts

variable {κ : Type} [BEq κ] [LawfulBEq κ] (key : α → κ)

theorem go_eq (kept xs : List α) :
    firsts.go (fun a b => key a == key b) kept xs =
      kept.reverse ++ (firsts (fun a b => key a == key b) xs).filter
        fun x => !kept.any (key · == key x) := by
  unfold firsts
  induction xs generalizing kept with
  | nil => simp [firsts.go]
  | cons x rest ih =>
    have hsingle : firsts.go (fun a b => key a == key b) [] (x :: rest) =
        x :: (firsts.go (fun a b => key a == key b) [] rest).filter fun y => !(key x == key y) := by
      have hgo := ih [x]
      simpa [firsts.go] using hgo
    rw [firsts.go, hsingle]
    by_cases hx : kept.any (key · == key x) = true
    · -- what is the same as `x` is the same as what was kept for `x`
      have hsame : ∀ y, (!kept.any (key · == key y)) = true → (!(key x == key y)) = true := by
        intro y hy
        obtain ⟨k, hk, hkx⟩ := List.any_eq_true.mp hx
        simp only [Bool.not_eq_true', List.any_eq_false, beq_iff_eq, beq_eq_false_iff_ne] at hy ⊢
        intro hxy
        exact hy k hk ((beq_iff_eq.mp hkx).trans hxy)
      rw [if_pos hx, ih kept, List.filter_cons_of_neg (by simp [hx]), List.filter_filter]
      congr 1
      refine List.filter_congr fun y _ => ?_
      rw [Bool.eq_iff_iff, Bool.and_eq_true]
      exact ⟨fun hy => ⟨hy, hsame y hy⟩, And.left⟩
    · rw [if_neg hx, ih (x :: kept), List.filter_cons_of_pos (by simpa using hx),
        List.filter_filter, List.reverse_cons, List.append_assoc, List.singleton_append]
      congr 2
      refine List.filter_congr fun y _ => ?_
      rw [List.any_cons, Bool.not_or, Bool.and_comm]

/-- The first element is kept, and after it what is not the same. -/
theorem firsts_cons (x : α) (rest : List α) :
    firsts (fun a b => key a == key b) (x :: rest) =
      x :: (firsts (fun a b => key a == key b) rest).filter fun y => !(key x == key y) := by
  have hgo := go_eq key [x] rest
  simpa [firsts, firsts.go] using hgo

/-- Elements that come later change nothing about what is kept of the earlier ones. -/
theorem firsts_prefix_append (xs ys : List α) :
    firsts (fun a b => key a == key b) xs <+: firsts (fun a b => key a == key b) (xs ++ ys) := by
  induction xs with
  | nil => exact List.nil_prefix
  | cons x rest ih =>
    rw [List.cons_append, firsts_cons, firsts_cons, List.prefix_cons_inj]
    exact ih.filter _

theorem nodup_firsts (xs : List α) :
    ((firsts (fun a b => key a == key b) xs).map key).Nodup := by
  induction xs with
  | nil => exact List.nodup_nil
  | cons x rest ih =>
    rw [firsts_cons, List.map_cons, List.nodup_cons]
    refine ⟨?_, ih.sublist ((List.filter_sublist).map key)⟩
    intro hmem
    obtain ⟨y, hy, hsame⟩ := List.mem_map.mp hmem
    have hne := (List.mem_filter.mp hy).2
    simp [hsame] at hne

theorem firsts_eq_self {xs : List α} (h : (xs.map key).Nodup) :
    firsts (fun a b => key a == key b) xs = xs := by
  induction xs with
  | nil => rfl
  | cons x rest ih =>
    obtain ⟨hnew, hrest⟩ := List.nodup_cons.mp h
    rw [firsts_cons, ih hrest, List.filter_eq_self.mpr]
    intro y hy
    rw [Bool.not_eq_true', beq_eq_false_iff_ne]
    exact fun hxy => hnew (List.mem_map.mpr ⟨y, hy, hxy.symm⟩)

/-- What is kept has no element of its kind before it. -/
theorem mem_firsts_iff {xs : List α} {x : α} :
    x ∈ firsts (fun a b => key a == key b) xs ↔
      ∃ before rest, xs = before ++ x :: rest ∧ ∀ y ∈ before, key y ≠ key x := by
  induction xs with
  | nil => simp [firsts, firsts.go]
  | cons y rest ih =>
    rw [firsts_cons, List.mem_cons, List.mem_filter, ih]
    constructor
    · rintro (rfl | ⟨⟨before, later, rfl, hbefore⟩, hne⟩)
      · exact ⟨[], rest, rfl, fun _ h => absurd h List.not_mem_nil⟩
      · refine ⟨y :: before, later, rfl, ?_⟩
        intro z hz
        rcases List.mem_cons.mp hz with rfl | hz
        · simpa using hne
        · exact hbefore z hz
    · rintro ⟨before, later, heq, hbefore⟩
      cases before with
      | nil =>
        obtain ⟨rfl, rfl⟩ := List.cons.inj heq
        exact .inl rfl
      | cons z before =>
        obtain ⟨rfl, rfl⟩ := List.cons.inj heq
        have hne : key y ≠ key x := hbefore y List.mem_cons_self
        exact .inr ⟨⟨before, later, rfl, fun z hz => hbefore z (List.mem_cons_of_mem _ hz)⟩,
          by simpa using hne⟩

/-- The keys that are kept are those of the elements. -/
theorem mem_map_firsts {xs : List α} {k : κ} :
    k ∈ (firsts (fun a b => key a == key b) xs).map key ↔ k ∈ xs.map key := by
  induction xs with
  | nil => simp [firsts, firsts.go]
  | cons x rest ih =>
    rw [firsts_cons, List.map_cons, List.map_cons, List.mem_cons, List.mem_cons, ← ih]
    by_cases hk : k = key x
    · simp [hk]
    · simp only [hk, false_or, List.mem_map, List.mem_filter]
      refine exists_congr fun y => and_congr_left fun hy => and_iff_left ?_
      rw [Bool.not_eq_true', beq_eq_false_iff_ne, hy]
      exact Ne.symm hk

end firsts

/-- Elements that are left in a list come in the order in which they came before. -/
theorem idxOf_filter_le_iff [BEq α] [LawfulBEq α] {p : α → Bool} {a b : α} (ha : p a = true)
    (hb : p b = true) (xs : List α) :
    (xs.filter p).idxOf a ≤ (xs.filter p).idxOf b ↔ xs.idxOf a ≤ xs.idxOf b := by
  induction xs with
  | nil => rfl
  | cons x rest ih =>
    by_cases hx : p x = true
    · rw [List.filter_cons_of_pos hx]
      cases hxa : x == a <;> cases hxb : x == b <;> simp [List.idxOf_cons, hxa, hxb, ih]
    · have hxa : (x == a) = false := beq_eq_false_iff_ne.mpr fun h => hx (h ▸ ha)
      have hxb : (x == b) = false := beq_eq_false_iff_ne.mpr fun h => hx (h ▸ hb)
      rw [List.filter_cons_of_neg hx, ih]
      simp [List.idxOf_cons, hxa, hxb]

/-- First occurrences come in the order in which they came before. -/
theorem idxOf_firsts_le_iff [BEq α] [LawfulBEq α] (a b : α) (xs : List α) :
    (firsts (· == ·) xs).idxOf a ≤ (firsts (· == ·) xs).idxOf b ↔ xs.idxOf a ≤ xs.idxOf b := by
  induction xs with
  | nil => rfl
  | cons x rest ih =>
    have hfirsts : firsts (· == ·) (x :: rest) =
        x :: (firsts (· == ·) rest).filter fun y => !(x == y) := firsts_cons id x rest
    rw [hfirsts]
    cases hxa : x == a <;> cases hxb : x == b
    · have hfilter := idxOf_filter_le_iff (p := fun y => !(x == y)) (a := a) (b := b)
        (by simp [hxa]) (by simp [hxb]) (firsts (· == ·) rest)
      simp [List.idxOf_cons, hxa, hxb, hfilter, ih]
    · simp [List.idxOf_cons, hxa, hxb]
    · simp [List.idxOf_cons, hxa]
    · simp [List.idxOf_cons, hxa]

/-- Insertion into an increasing list; an element that compares equal is kept instead. -/
def insertOrdered (cmp : α → α → Ordering) (x : α) : List α → List α
  | [] => [x]
  | y :: rest =>
    match cmp x y with
    | .lt => x :: y :: rest
    | .eq => y :: rest
    | .gt => y :: insertOrdered cmp x rest

/-- The elements in increasing order, the first of equal ones kept. -/
def ordered (cmp : α → α → Ordering) (xs : List α) : List α :=
  xs.foldl (fun sorted x => insertOrdered cmp x sorted) []

theorem insertOrdered_perm {cmp : α → α → Ordering} {x : α} {ys : List α}
    (h : ∀ y ∈ ys, cmp x y ≠ .eq) : (insertOrdered cmp x ys).Perm (x :: ys) := by
  induction ys with
  | nil => exact .refl _
  | cons y rest ih =>
    have hrest := ih fun z hz => h z (List.mem_cons_of_mem y hz)
    rw [insertOrdered]
    cases hc : cmp x y with
    | lt => exact .refl _
    | eq => exact absurd hc (h y List.mem_cons_self)
    | gt => exact (hrest.cons y).trans (.swap x y rest)

/-- If only equal elements compare equal, a list without repeats is sorted and loses nothing. -/
theorem ordered_perm {cmp : α → α → Ordering} {xs : List α} (nodup : xs.Nodup)
    (separates : ∀ a ∈ xs, ∀ b ∈ xs, cmp a b = .eq → a = b) : (ordered cmp xs).Perm xs := by
  have inserted : ∀ ys sorted : List α, (sorted ++ ys).Perm xs →
      (ys.foldl (fun sorted x => insertOrdered cmp x sorted) sorted).Perm xs := by
    intro ys
    induction ys with
    | nil =>
      intro sorted hperm
      simpa using hperm
    | cons y rest ih =>
      intro sorted hperm
      have hfresh : y ∉ sorted := by
        have hnodup := hperm.nodup_iff.mpr nodup
        exact fun hy => (List.nodup_append.mp hnodup).2.2 y hy y List.mem_cons_self rfl
      have hnew : ∀ z ∈ sorted, cmp y z ≠ .eq := by
        intro z hz hcmp
        have hyz : y = z := separates y (hperm.mem_iff.mp (by simp)) z
          (hperm.mem_iff.mp (by simp [hz])) hcmp
        exact hfresh (hyz ▸ hz)
      refine ih _ (.trans ?_ hperm)
      exact ((insertOrdered_perm hnew).append_right rest).trans List.perm_middle.symm
  exact inserted xs [] (.refl _)

end TypeDiscovery.Distinct
