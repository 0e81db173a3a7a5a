/-!
# Counting

A list has fewer elements of one kind than of another that includes it and has a member of its own.
This is how walks over finitely many names are seen to end.
-/

namespace TypeDiscovery.Counting

theorem countP_lt_countP {α : Type} {p q : α → Bool} {xs : List α} {x : α} (hx : x ∈ xs)
    (hp : p x = true) (hq : q x = false) (himp : ∀ y, q y = true → p y = true) :
    xs.countP q < xs.countP p := by
  induction xs with
  | nil => simp at hx
  | cons y rest ih =>
    have hle : rest.countP q ≤ rest.countP p := List.countP_mono_left fun a _ ha => himp a ha
    simp only [List.countP_cons]
    rcases List.mem_cons.mp hx with rfl | hx
    · simp only [hp, hq]
      simp
      omega
    · have hlt := ih hx
      have hy := himp y
      cases hqy : q y
      · simp
        omega
      · simp only [hy hqy]
        simp
        omega

end TypeDiscovery.Counting
