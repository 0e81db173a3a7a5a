import TypeDiscovery.Scan.Interleaving

/-!
# Scans that simulate each other

A scan can do what another one does if each step of one of its items is matched by steps of an item
that it is related to, of which there may be any number (`Simulates`). Then every interleaving of
the one is followed by an interleaving of the other, from pools of related items to pools of related
items (`Simulates.steps`). Items know of each other by nothing but what they share, so that more of
them may stand by (`Steps.beside`), and those that are done may be left out (`Steps.drop`).
-/

namespace TypeDiscovery

/-- What becomes of an item, and of what it shares, in any number of its own steps. -/
abbrev WorkItem.Advances (s : Scan) : Shared × WorkItem → Shared × WorkItem → Prop :=
  Relation.ReflTransGen fun x y => x.2.step s x.1 = some y

namespace Pool

open WorkItem

variable {s s' : Scan} {p q : Pool}

theorem steps_of_advances {x y : Shared × WorkItem} (h : Advances s x y)
    (rest : Multiset WorkItem) : Steps s ⟨x.1, x.2 ::ₘ rest⟩ ⟨y.1, y.2 ::ₘ rest⟩ := by
  induction h with
  | refl => exact .refl
  | tail _ next ih => exact ih.tail (.item rest next)

theorem Steps.beside (steps : Steps s p q) (others : Multiset WorkItem) :
    Steps s ⟨p.shared, p.items + others⟩ ⟨q.shared, q.items + others⟩ := by
  induction steps with
  | refl => exact .refl
  | tail _ step ih =>
    obtain ⟨rest, next⟩ := step
    simp only [Multiset.cons_add] at ih ⊢
    exact ih.tail (.item _ next)

/-- Items that are done make no difference. -/
theorem Steps.drop {sh : Shared} {items done : Multiset WorkItem}
    (steps : Steps s ⟨sh, items + done⟩ q) (idle : ∀ item ∈ done, item = .walking []) :
    ∃ items', q.items = items' + done ∧ Steps s ⟨sh, items⟩ ⟨q.shared, items'⟩ := by
  induction steps with
  | refl => exact ⟨items, rfl, .refl⟩
  | tail _ step ih =>
    obtain ⟨items', heq, hsteps⟩ := ih
    obtain @⟨_, _, item, item', rest, next⟩ := step
    have hbusy : item ∉ done := by
      intro hmem
      rw [idle item hmem] at next
      cases next
    have hmem : item ∈ items' + done := heq ▸ Multiset.mem_cons_self item rest
    obtain ⟨others, rfl⟩ :=
      Multiset.exists_cons_of_mem ((Multiset.mem_add.mp hmem).resolve_right hbusy)
    rw [Multiset.cons_add] at heq
    obtain rfl := (Multiset.cons_inj_right item).mp heq
    exact ⟨item' ::ₘ others, (Multiset.cons_add _ _ _).symm, hsteps.tail (.item others next)⟩

/-- Each step of an item of one scan is matched by steps of a related item of another one. -/
def Simulates (s s' : Scan) (R : Shared → Shared → Prop) (T : WorkItem → WorkItem → Prop) : Prop :=
  ∀ sh sh' item item' sh₁ item₁, R sh sh' → T item item' → item.step s sh = some (sh₁, item₁) →
    ∃ sh₁' item₁', R sh₁ sh₁' ∧ T item₁ item₁' ∧ Advances s' (sh', item') (sh₁', item₁')

theorem Simulates.steps {R : Shared → Shared → Prop} {T : WorkItem → WorkItem → Prop}
    (sim : Simulates s s' R T) (steps : Steps s p q) {sh' : Shared} {items' : Multiset WorkItem}
    (shared : R p.shared sh') (related : Multiset.Rel T p.items items') :
    ∃ q', R q.shared q'.shared ∧ Multiset.Rel T q.items q'.items ∧
      Steps s' ⟨sh', items'⟩ q' := by
  induction steps with
  | refl => exact ⟨⟨sh', items'⟩, shared, related, .refl⟩
  | tail _ step ih =>
    obtain ⟨⟨sh₁, items₁⟩, hshared, hrelated, hsteps⟩ := ih
    obtain ⟨rest, next⟩ := step
    obtain ⟨item', rest', hitem, hrest, rfl⟩ := Multiset.rel_cons_left.mp hrelated
    obtain ⟨sh₂, item₂, hshared₂, hitem₂, advances⟩ := sim _ _ _ _ _ _ hshared hitem next
    exact ⟨⟨sh₂, item₂ ::ₘ rest'⟩, hshared₂, Multiset.rel_cons_left.mpr
      ⟨item₂, rest', hitem₂, hrest, rfl⟩, hsteps.trans (steps_of_advances advances rest')⟩

/-- Items that can each come to their end, one after the other, come to it together. -/
theorem exists_finished {R : Shared → Prop} {T : WorkItem → Prop}
    (completes : ∀ sh item, R sh → T item → ∃ sh', R sh' ∧
      Advances s (sh, item) (sh', .walking [])) {sh : Shared} (shared : R sh)
    (items : Multiset WorkItem) (given : ∀ item ∈ items, T item) :
    ∃ q, R q.shared ∧ q.Finished ∧ Steps s ⟨sh, items⟩ q := by
  induction items using Multiset.induction_on generalizing sh with
  | empty => exact ⟨⟨sh, 0⟩, shared, fun _ h => absurd h (Multiset.notMem_zero _), .refl⟩
  | cons item rest ih =>
    obtain ⟨hitem, hrest⟩ := Multiset.forall_mem_cons.mp given
    obtain ⟨sh₁, hshared, advances⟩ := completes sh item shared hitem
    obtain ⟨q, hq, finished, hsteps⟩ := ih hshared hrest
    refine ⟨⟨q.shared, q.items + {.walking []}⟩, hq, ?_, ?_⟩
    · intro other hother
      rcases Multiset.mem_add.mp hother with hmem | hdone
      · exact finished other hmem
      · exact Multiset.mem_singleton.mp hdone
    · have hbeside := hsteps.beside {.walking []}
      rw [Multiset.add_comm rest, Multiset.singleton_add] at hbeside
      exact (steps_of_advances advances rest).trans hbeside

end Pool

end TypeDiscovery
