/-!
# Values by key in order of arrival

A list of pairs without repeated keys. A value given for a key that is there takes the place of
the earlier one; a new key comes last.
-/

namespace TypeDiscovery.Keyed

variable {α β : Type} [DecidableEq α]

def put (pairs : List (α × β)) (key : α) (value : β) : List (α × β) :=
  match pairs with
  | [] => [(key, value)]
  | (k, v) :: rest => if k = key then (key, value) :: rest else (k, v) :: put rest key value

def get? (pairs : List (α × β)) (key : α) : Option β :=
  match pairs with
  | [] => none
  | (k, v) :: rest => if k = key then some v else get? rest key

def keys (pairs : List (α × β)) : List α := pairs.map (·.1)

theorem get?_put (pairs : List (α × β)) (key : α) (value : β) (other : α) :
    get? (put pairs key value) other = if key = other then some value else get? pairs other := by
  induction pairs with
  | nil => simp [put, get?]
  | cons p rest ih =>
    obtain ⟨k, v⟩ := p
    simp only [put]
    split
    · rename_i h
      subst h
      simp only [get?]
      split <;> simp_all
    · simp only [get?, ih]
      split <;> split <;> simp_all

theorem mem_keys_of_get?_isSome {pairs : List (α × β)} {key : α}
    (h : (get? pairs key).isSome = true) : key ∈ keys pairs := by
  induction pairs with
  | nil => simp [get?] at h
  | cons p rest ih =>
    obtain ⟨k, v⟩ := p
    simp only [get?] at h
    simp only [keys, List.map_cons, List.mem_cons]
    split at h
    · exact .inl (by simp_all)
    · exact .inr (ih h)

theorem mem_keys_put {pairs : List (α × β)} {key other : α} {value : β} :
    other ∈ keys (put pairs key value) ↔ other = key ∨ other ∈ keys pairs := by
  induction pairs with
  | nil => simp [put, keys]
  | cons p rest ih =>
    obtain ⟨k, v⟩ := p
    simp only [keys] at ih
    simp only [put]
    split
    · rename_i h
      simp [keys, h]
    · simp only [keys, List.map_cons, List.mem_cons, ih]
      exact or_left_comm

end TypeDiscovery.Keyed
