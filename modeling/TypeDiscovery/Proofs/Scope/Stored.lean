import Mathlib.Data.List.Nodup
import Mathlib.Data.List.Perm.Subperm
import Mathlib.Tactic.Push
import Std.Data.String.ToNat
import TypeDiscovery.Scope.Building

/-!
# What a scope in memory stores

Every call that adds a resource finds a key that is not taken, so that no two resources share a
location (`Filed`). From then on the bytes under that key change only by a call that stores an
artifact there (`get?_after`): a resource keeps its bytes against all other calls
(`resources_after_calls`), but not against such a one (`fetch_replaced`).
-/

namespace TypeDiscovery.MemoryScope

/-! ## Fresh keys -/

theorem numberedKey_injective (name : String) : Function.Injective (numberedKey name) := by
  have hlonger : ∀ n : Nat, name ≠ numberedKey name (n + 1) := by
    intro n h
    have hlength := congrArg String.length h
    simp only [numberedKey, String.length_append, ToString.toString] at hlength
    have hmark : "#".length = 1 := rfl
    omega
  intro m n h
  cases m with
  | zero =>
    cases n with
    | zero => rfl
    | succ n => exact absurd h (hlonger n)
  | succ m =>
    cases n with
    | zero => exact absurd h.symm (hlonger m)
    | succ n =>
      have hrepr : (m + 1).repr = (n + 1).repr := by
        simpa [numberedKey] using h
      exact Nat.repr_injective hrepr

theorem freshKey_not_mem (taken : List String) (name : String) :
    freshKey taken name ∉ taken := by
  -- one more than there are taken keys cannot all be taken
  have hfree : ∃ key ∈ (List.range (taken.length + 1)).map (numberedKey name), key ∉ taken := by
    by_contra hall
    push Not at hall
    have hnodup : ((List.range (taken.length + 1)).map (numberedKey name)).Nodup :=
      List.Nodup.map (numberedKey_injective name) List.nodup_range
    have hlength := (List.Nodup.subperm hnodup hall).length_le
    rw [List.length_map, List.length_range] at hlength
    omega
  have hsome : (((List.range (taken.length + 1)).map (numberedKey name)).find?
      (· ∉ taken)).isSome = true := by
    simpa [List.find?_isSome] using hfree
  obtain ⟨key, hkey⟩ := Option.isSome_iff_exists.mp hsome
  have hnot := List.find?_some hkey
  rw [freshKey, hkey, Option.getD_some]
  simpa using hnot

/-! ## One call -/

variable {s : MemoryScope} {key : String}

/-- Keys are never given up. -/
theorem mem_keys_call (h : key ∈ Keyed.keys s.stored) (c : Call) :
    key ∈ Keyed.keys (s.call c).stored := by
  cases c with
  | unresolved id => exact h
  | artifact id bytes => exact Keyed.mem_keys_put.mpr (.inr h)
  | artifactAt id other bytes => exact Keyed.mem_keys_put.mpr (.inr h)
  | resource name bytes => exact Keyed.mem_keys_put.mpr (.inr h)

/-- What is under a taken key changes only by a call that stores an artifact there. -/
theorem get?_call (h : key ∈ Keyed.keys s.stored) (c : Call) :
    Keyed.get? (s.call c).stored key =
      (c.bytesAt? (.memory key)).or (Keyed.get? s.stored key) := by
  have hput : ∀ other bytes, Keyed.get? (Keyed.put s.stored other bytes) key =
      (if Location.memory key = .memory other then some bytes else none).or
        (Keyed.get? s.stored key) := by
    intro other bytes
    rw [Keyed.get?_put]
    by_cases hother : other = key
    · simp [hother]
    · simp [hother, Ne.symm hother]
  cases c with
  | unresolved id => rfl
  | artifact id bytes => exact hput _ _
  | artifactAt id other bytes => exact hput _ _
  | resource name bytes =>
    have hfresh : freshKey (Keyed.keys s.stored) name ≠ key := by
      rintro rfl
      exact freshKey_not_mem _ _ h
    simp [call, withResource, Keyed.get?_put, hfresh, Call.bytesAt?]

/-- A call adds at most a resource, under its name. -/
theorem names_call (s : MemoryScope) (c : Call) :
    ∃ added, (s.call c).resources = s.resources ++ added ∧
      added.map (·.name) = c.resource?.toList := by
  cases c with
  | resource name bytes => exact ⟨_, rfl, rfl⟩
  | _ => exact ⟨[], (List.append_nil _).symm, rfl⟩

/-- The resources have locations of their own, each under a key that is taken. -/
structure Filed (s : MemoryScope) : Prop where
  distinct : (s.resources.map (·.location)).Nodup
  taken : ∀ r ∈ s.resources, ∃ key ∈ Keyed.keys s.stored, r.location = .memory key

theorem Filed.call (filed : s.Filed) (c : Call) : (s.call c).Filed := by
  have hold : ∀ r ∈ s.resources,
      ∃ key ∈ Keyed.keys (s.call c).stored, r.location = .memory key := by
    intro r hr
    obtain ⟨key, hkey, heq⟩ := filed.taken r hr
    exact ⟨key, mem_keys_call hkey c, heq⟩
  cases c with
  | resource name bytes =>
    have hnew : Location.memory (freshKey (Keyed.keys s.stored) name) ∉
        s.resources.map (·.location) := by
      intro hmem
      obtain ⟨r, hr, hlocation⟩ := List.mem_map.mp hmem
      obtain ⟨key, hkey, heq⟩ := filed.taken r hr
      rw [heq, Location.memory.injEq] at hlocation
      exact freshKey_not_mem _ _ (hlocation ▸ hkey)
    constructor
    · simp only [MemoryScope.call, withResource, List.map_append, List.map_cons, List.map_nil]
      exact List.nodup_append.mpr ⟨filed.distinct, List.nodup_singleton _,
        fun l hl m hm hsame => hnew (List.mem_singleton.mp hm ▸ hsame ▸ hl)⟩
    · intro r hr
      rcases List.mem_append.mp hr with hr | hr
      · exact hold r hr
      · obtain rfl := List.mem_singleton.mp hr
        exact ⟨_, Keyed.mem_keys_put.mpr (.inl rfl), rfl⟩
  | _ => exact ⟨filed.distinct, hold⟩

/-! ## Many calls -/

theorem filed_after (filed : s.Filed) (calls : List Call) : (s.after calls).Filed := by
  induction calls generalizing s with
  | nil => exact filed
  | cons c rest ih => exact ih (filed.call c)

theorem names_after (s : MemoryScope) (calls : List Call) :
    ∃ added, (s.after calls).resources = s.resources ++ added ∧
      added.map (·.name) = calls.filterMap Call.resource? := by
  induction calls generalizing s with
  | nil => exact ⟨[], (List.append_nil _).symm, rfl⟩
  | cons c rest ih =>
    obtain ⟨first, hfirst, hname⟩ := s.names_call c
    obtain ⟨added, hadded, hnames⟩ := ih (s.call c)
    refine ⟨first ++ added, ?_, ?_⟩
    · rw [← List.append_assoc, ← hfirst]
      exact hadded
    · rw [List.map_append, hname, hnames, List.filterMap_cons]
      cases c.resource? <;> rfl

/-- What is under a taken key after some calls is what the last of them stored there for an
artifact, or else what was there before. -/
theorem get?_after (h : key ∈ Keyed.keys s.stored) (calls : List Call) :
    Keyed.get? (s.after calls).stored key =
      ((calls.filterMap (·.bytesAt? (.memory key))).getLast?).or (Keyed.get? s.stored key) := by
  induction calls generalizing s with
  | nil => rfl
  | cons c rest ih =>
    have hrest := ih (mem_keys_call h c)
    rw [get?_call h c] at hrest
    rw [after, List.foldl_cons, ← after, hrest, List.filterMap_cons]
    cases hc : c.bytesAt? (.memory key) with
    | none => rfl
    | some bytes =>
      rw [List.getLast?_cons]
      cases (rest.filterMap (·.bytesAt? (.memory key))).getLast? <;> rfl

theorem fetch_after {bytes : List UInt8} (h : Keyed.get? s.stored key = some bytes)
    (calls : List Call) :
    (s.after calls).fetch (.memory key) =
      .done ((calls.filterMap (·.bytesAt? (.memory key))).getLastD bytes) := by
  have hmem := Keyed.mem_keys_of_get?_isSome (by rw [h]; rfl)
  rw [fetch, get?_after hmem calls, h, List.getLastD_eq_getLast?]
  cases (calls.filterMap (·.bytesAt? (.memory key))).getLast? <;> rfl

/-- A resource is found where it was put, with the bytes that were stored there last. -/
theorem withResource_after (s : MemoryScope) (name : String) (bytes : List UInt8)
    (later : List Call) :
    ∃ r, ((s.withResource name bytes).after later).resources[s.resources.length]? = some r ∧
      ((s.withResource name bytes).after later).fetch r.location =
        .done ((later.filterMap (·.bytesAt? r.location)).getLastD bytes) := by
  obtain ⟨rest, hrest, -⟩ := (s.withResource name bytes).names_after later
  have hstored : Keyed.get? (s.withResource name bytes).stored
      (freshKey (Keyed.keys s.stored) name) = some bytes := by
    rw [withResource, Keyed.get?_put, if_pos rfl]
  refine ⟨⟨name, .memory (freshKey (Keyed.keys s.stored) name)⟩, ?_, ?_⟩
  · rw [hrest, withResource, List.append_assoc]
    simp
  · exact fetch_after hstored later

/-- The resources of a scope are those added to it, in the order of the calls and under their
names, each at a location of its own. There it has the bytes that it was added with, unless a later
call stores an artifact there; then it has those of the last such call. -/
theorem resources_after_calls (name : String) (calls : List Call) :
    ∃ listed, ((empty name).after calls).toScope.resources.answer = .ok listed ∧
      listed.map (·.name) = calls.filterMap Call.resource? ∧
      (listed.map (·.location)).Nodup ∧
      ∀ before n bytes later, calls = before ++ .resource n bytes :: later →
        ∃ r, listed[(before.filterMap Call.resource?).length]? = some r ∧
          ((∀ c ∈ later, c.bytesAt? r.location = none) →
            ((empty name).after calls).toScope.fetch r.location = .done bytes) ∧
          ∀ replacing, (later.filterMap (·.bytesAt? r.location)).getLast? = some replacing →
            ((empty name).after calls).toScope.fetch r.location = .done replacing := by
  have filed : (empty name).Filed := ⟨List.nodup_nil, nofun⟩
  obtain ⟨listed, hlisted, hnames⟩ := (empty name).names_after calls
  refine ⟨((empty name).after calls).resources, rfl, hlisted ▸ hnames,
    (filed_after filed calls).distinct, ?_⟩
  rintro before n bytes later rfl
  obtain ⟨earlier, hearlier, hcount⟩ := (empty name).names_after before
  have hlength : (before.filterMap Call.resource?).length =
      ((empty name).after before).resources.length := by
    rw [← hcount, hearlier, List.length_map]
    rfl
  have hafter : (empty name).after (before ++ .resource n bytes :: later) =
      (((empty name).after before).withResource n bytes).after later := by
    simp only [after, List.foldl_append, List.foldl_cons, call]
  rw [hafter, hlength]
  obtain ⟨r, hr, hfetch⟩ := ((empty name).after before).withResource_after n bytes later
  refine ⟨r, hr, fun hkept => ?_, fun replacing hreplacing => ?_⟩
  · rwa [List.filterMap_eq_nil_iff.mpr hkept] at hfetch
  · rwa [List.getLastD_eq_getLast?, hreplacing] at hfetch

/-- Two resources of one name, and an artifact under the key that the second one would have had. -/
def drawer : List Call :=
  [.resource "a" [1], .artifactAt ⟨"b.C"⟩ "a#1" [2], .resource "a" [3], .unresolved ⟨"a"⟩]

theorem resources_after_calls_drawer :
    drawer = drawer.take 2 ++ .resource "a" [3] :: drawer.drop 3 ∧
    (∀ c ∈ drawer.drop 3, c.bytesAt? (.memory "a#2") = none) ∧
    ((empty "drawer").after drawer).toScope.fetch (.memory "a#2") = .done [3] := by
  obtain ⟨listed, hlisted, -, -, hstored⟩ := resources_after_calls "drawer" drawer
  obtain ⟨r, hr, hkept, -⟩ := hstored (drawer.take 2) "a" [3] (drawer.drop 3) rfl
  have hall : listed = [⟨"a", .memory "a"⟩, ⟨"a", .memory "a#2"⟩] := by
    refine Except.ok.inj (hlisted.symm.trans ?_)
    decide
  subst hall
  obtain rfl := Option.some.inj hr
  have hfree : ∀ c ∈ drawer.drop 3, c.bytesAt? (.memory "a#2") = none := by
    simp [drawer, Call.bytesAt?]
  exact ⟨rfl, hfree, hkept hfree⟩

/-- An artifact that is stored under the key of a resource takes the bytes of the resource away. -/
theorem fetch_replaced :
    ((empty "drawer").after [.resource "a" [1], .artifact ⟨"a"⟩ [2]]).toScope.resources.answer =
      .ok [⟨"a", .memory "a"⟩] ∧
    ((empty "drawer").after [.resource "a" [1], .artifact ⟨"a"⟩ [2]]).toScope.fetch (.memory "a") =
      .done [2] := by
  decide

end TypeDiscovery.MemoryScope
