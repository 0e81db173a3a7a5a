import TypeDiscovery.Query.Types

/-!
# Building requests

A request for types is put together call by call. What a history of calls comes to can be read off
it field by field (`field_after`): what was asked for is kept in the order of the calls, without
repeats, and of what was set the last counts.
-/

namespace TypeDiscovery.TypeFinder

/-- A call by which a request is put together. -/
inductive Call where
  | within (ns : String)
  | byUrl (pattern : String)
  | having (marker : String)
  | anyMarker
  | allMarkers
  | inScope (scope : Scope)
  | withConfig (config : Config)

def call (f : TypeFinder) : Call → TypeFinder
  | .within ns => f.within ns
  | .byUrl pattern => f.byUrl pattern
  | .having marker => f.having marker
  | .anyMarker => f.anyMarker
  | .allMarkers => f.allMarkers
  | .inScope scope => f.inScope scope
  | .withConfig config => f.withConfig config

/-- The request after some calls. -/
def after (f : TypeFinder) (calls : List Call) : TypeFinder := calls.foldl call f

namespace Call

/-- The namespace that a call asks for. -/
def namespace? : Call → Option String
  | within ns => some ns
  | _ => none

/-- The marker that a call requires. -/
def marker? : Call → Option String
  | having marker => some marker
  | _ => none

/-- The pattern that a call asks for. -/
def pattern? : Call → Option String
  | byUrl pattern => some pattern
  | _ => none

/-- How a call says that markers combine. -/
def mode? : Call → Option MatchMode
  | anyMarker => some .any
  | allMarkers => some .all
  | _ => none

/-- The scope that a call changes to. -/
def scope? : Call → Option Scope
  | inScope scope => some scope
  | _ => none

/-- The settings that a call changes to. -/
def config? : Call → Option Config
  | withConfig config => some config
  | _ => none

end Call

variable (f : TypeFinder) (calls : List Call)

/-- No call changes what the request is for, nor by what it reads. -/
theorem target_after : (f.after calls).target = f.target ∧ (f.after calls).reader = f.reader := by
  unfold after
  induction calls generalizing f with
  | nil => exact ⟨rfl, rfl⟩
  | cons c rest ih =>
    rw [List.foldl_cons, (ih _).1, (ih _).2]
    cases c <;> exact ⟨rfl, rfl⟩

/-- What calls come to in one field, if each of them says something about the field or leaves it. -/
theorem field_after {α β : Type} (field : TypeFinder → α) (said? : Call → Option β)
    (update : α → β → α)
    (one : ∀ f c, field (call f c) = (said? c).elim (field f) (update (field f))) :
    field (f.after calls) = (calls.filterMap said?).foldl update (field f) := by
  unfold after
  induction calls generalizing f with
  | nil => rfl
  | cons c rest ih =>
    rw [List.foldl_cons, ih, one]
    cases hc : said? c with
    | none => rw [List.filterMap_cons_none hc]; rfl
    | some x => rw [List.filterMap_cons_some hc]; rfl

theorem namespaces_after :
    (f.after calls).namespaces =
      (calls.filterMap Call.namespace?).foldl Distinct.addNew f.namespaces :=
  field_after f calls namespaces Call.namespace? Distinct.addNew fun _ c => by cases c <;> rfl

theorem markers_after :
    (f.after calls).markers = (calls.filterMap Call.marker?).foldl Distinct.addNew f.markers :=
  field_after f calls markers Call.marker? Distinct.addNew fun _ c => by cases c <;> rfl

theorem locations_after :
    (f.after calls).locations =
      (calls.filterMap Call.pattern?).foldl Distinct.addNew f.locations :=
  field_after f calls locations Call.pattern? Distinct.addNew fun _ c => by cases c <;> rfl

/-- Of what calls say about a setting, the last counts. -/
theorem setting_after {α : Type} (setting : TypeFinder → α) (said? : Call → Option α)
    (one : ∀ f c, setting (call f c) = (said? c).getD (setting f)) :
    setting (f.after calls) = (calls.filterMap said?).getLastD (setting f) := by
  have replace : ∀ f c, setting (call f c) = (said? c).elim (setting f) fun x => x := by
    intro f c
    rw [one]
    cases said? c <;> rfl
  rw [field_after f calls setting said? (fun _ x => x) replace]
  generalize calls.filterMap said? = said, setting f = a
  induction said generalizing a with
  | nil => rfl
  | cons x rest ih => rw [List.foldl_cons, ih, List.getLastD_cons]

theorem mode_after : (f.after calls).mode = (calls.filterMap Call.mode?).getLastD f.mode :=
  setting_after f calls mode Call.mode? fun _ c => by cases c <;> rfl

theorem scope_after :
    (f.after calls).scope = (calls.filterMap Call.scope?).getLastD f.scope :=
  setting_after f calls scope Call.scope? fun _ c => by cases c <;> rfl

theorem config_after :
    (f.after calls).config = (calls.filterMap Call.config?).getLastD f.config :=
  setting_after f calls config Call.config? fun _ c => by cases c <;> rfl

end TypeDiscovery.TypeFinder
