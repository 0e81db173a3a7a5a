import TypeDiscovery.Unicode.Property
import TypeDiscovery.Unicode.Script
import TypeDiscovery.Text.Blank

/-!
# Finding sets of characters by name

Names of properties and of their values are compared loosely: case, blanks, hyphens, underscores
and `is` in front do not count.
-/

namespace TypeDiscovery.Unicode

/-- A name as it is compared. The `is` of the two names that need it stays. -/
def looseName (name : List Char) : List Char :=
  let squeeze (cs : List Char) :=
    (cs.filter fun c => c.toNat < 128 && c != ' ' && c != '_' && c != '-').map Text.asciiLower
  match name with
  | 'i' :: 's' :: rest | 'I' :: 's' :: rest | 'i' :: 'S' :: rest | 'I' :: 'S' :: rest =>
    match squeeze rest with
    | ['c'] => ['i', 's', 'c']
    | rest => rest
  | name => squeeze name

/-- Whether a loose name stands for a name of the standard. -/
def answersTo (loose : List Char) (name : String) : Bool := loose == looseName name.toList

/-- A general category, or a union of several. -/
def categoryNamed? (loose : List Char) : Option (Char → Bool) :=
  if loose == "any".toList then some fun _ => true
  else if loose == "assigned".toList then some fun c => !isUnassigned c
  else if loose == "ascii".toList then some fun c => c.toNat < 128
  else
    let short := match Category.longNames.find? fun (long, _) => answersTo loose long with
      | some (_, short) => looseName short.toList
      | none => loose
    match Category.groups.find? fun (name, _) => answersTo short name with
    | some (_, categories) => some (inCategories categories)
    | none =>
      if short == ['c', 'n'] then some isUnassigned
      else if short == ['c'] then
        some fun c => isUnassigned c || inCategories [.control, .format, .privateUse] c
      else none

def scriptNamed? (loose : List Char) : Option Script :=
  scripts.find? fun s => s.names.any (answersTo loose)

def propertyNamed? (loose : List Char) : Option (Char → Bool) :=
  (properties.find? fun (names, _) => names.any (answersTo loose)).map (·.2)

/-- Short names that a category has in common with a property that is no set of characters. -/
def categoryFirst : List (List Char) := [['c', 'f'], ['s', 'c'], ['l', 'c']]

/-- The set asked for by one name: a property, a category or a script. -/
def setNamed? (name : String) : Option (Char → Bool) :=
  let loose := looseName name.toList
  let property := if categoryFirst.contains loose then none else propertyNamed? loose
  (property.or (categoryNamed? loose)).or ((scriptNamed? loose).map Script.contains)

/-- The set of the characters for which a property has a value. -/
def setValued? (property value : String) : Option (Char → Bool) :=
  let property := looseName property.toList
  let value := looseName value.toList
  if property == "gc".toList || property == "generalcategory".toList then categoryNamed? value
  else if property == "sc".toList || property == "script".toList then
    (scriptNamed? value).map Script.contains
  else if property == "scx".toList || property == "scriptextensions".toList then
    (scriptNamed? value).map Script.extensionContains
  else none

end TypeDiscovery.Unicode
