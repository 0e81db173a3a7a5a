import TypeDiscovery.Path
import TypeDiscovery.Text.Blank
import TypeDiscovery.Text.Split

/-!
# Manifests

The main section of an archive's manifest is a list of headers, up to the first empty line. A
header may be folded: a line that starts with a space goes on with the header before it. Other
archives are named, between blanks, by the header `Class-Path`.
-/

namespace TypeDiscovery.Manifest

open Text

/-- The name of an archive's manifest. -/
def memberName : String := "META-INF/MANIFEST.MF"

/-- The lines of the main section. -/
def mainSection (text : List Char) : List (List Char) := (lines text).takeWhile (!·.isEmpty)

/-- The headers of lines, folds undone; `headers` holds those read, the last one first. A line that
goes on with no header is passed over. -/
def unfold (headers : List (List Char)) : List (List Char) → List (List Char)
  | [] => headers.reverse
  | (' ' :: more) :: rest =>
    match headers with
    | [] => unfold [] rest
    | header :: before => unfold ((header ++ more) :: before) rest
  | line :: rest => unfold (line :: headers) rest

/-- The key and the value of a header, which its first colon divides. -/
def keyAndValue? (header : List Char) : Option (List Char × List Char) :=
  match segments ':' header with
  | key :: value :: more => some (key, join [':'] (value :: more))
  | _ => none

/-- The references of a header that names other archives. -/
def references? (header : List Char) : Option (List (List Char)) :=
  match keyAndValue? header with
  | some (key, value) =>
    if sameUpToAsciiCase (trim key) "Class-Path".toList then some (words value) else none
  | none => none

/-- The references of a manifest's first header that names other archives. -/
def classPath (text : List Char) : List (List Char) :=
  ((unfold [] (mainSection text)).findSome? references?).getD []

/-- A reference from the directory of an archive, in which blanks are written `%20`. -/
def resolve (archive : Path) (reference : List Char) : Path :=
  ((archive.parent?).getD ⟨""⟩).join
    (String.ofList (replaceWord "%20".toList [' '] reference))

end TypeDiscovery.Manifest
