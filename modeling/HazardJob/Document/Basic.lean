import HazardJob.Diagnostic
import HazardJob.SortedMap
import HazardJob.Text.Basic

/-! Job files as documents: sections with a name and entries in the order of the file. Reading the
parameters off a document merges its sections; the last setting of a key counts. -/
namespace HazardJob

structure Document.Section where
  name : String
  entries : List (String × String)
deriving DecidableEq

/-- The sections of a job file that have entries. -/
structure Document where
  sections : List Document.Section
deriving DecidableEq

namespace Document

/-- Every entry with the name of its section, in order. -/
def settings (d : Document) : List (String × String × String) :=
  d.sections.flatMap fun s => s.entries.map fun e => (s.name, e.1, e.2)

/-- Every entry in order. -/
def entries (d : Document) : List (String × String) := d.sections.flatMap (·.entries)

/-- Merges a setting into the ones before it, with a warning if its key is set already. -/
def merge (values : SortedMap String String) (sectionName key value : String) :
    SortedMap String String × List Diagnostic :=
  (values.insert key value,
    if values.contains key then [.duplicateParameter key sectionName] else [])

/-- Merges settings in turn. -/
def mergeAll (values : SortedMap String String) :
    List (String × String × String) → SortedMap String String × List Diagnostic
  | [] => (values, [])
  | (sectionName, key, value) :: more =>
    let (values, found) := merge values sectionName key value
    let (values, later) := mergeAll values more
    (values, found ++ later)

/-- The value of every key, and a warning for every setting of a key after its first. -/
def flatten (d : Document) : SortedMap String String × List Diagnostic :=
  mergeAll SortedMap.empty d.settings

/-- The text of an entry. Lines of the value after the first are indented, so that they are read as
its continuation. -/
def entryText (key value : String) : String :=
  if value.isEmpty then key ++ " ="
  else key ++ " = " ++
    Text.join "\n    " ((Text.pieces (· == '\n') value.toList).map String.ofList)

/-- The name of the section that entries without a header belong to. -/
def generalName : String := "general"

/-- A document with these entries in one section. -/
def write (entries : List (String × String)) : String :=
  Text.join "\n" (("[" ++ generalName ++ "]") :: entries.map (fun e => entryText e.1 e.2) ++ [""])

end Document
end HazardJob
