import ClusterLink.Document.Value
/-!
A settings document: assignments before the first heading, then sections. Its tables are put
together section by section. A table has one heading, dotted keys keep to tables of their own, and
a value that is written out is never extended.
-/
namespace ClusterLink
namespace Document

/-- An assignment to `key` in the table that `path` leads to. -/
structure Assignment where
  path : List String
  key : String
  value : Value

inductive Heading where
  /-- A table. -/
  | table
  /-- One more table in a list of tables. -/
  | element
  deriving DecidableEq, Repr

structure Section where
  heading : Heading
  path : List String
  key : String
  body : List Assignment

end Document

structure Document where
  preamble : List Document.Assignment
  sections : List Document.Section

namespace Document
namespace Entries

/-- Changes the last of a list of tables. -/
def changeLast (change : Entries → Option Entries) : List Entries → Option (List Entries)
  | [] => none
  | [entries] => (change entries).map ([·])
  | entries :: rest => (changeLast change rest).map (entries :: ·)

/-- Assigns a value to a key that is free. The tables on a path are new or were named by dotted
keys too; those that headings imply, and the last of a list of tables, can only be passed
through. -/
def assign (key : String) (value : Value) : (path : List String) → Entries → Option Entries
  | [], entries =>
    match entries.find? key with
    | none => some (entries.put key value)
    | some _ => none
  | name :: path, entries =>
    match entries.find? name with
    | none => do
      let inner ← assign key value path []
      some (entries.put name (.table .dotted inner))
    | some (.table .dotted inner) => do
      let inner ← assign key value path inner
      some (entries.put name (.table .dotted inner))
    | some (.table .implied inner) =>
      if path.isEmpty then none
      else do
        let inner ← assign key value path inner
        some (entries.put name (.table .implied inner))
    | some (.tables elements) =>
      if path.isEmpty then none
      else do
        let elements ← changeLast (assign key value path) elements
        some (entries.put name (.tables elements))
    | some _ => none

def assignAll (entries : Entries) (body : List Assignment) : Option Entries :=
  body.foldlM (fun entries a => entries.assign a.key a.value a.path) entries

/-- Changes what stands under the last key of a heading. Tables that are only named on the way are
implied by it. -/
def alter (change : Option Value → Option Value) (key : String) :
    (path : List String) → Entries → Option Entries
  | [], entries => do
    let value ← change (entries.find? key)
    some (entries.put key value)
  | name :: path, entries =>
    match entries.find? name with
    | none => do
      let inner ← alter change key path []
      some (entries.put name (.table .implied inner))
    | some (.table .inline _) => none
    | some (.table origin inner) => do
      let inner ← alter change key path inner
      some (entries.put name (.table origin inner))
    | some (.tables elements) => do
      let elements ← changeLast (alter change key path) elements
      some (entries.put name (.tables elements))
    | some _ => none

end Entries

namespace Section

/-- What stands under the heading afterwards, given what stands there before. -/
def extend (part : Section) (before : Option Value) : Option Value :=
  match part.heading, before with
  | .table, none => (Entries.assignAll [] part.body).map (.table .headed)
  | .table, some (.table .implied inner) => (Entries.assignAll inner part.body).map (.table .headed)
  | .element, none => (Entries.assignAll [] part.body).map fun entries => .tables [entries]
  | .element, some (.tables elements) =>
    (Entries.assignAll [] part.body).map fun entries => .tables (elements ++ [entries])
  | _, _ => none

end Section

/-- The tables of a document, unless it says something twice. -/
def entries? (document : Document) : Option Entries := do
  let entries ← Entries.assignAll [] document.preamble
  document.sections.foldlM (fun entries part => entries.alter part.extend part.key part.path)
    entries

end Document
end ClusterLink
