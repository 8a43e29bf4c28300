/-!
The values of a settings document. Tables keep their entries in the order of their first mention,
and each key once.
-/
namespace ClusterLink

/-- How a table came about, which decides where it may still be extended. -/
inductive Document.Origin where
  /-- Opened under a heading of its own. -/
  | headed
  /-- Named on the way to a heading further down. -/
  | implied
  /-- Named by a dotted key. -/
  | dotted
  /-- Written out as a value, and complete. -/
  | inline
  deriving DecidableEq, Repr

inductive Document.Value where
  | text (value : String)
  | integer (value : Int)
  | boolean (value : Bool)
  /-- A float, as it is written. -/
  | float (lexeme : String)
  /-- A date, a time or both, as it is written. -/
  | moment (lexeme : String)
  | array (elements : List Value)
  | table (origin : Origin) (entries : List (String × Value))
  /-- Tables of one name, each opened under a heading that repeats it. -/
  | tables (elements : List (List (String × Value)))
  deriving Repr

namespace Document

abbrev Entries := List (String × Value)

namespace Entries

def find? (entries : Entries) (key : String) : Option Value :=
  (List.find? (·.1 = key) entries).map (·.2)

/-- Puts a value under a key, in the place of an older one if there is one. -/
def put (key : String) (value : Value) : Entries → Entries
  | [] => [(key, value)]
  | entry :: rest => if entry.1 = key then (key, value) :: rest else entry :: put key value rest

@[simp] theorem find?_nil (key : String) : find? [] key = none := rfl

theorem find?_cons (entry : String × Value) (entries : Entries) (key : String) :
    find? (entry :: entries) key = if entry.1 = key then some entry.2 else find? entries key := by
  by_cases h : entry.1 = key <;> simp [find?, h]

@[simp] theorem find?_put_self (key : String) (value : Value) (entries : Entries) :
    (put key value entries).find? key = some value := by
  induction entries with
  | nil => simp [put, find?_cons]
  | cons entry rest ih =>
    by_cases h : entry.1 = key
    · simp [put, h, find?_cons]
    · simp [put, h, find?_cons, ih]

theorem find?_put_of_ne {key other : String} (h : key ≠ other) (value : Value)
    (entries : Entries) : (put key value entries).find? other = entries.find? other := by
  induction entries with
  | nil => simp [put, find?_cons, h]
  | cons entry rest ih =>
    by_cases hk : entry.1 = key
    · simp [put, hk, find?_cons, h]
    · simp [put, hk, find?_cons, ih]

end Entries

namespace Value

def text? : Value → Option String
  | .text value => some value
  | _ => none

def boolean? : Value → Option Bool
  | .boolean value => some value
  | _ => none

def integer? : Value → Option Int
  | .integer value => some value
  | _ => none

def array? : Value → Option (List Value)
  | .array elements => some elements
  | _ => none

/-- The entries of a table. A moment passes for a table without known keys. -/
def entries? : Value → Option Entries
  | .table _ entries => some entries
  | .moment _ => some []
  | _ => none

/-- Whether a value is a table or an array and holds nothing. -/
def isVoid : Value → Bool
  | .array elements => elements.isEmpty
  | .table _ entries => entries.isEmpty
  | .tables elements => elements.isEmpty
  | _ => false

/-- The name of an alternative: a text, or the only key of a table that holds nothing under it. -/
def alternative? : Value → Option String
  | .text name => some name
  | .table _ [(name, value)] => if value.isVoid then some name else none
  | _ => none

end Value
end Document
end ClusterLink
