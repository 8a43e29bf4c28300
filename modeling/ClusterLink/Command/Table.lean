import ClusterLink.Command.IdSource
import ClusterLink.Duration
/-!
The table of outstanding commands. A command goes out with a fresh id and comes with a ticket; the
first response that names the id settles the ticket and frees the id. Tickets outlive their entry
in the table, and an id may be used again for another ticket.
-/
namespace ClusterLink

inductive CommandError where
  | failed (payload : String)
  | connectionClosed
  | timeout (deadline : Milliseconds)
  deriving DecidableEq, Repr

def CommandError.message : CommandError → String
  | .failed payload => s!"Command failed: {payload}"
  | .connectionClosed => "Connection closed before the command was answered"
  | .timeout deadline => s!"Command timed out after {deadline.text}"

abbrev CommandResult := Except CommandError String

inductive Resolution where
  | fulfilled
  | rejected
  /-- No outstanding command has the id. -/
  | unmatched
  deriving DecidableEq, Repr

/-- The number of a command, in order of issue. -/
abbrev Ticket := Nat

structure CommandTable where
  ids : IdSource
  outstanding : List (UInt16 × Ticket)
  /-- The result of every ticket, none while it is open. -/
  results : List (Option CommandResult)

/-- A command that was issued. -/
structure Issued where
  id : UInt16
  ticket : Ticket
  envelope : Envelope

namespace CommandTable

def new (ids : IdSource) : CommandTable := ⟨ids, [], []⟩

def isOutstanding (table : CommandTable) (id : UInt16) : Bool :=
  table.outstanding.any (·.1 == id)

/-- Issues a command, unless every id is outstanding. -/
def issue? (table : CommandTable) (text : String) : Option (Issued × CommandTable) :=
  if commandIdSpace ≤ table.outstanding.length then none
  else
    (table.ids.fresh? table.isOutstanding).map fun (id, ids) =>
      let ticket := table.results.length
      (⟨id, ticket, .command text id⟩,
        ⟨ids, (id, ticket) :: table.outstanding, table.results ++ [none]⟩)

/-- Frees an id and settles the ticket that it belongs to. -/
def settle? (table : CommandTable) (id : UInt16) (result : CommandResult) : Option CommandTable :=
  (table.outstanding.find? (·.1 == id)).map fun (_, ticket) =>
    { table with
      outstanding := table.outstanding.filter (·.1 != id)
      results := table.results.set ticket (some result) }

def resolve (table : CommandTable) (id : UInt16) (payload : String) (success : Bool) :
    Resolution × CommandTable :=
  let result : CommandResult := if success then .ok payload else .error (.failed payload)
  match table.settle? id result with
  | none => (.unmatched, table)
  | some table => (if success then .fulfilled else .rejected, table)

/-- Takes back a command that never went out. -/
def forget (table : CommandTable) (id : UInt16) : CommandTable :=
  (table.settle? id (.error .connectionClosed)).getD table

/-- No response will come any more. -/
def abandon (table : CommandTable) : CommandTable :=
  { table with
    outstanding := []
    results := table.results.map fun
      | none => some (.error .connectionClosed)
      | result => result }

def result? (table : CommandTable) (ticket : Ticket) : Option CommandResult :=
  (table.results[ticket]?).join

end CommandTable

/-- What the holder of a ticket has seen of its result. -/
inductive CommandHandle where
  | waiting (ticket : Ticket)
  | answered (result : CommandResult)
  | dropped

namespace CommandHandle

/-- The result, if there is one. -/
def look (handle : CommandHandle) (table : CommandTable) : Option CommandResult × CommandHandle :=
  match handle with
  | .waiting ticket =>
    match table.result? ticket with
    | none => (none, handle)
    | some result => (some result, .answered result)
  | .answered result => (some result, handle)
  | .dropped => (none, handle)

/-- Waits while nothing else happens: an open ticket runs into the deadline. -/
def wait (handle : CommandHandle) (table : CommandTable) (deadline : Milliseconds) :
    CommandHandle :=
  match handle with
  | .waiting ticket => .answered ((table.result? ticket).getD (.error (.timeout deadline)))
  | _ => handle

end CommandHandle
end ClusterLink
