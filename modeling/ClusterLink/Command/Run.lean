import ClusterLink.Command.Table
import ClusterLink.Steps
/-!
Runs of the command table together with the handles it gave out, one for every ticket.
-/
namespace ClusterLink

inductive CommandStep where
  | issue (text : String)
  | resolve (id : UInt16) (payload : String) (success : Bool)
  | forget (id : UInt16)
  | dropHandle (ticket : Ticket)
  /-- The deadline of the holder of a ticket has passed. -/
  | expire (ticket : Ticket) (deadline : Milliseconds)
  deriving DecidableEq, Repr

inductive CommandAnswer where
  | issued (issued : Issued)
  | refused
  | resolved (resolution : Resolution)
  | done

structure CommandDesk where
  table : CommandTable
  /-- The handle of every ticket. -/
  handles : List CommandHandle

namespace CommandDesk

def new (ids : IdSource) : CommandDesk := ⟨.new ids, []⟩

def step (desk : CommandDesk) : CommandStep → CommandAnswer × CommandDesk
  | .issue text =>
    match desk.table.issue? text with
    | none => (.refused, desk)
    | some (issued, table) => (.issued issued, ⟨table, desk.handles ++ [.waiting issued.ticket]⟩)
  | .resolve id payload success =>
    let (resolution, table) := desk.table.resolve id payload success
    (.resolved resolution, { desk with table })
  | .forget id => (.done, { desk with table := desk.table.forget id })
  | .dropHandle ticket => (.done, { desk with handles := desk.handles.set ticket .dropped })
  | .expire ticket deadline =>
    (.done, { desk with handles := desk.handles.modify ticket (·.wait desk.table deadline) })

def run (desk : CommandDesk) (steps : List CommandStep) : List CommandAnswer × CommandDesk :=
  runSteps step desk steps

theorem run_cons (desk : CommandDesk) (first : CommandStep) (rest : List CommandStep) :
    desk.run (first :: rest) =
      ((desk.step first).1 :: ((desk.step first).2.run rest).1,
        ((desk.step first).2.run rest).2) :=
  runSteps_cons step desk first rest

theorem run_append (desk : CommandDesk) (steps later : List CommandStep) :
    desk.run (steps ++ later) =
      ((desk.run steps).1 ++ ((desk.run steps).2.run later).1,
        ((desk.run steps).2.run later).2) :=
  runSteps_append step desk steps later

end CommandDesk
end ClusterLink
