import BrokerClient.Report
import BrokerClient.Scenario.Machine

/-!
# Reports of scenarios

How the answers of a scenario are written as JSON values. What is empty is left out of a report.
Consumer channels that are torn down together are closed in no fixed order, so a run of such closes
is reported in the order of the channels' numbers.
-/

namespace BrokerClient.Scenario

/-- Puts a call into a run of calls, before the later closes of consumer channels. -/
def insertCall (c : Call) : List Call → List Call
  | [] => [c]
  | d :: rest =>
    match c.closes, d.closes with
    | some a, some b => if b.number < a.number then d :: insertCall c rest else c :: d :: rest
    | _, _ => c :: d :: rest

/-- Calls with every run of closes of consumer channels in the order of the channels' numbers. -/
def settleOrder (calls : List Call) : List Call :=
  calls.foldr insertCall []

/-- A call as a JSON value. -/
def Call.toJson (c : Call) : Json :=
  .arr ([.str c.operation, c.target, .obj c.details] ++
    if c.failed then [.str "failed"] else [])

/-- A log record as a JSON value. -/
def logJson (r : Log.Record) : Json :=
  .arr [.str r.level.name, .str r.logger.name, .str r.message, .obj r.details,
    Json.ofOption (fun e : Error => .str e.name) r.failure]

/-- A list as a member, unless it is empty. -/
def listMember {α : Type} (name : String) (f : α → Json) (list : List α) :
    List (String × Json) :=
  if list.isEmpty then [] else [(name, .arr (list.map f))]

/-- A record as the members of a JSON object, with or without the log records. -/
def Record.members (r : Record) (logs : Bool) : List (String × Json) :=
  listMember "calls" Call.toJson (settleOrder r.calls) ++ listMember "sleeps" .float r.sleeps ++
    listMember "handled" (fun h => .arr [.str h.1, .str h.2.1, .str h.2.2]) r.handled ++
    if logs then listMember "logs" logJson r.logs else []

mutual

/-- An answer as a JSON value. -/
def Answer.toJson (logs : Bool) : Answer → Json
  | .mk result block record state =>
    let inside : Option Json := match block with
      | some ⟨channel, entered, steps⟩ =>
        some (.obj ((channel.map fun c => ("channel", Json.int c.number)).toList ++
          [("enter", .obj (entered.members logs)), ("steps", .arr (Answer.listJson logs steps))]))
      | none => none
    let outcome := match result with
      | .ok v => [("result", inside.getD v)]
      | .error e => e.report ++ (inside.map fun v => ("partial", v)).toList
    .obj (outcome ++ record.members logs ++ [("state", state)])

/-- Answers as JSON values. -/
def Answer.listJson (logs : Bool) : List Answer → List Json
  | [] => []
  | a :: rest => Answer.toJson logs a :: Answer.listJson logs rest

end

/-- The answers of a script as a JSON value. -/
def Script.report (s : Script) (logs : Bool) : Json :=
  .arr (Answer.listJson logs s.answers)

end BrokerClient.Scenario
