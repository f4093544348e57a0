import BrokerClient.Error
import BrokerClient.Json.Basic

/-!
# Reports of errors

How errors and validation issues are written as JSON values. An error is reported under its class,
with its text, its own attributes and the error that caused it. A validation error has its issues
instead of a text, and an overflow nothing but its class.
-/

namespace BrokerClient

open Validation

/-- An issue as a JSON value. -/
def Validation.Issue.toJson (i : Issue) : Json :=
  .obj ([("loc", .arr (i.loc.map Json.str)), ("type", .str i.reason.code)] ++
    (i.reason.message?.map fun m => ("msg", Json.str m)).toList)

/-- Issues as a member of an error. -/
def detailsMember (issues : List Issue) : String × Json :=
  ("details", .arr (issues.map Issue.toJson))

/-- The text of an error as a member. -/
def messageMember (e : Error) : String × Json :=
  ("message", .str e.message)

/-- The members of an error besides its class, with its cause if it has one. -/
def Error.members : Error → List (String × Json)
  | .overflow _ => []
  | .invalid model issues => [("title", .str model), detailsMember issues]
  | e@(.undecodable _ issues) => [messageMember e, detailsMember issues]
  | e@(.notConnected operation) => [messageMember e, ("operation", .str operation)]
  | e@(.unhandledEvent eventType eventId) =>
    [messageMember e, ("event_type", .str eventType), ("event_id", .str eventId)]
  | e@(.channelCreation purpose _ queue cause) =>
    [messageMember e, ("purpose", .str purpose), ("queue_name", Json.ofOption .str queue)] ++
      match cause with
      | some cause => [("cause", .obj (("error", .str cause.name) :: cause.members))]
      | none => []
  | e@(.frozenField _) => [messageMember e]
  | e@(.fault ..) => [messageMember e]

/-- An error as the members of a JSON object. -/
def Error.report (e : Error) : List (String × Json) :=
  ("error", .str e.name) :: e.members

/-- An error as a JSON value. -/
def Error.toJson (e : Error) : Json :=
  .obj e.report

end BrokerClient
