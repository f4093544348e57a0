import BrokerClient.Broker.Request

/-!
# A simulated broker

The simulated broker numbers connections and channels as they are opened and writes down every
call. A call succeeds unless a planned fault says otherwise, and has an effect only if it succeeds.
Nothing is refused because a channel is closed.
-/

namespace BrokerClient.Scenario

open Broker

/-- A planned failure of calls. -/
structure Fault where
  /-- The operation that fails. -/
  operation : String
  error : Error
  /-- How many calls fail; all of them without a number. -/
  times : Option Nat
  /-- How many calls succeed before the first that fails. -/
  skip : Nat
  /-- The target of the calls; any target without one. -/
  target : Option Json

/-- A call as it is written down. -/
structure Call where
  operation : String
  target : Json
  details : List (String × Json)
  failed : Bool := false
  /-- The channel of a close, if a queue was declared on it. -/
  closes : Option ChannelId := none
  deriving Repr

/-- The simulated broker. -/
structure Network where
  /-- How many connections were opened. -/
  connections : Nat := 0
  /-- How many channels were opened. -/
  channels : Nat := 0
  closedConnections : List ConnectionId := []
  closedChannels : List ChannelId := []
  /-- The channels on which a queue was declared. -/
  withQueue : List ChannelId := []
  /-- The channels whose queue has a consumer. -/
  consuming : List ChannelId := []
  /-- How many tags were given to consumers. -/
  tags : Nat := 0
  faults : List Fault := []

/-- The bytes of a body as they are written down: as text if they are text. -/
def bodyJson (body : ByteArray) : Json :=
  match String.fromUTF8? body with
  | some text => .obj [("text", .str text)]
  | none =>
    let digit (n : Nat) : Char := n.digitChar
    let digits := body.toList.flatMap fun b => [digit (b.toNat / 16), digit (b.toNat % 16)]
    .obj [("hex", .str (String.ofList digits))]

/-- A message as it is written down. -/
def messageDetails (m : Message) : List (String × Json) :=
  [("body", bodyJson m.body), ("content_type", .str m.contentType),
    ("content_encoding", Json.ofOption .str m.contentEncoding),
    ("delivery_mode", .int m.deliveryMode), ("priority", .int (m.priority.getD 0)),
    ("expiration", Json.ofOption .str m.expiration), ("message_id", Json.ofOption .str m.messageId),
    ("type", Json.ofOption .str m.eventType),
    ("timestamp", Json.ofOption (fun t => .str (t.text "+00:00")) m.timestamp),
    ("headers", .obj m.headers)]

/-- A channel as a detail of a call. -/
def channelDetail (c : ChannelId) : String × Json :=
  ("channel", .int c.number)

/-- What is done with a delivery, and how. -/
def settlementCall : Settlement → String × List (String × Json)
  | .acknowledge => ("ack", [])
  | .reject requeue => ("reject", [("requeue", .bool requeue)])
  | .nack requeue => ("nack", [("requeue", .bool requeue)])

/-- An optional flag of a declaration. -/
def flagDetail (name : String) (flag : Option Bool) : List (String × Json) :=
  (flag.map fun b => (name, Json.bool b)).toList

/-- A request as a call. Its operation is also the gate that it waits at. -/
def callOf : Request → Call
  | .connect url heartbeat interval =>
    { operation := "connect", target := .str url
      details := [("heartbeat", .int heartbeat), ("reconnect_interval", .float interval)] }
  | .openChannel c => { operation := "open_channel", target := .int c.number, details := [] }
  | .declareExchange c x =>
    { operation := "declare_exchange", target := .str x.name
      details :=
        [channelDetail c, ("type", .str x.kind.name), ("durable", .bool x.durable)] ++
          flagDetail "auto_delete" x.autoDelete ++ flagDetail "internal" x.internal }
  | .declareQueue c q =>
    { operation := "declare_queue", target := .str q.name
      details :=
        [channelDetail c, ("durable", .bool q.durable), ("exclusive", .bool q.exclusive),
          ("auto_delete", .bool q.autoDelete),
          ("arguments", if q.arguments.isEmpty then .null else .obj q.arguments)] }
  | .bindQueue _ queue exchange key =>
    { operation := "bind", target := .str queue
      details := [("exchange", .str exchange), ("routing_key", .str key)] }
  | .setPrefetch c n =>
    { operation := "set_qos", target := .int c.number, details := [("prefetch_count", .int n)] }
  | .consume _ queue =>
    { operation := "consume", target := .str queue, details := [("no_ack", .bool false)] }
  | .cancel _ queue tag =>
    { operation := "cancel", target := .str queue, details := [("consumer_tag", .str tag)] }
  | .findExchange c name =>
    { operation := "get_exchange", target := .str name
      details := [channelDetail c, ("ensure", .bool false)] }
  | .publish c exchange key m =>
    { operation := "publish", target := .str exchange
      details := [channelDetail c, ("routing_key", .str key)] ++ messageDetails m }
  | .closeChannel c => { operation := "close_channel", target := .int c.number, details := [] }
  | .closeChannels purpose _ =>
    { operation := "close_channels", target := .str purpose, details := [] }
  | .closeConnection c =>
    { operation := "close_connection", target := .int c.number, details := [] }
  | .settle messageId s =>
    { operation := (settlementCall s).1, target := Json.ofOption .str messageId
      details := (settlementCall s).2 }
  | .sleep seconds => { operation := "sleep", target := .float seconds, details := [] }
  | .handle h _ =>
    { operation := "handler:" ++ h.identity, target := .str h.identity, details := [] }

namespace Network

/-- Whether a channel is closed. -/
def isChannelClosed (n : Network) (c : ChannelId) : Bool :=
  n.closedChannels.contains c

/-- Whether a connection is closed. -/
def isConnectionClosed (n : Network) (c : ConnectionId) : Bool :=
  n.closedConnections.contains c

/-- Opens a connection. -/
def openConnection (n : Network) : ConnectionId × Network :=
  (⟨n.connections + 1⟩, { n with connections := n.connections + 1 })

/-- Opens a channel. -/
def openChannel (n : Network) : ChannelId × Network :=
  (⟨n.channels + 1⟩, { n with channels := n.channels + 1 })

/-- Sets whether a channel is closed. -/
def setChannelClosed (c : ChannelId) (closed : Bool) (n : Network) : Network :=
  let others := n.closedChannels.filter (· != c)
  { n with closedChannels := if closed then c :: others else others }

/-- Sets whether a connection is closed. -/
def setConnectionClosed (c : ConnectionId) (closed : Bool) (n : Network) : Network :=
  let others := n.closedConnections.filter (· != c)
  { n with closedConnections := if closed then c :: others else others }

/-- The reply to a request that succeeds, and its effect. -/
def succeed (n : Network) : (r : Request) → r.Reply × Network
  | .connect .. => n.openConnection
  | .openChannel _ => n.openChannel
  | .declareQueue .. => ((), n)
  | .consume c _ =>
    (s!"ctag-{n.tags + 1}", { n with tags := n.tags + 1, consuming := c :: n.consuming })
  | .cancel c .. => ((), { n with consuming := n.consuming.filter (· != c) })
  | .closeChannel c => ((), n.setChannelClosed c true)
  | .closeConnection c => ((), n.setConnectionClosed c true)
  | .declareExchange .. | .bindQueue .. | .setPrefetch .. | .findExchange .. | .publish ..
  | .closeChannels .. | .settle .. | .sleep _ | .handle .. => ((), n)

/-- Whether a fault is about a call. -/
def concerns (c : Call) (f : Fault) : Bool :=
  f.operation == c.operation && f.times != some 0 && match f.target with
    | some target => Json.same target c.target
    | none => true

/-- The error of a call, if a fault plans one. The first fault about the call decides. -/
def strike (c : Call) : List Fault → Option Error × List Fault
  | [] => (none, [])
  | f :: rest =>
    if concerns c f then
      if 0 < f.skip then (none, { f with skip := f.skip - 1 } :: rest)
      else (some f.error, { f with times := f.times.map (· - 1) } :: rest)
    else
      let (error, rest) := strike c rest
      (error, f :: rest)

/-- What is known of a call before it is made: a close is marked if its channel has a queue. -/
def mark (n : Network) (r : Request) (c : Call) : Call :=
  match r with
  | .closeChannel channel =>
    if n.withQueue.contains channel then { c with closes := some channel } else c
  | _ => c

/-- Notes a channel on which a queue is declared. -/
def noteQueue (n : Network) : Request → Network
  | .declareQueue c _ => { n with withQueue := c :: n.withQueue }
  | _ => n

/-- Makes the call of a request. Gives the call as it is written down, the reply and the broker
afterwards. -/
def make (n : Network) (r : Request) : Call × Except Error r.Reply × Network :=
  let n := n.noteQueue r
  let c := n.mark r (callOf r)
  let (error, faults) := strike c n.faults
  let n := { n with faults := faults }
  match error with
  | some e => ({ c with failed := true }, .error e, n)
  | none =>
    let (reply, n) := n.succeed r
    (c, .ok reply, n)

end Network

end BrokerClient.Scenario
