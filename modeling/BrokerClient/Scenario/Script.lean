import BrokerClient.Consumer
import BrokerClient.Publisher
import BrokerClient.Scenario.Network

/-!
# Scripts

A script says what a scenario does, step by step, and how its handlers behave. Objects go by names
that the script gives them. Arguments that the client validates itself are given as JSON values.
-/

namespace BrokerClient.Scenario

open Broker

/-- Steps of the simulated broker's own. -/
inductive NetworkAction
  | addFault (fault : Fault)
  | clearFaults
  /-- Makes calls of an operation wait. -/
  | hold (gate : String)
  /-- Lets some of the waiting calls go on. -/
  | letPass (gate : String) (count : Nat)
  /-- Lets all waiting calls go on and holds no more. -/
  | openGate (gate : String)
  | openChannel
  | setChannelClosed (channel : ChannelId) (closed : Bool)
  | setConnectionClosed (connection : Option ConnectionId) (closed : Bool)
  /-- Reports a connection as lost or closed. -/
  | drop (connection : Option ConnectionId) (error : Option Error)
  /-- Reports a connection as restored. -/
  | restore (connection : Option ConnectionId)

/-- A handler of a script. -/
structure Actor where
  label : String
  /-- Whether the handler is a function, which has its label for a name. -/
  isFunction : Bool

/-- The handler itself: an object of its own for each label. -/
def Actor.handler (a : Actor) : Handler where
  identity := a.label
  qualifiedName := if a.isFunction then some a.label else none
  shown := s!"<handler {a.label}>"

/-- What a script gives to be registered. -/
inductive Candidate
  | handler (a : Actor)
  | value (v : Json)

/-- The handler or the value that is given. -/
def Candidate.given : Candidate → Registry.Candidate
  | handler a => .handler a.handler
  | value v => .value v

/-- Steps with a registry. -/
inductive RegistryAction
  | register (eventType : String) (candidate : Candidate)
  | unregister (eventType : String) (handler : String)
  | handlers (eventType : String)
  | has (eventType : String)
  | types
  | clear
  | size
  | describe
  | dispatch (envelope : Json) (wrap : Option Retry.Draft) (tracer : Option String)

/-- Steps with a handler that is run with retries. -/
inductive RetryAction
  | wrap (handler : String) (draft : Option Retry.Draft) (name logger tracer : Option String)
  | call (envelope : Json) (attempt : Int)

/-- Steps with a pool of its own. -/
inductive PoolAction
  | fill
  | acquire
  | release (channel : ChannelId)
  | close
  | stats

/-- Steps with the shared exchanges of an application. -/
inductive RoutingAction
  | bootstrap
  | declare

/-- Steps with a single channel. -/
inductive ChannelAction
  | closeQuietly (channel : ChannelId) (purpose : String)
  | provision (name : String) (options : Json) (defaultExchange : String)
    (channel : Option ChannelId)
  | close (name : String)
  | closed (name : String)
  | equal (a b : String)

/-- Steps with a manager. -/
inductive ManagerAction
  | connect
  | disconnect
  | borrow
  | release (channel : ChannelId)
  | createConsumer (name : String) (options : Json)
  | removeConsumer (name : String)
  | describe
  | stats
  | fillPool
  | acquireFromPool

/-- Steps with a publisher. -/
inductive PublisherAction
  | publish (envelope : Json) (options : Option Json)
  | emitLocal (envelope : Json)
  | emitAll (envelope : Json) (options : Option Json)
  | emitPriority (envelope priority : Json)
  | emitWithExpiration (envelope expiration : Json)
  | raw (exchange routingKey : String) (body : ByteArray) (contentType : String)
    (headers : List (String × Json)) (options : Option Json)

/-- Steps with a consumer. -/
inductive ConsumerAction
  | start
  | stop
  | deliver (body : ByteArray) (messageId : Option String)

/-- What a publisher is made of. -/
structure PublisherPlan where
  manager : String
  exchange : Option String := none
  /-- The registry of events of the process; a new one without a name. -/
  registry : Option String := none
  retry : Option Retry.Draft := none
  tracer : Option String := none

/-- What a consumer is made of. -/
structure ConsumerPlan where
  manager : String
  options : Json
  registry : String
  retry : Option Retry.Draft := none
  requeue : Bool := false
  tracer : Option String := none

/-- A step without steps inside, with the name of the object it is about. -/
inductive Action
  | network (a : NetworkAction)
  /-- Asks whether a step in the background is done. -/
  | isDone (task : String)
  | newRegistry (name : String) (unregistered : Unregistered)
  | registry (name : String) (a : RegistryAction)
  | retry (name : String) (a : RetryAction)
  | newPool (name : String) (size : Int)
  | pool (name : String) (a : PoolAction)
  | routing (application : String) (a : RoutingAction)
  | channel (a : ChannelAction)
  | newManager (name : String) (settings : List (String × Json))
  | manager (name : String) (a : ManagerAction)
  | newPublisher (name : String) (plan : PublisherPlan)
  | publisher (name : String) (a : PublisherAction)
  | newConsumer (name : String) (plan : ConsumerPlan)
  | consumer (name : String) (a : ConsumerAction)

/-- What a step with steps inside holds while they run, with the name of the object. -/
inductive Block
  /-- A channel of a pool. -/
  | pool (name : String)
  /-- A publisher channel of a manager. -/
  | channel (name : String)
  /-- A connection. -/
  | session (name : String)
  /-- A consumer that is consuming. -/
  | consumer (name : String)

/-- A step of a script. -/
inductive Step
  | act (action : Action)
  /-- Steps inside a block, which may end with an error of their own. -/
  | block (block : Block) (inner : List Step) (raised : Option Error)
  /-- A step in the background. -/
  | spawn (task : String) (step : Step)
  /-- The end of a step in the background. -/
  | join (task : String)

/-- How a handler behaves. -/
structure Behaviour where
  isFunction : Bool := true
  /-- What becomes of the first calls: an error, or none. -/
  outcomes : List (Option Error) := []
  /-- What becomes of all later calls. -/
  always : Option Error := none
  /-- What every call does first. -/
  steps : List Step := []

end BrokerClient.Scenario
