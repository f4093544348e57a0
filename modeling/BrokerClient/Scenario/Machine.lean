import BrokerClient.Scenario.Step

/-!
# Running programs side by side

The machine runs one thread at a time until it ends or has to wait, and then the thread that has
been ready for the longest. A thread waits at a closed gate, for channels to close, or for the
others to come to rest.

Closing several channels starts a thread for each of them. When one of these ends, its end is
reported in a turn of its own, and the thread that waits for them goes on one turn after the last
report, or after the first report of a failure.

## Main definitions

* `Machine.step` — one step of the machine.
* `Script.answers` — the answers of a scenario.
-/

namespace BrokerClient.Scenario

open Broker

/-- A thread: the program that is left of it, and the group of closes that it belongs to. -/
structure Thread where
  program : Act Unit
  group : Option Nat := none

/-- What the machine does in a turn. -/
inductive Turn
  | run (thread : Thread)
  /-- Reports that a thread of a group has ended. -/
  | ended (group : Nat) (error : Option Error)

/-- Threads that close channels, and the thread that waits for them. -/
structure Group where
  /-- How many ends have not been reported. -/
  pending : Nat
  /-- What the waiting thread goes on with; nothing once it has gone on. -/
  resume : Option (Except Error Unit → Thread)

/-- Programs and the world that they run in. -/
structure Machine where
  world : World
  /-- The thread that is running. -/
  current : Option Thread := none
  /-- What comes next, the first first. -/
  ready : List Turn := []
  /-- The threads that wait at gates, the first first. -/
  waiting : List (String × Thread) := []
  /-- The threads that wait for the others to come to rest. -/
  resting : List Thread := []
  groups : List Group := []

namespace Machine

/-- Puts turns at the end of the queue. -/
def enqueue (turns : List Turn) (m : Machine) : Machine :=
  { m with ready := m.ready ++ turns }

/-- Parts the first threads that wait at a gate, so many of them or all, from the other waiting
ones. -/
def takeWaiting (gate : String) : Option Nat → List (String × Thread) →
    List Thread × List (String × Thread)
  | _, [] => ([], [])
  | some 0, rest => ([], rest)
  | count, (g, t) :: rest =>
    if g == gate then
      let (taken, left) := takeWaiting gate (count.map (· - 1)) rest
      (t :: taken, left)
    else
      let (taken, left) := takeWaiting gate count rest
      (taken, (g, t) :: left)

/-- Starts a thread for each channel to close, and lets the running one wait for them. -/
def closeAll (purpose : String) (channels : List ChannelId)
    (resume : Except Error Unit → Thread) (m : Machine) : Machine :=
  if channels.isEmpty then { m with current := some (resume (.ok ())) }
  else
    let place := m.groups.length
    let group : Group := { pending := channels.length, resume := some resume }
    let m := { m with current := none, groups := m.groups ++ [group] }
    m.enqueue (channels.map fun c => .run { program := closeOne purpose c, group := some place })

/-- Serves a request of the running thread, which goes on with `resume`. -/
def serve (resume : Except Error Unit → Thread) (m : Machine) : Request → Machine
  | .pass gate =>
    if m.world.held.contains gate then
      { m with current := none, waiting := m.waiting ++ [(gate, resume (.ok ()))] }
    else { m with current := some (resume (.ok ())) }
  | .closeAll purpose channels =>
    -- closes that are asked for together begin in the order of the channels' numbers
    let ordered := channels.mergeSort fun a b => a.number ≤ b.number
    m.closeAll purpose ordered resume
  | .invoke h _ =>
    let program := (invoke h).attempt.bind fun reply => (resume reply).program
    { m with current := some { resume (.ok ()) with program } }
  | .spawn task step =>
    { m with current := some (resume (.ok ())) }.enqueue [.run { program := runTask task step }]
  | .release gate count =>
    let (released, waiting) := takeWaiting gate count m.waiting
    { m with current := some (resume (.ok ())), waiting }.enqueue (released.map Turn.run)
  | .idle => { m with current := none, resting := m.resting ++ [resume (.ok ())] }

/-- Ends the running thread. -/
def endThread (t : Thread) (error : Option Error) (m : Machine) : Machine :=
  let m := { m with current := none }
  match t.group with
  | some group => m.enqueue [.ended group error]
  | none => m

/-- Takes one step of the running thread. -/
def stepThread (t : Thread) (m : Machine) : Machine :=
  match t.program with
  | .done () => m.endThread t none
  | .fail e => m.endThread t (some e)
  | .read next => { m with current := some { t with program := next m.world } }
  | .update change next =>
    { m with world := change m.world, current := some { t with program := next } }
  | .emit x next =>
    { m with world := m.world.note x, current := some { t with program := next } }
  | .call r next => m.serve (fun reply => { t with program := next reply }) r

/-- Reports the end of a thread of a group. -/
def reportEnd (group : Nat) (error : Option Error) (m : Machine) : Machine :=
  match m.groups[group]? with
  | none => m
  | some g =>
    let left := g.pending - 1
    let goOn (reply : Except Error Unit) : Machine :=
      { m with groups := m.groups.set group { pending := left, resume := none } }.enqueue
        (g.resume.toList.map fun (resume : Except Error Unit → Thread) => .run (resume reply))
    match error with
    | some e => goOn (.error e)
    | none =>
      if left == 0 then goOn (.ok ())
      else { m with groups := m.groups.set group { g with pending := left } }

/-- Takes one step, if there is anything left to do. -/
def step (m : Machine) : Option Machine :=
  match m.current with
  | some t => some (m.stepThread t)
  | none =>
    match m.ready with
    | .run t :: ready => some { m with current := some t, ready }
    | .ended group error :: ready => some ({ m with ready }.reportEnd group error)
    | [] =>
      match m.resting with
      | t :: resting => some { m with current := some t, resting }
      | [] => none

/-- Takes steps until nothing is left to do, and no more than so many. -/
def run : Nat → Machine → Machine
  | 0, m => m
  | fuel + 1, m =>
    match m.step with
    | some m => m.run fuel
    | none => m

end Machine

/-- A scenario: how the handlers behave, and the steps to take. -/
structure Script where
  behaviours : List (String × Behaviour)
  steps : List Step
  /-- Identifiers and moments for envelopes that do not give their own. -/
  supply : Nat → Event.Fresh

/-- The most machine steps that a scenario may take. -/
def stepLimit : Nat := 1000000000

/-- Takes the steps of a script and writes down their answers. -/
def perform (steps : List Step) : Act Unit :=
  steps.forM fun s => do
    let answer ← answerOf (← s.run)
    .modify fun w => { w with answers := w.answers ++ [answer] }

/-- The answers of the steps of a script, taken in a world of their own. -/
def Script.answers (s : Script) : List Answer :=
  let world : World := { supply := s.supply, behaviours := s.behaviours }
  let main : Thread := { program := perform s.steps }
  (Machine.run stepLimit { world, current := some main }).world.answers

end BrokerClient.Scenario
