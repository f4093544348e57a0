import BrokerClient.Broker.Request
import BrokerClient.Channel.Close

/-!
# The pool of publisher channels

The pool lends channels and never makes a borrower wait: when all channels are lent, it opens one
more. A free channel is found and marked in one go, so that no channel is lent twice. The only
requests are for opening and closing channels, and they are answered by whoever holds the pool.

`Pool.generation` counts the closes of the pool. A channel whose opening has seen a close begin
does not join the pool; it is closed. A filling that starts while closes are waiting for their
channels may see each of them empty the pool once more, which bounds the number of rounds it
takes.

## Main definitions

* `Pool` — the channels and which of them are lent.
* `Pool.Request` — what a pool asks of its holder.
* `Pool.fill`, `Pool.acquire`, `Pool.release`, `Pool.close` — the operations.
-/

namespace BrokerClient.Channel

open Broker (ChannelId)

/-- Channels for publishing and which of them are lent. -/
structure Pool where
  /-- How many channels a filling opens. -/
  size : Nat
  channels : List ChannelId := []
  inUse : List ChannelId := []
  /-- How often closing has begun. -/
  generation : Nat := 0
  /-- How many closes are waiting for their channels. -/
  closing : Nat := 0
  deriving DecidableEq, Inhabited, Repr

/-- How many channels a pool has and how many of them are lent. -/
structure PoolStats where
  total : Int
  inUse : Int
  deriving DecidableEq, Inhabited, Repr

/-- How many channels are free. -/
def PoolStats.available (s : PoolStats) : Int :=
  s.total - s.inUse

/-- The counts by name. -/
def PoolStats.toJson (s : PoolStats) : Json :=
  .obj [("total", .int s.total), ("inUse", .int s.inUse), ("available", .int s.available)]

namespace Pool

/-- An empty pool. -/
def create (size : Int) : Except Error Pool :=
  if size < 1 then .error (.badValue s!"size must be >= 1, got {size}")
  else .ok { size := size.toNat }

/-- The counts of a pool. -/
def stats (p : Pool) : PoolStats :=
  ⟨p.channels.length, p.inUse.length⟩

/-- The first channel that is not lent. -/
def free? (p : Pool) : Option ChannelId :=
  p.channels.find? fun c => !p.inUse.contains c

/-- Adds a channel. -/
def add (c : ChannelId) (p : Pool) : Pool :=
  { p with channels := p.channels ++ [c] }

/-- Marks a channel as lent. -/
def lend (c : ChannelId) (p : Pool) : Pool :=
  { p with inUse := p.inUse.insert c }

/-- Marks a channel as free. -/
def takeBack (c : ChannelId) (p : Pool) : Pool :=
  { p with inUse := p.inUse.erase c }

/-- Notes that a close begins. -/
def beginClose (p : Pool) : Pool :=
  { p with generation := p.generation + 1, closing := p.closing + 1 }

/-- Notes that a close is over. -/
def endClose (p : Pool) : Pool :=
  { p with closing := p.closing - 1 }

/-- Forgets all channels. -/
def forget (p : Pool) : Pool :=
  { p with channels := [], inUse := [] }

/-- What a pool asks for. -/
inductive Request
  | openChannel
  | closeChannel (channel : ChannelId)
  | closeChannels (channels : List ChannelId)

/-- What a pool is replied with. -/
abbrev Request.Reply : Request → Type
  | .openChannel => ChannelId
  | _ => Unit

/-- The requests of a pool. -/
abbrev requests : Signature := ⟨Request, Request.Reply⟩

/-- A program of a pool. -/
abbrev Act := Program requests Pool

/-- Sends a request of a pool. -/
def ask (r : Request) : Act r.Reply :=
  Program.perform (S := requests) r

/-- The number of channels as a detail of a log record. -/
def sizeDetail (p : Pool) : String × Json :=
  ("pool_size", .int p.channels.length)

/-- The details of a log record about lending. -/
def lendingDetails (p : Pool) : List (String × Json) :=
  [("in_use", .int p.inUse.length), p.sizeDetail]

/-- Opens a channel. -/
def openChannel : Act ChannelId :=
  Program.rescue (ask .openChannel) fun e => do
    let p ← Program.state
    .logFailure .pool s!"Failed to open publisher channel: {e.message}" e
      [p.sizeDetail, ("error_type", .str e.name)]
    .fail (.channelCreation "publisher" e.message none (some e))

/-- Closes a channel that was opened for a pool that has been closed since. -/
def discardStale (c : ChannelId) : Act Unit := do
  let p ← Program.state
  .log .warning .pool "Publisher pool closed while a channel was opening, closing it"
    [p.sizeDetail]
  let _ ← closeQuietly (ask (.closeChannel c)) "publisher"

/-- Opens a channel for the pool of a generation and puts it there as `join` says. If the pool was
closed in the meantime, the channel is closed and the operation fails. -/
def openFor (generation : Nat) (operation : String) (join : ChannelId → Pool → Pool) :
    Act ChannelId := do
  let c ← openChannel
  let p ← Program.state
  if p.generation == generation then
    .modify (join c)
    return c
  else
    discardStale c
    .fail (.notConnected operation)

/-- Opens channels, at most `rounds` of them, until the pool has its size. -/
def fillFrom (generation : Nat) : Nat → Act Unit
  | 0 => .done ()
  | rounds + 1 => do
    let p ← Program.state
    if p.channels.length < p.size then
      let _ ← openFor generation "fill the publisher pool" add
      let p ← Program.state
      .log .debug .pool s!"Publisher channel #{p.channels.length} created" []
      fillFrom generation rounds
    else return

/-- Opens channels until the pool has its size. -/
def fill : Act Unit := do
  let p ← Program.state
  .log .info .pool s!"Creating publisher channel pool (size: {p.size})" []
  fillFrom p.generation ((p.closing + 1) * p.size)

/-- Lends a channel: a free one if there is any, else a new one. -/
def acquire : Act ChannelId := do
  let p ← Program.state
  match p.free? with
  | some c =>
    .modify (lend c)
    .log .debug .pool "Publisher channel acquired" (p.lend c).lendingDetails
    return c
  | none =>
    let size := p.channels.length
    .log .warning .pool s!"All publisher channels in use, growing pool (current size: {size})"
      [p.sizeDetail, ("configured_size", .int p.size)]
    openFor p.generation "acquire a publisher channel" fun c p => (p.add c).lend c

/-- Takes a channel back. A channel that is not lent is left alone. -/
def release (c : ChannelId) : Act Unit := do
  let p ← Program.state
  if p.inUse.contains c then
    .modify (takeBack c)
    .log .debug .pool "Publisher channel released" (p.takeBack c).lendingDetails
  else .log .warning .pool "Released publisher channel is not in use; ignoring" []

/-- Closes all channels and forgets them. A channel that fails to close is logged. -/
def close : Act Unit := do
  let p ← Program.state
  .modify beginClose
  .log .info .pool s!"Closing publisher channels ({p.channels.length})" []
  Program.ensuring (ask (.closeChannels p.channels)) (.modify endClose)
  .modify forget
  .log .info .pool "All publisher channels closed" []

end Pool

end BrokerClient.Channel
