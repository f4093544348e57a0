import BrokerClient.Proofs.Client
import BrokerClient.Proofs.Tracking.Fate

/-!
# What becomes of the channels of a consumer

Starts and stops of one consumer overlap. A channel that has been opened for the consumer is in the
making until the manager tracks it, and from the same moment on the consumer has it as its own. The
consumer has one channel of its own at most. When it comes by another one, or gives its channel up,
while the manager tracks a channel whose close has not been asked for, then this channel is
abandoned: nothing will ever close it, and the manager will track it for good.

What happens in starts and stops keeps two assertions. `Whereabouts` says of each channel where it
is. `Crossing` says that no channel is abandoned unless a channel was in the making while another
one was, or while a channel was being closed.

## Main definitions

* `Client.openings`, `Client.closings` — what has been opened, and what a close was asked for of.
* `Client.ownChannel`, `Client.Abandoned` — how a consumer lets go of its channel.
* `Client.Overlapped` — a channel was in the making at a time when this is dangerous.
* `Client.Whereabouts`, `Client.Crossing`, `Client.Tenure` — what is known of channels.

## Main results

* `Client.Tenure.ask`, `Client.Tenure.reply`, `Client.Tenure.settle`, `Client.Tenure.letGo` — what
  happens to channels, step by step.
-/

namespace BrokerClient.Client

open Broker Channel Connection
open Manager (channelsOpened channelCloses isProvisioning isProvisioning_iff isMaking)

/-- What has happened to a client. -/
abbrev Past : Type := List (Happening requests Client)

/-- A client with all that has happened to it. -/
abbrev Moment : Type := BrokerClient.Moment requests Client

/-- What a happening is for the manager. -/
def managerHappening : Happening requests Client → Happening requests Manager
  | .asked r => .asked r
  | .replied a => .replied a
  | .changed s s' => .changed s.manager s'.manager

/-- The channels that have been opened. -/
def openings (past : Past) : List ChannelId :=
  channelsOpened (past.map managerHappening)

/-- The channels whose close has been asked for. -/
def closings (past : Past) : List ChannelId :=
  channelCloses (past.map managerHappening)

/-- The channel that a consumer has as its own. -/
def ownChannel (i : Nat) (s : Client) : Option ChannelId :=
  (s.consumers i).channel.map (·.channel)

/-- The consumer has had a channel as its own. -/
def Had (i : Nat) (past : Past) (c : ChannelId) : Prop :=
  Happening.Changed (fun _ _ s' => ownChannel i s' = some c) past

/-- The consumer has let go of its channel, which the manager tracked and whose close had not been
asked for. -/
def Abandoned (i : Nat) (past : Past) (c : ChannelId) : Prop :=
  Happening.Changed (fun before s s' => ownChannel i s = some c ∧ ownChannel i s' ≠ some c ∧
    c ∈ s.manager.tracked ∧ c ∉ closings before) past

/-- The close of a channel has been asked for that the consumer had not had before. -/
def Discarded (i : Nat) (past : Past) (c : ChannelId) : Prop :=
  ∃ before after, past = before ++ .asked (.closeChannel c) :: after ∧ ¬ Had i before c

/-- Whether a request is the close of a channel. -/
def isClosing : Request → Bool
  | .closeChannel _ => true
  | _ => false

/-- Whether a request is the close of a certain channel. -/
def isClosingOf (c : ChannelId) : Request → Bool
  | .closeChannel d => d = c
  | _ => false

/-- At some time a channel was in the making while another one was, or while a channel was being
closed. -/
def Overlapped (past : Past) : Prop :=
  ∃ before, before <+: past ∧ (2 ≤ Happening.awaited isMaking before ∨
    0 < Happening.awaited isMaking before ∧ 0 < Happening.awaited isClosing before)

theorem ownChannel_modify (i : Nat) (f : Consumer → Consumer) (s : Client) :
    ownChannel i ((consumerPart i).modify f s) = (f (s.consumers i)).channel.map (·.channel) := by
  simp [ownChannel]

/-! ### What happenings add -/

section Past

variable {past : Past} {i : Nat} {c : ChannelId}

@[simp]
theorem openings_append_asked (r : Request) : openings (past ++ [.asked r]) = openings past := by
  simp [openings, managerHappening]

@[simp]
theorem openings_append_changed (s s' : Client) :
    openings (past ++ [.changed s s']) = openings past := by
  simp [openings, managerHappening]

@[simp]
theorem openings_append_replied (a : Answer requests) :
    openings (past ++ [.replied a]) = openings past ++ a.request.opens a.reply := by
  simp [openings, managerHappening]

@[simp]
theorem closings_append_asked (r : Request) :
    closings (past ++ [.asked r]) = closings past ++ r.closes := by
  simp [closings, managerHappening]

@[simp]
theorem closings_append_changed (s s' : Client) :
    closings (past ++ [.changed s s']) = closings past := by
  simp [closings, managerHappening]

@[simp]
theorem closings_append_replied (a : Answer requests) :
    closings (past ++ [.replied a]) = closings past := by
  simp [closings, managerHappening]

@[simp]
theorem had_append_asked_iff (r : Request) : Had i (past ++ [.asked r]) c ↔ Had i past c :=
  Happening.changed_append_asked_iff (S := requests) r

@[simp]
theorem had_append_replied_iff (a : Answer requests) :
    Had i (past ++ [.replied a]) c ↔ Had i past c :=
  Happening.changed_append_replied_iff a

@[simp]
theorem had_append_changed_iff (s s' : Client) :
    Had i (past ++ [.changed s s']) c ↔ Had i past c ∨ ownChannel i s' = some c :=
  Happening.changed_append_changed_iff s s'

@[simp]
theorem abandoned_append_asked_iff (r : Request) :
    Abandoned i (past ++ [.asked r]) c ↔ Abandoned i past c :=
  Happening.changed_append_asked_iff (S := requests) r

@[simp]
theorem abandoned_append_replied_iff (a : Answer requests) :
    Abandoned i (past ++ [.replied a]) c ↔ Abandoned i past c :=
  Happening.changed_append_replied_iff a

@[simp]
theorem abandoned_append_changed_iff (s s' : Client) :
    Abandoned i (past ++ [.changed s s']) c ↔ Abandoned i past c ∨
      ownChannel i s = some c ∧ ownChannel i s' ≠ some c ∧ c ∈ s.manager.tracked ∧
        c ∉ closings past :=
  Happening.changed_append_changed_iff s s'

/-- A consumer that keeps its channel abandons nothing. -/
theorem abandoned_append_changed_of_eq {s s' : Client} (same : ownChannel i s' = ownChannel i s) :
    Abandoned i (past ++ [.changed s s']) c ↔ Abandoned i past c := by
  rw [abandoned_append_changed_iff, same]
  exact or_iff_left fun lost => lost.2.1 lost.1

theorem discarded_append_iff {x : Happening requests Client} :
    Discarded i (past ++ [x]) c ↔
      Discarded i past c ∨ x = .asked (.closeChannel c) ∧ ¬ Had i past c := by
  constructor
  · rintro ⟨before, after, eq, new⟩
    obtain ⟨rfl, rfl, -⟩ | ⟨after, -, rfl⟩ := concat_eq_append_cons_iff.mp eq
    · exact .inr ⟨rfl, new⟩
    · exact .inl ⟨before, after, rfl, new⟩
  · rintro (⟨before, after, rfl, new⟩ | ⟨rfl, new⟩)
    · exact ⟨before, after ++ [x], by simp, new⟩
    · exact ⟨past, [], rfl, new⟩

@[simp]
theorem discarded_append_replied_iff (a : Answer requests) :
    Discarded i (past ++ [.replied a]) c ↔ Discarded i past c := by
  simp [discarded_append_iff]

@[simp]
theorem discarded_append_changed_iff (s s' : Client) :
    Discarded i (past ++ [.changed s s']) c ↔ Discarded i past c := by
  simp [discarded_append_iff]

/-- What has been discarded stays so, whatever happens then. -/
theorem Discarded.mono {later : Past} (h : Discarded i past c) (before : past <+: later) :
    Discarded i later c := by
  obtain ⟨first, after, rfl, new⟩ := h
  obtain ⟨more, rfl⟩ := before
  exact ⟨first, after ++ more, by simp, new⟩

theorem mem_closings (before after : Past) :
    c ∈ closings (before ++ .asked (.closeChannel c) :: after) := by
  simp [closings, managerHappening, channelCloses, Request.closes]

/-- The close of a channel has been asked for ever after. -/
theorem mem_closings_of_before {w w' : Moment}
    (after : (w.ask (Request.closeChannel c)).Before w') : c ∈ closings w'.past := by
  obtain ⟨later, eq⟩ := after
  rw [← eq, Moment.ask, List.append_assoc]
  exact mem_closings w.past later

theorem Discarded.closed (h : Discarded i past c) : c ∈ closings past := by
  obtain ⟨before, after, rfl, -⟩ := h
  exact mem_closings before after

theorem Overlapped.append (h : Overlapped past) (x : Happening requests Client) :
    Overlapped (past ++ [x]) := by
  obtain ⟨before, isPrefix, overlap⟩ := h
  exact ⟨before, isPrefix.trans (List.prefix_append ..), overlap⟩

theorem isClosingOf_iff {r : Request} : isClosingOf c r ↔ r = .closeChannel c := by
  cases r <;> simp [isClosingOf]

end Past

/-! ### What becomes of a channel -/

/-- What is known of the channels of a consumer, if the manager tracked the channels `first` in the
beginning, if a call has the channels `hand` in hand that it has just been replied about, and if the
channels `shut` have just been closed. -/
structure Whereabouts (i : Nat) (first hand shut : List ChannelId) (w : Moment) : Prop where
  tracked : ∀ c ∈ w.state.manager.tracked, c ∈ first ∨ c ∈ openings w.past
  closed : ∀ c ∈ closings w.past, c ∈ openings w.past
  had : ∀ c, Had i w.past c → c ∈ openings w.past
  own : ∀ c, ownChannel i w.state = some c → Had i w.past c
  /-- A channel in the making is new to all. -/
  making : ∀ c, c ∈ hand ∨ 0 < Happening.awaited (isProvisioning c) w.past →
    c ∈ openings w.past ∧ c ∉ w.state.manager.tracked ∧ c ∉ closings w.past ∧ ¬ Had i w.past c
  /-- One call at most has a channel in the making. -/
  single : ∀ c, Happening.awaited (isProvisioning c) w.past ≤ 1 ∧
    (c ∈ hand → Happening.awaited (isProvisioning c) w.past = 0)
  discarded : ∀ c, Discarded i w.past c → c ∉ w.state.manager.tracked
  abandoned : ∀ c, Abandoned i w.past c → c ∈ w.state.manager.tracked ∧
    ownChannel i w.state ≠ some c ∧ c ∉ closings w.past
  fate : ∀ c ∈ w.state.manager.tracked, c ∈ openings w.past →
    ownChannel i w.state = some c ∨ Abandoned i w.past c ∨ c ∈ closings w.past
  /-- A tracked channel whose close was asked for waits for it. -/
  closing : ∀ c ∈ w.state.manager.tracked, c ∈ closings w.past →
    c ∈ shut ∨ 0 < Happening.awaited (isClosingOf c) w.past

/-- What is known of channels that are made while others are made or closed. -/
structure Crossing (i : Nat) (hand : List ChannelId) (w : Moment) : Prop where
  lost : ∀ c, Abandoned i w.past c → Overlapped w.past
  /-- While a channel is in the making, the consumer has none of its own. -/
  busy : hand ≠ [] ∨ 0 < Happening.awaited isMaking w.past →
    ownChannel i w.state = none ∨ Overlapped w.past
  beside : hand ≠ [] → 0 < Happening.awaited isMaking w.past ∨
    0 < Happening.awaited isClosing w.past → Overlapped w.past
  /-- While a channel is being closed, the consumer has no other one of its own. -/
  closing : 0 < Happening.awaited isClosing w.past →
    ∀ c, ownChannel i w.state = some c → c ∈ closings w.past ∨ Overlapped w.past

/-- What the consumer has as its own may be let go of. -/
def Loose (i : Nat) (w : Moment) : Prop :=
  ∀ c, ownChannel i w.state = some c → c ∈ w.state.manager.tracked →
    c ∈ closings w.past ∨ Overlapped w.past

/-- A change that leaves the consumer its channel, and after which no more is tracked. -/
theorem Loose.change {i : Nat} {w : Moment} (h : Loose i w) {f : Client → Client}
    (own : ownChannel i (f w.state) = ownChannel i w.state)
    (fewer : (f w.state).manager.tracked ⊆ w.state.manager.tracked) : Loose i (w.change f) := by
  intro c has tracked
  rw [Moment.change, closings_append_changed]
  exact (h c (own ▸ has) (fewer tracked)).imp_right (·.append _)

namespace Whereabouts

variable {i : Nat} {first hand shut : List ChannelId} {w : Moment} {r : Request} {c : ChannelId}

theorem start {s : Client} (idle : (s.consumers i).channel = none) :
    Whereabouts i s.manager.tracked [] [] { state := s } := by
  have none : ownChannel i s = none := by rw [ownChannel, idle, Option.map_none]
  constructor
  case tracked => exact fun c tracked => .inl tracked
  case closed => exact fun c closed => absurd closed List.not_mem_nil
  case had => exact fun c had => absurd had (Happening.not_changed_nil _)
  case own =>
    intro c own
    rw [none] at own
    cases own
  case making =>
    rintro c (held | waits)
    · cases held
    · exact absurd waits (Nat.lt_irrefl 0)
  case single => exact fun c => ⟨Nat.zero_le 1, fun held => absurd held List.not_mem_nil⟩
  case discarded =>
    rintro c ⟨before, after, eq, -⟩
    cases before <;> cases eq
  case abandoned => exact fun c abandoned => absurd abandoned (Happening.not_changed_nil _)
  case fate => exact fun c _ opened => absurd opened List.not_mem_nil
  case closing => exact fun c _ closed => absurd closed List.not_mem_nil

/-- A request is asked for. It provisions or closes what is in hand, or closes the channel that the
consumer has. -/
theorem ask (h : Whereabouts i first hand [] w) (sound : Happening.Sound w.past)
    (provides : ∀ c ∈ r.provisions, c ∈ hand)
    (closes : ∀ c ∈ r.closes, r = .closeChannel c ∧ (c ∈ hand ∨ ownChannel i w.state = some c)) :
    Whereabouts i first [] [] (w.ask r) := by
  have unprovisioned {c : ChannelId} (closed : c ∈ r.closes) : c ∉ r.provisions := by
    obtain ⟨rfl, -⟩ := closes c closed
    exact List.not_mem_nil
  have other {c : ChannelId} (hc : c ∉ r.provisions) :
      Happening.awaited (isProvisioning c) (w.past ++ [.asked r]) =
        Happening.awaited (isProvisioning c) w.past :=
    awaited_append_asked (S := requests) (by simpa [isProvisioning] using hc)
  have more {c : ChannelId} (hc : c ∈ r.provisions) :
      Happening.awaited (isProvisioning c) (w.past ++ [.asked r]) = 1 := by
    rw [sound.awaited_append_asked (isProvisioning_iff.mpr hc), (h.single c).2 (provides c hc)]
  have untracked {c : ChannelId} (held : c ∈ hand) : c ∉ w.state.manager.tracked :=
    (h.making c (.inl held)).2.1
  constructor <;> simp only [Moment.ask, openings_append_asked, closings_append_asked,
    had_append_asked_iff, abandoned_append_asked_iff, List.mem_append]
  case tracked => exact h.tracked
  case closed =>
    rintro c (closed | new)
    · exact h.closed c closed
    · obtain held | own := (closes c new).2
      · exact (h.making c (.inl held)).1
      · exact h.had c (h.own c own)
  case had => exact h.had
  case own => exact h.own
  case making =>
    rintro c (held | waits)
    · cases held
    · have made : c ∈ hand ∨ 0 < Happening.awaited (isProvisioning c) w.past := by
        by_cases hc : c ∈ r.provisions
        · exact .inl (provides c hc)
        · exact .inr (other hc ▸ waits)
      obtain ⟨opened, untracked, unclosed, new⟩ := h.making c made
      refine ⟨opened, untracked, ?_, new⟩
      rintro (closed | closed)
      · exact unclosed closed
      · obtain held | own := (closes c closed).2
        · rw [other (unprovisioned closed), (h.single c).2 held] at waits
          exact Nat.lt_irrefl 0 waits
        · exact new (h.own c own)
  case single =>
    intro c
    refine ⟨?_, fun held => absurd held List.not_mem_nil⟩
    by_cases hc : c ∈ r.provisions
    · exact Nat.le_of_eq (more hc)
    · rw [other hc]
      exact (h.single c).1
  case discarded =>
    intro c discarded
    obtain discarded | ⟨asked, new⟩ := discarded_append_iff.mp discarded
    · exact h.discarded c discarded
    · cases asked
      obtain held | own := (closes c List.mem_cons_self).2
      · exact untracked held
      · exact absurd (h.own c own) new
  case abandoned =>
    intro c abandoned
    obtain ⟨tracked, other, unclosed⟩ := h.abandoned c abandoned
    refine ⟨tracked, other, ?_⟩
    rintro (closed | closed)
    · exact unclosed closed
    · obtain held | own := (closes c closed).2
      · exact untracked held tracked
      · exact other own
  case fate => exact fun c tracked opened => (h.fate c tracked opened).imp_right (·.imp_right .inl)
  case closing =>
    rintro c tracked (closed | closed)
    · exact (h.closing c tracked closed).imp_right
        fun waits => Nat.lt_of_lt_of_le waits (awaited_le_append_asked ..)
    · exact .inr (sound.awaited_pos_of_asked (isClosingOf_iff.mpr (closes c closed).1))

/-- What a reply has opened or provisioned is in hand, and what it has closed is shut. -/
theorem reply (h : Whereabouts i first [] [] w) (awaits : w.Awaits r) {a : Except Error r.Reply}
    (closes : ∀ c ∈ r.closes, r = .closeChannel c)
    (fresh : ∀ c ∈ r.opens a, c ∉ first ∧ c ∉ openings w.past) :
    Whereabouts i first (r.opens a ++ r.provisions) r.closes (w.reply r a) := by
  have waits {c : ChannelId} (hc : c ∈ r.provisions) :
      0 < Happening.awaited (isProvisioning c) w.past :=
    awaits.awaited_pos (isProvisioning_iff.mpr hc)
  constructor <;> simp only [Moment.reply, openings_append_replied, closings_append_replied,
    had_append_replied_iff, abandoned_append_replied_iff, discarded_append_replied_iff,
    List.mem_append]
  case tracked => exact fun c tracked => (h.tracked c tracked).imp_right .inl
  case closed => exact fun c closed => .inl (h.closed c closed)
  case had => exact fun c had => .inl (h.had c had)
  case own => exact h.own
  case making =>
    rintro c ((new | held) | more)
    · obtain ⟨other, unopened⟩ := fresh c new
      exact ⟨.inr new, fun tracked => (h.tracked c tracked).elim other unopened,
        fun closed => unopened (h.closed c closed), fun had => unopened (h.had c had)⟩
    · exact (h.making c (.inr (waits held))).imp_left .inl
    · exact (h.making c (.inr (awaited_pos_of_append_replied more))).imp_left .inl
  case single =>
    intro c
    refine ⟨Nat.le_trans (awaited_append_replied_le ..) (h.single c).1, ?_⟩
    rintro (new | held)
    · by_contra more
      have waiting := awaited_pos_of_append_replied (Nat.pos_of_ne_zero more)
      exact (fresh c new).2 (h.making c (.inr waiting)).1
    · rw [awaited_append_replied (S := requests) (isProvisioning_iff.mpr held)]
      exact Nat.sub_eq_zero_of_le (h.single c).1
  case discarded => exact h.discarded
  case abandoned => exact h.abandoned
  case fate =>
    rintro c tracked (opened | new)
    · exact h.fate c tracked opened
    · exact ((h.tracked c tracked).elim (fresh c new).1 (fresh c new).2).elim
  case closing =>
    intro c tracked closed
    obtain shut | waiting := h.closing c tracked closed
    · cases shut
    · by_cases of : r = .closeChannel c
      · subst of
        exact .inl List.mem_cons_self
      · refine .inr ?_
        rwa [awaited_append_replied_other (S := requests)
          (Bool.eq_false_iff.mpr (mt isClosingOf_iff.mp of))]

/-- A channel that has been closed and is tracked no more is out of the way. -/
theorem forget (h : Whereabouts i first hand [c] w) (untracked : c ∉ w.state.manager.tracked) :
    Whereabouts i first hand [] w where
  __ := h
  closing d tracked closed := by
    obtain shut | waits := h.closing d tracked closed
    · obtain rfl := List.mem_singleton.mp shut
      exact absurd tracked untracked
    · exact .inr waits

/-- A change that leaves the consumer its channel. The manager ceases to track what has been closed,
if anything, and begins to track nothing. -/
theorem untrack (h : Whereabouts i first hand shut w) {f : Client → Client}
    (gone : List ChannelId) {shut' : List ChannelId} (closed : ∀ c ∈ gone, c ∈ closings w.past)
    (untracks : ∀ c, c ∈ (f w.state).manager.tracked ↔ c ∈ w.state.manager.tracked ∧ c ∉ gone)
    (own : ownChannel i (f w.state) = ownChannel i w.state)
    (rest : ∀ c ∈ shut, c ∈ gone ∨ c ∈ shut') : Whereabouts i first hand shut' (w.change f) := by
  have had (c : ChannelId) :
      Had i (w.past ++ [.changed w.state (f w.state)]) c ↔ Had i w.past c := by
    rw [had_append_changed_iff, own]
    exact or_iff_left_of_imp (h.own c)
  constructor <;> simp only [Moment.change, openings_append_changed, closings_append_changed, had,
    abandoned_append_changed_of_eq own, discarded_append_changed_iff, awaited_append_changed,
    untracks, own]
  case tracked => exact fun c tracked => h.tracked c tracked.1
  case closed => exact h.closed
  case had => exact h.had
  case own => exact h.own
  case making =>
    intro c making
    obtain ⟨opened, untracked, rest⟩ := h.making c making
    exact ⟨opened, fun tracked => untracked tracked.1, rest⟩
  case single => exact h.single
  case discarded => exact fun c discarded tracked => h.discarded c discarded tracked.1
  case abandoned =>
    intro c abandoned
    obtain ⟨tracked, other, unclosed⟩ := h.abandoned c abandoned
    exact ⟨⟨tracked, fun gone => unclosed (closed c gone)⟩, other, unclosed⟩
  case fate => exact fun c tracked => h.fate c tracked.1
  case closing =>
    intro c tracked closed
    exact (h.closing c tracked.1 closed).imp_left fun shut => (rest c shut).resolve_left tracked.2

/-- A change that touches neither what is tracked nor the consumer's channel. -/
theorem change (h : Whereabouts i first hand shut w) {f : Client → Client}
    (tracked : (f w.state).manager.tracked = w.state.manager.tracked)
    (own : ownChannel i (f w.state) = ownChannel i w.state) :
    Whereabouts i first hand shut (w.change f) :=
  h.untrack [] nofun (by simp [tracked]) own fun _ => .inr

/-- A channel in hand is tracked, and becomes the consumer's own. -/
theorem settle (h : Whereabouts i first [c] [] w) {f g : Client → Client}
    (tracks : (f w.state).manager.tracked = w.state.manager.tracked ++ [c])
    (same : ownChannel i (f w.state) = ownChannel i w.state)
    (manager : (g (f w.state)).manager = (f w.state).manager)
    (own : ownChannel i (g (f w.state)) = some c) :
    Whereabouts i first [] [] ((w.change f).change g) := by
  -- between the two changes the channel is tracked but nobody's, so both are one step here
  have had (d : ChannelId) : Had i (w.past ++ [.changed w.state (f w.state)] ++
      [.changed (f w.state) (g (f w.state))]) d ↔ Had i w.past d ∨ c = d := by
    simp only [had_append_changed_iff, same, own, Option.some.injEq]
    exact or_congr_left (or_iff_left_of_imp (h.own d))
  have abandoned (d : ChannelId) : Abandoned i (w.past ++ [.changed w.state (f w.state)] ++
      [.changed (f w.state) (g (f w.state))]) d ↔
        Abandoned i w.past d ∨ ownChannel i w.state = some d ∧ c ≠ d ∧
          (d ∈ w.state.manager.tracked ∨ d = c) ∧ d ∉ closings w.past := by
    simp only [abandoned_append_changed_iff, same, own, tracks, closings_append_changed,
      List.mem_append, List.mem_singleton, ne_eq, Option.some.injEq]
    exact or_congr_left (or_iff_left fun lost => lost.2.1 lost.1)
  obtain ⟨opened, untracked, unclosed, new⟩ := h.making c (.inl List.mem_cons_self)
  constructor <;> simp only [Moment.change, had, abandoned, openings_append_changed,
    closings_append_changed, discarded_append_changed_iff, awaited_append_changed, manager, tracks,
    own, List.mem_append, List.mem_singleton, Option.some.injEq, ne_eq]
  case tracked =>
    rintro d (tracked | rfl)
    · exact h.tracked d tracked
    · exact .inr opened
  case closed => exact h.closed
  case had =>
    rintro d (had | rfl)
    · exact h.had d had
    · exact opened
  case own => exact fun d same => .inr same
  case making =>
    rintro d (held | waits)
    · cases held
    · obtain ⟨opened, untracked, unclosed, new⟩ := h.making d (.inr waits)
      have other : d ≠ c := by
        rintro rfl
        exact Nat.ne_of_gt waits ((h.single d).2 List.mem_cons_self)
      exact ⟨opened, not_or.mpr ⟨untracked, other⟩, unclosed, not_or.mpr ⟨new, other.symm⟩⟩
  case single => exact fun d => ⟨(h.single d).1, fun held => absurd held List.not_mem_nil⟩
  case discarded =>
    rintro d discarded (tracked | rfl)
    · exact h.discarded d discarded tracked
    · exact unclosed discarded.closed
  case abandoned =>
    rintro d (abandoned | ⟨was, other, tracked, unclosed⟩)
    · obtain ⟨tracked, -, unclosed⟩ := h.abandoned d abandoned
      refine ⟨.inl tracked, ?_, unclosed⟩
      rintro rfl
      exact untracked tracked
    · exact ⟨tracked, other, unclosed⟩
  case fate =>
    rintro d (tracked | rfl) opened
    · obtain was | abandoned | closed := h.fate d tracked opened
      · by_cases closed : d ∈ closings w.past
        · exact .inr (.inr closed)
        · refine .inr (.inl (.inr ⟨was, ?_, .inl tracked, closed⟩))
          rintro rfl
          exact untracked tracked
      · exact .inr (.inl (.inl abandoned))
      · exact .inr (.inr closed)
    · exact .inl rfl
  case closing =>
    rintro d (tracked | rfl) closed
    · exact h.closing d tracked closed
    · exact absurd closed unclosed

/-- The consumer gives up its channel, or has none. -/
theorem letGo (h : Whereabouts i first [] [] w) {f : Client → Client}
    (same : (f w.state).manager = w.state.manager) (own : ownChannel i (f w.state) = none) :
    Whereabouts i first [] [] (w.change f) := by
  constructor <;> simp only [Moment.change, openings_append_changed, closings_append_changed,
    had_append_changed_iff, abandoned_append_changed_iff, discarded_append_changed_iff,
    awaited_append_changed, same, own, reduceCtorEq, or_false, ne_eq, not_false_eq_true, true_and]
  case tracked => exact h.tracked
  case closed => exact h.closed
  case had => exact h.had
  case own => exact fun c none => none.elim
  case making => exact h.making
  case single => exact h.single
  case discarded => exact h.discarded
  case abandoned =>
    rintro c (abandoned | ⟨-, tracked, unclosed⟩)
    · obtain ⟨tracked, -, unclosed⟩ := h.abandoned c abandoned
      exact ⟨tracked, unclosed⟩
    · exact ⟨tracked, unclosed⟩
  case fate =>
    intro c tracked opened
    obtain was | abandoned | closed := h.fate c tracked opened
    · by_cases closed : c ∈ closings w.past
      · exact .inr (.inr closed)
      · exact .inr (.inl (.inr ⟨was, tracked, closed⟩))
    · exact .inr (.inl (.inl abandoned))
    · exact .inr (.inr closed)
  case closing => exact h.closing

end Whereabouts

namespace Crossing

variable {i : Nat} {hand : List ChannelId} {w : Moment} {r : Request} {c : ChannelId}

theorem start {s : Client} (idle : (s.consumers i).channel = none) :
    Crossing i [] { state := s } := by
  have none : ownChannel i s = none := by rw [ownChannel, idle, Option.map_none]
  exact ⟨fun c lost => absurd lost (Happening.not_changed_nil _), fun _ => .inl none,
    fun held => (held rfl).elim, fun waits => absurd waits (Nat.lt_irrefl 0)⟩

/-- A request is asked for. A channel is opened when the consumer has none of its own, and one is
closed that the consumer has or that was in the making. -/
theorem ask (h : Crossing i hand w)
    (making : isMaking r → ownChannel i w.state = none ∨ hand ≠ [])
    (closing : isClosing r → (∀ c, ownChannel i w.state = some c → c ∈ r.closes) ∨ hand ≠ []) :
    Crossing i [] (w.ask r) := by
  constructor <;> simp only [Moment.ask, abandoned_append_asked_iff, closings_append_asked,
    List.mem_append]
  case lost => exact fun c lost => (h.lost c lost).append _
  case busy =>
    rintro (held | waits)
    · exact (held rfl).elim
    · cases of : isMaking r with
      | true =>
        obtain none | held := making of
        · exact .inl none
        · exact (h.busy (.inl held)).imp_right (·.append _)
      | false =>
        rw [awaited_append_asked (S := requests) of] at waits
        exact (h.busy (.inr waits)).imp_right (·.append _)
  case beside => exact fun held => (held rfl).elim
  case closing =>
    intro waits c own
    cases of : isClosing r with
    | true =>
      obtain owned | held := closing of
      · exact .inl (.inr (owned c own))
      · obtain none | overlapped := h.busy (.inl held)
        · rw [none] at own
          cases own
        · exact .inr (overlapped.append _)
    | false =>
      rw [awaited_append_asked (S := requests) of] at waits
      exact (h.closing waits c own).imp .inl (·.append _)

/-- After a reply, what is in hand has been in the making. -/
theorem reply (h : Crossing i [] w) (awaits : w.Awaits r) (a : Except Error r.Reply)
    (making : hand ≠ [] → isMaking r) : Crossing i hand (w.reply r a) := by
  constructor <;> simp only [Moment.reply, abandoned_append_replied_iff, closings_append_replied]
  case lost => exact fun c lost => (h.lost c lost).append _
  case busy =>
    intro busy
    have before : 0 < Happening.awaited isMaking w.past :=
      busy.elim (fun held => awaits.awaited_pos (making held)) awaited_pos_of_append_replied
    exact (h.busy (.inr before)).imp_right (·.append _)
  case beside =>
    intro held waits
    have before : 0 < Happening.awaited isMaking w.past := awaits.awaited_pos (making held)
    refine ⟨w.past, List.prefix_append .., ?_⟩
    obtain more | closes := waits
    · rw [awaited_append_replied (S := requests) (making held)] at more
      exact .inl (by omega)
    · exact .inr ⟨before, awaited_pos_of_append_replied closes⟩
  case closing =>
    exact fun waits c own =>
      (h.closing (awaited_pos_of_append_replied waits) c own).imp_right (·.append _)

/-- A change that leaves the consumer its channel. -/
theorem change (h : Crossing i hand w) {f : Client → Client}
    (own : ownChannel i (f w.state) = ownChannel i w.state) : Crossing i hand (w.change f) := by
  constructor <;> simp only [Moment.change, abandoned_append_changed_of_eq own,
    closings_append_changed, awaited_append_changed, own]
  case lost => exact fun c lost => (h.lost c lost).append _
  case busy => exact fun busy => (h.busy busy).imp_right (·.append _)
  case beside => exact fun held waits => (h.beside held waits).append _
  case closing => exact fun waits c own => (h.closing waits c own).imp_right (·.append _)

/-- The consumer gives up its channel, or has none. -/
theorem letGo (h : Crossing i [] w) (loose : Loose i w) {f : Client → Client}
    (own : ownChannel i (f w.state) = none) : Crossing i [] (w.change f) := by
  constructor <;> simp only [Moment.change, abandoned_append_changed_iff, closings_append_changed,
    awaited_append_changed, own]
  case lost =>
    rintro c (lost | ⟨was, -, tracked, unclosed⟩)
    · exact (h.lost c lost).append _
    · exact ((loose c was tracked).resolve_left unclosed).append _
  case busy => exact fun _ => .inl trivial
  case beside => exact fun held => (held rfl).elim
  case closing => exact fun _ c none => by cases none

/-- A channel in hand becomes the consumer's own. -/
theorem settle (h : Crossing i [c] w) {f : Client → Client}
    (own : ownChannel i (f w.state) = some c) : Crossing i [] (w.change f) := by
  have held : [c] ≠ [] := List.cons_ne_nil c []
  constructor <;> simp only [Moment.change, abandoned_append_changed_iff, closings_append_changed,
    awaited_append_changed, own]
  case lost =>
    rintro d (lost | ⟨was, -⟩)
    · exact (h.lost d lost).append _
    · obtain none | overlapped := h.busy (.inl held)
      · rw [none] at was
        cases was
      · exact overlapped.append _
  case busy =>
    rintro (none | waits)
    · exact (none rfl).elim
    · exact .inr ((h.beside held (.inl waits)).append _)
  case beside => exact fun none => (none rfl).elim
  case closing => exact fun waits d _ => .inr ((h.beside held (.inr waits)).append _)

end Crossing

/-- What is known of the channels of a consumer between the pieces of calls. -/
structure Tenure (i : Nat) (first hand shut : List ChannelId) (w : Moment) : Prop where
  sound : Happening.Sound w.past
  whereabouts : Whereabouts i first hand shut w
  crossing : Crossing i hand w

namespace Tenure

variable {i : Nat} {first hand shut : List ChannelId} {w : Moment} {r : Request} {c : ChannelId}

theorem start {s : Client} (idle : (s.consumers i).channel = none) :
    Tenure i s.manager.tracked [] [] { state := s } :=
  ⟨fun _ => Nat.le_refl 0, .start idle, .start idle⟩

/-- A channel is opened when the consumer has none of its own. -/
theorem ask_open (h : Tenure i first [] [] w) (none : ownChannel i w.state = none)
    (k : ConnectionId) : Tenure i first [] [] (w.ask (.openChannel k)) where
  sound := h.sound.ask _
  whereabouts := h.whereabouts.ask h.sound nofun nofun
  crossing := h.crossing.ask (fun _ => .inl none) nofun

/-- A channel in hand is provisioned. -/
theorem ask_provision (h : Tenure i first [c] [] w) (provisions : r.provisions = [c]) :
    Tenure i first [] [] (w.ask r) := by
  have plain : r.closes = [] ∧ isClosing r = false := by
    cases r with
    | closeChannel | closeChannels => cases provisions
    | _ => exact ⟨rfl, rfl⟩
  refine ⟨h.sound.ask _, h.whereabouts.ask h.sound ?_ ?_, h.crossing.ask ?_ ?_⟩
  · exact fun d hd => provisions ▸ hd
  · rw [plain.1]
    exact nofun
  · exact fun _ => .inr (List.cons_ne_nil c [])
  · rw [plain.2]
    exact nofun

/-- The channel that the consumer has is closed. -/
theorem ask_close_own (h : Tenure i first [] [] w) (own : ownChannel i w.state = some c) :
    Tenure i first [] [] (w.ask (.closeChannel c)) := by
  refine ⟨h.sound.ask _, h.whereabouts.ask h.sound nofun fun d hd => ?_,
    h.crossing.ask nofun fun _ => .inl fun d had => ?_⟩
  · obtain rfl := List.mem_singleton.mp hd
    exact ⟨rfl, .inr own⟩
  · rw [own] at had
    cases had
    exact List.mem_cons_self

/-- A channel in hand is closed. -/
theorem ask_close_hand (h : Tenure i first [c] [] w) :
    Tenure i first [] [] (w.ask (.closeChannel c)) := by
  refine ⟨h.sound.ask _, h.whereabouts.ask h.sound nofun fun d hd => ?_,
    h.crossing.ask nofun fun _ => .inr (List.cons_ne_nil c [])⟩
  obtain rfl := List.mem_singleton.mp hd
  exact ⟨rfl, .inl hd⟩

/-- Something is asked for that neither makes nor closes channels. -/
theorem ask_plain (h : Tenure i first [] [] w) (making : isMaking r = false)
    (provisions : r.provisions = []) (closes : r.closes = []) :
    Tenure i first [] [] (w.ask r) := by
  have closing : isClosing r = false := by
    cases r with
    | closeChannel => cases closes
    | _ => rfl
  refine ⟨h.sound.ask _, h.whereabouts.ask h.sound ?_ ?_, h.crossing.ask ?_ ?_⟩
  · rw [provisions]
    exact nofun
  · rw [closes]
    exact nofun
  · rw [making]
    exact nofun
  · rw [closing]
    exact nofun

theorem reply (h : Tenure i first [] [] w) (awaits : w.Awaits r) {a : Except Error r.Reply}
    (closes : ∀ c ∈ r.closes, r = .closeChannel c)
    (fresh : ∀ c ∈ r.opens a, c ∉ first ∧ c ∉ openings w.past) :
    Tenure i first (r.opens a ++ r.provisions) r.closes (w.reply r a) where
  sound := h.sound.reply awaits a
  whereabouts := h.whereabouts.reply awaits closes fresh
  crossing := by
    refine h.crossing.reply awaits a fun held => ?_
    cases r with
    | openChannel => rfl
    | declareExchange | declareQueue | bindQueue | setPrefetch => rfl
    | _ => exact (held rfl).elim

/-- After the reply to a close, the consumer may be let go of the channel that it has. -/
theorem loose_of_reply (h : Tenure i first [] [] w) (awaits : w.Awaits r) (closing : isClosing r)
    (a : Except Error r.Reply) : Loose i (w.reply r a) := by
  intro d own _
  rw [Moment.reply, closings_append_replied]
  exact (h.crossing.closing (awaits.awaited_pos closing) d own).imp_right (·.append _)

/-- A channel in hand is tracked, and becomes the consumer's own. -/
theorem settle (h : Tenure i first [c] [] w) {f g : Client → Client}
    (tracks : (f w.state).manager.tracked = w.state.manager.tracked ++ [c])
    (same : ownChannel i (f w.state) = ownChannel i w.state)
    (manager : (g (f w.state)).manager = (f w.state).manager)
    (own : ownChannel i (g (f w.state)) = some c) :
    Tenure i first [] [] ((w.change f).change g) where
  sound := (h.sound.change _ _).change _ _
  whereabouts := h.whereabouts.settle tracks same manager own
  crossing := (h.crossing.change same).settle own

/-- A channel that has just been closed ceases to be tracked. -/
theorem untrack (h : Tenure i first [] [c] w) (closed : c ∈ closings w.past) {f : Client → Client}
    (untracks : ∀ d, d ∈ (f w.state).manager.tracked ↔ d ∈ w.state.manager.tracked ∧ d ≠ c)
    (own : ownChannel i (f w.state) = ownChannel i w.state) :
    Tenure i first [] [] (w.change f) where
  sound := h.sound.change _ _
  whereabouts := h.whereabouts.untrack [c]
    (fun _ gone => List.mem_singleton.mp gone ▸ closed)
    (fun d => by rw [untracks, List.mem_singleton]) own fun _ shut => .inl shut
  crossing := h.crossing.change own

/-- A channel that is closed while it is in hand is discarded. -/
theorem discards (h : Tenure i first [c] [] w) :
    Discarded i (w.ask (Request.closeChannel c)).past c :=
  ⟨w.past, [], rfl, (h.whereabouts.making c (.inl List.mem_cons_self)).2.2.2⟩

/-- A channel that has been discarded and closed is out of the way. -/
theorem forget (h : Tenure i first hand [c] w) (discarded : Discarded i w.past c) :
    Tenure i first hand [] w :=
  ⟨h.sound, h.whereabouts.forget (h.whereabouts.discarded c discarded), h.crossing⟩

/-- A change that touches neither what is tracked nor the consumer's channel. -/
theorem change (h : Tenure i first hand shut w) {f : Client → Client}
    (tracked : (f w.state).manager.tracked = w.state.manager.tracked)
    (own : ownChannel i (f w.state) = ownChannel i w.state) :
    Tenure i first hand shut (w.change f) :=
  ⟨h.sound.change _ _, h.whereabouts.change tracked own, h.crossing.change own⟩

/-- The consumer gives up its channel, or has none. -/
theorem letGo (h : Tenure i first [] [] w) (loose : Loose i w) {f : Client → Client}
    (same : (f w.state).manager = w.state.manager) (own : ownChannel i (f w.state) = none) :
    Tenure i first [] [] (w.change f) :=
  ⟨h.sound.change _ _, h.whereabouts.letGo same own, h.crossing.letGo loose own⟩

end Tenure

end BrokerClient.Client
