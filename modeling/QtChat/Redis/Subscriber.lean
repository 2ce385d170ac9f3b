import Mathlib.Data.List.Sort
import QtChat.Interleave.Machine
import QtChat.Server.World

/-!
# The subscriber connection

`Redis::subscribe`, `unsubscribe` and `resubscribe`, with the losses that the observer thread sees.

- **A call** tests the context without the lock, writes its command under `_subscribeMutex` and
  records the channel under `_channelMutex` (`CallPc`); it records nothing if the test or the write
  fails.
- **The observer** frees the context after an error, and connects anew and subscribes to the
  recorded channels (`resubscribe`).

The labels say which writes and connects work. A command that is written takes effect for its
connection. `calls` and `resubscribed` only note what has happened.
-/

namespace QtChat

open Interleave

/-- A call that the service makes. -/
inductive ChannelCall where
  | subscribe (channel : Int)
  | unsubscribe (channel : Int)
  deriving DecidableEq

namespace ChannelCall

def channel : ChannelCall → Int
  | subscribe ch => ch
  | unsubscribe ch => ch

/-- The channel is to be subscribed. -/
def wanted : ChannelCall → Bool
  | subscribe _ => true
  | unsubscribe _ => false

end ChannelCall

/-- `_subcribe_context`: a hiredis context, and the channels that Redis has for its connection. -/
structure SubscribeContext where
  /-- `err != 0`. -/
  err : Bool
  channels : Int → Bool

namespace SubscribeContext

/-- `redisConnect`, if it works. -/
def connect : SubscribeContext := ⟨false, fun _ => false⟩

/-- `redisAppendCommand` and `redisBufferWrite` until all is written; `ok`: the socket takes it. -/
def write (c : SubscribeContext) (call : ChannelCall) (ok : Bool) : Bool × SubscribeContext :=
  if c.err then (false, c)
  else if ok then (true, { c with channels := Function.update c.channels call.channel call.wanted })
  else (false, { c with err := true })

/-- The loop of `resubscribe`; `writes` of its writes work. -/
def replay : List Int → Nat → SubscribeContext → Bool × SubscribeContext
  | [], _, c => (true, c)
  | ch :: chs, writes, c =>
    match c.write (.subscribe ch) (0 < writes) with
    | (true, c) => replay chs (writes - 1) c
    | (false, c) => (false, c)

end SubscribeContext

/-- `_subscribed_channels.insert` and `.erase`; the set is a list in ascending order. -/
def ChannelCall.record : ChannelCall → List Int → List Int
  | subscribe ch, l => if ch ∈ l then l else l.orderedInsert (· ≤ ·) ch
  | unsubscribe ch, l => l.filter (· ≠ ch)

/-- Where a call is. -/
inductive CallPc where
  /-- The context was there and without error. -/
  | checked
  /-- The command is written. -/
  | written
  deriving DecidableEq

structure Subscriber where
  /-- `_subcribe_context`. -/
  context : Option SubscribeContext
  /-- `_subscribed_channels`. -/
  subscribedChannels : List Int
  /-- The call that is being made. -/
  calling : Option (ChannelCall × CallPc)
  /-- The calls that have returned. -/
  calls : List ChannelCall
  /-- A `resubscribe` has succeeded since the last loss. -/
  resubscribed : Bool

inductive SubscriberLabel where
  /-- A call begins with its test of the context. -/
  | call (c : ChannelCall)
  /-- It writes its command. -/
  | write (ok : Bool)
  /-- It records the channel and returns. -/
  | record
  /-- The observer thread frees the context. -/
  | lose
  | resubscribe (connects : Bool) (writes : Nat)
  deriving DecidableEq

namespace Subscriber

/-- After a `connect` that worked. -/
def start : Subscriber := ⟨some .connect, [], none, [], false⟩

/-- The context is there and without error. -/
def usable (s : Subscriber) : Bool := s.context.any (!·.err)

/-- A call returns. -/
def done (s : Subscriber) (call : ChannelCall) : Subscriber :=
  { s with calling := none, calls := s.calls ++ [call] }

/-- `resubscribe`, and whether it succeeds. -/
def resubscribe (s : Subscriber) (connects : Bool) (writes : Nat) : Subscriber :=
  match s.context.or (if connects then some .connect else none) with
  | none => s
  | some c =>
    match c.replay s.subscribedChannels writes with
    | (ok, c) => { s with context := some c, resubscribed := ok }

def step : SubscriberLabel → Subscriber → Option Subscriber
  | .call call, s =>
    match s.calling with
    | none => if s.usable then some { s with calling := some (call, .checked) } else some (s.done call)
    | some _ => none
  | .write ok, s =>
    match s.calling, s.context with
    | some (call, .checked), some c =>
      match c.write call ok with
      | (true, c) => some { s with context := some c, calling := some (call, .written) }
      | (false, c) => some { s.done call with context := some c }
    | _, _ => none
  | .record, s =>
    match s.calling with
    | some (call, .written) =>
      some { s.done call with subscribedChannels := call.record s.subscribedChannels }
    | _ => none
  | .lose, s => if s.context.isSome then some { s with context := none, resubscribed := false } else none
  | .resubscribe connects writes, s =>
    if s.context.isNone then some (s.resubscribe connects writes) else none

end Subscriber

/-- The subscriber connection of a server, from `connect` on. -/
def subscriber : Machine where
  State := Subscriber
  Label := SubscriberLabel
  init s := s = .start
  step := Subscriber.step

theorem Subscriber.runs_cons {s s₁ : Subscriber} {l : SubscriberLabel} {ls : List SubscriberLabel}
    (hl : Subscriber.step l s = some s₁) : subscriber.runs (l :: ls) s = subscriber.runs ls s₁ :=
  Machine.runs_step (M := subscriber) hl

/-! ## What a call does -/

theorem mem_record (call : ChannelCall) (l : List Int) (ch : Int) :
    ch ∈ call.record l ↔ if ch = call.channel then call.wanted = true else ch ∈ l := by
  cases call with
  | subscribe c =>
    simp only [ChannelCall.record, ChannelCall.channel, ChannelCall.wanted]
    by_cases hc : c ∈ l
    · rw [if_pos hc]
      by_cases e : ch = c
      · rw [if_pos e, e]
        exact iff_of_true hc trivial
      · rw [if_neg e]
    · rw [if_neg hc, List.mem_orderedInsert]
      by_cases e : ch = c
      · simp [e]
      · simp [e]
  | unsubscribe c =>
    simp only [ChannelCall.record, ChannelCall.channel, ChannelCall.wanted, List.mem_filter, decide_eq_true_eq]
    by_cases e : ch = c
    · simp [e]
    · simp [e]

/-- The channels of a list. -/
def inList (l : List Int) (ch : Int) : Bool := ch ∈ l

/-- The recorded channels after a call. -/
theorem inList_record (call : ChannelCall) (l : List Int) :
    inList (call.record l) = Function.update (inList l) call.channel call.wanted := by
  funext ch
  have h := mem_record call l ch
  rw [Function.update_apply, inList, inList]
  by_cases e : ch = call.channel
  · rw [if_pos e] at h ⊢
    rw [show call.wanted = decide (call.wanted = true) by simp]
    exact decide_eq_decide.mpr h
  · rw [if_neg e] at h ⊢
    exact decide_eq_decide.mpr h

namespace Subscriber

/-- What a server sees of its subscriber connection. -/
def onServer (s : Subscriber) (server : Server) : Server :=
  { server with
    subscribeContext := s.usable
    subscribedChannels := inList s.subscribedChannels
    live := fun ch => s.context.any (·.channels ch) }

end Subscriber

/-- The same call in the model of the server. -/
def ChannelCall.onServer : ChannelCall → Server → Server
  | subscribe ch, server => server.subscribe ch
  | unsubscribe ch, server => server.unsubscribe ch

theorem ChannelCall.onServer_eq (call : ChannelCall) {server : Server} (h : server.subscribeContext = true) :
    call.onServer server = { server with
      subscribedChannels := Function.update server.subscribedChannels call.channel call.wanted
      live := Function.update server.live call.channel call.wanted } := by
  cases call with
  | subscribe ch => exact if_pos h
  | unsubscribe ch => exact if_pos h

/-- **A call that nothing comes in between** is the server's atomic one. -/
theorem call_onServer {s s' : Subscriber} {call : ChannelCall} (server : Server)
    (hu : s.usable = true)
    (h : subscriber.runs [.call call, .write true, .record] s = some s') :
    s'.onServer server = call.onServer (s.onServer server) := by
  obtain ⟨context, channels, calling, calls, resubscribed⟩ := s
  cases context with
  | none => cases hu
  | some c =>
    obtain ⟨err, live⟩ := c
    cases err with
    | true => cases hu
    | false =>
      cases calling with
      | some => cases h
      | none =>
        cases h
        rw [ChannelCall.onServer_eq call hu]
        unfold Subscriber.onServer Subscriber.done
        simp only [inList_record]
        congr 1

/-- **A call on a connection that is lost** changes nothing, there as here. -/
theorem call_onServer_lost {s s' : Subscriber} {call : ChannelCall} (server : Server)
    (hu : s.usable = false) (h : subscriber.runs [.call call] s = some s') :
    s'.onServer server = call.onServer (s.onServer server) := by
  have hs : ∀ x : Server, x.subscribeContext = false → call.onServer x = x := by
    intro x hx
    cases call <;> simp [ChannelCall.onServer, Server.subscribe, Server.unsubscribe, hx]
  rw [hs (s.onServer server) hu]
  obtain ⟨s₁, h₁, h₂⟩ := Option.bind_eq_some_iff.mp h
  cases h₂
  change Subscriber.step (.call call) s = some s' at h₁
  rw [Subscriber.step] at h₁
  split at h₁
  · rw [if_neg (by rw [hu]; decide)] at h₁
    cases h₁
    rfl
  · cases h₁

end QtChat
