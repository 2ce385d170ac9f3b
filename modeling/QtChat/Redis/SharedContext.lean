import QtChat.Redis.Subscriber

/-!
# The subscriber context between threads

`_subcribe_context` as any number of calls of `Redis::subscribe` and `unsubscribe` and the observer
thread share it. A section under `_subscribeMutex` is one step, and so is each read of the pointer
outside it: a call reads it twice before it takes the lock (`== nullptr`, then `->err`), the
observer twice before it polls.

Nothing goes on after a fault (`Fault`): the process reads or writes through a null pointer.
-/

namespace QtChat

open Interleave

/-- Where a call is. -/
inductive CallStage where
  /-- The pointer was not null. -/
  | notNull
  /-- `err` was 0; it takes the lock next. -/
  | checked
  /-- The command is written. -/
  | written
  deriving DecidableEq

/-- Where `observer_channel_message` is. -/
inductive ObserverStage where
  /-- At the test of `_running`. -/
  | top
  /-- The pointer was not null. -/
  | notNull
  | polling
  /-- `poll` found the socket readable. -/
  | readable
  /-- `redisGetReply` has failed. -/
  | failed
  /-- The pointer was null. -/
  | lost
  | quit
  deriving DecidableEq

inductive Fault where
  /-- `_subcribe_context->err` or `->fd` of a null pointer. -/
  | nullRead
  /-- A null pointer is given to a function of hiredis. -/
  | nullGiven
  deriving DecidableEq

structure SharedContext where
  /-- `_subcribe_context`. -/
  context : Option SubscribeContext
  /-- `_subscribed_channels`. -/
  subscribedChannels : List Int
  /-- The calls that are being made, by their threads. -/
  calls : Nat → Option (ChannelCall × CallStage)
  observer : ObserverStage
  fault : Option Fault

inductive SharedLabel where
  /-- A thread begins a call: it reads the pointer. -/
  | begin (t : Nat) (call : ChannelCall)
  /-- It reads `_subcribe_context->err`. -/
  | readErr (t : Nat)
  /-- The section that writes the command; `ok`: the socket takes it. -/
  | write (t : Nat) (ok : Bool)
  | record (t : Nat)
  /-- The observer reads the pointer. -/
  | look
  /-- It reads `_subcribe_context->fd`. -/
  | readFd
  | poll (readable : Bool)
  /-- The section of `redisGetReply`. -/
  | getReply (ok : Bool)
  /-- The section that frees the context. -/
  | free
  /-- `resubscribe`; `writes` of its writes work. -/
  | resubscribe (connects : Bool) (writes : Nat)
  /-- `_running` is false. -/
  | quit
  deriving DecidableEq

namespace SharedContext

/-- After a `connect` that worked. -/
def start : SharedContext := ⟨some .connect, [], fun _ => none, .top, none⟩

/-- After a `connect` that failed: there is no observer. -/
def off : SharedContext := ⟨none, [], fun _ => none, .quit, none⟩

/-- The call of thread `t` goes on to a stage, or returns. -/
def setCall (s : SharedContext) (t : Nat) (c : Option (ChannelCall × CallStage)) : SharedContext :=
  { s with calls := Function.update s.calls t c }

/-- The section of a call. -/
def writeCall (s : SharedContext) (t : Nat) (call : ChannelCall) (ok : Bool) : SharedContext :=
  match s.context with
  | none => { s with fault := some .nullGiven }
  | some c =>
    match c.write call ok with
    | (true, c) => { s.setCall t (some (call, .written)) with context := some c }
    | (false, c) => { s.setCall t none with context := some c }

/-- The section of `redisGetReply`, which looks at the pointer once more. -/
def getReply (s : SharedContext) (ok : Bool) : SharedContext :=
  match s.context with
  | none => { s with observer := .top }
  | some c => if ok then { s with observer := .top }
    else { s with context := some { c with err := true }, observer := .failed }

/-- `resubscribe`, after which the observer is at the top of its loop. -/
def resubscribe (s : SharedContext) (connects : Bool) (writes : Nat) : SharedContext :=
  match s.context.or (if connects then some .connect else none) with
  | none => { s with observer := .top }
  | some c => { s with context := some (c.replay s.subscribedChannels writes).2, observer := .top }

/-- A step of the threads; see `step`. -/
def move : SharedLabel → SharedContext → Option SharedContext
  | .begin t call, s =>
    match s.calls t with
    | none => some (if s.context.isSome then s.setCall t (some (call, .notNull)) else s)
    | some _ => none
  | .readErr t, s =>
    match s.calls t with
    | some (call, .notNull) =>
      match s.context with
      | none => some { s with fault := some .nullRead }
      | some c => some (s.setCall t (if c.err then none else some (call, .checked)))
    | _ => none
  | .write t ok, s =>
    match s.calls t with
    | some (call, .checked) => some (s.writeCall t call ok)
    | _ => none
  | .record t, s =>
    match s.calls t with
    | some (call, .written) =>
      some { s.setCall t none with subscribedChannels := call.record s.subscribedChannels }
    | _ => none
  | .look, s =>
    if s.observer = .top then
      some { s with observer := if s.context.isSome then .notNull else .lost }
    else none
  | .readFd, s =>
    if s.observer = .notNull then
      match s.context with
      | none => some { s with fault := some .nullRead }
      | some _ => some { s with observer := .polling }
    else none
  | .poll readable, s =>
    if s.observer = .polling then some { s with observer := if readable then .readable else .top }
    else none
  | .getReply ok, s => if s.observer = .readable then some (s.getReply ok) else none
  | .free, s =>
    if s.observer = .failed then some { s with context := none, observer := .top } else none
  | .resubscribe connects writes, s =>
    if s.observer = .lost then some (s.resubscribe connects writes) else none
  | .quit, s =>
    if s.observer = .top ∨ s.observer = .polling ∨ s.observer = .failed then
      some { s with observer := .quit }
    else none

/-- A step, while there was no fault. -/
def step (l : SharedLabel) (s : SharedContext) : Option SharedContext :=
  if s.fault = none then move l s else none

end SharedContext

/-- The threads that share the subscriber context. -/
def sharedContext : Machine where
  State := SharedContext
  Label := SharedLabel
  init s := s = .start ∨ s = .off
  step := SharedContext.step

end QtChat
