import QtChat.Framing.Decoder
import QtChat.Interleave.Machine
import QtChat.Server.Json

/-!
# The observer thread

`Redis::observer_channel_message`: the loop that waits in `poll`, takes a reply with `redisGetReply`
and passes `message` replies to the notify handler.

- **hiredis** is a parameter (`Hiredis`): how replies are cut from the bytes of the reader, and what
  they are. `redisGetReply` returns a reply that is in the reader already, and reads what is on the
  socket otherwise, until there is one.
- **The thread** is in `poll` or in `redisGetReply`, or has freed the context after an error
  (`ObserverPc`). The bytes that Redis has sent arrive on the socket in any pieces.
-/

namespace QtChat

open Framing Interleave

/-- The `type` of a `redisReply`. -/
inductive ReplyType where
  | string
  | array
  | integer
  | nil
  | status
  | error
  deriving DecidableEq

/-- A `redisReply`; `none` is a null pointer. -/
inductive RedisReply where
  | mk (type : ReplyType) (str : Option Str) (element : List (Option RedisReply))

namespace RedisReply

def type : RedisReply → ReplyType
  | .mk type _ _ => type

def str : RedisReply → Option Str
  | .mk _ str _ => str

def element : RedisReply → List (Option RedisReply)
  | .mk _ _ element => element

/-- `element[i]->str`, `element[i]` being there. -/
def elementStr (reply : RedisReply) (i : Nat) : Option Str :=
  ((reply.element[i]?).bind id).bind str

end RedisReply

/-- `isspace`. -/
def isSpace (b : UInt8) : Bool := b = 32 || (9 ≤ b && b ≤ 13)

/-- `atoi`, for numbers that an `int` holds. -/
def atoi (s : Str) : Int :=
  match s.dropWhile isSpace with
  | 45 :: r => -(digitsValue (r.takeWhile isDigit) : Int)
  | 43 :: r => (digitsValue (r.takeWhile isDigit) : Int)
  | r => (digitsValue (r.takeWhile isDigit) : Int)

/-- What the loop does with a reply. -/
inductive Upshot where
  | ignored
  /-- `_notify_message_handler(channel, message)`. -/
  | notify (channel : Int) (message : Str)
  /-- A null pointer is given to `atoi`. -/
  | undefined
  deriving DecidableEq

/-- The test of the loop: only `message` pushes count. -/
def upshot (reply : RedisReply) : Upshot :=
  if reply.type = .array ∧ 3 ≤ reply.element.length then
    match reply.elementStr 0, reply.elementStr 2 with
    | some kind, some message =>
      if cstr kind = txt "message" then
        match reply.elementStr 1 with
        | some channel => .notify (atoi channel) (cstr message)
        | none => .undefined
      else .ignored
    | _, _ => .ignored
  else .ignored

/-- The call of the handler for a reply. -/
def notifyCall (reply : RedisReply) : Option (Int × Str) :=
  match upshot reply with
  | .notify channel message => some (channel, message)
  | _ => none

/-- What hiredis knows of replies: where one ends, and what it is. -/
structure Hiredis where
  resp : Decoder UInt8
  reply : Str → RedisReply

inductive ObserverPc where
  /-- At the top of the loop or in `poll`. -/
  | poll
  /-- In `redisGetReply`, blocked until bytes arrive. -/
  | getReply
  /-- `redisGetReply` has failed and the context is freed. -/
  | freed
  deriving DecidableEq

structure Observer where
  pc : ObserverPc
  /-- The bytes in the context's reader. -/
  reader : Str
  /-- The bytes on the socket that are not read. -/
  socket : Str
  /-- The bytes that Redis has sent and that have not arrived. -/
  incoming : Str
  /-- The calls of `_notify_message_handler`. -/
  notified : List (Int × Str)

inductive ObserverLabel where
  /-- A segment of `n` bytes arrives. -/
  | arrive (n : Nat)
  /-- `poll` times out. -/
  | timeout
  /-- `poll` finds the socket readable, and `redisGetReply` is called. -/
  | readable
  /-- Bytes are there for the blocked `redisGetReply`. -/
  | resume
  deriving DecidableEq

namespace Observer

variable (H : Hiredis)

/-- The observer of a new connection on which Redis sends `stream`. -/
def start (stream : Str) : Observer := ⟨.poll, [], [], stream, []⟩

/-- The loop goes on with the reply that is at the front of the reader. -/
def handle (s : Observer) (body rest : Str) : Option Observer :=
  match upshot (H.reply body) with
  | .ignored => some { s with pc := .poll, reader := rest }
  | .notify channel message =>
    some { s with pc := .poll, reader := rest, notified := s.notified ++ [(channel, message)] }
  | .undefined => none

/-- `redisBufferRead`: what is on the socket goes to the reader. -/
def bufferRead (s : Observer) : Observer := { s with reader := s.reader ++ s.socket, socket := [] }

/-- `redisGetReply` with the bytes that the reader has. -/
def takeReply (s : Observer) : Option Observer :=
  match H.resp.front s.reader with
  | .frame body rest => s.handle H body rest
  | .bad => some { s with pc := .freed }
  | .more => some { s with pc := .getReply }

/-- `redisGetReply`. -/
def redisGetReply (s : Observer) : Option Observer :=
  match H.resp.front s.reader with
  | .more => s.bufferRead.takeReply H
  | _ => s.takeReply H

def step : ObserverLabel → Observer → Option Observer
  | .arrive n, s =>
    if 0 < n ∧ n ≤ s.incoming.length then
      some { s with socket := s.socket ++ s.incoming.take n, incoming := s.incoming.drop n }
    else none
  | .timeout, s => if s.pc = .poll then some s else none
  | .readable, s => if s.pc = .poll ∧ s.socket ≠ [] then s.redisGetReply H else none
  | .resume, s => if s.pc = .getReply ∧ s.socket ≠ [] then s.bufferRead.takeReply H else none

/-- The calls of the handler that the bytes not yet handled stand for. -/
def pending (s : Observer) : List (Int × Str) :=
  ((H.resp.drain (s.reader ++ s.socket ++ s.incoming)).1.map H.reply).filterMap notifyCall

end Observer

/-- The observer of a connection on which Redis sends `stream`. -/
def observer (H : Hiredis) (stream : Str) : Machine where
  State := Observer
  Label := ObserverLabel
  init s := s = .start stream
  step := Observer.step H

end QtChat
