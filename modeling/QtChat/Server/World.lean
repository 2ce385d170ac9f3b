import Mathlib.Data.List.AList
import QtChat.Interleave.Prog
import QtChat.Server.Database
import QtChat.Server.Json

/-!
# Servers, Redis and the atomic actions

The state of a system of chat servers that share one MySQL and one Redis, and the atomic actions
(`Act`) that the handlers of `chatservice.cpp` are made of: one SQL statement, one Redis command,
one `send`, and one section under `_connMutex` each.

- A server (`Server`) has the members of `ChatService` that handlers change, the state of its TCP
  connections (Muduo drops what is sent after `shutdown` or a close), its two hiredis contexts, the
  channels that Redis has for its subscriber connection (`live`), and the messages that Redis has
  pushed and the observer thread has not read (`inbox`). `outbox` is every packet given to `send`.
- The outcomes that the code does not decide are in the world: `fates` says of the next `acquire` or
  statement whether it works, and which entry an `unordered_map` iterates to first.
-/

namespace QtChat

open Interleave

/-- A `TcpConnection` of one server. -/
abbrev ConnId := Nat

abbrev ServerId := Nat

/-- The state of a connection in Muduo. -/
inductive ConnState where
  | connected
  /-- `shutdown` was called. -/
  | disconnecting
  | disconnected
  deriving DecidableEq

/-- A call of `conn->send`. -/
structure Delivery where
  conn : ConnId
  js : Json
  /-- The connection was open, so Muduo took the packet. -/
  accepted : Bool

abbrev ConnMap := AList fun _ : Int => ConnId

structure Server where
  running : Bool
  /-- `_userConnMap`. -/
  userConnMap : ConnMap
  /-- `_connectionLastTime`. -/
  connectionLastTime : AList fun _ : ConnId => Int
  conns : ConnId → ConnState
  /-- `_publish_context` is there and without error. -/
  publishContext : Bool
  /-- `_subcribe_context` is there and without error. -/
  subscribeContext : Bool
  /-- The observer thread was started. -/
  observer : Bool
  /-- `_subscribed_channels`. -/
  subscribedChannels : Int → Bool
  /-- The channels Redis has for the subscriber connection. -/
  live : Int → Bool
  inbox : List (Int × Str)
  outbox : List Delivery

/-- A server process that is not running. -/
def Server.stopped : Server where
  running := false
  userConnMap := ∅
  connectionLastTime := ∅
  conns _ := .disconnected
  publishContext := false
  subscribeContext := false
  observer := false
  subscribedChannels _ := false
  live _ := false
  inbox := []
  outbox := []

/-- What decides the next outcome that is not the code's. -/
structure Fate where
  ok : Bool
  pick : Nat

structure World where
  db : Database
  servers : ServerId → Server
  fates : Nat → Fate
  now : Int

/-- Why a program cannot go on. -/
inductive Halt where
  /-- `sprintf` past the end of its buffer. -/
  | bufferOverflow
  /-- An exception that nothing catches. -/
  | uncaughtException
  deriving DecidableEq

/-- An atomic action. -/
inductive Act where
  /-- `PooledMySQL::acquire`. -/
  | acquire
  | sql (st : Stmt)
  | send (conn : ConnId) (js : Json)
  | shutdown (conn : ConnId)
  | publish (channel : Int) (message : Str)
  | subscribe (channel : Int)
  | unsubscribe (channel : Int)
  -- sections under `_connMutex`
  | findConn (id : Int)
  | forceRelogin (id : Int) (conn : ConnId)
  | mapUser (id : Int) (conn : ConnId)
  | eraseUser (id : Int)
  | eraseConn (conn : ConnId)
  | eraseLastTime (conn : ConnId)
  | routeGroup (ids : List Int) (js : Json)
  | splitFriends (ids : List Int)
  | updateConnTime (conn : ConnId)
  | staleConns
  | halt (why : Halt)

/-- The answer of an action. -/
@[reducible] def Act.Res : Act → Type
  | .acquire => Bool
  | .sql st => Option st.Ans
  | .send .. => Unit
  | .shutdown _ => Unit
  | .publish .. => Bool
  | .subscribe _ => Bool
  | .unsubscribe _ => Bool
  | .findConn _ => Option ConnId
  | .forceRelogin .. => Unit
  | .mapUser .. => Unit
  | .eraseUser _ => Unit
  | .eraseConn _ => Option Int
  | .eraseLastTime _ => Unit
  | .routeGroup .. => List Int
  | .splitFriends _ => List ConnId × List Int
  | .updateConnTime _ => Unit
  | .staleConns => List ConnId
  | .halt _ => Empty

namespace Server

/-- `conn->send`. -/
def deliver (s : Server) (conn : ConnId) (js : Json) : Server :=
  { s with outbox := s.outbox ++ [⟨conn, js, s.conns conn = .connected⟩] }

/-- `conn->shutdown()`. -/
def shutdownConn (s : Server) (conn : ConnId) : Server :=
  if s.conns conn = .connected then
    { s with conns := Function.update s.conns conn .disconnecting }
  else s

/-- `Redis::subscribe`, when Redis answers. -/
def subscribe (s : Server) (ch : Int) : Server :=
  if s.subscribeContext then
    { s with subscribedChannels := Function.update s.subscribedChannels ch true
             live := Function.update s.live ch true }
  else s

/-- `Redis::unsubscribe`. -/
def unsubscribe (s : Server) (ch : Int) : Server :=
  if s.subscribeContext then
    { s with subscribedChannels := Function.update s.subscribedChannels ch false
             live := Function.update s.live ch false }
  else s

/-- The section of `login` for a user who is online: the old connection is shut down and replaced,
the channel unsubscribed and subscribed again. -/
def forceRelogin (s : Server) (id : Int) (conn : ConnId) : Server :=
  let s := match s.userConnMap.lookup id with
    | none => s
    | some old => { s.shutdownConn old with userConnMap := s.userConnMap.erase id }
  (({ s with userConnMap := s.userConnMap.insert id conn }).unsubscribe id).subscribe id

/-- The entries of `_userConnMap` with this connection. -/
def entriesOf (s : Server) (conn : ConnId) : List Int :=
  (s.userConnMap.entries.filter fun e => e.2 = conn).map (·.1)

/-- The id that the loop of `clientCloseException` meets first. -/
def firstOf (s : Server) (conn : ConnId) (pick : Nat) : Option Int :=
  (s.entriesOf conn)[pick % (s.entriesOf conn).length]?

/-- A message that Redis pushes to the server if it has the channel. -/
def push (s : Server) (ch : Int) (message : Str) : Server :=
  if s.live ch then { s with inbox := s.inbox ++ [(ch, message)] } else s

end Server

namespace World

/-- The world with server `i` changed. -/
def modify (w : World) (i : ServerId) (f : Server → Server) : World :=
  { w with servers := Function.update w.servers i (f (w.servers i)) }

/-- The world after one outcome is decided. -/
def next (w : World) : World := { w with fates := fun n => w.fates (n + 1) }

/-- One atomic action on server `i`. -/
def exec (i : ServerId) : (a : Act) → World → Option (a.Res × World)
  | .acquire, w => some ((w.fates 0).ok, w.next)
  | .sql st, w =>
    if (w.fates 0).ok then
      match w.db.exec st with
      | none => some (none, w.next)
      | some (r, db) => some (some r, { w.next with db })
    else some (none, w.next)
  | .send conn js, w => some ((), w.modify i (·.deliver conn js))
  | .shutdown conn, w => some ((), w.modify i (·.shutdownConn conn))
  | .publish ch message, w =>
    if (w.servers i).publishContext then
      some (true, { w with servers := fun j => (w.servers j).push ch (cstr message) })
    else some (false, w)
  | .subscribe ch, w => some ((w.servers i).subscribeContext, w.modify i (·.subscribe ch))
  | .unsubscribe ch, w => some ((w.servers i).subscribeContext, w.modify i (·.unsubscribe ch))
  | .findConn id, w => some ((w.servers i).userConnMap.lookup id, w)
  | .forceRelogin id conn, w => some ((), w.modify i (·.forceRelogin id conn))
  | .mapUser id conn, w =>
    some ((), w.modify i fun s => { s with userConnMap := s.userConnMap.insert id conn })
  | .eraseUser id, w =>
    some ((), w.modify i fun s => { s with userConnMap := s.userConnMap.erase id })
  | .eraseConn conn, w =>
    match (w.servers i).firstOf conn (w.fates 0).pick with
    | none => some (none, w.next)
    | some id => some (some id,
        w.next.modify i fun s => { s with userConnMap := s.userConnMap.erase id })
  | .eraseLastTime conn, w =>
    some ((), w.modify i fun s => { s with connectionLastTime := s.connectionLastTime.erase conn })
  | .routeGroup ids js, w =>
    some (ids.filter fun id => ((w.servers i).userConnMap.lookup id).isNone,
      w.modify i fun s => (ids.filterMap (s.userConnMap.lookup ·)).foldl (·.deliver · js) s)
  | .splitFriends ids, w =>
    some ((ids.filterMap ((w.servers i).userConnMap.lookup ·),
      ids.filter fun id => ((w.servers i).userConnMap.lookup id).isNone), w)
  | .updateConnTime conn, w =>
    some ((), w.modify i fun s =>
      { s with connectionLastTime := s.connectionLastTime.insert conn w.now })
  | .staleConns, w =>
    some (((w.servers i).connectionLastTime.entries.filter fun e => w.now - e.2 > 30).map (·.1), w)
  | .halt _, _ => none

end World

/-- The language of the handlers. -/
abbrev chat : Lang where
  Act := Act
  Res := Act.Res
  Site := ServerId
  State := World
  exec := World.exec

/-- A handler of the server, or a part of one. -/
abbrev Serv (α : Type) := Prog chat α

end QtChat
