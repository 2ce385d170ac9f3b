import QtChat.Interleave.Locks

/-!
# The locks of the server

For every function of the server its code as far as the locks go: the sections under a lock, what
is called in them and around them, and every way to leave them. Data is left out: a condition goes
either way, so each run of the function is a run of its code. A `std::lock_guard` at the head of a
block is `locked`; the wait for a condition variable gives the lock back (`unlocked`) and may return
at any time. Calls of libraries (`muduo`, `hiredis`, `mysql`) take none of these locks and call
nothing back while they run.

`Role` are the threads. `rank` is the order in which the functions nest the locks; each function has
one lemma (`…_orderly`) that says above which locks it runs, and `thread_orderly` puts them
together.
-/

namespace QtChat.Locking

open Interleave Interleave.Code

/-- The mutexes of the server. -/
inductive Lock where
  /-- `ChatService::_connMutex`. -/
  | connMutex
  /-- `Redis::_subscribeMutex`. -/
  | subscribeMutex
  /-- `Redis::_channelMutex`. -/
  | channelMutex
  /-- `DbPool::_mtx`. -/
  | mtx
  /-- `CAsyncLog::m_mutexWrite`. -/
  | mutexWrite
  deriving DecidableEq

instance : Fintype Lock where
  elems := {.connMutex, .subscribeMutex, .channelMutex, .mtx, .mutexWrite}
  complete m := by cases m <;> decide

/-- `return`, where the condition for it holds. -/
def maybeReturn : Code Lock := maybe (.exit .ret)

/-- `continue`, where the condition for it holds. -/
def maybeContinue : Code Lock := maybe (.exit .cont)

/-- `break`, where the condition for it holds. -/
def maybeBreak : Code Lock := maybe (.exit .brk)

/-- A statement that may throw: a field of a JSON value is read with its type, a text is parsed, a
value is dumped. -/
def mayThrow : Code Lock := maybe (.exit .throw)

/-! ## The log -/

namespace CAsyncLog

/-- `output` of a level below `LOG_LEVEL_FATAL`: `LOGI`, `LOGW`, `LOGE`. A line below the current
level is dropped. -/
def output : Code Lock := .call (block [
  maybeReturn,
  .locked .mutexWrite skip])

/-- `output` of `LOG_LEVEL_FATAL`: `LOGF`. The line is written at once, without the lock, and the
process crashes. -/
def outputFatal : Code Lock := .call (block [
  maybeReturn,
  -- the file cannot be created
  maybeReturn,
  .abort])

/-- `writeThreadProc`. -/
def writeThreadProc : Code Lock := .call (.loop (block [
  -- the file cannot be created
  maybeReturn,
  .locked .mutexWrite (loopWhile (block [
    maybeReturn,
    .unlocked .mutexWrite skip])),
  -- the line cannot be written
  maybeReturn]))

end CAsyncLog

/-! ## The connection pool -/

namespace MySQL

/-- `connect`. -/
def connect : Code Lock := CAsyncLog.output

/-- `update`. -/
def update : Code Lock := maybe CAsyncLog.output

end MySQL

namespace DbPool

/-- `createConnection`. -/
def createConnection : Code Lock := .call (block [
  MySQL.connect,
  maybeReturn,
  CAsyncLog.output])

/-- `init`. -/
def init : Code Lock := .call (block [
  maybe (block [CAsyncLog.output, .exit .ret]),
  .locked .mtx (block [
    loopWhile (block [createConnection, maybe CAsyncLog.output]),
    maybe (block [CAsyncLog.outputFatal, .exit .ret]),
    CAsyncLog.output])])

/-- `shutdown`. -/
def shutdown : Code Lock := .call (.locked .mtx maybeReturn)

/-- `returnConnection`. -/
def returnConnection : Code Lock := .call (.locked .mtx maybeReturn)

/-- `checkStaleConnections`. -/
def checkStaleConnections : Code Lock := .locked .mtx (loopWhile (maybe CAsyncLog.output))

end DbPool

namespace PooledMySQL

/-- `acquire`. -/
def acquire : Code Lock := .call (.locked .mtx (.loop (block [
  -- 1. an idle connection; one that was idle for long is asked first
  maybe (block [
    maybe (maybe (block [
      CAsyncLog.output,
      DbPool.createConnection,
      maybeReturn,
      .exit .cont])),
    .exit .ret]),
  -- 2. a new connection, which is made without the lock
  maybe (block [
    .unlocked .mtx DbPool.createConnection,
    maybeReturn,
    .exit .cont]),
  -- 3. the wait until the deadline
  .unlocked .mtx skip,
  maybe (block [CAsyncLog.output, .exit .ret])])))

/-- `release`. -/
def release : Code Lock := .call (block [
  maybeReturn,
  maybe CAsyncLog.output,
  DbPool.returnConnection])

/-- `~PooledMySQL`. -/
def destructor : Code Lock := maybe release

/-- `update`. -/
def update : Code Lock := MySQL.update

/-- `query`. -/
def query : Code Lock := maybe CAsyncLog.output

end PooledMySQL

/-! ## The models -/

/-- A method that acquires a connection, does its work with it, and gives it back in the end. -/
def withConnection (work : Code Lock) : Code Lock := .call (block [
  PooledMySQL.acquire,
  maybeReturn,
  .ensure work PooledMySQL.destructor])

namespace UserModel

def insert : Code Lock := withConnection PooledMySQL.update

def query : Code Lock := withConnection PooledMySQL.query

def updateState : Code Lock := withConnection PooledMySQL.update

def updateName : Code Lock := withConnection PooledMySQL.update

def resetState : Code Lock := withConnection PooledMySQL.update

end UserModel

namespace FriendModel

def insert : Code Lock := withConnection PooledMySQL.update

def query : Code Lock := withConnection PooledMySQL.query

end FriendModel

namespace OfflineMsgModel

def insert : Code Lock := withConnection PooledMySQL.update

def remove : Code Lock := withConnection PooledMySQL.update

def query : Code Lock := withConnection PooledMySQL.query

end OfflineMsgModel

namespace GroupModel

def createGroup : Code Lock := withConnection PooledMySQL.update

def addGroup : Code Lock := withConnection PooledMySQL.update

/-- `queryGroups`: the groups, then the members of each one. -/
def queryGroups : Code Lock := withConnection (block [
  PooledMySQL.query,
  maybeReturn,
  loopWhile (block [PooledMySQL.query, maybeContinue])])

def queryGroupUsers : Code Lock := withConnection PooledMySQL.query

def queryGroup : Code Lock := withConnection PooledMySQL.query

end GroupModel

/-! ## Redis -/

namespace Redis

/-- `connect`; the observer thread is started without a lock. -/
def connect : Code Lock := .call (block [
  maybeReturn,
  .locked .subscribeMutex maybeReturn])

/-- `publish` takes no lock. -/
def publish : Code Lock := skip

/-- The command for a channel is sent, then the set of channels is brought up to date. -/
def channelCommand : Code Lock := .call (block [
  maybeReturn,
  .locked .subscribeMutex (block [maybeReturn, loopWhile maybeReturn]),
  .locked .channelMutex skip])

def subscribe : Code Lock := channelCommand

def unsubscribe : Code Lock := channelCommand

/-- `resubscribe`. -/
def resubscribe : Code Lock := .call (.locked .subscribeMutex (block [
  -- there is no context, and none can be made
  maybe maybeReturn,
  .locked .channelMutex (loopWhile (block [maybeReturn, loopWhile maybeReturn]))]))

/-- `observer_channel_message`, with the handler of the messages. -/
def observerChannelMessage (notifyMessageHandler : Code Lock) : Code Lock := loopWhile (block [
  maybe (block [resubscribe, .exit .cont]),
  maybeBreak,
  -- nothing to read
  maybeContinue,
  maybeContinue,
  .locked .subscribeMutex maybeContinue,
  maybeBreak,
  -- the reply could not be read: the context is freed
  maybe (block [.locked .subscribeMutex skip, .exit .cont]),
  maybe notifyMessageHandler])

end Redis

/-! ## The service -/

namespace ChatService

/-- The constructor of the instance. -/
def new : Code Lock := Redis.connect

/-- `instance`, which makes the instance when there is none. -/
def theInstance : Code Lock := maybe new

/-- `sendJson`: the value may not be dumped. -/
def sendJson : Code Lock := mayThrow

def updateConnTime : Code Lock := .locked .connMutex skip

/-- `notifyFriendState`. -/
def notifyFriendState : Code Lock := block [
  FriendModel.query,
  .locked .connMutex (loopWhile skip),
  loopWhile sendJson,
  loopWhile (block [mayThrow, Redis.publish])]

/-- The part of `login` after the password. The second test of the state answers as the first. -/
def registerConn : Code Lock := .either
  (block [
    CAsyncLog.output,
    .locked .connMutex (block [Redis.unsubscribe, Redis.subscribe])])
  (block [
    .locked .connMutex skip,
    Redis.subscribe])

/-- `login`. -/
def login : Code Lock := .call (block [
  maybe (block [sendJson, .exit .ret]),
  mayThrow,
  UserModel.query,
  .either
    (block [
      registerConn,
      CAsyncLog.output,
      UserModel.updateState,
      OfflineMsgModel.query,
      FriendModel.query,
      -- a friend
      loopWhile mayThrow,
      GroupModel.queryGroups,
      -- a group, and each of its members
      loopWhile (block [loopWhile mayThrow, mayThrow]),
      sendJson,
      maybe OfflineMsgModel.remove,
      notifyFriendState])
    (block [CAsyncLog.output, sendJson])])

/-- `reg`. -/
def reg : Code Lock := .call (block [
  maybe (block [sendJson, .exit .ret]),
  mayThrow,
  UserModel.insert,
  .either (block [CAsyncLog.output, sendJson]) sendJson])

/-- `loginout`. -/
def loginout : Code Lock := .call (block [
  maybeReturn,
  mayThrow,
  .locked .connMutex skip,
  Redis.unsubscribe,
  .locked .connMutex skip,
  CAsyncLog.output,
  UserModel.updateState,
  notifyFriendState])

/-- `clientCloseException`. -/
def clientCloseException : Code Lock := block [
  .locked .connMutex (loopWhile maybeBreak),
  Redis.unsubscribe,
  .locked .connMutex skip,
  maybe (block [
    CAsyncLog.output,
    UserModel.updateState,
    notifyFriendState])]

/-- `oneChat`. -/
def oneChat : Code Lock := .call (block [
  maybeReturn,
  mayThrow,
  .locked .connMutex skip,
  maybe (block [CAsyncLog.output, sendJson, .exit .ret]),
  UserModel.query,
  maybe (block [CAsyncLog.output, mayThrow, Redis.publish, .exit .ret]),
  CAsyncLog.output,
  mayThrow,
  OfflineMsgModel.insert])

/-- `addFriend`. -/
def addFriend : Code Lock := .call (block [
  maybeReturn,
  mayThrow,
  CAsyncLog.output,
  FriendModel.insert,
  FriendModel.insert,
  UserModel.query,
  sendJson])

/-- `createGroup`. -/
def createGroup : Code Lock := .call (block [
  maybeReturn,
  mayThrow,
  GroupModel.createGroup,
  maybe (block [CAsyncLog.output, GroupModel.addGroup, sendJson])])

/-- `addGroup`. -/
def addGroup : Code Lock := .call (block [
  maybeReturn,
  mayThrow,
  GroupModel.addGroup,
  CAsyncLog.output,
  GroupModel.queryGroup,
  sendJson])

/-- `updateName`. -/
def updateName : Code Lock := .call (block [
  maybeReturn,
  mayThrow,
  CAsyncLog.output,
  UserModel.updateName,
  sendJson])

/-- `groupChat`: the members here get the message under the lock. -/
def groupChat : Code Lock := .call (block [
  maybeReturn,
  mayThrow,
  GroupModel.queryGroupUsers,
  .locked .connMutex (loopWhile (maybe sendJson)),
  loopWhile (block [
    UserModel.query,
    maybe (block [mayThrow, OfflineMsgModel.insert])]),
  loopWhile (block [mayThrow, Redis.publish])])

/-- `heartbeat`. -/
def heartbeat : Code Lock := block [updateConnTime, sendJson]

/-- The handler that `getHandler` finds, or its default. -/
def getHandler : Code Lock := oneOf [
  login, loginout, reg, oneChat, addFriend, createGroup, addGroup, groupChat, updateName,
  heartbeat, CAsyncLog.output]

/-- `handleRedisSubscribeMessage`. -/
def handleRedisSubscribeMessage : Code Lock := .call (block [
  CAsyncLog.output,
  .locked .connMutex skip,
  maybe (block [
    .attempt (block [mayThrow, sendJson]) CAsyncLog.output,
    .exit .ret]),
  .attempt mayThrow skip,
  -- a friend's new state is not kept; its `msgid` may be no number
  mayThrow,
  maybeReturn,
  OfflineMsgModel.insert])

/-- `checkHeartbeat`. -/
def checkHeartbeat : Code Lock := block [
  .locked .connMutex (loopWhile skip),
  loopWhile CAsyncLog.output]

/-- `reset`. -/
def reset : Code Lock := UserModel.resetState

end ChatService

namespace ChatServer

/-- `onConnection`. -/
def onConnection : Code Lock := maybe (block [
  ChatService.theInstance,
  ChatService.clientCloseException])

/-- `onMessage`. -/
def onMessage : Code Lock := loopWhile (block [
  maybeBreak,
  maybeBreak,
  .attempt
    (block [
      mayThrow,
      ChatService.theInstance,
      ChatService.updateConnTime,
      mayThrow,
      ChatService.getHandler])
    CAsyncLog.output])

end ChatServer

/-! ## The threads -/

/-- A thread of the server. -/
inductive Role where
  /-- An I/O thread of the event loop. -/
  | io
  /-- The observer of the Redis connection. -/
  | observer
  /-- The main thread, with the timers. -/
  | main
  /-- The writer of the log. -/
  | writer

/-- The code of a thread. -/
def Role.code : Role → Code Lock
  | .io => .loop (.either ChatServer.onConnection ChatServer.onMessage)
  | .observer => Redis.observerChannelMessage ChatService.handleRedisSubscribeMessage
  | .main => .call (block [
      -- the configuration is not complete
      maybe (block [CAsyncLog.outputFatal, .exit .ret]),
      DbPool.init,
      maybe (block [CAsyncLog.outputFatal, .exit .ret]),
      ChatService.theInstance,
      loopWhile (.either ChatService.checkHeartbeat DbPool.checkStaleConnections),
      ChatService.reset,
      DbPool.shutdown])
  | .writer => CAsyncLog.writeThreadProc

/-- The server, with any number of threads of each role. -/
def server (role : Nat → Role) : Machine := locking fun t => (role t).code

/-! ## The order of the locks -/

/-- `_connMutex` before the locks of Redis, and the lock of the log last. -/
def rank : Lock → Nat
  | .connMutex => 0
  | .subscribeMutex => 1
  | .channelMutex => 2
  | .mtx => 3
  | .mutexWrite => 4

section Order

variable {held : List Lock}

@[simp] theorem maybeReturn_orderly : maybeReturn.Orderly rank held := by
  simp [maybeReturn]

@[simp] theorem maybeContinue_orderly : maybeContinue.Orderly rank held := by
  simp [maybeContinue]

@[simp] theorem maybeBreak_orderly : maybeBreak.Orderly rank held := by
  simp [maybeBreak]

@[simp] theorem mayThrow_orderly : mayThrow.Orderly rank held := by
  simp [mayThrow]

/-! ### The log -/

theorem output_orderly (h : Above rank held .mutexWrite) :
    CAsyncLog.output.Orderly rank held := by
  simp [CAsyncLog.output, h]

theorem outputFatal_orderly : CAsyncLog.outputFatal.Orderly rank held := by
  simp [CAsyncLog.outputFatal]

theorem writeThreadProc_orderly : CAsyncLog.writeThreadProc.Orderly rank [] := by
  simp [CAsyncLog.writeThreadProc]

/-! ### The connection pool -/

theorem update_orderly (h : Above rank held .mutexWrite) : MySQL.update.Orderly rank held := by
  simp [MySQL.update, output_orderly h]

theorem query_orderly (h : Above rank held .mutexWrite) : PooledMySQL.query.Orderly rank held := by
  simp [PooledMySQL.query, output_orderly h]

theorem createConnection_orderly (h : Above rank held .mutexWrite) :
    DbPool.createConnection.Orderly rank held := by
  simp [DbPool.createConnection, MySQL.connect, output_orderly h]

/-- The lock of the log is taken with the lock of the pool. -/
theorem above_mtx (h : Above rank held .mtx) : Above rank (.mtx :: held) .mutexWrite :=
  Above.cons_iff.mpr ⟨by decide, h.mono (by decide)⟩

theorem init_orderly (h : Above rank held .mtx) : DbPool.init.Orderly rank held := by
  have hlog := above_mtx h
  have hfree : Above rank held .mutexWrite := h.mono (by decide)
  simp [DbPool.init, h, createConnection_orderly hlog, output_orderly hlog, outputFatal_orderly,
    output_orderly hfree]

theorem shutdown_orderly (h : Above rank held .mtx) : DbPool.shutdown.Orderly rank held := by
  simp [DbPool.shutdown, h]

theorem checkStaleConnections_orderly (h : Above rank held .mtx) :
    DbPool.checkStaleConnections.Orderly rank held := by
  simp [DbPool.checkStaleConnections, h, output_orderly (above_mtx h)]

/-- `acquire` runs above the lock of the pool: it makes a connection with the lock and without. -/
theorem acquire_orderly (h : Above rank held .mtx) : PooledMySQL.acquire.Orderly rank held := by
  have hlog := above_mtx h
  have hfree : Above rank held .mutexWrite := h.mono (by decide)
  simp [PooledMySQL.acquire, h, output_orderly hlog, createConnection_orderly hlog,
    createConnection_orderly hfree]

theorem destructor_orderly (h : Above rank held .mtx) :
    PooledMySQL.destructor.Orderly rank held := by
  have hfree : Above rank held .mutexWrite := h.mono (by decide)
  simp [PooledMySQL.destructor, PooledMySQL.release, DbPool.returnConnection, h,
    output_orderly hfree]

/-! ### The models -/

theorem withConnection_orderly {work : Code Lock} (h : Above rank held .mtx)
    (hw : work.Orderly rank held) : (withConnection work).Orderly rank held := by
  simp [withConnection, acquire_orderly h, destructor_orderly h, hw]

/-- A method that updates. -/
theorem updates_orderly (h : Above rank held .mtx) :
    (withConnection PooledMySQL.update).Orderly rank held :=
  withConnection_orderly h (update_orderly (h.mono (by decide)))

/-- A method that queries. -/
theorem queries_orderly (h : Above rank held .mtx) :
    (withConnection PooledMySQL.query).Orderly rank held :=
  withConnection_orderly h (query_orderly (h.mono (by decide)))

theorem queryGroups_orderly (h : Above rank held .mtx) :
    GroupModel.queryGroups.Orderly rank held := by
  have hfree : Above rank held .mutexWrite := h.mono (by decide)
  refine withConnection_orderly h ?_
  simp [query_orderly hfree]

/-! ### Redis -/

theorem connect_orderly (h : Above rank held .subscribeMutex) : Redis.connect.Orderly rank held := by
  simp [Redis.connect, h]

/-- `subscribe` and `unsubscribe` take two locks, one after the other. -/
theorem channelCommand_orderly (h : Above rank held .subscribeMutex) :
    Redis.channelCommand.Orderly rank held := by
  have hch : Above rank held .channelMutex := h.mono (by decide)
  simp [Redis.channelCommand, h, hch]

/-- `resubscribe` takes the lock of the channels with the lock of the context. -/
theorem resubscribe_orderly (h : Above rank held .subscribeMutex) :
    Redis.resubscribe.Orderly rank held := by
  have hch : Above rank (.subscribeMutex :: held) .channelMutex :=
    Above.cons_iff.mpr ⟨by decide, h.mono (by decide)⟩
  simp [Redis.resubscribe, h, hch]

theorem observer_orderly {handler : Code Lock} (h : Above rank held .subscribeMutex)
    (hh : handler.Orderly rank held) : (Redis.observerChannelMessage handler).Orderly rank held := by
  simp [Redis.observerChannelMessage, resubscribe_orderly h, h, hh]

/-! ### The service -/

@[simp] theorem sendJson_orderly : ChatService.sendJson.Orderly rank held := mayThrow_orderly

@[simp] theorem publish_orderly : Redis.publish.Orderly rank held := orderly_skip

end Order

/-- `login` subscribes with the lock of the connections. -/
theorem registerConn_orderly : ChatService.registerConn.Orderly rank [] := by
  have hconn : Above rank [.connMutex] .subscribeMutex := Above.cons_iff.mpr ⟨by decide, .nil⟩
  simp [ChatService.registerConn, Redis.subscribe, Redis.unsubscribe, channelCommand_orderly,
    hconn, output_orderly]

theorem notifyFriendState_orderly : ChatService.notifyFriendState.Orderly rank [] := by
  simp [ChatService.notifyFriendState, FriendModel.query, queries_orderly]

theorem login_orderly : ChatService.login.Orderly rank [] := by
  simp [ChatService.login, UserModel.query, registerConn_orderly, output_orderly,
    UserModel.updateState, OfflineMsgModel.query, FriendModel.query, queryGroups_orderly,
    OfflineMsgModel.remove, notifyFriendState_orderly, updates_orderly, queries_orderly]

theorem reg_orderly : ChatService.reg.Orderly rank [] := by
  simp [ChatService.reg, UserModel.insert, updates_orderly, output_orderly]

theorem loginout_orderly : ChatService.loginout.Orderly rank [] := by
  simp [ChatService.loginout, Redis.unsubscribe, channelCommand_orderly, UserModel.updateState,
    updates_orderly, output_orderly, notifyFriendState_orderly]

theorem clientCloseException_orderly : ChatService.clientCloseException.Orderly rank [] := by
  simp [ChatService.clientCloseException, Redis.unsubscribe, channelCommand_orderly,
    UserModel.updateState, updates_orderly, output_orderly, notifyFriendState_orderly]

theorem oneChat_orderly : ChatService.oneChat.Orderly rank [] := by
  simp [ChatService.oneChat, UserModel.query, OfflineMsgModel.insert, queries_orderly,
    updates_orderly, output_orderly]

theorem addFriend_orderly : ChatService.addFriend.Orderly rank [] := by
  simp [ChatService.addFriend, FriendModel.insert, UserModel.query, queries_orderly,
    updates_orderly, output_orderly]

theorem createGroup_orderly : ChatService.createGroup.Orderly rank [] := by
  simp [ChatService.createGroup, GroupModel.createGroup, GroupModel.addGroup, updates_orderly,
    output_orderly]

theorem addGroup_orderly : ChatService.addGroup.Orderly rank [] := by
  simp [ChatService.addGroup, GroupModel.addGroup, GroupModel.queryGroup, updates_orderly,
    queries_orderly, output_orderly]

theorem updateName_orderly : ChatService.updateName.Orderly rank [] := by
  simp [ChatService.updateName, UserModel.updateName, updates_orderly, output_orderly]

theorem groupChat_orderly : ChatService.groupChat.Orderly rank [] := by
  simp [ChatService.groupChat, GroupModel.queryGroupUsers, UserModel.query,
    OfflineMsgModel.insert, updates_orderly, queries_orderly]

theorem heartbeat_orderly : ChatService.heartbeat.Orderly rank [] := by
  simp [ChatService.heartbeat, ChatService.updateConnTime]

/-- **Every handler** runs without a lock. -/
theorem getHandler_orderly : ChatService.getHandler.Orderly rank [] := by
  simp [ChatService.getHandler, login_orderly, loginout_orderly, reg_orderly, oneChat_orderly,
    addFriend_orderly, createGroup_orderly, addGroup_orderly, groupChat_orderly,
    updateName_orderly, heartbeat_orderly, output_orderly]

theorem handleRedisSubscribeMessage_orderly :
    ChatService.handleRedisSubscribeMessage.Orderly rank [] := by
  simp [ChatService.handleRedisSubscribeMessage, OfflineMsgModel.insert, updates_orderly,
    output_orderly]

theorem checkHeartbeat_orderly : ChatService.checkHeartbeat.Orderly rank [] := by
  simp [ChatService.checkHeartbeat, output_orderly]

theorem theInstance_orderly : ChatService.theInstance.Orderly rank [] := by
  simp [ChatService.theInstance, ChatService.new, connect_orderly]

/-! ### The threads -/

theorem onConnection_orderly : ChatServer.onConnection.Orderly rank [] := by
  simp [ChatServer.onConnection, theInstance_orderly, clientCloseException_orderly]

theorem onMessage_orderly : ChatServer.onMessage.Orderly rank [] := by
  simp [ChatServer.onMessage, theInstance_orderly, ChatService.updateConnTime, getHandler_orderly,
    output_orderly]

/-- **Every thread** takes its locks in order. -/
theorem thread_orderly (r : Role) : r.code.Orderly rank [] := by
  cases r with
  | io => simp [Role.code, onConnection_orderly, onMessage_orderly]
  | observer => exact observer_orderly .nil handleRedisSubscribeMessage_orderly
  | main =>
    simp [Role.code, outputFatal_orderly, init_orderly, theInstance_orderly, checkHeartbeat_orderly,
      checkStaleConnections_orderly, ChatService.reset, UserModel.resetState, updates_orderly,
      shutdown_orderly]
  | writer => exact writeThreadProc_orderly

end QtChat.Locking
