import QtChat.Server.Model

/-!
# ChatService

The handlers of `chatservice.cpp`. A handler first reads its request (an exception there leaves it
before it has done anything: `Except JsonError`), then runs its actions (`Serv Unit`); the second
part has the name of the handler with `As`, `To` or `From` where others use it.

`ChatServer::onMessage` catches every exception of one body (`handleMsg`), and an id with no handler
does nothing.
-/

namespace QtChat

open Interleave

/-- `EnMsgType` (`public.hpp`). -/
inductive EnMsgType where
  | loginMsg
  | loginMsgAck
  | loginoutMsg
  | regMsg
  | regMsgAck
  | oneChatMsg
  | addFriendMsg
  | createGroupMsg
  | addGroupMsg
  | groupChatMsg
  | friendStateChangeMsg
  | updateNameMsg
  | heartbeatMsg
  deriving DecidableEq

def EnMsgType.toInt : EnMsgType → Int
  | .loginMsg => 1
  | .loginMsgAck => 2
  | .loginoutMsg => 3
  | .regMsg => 4
  | .regMsgAck => 5
  | .oneChatMsg => 6
  | .addFriendMsg => 7
  | .createGroupMsg => 8
  | .addGroupMsg => 9
  | .groupChatMsg => 10
  | .friendStateChangeMsg => 11
  | .updateNameMsg => 12
  | .heartbeatMsg => 13

/-- The `msgid` of a response. -/
def EnMsgType.field (m : EnMsgType) : String × Json := ("msgid", .int m.toInt)

/-- A request that has been read: what its handler does. -/
abbrev Request := Except JsonError (Serv Unit)

namespace ChatService

/-! ## Actions -/

def publish (channel : Int) (message : Str) : Serv Bool := .act (.publish channel message) .ret

def subscribe (channel : Int) : Serv Bool := .act (.subscribe channel) .ret

def unsubscribe (channel : Int) : Serv Bool := .act (.unsubscribe channel) .ret

def findConn (id : Int) : Serv (Option ConnId) := .act (.findConn id) .ret

def forceRelogin (id : Int) (conn : ConnId) : Serv Unit := .act (.forceRelogin id conn) .ret

def mapUser (id : Int) (conn : ConnId) : Serv Unit := .act (.mapUser id conn) .ret

def eraseUser (id : Int) : Serv Unit := .act (.eraseUser id) .ret

def eraseConn (conn : ConnId) : Serv (Option Int) := .act (.eraseConn conn) .ret

def eraseLastTime (conn : ConnId) : Serv Unit := .act (.eraseLastTime conn) .ret

def routeGroup (ids : List Int) (js : Json) : Serv (List Int) := .act (.routeGroup ids js) .ret

def splitFriends (ids : List Int) : Serv (List ConnId × List Int) := .act (.splitFriends ids) .ret

def updateConnTime (conn : ConnId) : Serv Unit := .act (.updateConnTime conn) .ret

def staleConns : Serv (List ConnId) := .act .staleConns .ret

def shutdown (conn : ConnId) : Serv Unit := .act (.shutdown conn) .ret

/-! ## Friend states -/

/-- The packet for the friends of a user. -/
def friendState (userid : Int) (state : UserState) : Json :=
  .object [EnMsgType.friendStateChangeMsg.field, ("friendid", .int userid), ("state", .str state.text)]

def notifyFriendState (userid : Int) (state : UserState) : Serv Unit := do
  let friends ← FriendModel.query userid
  let r ← splitFriends (friends.map (·.id))
  Prog.each (fun conn => sendJson conn (friendState userid state)) r.1
  Prog.each (fun fid => do let _ ← publish fid (friendState userid state).dump) r.2

/-! ## Login -/

/-- A negative `LOGIN_MSG_ACK`. -/
def loginError (errmsg : String) : Json :=
  .object [EnMsgType.loginMsgAck.field, ("errno", .int 1), ("errmsg", .str (txt errmsg))]

def friendJson (user : User) : Json :=
  .object [("id", .int user.id), ("name", .str user.name), ("state", .str user.state.text)]

def memberJson (user : GroupUser) : Json :=
  .object [("id", .int user.id), ("name", .str user.name), ("state", .str user.state.text),
    ("role", .str user.role.text)]

def groupJson (group : Group) : Json :=
  .object [("id", .int group.id), ("groupname", .str group.name), ("groupdesc", .str group.desc),
    ("users", .strings (group.users.map fun u => (memberJson u).dump))]

/-- A member of the acknowledgement that is left out when its list is empty. -/
def listField (key : String) (vec : List Str) : List (String × Json) :=
  if vec.isEmpty then [] else [(key, .strings vec)]

/-- The positive `LOGIN_MSG_ACK`. -/
def loginResponse (user : User) (vec : List Str) (userVec : List User) (groupVec : List Group) :
    Json :=
  .object ([EnMsgType.loginMsgAck.field, ("errno", .int 0), ("id", .int user.id),
    ("name", .str user.name)] ++ listField "offlinemsg" vec ++
    listField "friends" (userVec.map fun u => (friendJson u).dump) ++
    listField "groups" (groupVec.map fun g => (groupJson g).dump))

/-- The user's connection is entered, and the channel subscribed. -/
def registerConn (conn : ConnId) (id : Int) (state : UserState) : Serv Unit :=
  if state = .online then forceRelogin id conn
  else do
    mapUser id conn
    let _ ← subscribe id

/-- The acknowledgement with the offline messages, which are removed after it was sent. -/
def sendLogin (conn : ConnId) (user : User) : Serv Unit := do
  let vec ← OfflineMsgModel.query user.id
  let userVec ← FriendModel.query user.id
  let groupuserVec ← GroupModel.queryGroups user.id
  sendJson conn (loginResponse user vec userVec groupuserVec)
  if !vec.isEmpty then OfflineMsgModel.remove user.id

def loginAs (conn : ConnId) (id : Int) (pwd : Str) : Serv Unit := do
  let user ← UserModel.query id
  if user.id = id ∧ user.password = pwd then
    registerConn conn id user.state
    let user := { user with state := .online }
    let _ ← UserModel.updateState user
    sendLogin conn user
    notifyFriendState id .online
  else
    sendJson conn (loginError "id or password is invalid!")

def login (conn : ConnId) (js : Json) : Request :=
  if !js.contains "id" || !js.contains "password" then
    .ok (sendJson conn (loginError "invalid fields"))
  else do
    let id ← js.intAt "id"
    let pwd ← js.stringAt "password"
    return loginAs conn id pwd

/-! ## Register -/

def regError (errmsg : List (String × Json)) : Json :=
  .object ([EnMsgType.regMsgAck.field, ("errno", .int 1)] ++ errmsg)

def regAs (conn : ConnId) (name pwd : Str) : Serv Unit := do
  match ← UserModel.insert name pwd .offline with
  | some id =>
    sendJson conn (.object [EnMsgType.regMsgAck.field, ("errno", .int 0), ("id", .int id)])
  | none => sendJson conn (regError [])

def reg (conn : ConnId) (js : Json) : Request :=
  if !js.contains "name" || !js.contains "password" then
    .ok (sendJson conn (regError [("errmsg", .str (txt "invalid fields"))]))
  else do
    let name ← js.stringAt "name"
    let pwd ← js.stringAt "password"
    return regAs conn name pwd

/-! ## Logout and close -/

def loginoutAs (conn : ConnId) (userid : Int) : Serv Unit := do
  eraseUser userid
  let _ ← unsubscribe userid
  eraseLastTime conn
  let _ ← UserModel.updateState { id := userid, state := .offline }
  notifyFriendState userid .offline

def loginout (conn : ConnId) (js : Json) : Request :=
  if !js.contains "id" then .ok (.ret ())
  else do
    let userid ← js.intAt "id"
    return loginoutAs conn userid

/-- `clientCloseException` after the entry of the connection was taken from `_userConnMap`. -/
def clientClosed (conn : ConnId) (user : User) : Serv Unit := do
  let _ ← unsubscribe user.id
  eraseLastTime conn
  if user.id ≠ -1 then
    let _ ← UserModel.updateState { user with state := .offline }
    notifyFriendState user.id .offline

def clientCloseException (conn : ConnId) : Serv Unit := do
  match ← eraseConn conn with
  | none => clientClosed conn {}
  | some id => clientClosed conn { id }

/-! ## Chat -/

def oneChatTo (toid : Int) (js : Json) : Serv Unit := do
  match ← findConn toid with
  | some toConn => sendJson toConn js
  | none =>
    let user ← UserModel.query toid
    if user.state = .online then
      let _ ← publish toid js.dump
    else
      OfflineMsgModel.insert toid js.dump

def oneChat (_conn : ConnId) (js : Json) : Request :=
  if !js.contains "id" || !js.contains "toid" then .ok (.ret ())
  else do
    let toid ← js.intAt "toid"
    let _fromid ← js.intAt "id"
    return oneChatTo toid js

/-- The first loop of `groupChat` outside the lock: what is for nobody online is stored, the others
are returned. -/
def storeOffline (js : Json) : List Int → Serv (List Int)
  | [] => return []
  | id :: ids => do
    let user ← UserModel.query id
    if user.state = .online then
      return id :: (← storeOffline js ids)
    else
      OfflineMsgModel.insert id js.dump
      storeOffline js ids

def groupChatFrom (userid groupid : Int) (js : Json) : Serv Unit := do
  let useridVec ← GroupModel.queryGroupUsers userid groupid
  let offlineIds ← routeGroup useridVec js
  let crossIds ← storeOffline js offlineIds
  Prog.each (fun id => do let _ ← publish id js.dump) crossIds

def groupChat (_conn : ConnId) (js : Json) : Request :=
  if !js.contains "id" || !js.contains "groupid" then .ok (.ret ())
  else do
    let userid ← js.intAt "id"
    let groupid ← js.intAt "groupid"
    return groupChatFrom userid groupid js

/-- `handleRedisSubscribeMessage` for a user without a connection here: a friend state is dropped,
anything else stored. -/
def storeMessage (parsed : Option Json) (userid : Int) (msg : Str) : Serv Unit :=
  match parsed with
  | some (.obj m) =>
    if (Json.obj m).contains "msgid" then
      match (Json.obj m).intAt "msgid" with
      | .error _ => halt .uncaughtException
      | .ok msgid =>
        if msgid = EnMsgType.friendStateChangeMsg.toInt then .ret ()
        else OfflineMsgModel.insert userid msg
    else OfflineMsgModel.insert userid msg
  | _ => OfflineMsgModel.insert userid msg

def handleRedisSubscribeMessage (P : JsonParser) (userid : Int) (msg : Str) : Serv Unit := do
  match ← findConn userid with
  | some conn => match P.parse msg with
    | some js => sendJson conn js
    | none => .ret ()
  | none => storeMessage (P.parse msg) userid msg

/-! ## Friends and groups -/

def addFriendAs (conn : ConnId) (userid friendid : Int) : Serv Unit := do
  FriendModel.insert userid friendid
  FriendModel.insert friendid userid
  let friendUser ← UserModel.query friendid
  sendJson conn (.object [EnMsgType.addFriendMsg.field, ("id", .int friendUser.id),
    ("name", .str friendUser.name), ("state", .str friendUser.state.text)])

def addFriend (conn : ConnId) (js : Json) : Request :=
  if !js.contains "id" || !js.contains "friendid" then .ok (.ret ())
  else do
    let userid ← js.intAt "id"
    let friendid ← js.intAt "friendid"
    return addFriendAs conn userid friendid

def createGroupAs (conn : ConnId) (userid : Int) (name desc : Str) : Serv Unit := do
  match ← GroupModel.createGroup name desc with
  | none => return
  | some id =>
    GroupModel.addGroup userid id .creator
    sendJson conn (.object [EnMsgType.createGroupMsg.field, ("groupid", .int id),
      ("groupname", .str name), ("groupdesc", .str desc)])

def createGroup (conn : ConnId) (js : Json) : Request :=
  if !js.contains "id" || !js.contains "groupname" then .ok (.ret ())
  else do
    let userid ← js.intAt "id"
    let name ← js.stringAt "groupname"
    let desc ← js.stringAt "groupdesc"
    return createGroupAs conn userid name desc

def addGroupAs (conn : ConnId) (userid groupid : Int) : Serv Unit := do
  GroupModel.addGroup userid groupid .normal
  let group ← GroupModel.queryGroup groupid
  sendJson conn (.object [EnMsgType.addGroupMsg.field, ("groupid", .int group.id),
    ("groupname", .str group.name)])

def addGroup (conn : ConnId) (js : Json) : Request :=
  if !js.contains "id" || !js.contains "groupid" then .ok (.ret ())
  else do
    let userid ← js.intAt "id"
    let groupid ← js.intAt "groupid"
    return addGroupAs conn userid groupid

def updateNameAs (conn : ConnId) (userid : Int) (newName : Str) : Serv Unit := do
  if ← UserModel.updateName userid newName then
    sendJson conn (.object [EnMsgType.updateNameMsg.field, ("id", .int userid),
      ("name", .str newName)])
  else
    sendJson conn (.object [EnMsgType.updateNameMsg.field, ("errno", .int 1),
      ("errmsg", .str (txt "Name already exists"))])

def updateName (conn : ConnId) (js : Json) : Request :=
  if !js.contains "id" || !js.contains "name" then .ok (.ret ())
  else do
    let userid ← js.intAt "id"
    let newName ← js.stringAt "name"
    return updateNameAs conn userid newName

/-! ## Heartbeat -/

def heartbeatOf (conn : ConnId) : Serv Unit := do
  updateConnTime conn
  sendJson conn (.object [EnMsgType.heartbeatMsg.field])

def heartbeat (conn : ConnId) (_js : Json) : Request := .ok (heartbeatOf conn)

def checkHeartbeat : Serv Unit := do
  let toClose ← staleConns
  Prog.each shutdown toClose

/-! ## Dispatch -/

/-- The handler for a message id; with no handler, one that does nothing. -/
def getHandler (msgid : Int) : ConnId → Json → Request :=
  match msgid with
  | 1 => login
  | 3 => loginout
  | 4 => reg
  | 6 => oneChat
  | 7 => addFriend
  | 8 => createGroup
  | 9 => addGroup
  | 10 => groupChat
  | 12 => updateName
  | 13 => heartbeat
  | _ => fun _ _ => .ok (.ret ())

/-- What a request does; nothing if reading it throws. -/
def Request.run : Request → Serv Unit
  | .error _ => .ret ()
  | .ok p => p

/-- A parsed body: the request that its `msgid` names. -/
def dispatch (conn : ConnId) (js : Json) : Request := do
  let msgid ← js.intAt "msgid"
  getHandler msgid conn js

/-- One body in `ChatServer::onMessage`. -/
def handleMsg (P : JsonParser) (conn : ConnId) (msg : Str) : Serv Unit :=
  match P.parse msg with
  | none => .ret ()
  | some js => do
    updateConnTime conn
    Request.run (dispatch conn js)

/-- `reset`, on the way out of `main`. -/
def reset : Serv Unit := UserModel.resetState

end ChatService

end QtChat
