import QtChat.Interleave.Throws
import QtChat.Server.Actions
import QtChat.Server.Utf8

/-!
# The handlers with their exceptions

The handlers of `chatservice.cpp` once more, with every access to a field and every `dump` where it
stands, so that each may end in an exception after what it has already done. `onBody` is the `try`
block of `ChatServer::onMessage` with how it ended.

`Meets.trace`: as long as what MySQL answers is UTF-8, a handler that can read its fields does what
its request says and throws nothing; any other ends before it has done anything.
-/

namespace QtChat

open Interleave ChatService

/-- A program of the server that may throw a `json::exception`. -/
abbrev Throwing (α : Type) := ExceptT JsonError (Prog chat) α

/-- How the handling of a body ended. -/
inductive Outcome where
  | handled
  /-- The handler returned at a missing field. -/
  | missing
  | exception (e : JsonError)
  | parseError

namespace Throwing

def sendJson (conn : ConnId) (js : Json) : Throwing Unit := do
  let _ ← js.dumpStrict
  QtChat.sendJson conn js

def notifyFriendState (userid : Int) (state : UserState) : Throwing Unit := do
  let friends ← FriendModel.query userid
  let r ← splitFriends (friends.map (·.id))
  r.1.forM fun conn => sendJson conn (friendState userid state)
  r.2.forM fun fid => do
    let body ← (friendState userid state).dumpStrict
    let _ ← publish fid body

/-- The dumps of a list, one after the other. -/
def dumps : List Json → Except JsonError (List Str)
  | [] => .ok []
  | js :: rest => do
    let body ← js.dumpStrict
    return body :: (← dumps rest)

/-- The dump of a group with those of its members in it. -/
def dumpGroup (group : Group) : Except JsonError Str := do
  let userV ← dumps (group.users.map memberJson)
  (Json.object [("id", .int group.id), ("groupname", .str group.name),
    ("groupdesc", .str group.desc), ("users", .strings userV)]).dumpStrict

def dumpGroups : List Group → Except JsonError (List Str)
  | [] => .ok []
  | group :: groups => do
    let body ← dumpGroup group
    return body :: (← dumpGroups groups)

def sendLogin (conn : ConnId) (user : User) : Throwing Unit := do
  let vec ← OfflineMsgModel.query user.id
  let userVec ← FriendModel.query user.id
  let vec2 ← dumps (userVec.map friendJson)
  let groupuserVec ← GroupModel.queryGroups user.id
  let groupV ← dumpGroups groupuserVec
  sendJson conn (.object ([EnMsgType.loginMsgAck.field, ("errno", .int 0), ("id", .int user.id),
    ("name", .str user.name)] ++ listField "offlinemsg" vec ++ listField "friends" vec2 ++
    listField "groups" groupV))
  if !vec.isEmpty then OfflineMsgModel.remove user.id

def loginAs (conn : ConnId) (id : Int) (pwd : Str) : Throwing Unit := do
  let user ← UserModel.query id
  if user.id = id ∧ user.password = pwd then
    registerConn conn id user.state
    let user := { user with state := .online }
    let _ ← UserModel.updateState user
    sendLogin conn user
    notifyFriendState id .online
  else
    sendJson conn (loginError "id or password is invalid!")

def login (conn : ConnId) (js : Json) : Throwing Outcome :=
  if !js.contains "id" || !js.contains "password" then do
    sendJson conn (loginError "invalid fields")
    return .missing
  else do
    let id ← js.intAt "id"
    let pwd ← js.stringAt "password"
    loginAs conn id pwd
    return .handled

def regAs (conn : ConnId) (name pwd : Str) : Throwing Unit := do
  match ← (UserModel.insert name pwd .offline : Serv (Option Int)) with
  | some id =>
    sendJson conn (.object [EnMsgType.regMsgAck.field, ("errno", .int 0), ("id", .int id)])
  | none => sendJson conn (regError [])

def reg (conn : ConnId) (js : Json) : Throwing Outcome :=
  if !js.contains "name" || !js.contains "password" then do
    sendJson conn (regError [("errmsg", .str (txt "invalid fields"))])
    return .missing
  else do
    let name ← js.stringAt "name"
    let pwd ← js.stringAt "password"
    regAs conn name pwd
    return .handled

def loginoutAs (conn : ConnId) (userid : Int) : Throwing Unit := do
  eraseUser userid
  let _ ← unsubscribe userid
  eraseLastTime conn
  let _ ← UserModel.updateState { id := userid, state := .offline }
  notifyFriendState userid .offline

def loginout (conn : ConnId) (js : Json) : Throwing Outcome :=
  if !js.contains "id" then return .missing
  else do
    let userid ← js.intAt "id"
    loginoutAs conn userid
    return .handled

def oneChatTo (toid : Int) (js : Json) : Throwing Unit := do
  match ← (findConn toid : Serv (Option ConnId)) with
  | some toConn => sendJson toConn js
  | none =>
    let user ← UserModel.query toid
    if user.state = .online then
      let body ← js.dumpStrict
      let _ ← publish toid body
    else
      let body ← js.dumpStrict
      OfflineMsgModel.insert toid body

def oneChat (_conn : ConnId) (js : Json) : Throwing Outcome :=
  if !js.contains "id" || !js.contains "toid" then return .missing
  else do
    let toid ← js.intAt "toid"
    let _fromid ← js.intAt "id"
    oneChatTo toid js
    return .handled

def storeOffline (js : Json) : List Int → Throwing (List Int)
  | [] => return []
  | id :: ids => do
    let user ← UserModel.query id
    if user.state = .online then
      return id :: (← storeOffline js ids)
    else
      let body ← js.dumpStrict
      OfflineMsgModel.insert id body
      storeOffline js ids

/-- The section under `_connMutex`: the first packet may throw, before it is sent. -/
def routeGroup (ids : List Int) (js : Json) : Throwing (List Int) :=
  match js.dumpStrict with
  | .ok _ => ChatService.routeGroup ids js
  | .error e => do
    let r ← splitFriends ids
    if r.1.isEmpty then return r.2 else throw e

def groupChatFrom (userid groupid : Int) (js : Json) : Throwing Unit := do
  let useridVec ← GroupModel.queryGroupUsers userid groupid
  let offlineIds ← routeGroup useridVec js
  let crossIds ← storeOffline js offlineIds
  crossIds.forM fun id => do
    let body ← js.dumpStrict
    let _ ← publish id body

def groupChat (_conn : ConnId) (js : Json) : Throwing Outcome :=
  if !js.contains "id" || !js.contains "groupid" then return .missing
  else do
    let userid ← js.intAt "id"
    let groupid ← js.intAt "groupid"
    groupChatFrom userid groupid js
    return .handled

def addFriendAs (conn : ConnId) (userid friendid : Int) : Throwing Unit := do
  FriendModel.insert userid friendid
  FriendModel.insert friendid userid
  let friendUser ← UserModel.query friendid
  sendJson conn (.object [EnMsgType.addFriendMsg.field, ("id", .int friendUser.id),
    ("name", .str friendUser.name), ("state", .str friendUser.state.text)])

def addFriend (conn : ConnId) (js : Json) : Throwing Outcome :=
  if !js.contains "id" || !js.contains "friendid" then return .missing
  else do
    let userid ← js.intAt "id"
    let friendid ← js.intAt "friendid"
    addFriendAs conn userid friendid
    return .handled

def createGroupAs (conn : ConnId) (userid : Int) (name desc : Str) : Throwing Unit := do
  match ← (GroupModel.createGroup name desc : Serv (Option Int)) with
  | none => return
  | some id =>
    GroupModel.addGroup userid id .creator
    sendJson conn (.object [EnMsgType.createGroupMsg.field, ("groupid", .int id),
      ("groupname", .str name), ("groupdesc", .str desc)])

def createGroup (conn : ConnId) (js : Json) : Throwing Outcome :=
  if !js.contains "id" || !js.contains "groupname" then return .missing
  else do
    let userid ← js.intAt "id"
    let name ← js.stringAt "groupname"
    let desc ← js.stringAt "groupdesc"
    createGroupAs conn userid name desc
    return .handled

def addGroupAs (conn : ConnId) (userid groupid : Int) : Throwing Unit := do
  GroupModel.addGroup userid groupid .normal
  let group ← GroupModel.queryGroup groupid
  sendJson conn (.object [EnMsgType.addGroupMsg.field, ("groupid", .int group.id),
    ("groupname", .str group.name)])

def addGroup (conn : ConnId) (js : Json) : Throwing Outcome :=
  if !js.contains "id" || !js.contains "groupid" then return .missing
  else do
    let userid ← js.intAt "id"
    let groupid ← js.intAt "groupid"
    addGroupAs conn userid groupid
    return .handled

def updateNameAs (conn : ConnId) (userid : Int) (newName : Str) : Throwing Unit := do
  let state ← (UserModel.updateName userid newName : Serv Bool)
  if state then
    sendJson conn (.object [EnMsgType.updateNameMsg.field, ("id", .int userid),
      ("name", .str newName)])
  else
    sendJson conn (.object [EnMsgType.updateNameMsg.field, ("errno", .int 1),
      ("errmsg", .str (txt "Name already exists"))])

def updateName (conn : ConnId) (js : Json) : Throwing Outcome :=
  if !js.contains "id" || !js.contains "name" then return .missing
  else do
    let userid ← js.intAt "id"
    let newName ← js.stringAt "name"
    updateNameAs conn userid newName
    return .handled

def heartbeat (conn : ConnId) (_js : Json) : Throwing Outcome := do
  updateConnTime conn
  sendJson conn (.object [EnMsgType.heartbeatMsg.field])
  return .handled

def getHandler (msgid : Int) : ConnId → Json → Throwing Outcome :=
  match msgid with
  | 1 => login
  | 3 => loginout
  | 4 => reg
  | 6 => oneChat
  | 7 => addFriend
  | 8 => createGroup
  | 9 => addGroup
  | 10 => groupChat
  | 12 => updateName
  | 13 => heartbeat
  | _ => fun _ _ => return .handled

def dispatch (conn : ConnId) (js : Json) : Throwing Outcome := do
  let msgid ← js.intAt "msgid"
  getHandler msgid conn js

/-- The `try` block and what was caught. -/
def onBody (P : JsonParser) (conn : ConnId) (msg : Str) : Serv Outcome :=
  match P.parse msg with
  | none => .ret .parseError
  | some js => do
    updateConnTime conn
    match ← (dispatch conn js).run with
    | .ok o => return o
    | .error e => return .exception e

end Throwing

/-! ## Answers of MySQL -/

/-- The strings that a statement answers are UTF-8. -/
def Stmt.Utf8 : (st : Stmt) → st.Ans → Prop
  | .selectUser _, row => ∀ r ∈ row, isUtf8 r.name = true
  | .selectFriends _, rows => ∀ r ∈ rows, isUtf8 r.2.name = true
  | .selectGroups _, rows => ∀ r ∈ rows, isUtf8 r.2.groupname = true ∧ isUtf8 r.2.groupdesc = true
  | .selectGroupMembers _, rows => ∀ r ∈ rows, isUtf8 r.2.1.name = true
  | .selectGroup _, row => ∀ r ∈ row, isUtf8 r.groupname = true
  | .selectOffline _, msgs => ∀ m ∈ msgs, isUtf8 m = true
  | _, _ => True

/-- If the call is a statement, MySQL answers it with strings in UTF-8. -/
def Utf8Answer (c : Call chat) : Prop :=
  match c with
  | ⟨.sql st, r⟩ => ∀ ans ∈ r, st.Utf8 ans
  | _ => True

theorem ends_ask {α : Type} {A : Call chat → Prop} {st : Stmt} {d : Serv α}
    {f : Option st.Ans → Serv α} {Q : α → Prop} (hd : d.Ends A fun _ x => Q x)
    (hf : ∀ r, A ⟨.sql st, r⟩ → (f r).Ends A fun _ x => Q x) :
    (acquire >>= fun ok => if (!ok) = true then d else sql st >>= f).Ends A fun _ x => Q x := by
  intro ok _
  change (if (!ok) = true then d else sql st >>= f).Ends A fun _ x => Q x
  split
  · exact hd
  · exact fun r hr => hf r hr

theorem query_utf8 (id : Int) :
    (UserModel.query id).Ends Utf8Answer fun _ user => isUtf8 user.name = true := by
  refine ends_ask isUtf8_nil fun r hr => ?_
  rcases r with _ | _ | row
  · exact isUtf8_nil
  · exact isUtf8_nil
  · exact isUtf8_cstr (hr _ rfl row rfl)

theorem friends_utf8 (userid : Int) : (FriendModel.query userid).Ends Utf8Answer fun _ friends =>
    ∀ user ∈ friends, isUtf8 user.name = true := by
  refine ends_ask (by simp) fun r hr => ?_
  rcases r with _ | rows
  · exact fun _ hu => by cases hu
  · intro user hu
    obtain ⟨r, hm, rfl⟩ := List.mem_map.mp hu
    exact isUtf8_cstr (hr _ rfl r hm)

theorem offline_utf8 (userid : Int) : (OfflineMsgModel.query userid).Ends Utf8Answer fun _ vec =>
    ∀ m ∈ vec, isUtf8 m = true := by
  refine ends_ask (by simp) fun r hr => ?_
  rcases r with _ | msgs
  · exact fun _ hm => by cases hm
  · intro m hm
    have hm : m ∈ msgs.map cstr := hm
    obtain ⟨msg, hmsg, rfl⟩ := List.mem_map.mp hm
    exact isUtf8_cstr (hr _ rfl msg hmsg)

/-- The strings of a group are UTF-8. -/
def Group.Utf8 (group : Group) : Prop :=
  isUtf8 group.name = true ∧ isUtf8 group.desc = true ∧
    ∀ user ∈ group.users, isUtf8 user.name = true

theorem queryMembers_utf8 (groups : List Group)
    (h : ∀ g ∈ groups, isUtf8 g.name = true ∧ isUtf8 g.desc = true) :
    (GroupModel.queryMembers groups).Ends Utf8Answer fun _ groups => ∀ g ∈ groups, g.Utf8 := by
  induction groups with
  | nil => exact fun _ hg => by cases hg
  | cons group groups ih =>
    intro rows hrows
    change (GroupModel.queryMembers groups >>= _).Ends Utf8Answer _
    rw [Prog.ends_bind]
    refine (ih fun g hg => h g (by simp [hg])).mono fun _ rest hrest => ?_
    rw [Prog.pure_eq, Prog.ends_ret]
    intro g hg
    rcases List.mem_cons.mp hg with rfl | hg
    · refine ⟨(h group (by simp)).1, (h group (by simp)).2, fun user hu => ?_⟩
      cases rows with
      | none => cases hu
      | some rows =>
        obtain ⟨r, hm, rfl⟩ := List.mem_map.mp hu
        exact isUtf8_cstr (hrows _ rfl r hm)
    · exact hrest g hg

theorem queryGroups_utf8 (userid : Int) : (GroupModel.queryGroups userid).Ends Utf8Answer
    fun _ groups => ∀ g ∈ groups, g.Utf8 := by
  refine ends_ask (by simp) fun r hr => ?_
  rcases r with _ | rows
  · exact fun _ hg => by cases hg
  · refine queryMembers_utf8 _ fun g hg => ?_
    obtain ⟨r, hm, rfl⟩ := List.mem_map.mp hg
    exact ⟨isUtf8_cstr (hr _ rfl r hm).1, isUtf8_cstr (hr _ rfl r hm).2⟩

theorem queryGroup_utf8 (groupid : Int) : (GroupModel.queryGroup groupid).Ends Utf8Answer
    fun _ group => isUtf8 group.name = true := by
  refine ends_ask isUtf8_nil fun r hr => ?_
  rcases r with _ | _ | row
  · exact isUtf8_nil
  · exact isUtf8_nil
  · exact isUtf8_cstr (hr _ rfl row rfl)

/-! ## Packets -/

theorem utf8_friendState (userid : Int) (state : UserState) :
    (friendState userid state).utf8 = true := by
  refine Json.utf8_object ?_
  simp only [List.forall_mem_cons]
  refine ⟨⟨by decide, rfl⟩, ⟨by decide, rfl⟩, ⟨by decide, ?_⟩, by simp⟩
  cases state <;> decide

theorem utf8_loginError {errmsg : String} (h : isUtf8 (txt errmsg) = true) :
    (loginError errmsg).utf8 = true := by
  refine Json.utf8_object ?_
  simp only [List.forall_mem_cons]
  exact ⟨⟨by decide, rfl⟩, ⟨by decide, rfl⟩, ⟨by decide, h⟩, by simp⟩

theorem utf8_friendJson {user : User} (h : isUtf8 user.name = true) :
    (friendJson user).utf8 = true := by
  refine Json.utf8_object ?_
  simp only [List.forall_mem_cons]
  refine ⟨⟨by decide, rfl⟩, ⟨by decide, h⟩, ⟨by decide, ?_⟩, by simp⟩
  cases user.state <;> decide

theorem utf8_memberJson {user : GroupUser} (h : isUtf8 user.name = true) :
    (memberJson user).utf8 = true := by
  refine Json.utf8_object ?_
  simp only [List.forall_mem_cons]
  refine ⟨⟨by decide, rfl⟩, ⟨by decide, h⟩, ⟨by decide, ?_⟩, ⟨by decide, ?_⟩, by simp⟩
  · cases user.state <;> decide
  · cases user.role <;> decide

theorem isUtf8_dumps {α : Type} {f : α → Json} {xs : List α} (h : ∀ x ∈ xs, (f x).utf8 = true) :
    ∀ s ∈ xs.map fun x => (f x).dump, isUtf8 s = true := by
  intro s hs
  obtain ⟨x, hx, rfl⟩ := List.mem_map.mp hs
  exact Json.isUtf8_dump _ (h x hx)

theorem utf8_groupJson {group : Group} (h : group.Utf8) : (groupJson group).utf8 = true := by
  refine Json.utf8_object ?_
  simp only [List.forall_mem_cons]
  exact ⟨⟨by decide, rfl⟩, ⟨by decide, h.1⟩, ⟨by decide, h.2.1⟩, ⟨by decide,
    Json.utf8_strings (isUtf8_dumps fun user hu => utf8_memberJson (h.2.2 user hu))⟩, by simp⟩

theorem utf8_listField {key : String} {vec : List Str} (hk : isUtf8 (txt key) = true)
    (h : ∀ s ∈ vec, isUtf8 s = true) :
    ∀ f ∈ listField key vec, isUtf8 (txt f.1) = true ∧ f.2.utf8 = true := by
  unfold listField
  split
  · simp
  · simp only [List.forall_mem_cons]
    exact ⟨⟨hk, Json.utf8_strings h⟩, by simp⟩

theorem utf8_loginResponse {user : User} {vec : List Str} {userVec : List User}
    {groupVec : List Group} (hn : isUtf8 user.name = true) (hv : ∀ m ∈ vec, isUtf8 m = true)
    (hu : ∀ u ∈ userVec, isUtf8 u.name = true) (hg : ∀ g ∈ groupVec, g.Utf8) :
    (loginResponse user vec userVec groupVec).utf8 = true := by
  refine Json.utf8_object ?_
  simp only [List.forall_mem_append, List.forall_mem_cons]
  refine ⟨⟨⟨⟨⟨by decide, rfl⟩, ⟨by decide, rfl⟩, ⟨by decide, rfl⟩, ⟨by decide, hn⟩, by simp⟩,
    utf8_listField (by decide) hv⟩, utf8_listField (by decide) ?_⟩, utf8_listField (by decide) ?_⟩
  · exact isUtf8_dumps fun u hu' => utf8_friendJson (hu u hu')
  · exact isUtf8_dumps fun g hg' => utf8_groupJson (hg g hg')

/-! ## Agreement -/

namespace Throwing

section Agree

/-- The throwing program throws nothing and does the same. -/
abbrev Same (p : Throwing Unit) (q : Serv Unit) : Prop := Mirrors Utf8Answer (fun _ => True) p.run q

theorem sendJson_same (conn : ConnId) {js : Json} (h : js.utf8 = true) :
    Same (sendJson conn js) (QtChat.sendJson conn js) :=
  Mirrors.bind_ok (Json.dumpStrict_eq h) (Mirrors.lift_any _)

theorem publish_same (ch : Int) {js : Json} (h : js.utf8 = true) :
    Same (do let body ← js.dumpStrict; let _ ← publish ch body)
      (do let _ ← publish ch js.dump) :=
  Mirrors.bind_ok (Json.dumpStrict_eq h) (Mirrors.bind (Mirrors.lift_any _) fun _ _ => .ret trivial)

theorem notifyFriendState_same (userid : Int) (state : UserState) :
    Same (notifyFriendState userid state) (ChatService.notifyFriendState userid state) := by
  have hjs := utf8_friendState userid state
  refine Mirrors.bind (Mirrors.lift_any _) fun friends _ => ?_
  refine Mirrors.bind (Mirrors.lift_any _) fun r _ => ?_
  refine Mirrors.bind (Mirrors.each (fun conn => sendJson_same conn hjs) _) fun _ _ => ?_
  exact Mirrors.each (fun fid => publish_same fid hjs) _

theorem dumps_eq {α : Type} {f : α → Json} {xs : List α} (h : ∀ x ∈ xs, (f x).utf8 = true) :
    dumps (xs.map f) = .ok (xs.map fun x => (f x).dump) := by
  induction xs with
  | nil => rfl
  | cons x xs ih =>
    rw [List.map_cons, dumps, Json.dumpStrict_eq (h x (by simp)), ih fun y hy => h y (by simp [hy])]
    rfl

theorem dumpGroup_eq {group : Group} (h : group.Utf8) :
    dumpGroup group = .ok (groupJson group).dump := by
  rw [dumpGroup, dumps_eq fun user hu => utf8_memberJson (h.2.2 user hu)]
  exact Json.dumpStrict_eq (utf8_groupJson h)

theorem dumpGroups_eq {groups : List Group} (h : ∀ g ∈ groups, g.Utf8) :
    dumpGroups groups = .ok (groups.map fun g => (groupJson g).dump) := by
  induction groups with
  | nil => rfl
  | cons g groups ih =>
    rw [dumpGroups, dumpGroup_eq (h g (by simp)), ih fun g' hg => h g' (by simp [hg])]
    rfl

theorem sendLogin_same (conn : ConnId) {user : User} (hn : isUtf8 user.name = true) :
    Same (sendLogin conn user) (ChatService.sendLogin conn user) := by
  refine Mirrors.bind (Mirrors.lift (offline_utf8 _)) fun vec hv => ?_
  refine Mirrors.bind (Mirrors.lift (friends_utf8 _)) fun userVec hu => ?_
  refine Mirrors.bind_ok (dumps_eq fun u hm => utf8_friendJson (hu u hm)) ?_
  refine Mirrors.bind (Mirrors.lift (queryGroups_utf8 _)) fun groupVec hg => ?_
  refine Mirrors.bind_ok (dumpGroups_eq hg) ?_
  refine Mirrors.bind (sendJson_same conn (utf8_loginResponse hn hv hu hg)) fun _ _ => ?_
  change Same (if (!vec.isEmpty) = true then _ else _) (if (!vec.isEmpty) = true then _ else _)
  split
  · exact Mirrors.lift_any _
  · exact .ret trivial

theorem loginAs_same (conn : ConnId) (id : Int) (pwd : Str) :
    Same (loginAs conn id pwd) (ChatService.loginAs conn id pwd) := by
  refine Mirrors.bind (Mirrors.lift (query_utf8 id)) fun user hn => ?_
  change Same (if user.id = id ∧ user.password = pwd then _ else _)
    (if user.id = id ∧ user.password = pwd then _ else _)
  split
  · refine Mirrors.bind (Mirrors.lift_any _) fun _ _ => ?_
    refine Mirrors.bind (Mirrors.lift_any _) fun _ _ => ?_
    refine Mirrors.bind (sendLogin_same conn hn) fun _ _ => ?_
    exact notifyFriendState_same id .online
  · exact sendJson_same conn (utf8_loginError (by decide))

theorem regAs_same (conn : ConnId) (name pwd : Str) :
    Same (regAs conn name pwd) (ChatService.regAs conn name pwd) := by
  refine Mirrors.bind (Mirrors.lift_any _) fun r _ => ?_
  rcases r with _ | id
  · exact sendJson_same conn (by decide)
  · refine sendJson_same conn (Json.utf8_object ?_)
    simp only [List.forall_mem_cons]
    exact ⟨⟨by decide, rfl⟩, ⟨by decide, rfl⟩, ⟨by decide, rfl⟩, by simp⟩

theorem loginoutAs_same (conn : ConnId) (userid : Int) :
    Same (loginoutAs conn userid) (ChatService.loginoutAs conn userid) := by
  refine Mirrors.bind (Mirrors.lift_any _) fun _ _ => ?_
  refine Mirrors.bind (Mirrors.lift_any _) fun _ _ => ?_
  refine Mirrors.bind (Mirrors.lift_any _) fun _ _ => ?_
  refine Mirrors.bind (Mirrors.lift_any _) fun _ _ => ?_
  exact notifyFriendState_same userid .offline

theorem oneChatTo_same (toid : Int) {js : Json} (h : js.utf8 = true) :
    Same (oneChatTo toid js) (ChatService.oneChatTo toid js) := by
  refine Mirrors.bind (Mirrors.lift_any _) fun r _ => ?_
  rcases r with _ | toConn
  · refine Mirrors.bind (Mirrors.lift_any _) fun user _ => ?_
    change Same (if user.state = .online then _ else _) (if user.state = .online then _ else _)
    split
    · exact publish_same toid h
    · exact Mirrors.bind_ok (Json.dumpStrict_eq h) (Mirrors.lift_any _)
  · exact sendJson_same toConn h

theorem storeOffline_same {js : Json} (h : js.utf8 = true) (ids : List Int) :
    Mirrors Utf8Answer (fun _ => True) (storeOffline js ids).run (ChatService.storeOffline js ids) := by
  induction ids with
  | nil => exact .ret trivial
  | cons id ids ih =>
    refine Mirrors.bind (Mirrors.lift_any _) fun user _ => ?_
    change Mirrors _ _ (ExceptT.run (if user.state = .online then _ else _))
      (if user.state = .online then _ else _)
    split
    · exact Mirrors.bind ih fun _ _ => .ret trivial
    · refine Mirrors.bind_ok (Json.dumpStrict_eq h) ?_
      exact Mirrors.bind (Mirrors.lift_any _) fun _ _ => ih

theorem groupChatFrom_same (userid groupid : Int) {js : Json} (h : js.utf8 = true) :
    Same (groupChatFrom userid groupid js) (ChatService.groupChatFrom userid groupid js) := by
  refine Mirrors.bind (Mirrors.lift_any _) fun useridVec _ => ?_
  have hroute : Mirrors Utf8Answer (fun _ => True) (routeGroup useridVec js).run
      (ChatService.routeGroup useridVec js) := by
    rw [routeGroup, Json.dumpStrict_eq h]
    exact Mirrors.lift_any _
  refine Mirrors.bind hroute fun offlineIds _ => ?_
  refine Mirrors.bind (storeOffline_same h offlineIds) fun crossIds _ => ?_
  exact Mirrors.each (fun id => publish_same id h) crossIds

theorem addFriendAs_same (conn : ConnId) (userid friendid : Int) :
    Same (addFriendAs conn userid friendid) (ChatService.addFriendAs conn userid friendid) := by
  refine Mirrors.bind (Mirrors.lift_any _) fun _ _ => ?_
  refine Mirrors.bind (Mirrors.lift_any _) fun _ _ => ?_
  refine Mirrors.bind (Mirrors.lift (query_utf8 friendid)) fun friendUser hn => ?_
  refine sendJson_same conn (Json.utf8_object ?_)
  simp only [List.forall_mem_cons]
  refine ⟨⟨by decide, rfl⟩, ⟨by decide, rfl⟩, ⟨by decide, hn⟩, ⟨by decide, ?_⟩, by simp⟩
  cases friendUser.state <;> decide

theorem createGroupAs_same (conn : ConnId) (userid : Int) {name desc : Str}
    (hn : isUtf8 name = true) (hd : isUtf8 desc = true) :
    Same (createGroupAs conn userid name desc) (ChatService.createGroupAs conn userid name desc) := by
  refine Mirrors.bind (Mirrors.lift_any _) fun r _ => ?_
  rcases r with _ | id
  · exact .ret trivial
  · refine Mirrors.bind (Mirrors.lift_any _) fun _ _ => ?_
    refine sendJson_same conn (Json.utf8_object ?_)
    simp only [List.forall_mem_cons]
    exact ⟨⟨by decide, rfl⟩, ⟨by decide, rfl⟩, ⟨by decide, hn⟩, ⟨by decide, hd⟩, by simp⟩

theorem addGroupAs_same (conn : ConnId) (userid groupid : Int) :
    Same (addGroupAs conn userid groupid) (ChatService.addGroupAs conn userid groupid) := by
  refine Mirrors.bind (Mirrors.lift_any _) fun _ _ => ?_
  refine Mirrors.bind (Mirrors.lift (queryGroup_utf8 groupid)) fun group hn => ?_
  refine sendJson_same conn (Json.utf8_object ?_)
  simp only [List.forall_mem_cons]
  exact ⟨⟨by decide, rfl⟩, ⟨by decide, rfl⟩, ⟨by decide, hn⟩, by simp⟩

theorem updateNameAs_same (conn : ConnId) (userid : Int) {newName : Str}
    (hn : isUtf8 newName = true) :
    Same (updateNameAs conn userid newName) (ChatService.updateNameAs conn userid newName) := by
  refine Mirrors.bind (Mirrors.lift_any _) fun state _ => ?_
  cases state with
  | false => exact sendJson_same conn (by decide)
  | true =>
    refine sendJson_same conn (Json.utf8_object ?_)
    simp only [List.forall_mem_cons]
    exact ⟨⟨by decide, rfl⟩, ⟨by decide, rfl⟩, ⟨by decide, hn⟩, by simp⟩

end Agree

/-! ## The handlers -/

/-- An acknowledgement of a login or a registration with `errno` 1. -/
def IsRefusal (js : Json) : Prop :=
  (js.get? "msgid" = some (.int EnMsgType.loginMsgAck.toInt) ∨
    js.get? "msgid" = some (.int EnMsgType.regMsgAck.toInt)) ∧ js.get? "errno" = some (.int 1)

/-- How a handler and its request go together: an exception before the handler has done anything, a
missing field, with an answer or without, or else no exception at all. -/
inductive Meets (conn : ConnId) : Throwing Outcome → Request → Prop
  | thrown (e : JsonError) : Meets conn (ExceptT.mk (.ret (.error e))) (.error e)
  | missing : Meets conn (return .missing) (.ok (.ret ()))
  | refused {js : Json} : IsRefusal js → js.utf8 = true →
      Meets conn (do sendJson conn js; return .missing) (.ok (QtChat.sendJson conn js))
  | handled {p : Throwing Unit} {q : Serv Unit} : Same p q →
      Meets conn (do p; return .handled) (.ok q)

variable {conn : ConnId}

/-- A field is read. -/
theorem Meets.read {α : Type} {v : Except JsonError α} {f : α → Throwing Outcome} {g : α → Request}
    (h : ∀ x, v = .ok x → Meets conn (f x) (g x)) :
    Meets conn ((liftM v : Throwing α) >>= f) (v >>= g) := by
  cases v with
  | error e => exact .thrown e
  | ok x => exact h x rfl

theorem Meets.check {c : Bool} {p p' : Throwing Outcome} {q q' : Request} (h : Meets conn p q)
    (h' : Meets conn p' q') :
    Meets conn (if c = true then p else p') (if c = true then q else q') := by
  split
  · exact h
  · exact h'

theorem login_meets (js : Json) : Meets conn (login conn js) (ChatService.login conn js) := by
  refine Meets.check (.refused ⟨.inl rfl, rfl⟩ (by decide)) ?_
  exact .read fun id _ => .read fun pwd _ => .handled (loginAs_same conn id pwd)

theorem reg_meets (js : Json) : Meets conn (reg conn js) (ChatService.reg conn js) := by
  refine Meets.check (.refused ⟨.inr rfl, rfl⟩ (by decide)) ?_
  exact .read fun name _ => .read fun pwd _ => .handled (regAs_same conn name pwd)

theorem loginout_meets (js : Json) : Meets conn (loginout conn js) (ChatService.loginout conn js) :=
  .check .missing (.read fun userid _ => .handled (loginoutAs_same conn userid))

theorem oneChat_meets {js : Json} (h : js.utf8 = true) :
    Meets conn (oneChat conn js) (ChatService.oneChat conn js) :=
  .check .missing (.read fun toid _ => .read fun _ _ => .handled (oneChatTo_same toid h))

theorem groupChat_meets {js : Json} (h : js.utf8 = true) :
    Meets conn (groupChat conn js) (ChatService.groupChat conn js) :=
  .check .missing (.read fun userid _ => .read fun groupid _ =>
    .handled (groupChatFrom_same userid groupid h))

theorem addFriend_meets (js : Json) :
    Meets conn (addFriend conn js) (ChatService.addFriend conn js) :=
  .check .missing (.read fun userid _ => .read fun friendid _ =>
    .handled (addFriendAs_same conn userid friendid))

theorem createGroup_meets {js : Json} (h : js.utf8 = true) :
    Meets conn (createGroup conn js) (ChatService.createGroup conn js) :=
  .check .missing (.read fun userid _ => .read fun _ hn => .read fun _ hd =>
    .handled (createGroupAs_same conn userid (Json.utf8_stringAt h hn) (Json.utf8_stringAt h hd)))

theorem addGroup_meets (js : Json) : Meets conn (addGroup conn js) (ChatService.addGroup conn js) :=
  .check .missing (.read fun userid _ => .read fun groupid _ =>
    .handled (addGroupAs_same conn userid groupid))

theorem updateName_meets {js : Json} (h : js.utf8 = true) :
    Meets conn (updateName conn js) (ChatService.updateName conn js) :=
  .check .missing (.read fun userid _ => .read fun _ hn =>
    .handled (updateNameAs_same conn userid (Json.utf8_stringAt h hn)))

theorem heartbeat_meets (js : Json) :
    Meets conn (heartbeat conn js) (ChatService.heartbeat conn js) :=
  .handled (p := do updateConnTime conn; sendJson conn (.object [EnMsgType.heartbeatMsg.field]))
    (Mirrors.bind (Mirrors.lift_any _) fun _ _ => sendJson_same conn (by decide))

/-- Every handler. -/
theorem getHandler_meets {js : Json} (h : js.utf8 = true) (msgid : Int) :
    Meets conn (getHandler msgid conn js) (ChatService.getHandler msgid conn js) := by
  unfold getHandler
  split
  · exact login_meets js
  · exact loginout_meets js
  · exact reg_meets js
  · exact oneChat_meets h
  · exact addFriend_meets js
  · exact createGroup_meets h
  · exact addGroup_meets js
  · exact groupChat_meets h
  · exact updateName_meets h
  · exact heartbeat_meets js
  · have hnone : ChatService.getHandler msgid conn js = .ok (.ret ()) := by
      unfold ChatService.getHandler
      split <;> first | contradiction | rfl
    rw [hnone]
    exact .handled (p := return ()) (.ret trivial)

theorem dispatch_meets {js : Json} (h : js.utf8 = true) :
    Meets conn (dispatch conn js) (ChatService.dispatch conn js) :=
  .read fun msgid _ => getHandler_meets h msgid

/-- **A run of a handler**: an exception before the first action, or the run of the request, which
got to its end or returned at a missing field with a refusal at most. -/
theorem Meets.trace {p : Throwing Outcome} {q : Request} {i : ServerId} {w w' : World}
    {r : Except JsonError Outcome} {h : List (Call chat)} (hm : Meets conn p q)
    (ht : p.run.trace i w = some (h, r, w')) (hA : ∀ c ∈ h, Utf8Answer c) :
    (∃ e, q = .error e ∧ r = .error e ∧ h = [] ∧ w' = w) ∨
    ∃ q', q = .ok q' ∧ q'.trace i w = some (h, (), w') ∧ (r = .ok .handled ∨
      r = .ok .missing ∧ (h = [] ∨ ∃ js, IsRefusal js ∧ h = [⟨.send conn js, ()⟩])) := by
  cases hm with
  | thrown e =>
    cases ht
    exact .inl ⟨e, rfl, rfl, rfl, rfl⟩
  | missing =>
    cases ht
    exact .inr ⟨_, rfl, rfl, .inr ⟨rfl, .inl rfl⟩⟩
  | @refused js hr hu =>
    obtain ⟨rfl, x, hs⟩ := (sendJson_same conn hu).trace_return ht hA
    refine .inr ⟨_, rfl, hs, .inr ⟨rfl, .inr ⟨js, hr, ?_⟩⟩⟩
    cases hs
    rfl
  | handled hs =>
    obtain ⟨rfl, x, hs⟩ := hs.trace_return ht hA
    exact .inr ⟨_, rfl, hs, .inl rfl⟩

end Throwing

end QtChat
