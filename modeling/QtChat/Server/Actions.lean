import QtChat.Server.Runs

/-!
# What the handlers can do

For each handler the actions that it performs, whatever the answers: a predicate on actions, and the
theorem that all actions of the handler satisfy it (`…_all`). What one action keeps is then what the
handler keeps (`Prog.All.run_rel`, `Evolves.keep`).
-/

namespace QtChat

open Interleave

namespace ChatService

section Methods

variable {α : Type} {A : Act → Prop}

/-- A method that acquires a connection and sends a statement. -/
theorem all_ask {st : Stmt} {d : Serv α} {f : Option st.Ans → Serv α} (ha : A .acquire)
    (hs : A (.sql st)) (hd : d.All A) (hf : ∀ r, (f r).All A) :
    (acquire >>= fun ok => if (!ok) = true then d else sql st >>= f).All A := by
  refine ⟨ha, fun ok => ?_⟩
  change (if (!ok) = true then d else sql st >>= f).All A
  split
  · exact hd
  · exact ⟨hs, fun r => hf r⟩

theorem all_format {text : Str} (h : A (.halt .bufferOverflow)) : (format text).All A := by
  unfold format
  split
  · exact ⟨h, fun r => r.elim⟩
  · trivial

/-- A method that formats its statement in `char sql[1024]`. -/
theorem all_ask_format {text : Str} {d p : Serv α} (ha : A .acquire)
    (hh : A (.halt .bufferOverflow)) (hd : d.All A) (hp : p.All A) :
    (acquire >>= fun ok => if (!ok) = true then d else format text >>= fun _ => p).All A := by
  refine ⟨ha, fun ok => ?_⟩
  change (if (!ok) = true then d else format text >>= fun _ => p).All A
  split
  · exact hd
  · exact Prog.All.bind (all_format hh) fun _ => hp

theorem all_sendJson {conn : ConnId} {js : Json} (h : A (.send conn js)) :
    (sendJson conn js).All A :=
  ⟨h, fun _ => trivial⟩

theorem all_query {id : Int} (ha : A .acquire) (hs : A (.sql (.selectUser id))) :
    (UserModel.query id).All A := by
  refine all_ask ha hs trivial fun r => ?_
  rcases r with _ | _ | row <;> trivial

theorem all_insertOffline {userid : Int} {msg : Str} (ha : A .acquire)
    (hs : A (.sql (.insertOffline (OfflineMsgModel.insertSql userid msg)))) :
    (OfflineMsgModel.insert userid msg).All A :=
  all_ask ha hs trivial fun _ => trivial

theorem all_friends {userid : Int} (ha : A .acquire) (hs : A (.sql (.selectFriends userid))) :
    (FriendModel.query userid).All A := by
  refine all_ask ha hs trivial fun r => ?_
  rcases r with _ | rows <;> trivial

theorem all_queryMembers {groups : List Group} (hs : ∀ gid, A (.sql (.selectGroupMembers gid))) :
    (GroupModel.queryMembers groups).All A := by
  induction groups with
  | nil => trivial
  | cons group groups ih =>
    refine Prog.All.bind (p := sql _) ⟨hs _, fun _ => trivial⟩ fun rows => ?_
    exact Prog.All.bind ih fun _ => trivial

theorem all_queryGroups {userid : Int} (ha : A .acquire) (hs : A (.sql (.selectGroups userid)))
    (hm : ∀ gid, A (.sql (.selectGroupMembers gid))) : (GroupModel.queryGroups userid).All A := by
  refine all_ask ha hs trivial fun r => ?_
  rcases r with _ | rows
  · trivial
  · exact all_queryMembers hm

end Methods

/-! ## The handlers -/

/-- `notifyFriendState`. -/
def NotifyAct (userid : Int) (state : UserState) : Act → Prop
  | .acquire => True
  | .sql st => st = .selectFriends userid
  | .splitFriends _ => True
  | .send _ js => js = friendState userid state
  | .publish _ message => message = (friendState userid state).dump
  | _ => False

theorem notifyFriendState_all (userid : Int) (state : UserState) :
    (notifyFriendState userid state).All (NotifyAct userid state) := by
  refine Prog.All.bind (all_friends trivial rfl) fun friends => ?_
  refine Prog.All.bind (p := splitFriends _) ⟨trivial, fun _ => trivial⟩ fun r => ?_
  refine Prog.All.bind (Prog.All.each fun conn _ => ?_) fun _ => Prog.All.each fun fid _ => ?_
  · exact ⟨rfl, fun _ => trivial⟩
  · exact ⟨rfl, fun _ => trivial⟩

/-- `login` of `id` on `conn`. -/
def LoginAct (conn : ConnId) (id : Int) : Act → Prop
  | .acquire => True
  | .sql (.selectUser id') => id' = id
  | .sql (.updateState id' state) => id' = id ∧ state = .online
  | .sql (.selectOffline id') => id' = id
  | .sql (.deleteOffline id') => id' = id
  | .sql (.selectFriends id') => id' = id
  | .sql (.selectGroups id') => id' = id
  | .sql (.selectGroupMembers _) => True
  | .forceRelogin id' conn' => id' = id ∧ conn' = conn
  | .mapUser id' conn' => id' = id ∧ conn' = conn
  | .subscribe ch => ch = id
  | .splitFriends _ => True
  | .send conn' js => conn' = conn ∨ js = friendState id .online
  | .publish _ message => message = (friendState id .online).dump
  | _ => False

theorem registerConn_all (conn : ConnId) (id : Int) (state : UserState) :
    (registerConn conn id state).All (LoginAct conn id) := by
  unfold registerConn
  split
  · exact ⟨⟨rfl, rfl⟩, fun _ => trivial⟩
  · exact ⟨⟨rfl, rfl⟩, fun _ => ⟨rfl, fun _ => trivial⟩⟩

/-- The part of `login` that reads for the acknowledgement and sends it. -/
def AckAct (conn : ConnId) (id : Int) : Act → Prop
  | .acquire => True
  | .sql (.selectOffline id') => id' = id
  | .sql (.deleteOffline id') => id' = id
  | .sql (.selectFriends id') => id' = id
  | .sql (.selectGroups id') => id' = id
  | .sql (.selectGroupMembers _) => True
  | .send conn' _ => conn' = conn
  | _ => False

theorem sendLogin_acks (conn : ConnId) (user : User) :
    (sendLogin conn user).All (AckAct conn user.id) := by
  refine Prog.All.bind (all_ask trivial rfl trivial fun _ => trivial) fun vec => ?_
  refine Prog.All.bind (all_friends trivial rfl) fun userVec => ?_
  refine Prog.All.bind (all_queryGroups trivial rfl fun _ => trivial) fun groupVec => ?_
  refine ⟨rfl, fun _ => ?_⟩
  change (if (!vec.isEmpty) = true then OfflineMsgModel.remove user.id else _).All _
  split
  · exact all_ask trivial rfl trivial fun _ => trivial
  · trivial

theorem sendLogin_all (conn : ConnId) (user : User) :
    (sendLogin conn user).All (LoginAct conn user.id) := by
  refine (sendLogin_acks conn user).mono fun a ha => ?_
  cases a with
  | sql st => cases st <;> first | exact ha | exact ha.elim
  | send => exact .inl ha
  | acquire => trivial
  | _ => exact ha.elim

theorem loginAs_all (conn : ConnId) (id : Int) (pwd : Str) :
    (loginAs conn id pwd).All (LoginAct conn id) := by
  refine Prog.All.bind (all_query trivial rfl) fun user => ?_
  split
  · rename_i h
    refine Prog.All.bind (registerConn_all conn id user.state) fun _ => ?_
    refine Prog.All.bind (all_ask trivial ⟨h.1, rfl⟩ trivial fun _ => trivial) fun _ => ?_
    refine Prog.All.bind ?_ fun _ => ?_
    · have := sendLogin_all conn { user with state := .online }
      rw [h.1] at this ⊢
      exact this
    · refine (notifyFriendState_all id .online).mono fun a ha => ?_
      cases a <;> simp_all [NotifyAct, LoginAct]
  · exact ⟨.inl rfl, fun _ => trivial⟩

/-- `loginout` of `id`, and `clientCloseException` after the entry of `id` was taken. -/
def LogoutAct (conn : ConnId) (id : Int) : Act → Prop
  | .eraseUser id' => id' = id
  | .unsubscribe ch => ch = id
  | .eraseLastTime conn' => conn' = conn
  | .acquire => True
  | .sql st => st = .updateState id .offline ∨ st = .selectFriends id
  | .splitFriends _ => True
  | .send _ js => js = friendState id .offline
  | .publish _ message => message = (friendState id .offline).dump
  | _ => False

theorem logoutAct_of_notify {conn : ConnId} {id : Int} {a : Act} (h : NotifyAct id .offline a) :
    LogoutAct conn id a := by
  cases a <;> simp_all [NotifyAct, LogoutAct]

theorem loginoutAs_all (conn : ConnId) (userid : Int) :
    (loginoutAs conn userid).All (LogoutAct conn userid) := by
  refine Prog.All.bind (p := eraseUser _) ⟨rfl, fun _ => trivial⟩ fun _ => ?_
  refine Prog.All.bind (p := unsubscribe _) ⟨rfl, fun _ => trivial⟩ fun _ => ?_
  refine Prog.All.bind (p := eraseLastTime _) ⟨rfl, fun _ => trivial⟩ fun _ => ?_
  refine Prog.All.bind (all_ask trivial (.inl rfl) trivial fun _ => trivial) fun _ => ?_
  exact (notifyFriendState_all userid .offline).mono fun _ => logoutAct_of_notify

theorem clientClosed_all (conn : ConnId) (user : User) :
    (clientClosed conn user).All (LogoutAct conn user.id) := by
  refine Prog.All.bind (p := unsubscribe _) ⟨rfl, fun _ => trivial⟩ fun _ => ?_
  refine Prog.All.bind (p := eraseLastTime _) ⟨rfl, fun _ => trivial⟩ fun _ => ?_
  split
  · refine Prog.All.bind (all_ask trivial (.inl rfl) trivial fun _ => trivial) fun _ => ?_
    exact (notifyFriendState_all user.id .offline).mono fun _ => logoutAct_of_notify
  · trivial

/-- The handlers that deliver or store messages: `oneChat`, `groupChat` and
`handleRedisSubscribeMessage`. -/
def ChatAct : Act → Prop
  | .acquire => True
  | .sql (.selectUser _) => True
  | .sql (.selectGroupUserIds ..) => True
  | .sql (.insertOffline _) => True
  | .findConn _ => True
  | .send .. => True
  | .routeGroup .. => True
  | .publish .. => True
  | .halt _ => True
  | _ => False

theorem oneChatTo_all (toid : Int) (js : Json) : (oneChatTo toid js).All ChatAct := by
  refine Prog.All.bind (p := findConn _) ⟨trivial, fun _ => trivial⟩ fun r => ?_
  rcases r with _ | conn
  · refine Prog.All.bind (all_query trivial trivial) fun user => ?_
    split
    · exact ⟨trivial, fun _ => trivial⟩
    · exact all_insertOffline trivial trivial
  · exact ⟨trivial, fun _ => trivial⟩

theorem storeOffline_all (js : Json) (ids : List Int) : (storeOffline js ids).All ChatAct := by
  induction ids with
  | nil => trivial
  | cons id ids ih =>
    refine Prog.All.bind (all_query trivial trivial) fun user => ?_
    split
    · exact Prog.All.bind ih fun _ => trivial
    · exact Prog.All.bind (all_insertOffline trivial trivial) fun _ => ih

theorem groupChatFrom_all (userid groupid : Int) (js : Json) :
    (groupChatFrom userid groupid js).All ChatAct := by
  refine Prog.All.bind (all_ask trivial trivial trivial fun _ => trivial) fun useridVec => ?_
  refine Prog.All.bind (p := routeGroup _ _) ⟨trivial, fun _ => trivial⟩ fun offlineIds => ?_
  refine Prog.All.bind (storeOffline_all js offlineIds) fun crossIds => ?_
  exact Prog.All.each fun id _ => ⟨trivial, fun _ => trivial⟩

theorem storeMessage_all (parsed : Option Json) (userid : Int) (msg : Str) :
    (storeMessage parsed userid msg).All ChatAct := by
  have hs : (OfflineMsgModel.insert userid msg).All ChatAct := all_insertOffline trivial trivial
  unfold storeMessage
  split
  · split
    · split
      · exact ⟨trivial, fun r => r.elim⟩
      · split
        · trivial
        · exact hs
    · exact hs
  · exact hs

theorem handleRedisSubscribeMessage_all (P : JsonParser) (userid : Int) (msg : Str) :
    (handleRedisSubscribeMessage P userid msg).All ChatAct := by
  refine Prog.All.bind (p := findConn _) ⟨trivial, fun _ => trivial⟩ fun r => ?_
  rcases r with _ | conn
  · exact storeMessage_all _ userid msg
  · rcases P.parse msg with _ | js
    · trivial
    · exact ⟨trivial, fun _ => trivial⟩

/-- The handlers that read and write rows and have to do with no session: `reg`, `addFriend`,
`createGroup`, `addGroup` and `updateName`. -/
def RowAct : Act → Prop
  | .acquire => True
  | .sql (.insertUser _ _ state) => state = .offline
  | .sql (.selectUser _) => True
  | .sql (.updateName ..) => True
  | .sql (.insertFriend ..) => True
  | .sql (.insertGroup ..) => True
  | .sql (.insertGroupUser ..) => True
  | .sql (.selectGroup _) => True
  | .send .. => True
  | .halt _ => True
  | _ => False

theorem regAs_rows (conn : ConnId) (name pwd : Str) : (regAs conn name pwd).All RowAct := by
  refine Prog.All.bind ?_ fun r => ?_
  · exact all_ask_format trivial trivial trivial ⟨rfl, fun _ => trivial⟩
  · rcases r with _ | id <;> exact ⟨trivial, fun _ => trivial⟩

theorem addFriendAs_rows (conn : ConnId) (userid friendid : Int) :
    (addFriendAs conn userid friendid).All RowAct := by
  refine Prog.All.bind (all_ask trivial trivial trivial fun _ => trivial) fun _ => ?_
  refine Prog.All.bind (all_ask trivial trivial trivial fun _ => trivial) fun _ => ?_
  refine Prog.All.bind (all_query trivial trivial) fun user => ?_
  exact ⟨trivial, fun _ => trivial⟩

theorem createGroupAs_rows (conn : ConnId) (userid : Int) (name desc : Str) :
    (createGroupAs conn userid name desc).All RowAct := by
  refine Prog.All.bind ?_ fun r => ?_
  · exact all_ask_format trivial trivial trivial ⟨trivial, fun _ => trivial⟩
  · rcases r with _ | id
    · trivial
    · refine Prog.All.bind (all_ask trivial trivial trivial fun _ => trivial) fun _ => ?_
      exact ⟨trivial, fun _ => trivial⟩

theorem addGroupAs_rows (conn : ConnId) (userid groupid : Int) :
    (addGroupAs conn userid groupid).All RowAct := by
  refine Prog.All.bind (all_ask trivial trivial trivial fun _ => trivial) fun _ => ?_
  refine Prog.All.bind (all_ask trivial trivial trivial fun r => ?_) fun group => ?_
  · rcases r with _ | _ | row <;> trivial
  · exact ⟨trivial, fun _ => trivial⟩

theorem updateNameAs_rows (conn : ConnId) (userid : Int) (newName : Str) :
    (updateNameAs conn userid newName).All RowAct := by
  refine Prog.All.bind ?_ fun ok => ?_
  · refine all_ask_format trivial trivial trivial ?_
    exact Prog.All.bind (p := sql _) ⟨trivial, fun _ => trivial⟩ fun _ => trivial
  · cases ok <;> exact ⟨trivial, fun _ => trivial⟩

/-- These handlers and `heartbeat`. -/
def RecordAct : Act → Prop
  | .acquire => True
  | .sql (.insertUser _ _ state) => state = .offline
  | .sql (.selectUser _) => True
  | .sql (.updateName ..) => True
  | .sql (.insertFriend ..) => True
  | .sql (.insertGroup ..) => True
  | .sql (.insertGroupUser ..) => True
  | .sql (.selectGroup _) => True
  | .updateConnTime _ => True
  | .send .. => True
  | .halt _ => True
  | _ => False

theorem record_of_row {a : Act} (h : RowAct a) : RecordAct a := by
  cases a with
  | sql st => cases st <;> exact h
  | updateConnTime => exact h.elim
  | _ => exact h

theorem regAs_all (conn : ConnId) (name pwd : Str) : (regAs conn name pwd).All RecordAct :=
  (regAs_rows conn name pwd).mono fun _ => record_of_row

theorem addFriendAs_all (conn : ConnId) (userid friendid : Int) :
    (addFriendAs conn userid friendid).All RecordAct :=
  (addFriendAs_rows conn userid friendid).mono fun _ => record_of_row

theorem createGroupAs_all (conn : ConnId) (userid : Int) (name desc : Str) :
    (createGroupAs conn userid name desc).All RecordAct :=
  (createGroupAs_rows conn userid name desc).mono fun _ => record_of_row

theorem addGroupAs_all (conn : ConnId) (userid groupid : Int) :
    (addGroupAs conn userid groupid).All RecordAct :=
  (addGroupAs_rows conn userid groupid).mono fun _ => record_of_row

theorem updateNameAs_all (conn : ConnId) (userid : Int) (newName : Str) :
    (updateNameAs conn userid newName).All RecordAct :=
  (updateNameAs_rows conn userid newName).mono fun _ => record_of_row

theorem heartbeatOf_all (conn : ConnId) : (heartbeatOf conn).All RecordAct :=
  ⟨trivial, fun _ => ⟨trivial, fun _ => trivial⟩⟩

/-! ## Dispatch -/

/-- What a request does, by what can be read from it. -/
inductive Handles (conn : ConnId) (js : Json) : Serv Unit → Prop
  | nothing : Handles conn js (.ret ())
  | loginFields : Handles conn js (sendJson conn (loginError "invalid fields"))
  | regFields : Handles conn js (sendJson conn (regError [("errmsg", .str (txt "invalid fields"))]))
  | login {id : Int} {pwd : Str} : js.intAt "msgid" = .ok 1 → js.intAt "id" = .ok id →
      js.stringAt "password" = .ok pwd → Handles conn js (loginAs conn id pwd)
  | loginout {id : Int} : js.intAt "msgid" = .ok 3 → js.intAt "id" = .ok id →
      Handles conn js (loginoutAs conn id)
  | reg (name pwd : Str) : Handles conn js (regAs conn name pwd)
  | oneChat {toid : Int} : js.intAt "msgid" = .ok 6 → js.intAt "toid" = .ok toid →
      Handles conn js (oneChatTo toid js)
  | addFriend {userid friendid : Int} : js.intAt "msgid" = .ok 7 → js.intAt "id" = .ok userid →
      js.intAt "friendid" = .ok friendid → Handles conn js (addFriendAs conn userid friendid)
  | createGroup (userid : Int) (name desc : Str) :
      Handles conn js (createGroupAs conn userid name desc)
  | addGroup (userid groupid : Int) : Handles conn js (addGroupAs conn userid groupid)
  | groupChat {userid groupid : Int} : js.intAt "msgid" = .ok 10 → js.intAt "id" = .ok userid →
      js.intAt "groupid" = .ok groupid → Handles conn js (groupChatFrom userid groupid js)
  | updateName (userid : Int) (newName : Str) : Handles conn js (updateNameAs conn userid newName)
  | heartbeat : Handles conn js (heartbeatOf conn)

/-- What a field check and the reads after it leave of a handler. -/
theorem ok_of_reads {ε α β : Type} {x : Except ε α} {f : α → Except ε β} {b : β}
    (h : (x >>= f) = .ok b) : ∃ a, x = .ok a ∧ f a = .ok b := by
  cases x with
  | error e => cases h
  | ok a => exact ⟨a, rfl, h⟩

/-- **Every request that is read** is one of these. -/
theorem handles_of_dispatch {conn : ConnId} {js : Json} {p : Serv Unit}
    (h : dispatch conn js = .ok p) : Handles conn js p := by
  obtain ⟨msgid, hm, h⟩ := ok_of_reads h
  unfold getHandler at h
  split at h
  · unfold ChatService.login at h
    split at h
    · cases h; exact .loginFields
    · obtain ⟨id, hi, h⟩ := ok_of_reads h
      obtain ⟨pwd, hp, h⟩ := ok_of_reads h
      cases h; exact .login hm hi hp
  · unfold ChatService.loginout at h
    split at h
    · cases h; exact .nothing
    · obtain ⟨id, hi, h⟩ := ok_of_reads h
      cases h; exact .loginout hm hi
  · unfold ChatService.reg at h
    split at h
    · cases h; exact .regFields
    · obtain ⟨name, -, h⟩ := ok_of_reads h
      obtain ⟨pwd, -, h⟩ := ok_of_reads h
      cases h; exact .reg name pwd
  · unfold ChatService.oneChat at h
    split at h
    · cases h; exact .nothing
    · obtain ⟨toid, ht, h⟩ := ok_of_reads h
      obtain ⟨-, -, h⟩ := ok_of_reads h
      cases h; exact .oneChat hm ht
  · unfold ChatService.addFriend at h
    split at h
    · cases h; exact .nothing
    · obtain ⟨userid, hu, h⟩ := ok_of_reads h
      obtain ⟨friendid, hf, h⟩ := ok_of_reads h
      cases h; exact .addFriend hm hu hf
  · unfold ChatService.createGroup at h
    split at h
    · cases h; exact .nothing
    · obtain ⟨userid, -, h⟩ := ok_of_reads h
      obtain ⟨name, -, h⟩ := ok_of_reads h
      obtain ⟨desc, -, h⟩ := ok_of_reads h
      cases h; exact .createGroup userid name desc
  · unfold ChatService.addGroup at h
    split at h
    · cases h; exact .nothing
    · obtain ⟨userid, -, h⟩ := ok_of_reads h
      obtain ⟨groupid, -, h⟩ := ok_of_reads h
      cases h; exact .addGroup userid groupid
  · unfold ChatService.groupChat at h
    split at h
    · cases h; exact .nothing
    · obtain ⟨userid, hu, h⟩ := ok_of_reads h
      obtain ⟨groupid, hg, h⟩ := ok_of_reads h
      cases h; exact .groupChat hm hu hg
  · unfold ChatService.updateName at h
    split at h
    · cases h; exact .nothing
    · obtain ⟨userid, -, h⟩ := ok_of_reads h
      obtain ⟨newName, -, h⟩ := ok_of_reads h
      cases h; exact .updateName userid newName
  · cases h; exact .heartbeat
  · cases h; exact .nothing

end ChatService

end QtChat
