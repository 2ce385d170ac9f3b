import Mathlib.Data.Set.Basic
import QtChat.Interleave.Knowledge
import QtChat.Server.Actions

/-!
# What a server may send, publish and store

Whom a packet is for is decided by what the server knows: the frames that it has read, and rows of
the tables (`Fact`). `discipline` says, by these, what may be given to `send`, to Redis and to the
table of offline messages, and which connections may be entered for a user:

- a connection is a user's after a login with the user's password on it (`LoggedInBy`);
- a chat goes to the user that it names, or to the members of the group that it names (`ChatFor`);
- a friend state goes to the friends of the user (`NoticeFor`);
- what else is sent answers a request on the same connection (`Sendable`).

All handlers are honest (`handleMsg_honest` and the lemmas before it).
-/

namespace QtChat

open Interleave ChatService

/-- What a server can know. -/
inductive Fact where
  /-- It has read the value in a frame on the connection. -/
  | read (conn : ConnId) (js : Json)
  /-- The value was read by one of the servers. -/
  | posted (js : Json)
  /-- The user's row has the password, as the C string that the server sees. -/
  | password (userid : Int) (pwd : Str)
  | friends (userid friendid : Int)
  | member (groupid userid : Int)

abbrev Facts := Set Fact

instance : Preorder Facts where
  le k k' := k ⊆ k'
  lt k k' := k ⊆ k' ∧ ¬k' ⊆ k
  le_refl k := Set.Subset.refl k
  le_trans _ _ _ h h' := Set.Subset.trans h h'

/-- Facts that all servers have in common. -/
def Fact.Shared : Fact → Prop
  | .read .. => False
  | _ => True

/-- The user has logged in on the connection. User -1 is the default object that
`UserModel::query` returns without a row: it has an empty password. -/
def LoggedInBy (k : Facts) (userid : Int) (conn : ConnId) : Prop :=
  ∃ js pwd, .read conn js ∈ k ∧ js.intAt "msgid" = .ok 1 ∧ js.intAt "id" = .ok userid ∧
    js.stringAt "password" = .ok pwd ∧ (.password userid pwd ∈ k ∨ userid = -1 ∧ pwd = [])

/-- A chat message that was posted for the user. -/
def ChatFor (k : Facts) (userid : Int) (js : Json) : Prop :=
  .posted js ∈ k ∧ (js.intAt "msgid" = .ok 6 ∧ js.intAt "toid" = .ok userid ∨
    js.intAt "msgid" = .ok 10 ∧ ∃ groupid fromid, js.intAt "groupid" = .ok groupid ∧
      js.intAt "id" = .ok fromid ∧ .member groupid userid ∈ k ∧ userid ≠ fromid)

/-- The state of a user whose friend the user is. -/
def NoticeFor (k : Facts) (userid : Int) (js : Json) : Prop :=
  ∃ id state, js = friendState id state ∧ .friends id userid ∈ k

/-- The id of the answers to a request. -/
def EnMsgType.answer : EnMsgType → Option EnMsgType
  | .loginMsg => some .loginMsgAck
  | .regMsg => some .regMsgAck
  | .addFriendMsg => some .addFriendMsg
  | .createGroupMsg => some .createGroupMsg
  | .addGroupMsg => some .addGroupMsg
  | .updateNameMsg => some .updateNameMsg
  | .heartbeatMsg => some .heartbeatMsg
  | _ => none

/-- The text of a chat message that was posted for the user. -/
def StoredFor (k : Facts) (userid : Int) (msg : Str) : Prop :=
  ∃ js, msg = js.dump ∧ ChatFor k userid js

/-- The value has none of the lists of a positive `LOGIN_MSG_ACK`. -/
def NoLists (js : Json) : Prop :=
  js.get? "offlinemsg" = none ∧ js.get? "friends" = none ∧ js.get? "groups" = none

/-- What may be given to `send`. -/
inductive Sendable (k : Facts) (conn : ConnId) : Json → Prop
  /-- An answer to a request of the connection. -/
  | answer {request js : Json} {m a : EnMsgType} : .read conn request ∈ k →
      request.intAt "msgid" = .ok m.toInt → m.answer = some a →
      js.get? "msgid" = some (.int a.toInt) → NoLists js → Sendable k conn js
  /-- A positive login: the user's own messages, friends and groups. -/
  | accepted {user : User} {vec : List Str} {userVec : List User} {groupVec : List Group} :
      LoggedInBy k user.id conn → (∀ msg ∈ vec, StoredFor k user.id msg) →
      (∀ f ∈ userVec, .friends user.id f.id ∈ k) →
      (∀ g ∈ groupVec, .member g.id user.id ∈ k ∧ ∀ u ∈ g.users, .member g.id u.id ∈ k) →
      Sendable k conn (loginResponse user vec userVec groupVec)
  | chat {userid : Int} {js : Json} : LoggedInBy k userid conn → ChatFor k userid js →
      Sendable k conn js
  | notice {userid : Int} {js : Json} : LoggedInBy k userid conn → NoticeFor k userid js →
      Sendable k conn js

theorem LoggedInBy.read {k : Facts} {userid : Int} {conn : ConnId} (h : LoggedInBy k userid conn) :
    ∃ js, .read conn js ∈ k := by
  obtain ⟨js, pwd, hr, -⟩ := h
  exact ⟨js, hr⟩

/-- Nothing is sent before a frame was read. -/
theorem Sendable.read {k : Facts} {conn : ConnId} {js : Json} (h : Sendable k conn js) :
    ∃ js, .read conn js ∈ k := by
  cases h with
  | answer hr => exact ⟨_, hr⟩
  | accepted hl => exact hl.read
  | chat hl => exact hl.read
  | notice hl => exact hl.read

/-- What may be published on the channel of a user. -/
def PushableTo (k : Facts) (userid : Int) (msg : Str) : Prop :=
  ∃ js, msg = js.dump ∧ (ChatFor k userid js ∨ NoticeFor k userid js)

/-- The actions that what is known allows. -/
def MayAct (k : Facts) : Act → Prop
  | .send conn js => Sendable k conn js
  | .publish ch msg => PushableTo k ch msg
  | .sql (.insertOffline text) =>
    ∃ userid msg, text = OfflineMsgModel.insertSql userid msg ∧ StoredFor k userid msg
  | .forceRelogin id conn => LoggedInBy k id conn
  | .mapUser id conn => LoggedInBy k id conn
  | .subscribe ch => ∃ conn, LoggedInBy k ch conn
  | .routeGroup ids js => ∀ id ∈ ids, ChatFor k id js
  | _ => True

/-- The answers that an action can have. -/
def AnswerOk (k : Facts) : (a : Act) → a.Res → Prop
  | .findConn id, r => ∀ conn, r = some conn → LoggedInBy k id conn
  | .splitFriends ids, r => (∀ conn ∈ r.1, ∃ id ∈ ids, LoggedInBy k id conn) ∧ r.2 ⊆ ids
  | .routeGroup ids _, r => r ⊆ ids
  | .sql (.selectUser id), r =>
    ∀ row, r = some (some row) → .password id (cstr row.password) ∈ k
  | .sql (.selectFriends id), r => ∀ rows, r = some rows → ∀ x ∈ rows, .friends id x.1 ∈ k
  | .sql (.selectGroups id), r => ∀ rows, r = some rows → ∀ x ∈ rows, .member x.1 id ∈ k
  | .sql (.selectGroupMembers g), r => ∀ rows, r = some rows → ∀ x ∈ rows, .member g x.1 ∈ k
  | .sql (.selectGroupUserIds g id), r =>
    ∀ ids, r = some ids → ∀ x ∈ ids, .member g x ∈ k ∧ x ≠ id
  | .sql (.selectOffline id), r => ∀ msgs, r = some msgs → ∀ msg ∈ msgs, StoredFor k id msg
  | _, _ => True

/-! ## Nothing that is learned forbids anything -/

section Mono

variable {k k' : Facts} {userid : Int} {conn : ConnId} {js : Json}

theorem LoggedInBy.mono (h : LoggedInBy k userid conn) (hk : k ⊆ k') :
    LoggedInBy k' userid conn := by
  obtain ⟨js, pwd, hr, hm, hi, hp, hrow⟩ := h
  exact ⟨js, pwd, hk hr, hm, hi, hp, hrow.imp_left fun h => hk h⟩

/-- Whom a chat is for, any server can tell. -/
theorem ChatFor.shared (h : ChatFor k userid js) (hk : ∀ f, f.Shared → f ∈ k → f ∈ k') :
    ChatFor k' userid js := by
  refine ⟨hk _ trivial h.1, h.2.imp_right ?_⟩
  rintro ⟨hm, groupid, fromid, hg, hi, hmem, hne⟩
  exact ⟨hm, groupid, fromid, hg, hi, hk _ trivial hmem, hne⟩

theorem NoticeFor.shared (h : NoticeFor k userid js) (hk : ∀ f, f.Shared → f ∈ k → f ∈ k') :
    NoticeFor k' userid js := by
  obtain ⟨id, state, hj, hf⟩ := h
  exact ⟨id, state, hj, hk _ trivial hf⟩

theorem StoredFor.shared {msg : Str} (h : StoredFor k userid msg)
    (hk : ∀ f, f.Shared → f ∈ k → f ∈ k') : StoredFor k' userid msg := by
  obtain ⟨js, hm, hc⟩ := h
  exact ⟨js, hm, hc.shared hk⟩

theorem PushableTo.shared {msg : Str} (h : PushableTo k userid msg)
    (hk : ∀ f, f.Shared → f ∈ k → f ∈ k') : PushableTo k' userid msg := by
  obtain ⟨js, hm, hc⟩ := h
  exact ⟨js, hm, hc.imp (·.shared hk) (·.shared hk)⟩

theorem ChatFor.mono (h : ChatFor k userid js) (hk : k ⊆ k') : ChatFor k' userid js :=
  h.shared fun _ _ hf => hk hf

theorem StoredFor.mono {msg : Str} (h : StoredFor k userid msg) (hk : k ⊆ k') :
    StoredFor k' userid msg :=
  h.shared fun _ _ hf => hk hf

theorem PushableTo.mono {msg : Str} (h : PushableTo k userid msg) (hk : k ⊆ k') :
    PushableTo k' userid msg :=
  h.shared fun _ _ hf => hk hf

theorem Sendable.mono (h : Sendable k conn js) (hk : k ⊆ k') : Sendable k' conn js := by
  cases h with
  | answer hr hm ha hj hn => exact .answer (hk hr) hm ha hj hn
  | accepted hl hv hu hg =>
    refine .accepted (hl.mono hk) (fun msg h => (hv msg h).mono hk) (fun f h => hk (hu f h))
      fun g h => ⟨hk (hg g h).1, fun u h' => hk ((hg g h).2 u h')⟩
  | chat hl hc => exact .chat (hl.mono hk) (hc.mono hk)
  | notice hl hn => exact .notice (hl.mono hk) (hn.shared fun _ _ hf => hk hf)

theorem MayAct.mono {a : Act} (hk : k ⊆ k') (h : MayAct k a) : MayAct k' a := by
  cases a with
  | send conn js => exact Sendable.mono h hk
  | publish ch msg => exact PushableTo.mono h hk
  | sql st =>
    cases st with
    | insertOffline text =>
      obtain ⟨userid, msg, ht, hs⟩ := h
      exact ⟨userid, msg, ht, hs.mono hk⟩
    | _ => trivial
  | forceRelogin id conn => exact LoggedInBy.mono h hk
  | mapUser id conn => exact LoggedInBy.mono h hk
  | subscribe ch =>
    obtain ⟨conn, hl⟩ := h
    exact ⟨conn, hl.mono hk⟩
  | routeGroup ids js => exact fun id hid => (h id hid).mono hk
  | _ => trivial

end Mono

/-- The rules for the handlers. -/
def discipline : Discipline chat Facts where
  may := MayAct
  may_mono hk h := MayAct.mono hk h
  answers := AnswerOk

namespace ChatService

/-! ## The methods of the model classes -/

section Methods

variable {α : Type} {k : Facts} {Q : Facts → α → Prop}

/-- One allowed action. -/
theorem perform_honest {a : Act} (h : MayAct k a) :
    discipline.Honest k (.act a .ret) fun k' r => AnswerOk k' a r :=
  Discipline.honest_perform h

theorem honest_ask {st : Stmt} {d : Serv α} {f : Option st.Ans → Serv α} (hs : MayAct k (.sql st))
    (hd : ∀ k', k ⊆ k' → discipline.Honest k' d Q)
    (hf : ∀ k', k ⊆ k' → ∀ r, AnswerOk k' (.sql st) r → discipline.Honest k' (f r) Q) :
    discipline.Honest k
      (acquire >>= fun ok => if (!ok) = true then d else sql st >>= f) Q := by
  refine ⟨trivial, fun k₁ hk₁ ok _ => ?_⟩
  change discipline.Honest k₁ (if (!ok) = true then d else sql st >>= f) Q
  split
  · exact hd k₁ hk₁
  · exact ⟨hs.mono hk₁, fun k₂ hk₂ r hr => hf k₂ (hk₁.trans hk₂) r hr⟩

/-- The object is the default one, or has the password of the user's row. -/
theorem query_honest (id : Int) : discipline.Honest k (UserModel.query id) fun k' user =>
    user = {} ∨ user.id = id ∧ .password id user.password ∈ k' := by
  refine honest_ask trivial (fun _ _ => .inl rfl) fun k₁ _ r hr => ?_
  rcases r with _ | _ | row
  · exact .inl rfl
  · exact .inl rfl
  · exact .inr ⟨rfl, hr row rfl⟩

theorem friends_honest (userid : Int) : discipline.Honest k (FriendModel.query userid)
    fun k' friends => ∀ f ∈ friends, .friends userid f.id ∈ k' := by
  refine honest_ask trivial (fun _ _ f hf => by cases hf) fun k₁ _ r hr => ?_
  rcases r with _ | rows
  · exact fun f hf => by cases hf
  · intro f hf
    obtain ⟨x, hx, rfl⟩ := List.mem_map.mp hf
    exact hr rows rfl x hx

theorem queryMembers_honest (userid : Int) (groups : List Group)
    (hg : ∀ g ∈ groups, Fact.member g.id userid ∈ k) :
    discipline.Honest k (GroupModel.queryMembers groups) fun k' groups =>
      ∀ g ∈ groups, .member g.id userid ∈ k' ∧ ∀ u ∈ g.users, .member g.id u.id ∈ k' := by
  induction groups generalizing k with
  | nil => exact fun g hg => by cases hg
  | cons group groups ih =>
    refine (perform_honest (a := Act.sql (.selectGroupMembers group.id)) trivial).bind
      fun k₁ hk₁ rows hrows => ?_
    refine (ih fun g h => hk₁ (hg g (List.mem_cons_of_mem _ h))).bind fun k₂ hk₂ rest hrest => ?_
    intro g h
    rcases List.mem_cons.mp h with rfl | h
    · refine ⟨hk₂ (hk₁ (hg group List.mem_cons_self)), fun u hu => ?_⟩
      obtain ⟨x, hx, rfl⟩ := List.mem_map.mp hu
      cases rows with
      | none => cases hx
      | some rows => exact hk₂ (hrows rows rfl x hx)
    · exact hrest g h

theorem queryGroups_honest (userid : Int) : discipline.Honest k (GroupModel.queryGroups userid)
    fun k' groups =>
      ∀ g ∈ groups, .member g.id userid ∈ k' ∧ ∀ u ∈ g.users, .member g.id u.id ∈ k' := by
  refine honest_ask trivial (fun _ _ g hg => by cases hg) fun k₁ _ r hr => ?_
  rcases r with _ | rows
  · exact fun g hg => by cases hg
  · refine queryMembers_honest userid _ fun g hg => ?_
    obtain ⟨x, hx, rfl⟩ := List.mem_map.mp hg
    exact hr rows rfl x hx

theorem queryGroupUsers_honest (userid groupid : Int) :
    discipline.Honest k (GroupModel.queryGroupUsers userid groupid) fun k' ids =>
      ∀ id ∈ ids, .member groupid id ∈ k' ∧ id ≠ userid := by
  refine honest_ask trivial (fun _ _ g hg => by cases hg) fun k₁ _ r hr => ?_
  rcases r with _ | ids
  · exact fun id hid => by cases hid
  · exact hr ids rfl

/-- The texts that come back are the ones that were stored. -/
theorem queryOffline_honest (userid : Int) :
    discipline.Honest k (OfflineMsgModel.query userid) fun k' msgs =>
      ∀ msg ∈ msgs, StoredFor k' userid msg := by
  refine honest_ask trivial (fun _ _ g hg => by cases hg) fun k₁ _ r hr => ?_
  rcases r with _ | msgs
  · exact fun msg hmsg => by cases hmsg
  · intro msg hmsg
    obtain ⟨m, hm, rfl⟩ := List.mem_map.mp hmsg
    obtain ⟨js, rfl, hc⟩ := hr msgs rfl m hm
    exact ⟨js, cstr_of_no_nul (Json.no_nul_dump js), hc⟩

theorem insertOffline_honest {userid : Int} {msg : Str} (h : StoredFor k userid msg) :
    discipline.Honest k (OfflineMsgModel.insert userid msg) fun _ _ => True :=
  honest_ask ⟨userid, msg, rfl, h⟩ (fun _ _ => trivial) fun _ _ _ _ => trivial

theorem updateState_honest (user : User) :
    discipline.Honest k (UserModel.updateState user) fun _ _ => True :=
  honest_ask trivial (fun _ _ => trivial) fun _ _ _ _ => trivial

theorem insertFriend_honest (userid friendid : Int) :
    discipline.Honest k (FriendModel.insert userid friendid) fun _ _ => True :=
  honest_ask trivial (fun _ _ => trivial) fun _ _ _ _ => trivial

theorem addGroup_honest (userid groupid : Int) (role : Role) :
    discipline.Honest k (GroupModel.addGroup userid groupid role) fun _ _ => True :=
  honest_ask trivial (fun _ _ => trivial) fun _ _ _ _ => trivial

/-- A method that formats its statement in `char sql[1024]`. -/
theorem honest_ask_format {text : Str} {d p : Serv α} (hd : ∀ k', discipline.Honest k' d Q)
    (hp : ∀ k', discipline.Honest k' p Q) : discipline.Honest k
      (acquire >>= fun ok => if (!ok) = true then d else format text >>= fun _ => p) Q := by
  refine ⟨trivial, fun k₁ _ ok _ => ?_⟩
  change discipline.Honest k₁ (if (!ok) = true then d else format text >>= fun _ => p) Q
  split
  · exact hd k₁
  · unfold format
    split
    · exact ⟨trivial, fun _ _ r => r.elim⟩
    · exact hp k₁

theorem insertUser_honest (name pwd : Str) (state : UserState) :
    discipline.Honest k (UserModel.insert name pwd state) fun _ _ => True :=
  honest_ask_format (fun _ => trivial) fun _ => ⟨trivial, fun _ _ _ _ => trivial⟩

theorem updateName_honest (id : Int) (name : Str) :
    discipline.Honest k (UserModel.updateName id name) fun _ _ => True :=
  honest_ask_format (fun _ => trivial) fun _ => ⟨trivial, fun _ _ _ _ => trivial⟩

theorem createGroup_honest (name desc : Str) :
    discipline.Honest k (GroupModel.createGroup name desc) fun _ _ => True :=
  honest_ask_format (fun _ => trivial) fun _ => ⟨trivial, fun _ _ _ _ => trivial⟩

theorem queryGroup_honest (groupid : Int) :
    discipline.Honest k (GroupModel.queryGroup groupid) fun _ _ => True := by
  refine honest_ask trivial (fun _ _ => trivial) fun k₁ _ r _ => ?_
  rcases r with _ | _ | row <;> trivial

end Methods

/-! ## The handlers -/

section Handlers

variable {k : Facts} {conn : ConnId}

theorem sendJson_honest {js : Json} (h : Sendable k conn js) :
    discipline.Honest k (sendJson conn js) fun _ _ => True :=
  ⟨h, fun _ _ _ _ => trivial⟩

theorem publish_honest {ch : Int} {msg : Str} (h : PushableTo k ch msg) :
    discipline.Honest k (do let _ ← publish ch msg) fun _ _ => True :=
  ⟨h, fun _ _ _ _ => trivial⟩

theorem notifyFriendState_honest (userid : Int) (state : UserState) :
    discipline.Honest k (notifyFriendState userid state) fun _ _ => True := by
  refine (friends_honest userid).bind fun k₁ _ friends hfriends => ?_
  refine (perform_honest (a := Act.splitFriends (friends.map (·.id))) trivial).bind
    fun k₂ hk₂ r hr => ?_
  have hnotice : ∀ k', k₂ ⊆ k' → ∀ id ∈ friends.map (·.id),
      NoticeFor k' id (friendState userid state) := by
    intro k' hk' id hid
    obtain ⟨f, hf, rfl⟩ := List.mem_map.mp hid
    exact ⟨userid, state, rfl, hk' (hk₂ (hfriends f hf))⟩
  refine (Discipline.Honest.each fun c hc k₃ hk₃ => ?_).bind fun k₃ hk₃ _ _ =>
    Discipline.Honest.each fun fid hfid k₄ hk₄ => ?_
  · obtain ⟨id, hid, hl⟩ := hr.1 c hc
    exact sendJson_honest (.notice (hl.mono hk₃) (hnotice k₃ hk₃ id hid))
  · exact publish_honest ⟨_, rfl, .inr (hnotice k₄ (hk₃.trans hk₄) fid (hr.2 hfid))⟩

theorem registerConn_honest {id : Int} (state : UserState) (h : LoggedInBy k id conn) :
    discipline.Honest k (registerConn conn id state) fun _ _ => True := by
  unfold registerConn
  split
  · exact ⟨h, fun _ _ _ _ => trivial⟩
  · exact ⟨h, fun k₁ hk₁ _ _ => ⟨⟨conn, h.mono hk₁⟩, fun _ _ _ _ => trivial⟩⟩

theorem sendLogin_honest {user : User} (h : LoggedInBy k user.id conn) :
    discipline.Honest k (sendLogin conn user) fun _ _ => True := by
  refine (queryOffline_honest user.id).bind fun k₁ hk₁ vec hvec => ?_
  refine (friends_honest user.id).bind fun k₂ hk₂ userVec huser => ?_
  refine (queryGroups_honest user.id).bind fun k₃ hk₃ groupVec hgroup => ?_
  have hack : Sendable k₃ conn (loginResponse user vec userVec groupVec) := by
    refine .accepted (h.mono (hk₁.trans (hk₂.trans hk₃)))
      (fun msg hm => (hvec msg hm).mono (hk₂.trans hk₃)) (fun f hf => hk₃ (huser f hf)) hgroup
  refine (sendJson_honest hack).bind fun k₄ _ _ _ => ?_
  split
  · exact honest_ask trivial (fun _ _ => trivial) fun _ _ _ _ => trivial
  · trivial

/-- An error text as an answer to the request. -/
theorem error_sendable {request : Json} {m a : EnMsgType} {errmsg : List (String × Json)}
    (hr : Fact.read conn request ∈ k) (hm : request.intAt "msgid" = .ok m.toInt)
    (ha : m.answer = some a) (he : ∀ f ∈ errmsg, f.1 = "errmsg") :
    Sendable k conn (.object ([a.field, ("errno", .int 1)] ++ errmsg)) := by
  have hget : ∀ key, txt "errmsg" ≠ txt key →
      (Json.object ([a.field, ("errno", .int 1)] ++ errmsg)).get? key =
        (Json.object [a.field, ("errno", .int 1)]).get? key := fun key hk =>
    Json.get?_object_append fun f hf => by rw [he f hf]; exact hk
  refine .answer hr hm ha ?_ ⟨?_, ?_, ?_⟩ <;> rw [hget _ (by decide)] <;> rfl

theorem loginAs_honest {request : Json} {id : Int} {pwd : Str}
    (hr : Fact.read conn request ∈ k) (hm : request.intAt "msgid" = .ok 1)
    (hi : request.intAt "id" = .ok id) (hp : request.stringAt "password" = .ok pwd) :
    discipline.Honest k (loginAs conn id pwd) fun _ _ => True := by
  refine (query_honest id).bind fun k₁ hk₁ user huser => ?_
  split
  · rename_i hc
    obtain ⟨rfl, rfl⟩ := hc
    have hl : LoggedInBy k₁ user.id conn := by
      refine ⟨request, user.password, hk₁ hr, hm, hi, hp, ?_⟩
      rcases huser with rfl | ⟨-, h⟩
      · exact .inr ⟨rfl, rfl⟩
      · exact .inl h
    refine (registerConn_honest user.state hl).bind fun k₂ hk₂ _ _ => ?_
    refine (updateState_honest _).bind fun k₃ hk₃ _ _ => ?_
    refine (sendLogin_honest (hl.mono (hk₂.trans hk₃))).bind fun k₄ _ _ _ => ?_
    exact notifyFriendState_honest user.id .online
  · exact sendJson_honest (error_sendable (m := .loginMsg) (hk₁ hr) hm rfl (by simp))

theorem loginoutAs_honest (userid : Int) :
    discipline.Honest k (loginoutAs conn userid) fun _ _ => True := by
  refine ⟨trivial, fun k₁ _ _ _ => ⟨trivial, fun k₂ _ _ _ => ⟨trivial, fun k₃ _ _ _ => ?_⟩⟩⟩
  exact (updateState_honest _).bind fun k₄ _ _ _ => notifyFriendState_honest userid .offline

theorem clientClosed_honest (user : User) :
    discipline.Honest k (clientClosed conn user) fun _ _ => True := by
  refine ⟨trivial, fun k₁ _ _ _ => ⟨trivial, fun k₂ _ _ _ => ?_⟩⟩
  change discipline.Honest k₂ (if user.id ≠ -1 then _ else _) _
  split
  · exact (updateState_honest _).bind fun k₃ _ _ _ => notifyFriendState_honest user.id .offline
  · trivial

theorem clientCloseException_honest (conn : ConnId) :
    discipline.Honest k (clientCloseException conn) fun _ _ => True := by
  refine ⟨trivial, fun k₁ _ r _ => ?_⟩
  rcases r with _ | id
  · exact clientClosed_honest {}
  · exact clientClosed_honest { id }

theorem oneChatTo_honest {toid : Int} {js : Json} (h : ChatFor k toid js) :
    discipline.Honest k (oneChatTo toid js) fun _ _ => True := by
  refine (perform_honest (a := Act.findConn toid) trivial).bind fun k₁ hk₁ r hr => ?_
  rcases r with _ | conn
  · refine (query_honest toid).bind fun k₂ hk₂ user _ => ?_
    have hc := h.mono (hk₁.trans hk₂)
    split
    · exact publish_honest ⟨js, rfl, .inl hc⟩
    · exact insertOffline_honest ⟨js, rfl, hc⟩
  · exact sendJson_honest (.chat (hr conn rfl) (h.mono hk₁))

theorem storeOffline_honest {js : Json} {ids : List Int} (h : ∀ id ∈ ids, ChatFor k id js) :
    discipline.Honest k (storeOffline js ids) fun _ cross => cross ⊆ ids := by
  induction ids generalizing k with
  | nil => exact List.nil_subset _
  | cons id ids ih =>
    refine (query_honest id).bind fun k₁ hk₁ user _ => ?_
    have hrest : ∀ k₂, k₁ ⊆ k₂ → ∀ u ∈ ids, ChatFor k₂ u js := fun k₂ hk₂ u hu =>
      (h u (List.mem_cons_of_mem id hu)).mono (hk₁.trans hk₂)
    split
    · exact (ih (hrest k₁ subset_rfl)).bind fun _ _ cross hcross => List.cons_subset_cons id hcross
    · refine (insertOffline_honest ⟨js, rfl, (h id List.mem_cons_self).mono hk₁⟩).bind
        fun k₂ hk₂ _ _ => (ih (hrest k₂ hk₂)).weaken fun _ _ cross hcross => ?_
      exact List.Subset.trans hcross (List.subset_cons_self id ids)

theorem groupChatFrom_honest {js : Json} {userid groupid : Int} (hr : Fact.posted js ∈ k)
    (hm : js.intAt "msgid" = .ok 10) (hi : js.intAt "id" = .ok userid)
    (hg : js.intAt "groupid" = .ok groupid) :
    discipline.Honest k (groupChatFrom userid groupid js) fun _ _ => True := by
  refine (queryGroupUsers_honest userid groupid).bind fun k₁ hk₁ ids hids => ?_
  have hc : ∀ id ∈ ids, ChatFor k₁ id js := fun id hid =>
    ⟨hk₁ hr, .inr ⟨hm, groupid, userid, hg, hi, (hids id hid).1, (hids id hid).2⟩⟩
  refine (perform_honest (a := Act.routeGroup ids js) hc).bind fun k₂ hk₂ offline hoff => ?_
  refine (storeOffline_honest fun id hid => (hc id (hoff hid)).mono hk₂).bind
    fun k₃ hk₃ cross hcross => Discipline.Honest.each fun id hid k₄ hk₄ => ?_
  exact publish_honest ⟨js, rfl, .inl ((hc id (hoff (hcross hid))).mono
    (hk₂.trans (hk₃.trans hk₄)))⟩

/-- What Redis has pushed is sent on or stored: a stored text is never a friend state. -/
theorem handleRedisSubscribeMessage_honest {P : JsonParser} {userid : Int} {msg : Str}
    (hnotice : ∀ id state, Fact.friends id userid ∈ k →
      P.parse (friendState id state).dump = some (friendState id state))
    (hposted : ∀ js, Fact.posted js ∈ k → P.parse js.dump = some js) (h : PushableTo k userid msg) :
    discipline.Honest k (handleRedisSubscribeMessage P userid msg) fun _ _ => True := by
  obtain ⟨js, rfl, hc⟩ := h
  have hparse : P.parse js.dump = some js := by
    rcases hc with hc | ⟨id, state, rfl, hf⟩
    · exact hposted js hc.1
    · exact hnotice id state hf
  refine (perform_honest (a := Act.findConn userid) trivial).bind fun k₁ hk₁ r hr => ?_
  rw [hparse]
  rcases r with _ | conn
  · change discipline.Honest k₁ (storeMessage (some js) userid js.dump) _
    rcases hc with hc | ⟨id, state, rfl, -⟩
    · have hs : discipline.Honest k₁ (OfflineMsgModel.insert userid js.dump) fun _ _ => True :=
        insertOffline_honest ⟨js, rfl, hc.mono hk₁⟩
      unfold storeMessage
      split
      · split
        · split
          · exact ⟨trivial, fun _ _ r => r.elim⟩
          · split
            · trivial
            · exact hs
        · exact hs
      · exact hs
    · trivial
  · refine sendJson_honest ?_
    rcases hc with hc | hc
    · exact .chat (hr conn rfl) (hc.mono hk₁)
    · exact .notice (hr conn rfl) (hc.shared fun _ _ hf => hk₁ hf)

/-! ## Answers to requests -/

section Answers

variable {request : Json} (hr : Fact.read conn request ∈ k)
include hr

/-- An answer that is built from an object without the lists of a login. -/
theorem answer_honest {m a : EnMsgType} {fields : List (String × Json)}
    (hm : request.intAt "msgid" = .ok m.toInt) (ha : m.answer = some a)
    (hget : (Json.object fields).get? "msgid" = some (.int a.toInt))
    (hnone : NoLists (.object fields)) :
    discipline.Honest k (sendJson conn (.object fields)) fun _ _ => True :=
  sendJson_honest (.answer hr hm ha hget hnone)

theorem regAs_honest (hm : request.intAt "msgid" = .ok 4) (name pwd : Str) :
    discipline.Honest k (regAs conn name pwd) fun _ _ => True := by
  refine (insertUser_honest name pwd .offline).bind fun k₁ hk₁ r _ => ?_
  rcases r with _ | id
  · exact answer_honest (m := .regMsg) (hk₁ hr) hm rfl rfl ⟨rfl, rfl, rfl⟩
  · exact answer_honest (m := .regMsg) (hk₁ hr) hm rfl rfl ⟨rfl, rfl, rfl⟩

theorem addFriendAs_honest (hm : request.intAt "msgid" = .ok 7) (userid friendid : Int) :
    discipline.Honest k (addFriendAs conn userid friendid) fun _ _ => True := by
  refine (insertFriend_honest userid friendid).bind fun k₁ hk₁ _ _ => ?_
  refine (insertFriend_honest friendid userid).bind fun k₂ hk₂ _ _ => ?_
  refine (query_honest friendid).bind fun k₃ hk₃ user _ => ?_
  exact answer_honest (m := .addFriendMsg) (hk₃ (hk₂ (hk₁ hr))) hm rfl rfl ⟨rfl, rfl, rfl⟩

theorem createGroupAs_honest (hm : request.intAt "msgid" = .ok 8) (userid : Int) (name desc : Str) :
    discipline.Honest k (createGroupAs conn userid name desc) fun _ _ => True := by
  refine (createGroup_honest name desc).bind fun k₁ hk₁ r _ => ?_
  rcases r with _ | id
  · trivial
  · refine (addGroup_honest userid id .creator).bind fun k₂ hk₂ _ _ => ?_
    exact answer_honest (m := .createGroupMsg) (hk₂ (hk₁ hr)) hm rfl rfl ⟨rfl, rfl, rfl⟩

theorem addGroupAs_honest (hm : request.intAt "msgid" = .ok 9) (userid groupid : Int) :
    discipline.Honest k (addGroupAs conn userid groupid) fun _ _ => True := by
  refine (addGroup_honest userid groupid .normal).bind fun k₁ hk₁ _ _ => ?_
  refine (queryGroup_honest groupid).bind fun k₂ hk₂ group _ => ?_
  exact answer_honest (m := .addGroupMsg) (hk₂ (hk₁ hr)) hm rfl rfl ⟨rfl, rfl, rfl⟩

theorem updateNameAs_honest (hm : request.intAt "msgid" = .ok 12) (userid : Int) (newName : Str) :
    discipline.Honest k (updateNameAs conn userid newName) fun _ _ => True := by
  refine (updateName_honest userid newName).bind fun k₁ hk₁ ok _ => ?_
  cases ok
  · exact answer_honest (m := .updateNameMsg) (hk₁ hr) hm rfl rfl ⟨rfl, rfl, rfl⟩
  · exact answer_honest (m := .updateNameMsg) (hk₁ hr) hm rfl rfl ⟨rfl, rfl, rfl⟩

theorem heartbeatOf_honest (hm : request.intAt "msgid" = .ok 13) :
    discipline.Honest k (heartbeatOf conn) fun _ _ => True := by
  refine ⟨trivial, fun k₁ hk₁ _ _ => ?_⟩
  exact answer_honest (m := .heartbeatMsg) (hk₁ hr) hm rfl rfl ⟨rfl, rfl, rfl⟩

/-- **Every request** is handled honestly. -/
theorem dispatch_honest (hposted : Fact.posted request ∈ k) {p : Serv Unit}
    (h : dispatch conn request = .ok p) : discipline.Honest k p fun _ _ => True := by
  obtain ⟨msgid, hm, h⟩ := ok_of_reads h
  unfold getHandler at h
  split at h
  · unfold ChatService.login at h
    split at h
    · cases h
      exact sendJson_honest (error_sendable (m := .loginMsg) hr hm rfl (by simp))
    · obtain ⟨id, hi, h⟩ := ok_of_reads h
      obtain ⟨pwd, hp, h⟩ := ok_of_reads h
      cases h
      exact loginAs_honest hr hm hi hp
  · unfold ChatService.loginout at h
    split at h
    · cases h; trivial
    · obtain ⟨id, -, h⟩ := ok_of_reads h
      cases h
      exact loginoutAs_honest id
  · unfold ChatService.reg at h
    split at h
    · cases h
      exact sendJson_honest (error_sendable (m := .regMsg) hr hm rfl (by simp))
    · obtain ⟨name, -, h⟩ := ok_of_reads h
      obtain ⟨pwd, -, h⟩ := ok_of_reads h
      cases h
      exact regAs_honest hr hm name pwd
  · unfold ChatService.oneChat at h
    split at h
    · cases h; trivial
    · obtain ⟨toid, ht, h⟩ := ok_of_reads h
      obtain ⟨-, -, h⟩ := ok_of_reads h
      cases h
      exact oneChatTo_honest ⟨hposted, .inl ⟨hm, ht⟩⟩
  · unfold ChatService.addFriend at h
    split at h
    · cases h; trivial
    · obtain ⟨userid, -, h⟩ := ok_of_reads h
      obtain ⟨friendid, -, h⟩ := ok_of_reads h
      cases h
      exact addFriendAs_honest hr hm userid friendid
  · unfold ChatService.createGroup at h
    split at h
    · cases h; trivial
    · obtain ⟨userid, -, h⟩ := ok_of_reads h
      obtain ⟨name, -, h⟩ := ok_of_reads h
      obtain ⟨desc, -, h⟩ := ok_of_reads h
      cases h
      exact createGroupAs_honest hr hm userid name desc
  · unfold ChatService.addGroup at h
    split at h
    · cases h; trivial
    · obtain ⟨userid, -, h⟩ := ok_of_reads h
      obtain ⟨groupid, -, h⟩ := ok_of_reads h
      cases h
      exact addGroupAs_honest hr hm userid groupid
  · unfold ChatService.groupChat at h
    split at h
    · cases h; trivial
    · obtain ⟨userid, hu, h⟩ := ok_of_reads h
      obtain ⟨groupid, hg, h⟩ := ok_of_reads h
      cases h
      exact groupChatFrom_honest hposted hm hu hg
  · unfold ChatService.updateName at h
    split at h
    · cases h; trivial
    · obtain ⟨userid, -, h⟩ := ok_of_reads h
      obtain ⟨newName, -, h⟩ := ok_of_reads h
      cases h
      exact updateNameAs_honest hr hm userid newName
  · cases h
    exact heartbeatOf_honest hr hm
  · cases h; trivial

end Answers

/-- **Every body** is handled honestly, once what it says is known. -/
theorem handleMsg_honest {P : JsonParser} {msg : Str} (hr : ∀ js, P.parse msg = some js →
    Fact.read conn js ∈ k ∧ Fact.posted js ∈ k) :
    discipline.Honest k (handleMsg P conn msg) fun _ _ => True := by
  unfold handleMsg
  split
  · trivial
  · rename_i js hp
    obtain ⟨hread, hposted⟩ := hr js hp
    refine ⟨trivial, fun k₁ hk₁ _ _ => ?_⟩
    change discipline.Honest k₁ (Request.run (dispatch conn js)) _
    cases h : dispatch conn js with
    | error e => trivial
    | ok p => exact dispatch_honest (hk₁ hread) (hk₁ hposted) h

theorem checkHeartbeat_honest : discipline.Honest k checkHeartbeat fun _ _ => True :=
  ⟨trivial, fun _ _ _ _ => Discipline.Honest.each fun _ _ _ _ => ⟨trivial, fun _ _ _ _ => trivial⟩⟩

theorem reset_honest : discipline.Honest k reset fun _ _ => True :=
  honest_ask trivial (fun _ _ => trivial) fun _ _ _ _ => trivial

end Handlers

end ChatService

end QtChat
