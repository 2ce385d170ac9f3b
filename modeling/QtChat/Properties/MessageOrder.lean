import Mathlib.Data.List.Flatten
import QtChat.Interleave.Merge
import QtChat.Interleave.Threads
import QtChat.Properties.ChatLogout
import QtChat.Properties.OfflineDrain

/-!
# The order of messages over a login

The messages of one sender come by three ways: stored, in the list of the acknowledgement; handed
over, as soon as `login` has entered the connection; and through Redis, when `oneChat` finds no
entry and then a row that says online. `login` enters the connection before it reads what is stored.

- `received`, `stored`, `waiting`: the sender's messages that the connection got, that are stored,
  and that Redis has pushed for the user.
- `Kept`: what was received and what is stored, put together as it was sent, is before what Redis
  has pushed; `kept_step`: one action, one callback of the observer.
- `order_kept`: messages arrive in the order they were sent, in every run in which no way overtakes
  another (`Orderly`); `order_lost`: a run in which one does.
-/

namespace QtChat

open Interleave ChatService

/-! ## Messages of a sender -/

/-- A chat message of the sender. -/
def ChatFrom (sender : Int) (js : Json) : Bool :=
  js.intAt "msgid" = .ok 6 ∧ js.intAt "id" = .ok sender

section Messages

variable (J : JsonParser) (sender : Int)

/-- The sender's messages among these texts. -/
def chatsIn (texts : List Str) : List Json := (texts.filterMap J.parse).filter (ChatFrom sender)

/-- The sender's messages in a packet: those of the list, if it is an acknowledgement. -/
def chatsOf (js : Json) : List Json :=
  if js.intAt "msgid" = .ok 2 then chatsIn J sender (offlineMsgs js) else [js].filter (ChatFrom sender)

/-- The sender's messages that Muduo took for `conn` after `w₀`. -/
def received (i : ServerId) (conn : ConnId) (w₀ w : World) : List Json :=
  ((sentIn i w₀ w).filter fun d => d.conn = conn ∧ d.accepted).flatMap fun d => chatsOf J sender d.js

/-- Those that are stored for `id`. -/
def stored (id : Int) (w : World) : List Json := chatsIn J sender ((w.db.offlineOf id).map cstr)

/-- What is pushed for `id`, or for another user of the connection. -/
def pushedFor (id : Int) (conn : ConnId) (s : Server) : List (Int × Str) :=
  s.inbox.filter fun e => e.1 = id ∨ s.userConnMap.lookup e.1 = some conn

/-- Those that Redis has pushed to the server. -/
def waiting (i : ServerId) (id : Int) (conn : ConnId) (w : World) : List Json :=
  ((pushedFor id conn (w.servers i)).filterMap fun e => J.parse e.2).flatMap (chatsOf J sender)

/-- The text counts as the messages in it. -/
def chatsOfText (text : Str) : List Json := (J.parse text).toList.flatMap (chatsOf J sender)

variable {J sender}

theorem chatsOf_ack {js : Json} (h : js.intAt "msgid" = .ok 2) :
    chatsOf J sender js = chatsIn J sender (offlineMsgs js) := if_pos h

theorem chatsOf_chat {js : Json} (h : ChatFrom sender js = true) : chatsOf J sender js = [js] := by
  have hm : js.intAt "msgid" = .ok 6 := (of_decide_eq_true h).1
  rw [chatsOf, if_neg (by rw [hm]; decide), List.filter_cons_of_pos h, List.filter_nil]

theorem chatsOf_state (id : Int) (state : UserState) :
    chatsOf J sender (friendState id state) = [] := by
  have hm : (friendState id state).intAt "msgid" = .ok 11 := rfl
  have hno : ¬ChatFrom sender (friendState id state) = true := by
    intro h
    have := (of_decide_eq_true h).1
    rw [hm] at this
    cases this
  rw [chatsOf, if_neg (by rw [hm]; decide), List.filter_cons_of_neg hno, List.filter_nil]

theorem chatsOfText_chat {js : Json} (hJ : J.parse js.dump = some js)
    (h : ChatFrom sender js = true) : chatsOfText J sender js.dump = [js] := by
  rw [chatsOfText, hJ, Option.toList_some, List.flatMap_singleton, chatsOf_chat h]

theorem chatsIn_append (l l' : List Str) :
    chatsIn J sender (l ++ l') = chatsIn J sender l ++ chatsIn J sender l' := by
  rw [chatsIn, List.filterMap_append, List.filter_append]
  rfl

end Messages

/-! ## The calls of the login -/

/-- The list that the call read. -/
def listRead : Call chat → Option (List Str)
  | ⟨.sql (.selectOffline _), some rows⟩ => some rows
  | _ => none

/-- The lists of offline messages that the calls read. -/
def listsRead (h : List (Call chat)) : List (List Str) := h.filterMap listRead

theorem listsRead_append (h h' : List (Call chat)) :
    listsRead (h ++ h') = listsRead h ++ listsRead h' := List.filterMap_append

theorem listsRead_quiet {h : List (Call chat)} (hq : ∀ c ∈ h, Quiet c.act) : listsRead h = [] := by
  refine List.filterMap_eq_nil_iff.mpr fun c hc => ?_
  have := hq c hc
  unfold listRead
  split
  · exact this.elim
  · rfl

/-- The call sends the acknowledgement. -/
def isAck : Call chat → Bool
  | ⟨.send _ js, _⟩ => js.intAt "msgid" = .ok 2
  | _ => false

/-- The calls have sent the acknowledgement. -/
def acked (h : List (Call chat)) : Bool := h.any isAck

theorem acked_quiet {h : List (Call chat)} (hq : ∀ c ∈ h, Quiet c.act) : acked h = false := by
  refine List.any_eq_false.mpr fun c hc => ?_
  have := hq c hc
  unfold isAck
  split
  · exact this.elim
  · decide

/-- After the calls, the login reads the messages of `id` once, sends what it has read once in the
acknowledgement, and removes messages only if it has read some. -/
def Proceeds (id : Int) (h : List (Call chat)) : Act → Prop
  | .sql (.selectOffline u) => u = id ∧ listsRead h = []
  | .sql (.deleteOffline _) => listsRead h ≠ []
  | .send _ js => js = friendState id .online ∨ js.intAt "msgid" = .ok 2 ∧ acked h = false ∧
      offlineMsgs js = (listsRead h).flatten.map cstr
  | _ => True

theorem proceeds_of_quiet {id : Int} (h : List (Call chat)) (a : Act) (ha : Quiet a) :
    Proceeds id h a := by
  cases a with
  | sql st => cases st <;> first | exact trivial | exact ha.elim
  | send => exact ha.elim
  | _ => exact trivial

theorem queryOffline_proceeds {id : Int} {h : List (Call chat)} (hl : listsRead h = []) :
    (OfflineMsgModel.query id).Always (fun _ => True) (Proceeds id) h := by
  refine (Prog.always_act (L := chat) _ _ _).mpr ⟨trivial, fun ok _ => ?_⟩
  change Prog.Always (L := chat) _ _ _ (if (!ok) = true then _ else _)
  split
  · trivial
  · refine (Prog.always_act (L := chat) _ _ _).mpr ⟨⟨rfl, ?_⟩, fun _ _ => trivial⟩
    rw [listsRead_append, hl]
    rfl

theorem queryOffline_lists (id : Int) : (OfflineMsgModel.query id).Ends (fun _ => True)
    fun h vec => vec = (listsRead h).flatten.map cstr ∧ acked h = false := by
  intro ok _
  cases ok with
  | false => exact ⟨rfl, rfl⟩
  | true =>
    intro rows _
    cases rows with
    | none => exact ⟨rfl, rfl⟩
    | some rows =>
      change rows.map cstr = [rows].flatten.map cstr ∧ _
      rw [List.flatten_singleton]
      exact ⟨rfl, rfl⟩

theorem sendLogin_proceeds {conn : ConnId} {user : User} {h : List (Call chat)}
    (hq : ∀ c ∈ h, Quiet c.act) :
    (sendLogin conn user).Always (fun _ => True) (Proceeds user.id) h := by
  unfold sendLogin
  refine (queryOffline_proceeds (listsRead_quiet hq)).bind
    ((queryOffline_lists user.id).mono fun h₁ vec hvec => ?_)
  obtain ⟨hv, hunacked⟩ := hvec
  refine Prog.All.always_bind (P := Quiet) (all_friends trivial trivial) proceeds_of_quiet
    fun h₂ userVec hq₂ => ?_
  refine Prog.All.always_bind (P := Quiet) (all_queryGroups trivial trivial fun _ => trivial)
    proceeds_of_quiet fun h₃ groupVec hq₃ => ?_
  have hlists : listsRead (h ++ h₁ ++ h₂ ++ h₃) = listsRead h₁ := by
    simp only [listsRead_append, listsRead_quiet hq, listsRead_quiet hq₂, listsRead_quiet hq₃,
      List.nil_append, List.append_nil]
  have hack : (loginResponse user vec userVec groupVec).intAt "msgid" = .ok 2 := by
    have hget := (isLoginAck_loginResponse user vec userVec groupVec).1
    unfold loginResponse at hget ⊢
    unfold Json.object at hget ⊢
    rw [Json.intAt, Json.index, hget]
    rfl
  have hnone : acked (h ++ h₁ ++ h₂ ++ h₃) = false := by
    simp only [acked, List.any_append, Bool.or_eq_false_iff]
    exact ⟨⟨⟨acked_quiet hq, hunacked⟩, acked_quiet hq₂⟩, acked_quiet hq₃⟩
  refine (Prog.always_act (L := chat) _ _ _).mpr ⟨.inr ⟨hack, hnone, ?_⟩, fun _ _ => ?_⟩
  · rw [offlineMsgs_loginResponse, hlists, hv]
  · change Prog.Always (L := chat) _ _ _ (if (!vec.isEmpty) = true then _ else _)
    split
    · rename_i hne
      refine (Prog.always_act (L := chat) _ _ _).mpr ⟨trivial, fun ok _ => ?_⟩
      change Prog.Always (L := chat) _ _ _ (if (!ok) = true then _ else _)
      split
      · trivial
      · refine (Prog.always_act (L := chat) _ _ _).mpr ⟨?_, fun _ _ => trivial⟩
        rw [Proceeds, listsRead_append, listsRead_append, hlists]
        intro hnil
        rw [(List.append_eq_nil_iff.mp (List.append_eq_nil_iff.mp hnil).1).1] at hv
        subst hv
        cases hne
    · trivial

/-- **Before every call of the login.** -/
theorem loginAs_proceeds (conn : ConnId) (id : Int) (pwd : Str) :
    (loginAs conn id pwd).Always (fun _ => True) (Proceeds id) [] := by
  unfold loginAs
  refine Prog.All.always_bind (P := Quiet) (all_query trivial trivial) proceeds_of_quiet
    fun h₁ user hq₁ => ?_
  split
  · rename_i hu
    refine Prog.All.always_bind (P := Quiet) ?_ proceeds_of_quiet fun h₂ _ hq₂ => ?_
    · unfold registerConn
      split
      · exact ⟨trivial, fun _ => trivial⟩
      · exact ⟨trivial, fun _ => ⟨trivial, fun _ => trivial⟩⟩
    refine Prog.All.always_bind (P := Quiet) (all_ask trivial trivial trivial fun _ => trivial)
      proceeds_of_quiet fun h₃ _ hq₃ => ?_
    refine Prog.Always.bind ?_ ((Prog.ends_of_all (Prog.all_true _)).mono fun h₄ _ _ => ?_)
    · have hsend := @sendLogin_proceeds conn { user with state := .online } ([] ++ h₁ ++ h₂ ++ h₃) (by
        simp only [List.nil_append, List.mem_append]
        rintro c ((hc | hc) | hc)
        · exact hq₁ c hc
        · exact hq₂ c hc
        · exact hq₃ c hc)
      rw [← hu.1]
      exact hsend
    · refine Prog.always_of_all (notifyFriendState_all id .online) (fun h a ha => ?_) _
      unfold Proceeds
      split
      · cases ha
      · cases ha
      · exact .inl ha
      · trivial
  · refine (Prog.always_act (L := chat) _ _ _).mpr ⟨.inr ⟨rfl, acked_quiet hq₁, ?_⟩, fun _ _ => trivial⟩
    rw [List.nil_append, listsRead_quiet hq₁]
    rfl

/-! ## The calls of the sender -/

/-- The message that the call hands over, publishes or stores. -/
def carried (J : JsonParser) : Call chat → List Json
  | ⟨.send _ js, _⟩ => [js]
  | ⟨.publish _ message, _⟩ => (J.parse message).toList
  | ⟨.sql (.insertOffline sql), _⟩ => match MySQL.readInsert sql with
    | some (_, message) => (J.parse message).toList
    | none => []
  | _ => []

/-- What `oneChat` does with one of the messages. -/
def SendsOne (id : Int) (msgs : List Json) : Act → Prop
  | .findConn _ | .acquire | .sql (.selectUser _) => True
  | .send _ js => js ∈ msgs
  | .publish ch message => ch = id ∧ ∃ js ∈ msgs, message = js.dump
  | .sql (.insertOffline sql) => ∃ js ∈ msgs, sql = OfflineMsgModel.insertSql id js.dump
  | _ => False

theorem oneChat_sends {id : Int} {msgs : List Json} {js : Json} (hjs : js ∈ msgs) :
    (oneChatTo id js).All (SendsOne id msgs) := by
  refine Prog.All.bind (p := findConn _) ⟨trivial, fun _ => trivial⟩ fun r => ?_
  rcases r with _ | conn
  · refine Prog.All.bind (all_query trivial trivial) fun user => ?_
    split
    · exact ⟨⟨rfl, js, hjs, rfl⟩, fun _ => trivial⟩
    · exact all_insertOffline trivial ⟨js, hjs, rfl⟩
  · exact ⟨hjs, fun _ => trivial⟩

theorem readInsert_insertSql (id : Int) (msg : Str) :
    MySQL.readInsert (OfflineMsgModel.insertSql id msg) =
      if Fits id msg then some (id, msg) else none := by
  unfold OfflineMsgModel.insertSql
  rw [readInsert_snprintf]
  rfl

theorem oneChat_emits {J : JsonParser} {js : Json} (hJ : J.parse js.dump = some js) (id : Int) :
    (oneChatTo id js).Emits (carried J) [js] := by
  have hlast : ∀ (a : Act) (r : a.Res), carried J ⟨a, r⟩ = [js] ∨ carried J ⟨a, r⟩ = [] →
      ∃ rest, (carried J ⟨a, r⟩ ++ rest).Sublist [js] ∧
        (Prog.ret () : Serv Unit).Emits (carried J) rest := by
    rintro a r (h | h)
    · exact ⟨[], by rw [h]; exact .refl _, trivial⟩
    · exact ⟨[], by rw [h]; exact List.nil_sublist _, trivial⟩
  have hinsert : ∀ r, carried J ⟨.sql (.insertOffline (OfflineMsgModel.insertSql id js.dump)), r⟩ = [js] ∨
      carried J ⟨.sql (.insertOffline (OfflineMsgModel.insertSql id js.dump)), r⟩ = [] := by
    intro r
    rw [carried, readInsert_insertSql]
    by_cases hf : Fits id js.dump
    · rw [if_pos hf]
      refine .inl ?_
      show (J.parse js.dump).toList = [js]
      rw [hJ, Option.toList_some]
    · rw [if_neg hf]
      exact .inr rfl
  have hquery : (UserModel.query id).All fun a : Act => a = .acquire ∨ a = .sql (.selectUser id) :=
    all_query (.inl rfl) (.inr rfl)
  refine Prog.emits_act.mpr fun found => ⟨[js], .refl _, ?_⟩
  cases found with
  | some conn => exact Prog.emits_act.mpr fun _ => hlast _ _ (.inl rfl)
  | none =>
    show (UserModel.query id >>= _).Emits (carried J) ([] ++ [js])
    refine Prog.Emits.bind (hquery.emits ?_ []) fun user => ?_
    · rintro a r (rfl | rfl)
      · rfl
      · rfl
    · split
      · refine Prog.emits_act.mpr fun _ => hlast _ _ (.inl ?_)
        show (J.parse js.dump).toList = [js]
        rw [hJ, Option.toList_some]
      · refine Prog.emits_act.mpr fun ok => ⟨[js], .refl _, ?_⟩
        cases ok with
        | false => trivial
        | true =>
          refine Prog.emits_act.mpr fun r => ?_
          obtain ⟨rest, hs, -⟩ :=
            hlast (.sql (.insertOffline (OfflineMsgModel.insertSql id js.dump))) r (hinsert r)
          exact ⟨rest, hs, trivial⟩

/-! ## What one action does to the messages -/

/-- `handleRedisSubscribeMessage` without a connection stores the message or drops it. -/
theorem run_storeMessage (id : Int) {i : ServerId} {parsed : Option Json} {userid : Int} {msg : Str}
    {w w' : World} (h : (storeMessage parsed userid msg).run i w = some ((), w')) :
    w'.servers = w.servers ∧ ∃ ms, ms.Sublist (if userid = id then [msg] else []) ∧
      w'.db.offlineOf id = w.db.offlineOf id ++ ms := by
  have hret : w' = w → w'.servers = w.servers ∧ ∃ ms,
      ms.Sublist (if userid = id then [msg] else []) ∧
        w'.db.offlineOf id = w.db.offlineOf id ++ ms := by
    rintro rfl
    exact ⟨rfl, [], List.nil_sublist _, (List.append_nil _).symm⟩
  have hinsert : (OfflineMsgModel.insert userid msg).run i w = some ((), w') →
      w'.servers = w.servers ∧ ∃ ms, ms.Sublist (if userid = id then [msg] else []) ∧
        w'.db.offlineOf id = w.db.offlineOf id ++ ms := by
    intro hr
    cases (run_insertOffline i w userid msg).symm.trans hr
    refine ⟨World.ask_servers _ _, ?_⟩
    rw [Database.offlineOf, World.ask_insert_rows, List.filter_append, List.map_append]
    refine ⟨_, ?_, rfl⟩
    split
    · by_cases hu : userid = id
      · simp [hu]
      · simp [hu]
    · exact List.nil_sublist _
  unfold storeMessage at h
  split at h
  · split at h
    · split at h
      · cases h
      · split at h
        · cases h
          exact hret rfl
        · exact hinsert h
    · exact hinsert h
  · exact hinsert h

section Effects

variable {J : JsonParser} {sender : Int} {i : ServerId} {id : Int} {conn : ConnId} {w₀ w w' : World}

theorem received_append {ds : List Delivery}
    (hlen : (w₀.servers i).outbox.length ≤ (w.servers i).outbox.length)
    (h : (w'.servers i).outbox = (w.servers i).outbox ++ ds) :
    received J sender i conn w₀ w' = received J sender i conn w₀ w ++
      (ds.filter fun d => d.conn = conn ∧ d.accepted).flatMap fun d => chatsOf J sender d.js := by
  have hsent : sentIn i w₀ w' = sentIn i w₀ w ++ ds := by
    rw [sentIn, sentIn, h, List.drop_append_of_le_length hlen]
  rw [received, hsent, List.filter_append, List.flatMap_append]
  rfl

variable (J sender conn) in
/-- A packet is received or not. -/
theorem received_send {c : ConnId} {js : Json}
    (hlen : (w₀.servers i).outbox.length ≤ (w.servers i).outbox.length)
    (h : (w'.servers i).outbox = (w.servers i).outbox ++
      [⟨c, js, (w.servers i).conns c = .connected⟩]) :
    received J sender i conn w₀ w' = received J sender i conn w₀ w ∨
      c = conn ∧ (w.servers i).conns conn = .connected ∧
        received J sender i conn w₀ w' = received J sender i conn w₀ w ++ chatsOf J sender js := by
  rw [received_append hlen h]
  by_cases hc : c = conn ∧ (w.servers i).conns c = .connected
  · obtain ⟨rfl, ho⟩ := hc
    exact .inr ⟨rfl, ho, by simp [ho]⟩
  · refine .inl ?_
    rw [List.filter_cons_of_neg (by simpa using hc), List.filter_nil, List.flatMap_nil,
      List.append_nil]

theorem ServerStep.inbox_eq {a : Act} {s s' : Server} (h : ServerStep a s s')
    (ha : ∀ ch message, a ≠ .publish ch message) : s'.inbox = s.inbox := by
  cases h with
  | shutdown => exact (s.shutdownConn_rest _).inbox
  | publish _ ch message => exact absurd rfl (ha ch message)
  | subscribe => exact (s.subscribe_rest _).inbox
  | unsubscribe => exact (s.unsubscribe_rest _).inbox
  | forceRelogin => exact (s.forceRelogin_rest _ _).inbox
  | routeGroup => rw [Server.foldl_deliver]
  | _ => rfl

theorem ServerStep.outbox_eq {a : Act} {s s' : Server} (h : ServerStep a s s')
    (hs : ∀ c js, a ≠ .send c js) (hr : ∀ ids js, a ≠ .routeGroup ids js) : s'.outbox = s.outbox := by
  obtain ⟨ds, hd, hall⟩ := h.outbox
  cases ds with
  | nil => rw [hd, List.append_nil]
  | cons d ds =>
    rcases hall d (.head _) with e | ⟨ids, e⟩
    · exact absurd e (hs _ _)
    · exact absurd e (hr _ _)

/-- What `PUBLISH` adds to the inbox. -/
theorem exec_publish {ch : Int} {message : Str} {r : Bool}
    (h : World.exec i (.publish ch message) w = some (r, w')) :
    (w'.servers i).outbox = (w.servers i).outbox ∧ w'.db = w.db ∧
      (w'.servers i).userConnMap = (w.servers i).userConnMap ∧
        ((w'.servers i).inbox = (w.servers i).inbox ∨
          (w'.servers i).inbox = (w.servers i).inbox ++ [(ch, cstr message)]) := by
  have hmap := (exec_server h i).map (a := .publish ch message) id
  rw [World.exec] at h
  split at h
  · cases h
    refine ⟨?_, rfl, hmap, ?_⟩
    · show ((w.servers i).push ch (cstr message)).outbox = (w.servers i).outbox
      unfold Server.push
      split
      · rfl
      · rfl
    · show ((w.servers i).push ch (cstr message)).inbox = _ ∨
        ((w.servers i).push ch (cstr message)).inbox = _
      unfold Server.push
      split
      · exact .inr rfl
      · exact .inl rfl
  · cases h
    exact ⟨rfl, rfl, hmap, .inl rfl⟩

/-- Entries of others for the connection are not made, so what is pushed for it only gets less. -/
theorem waiting_mono (hin : ((w'.servers i).inbox).Sublist (w.servers i).inbox)
    (hmap : ∀ ch ≠ id, (w'.servers i).userConnMap.lookup ch = some conn →
      (w.servers i).userConnMap.lookup ch = some conn) :
    (waiting J sender i id conn w').Sublist (waiting J sender i id conn w) := by
  have hp : (pushedFor id conn (w'.servers i)).Sublist (pushedFor id conn (w.servers i)) := by
    refine (hin.filter _).trans (List.monotone_filter_right _ fun e he => ?_)
    by_cases hid : e.1 = id
    · exact decide_eq_true (.inl hid)
    · exact decide_eq_true (.inr (hmap e.1 hid ((of_decide_eq_true he).resolve_left hid)))
  exact (hp.filterMap _).flatMap _

theorem waiting_eq (hin : (w'.servers i).inbox = (w.servers i).inbox)
    (hmap : (w'.servers i).userConnMap = (w.servers i).userConnMap) :
    waiting J sender i id conn w' = waiting J sender i id conn w := by
  rw [waiting, waiting, pushedFor, pushedFor, hin, hmap]

variable (J sender id conn) in
/-- One more is pushed. -/
theorem waiting_append {e : Int × Str} (hin : (w'.servers i).inbox = (w.servers i).inbox ++ [e])
    (hmap : (w'.servers i).userConnMap = (w.servers i).userConnMap) :
    ∃ xs, xs.Sublist (chatsOfText J sender e.2) ∧
      waiting J sender i id conn w' = waiting J sender i id conn w ++ xs := by
  let one : List (Int × Str) :=
    [e].filter fun e => e.1 = id ∨ (w.servers i).userConnMap.lookup e.1 = some conn
  refine ⟨(one.filterMap fun e => J.parse e.2).flatMap (chatsOf J sender), ?_, ?_⟩
  · have hs : one.Sublist [e] := List.filter_sublist
    refine ((hs.filterMap fun e => J.parse e.2).flatMap (chatsOf J sender)).trans ?_
    rw [chatsOfText, List.filterMap_cons]
    cases J.parse e.2 with
    | none => exact .refl _
    | some js => exact .refl _
  · rw [waiting, pushedFor, hin, hmap, List.filter_append, List.filterMap_append,
      List.flatMap_append]
    rfl

variable (J sender id conn) in
/-- The first one is taken out of the inbox. -/
theorem waiting_cons {e : Int × Str} {rest : List (Int × Str)}
    (h : (w.servers i).inbox = e :: rest) (h' : (w'.servers i).inbox = rest)
    (hmap : (w'.servers i).userConnMap = (w.servers i).userConnMap) :
    waiting J sender i id conn w =
      (if e.1 = id ∨ (w.servers i).userConnMap.lookup e.1 = some conn then
        chatsOfText J sender e.2 else []) ++ waiting J sender i id conn w' := by
  rw [waiting, waiting, pushedFor, pushedFor, h, h', hmap, List.filter_cons]
  by_cases hb : e.1 = id ∨ (w.servers i).userConnMap.lookup e.1 = some conn
  · rw [if_pos hb, if_pos (decide_eq_true hb), List.filterMap_cons, chatsOfText]
    cases J.parse e.2 with
    | none => rfl
    | some js => rw [List.flatMap_cons, Option.toList_some, List.flatMap_singleton]
  · rw [if_neg hb, if_neg (by simpa using hb)]
    rfl

theorem stored_append {ms : List Str} (h : w'.db.offlineOf id = w.db.offlineOf id ++ ms) :
    stored J sender id w' = stored J sender id w ++ chatsIn J sender (ms.map cstr) := by
  rw [stored, stored, h, List.map_append, chatsIn_append]

variable (J sender) in
/-- A message of the sender that Redis has pushed counts the same when it is stored. -/
theorem chatsIn_sublist (message : Str) :
    (chatsIn J sender [message]).Sublist (chatsOfText J sender message) := by
  rw [chatsIn, chatsOfText, List.filterMap_cons]
  cases J.parse message with
  | none => exact .refl _
  | some js =>
    show (List.filter _ [js]).Sublist (List.flatMap _ [js])
    rw [List.flatMap_singleton]
    by_cases hc : ChatFrom sender js = true
    · rw [List.filter_cons_of_pos hc, chatsOf_chat hc]
      exact .refl _
    · rw [List.filter_cons_of_neg hc]
      exact List.nil_sublist _

variable (id) in
/-- What a callback of the observer does: it takes the first message that was pushed, and hands it
over or stores it or drops it. -/
theorem callback_effect (h : callback J i w = some w') : ∃ e rest,
    (w.servers i).inbox = e :: rest ∧ (w'.servers i).inbox = rest ∧
      (w'.servers i).userConnMap = (w.servers i).userConnMap ∧
      ((∃ c js, (w.servers i).userConnMap.lookup e.1 = some c ∧ J.parse e.2 = some js ∧
          w'.db = w.db ∧ (w'.servers i).outbox =
            (w.servers i).outbox ++ [⟨c, js, (w.servers i).conns c = .connected⟩]) ∨
        ∃ ms, (w'.servers i).outbox = (w.servers i).outbox ∧
          ms.Sublist (if e.1 = id then [e.2] else []) ∧
          w'.db.offlineOf id = w.db.offlineOf id ++ ms) := by
  obtain ⟨ch, message, rest, hin, hr⟩ := callback_eq h
  refine ⟨(ch, message), rest, hin, ?_⟩
  set w₁ := w.modify i fun s => { s with inbox := rest } with hw₁
  have hin₁ : (w₁.servers i).inbox = rest := by rw [hw₁, World.modify_self]
  have hmap₁ : (w₁.servers i).userConnMap = (w.servers i).userConnMap := by
    rw [hw₁, World.modify_self]
  have hout₁ : (w₁.servers i).outbox = (w.servers i).outbox := by rw [hw₁, World.modify_self]
  have hconns₁ : (w₁.servers i).conns = (w.servers i).conns := by rw [hw₁, World.modify_self]
  unfold handleRedisSubscribeMessage at hr
  rw [Prog.run_bind, run_findConn, Option.bind_some] at hr
  cases hl : (w₁.servers i).userConnMap.lookup ch with
  | some conn =>
    rw [hl] at hr
    cases hp : J.parse message with
    | none =>
      rw [hp] at hr
      cases hr
      exact ⟨hin₁, hmap₁, .inr ⟨[], hout₁, List.nil_sublist _, (List.append_nil _).symm⟩⟩
    | some js =>
      rw [hp] at hr
      cases (run_sendJson i w₁ conn js).symm.trans hr
      rw [World.modify_self, Server.deliver]
      refine ⟨hin₁, hmap₁, .inl ⟨conn, js, hmap₁ ▸ hl, rfl, rfl, ?_⟩⟩
      rw [hout₁, hconns₁]
  | none =>
    rw [hl] at hr
    rcases run_storeMessage id hr with ⟨hs, ms, hms, hd⟩
    rw [hs]
    exact ⟨hin₁, hmap₁, .inr ⟨ms, hout₁, hms, hd⟩⟩

end Effects

/-! ## The invariant -/

/-- The sender's messages from before: what is stored for `id`, then what Redis has pushed. -/
def earlier (J : JsonParser) (sender : Int) (i : ServerId) (id : Int) (conn : ConnId) (w : World) :
    List Json :=
  stored J sender id w ++ waiting J sender i id conn w

/-- What the acknowledgement will bring after the calls of the login: what is stored, or what was
read. -/
def unsent (J : JsonParser) (sender : Int) (id : Int) (h : List (Call chat)) (w : World) :
    List Json :=
  if acked h then []
  else if listsRead h = [] then stored J sender id w
  else chatsIn J sender ((listsRead h).flatten.map cstr)

/-- After the calls of the login and with `sent` let out by the sender: what was received, what the
acknowledgement will bring and what Redis has pushed are in order. -/
structure Kept (J : JsonParser) (sender : Int) (i : ServerId) (id : Int) (conn : ConnId) (w₀ : World)
    (h : List (Call chat)) (sent : List Json) (w : World) : Prop where
  outbox : (w₀.servers i).outbox.length ≤ (w.servers i).outbox.length
  texts : ∀ e ∈ (w.servers i).inbox, cstr e.2 = e.2
  inSequence : InSequence (received J sender i conn w₀ w) (unsent J sender id h w)
    (waiting J sender i id conn w) (earlier J sender i id conn w₀ ++ sent)

section Unsent

variable {J : JsonParser} {sender : Int} {id : Int} {h : List (Call chat)} {w w' : World}

theorem unsent_of_rows (hd : listsRead h = [] → w'.db.offlineOf id = w.db.offlineOf id) :
    unsent J sender id h w' = unsent J sender id h w := by
  unfold unsent
  by_cases hl : listsRead h = []
  · rw [stored, hd hl, ← stored]
  · rw [if_neg hl, if_neg hl]

theorem unsent_concat {c : Call chat} (hl : listRead c = none) (ha : isAck c = false) :
    unsent J sender id (h ++ [c]) w = unsent J sender id h w := by
  have hlists : listsRead (h ++ [c]) = listsRead h := by
    have hone : listsRead [c] = [] := List.filterMap_cons_none hl
    rw [listsRead_append, hone, List.append_nil]
  have hacked : acked (h ++ [c]) = acked h := by
    rw [acked, List.any_append, List.any_cons, ha]
    simp [acked]
  rw [unsent, hlists, hacked, ← unsent]

theorem unsent_ack {c : Call chat} (ha : isAck c = true) :
    unsent J sender id (h ++ [c]) w = [] := by
  have hacked : acked (h ++ [c]) = true := by
    rw [acked, List.any_append, List.any_cons, ha]
    simp
  rw [unsent, if_pos hacked]

variable (J sender h) in
/-- More rows: they are unsent too, if the login has not read yet. -/
theorem unsent_append {ms : List Str} (hd : w'.db.offlineOf id = w.db.offlineOf id ++ ms) :
    ∃ xs, xs.Sublist (chatsIn J sender (ms.map cstr)) ∧
      unsent J sender id h w' = unsent J sender id h w ++ xs ∧ (listsRead h ≠ [] → xs = []) := by
  unfold unsent
  split
  · exact ⟨[], List.nil_sublist _, rfl, fun _ => rfl⟩
  · split
    · rename_i hl
      exact ⟨_, .refl _, stored_append hd, fun hne => absurd hl hne⟩
    · exact ⟨[], List.nil_sublist _, (List.append_nil _).symm, fun _ => rfl⟩

end Unsent

namespace Kept

variable {J : JsonParser} {sender : Int} {i : ServerId} {id : Int} {conn : ConnId} {w₀ w w' : World}
  {h : List (Call chat)} {sent more : List Json}

theorem init (ht : ∀ e ∈ (w₀.servers i).inbox, cstr e.2 = e.2) :
    Kept J sender i id conn w₀ [] [] w₀ where
  outbox := le_refl _
  texts := ht
  inSequence := by
    have hnil : received J sender i conn w₀ w₀ = [] := by
      rw [received, sentIn, List.drop_length]
      rfl
    rw [hnil, List.append_nil]
    exact .init _ _

/-- What neither sends, publishes, stores nor reads. -/
theorem quiet (hk : Kept J sender i id conn w₀ h sent w)
    (ho : (w'.servers i).outbox = (w.servers i).outbox)
    (hin : (w'.servers i).inbox = (w.servers i).inbox)
    (hmap : ∀ ch ≠ id, (w'.servers i).userConnMap.lookup ch = some conn →
      (w.servers i).userConnMap.lookup ch = some conn)
    (hd : listsRead h = [] → w'.db.offlineOf id = w.db.offlineOf id) :
    Kept J sender i id conn w₀ h sent w' := by
  have hr : received J sender i conn w₀ w' = received J sender i conn w₀ w := by
    rw [received, received, sentIn, sentIn, ho]
  refine ⟨by rw [ho]; exact hk.outbox, by rw [hin]; exact hk.texts, ?_⟩
  rw [hr, unsent_of_rows hd]
  exact hk.inSequence.mono (waiting_mono (by rw [hin]) hmap) (.refl _)

/-- The sender lets out more. -/
theorem grow (hk : Kept J sender i id conn w₀ h sent w) (more : List Json) :
    Kept J sender i id conn w₀ h (sent ++ more) w :=
  ⟨hk.outbox, hk.texts,
    hk.inSequence.mono (.refl _) ((List.sublist_append_left sent more).append_left _)⟩

/-- A packet is sent: the connection receives it or not. -/
theorem deliver {c : ConnId} {js : Json} (hk : Kept J sender i id conn w₀ h sent w)
    (hw : w' = w.modify i (·.deliver c js)) {h' : List (Call chat)} {sent' : List Json}
    (hskip : InSequence (received J sender i conn w₀ w) (unsent J sender id h' w)
      (waiting J sender i id conn w) (earlier J sender i id conn w₀ ++ sent'))
    (hgot : c = conn → (w.servers i).conns conn = .connected →
      InSequence (received J sender i conn w₀ w ++ chatsOf J sender js) (unsent J sender id h' w)
        (waiting J sender i id conn w) (earlier J sender i id conn w₀ ++ sent')) :
    Kept J sender i id conn w₀ h' sent' w' := by
  have ho : (w'.servers i).outbox = (w.servers i).outbox ++
      [⟨c, js, (w.servers i).conns c = .connected⟩] := by
    rw [hw, World.modify_self, Server.deliver]
  have hin : (w'.servers i).inbox = (w.servers i).inbox := by
    rw [hw, World.modify_self, Server.deliver]
  have hmap : (w'.servers i).userConnMap = (w.servers i).userConnMap := by
    rw [hw, World.modify_self, Server.deliver]
  have hu : unsent J sender id h' w' = unsent J sender id h' w :=
    unsent_of_rows fun _ => by rw [hw]; rfl
  refine ⟨?_, by rw [hin]; exact hk.texts, ?_⟩
  · rw [ho, List.length_append]
    exact Nat.le_add_right_of_le hk.outbox
  · rw [waiting_eq hin hmap, hu]
    rcases received_send J sender conn hk.outbox ho with e | ⟨hc, hopen, e⟩
    · rw [e]
      exact hskip
    · rw [e]
      exact hgot hc hopen

/-- A message is published. -/
theorem publish {ch : Int} {message : Str} {r : Bool} (hk : Kept J sender i id conn w₀ h sent w)
    (hx : World.exec i (.publish ch message) w = some (r, w'))
    (hmore : (chatsOfText J sender (cstr message)).Sublist more) :
    Kept J sender i id conn w₀ h (sent ++ more) w' := by
  obtain ⟨ho, hd, hmap, hin | hin⟩ := exec_publish hx
  · exact (hk.grow more).quiet ho hin (fun ch _ hl => hmap ▸ hl) fun _ => by rw [hd]
  have hr : received J sender i conn w₀ w' = received J sender i conn w₀ w := by
    rw [received, received, sentIn, sentIn, ho]
  have hu : unsent J sender id h w' = unsent J sender id h w := unsent_of_rows fun _ => by rw [hd]
  obtain ⟨xs, hxs, hw⟩ := waiting_append J sender id conn hin hmap
  refine ⟨by rw [ho]; exact hk.outbox, ?_, ?_⟩
  · rw [hin]
    intro e he
    rcases List.mem_append.mp he with he | he
    · exact hk.texts e he
    · cases List.mem_singleton.mp he
      exact List.takeWhile_idem
  · rw [hr, hu, hw, ← List.append_assoc]
    exact hk.inSequence.enqueue (hxs.trans hmore)

/-- Messages are stored. -/
theorem store {ms : List Str} (hk : Kept J sender i id conn w₀ h sent w)
    (hs : w'.servers = w.servers) (hd : w'.db.offlineOf id = w.db.offlineOf id ++ ms)
    (hmore : (chatsIn J sender (ms.map cstr)).Sublist more)
    (hturn : listsRead h = [] → waiting J sender i id conn w = []) :
    Kept J sender i id conn w₀ h (sent ++ more) w' := by
  have hr : received J sender i conn w₀ w' = received J sender i conn w₀ w := by
    rw [received, received, sentIn, sentIn, hs]
  have hw : waiting J sender i id conn w' = waiting J sender i id conn w := by
    rw [waiting, waiting, hs]
  refine ⟨by rw [hs]; exact hk.outbox, by rw [hs]; exact hk.texts, ?_⟩
  obtain ⟨xs, hxs, hu, hread⟩ := unsent_append J sender h hd
  rw [hr, hw, hu]
  by_cases hl : listsRead h = []
  · have ho := hk.inSequence
    rw [hturn hl] at ho ⊢
    rw [← List.append_assoc]
    exact ho.hold (hxs.trans hmore)
  · rw [hread hl, List.append_nil]
    exact (hk.grow more).inSequence

/-- The next call of the login neither reads the messages nor acknowledges. -/
theorem concat {c : Call chat} (hk : Kept J sender i id conn w₀ h sent w) (hl : listRead c = none)
    (ha : isAck c = false) : Kept J sender i id conn w₀ (h ++ [c]) sent w := by
  refine ⟨hk.outbox, hk.texts, ?_⟩
  rw [unsent_concat hl ha]
  exact hk.inSequence

/-- The login reads what is stored. -/
theorem readAll (hk : Kept J sender i id conn w₀ h sent w) (hl : listsRead h = [])
    (hs : w'.servers = w.servers) (hd : w'.db = w.db) : Kept J sender i id conn w₀
      (h ++ [⟨.sql (.selectOffline id), some (w.db.offlineOf id)⟩]) sent w' := by
  have hlists : listsRead (h ++ [⟨.sql (.selectOffline id), some (w.db.offlineOf id)⟩]) =
      [w.db.offlineOf id] := by
    rw [listsRead_append, hl]
    rfl
  have hacked : acked (h ++ [⟨.sql (.selectOffline id), some (w.db.offlineOf id)⟩]) = acked h := by
    rw [acked, List.any_append]
    exact Bool.or_false _
  have hu : unsent J sender id (h ++ [⟨.sql (.selectOffline id), some (w.db.offlineOf id)⟩]) w' =
      unsent J sender id h w := by
    rw [unsent, unsent, hlists, hacked, if_pos hl, if_neg (List.cons_ne_nil _ _),
      List.flatten_singleton]
    rfl
  have hq : Kept J sender i id conn w₀ h sent w' :=
    hk.quiet (by rw [hs]) (by rw [hs]) (fun _ _ => by rw [hs]; exact fun hl => hl) fun _ => by rw [hd]
  refine ⟨hq.outbox, hq.texts, ?_⟩
  have hu' : unsent J sender id h w' = unsent J sender id h w := unsent_of_rows fun _ => by rw [hd]
  have ho := hq.inSequence
  rwa [hu', ← hu] at ho

/-- A callback of the observer. -/
theorem callback (hk : Kept J sender i id conn w₀ h sent w)
    (hx : QtChat.callback J i w = some w') : Kept J sender i id conn w₀ h sent w' := by
  obtain ⟨e, rest, hin, hin', hmap, heff⟩ := callback_effect id hx
  have hwait := waiting_cons J sender id conn hin hin' hmap
  have htexts : ∀ e' ∈ (w'.servers i).inbox, cstr e'.2 = e'.2 := by
    rw [hin']
    exact fun e' he' => hk.texts e' (by rw [hin]; exact List.mem_cons_of_mem e he')
  have hle : (waiting J sender i id conn w').Sublist (waiting J sender i id conn w) := by
    rw [hwait]
    exact List.sublist_append_right _ _
  have ho' := hk.inSequence
  rw [hwait] at ho'
  rcases heff with ⟨c, js, hl, hp, hd, ho⟩ | ⟨ms, ho, hms, hd⟩
  · have hu : unsent J sender id h w' = unsent J sender id h w := unsent_of_rows fun _ => by rw [hd]
    refine ⟨?_, htexts, ?_⟩
    · rw [ho, List.length_append]
      exact Nat.le_add_right_of_le hk.outbox
    · rw [hu]
      rcases received_send J sender conn hk.outbox ho with er | ⟨rfl, -, er⟩
      · rw [er]
        exact hk.inSequence.mono hle (.refl _)
      · rw [if_pos (.inr hl), chatsOfText, hp, Option.toList_some, List.flatMap_singleton] at ho'
        rw [er]
        exact ho'.hand
  · have hr : received J sender i conn w₀ w' = received J sender i conn w₀ w := by
      rw [received, received, sentIn, sentIn, ho]
    obtain ⟨xs, hxs, hu, -⟩ := unsent_append J sender h hd
    have hone : xs.Sublist (if e.1 = id ∨ (w.servers i).userConnMap.lookup e.1 = some conn then
        chatsOfText J sender e.2 else []) := by
      refine hxs.trans ?_
      by_cases hid : e.1 = id
      · have hmsg := hms.map cstr
        rw [if_pos hid, List.map_singleton, hk.texts e (by rw [hin]; exact List.mem_cons_self)] at hmsg
        rw [if_pos (.inl hid)]
        exact ((hmsg.filterMap _).filter _).trans (chatsIn_sublist J sender e.2)
      · rw [if_neg hid] at hms
        rw [List.sublist_nil.mp hms]
        exact List.nil_sublist _
    refine ⟨by rw [ho]; exact hk.outbox, htexts, ?_⟩
    rw [hr, hu]
    exact ho'.putBack hone

end Kept

/-! ## One action -/

/-- Neither sends, publishes, stores nor removes. -/
def Mute : Act → Prop
  | .send .. => False
  | .routeGroup .. => False
  | .publish .. => False
  | .sql (.insertOffline _) => False
  | .sql (.deleteOffline _) => False
  | _ => True

theorem sql_servers {i : ServerId} {st : Stmt} {r : Option st.Ans} {w w' : World}
    (h : World.exec i (.sql st) w = some (r, w')) : w'.servers = w.servers := by
  rw [World.exec] at h
  split at h
  · split at h
    · cases h
      rfl
    · cases h
      rfl
  · cases h
    rfl

section Step

variable {J : JsonParser} {sender : Int} {i : ServerId} {id : Int} {conn : ConnId} {w₀ w w' : World}
  {h : List (Call chat)} {sent : List Json} {a : Act} {r : a.Res}

theorem Kept.mute (hk : Kept J sender i id conn w₀ h sent w) (ha : Mute a)
    (henter : ∀ ch ≠ id, ∀ c, ¬Enters ch c a) (hx : World.exec i a w = some (r, w')) :
    Kept J sender i id conn w₀ h sent w' := by
  refine hk.quiet ((exec_server hx i).outbox_eq ?_ ?_) ((exec_server hx i).inbox_eq ?_)
    (fun ch hch => (exec_server hx i).entry (henter ch hch)) fun _ => ?_
  · rintro c js rfl
    exact ha
  · rintro ids js rfl
    exact ha
  · rintro ch message rfl
    exact ha
  · have hnone : storedBy id ⟨a, r⟩ = [] := by
      cases a with
      | sql st => cases st <;> first | rfl | exact ha.elim
      | _ => rfl
    have hd := exec_offlineOf id hx fun userid e => by
      subst e
      exact ha
    rwa [hnone, List.append_nil] at hd

/-- **The login sends a packet**: the acknowledgement brings what was not sent yet. -/
theorem Kept.loginSend {c : ConnId} {js : Json} (hk : Kept J sender i id conn w₀ h sent w)
    (hp : Proceeds id h (.send c js))
    (hturn : c = conn → (w.servers i).conns conn = .connected → ∀ m ∈ chatsOf J sender js,
      ∀ m' ∈ received J sender i conn w₀ w, ¬[m, m'].Sublist (earlier J sender i id conn w₀ ++ sent))
    (hw : w' = w.modify i (·.deliver c js)) :
    Kept J sender i id conn w₀ (h ++ [⟨.send c js, ()⟩]) sent w' := by
  rcases hp with rfl | ⟨hack, hnone, hlist⟩
  · have hs := (hk.concat (c := ⟨.send c (friendState id .online), ()⟩) rfl rfl).inSequence
    refine hk.deliver hw hs fun _ _ => ?_
    rw [chatsOf_state, List.append_nil]
    exact hs
  · have hu : unsent J sender id (h ++ [⟨.send c js, ()⟩]) w = [] :=
      unsent_ack (decide_eq_true hack)
    refine hk.deliver hw ?_ fun hc hopen => ?_
    · rw [hu]
      exact hk.inSequence.discard
    · rw [hu]
      have hchats : chatsOf J sender js = chatsIn J sender ((listsRead h).flatten.map cstr) := by
        rw [chatsOf_ack hack, hlist]
      by_cases hl : listsRead h = []
      · have hempty : chatsOf J sender js = [] := by
          rw [hchats, hl]
          rfl
        rw [hempty, List.append_nil]
        exact hk.inSequence.discard
      · have hrest : unsent J sender id h w = chatsOf J sender js := by
          rw [unsent, if_neg (by rw [hnone]; decide), if_neg hl, hchats]
        have hs := hk.inSequence
        rw [hrest] at hs
        exact hs.flush (hturn hc hopen)

/-- **One action of the login.** -/
theorem Kept.login (hk : Kept J sender i id conn w₀ h sent w)
    (hJ : J.parse (friendState id .online).dump = some (friendState id .online))
    (ha : LoginAct conn id a) (hp : Proceeds id h a)
    (hturn : ∀ c js, a = .send c js → c = conn → (w.servers i).conns conn = .connected →
      ∀ m ∈ chatsOf J sender js, ∀ m' ∈ received J sender i conn w₀ w,
        ¬[m, m'].Sublist (earlier J sender i id conn w₀ ++ sent))
    (hx : World.exec i a w = some (r, w')) :
    Kept J sender i id conn w₀ (h ++ [⟨a, r⟩]) sent w' := by
  have henter : ∀ ch ≠ id, ∀ c, ¬Enters ch c a := by
    intro ch hch c he
    cases a with
    | mapUser id' conn' => exact hch (he.1.symm.trans ha.1)
    | forceRelogin id' conn' => exact hch (he.1.symm.trans ha.1)
    | _ => exact he
  cases a with
  | send c js =>
    cases hx
    exact hk.loginSend hp (hturn c js rfl) rfl
  | publish ch message =>
    cases ha
    have hnone : (chatsOfText J sender (cstr (friendState id .online).dump)).Sublist [] := by
      rw [cstr_dump, chatsOfText, hJ, Option.toList_some, List.flatMap_singleton, chatsOf_state]
    have hk' : Kept J sender i id conn w₀ h (sent ++ []) w' := hk.publish hx hnone
    rw [List.append_nil] at hk'
    exact hk'.concat rfl rfl
  | routeGroup => exact ha.elim
  | sql st =>
    have hs := sql_servers hx
    cases st with
    | insertOffline => exact ha.elim
    | deleteOffline u =>
      have hk' : Kept J sender i id conn w₀ h sent w' :=
        hk.quiet (by rw [hs]) (by rw [hs]) (fun _ _ hl => by rwa [hs] at hl) fun hl => absurd hl hp
      exact hk'.concat rfl rfl
    | selectOffline u =>
      obtain ⟨rfl, hl⟩ := hp
      rcases exec_sql hx with ⟨rfl, hd⟩ | ⟨rows, rfl, he⟩
      · have hk' : Kept J sender i u conn w₀ h sent w' :=
          hk.quiet (by rw [hs]) (by rw [hs]) (fun _ _ hl => by rwa [hs] at hl) fun _ => by rw [hd]
        exact hk'.concat rfl rfl
      · obtain ⟨rfl, hd⟩ := Prod.mk.inj (Option.some.inj he)
        exact hk.readAll hl hs hd.symm
    | _ =>
      refine (hk.mute ?_ henter hx).concat rfl rfl
      trivial
  | _ =>
    refine (hk.mute ?_ henter hx).concat rfl rfl
    trivial

/-- **One action of the sender.** -/
theorem Kept.oneChat {msgs : List Json} (hk : Kept J sender i id conn w₀ h sent w)
    (hm : ∀ js ∈ msgs, ChatFrom sender js = true ∧ J.parse js.dump = some js)
    (ha : SendsOne id msgs a)
    (hsend : ∀ c js, a = .send c js → c = conn → (w.servers i).conns conn = .connected →
      waiting J sender i id conn w = [])
    (hstore : ∀ q, a = .sql (.insertOffline q) → listsRead h = [] →
      waiting J sender i id conn w = [])
    (hx : World.exec i a w = some (r, w')) :
    Kept J sender i id conn w₀ h (sent ++ carried J ⟨a, r⟩) w' := by
  cases a with
  | send c js =>
    cases hx
    refine hk.deliver rfl (hk.grow [js]).inSequence fun hc hopen => ?_
    have hs := hk.inSequence
    rw [hsend c js rfl hc hopen] at hs ⊢
    rw [chatsOf_chat (hm js ha).1, carried, ← List.append_assoc]
    exact hs.arrive [js]
  | publish ch message =>
    obtain ⟨-, js, hjs, rfl⟩ := ha
    obtain ⟨hfrom, hJ⟩ := hm js hjs
    refine hk.publish hx ?_
    have hcarried : carried J ⟨.publish ch js.dump, r⟩ = [js] := by
      rw [carried, hJ, Option.toList_some]
    rw [hcarried, cstr_dump, chatsOfText_chat hJ hfrom]
  | sql st =>
    cases st with
    | selectUser u =>
      show Kept J sender i id conn w₀ h (sent ++ []) w'
      rw [List.append_nil]
      refine hk.mute ?_ (by rintro _ _ _ ⟨⟩) hx
      trivial
    | insertOffline q =>
      obtain ⟨js, hjs, rfl⟩ := ha
      obtain ⟨hfrom, hJ⟩ := hm js hjs
      have hd := exec_offlineOf id hx fun _ e => by cases e
      refine hk.store (sql_servers hx) hd ?_ (hstore _ rfl)
      have hone : (chatsIn J sender [js.dump]).Sublist [js] := by
        have hsub := chatsIn_sublist J sender js.dump
        rwa [chatsOfText_chat hJ hfrom] at hsub
      cases r with
      | none => exact List.nil_sublist _
      | some _ =>
        rw [carried, storedBy, readInsert_insertSql]
        by_cases hf : Fits id js.dump
        · rw [if_pos hf]
          show (chatsIn J sender ((if id = id then [js.dump] else []).map cstr)).Sublist
            (J.parse js.dump).toList
          rw [if_pos rfl, List.map_singleton, cstr_dump, hJ]
          exact hone
        · rw [if_neg hf]
          exact List.nil_sublist _
    | _ => exact ha.elim
  | acquire | findConn =>
    show Kept J sender i id conn w₀ h (sent ++ []) w'
    rw [List.append_nil]
    refine hk.mute ?_ (by rintro _ _ _ ⟨⟩) hx
    trivial
  | _ => exact ha.elim

end Step

/-! ## The interleavings -/

/-- The login of `id`, and the sender's messages for `id` one after the other. -/
def orderPool (conn : ConnId) (id : Int) (pwd : Str) (msgs : List Json) : Pool chat
  | 0 => loginAs conn id pwd
  | 1 => Prog.each (oneChatTo id) msgs
  | _ => .ret ()

/-- These on one server, with the callbacks of the observer in between. -/
abbrev orderMachine (J : JsonParser) (i : ServerId) (conn : ConnId) (id : Int) (pwd : Str)
    (msgs : List Json) (w₀ : World) : Machine :=
  threads (L := chat) (fun _ => i) (callback J i) (orderPool conn id pwd msgs) w₀

section Order

/-- The order has the one message before the other. -/
def SentBefore (order : List Json) (m m' : Json) : Prop :=
  [m.dump, m'.dump].Sublist (order.map Json.dump)

instance (order : List Json) (m m' : Json) : Decidable (SentBefore order m m') :=
  inferInstanceAs (Decidable (List.Sublist _ _))

variable (J : JsonParser) (sender : Int) (i : ServerId) (id : Int) (conn : ConnId) (w₀ : World)

/-- The sender's messages, as they were sent. -/
def sentOrder (s : Threads chat) : List Json :=
  earlier J sender i id conn w₀ ++ (own 1 s.past).flatMap (carried J)

/-- The next action of the thread overtakes no message: the login sends messages that were stored
only if none of them was sent before one that was received; the sender hands one over only if Redis
has pushed none for the user that is still waiting, and stores one that the login will read only
then. -/
def InTurn (s : Threads chat) : Tid → Act → Prop
  | 0, .send c js => c = conn → (s.state.servers i).conns conn = .connected →
      ∀ m ∈ chatsOf J sender js, ∀ m' ∈ received J sender i conn w₀ s.state,
        ¬SentBefore (sentOrder J sender i id conn w₀ s) m m'
  | 1, .send c _ => c = conn → (s.state.servers i).conns conn = .connected →
      waiting J sender i id conn s.state = []
  | 1, .sql (.insertOffline _) => listsRead (own 0 s.past) = [] →
      waiting J sender i id conn s.state = []
  | _, _ => True

/-- The step overtakes no message. -/
def Orderly : Option Tid → Threads chat → Prop
  | none, _ => True
  | some t, s => match s.pool t with
    | .ret _ => True
    | .act a _ => InTurn J sender i id conn w₀ s t a

instance (s : Threads chat) (t : Tid) (a : Act) : Decidable (InTurn J sender i id conn w₀ s t a) := by
  unfold InTurn
  split <;> infer_instance

instance (l : Option Tid) (s : Threads chat) : Decidable (Orderly J sender i id conn w₀ l s) := by
  unfold Orderly
  split
  · infer_instance
  · split <;> infer_instance

end Order

section Runs

variable {J : JsonParser} {i : ServerId} {conn : ConnId} {id sender : Int} {pwd : Str}
  {msgs : List Json} {w₀ : World} {s s' : Threads chat}

/-- The messages that the sender has let out are some of its messages, in their order. -/
theorem carried_sublist (hm : ∀ js ∈ msgs, J.parse js.dump = some js)
    (h : (orderMachine J i conn id pwd msgs w₀).Reach s) :
    ((own 1 s.past).flatMap (carried J)).Sublist msgs := by
  have he : (Prog.each (oneChatTo id) msgs).Emits (carried J) (msgs.map fun js => js) :=
    Prog.Emits.each fun js hjs => oneChat_emits (hm js hjs) id
  rw [List.map_id'] at he
  exact he.path ((reach_run h).path 1)

/-- **One step of the machine.** -/
theorem kept_step (hm : ∀ js ∈ msgs, ChatFrom sender js = true ∧ J.parse js.dump = some js)
    (hJ : J.parse (friendState id .online).dump = some (friendState id .online)) {l : Option Tid}
    (hk : Kept J sender i id conn w₀ (own 0 s.past) ((own 1 s.past).flatMap (carried J)) s.state)
    (hq : Orderly J sender i id conn w₀ l s)
    (h : (orderMachine J i conn id pwd msgs w₀).Reach s)
    (hl : (orderMachine J i conn id pwd msgs w₀).step l s = some s') :
    Kept J sender i id conn w₀ (own 0 s'.past) ((own 1 s'.past).flatMap (carried J)) s'.state := by
  have hrun := reach_run (h.step l hl)
  cases Threads.steps hl with
  | env he => exact hk.callback he
  | @act t a k r w hp hx =>
    simp only [Orderly, hp] at hq
    have hpath := hrun.path t
    match t with
    | 0 =>
      have hown : own 0 (s.past ++ [⟨0, ⟨a, r⟩⟩]) = own 0 s.past ++ [⟨a, r⟩] := by simp [own]
      have hown₁ : own 1 (s.past ++ [⟨0, ⟨a, r⟩⟩]) = own 1 s.past := by simp [own]
      rw [hown] at hpath
      rw [hown, hown₁]
      refine hk.login hJ (hpath.all (loginAs_all conn id pwd) ⟨a, r⟩ (by simp))
        ((loginAs_proceeds conn id pwd).path hpath fun _ _ => trivial) ?_ hx
      rintro c js rfl hc hopen m hm₁ m' hm₂ hs
      exact hq hc hopen m hm₁ m' hm₂ (hs.map Json.dump)
    | 1 =>
      have hown : own 1 (s.past ++ [⟨1, ⟨a, r⟩⟩]) = own 1 s.past ++ [⟨a, r⟩] := by simp [own]
      have hown₀ : own 0 (s.past ++ [⟨1, ⟨a, r⟩⟩]) = own 0 s.past := by simp [own]
      rw [hown] at hpath
      rw [hown, hown₀, List.flatMap_append, List.flatMap_singleton]
      have hall : (Prog.each (oneChatTo id) msgs).All (SendsOne id msgs) :=
        Prog.All.each fun js hjs => oneChat_sends hjs
      refine hk.oneChat hm (hpath.all hall ⟨a, r⟩ (by simp)) ?_ ?_ hx
      · rintro c js rfl
        exact hq
      · rintro q rfl
        exact hq
    | t + 2 =>
      have hnil := Path.of_ret (L := chat) hpath
      simp [own] at hnil

end Runs

/-- **The order of the messages.** A sender's messages reach the connection of the login in the
order in which they were sent, in every run in which no step overtakes a message. -/
theorem order_kept {J : JsonParser} {i : ServerId} {conn : ConnId} {id sender : Int} {pwd : Str}
    {msgs : List Json} {w₀ : World} {s : Threads chat}
    (hm : ∀ js ∈ msgs, ChatFrom sender js = true ∧ J.parse js.dump = some js)
    (hJ : J.parse (friendState id .online).dump = some (friendState id .online))
    (htexts : ∀ e ∈ (w₀.servers i).inbox, cstr e.2 = e.2)
    (h : (orderMachine J i conn id pwd msgs w₀).ReachBy (Orderly J sender i id conn w₀) s) :
    (received J sender i conn w₀ s.state).Sublist (earlier J sender i id conn w₀ ++ msgs) := by
  have hinv := h.inv (I := fun s : Threads chat => (orderMachine J i conn id pwd msgs w₀).Reach s ∧
      Kept J sender i id conn w₀ (own 0 s.past) ((own 1 s.past).flatMap (carried J)) s.state) ?_ ?_
  · obtain ⟨hreach, hk⟩ := hinv
    exact hk.inSequence.sublist.trans
      ((carried_sublist (fun js hjs => (hm js hjs).2) hreach).append_left _)
  · rintro s rfl
    exact ⟨.init rfl, .init htexts⟩
  · intro l s s' hi hq hl
    exact ⟨hi.1.step l hl, kept_step hm hJ hi.2 hq hi.1 hl⟩

/-- How long the text of a chat message is. -/
def textLength (js : Json) : Nat :=
  match js.get? "msg" with
  | some (.str text) => text.length
  | _ => 0

/-- Two messages of user 7 to user 1. -/
def twoMessages : List Json := [(messageOf 4).2.js, (messageOf 5).2.js]

/-- A parser of these, and of two more. -/
def orderParser : JsonParser :=
  .ofDumps (friendState 1 .online :: (messageOf 3).2.js :: (messageOf 6).2.js :: twoMessages)

theorem twoMessages_from :
    ∀ js ∈ twoMessages, ChatFrom 7 js = true ∧ orderParser.parse js.dump = some js := by
  intro js hjs
  rcases List.mem_cons.mp hjs with rfl | hjs
  · exact ⟨rfl, rfl⟩
  · rcases List.mem_singleton.mp hjs with rfl
    exact ⟨rfl, rfl⟩

/-- User 1 is offline; Redis has pushed a message for user 1 and one for user 3. -/
def World.pushedBefore : World :=
  World.oneUser.modify 0 fun s =>
    { s with
      publishContext := true
      subscribeContext := true
      observer := true
      inbox := [(1, (messageOf 3).2.js.dump), (3, (messageOf 6).2.js.dump)] }

/-- User 1 logs in while the two messages are sent. -/
abbrev pushedMachine : Machine :=
  orderMachine orderParser 0 1 1 (txt "pw") twoMessages World.pushedBefore

def pushedStart : Threads chat := ⟨orderPool 1 1 (txt "pw") twoMessages, World.pushedBefore, []⟩

/-- The sender reads the row, the login makes its entry, the observer hands over what was pushed for
user 1, the sender stores its first message, and hands over the second one after the login. -/
def orderedSchedule : List (Option Tid) :=
  List.replicate 3 (some 1) ++ List.replicate 4 (some 0) ++ [none] ++ List.replicate 2 (some 1) ++
    List.replicate 14 (some 0) ++ List.replicate 2 (some 1)

theorem order_kept_three : ∃ s,
    pushedMachine.ReachBy (Orderly orderParser 7 0 1 1 World.pushedBefore) s ∧
    (received orderParser 7 0 1 World.pushedBefore s.state).map textLength = [3, 4, 5] ∧
    (received orderParser 7 0 1 World.pushedBefore s.state).Sublist
      (earlier orderParser 7 0 1 1 World.pushedBefore ++ twoMessages) := by
  have h : (pushedMachine.runsBy (Orderly orderParser 7 0 1 1 World.pushedBefore) orderedSchedule
      pushedStart).map (fun s : Threads chat =>
        (received orderParser 7 0 1 World.pushedBefore s.state).map textLength) =
      some [3, 4, 5] := by decide +kernel
  obtain ⟨s, hs, hlen⟩ := Option.map_eq_some_iff.mp h
  have hreach := Machine.ReachBy.runs (M := pushedMachine) (.init rfl) hs
  have htexts : ∀ e ∈ (World.pushedBefore.servers 0).inbox, cstr e.2 = e.2 := by decide +kernel
  exact ⟨s, hreach, hlen, order_kept twoMessages_from rfl htexts hreach⟩

/-- The same where nothing was pushed. -/
abbrev twoSent : Machine :=
  orderMachine orderParser 0 1 1 (txt "pw") twoMessages World.oneUser

def twoSentStart : Threads chat := ⟨orderPool 1 1 (txt "pw") twoMessages, World.oneUser, []⟩

/-- The login enters the connection after the first message was stored. -/
def overtakingSchedule : List (Option Tid) :=
  List.replicate 5 (some 1) ++ List.replicate 4 (some 0) ++ List.replicate 2 (some 1) ++
    List.replicate 9 (some 0)

/-- The second message is handed over before the acknowledgement that has the first. -/
theorem order_lost : ¬∀ (J : JsonParser) (i : ServerId) (conn : ConnId) (id sender : Int) (pwd : Str)
    (msgs : List Json) (w₀ : World) (s : Threads chat),
    (∀ js ∈ msgs, ChatFrom sender js = true ∧ J.parse js.dump = some js) →
    J.parse (friendState id .online).dump = some (friendState id .online) →
    (∀ e ∈ (w₀.servers i).inbox, cstr e.2 = e.2) →
    (orderMachine J i conn id pwd msgs w₀).Reach s →
    (received J sender i conn w₀ s.state).Sublist (earlier J sender i id conn w₀ ++ msgs) := by
  intro hall
  have h : (twoSent.runs overtakingSchedule twoSentStart).map (fun s : Threads chat =>
      (received orderParser 7 0 1 World.oneUser s.state).map textLength) = some [5, 4] := by
    decide +kernel
  obtain ⟨s, hs, hlen⟩ := Option.map_eq_some_iff.mp h
  have hreach := Machine.Reach.runs (M := twoSent) (.init rfl) hs
  have hsub := (hall orderParser 0 1 1 7 (txt "pw") twoMessages World.oneUser s twoMessages_from rfl
    (fun _ he => nomatch he) hreach).map textLength
  rw [hlen] at hsub
  exact absurd hsub (by decide +kernel)

end QtChat
