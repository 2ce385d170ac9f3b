import QtChat.Interleave.Calls
import QtChat.Server.ChatRuns

/-!
# The chat handlers as calls

`oneChat` and `groupChat` as programs of the calls that their code makes, each a method of a model
class, a method of `Redis`, `sendJson` or a lookup in `_userConnMap`. With the bodies of the calls in
their places they do what the handlers do (`run_oneChatTo_calls`, `run_groupChatFrom_calls`); the
section of `groupChat` under `_connMutex`, one action of the handler, is a loop of calls here
(`run_routeGroup_calls`).

- `HandlerCall.delivers`: the calls that give the message to somebody. A call of `insert` does so
  whether or not MySQL takes the row.
- `Delivers`: what deliveries add to the packets, the messages of Redis and the rows. The bodies of
  the calls add what the calls deliver (`HandlerCall.body_delivers`), so a run adds all that its calls
  deliver (`delivered_run`).
-/

namespace QtChat

open Interleave

/-- A call in the handlers of chat messages. -/
inductive HandlerCall where
  /-- `_userConnMap.find`. -/
  | findConn (id : Int)
  | sendJson (conn : ConnId) (js : Json)
  /-- `_userModel.query`. -/
  | query (id : Int)
  /-- `_groupModel.queryGroupUsers`. -/
  | queryGroupUsers (userid groupid : Int)
  | publish (channel : Int) (message : Str)
  /-- `_offlineMsgModel.insert`. -/
  | insert (userid : Int) (msg : Str)

@[reducible] def HandlerCall.Res : HandlerCall → Type
  | .findConn _ => Option ConnId
  | .sendJson .. => Unit
  | .query _ => User
  | .queryGroupUsers .. => List Int
  | .publish .. => Bool
  | .insert .. => Unit

def HandlerCall.body : (c : HandlerCall) → Serv c.Res
  | .findConn id => ChatService.findConn id
  | .sendJson conn js => QtChat.sendJson conn js
  | .query id => UserModel.query id
  | .queryGroupUsers userid groupid => GroupModel.queryGroupUsers userid groupid
  | .publish channel message => ChatService.publish channel message
  | .insert userid msg => OfflineMsgModel.insert userid msg

/-- The language of these calls. -/
abbrev handlerCalls : Lang := Lang.calls chat HandlerCall HandlerCall.Res HandlerCall.body

namespace ChatCalls

def findConn (id : Int) : Prog handlerCalls (Option ConnId) := .act (.findConn id) .ret

def sendJson (conn : ConnId) (js : Json) : Prog handlerCalls Unit := .act (.sendJson conn js) .ret

def query (id : Int) : Prog handlerCalls User := .act (.query id) .ret

def queryGroupUsers (userid groupid : Int) : Prog handlerCalls (List Int) :=
  .act (.queryGroupUsers userid groupid) .ret

def publish (channel : Int) (message : Str) : Prog handlerCalls Bool :=
  .act (.publish channel message) .ret

def insert (userid : Int) (msg : Str) : Prog handlerCalls Unit := .act (.insert userid msg) .ret

/-! ## The handlers -/

def oneChatTo (toid : Int) (js : Json) : Prog handlerCalls Unit := do
  match ← findConn toid with
  | some toConn => sendJson toConn js
  | none =>
    let user ← query toid
    if user.state = .online then
      let _ ← publish toid js.dump
    else
      insert toid js.dump

/-- The loop of `groupChat` under `_connMutex`. -/
def routeGroup (js : Json) : List Int → Prog handlerCalls (List Int)
  | [] => return []
  | id :: ids => do
    match ← findConn id with
    | some conn =>
      sendJson conn js
      routeGroup js ids
    | none => return id :: (← routeGroup js ids)

/-- The first loop of `groupChat` outside the lock. -/
def storeOffline (js : Json) : List Int → Prog handlerCalls (List Int)
  | [] => return []
  | id :: ids => do
    let user ← query id
    if user.state = .online then
      return id :: (← storeOffline js ids)
    else
      insert id js.dump
      storeOffline js ids

def groupChatFrom (userid groupid : Int) (js : Json) : Prog handlerCalls Unit := do
  let useridVec ← queryGroupUsers userid groupid
  let offlineIds ← routeGroup js useridVec
  let crossIds ← storeOffline js offlineIds
  Prog.each (fun id => do let _ ← publish id js.dump) crossIds

/-! ## With the bodies of the calls -/

theorem inline_call (c : HandlerCall) :
    (Prog.act c .ret : Prog handlerCalls c.Res).inline HandlerCall.body = c.body :=
  Prog.bind_ret c.body

theorem inline_oneChatTo (toid : Int) (js : Json) :
    (oneChatTo toid js).inline HandlerCall.body = ChatService.oneChatTo toid js := by
  unfold oneChatTo ChatService.oneChatTo
  rw [Prog.inline_bind]
  refine congr (congrArg _ (inline_call (.findConn toid))) (funext fun r => ?_)
  cases r with
  | some toConn => exact inline_call (.sendJson toConn js)
  | none =>
    refine (Prog.inline_bind ..).trans ?_
    refine congr (congrArg _ (inline_call (.query toid))) (funext fun user => ?_)
    split
    · exact (Prog.inline_bind ..).trans (congrArg (· >>= _) (inline_call (.publish toid js.dump)))
    · exact inline_call (.insert toid js.dump)

theorem inline_storeOffline (js : Json) (ids : List Int) :
    (storeOffline js ids).inline HandlerCall.body = ChatService.storeOffline js ids := by
  induction ids with
  | nil => rfl
  | cons id ids ih =>
    unfold storeOffline ChatService.storeOffline
    rw [Prog.inline_bind]
    refine congr (congrArg _ (inline_call (.query id))) (funext fun user => ?_)
    split
    · rw [Prog.inline_bind, ih]
      rfl
    · rw [Prog.inline_bind, ih]
      exact congrArg (· >>= _) (inline_call (.insert id js.dump))

variable (i : ServerId) (w : World)

theorem run_call (c : HandlerCall) :
    (Prog.act c .ret : Prog handlerCalls c.Res).run i w = c.body.run i w :=
  Prog.run_perform (L := handlerCalls) i c w

theorem run_oneChatTo_calls (toid : Int) (js : Json) :
    (oneChatTo toid js).run i w = (ChatService.oneChatTo toid js).run i w := by
  rw [← inline_oneChatTo]
  exact (Prog.run_inline (oneChatTo toid js) i w).symm

theorem run_storeOffline_calls (js : Json) (ids : List Int) :
    (storeOffline js ids).run i w = (ChatService.storeOffline js ids).run i w := by
  rw [← inline_storeOffline]
  exact (Prog.run_inline (storeOffline js ids) i w).symm

/-- A packet leaves the entries alone. -/
theorem userConnMap_deliver (conn : ConnId) (js : Json) :
    ((w.modify i (·.deliver conn js)).servers i).userConnMap = (w.servers i).userConnMap := by
  rw [World.modify_self]
  rfl

/-- **The section under `_connMutex`** is its loop, run without a break. -/
theorem run_routeGroup_calls (js : Json) (ids : List Int) :
    (routeGroup js ids).run i w = (ChatService.routeGroup ids js).run i w := by
  rw [run_routeGroup]
  induction ids generalizing w with
  | nil =>
    have hsame : w.modify i (fun s => s) = w := by
      simp [World.modify]
    exact congrArg (fun w' => some (([] : List Int), w')) hsame.symm
  | cons id ids ih =>
    unfold routeGroup
    rw [Prog.run_bind, findConn, run_call i w (.findConn id)]
    change ((ChatService.findConn id).run i w).bind _ = _
    rw [run_findConn, Option.bind_some]
    cases hl : (w.servers i).userConnMap.lookup id with
    | some conn =>
      have ih := ih (w.modify i (·.deliver conn js))
      rw [userConnMap_deliver] at ih
      refine (Prog.run_bind ..).trans ?_
      rw [sendJson, run_call i w (.sendJson conn js)]
      change (routeGroup js ids).run i (w.modify i (·.deliver conn js)) = _
      rw [ih, List.filter_cons_of_neg (by simp [hl])]
      have hfound : (id :: ids).filterMap ((w.servers i).userConnMap.lookup ·) =
          conn :: ids.filterMap ((w.servers i).userConnMap.lookup ·) := List.filterMap_cons_some hl
      simp only [World.modify, Function.update_self, Function.update_idem, hfound]
      rfl
    | none =>
      refine (Prog.run_bind ..).trans ?_
      rw [ih, List.filter_cons_of_pos (by simp [hl])]
      have hfound : (id :: ids).filterMap ((w.servers i).userConnMap.lookup ·) =
          ids.filterMap ((w.servers i).userConnMap.lookup ·) := List.filterMap_cons_none hl
      simp only [World.modify, hfound]
      rfl

theorem run_groupChatFrom_calls (userid groupid : Int) (js : Json) :
    (groupChatFrom userid groupid js).run i w =
      (ChatService.groupChatFrom userid groupid js).run i w := by
  unfold groupChatFrom ChatService.groupChatFrom
  rw [Prog.run_bind, Prog.run_bind, queryGroupUsers, run_call i w (.queryGroupUsers userid groupid)]
  refine congrArg _ (funext fun r => ?_)
  rw [Prog.run_bind, Prog.run_bind, run_routeGroup_calls]
  refine congrArg _ (funext fun r => ?_)
  rw [Prog.run_bind, Prog.run_bind, run_storeOffline_calls]
  refine congrArg _ (funext fun r => ?_)
  have hpublish : (Prog.each (fun id => do let _ ← publish id js.dump) r.1).inline
      HandlerCall.body = Prog.each (fun id => do let _ ← ChatService.publish id js.dump) r.1 := by
    rw [Prog.inline_each]
    refine congrArg (Prog.each · r.1) (funext fun id => ?_)
    exact (Prog.inline_bind ..).trans (congrArg (· >>= _) (inline_call (.publish id js.dump)))
  rw [← hpublish]
  exact (Prog.run_inline (Prog.each (fun id => do let _ ← publish id js.dump) r.1) i r.2).symm

end ChatCalls

/-! ## What is delivered -/

/-- A message that is given to somebody: to a connection, to a channel of Redis, or to the offline
messages of a user. -/
inductive Routed where
  | send (conn : ConnId) (js : Json)
  | publish (channel : Int) (message : Str)
  | store (userid : Int) (message : Str)

namespace Routed

/-- The packet that Muduo gets. -/
def packet (conns : ConnId → ConnState) : Routed → Option Delivery
  | .send conn js => some ⟨conn, js, conns conn = .connected⟩
  | _ => none

/-- What Redis pushes to a server that has these channels. -/
def pushed (live : Int → Bool) : Routed → Option (Int × Str)
  | .publish ch message => if live ch then some (ch, cstr message) else none
  | _ => none

/-- The row that MySQL gets. -/
def row : Routed → Option (Int × Str)
  | .store userid message => some (userid, message)
  | _ => none

end Routed

/-- From `w` to `w'`, server `i` has made these deliveries and nothing else has happened: its packets,
what Redis pushes of what it publishes, and of the rows those that MySQL takes. -/
structure Delivers (i : ServerId) (ds : List Routed) (w w' : World) : Prop where
  servers : ∀ j, w'.servers j = { w.servers j with
    outbox := (w.servers j).outbox ++
      if j = i then ds.filterMap (Routed.packet (w.servers i).conns) else []
    inbox := (w.servers j).inbox ++
      if (w.servers i).publishContext then ds.filterMap (Routed.pushed (w.servers j).live) else [] }
  db : ∃ taken, w'.db = { w.db with offlineMessage := w.db.offlineMessage ++ taken } ∧
    taken.Sublist (ds.filterMap Routed.row) ∧
    (w.Works → taken = (ds.filterMap Routed.row).filter fun r => w.db.Takes r.1 r.2)
  works : w.Works → w'.Works

namespace Delivers

variable {i : ServerId} {ds ds' : List Routed} {w w₁ w' : World}

/-- A read. -/
theorem of_same (h : w.Same w') : Delivers i [] w w' where
  servers j := by simp [h.servers]
  db := ⟨[], by simp [h.db], List.Sublist.refl [], fun _ => rfl⟩
  works := h.works

theorem trans (h : Delivers i ds w w₁) (h' : Delivers i ds' w₁ w') :
    Delivers i (ds ++ ds') w w' where
  servers j := by
    rw [h'.servers j, h.servers j, h.servers i]
    by_cases hj : j = i <;> by_cases hp : (w.servers i).publishContext = true <;>
      simp [hj, hp, List.filterMap_append]
  db := by
    obtain ⟨taken, hdb, hsub, htaken⟩ := h.db
    obtain ⟨taken', hdb', hsub', htaken'⟩ := h'.db
    refine ⟨taken ++ taken', ?_, ?_, fun hw => ?_⟩
    · rw [hdb', hdb, List.append_assoc]
    · rw [List.filterMap_append]
      exact hsub.append hsub'
    · rw [List.filterMap_append, List.filter_append, ← htaken hw, htaken' (h.works hw), hdb]
      rfl
  works hw := h'.works (h.works hw)

end Delivers

/-- What a call delivers. -/
def HandlerCall.delivers : HandlerCall → List Routed
  | .findConn _ => []
  | .sendJson conn js => [.send conn js]
  | .query _ => []
  | .queryGroupUsers .. => []
  | .publish channel message => [.publish channel message]
  | .insert userid msg => [.store userid msg]

/-- **What a call delivers, its body adds.** -/
theorem HandlerCall.body_delivers {i : ServerId} {w w' : World} (c : HandlerCall) {r : c.Res}
    (h : c.body.run i w = some (r, w')) : Delivers i c.delivers w w' := by
  cases c with
  | findConn id =>
    cases (run_findConn i w id).symm.trans h
    exact .of_same (.refl w)
  | query id =>
    cases (run_query i w id).symm.trans h
    exact .of_same (w.same_ask fun db => ⟨_, rfl⟩)
  | queryGroupUsers userid groupid =>
    cases (run_queryGroupUsers i w userid groupid).symm.trans h
    exact .of_same (w.same_ask fun db => ⟨_, rfl⟩)
  | sendJson conn js =>
    cases h
    refine ⟨fun j => ?_, ⟨[], by simp, List.Sublist.refl [], fun _ => rfl⟩, id⟩
    by_cases hj : j = i
    · subst hj
      change (w.modify j (·.deliver conn js)).servers j = _
      rw [World.modify_self]
      simp [Server.deliver, delivers, Routed.packet, Routed.pushed]
    · change (w.modify i (·.deliver conn js)).servers j = _
      rw [World.modify_ne _ hj]
      simp [hj, delivers, List.filterMap_cons, Routed.pushed]
  | publish channel message =>
    have hpub : w' = w.published i channel message :=
      congrArg Prod.snd (Option.some.inj (h.symm.trans (run_publish i w channel message)))
    subst hpub
    refine ⟨fun j => ?_, ⟨[], by simp [World.published_db], List.Sublist.refl [], fun _ => rfl⟩,
      fun hw => hw.published i channel message⟩
    rw [World.published_servers]
    by_cases hp : (w.servers i).publishContext = true <;>
      by_cases hl : (w.servers j).live channel = true <;>
        simp [delivers, Routed.packet, Routed.pushed, hp, hl]
  | insert userid msg =>
    cases (run_insertOffline i w userid msg).symm.trans h
    refine ⟨fun j => ?_, ?_, fun hw => hw.after_ask _⟩
    · simp [delivers, List.filterMap_cons, Routed.packet, Routed.pushed]
    rcases w.ask_cases (.insertOffline (OfflineMsgModel.insertSql userid msg)) with
      ⟨-, hdb⟩ | ⟨r, db, he, -, hdb⟩
    · refine ⟨[], by simp [hdb], List.nil_sublist _, fun hw => ?_⟩
      -- MySQL works and has not taken the row
      have hstore := (w.db.store_offlineMessage userid msg).symm
      rw [← hw.ask_insert userid msg, hdb, List.append_right_eq_self] at hstore
      have ht : ¬w.db.Takes userid msg := fun ht => by simp [ht] at hstore
      simp [delivers, Routed.row, ht]
    · rw [Database.exec_insertSql] at he
      split at he
      · rename_i ht
        cases he
        exact ⟨[(userid, msg)], hdb, List.Sublist.refl _, fun _ => by simp [delivers, Routed.row, ht]⟩
      · cases he

section

variable (i : ServerId) (w : World)

/-- What a program of calls delivers. -/
def delivered {α : Type} (p : Prog handlerCalls α) (i : ServerId) (w : World) : List Routed :=
  p.collect (fun _ (c : HandlerCall) _ => c.delivers) i w

theorem delivered_call (c : HandlerCall) :
    delivered (Prog.act c .ret : Prog handlerCalls c.Res) i w = c.delivers :=
  Prog.collect_perform (L := handlerCalls) _ i w c

theorem delivered_bind {α β : Type} {p : Prog handlerCalls α} (f : α → Prog handlerCalls β) {x : α}
    {w' : World} (h : p.run i w = some (x, w')) :
    delivered (p >>= f) i w = delivered p i w ++ delivered (f x) i w' :=
  Prog.collect_bind (L := handlerCalls) _ i w f h

/-- A call, and what comes after it. -/
theorem delivered_then {α : Type} (c : HandlerCall) (f : c.Res → Prog handlerCalls α) {r : c.Res}
    {w' : World} (h : c.body.run i w = some (r, w')) :
    delivered (Prog.act c .ret >>= f) i w = c.delivers ++ delivered (f r) i w' :=
  (delivered_bind i w f ((Prog.run_perform (L := handlerCalls) i c w).trans h)).trans
    (congrArg (· ++ _) (delivered_call i w c))

/-- **A run adds what its calls deliver**, and nothing else. -/
theorem delivered_run {α : Type} {p : Prog handlerCalls α} {x : α} {w' : World}
    (h : p.run i w = some (x, w')) : Delivers i (delivered p i w) w w' :=
  Prog.run_collect (L := handlerCalls) _ i w (fun w => .of_same (.refl w))
    (fun _ _ _ _ _ h₁ h₂ => h₁.trans h₂) (fun c _ _ _ hc => c.body_delivers hc) h

end

end QtChat
