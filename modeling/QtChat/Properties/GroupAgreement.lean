import QtChat.Properties.ChatRouting
import QtChat.Server.ChatCalls
import QtChat.Server.RowRuns

/-!
# Group messages and messages to one

`groupChat` routes a message in three phases: under the lock to those in `_userConnMap`, then by a
lookup each to the offline messages, then to the channels of those whose row says online. `oneChat`
makes the same choice at once.

- `World.route`: the choice of `oneChat` (`oneChat_delivers`).
- `groupChat_delivers`: the three phases.
- `Makes`: what the calls of a handler deliver is what the handler does (`oneChat_makes`,
  `groupChat_makes`).
- `group_agrees`: `groupChat` delivers what `oneChat` delivers to each member, in another order.
-/

namespace QtChat

open Interleave ChatService

/-- The message to `u` is routed in the same state: with the same connection map and the same rows,
and the lookup of `u`, if there is one, is answered in both or in neither. `w` is the world of the
group message, `w₁` the one in which it looks `u` up. -/
structure SameState (i : ServerId) (u : Int) (w w₁ w₂ : World) : Prop where
  entries : (w₂.servers i).userConnMap = (w.servers i).userConnMap
  rows : w₂.db.user = w.db.user
  lookup : (w.servers i).userConnMap.lookup u = none → (w₂.Reaches ↔ w₁.Reaches)

namespace World

/-- The choice of `oneChat`. -/
def route (w : World) (i : ServerId) (js : Json) (toid : Int) : Routed :=
  match (w.servers i).userConnMap.lookup toid with
  | some conn => .send conn js
  | none =>
    if (w.lookedUp toid).state = .online then .publish toid js.dump else .store toid js.dump

theorem lookedUp_congr {w w' : World} (hrows : w'.db.user = w.db.user)
    (h : w'.Reaches ↔ w.Reaches) (id : Int) : w'.lookedUp id = w.lookedUp id := by
  by_cases hr : w.Reaches
  · rw [lookedUp_reaches hr, lookedUp_reaches (h.mpr hr), hrows]
  · rw [lookedUp_fails hr, lookedUp_fails fun hr' => hr (h.mp hr')]

theorem afterTurn_user (w : World) (js : Json) (id : Int) :
    (w.afterTurn js id).db.user = w.db.user := by
  have hs := w.same_ask (s := .selectUser id) fun db => ⟨_, rfl⟩
  unfold afterTurn
  split
  · rw [hs.db]
  · rcases (w.ask (.selectUser id)).2.ask_cases
      (.insertOffline (OfflineMsgModel.insertSql id js.dump)) with ⟨-, h⟩ | ⟨r, db, he, -, h⟩
    · rw [h, hs.db]
    · rw [h]
      rw [Database.exec_insertSql] at he
      split at he
      · cases he
        rw [hs.db]
      · cases he

theorem afterTurns_user (w : World) (js : Json) (ids : List Int) :
    (w.afterTurns js ids).db.user = w.db.user := by
  induction ids generalizing w with
  | nil => rfl
  | cons id ids ih => exact (ih (w.afterTurn js id)).trans (w.afterTurn_user js id)

end World

/-! ## What the handlers deliver -/

section

variable (i : ServerId) (w : World)

theorem oneChat_delivers (toid : Int) (js : Json) :
    delivered (ChatCalls.oneChatTo toid js) i w = [w.route i js toid] := by
  unfold ChatCalls.oneChatTo World.route
  refine (delivered_then i w (.findConn toid) _ (run_findConn i w toid)).trans ?_
  rw [HandlerCall.delivers, List.nil_append]
  cases (w.servers i).userConnMap.lookup toid with
  | some toConn => exact delivered_call i w (.sendJson toConn js)
  | none =>
    refine (delivered_then i w (.query toid) _ (run_query i w toid)).trans ?_
    rw [HandlerCall.delivers, List.nil_append]
    change delivered (if (w.lookedUp toid).state = .online then _ else _) i _ = [ite _ _ _]
    by_cases h : (w.lookedUp toid).state = .online
    · rw [if_pos h, if_pos h]
      exact delivered_then i _ (.publish toid js.dump) _ (run_publish i _ toid js.dump)
    · rw [if_neg h, if_neg h]
      exact delivered_call i _ (.insert toid js.dump)

theorem ran_storeOffline (js : Json) (ids : List Int) :
    (ChatCalls.storeOffline js ids).run i w = some (w.crossIds js ids, w.afterTurns js ids) :=
  (ChatCalls.run_storeOffline_calls i w js ids).trans (run_storeOffline i w js ids)

theorem ran_routeGroup (js : Json) (ids : List Int) :
    (ChatCalls.routeGroup js ids).run i w = some (w.absent i ids, w.modify i fun s =>
      (ids.filterMap (s.userConnMap.lookup ·)).foldl (·.deliver · js) s) :=
  (ChatCalls.run_routeGroup_calls i w js ids).trans (run_routeGroup i w ids js)

theorem turnOf_cons_self (js : Json) (id : Int) (ids : List Int) :
    w.turnOf js (id :: ids) id = w := by
  rw [World.turnOf, List.takeWhile_cons_of_neg (by simp)]
  rfl

theorem turnOf_cons_ne (js : Json) {id u : Int} (h : id ≠ u) (ids : List Int) :
    w.turnOf js (id :: ids) u = (w.afterTurn js id).turnOf js ids u := by
  rw [World.turnOf, List.takeWhile_cons_of_pos (by simpa using h)]
  rfl

/-- The loop stores the message for those whose lookup does not say online, and returns the others.
-/
theorem storeOffline_delivers (js : Json) {ids : List Int} (hn : ids.Nodup) (online : Int → Prop)
    [DecidablePred online]
    (h : ∀ u ∈ ids, ((w.turnOf js ids u).lookedUp u).state = .online ↔ online u) :
    delivered (ChatCalls.storeOffline js ids) i w =
        (ids.filter fun u => ¬online u).map (.store · js.dump) ∧
      w.crossIds js ids = ids.filter fun u => online u := by
  induction ids generalizing w with
  | nil => exact ⟨rfl, rfl⟩
  | cons id ids ih =>
    obtain ⟨hni, hn⟩ := List.nodup_cons.mp hn
    have hid : (w.lookedUp id).state = .online ↔ online id := by
      have := h id List.mem_cons_self
      rwa [turnOf_cons_self] at this
    obtain ⟨hstored, hcross⟩ := ih (w.afterTurn js id) hn fun u hu => by
      have hne : id ≠ u := fun e => hni (e ▸ hu)
      rw [← turnOf_cons_ne w js hne]
      exact h u (List.mem_cons_of_mem _ hu)
    unfold ChatCalls.storeOffline World.crossIds
    refine ⟨(delivered_then i w (.query id) _ (run_query i w id)).trans ?_, ?_⟩
    · rw [HandlerCall.delivers, List.nil_append]
      change delivered (if (w.lookedUp id).state = .online then _ else _) i _ = _
      by_cases ho : (w.lookedUp id).state = .online
      · have hturn : w.afterTurn js id = (w.ask (.selectUser id)).2 := if_pos ho
        rw [hturn] at hstored
        rw [if_pos ho, List.filter_cons_of_neg (by simpa using hid.mp ho), ← hstored]
        refine (delivered_bind i _ _ (ran_storeOffline i _ js ids)).trans ?_
        exact List.append_nil _
      · have hturn : w.afterTurn js id = _ := if_neg ho
        rw [hturn] at hstored
        rw [if_neg ho, List.filter_cons_of_pos (by simpa using fun h => ho (hid.mpr h)),
          List.map_cons, ← hstored]
        exact delivered_then i _ (.insert id js.dump) _ (run_insertOffline i _ id js.dump)
    · by_cases ho : online id <;> simp [hid, ho, hcross]

/-- The loop under the lock sends to those in the map. -/
theorem routeGroup_delivers (js : Json) (ids : List Int) :
    delivered (ChatCalls.routeGroup js ids) i w =
      (ids.filterMap ((w.servers i).userConnMap.lookup ·)).map (.send · js) := by
  induction ids generalizing w with
  | nil => rfl
  | cons id ids ih =>
    unfold ChatCalls.routeGroup
    refine (delivered_then i w (.findConn id) _ (run_findConn i w id)).trans ?_
    rw [HandlerCall.delivers, List.nil_append]
    cases hl : (w.servers i).userConnMap.lookup id with
    | some conn =>
      have ih := ih (w.modify i (·.deliver conn js))
      rw [ChatCalls.userConnMap_deliver] at ih
      have hfound : (id :: ids).filterMap ((w.servers i).userConnMap.lookup ·) =
          conn :: ids.filterMap ((w.servers i).userConnMap.lookup ·) := List.filterMap_cons_some hl
      rw [hfound, List.map_cons, ← ih]
      exact delivered_then i w (.sendJson conn js) _ rfl
    | none =>
      have hfound : (id :: ids).filterMap ((w.servers i).userConnMap.lookup ·) =
          ids.filterMap ((w.servers i).userConnMap.lookup ·) := List.filterMap_cons_none hl
      rw [hfound, ← ih]
      refine (delivered_bind i w _ (ran_routeGroup i w js ids)).trans ?_
      exact List.append_nil _

/-- The last loop publishes. -/
theorem publishAll_delivers (js : Json) (ids : List Int) :
    delivered (Prog.each (fun id => do let _ ← ChatCalls.publish id js.dump) ids) i w =
      ids.map (.publish · js.dump) := by
  induction ids generalizing w with
  | nil => rfl
  | cons id ids ih =>
    rw [List.map_cons, ← ih]
    exact delivered_then i w (.publish id js.dump) _ (run_publish i w id js.dump)

/-- **The three phases** of a group message. -/
theorem groupChat_delivers (userid groupid : Int) (js : Json)
    (hn : (w.membersRead userid groupid).Nodup) (online : Int → Prop) [DecidablePred online]
    (h : ∀ u ∈ w.absent i (w.membersRead userid groupid),
      (((w.routed i userid groupid js).turnOf js
        (w.absent i (w.membersRead userid groupid)) u).lookedUp u).state = .online ↔ online u) :
    delivered (ChatCalls.groupChatFrom userid groupid js) i w =
      ((w.membersRead userid groupid).filterMap ((w.servers i).userConnMap.lookup ·)).map
          (.send · js) ++
        (((w.absent i (w.membersRead userid groupid)).filter fun u => ¬online u).map
            (.store · js.dump) ++
          ((w.absent i (w.membersRead userid groupid)).filter fun u => online u).map
            (.publish · js.dump)) := by
  have hservers := (w.same_membersRead userid groupid).servers
  have habsent : ∀ ids, (w.ask (.selectGroupUserIds groupid userid)).2.absent i ids =
      w.absent i ids := fun ids => by unfold World.absent; rw [hservers]
  have hn' : (w.absent i (w.membersRead userid groupid)).Nodup := hn.filter _
  obtain ⟨hstored, hcross⟩ :=
    storeOffline_delivers i (w.routed i userid groupid js) js hn' online h
  unfold ChatCalls.groupChatFrom
  refine (delivered_then i w (.queryGroupUsers userid groupid) _
    (run_queryGroupUsers i w userid groupid)).trans ?_
  rw [HandlerCall.delivers, List.nil_append]
  refine (delivered_bind i _ _ (ran_routeGroup i _ js _)).trans ?_
  rw [routeGroup_delivers, hservers]
  refine congrArg (_ ++ ·) ?_
  refine (delivered_bind i _ _ (ran_storeOffline i _ js _)).trans ?_
  rw [publishAll_delivers, habsent]
  change delivered (ChatCalls.storeOffline js (w.absent i (w.membersRead userid groupid))) i
    (w.routed i userid groupid js) ++ ((w.routed i userid groupid js).crossIds js
      (w.absent i (w.membersRead userid groupid))).map _ = _
  rw [hstored, hcross]

end

/-- Three phases over the items, and one choice for each. -/
theorem phases_perm {α β γ : Type} (find : α → Option β) (p : α → Prop) [DecidablePred p]
    (f : β → γ) (g h : α → γ) (ids : List α) :
    ((ids.filterMap find).map f ++
      (((ids.filter fun u => (find u).isNone).filter fun u => ¬p u).map g ++
        ((ids.filter fun u => (find u).isNone).filter fun u => p u).map h)).Perm
      (ids.map fun u => (find u).elim (if p u then h u else g u) f) := by
  induction ids with
  | nil => exact .refl _
  | cons u ids ih =>
    rw [List.map_cons]
    cases hf : find u with
    | some c =>
      rw [List.filterMap_cons_some hf, List.filter_cons_of_neg (by simp [hf]), Option.elim_some]
      exact ih.cons (f c)
    | none =>
      rw [List.filterMap_cons_none hf, List.filter_cons_of_pos (by simp [hf]), Option.elim_none]
      by_cases hp : p u
      · rw [if_pos hp, List.filter_cons_of_neg (by simpa using hp),
          List.filter_cons_of_pos (by simpa using hp), List.map_cons, ← List.append_assoc]
        refine List.perm_middle.trans (.cons _ ?_)
        rw [List.append_assoc]
        exact ih
      · rw [if_neg hp, List.filter_cons_of_pos (by simpa using hp),
          List.filter_cons_of_neg (by simpa using hp), List.map_cons]
        exact List.perm_middle.trans (ih.cons _)

/-- The handler, run alone, makes these deliveries. -/
def Makes (i : ServerId) (w : World) (p : Serv Unit) (ds : List Routed) : Prop :=
  ∃ w', p.run i w = some ((), w') ∧ Delivers i ds w w'

theorem oneChat_makes (i : ServerId) (w : World) (toid : Int) (js : Json) :
    Makes i w (oneChatTo toid js) (delivered (ChatCalls.oneChatTo toid js) i w) := by
  have hrun := run_oneChatTo i w toid js
  exact ⟨_, hrun, delivered_run i w ((ChatCalls.run_oneChatTo_calls i w toid js).trans hrun)⟩

theorem groupChat_makes (i : ServerId) (w : World) (userid groupid : Int) (js : Json) :
    Makes i w (groupChatFrom userid groupid js)
      (delivered (ChatCalls.groupChatFrom userid groupid js) i w) := by
  have hrun := w.run_groupChatFrom i userid groupid js
  exact ⟨_, hrun,
    delivered_run i w ((ChatCalls.run_groupChatFrom_calls i w userid groupid js).trans hrun)⟩

/-- **Group chat agrees with one-to-one chat.** From every state in which the query of the members
is answered, a group message is delivered as the same message is to each of the members but the
sender, once each, when the map and the rows are the same and the lookups come out the same. What is
delivered is what the two handlers do to the packets, Redis and the rows. -/
theorem group_agrees (i : ServerId) (w : World) (userid groupid : Int) (js : Json)
    (hknown : (w.ask (.selectGroupUserIds groupid userid)).1.isSome = true) (one : Int → World)
    (hone : ∀ u ∈ w.db.otherMembers groupid userid,
      SameState i u w ((Chat.group userid groupid js).turn u i w) (one u)) :
    ∃ members : List Int, members.Nodup ∧
      (∀ u, u ∈ members ↔ (w.db.groupUser.find (groupid, u)).isSome = true ∧ u ≠ userid) ∧
      (delivered (ChatCalls.groupChatFrom userid groupid js) i w).Perm
        (members.flatMap fun u => delivered (ChatCalls.oneChatTo u js) i (one u)) ∧
      Makes i w (groupChatFrom userid groupid js)
        (delivered (ChatCalls.groupChatFrom userid groupid js) i w) ∧
      ∀ u, Makes i (one u) (oneChatTo u js) (delivered (ChatCalls.oneChatTo u js) i (one u)) := by
  have hmembers := membersRead_of_known hknown
  have hn := w.db.otherMembers_nodup groupid userid
  -- who is online is what the lookup says
  let online := fun u => ((one u).lookedUp u).state = .online
  have hlook : ∀ u ∈ w.absent i (w.membersRead userid groupid),
      (((Chat.group userid groupid js).turn u i w).lookedUp u).state = .online ↔ online u := by
    intro u hu
    obtain ⟨hu, habsent⟩ := List.mem_filter.mp hu
    have hsame := hone u (by rwa [← hmembers])
    have : (one u).lookedUp u = ((Chat.group userid groupid js).turn u i w).lookedUp u := by
      refine World.lookedUp_congr ?_ (hsame.lookup (by simpa using habsent)) u
      rw [hsame.rows, Chat.turn, World.turnOf, World.afterTurns_user, World.routed_db]
    rw [← this]
  have hroute : ∀ u ∈ w.db.otherMembers groupid userid,
      delivered (ChatCalls.oneChatTo u js) i (one u) =
        [((w.servers i).userConnMap.lookup u).elim
          (if online u then .publish u js.dump else .store u js.dump) (Routed.send · js)] := by
    intro u hu
    rw [oneChat_delivers, World.route, (hone u hu).entries]
    cases (w.servers i).userConnMap.lookup u <;> rfl
  refine ⟨w.db.otherMembers groupid userid, hn, fun u => w.db.mem_otherMembers, ?_,
    groupChat_makes i w userid groupid js, fun u => oneChat_makes i (one u) u js⟩
  rw [groupChat_delivers i w userid groupid js (by rw [hmembers]; exact hn) online hlook, hmembers,
    List.flatMap_congr hroute, ← List.map_eq_flatMap]
  exact phases_perm ((w.servers i).userConnMap.lookup ·) online (Routed.send · js)
    (Routed.store · js.dump) (Routed.publish · js.dump) (w.db.otherMembers groupid userid)

/-- A group of four: user 1, who writes, and user 2 are on server 0, user 3 is on server 1, user 4 is
offline. -/
def groupWorld : World where
  db := { Database.created id with
    user := ⟨[(1, ⟨txt "ann", txt "pw", .online⟩), (2, ⟨txt "bob", txt "pw", .online⟩),
      (3, ⟨txt "cat", txt "pw", .online⟩), (4, ⟨txt "dan", txt "pw", .offline⟩)], by decide⟩
    groupUser := ⟨[((5, 1), .creator), ((5, 2), .normal), ((5, 3), .normal), ((5, 4), .normal)],
      by decide⟩ }
  servers j :=
    { Server.stopped with
      running := true
      publishContext := true
      userConnMap := if j = 0 then (AList.insert 1 1 ∅).insert 2 2 else AList.insert 3 1 ∅
      conns := fun _ => .connected
      live := fun ch => if j = 0 then ch = 1 ∨ ch = 2 else ch = 3 }
  fates _ := ⟨true, 0⟩
  now := 0

/-- What user 1 writes. -/
def groupHello : Json :=
  .object [EnMsgType.groupChatMsg.field, ("id", .int 1), ("groupid", .int 5), ("msg", .str (txt "hi"))]

/-- User 2 gets the packet, user 3 the message of Redis, user 4 the row. -/
theorem group_agrees_four :
    (∃ members : List Int, members.Nodup ∧
      (∀ u, u ∈ members ↔ (groupWorld.db.groupUser.find (5, u)).isSome = true ∧ u ≠ 1) ∧
      (delivered (ChatCalls.groupChatFrom 1 5 groupHello) 0 groupWorld).Perm
        (members.flatMap fun u => delivered (ChatCalls.oneChatTo u groupHello) 0 groupWorld) ∧
      Makes 0 groupWorld (groupChatFrom 1 5 groupHello)
        (delivered (ChatCalls.groupChatFrom 1 5 groupHello) 0 groupWorld) ∧
      ∀ u, Makes 0 groupWorld (oneChatTo u groupHello)
        (delivered (ChatCalls.oneChatTo u groupHello) 0 groupWorld)) ∧
    (Prog.run (L := chat) 0 (groupChatFrom 1 5 groupHello) groupWorld).map (fun r =>
      ((r.2.servers 0).outbox.map (·.conn), (r.2.servers 1).inbox, r.2.db.offlineMessage)) =
      some ([2], [(3, groupHello.dump)], [(4, groupHello.dump)]) := by
  have hw : groupWorld.Works := fun _ => rfl
  refine ⟨group_agrees 0 groupWorld 1 5 groupHello rfl (fun _ => groupWorld) fun u _ =>
    ⟨rfl, rfl, fun _ => iff_of_true ⟨hw 0, hw 1⟩ ?_⟩, by decide +kernel⟩
  obtain ⟨hturn, -⟩ := Chat.turn_of_works hw 0 (.group 1 5 groupHello) u
  exact ⟨hturn 0, hturn 1⟩

end QtChat
