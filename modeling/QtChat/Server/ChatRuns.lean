import QtChat.Server.Frames

/-!
# Runs of oneChat and groupChat

Where a message for a user goes: to the connection in `_userConnMap`, to the user's Redis channel if
the row says online, else into `OfflineMessage` (`Database.store`).

- `run_oneChatTo`, `run_groupChatFrom`: the runs as equations, for every outcome of the statements.
- `afterGroupChat_outbox`, `afterGroupChat_inbox`, `afterGroupChat_rows`: what a group message adds.
  The members in the map get the packet, for the others a loop looks each one up and stores the
  message or notes that it has to be published (`afterTurns`, `crossIds`).
- `Works.afterGroupChat`: the same as one update of the tables when MySQL works.
-/

namespace QtChat

open Interleave ChatService

/-- The message is stored for the user if MySQL accepts the statement. -/
def Fits (id : Int) (msg : Str) : Prop := (insertText id (MySQL.escape msg)).length ≤ 2047

instance (id : Int) (msg : Str) : Decidable (Fits id msg) := inferInstanceAs (Decidable (_ ≤ _))

/-- What fits the statement fits the column. -/
theorem Fits.length_le {id : Int} {msg : Str} (h : Fits id msg) : msg.length ≤ 65535 := by
  have hl := length_le_escape msg
  unfold Fits insertText at h
  simp only [List.length_append] at h
  omega

namespace Database

/-- MySQL takes the row. -/
def Takes (db : Database) (id : Int) (msg : Str) : Prop :=
  Fits id msg ∧ db.hasUser id = true ∧ msg.length ≤ 65535

instance (db : Database) (id : Int) (msg : Str) : Decidable (db.Takes id msg) :=
  inferInstanceAs (Decidable (_ ∧ _ ∧ _))

/-- The tables after `OfflineMsgModel::insert`. -/
def store (db : Database) (id : Int) (msg : Str) : Database :=
  if db.Takes id msg then { db with offlineMessage := db.offlineMessage ++ [(id, msg)] } else db

theorem exec_insertSql (db : Database) (id : Int) (msg : Str) :
    db.exec (.insertOffline (OfflineMsgModel.insertSql id msg)) =
      if db.Takes id msg then
        some ((), { db with offlineMessage := db.offlineMessage ++ [(id, msg)] })
      else none := by
  simp only [exec, OfflineMsgModel.insertSql, readInsert_snprintf]
  unfold Takes Fits
  by_cases h : (insertText id (MySQL.escape msg)).length ≤ 2047
  · rw [if_pos h]
    simp only [h, true_and, Bool.and_eq_true, decide_eq_true_eq]
  · rw [if_neg h]
    simp only [h, false_and, if_false]

@[simp] theorem store_user (db : Database) (id : Int) (msg : Str) :
    (db.store id msg).user = db.user := by unfold store; split <;> rfl

@[simp] theorem store_groupUser (db : Database) (id : Int) (msg : Str) :
    (db.store id msg).groupUser = db.groupUser := by unfold store; split <;> rfl

@[simp] theorem store_stateOf (db : Database) (id : Int) (msg : Str) (u : Int) :
    (db.store id msg).stateOf u = db.stateOf u := by simp [stateOf]

@[simp] theorem store_hasUser (db : Database) (id : Int) (msg : Str) (u : Int) :
    (db.store id msg).hasUser u = db.hasUser u := by simp [hasUser]

@[simp] theorem store_takes (db : Database) (id : Int) (msg : Str) (u : Int) (m : Str) :
    (db.store id msg).Takes u m ↔ db.Takes u m := by simp [Takes]

theorem store_offlineMessage (db : Database) (id : Int) (msg : Str) :
    (db.store id msg).offlineMessage =
      db.offlineMessage ++ if db.Takes id msg then [(id, msg)] else [] := by
  unfold store
  split <;> simp

/-- The tables after the message was stored for each of these users. -/
def storeAll (db : Database) (ids : List Int) (msg : Str) : Database :=
  ids.foldl (fun db id => db.store id msg) db

theorem storeAll_spec (db : Database) (ids : List Int) (msg : Str) :
    (db.storeAll ids msg).user = db.user ∧ (db.storeAll ids msg).groupUser = db.groupUser ∧
      (db.storeAll ids msg).offlineMessage = db.offlineMessage ++
        (ids.filter fun id => db.Takes id msg).map fun id => (id, msg) := by
  induction ids generalizing db with
  | nil => exact ⟨rfl, rfl, by simp [storeAll]⟩
  | cons id ids ih =>
    obtain ⟨h₁, h₂, h₃⟩ := ih (db.store id msg)
    refine ⟨h₁.trans (store_user ..), h₂.trans (store_groupUser ..), ?_⟩
    rw [storeAll, List.foldl_cons]
    refine h₃.trans ?_
    simp only [store_takes, store_offlineMessage, List.append_assoc, List.filter_cons]
    split <;> simp_all

end Database

/-- A group has no member twice. -/
theorem Database.otherMembers_nodup (db : Database) (groupid userid : Int) :
    (db.otherMembers groupid userid).Nodup := by
  unfold otherMembers
  refine List.Nodup.map_on (fun x hx y hy e => ?_) (db.groupUser.keys_nodup.of_map.filter _)
  simp only [List.mem_filter, Bool.and_eq_true, decide_eq_true_eq] at hx hy
  exact List.inj_on_of_nodup_map db.groupUser.keys_nodup hx.1 hy.1
    (Prod.ext (hx.2.1.trans hy.2.1.symm) e)

theorem Database.mem_otherMembers (db : Database) {groupid userid u : Int} :
    u ∈ db.otherMembers groupid userid ↔
      (db.groupUser.find (groupid, u)).isSome = true ∧ u ≠ userid := by
  unfold otherMembers
  rw [List.mem_map]
  constructor
  · rintro ⟨⟨⟨g, v⟩, role⟩, hr, rfl⟩
    simp only [List.mem_filter, Bool.and_eq_true, decide_eq_true_eq] at hr
    obtain ⟨hmem, rfl, hne⟩ := hr
    exact ⟨Option.isSome_iff_exists.mpr ⟨role, Relational.Table.find_eq_some.mpr hmem⟩, hne⟩
  · rintro ⟨hsome, hne⟩
    obtain ⟨role, hfind⟩ := Option.isSome_iff_exists.mp hsome
    have hmem := Relational.Table.find_eq_some.mp hfind
    exact ⟨((groupid, u), role), List.mem_filter.mpr ⟨hmem, by simpa using hne⟩, rfl⟩

/-- The messages of `u` after one was stored for each of the ids. -/
theorem Database.storeAll_offlineOf (db : Database) {ids : List Int} (hn : ids.Nodup) (msg : Str)
    (u : Int) : (db.storeAll ids msg).offlineOf u =
      db.offlineOf u ++ if u ∈ ids ∧ db.Takes u msg then [msg] else [] := by
  have hc : (ids.filter fun id => db.Takes id msg).filter (fun id => id = u) =
      if u ∈ ids ∧ db.Takes u msg then [u] else [] := by
    rw [List.filter_filter]
    induction ids with
    | nil => simp
    | cons id ids ih =>
      obtain ⟨hni, hn⟩ := List.nodup_cons.mp hn
      rw [List.filter_cons, ih hn]
      by_cases e : id = u
      · subst e
        by_cases ht : db.Takes id msg <;> simp [ht, hni]
      · have : ¬u = id := fun h => e h.symm
        simp [e, this]
  unfold offlineOf
  rw [(db.storeAll_spec ids msg).2.2, List.filter_append, List.map_append, List.filter_map,
    List.map_map]
  congr 1
  have : ((fun r : Int × Str => decide (r.1 = u)) ∘ fun id => (id, msg)) = fun id => decide (id = u) :=
    rfl
  rw [this, hc]
  split <;> rfl

namespace World

/-- What the lookup of a user who may be online answers when MySQL works. -/
theorem Works.lookedUp_state {w : World} (h : w.Works) (id : Int) :
    (w.lookedUp id).state = (w.db.stateOf id).getD .offline := by
  unfold lookedUp
  rw [h.ask_read rfl, Database.stateOf]
  cases w.db.user.find id <;> rfl

theorem Works.lookedUp_online {w : World} (h : w.Works) (id : Int) :
    (w.lookedUp id).state = .online ↔ w.db.stateOf id = some .online := by
  rw [h.lookedUp_state]
  rcases w.db.stateOf id with _ | _ | _ <;> simp

/-- The tables after `OfflineMsgModel::insert` when MySQL works. -/
theorem Works.ask_insert {w : World} (h : w.Works) (id : Int) (msg : Str) :
    (w.ask (.insertOffline (OfflineMsgModel.insertSql id msg))).2.db = w.db.store id msg := by
  rw [h.ask, Database.exec_insertSql]
  unfold Database.store
  by_cases ht : w.db.Takes id msg
  · rw [if_pos ht, if_pos ht]
  · rw [if_neg ht, if_neg ht]
    rfl

/-- The world after `Redis::publish` on server `i`. -/
def published (w : World) (i : ServerId) (ch : Int) (message : Str) : World :=
  if (w.servers i).publishContext then
    { w with servers := fun j => (w.servers j).push ch (cstr message) }
  else w

/-- The world after `oneChat`. -/
def afterOneChat (w : World) (i : ServerId) (toid : Int) (js : Json) : World :=
  match (w.servers i).userConnMap.lookup toid with
  | some conn => w.modify i (·.deliver conn js)
  | none =>
    if (w.lookedUp toid).state = .online then
      (w.ask (.selectUser toid)).2.published i toid js.dump
    else ((w.ask (.selectUser toid)).2.ask (.insertOffline (OfflineMsgModel.insertSql toid js.dump))).2

/-- The world after one turn of the loop over those who are not in the map: the lookup, and the
insert if it does not say online. -/
def afterTurn (w : World) (js : Json) (id : Int) : World :=
  if (w.lookedUp id).state = .online then (w.ask (.selectUser id)).2
  else ((w.ask (.selectUser id)).2.ask (.insertOffline (OfflineMsgModel.insertSql id js.dump))).2

/-- The world after the loop. -/
def afterTurns (w : World) (js : Json) (ids : List Int) : World :=
  ids.foldl (fun w id => w.afterTurn js id) w

/-- Those whose lookup says online, in the loop. -/
def crossIds (w : World) (js : Json) : List Int → List Int
  | [] => []
  | id :: ids =>
    if (w.lookedUp id).state = .online then id :: (w.afterTurn js id).crossIds js ids
    else (w.afterTurn js id).crossIds js ids

/-- The turn of `id` stores the message. -/
def Stores (w : World) (js : Json) (id : Int) : Prop :=
  (w.lookedUp id).state ≠ .online ∧ ((w.ask (.selectUser id)).2.ask
    (.insertOffline (OfflineMsgModel.insertSql id js.dump))).1.isSome = true

instance (w : World) (js : Json) (id : Int) : Decidable (w.Stores js id) :=
  inferInstanceAs (Decidable (_ ∧ _))

/-- Those for whom the message is stored, in the loop. -/
def storedIds (w : World) (js : Json) : List Int → List Int
  | [] => []
  | id :: ids => (if w.Stores js id then [id] else []) ++ (w.afterTurn js id).storedIds js ids

/-- The world when the turn of `u` comes. -/
def turnOf (w : World) (js : Json) (ids : List Int) (u : Int) : World :=
  w.afterTurns js (ids.takeWhile (· ≠ u))

theorem ask_insert_rows (w : World) (id : Int) (msg : Str) :
    (w.ask (.insertOffline (OfflineMsgModel.insertSql id msg))).2.db.offlineMessage =
      w.db.offlineMessage ++
        if (w.ask (.insertOffline (OfflineMsgModel.insertSql id msg))).1.isSome then [(id, msg)]
        else [] := by
  rcases w.ask_cases (.insertOffline (OfflineMsgModel.insertSql id msg)) with
    ⟨h₁, h₂⟩ | ⟨r, db, he, h₁, h₂⟩
  · rw [h₁, h₂]
    simp
  · rw [Database.exec_insertSql] at he
    rw [h₁, h₂]
    split at he
    · cases he; rfl
    · cases he

theorem afterTurn_servers (w : World) (js : Json) (id : Int) :
    (w.afterTurn js id).servers = w.servers := by
  unfold afterTurn
  split <;> simp

theorem afterTurn_rows (w : World) (js : Json) (id : Int) :
    (w.afterTurn js id).db.offlineMessage =
      w.db.offlineMessage ++ if w.Stores js id then [(id, js.dump)] else [] := by
  have hs := w.same_ask (s := .selectUser id) fun db => ⟨_, rfl⟩
  unfold afterTurn Stores
  by_cases h : (w.lookedUp id).state = .online
  · simp [h, hs.db]
  · simp only [h, if_false, ask_insert_rows, hs.db, ne_eq, not_false_eq_true, true_and]

theorem afterTurns_servers (w : World) (js : Json) (ids : List Int) :
    (w.afterTurns js ids).servers = w.servers := by
  induction ids generalizing w with
  | nil => rfl
  | cons id ids ih => exact (ih (w.afterTurn js id)).trans (w.afterTurn_servers js id)

theorem afterTurns_rows (w : World) (js : Json) (ids : List Int) :
    (w.afterTurns js ids).db.offlineMessage =
      w.db.offlineMessage ++ (w.storedIds js ids).map fun id => (id, js.dump) := by
  induction ids generalizing w with
  | nil => simp [afterTurns, storedIds]
  | cons id ids ih =>
    refine (ih (w.afterTurn js id)).trans ?_
    rw [afterTurn_rows, storedIds, List.append_assoc, List.map_append]
    split <;> rfl

theorem crossIds_subset (w : World) (js : Json) (ids : List Int) : w.crossIds js ids ⊆ ids := by
  induction ids generalizing w with
  | nil => exact fun _ h => h
  | cons id ids ih =>
    unfold crossIds
    split
    · exact List.cons_subset_cons id (ih _)
    · exact List.subset_cons_of_subset id (ih _)

theorem storedIds_subset (w : World) (js : Json) (ids : List Int) : w.storedIds js ids ⊆ ids := by
  induction ids generalizing w with
  | nil => exact fun _ h => h
  | cons id ids ih =>
    unfold storedIds
    split
    · exact List.cons_subset_cons id (ih _)
    · exact List.subset_cons_of_subset id (ih _)

/-- Whose turn notes the id, and whose stores the message. -/
theorem mem_turns {u : Int} (w : World) (js : Json) {ids : List Int} (hn : ids.Nodup)
    (hu : u ∈ ids) :
    (u ∈ w.crossIds js ids ↔ ((w.turnOf js ids u).lookedUp u).state = .online) ∧
      (u ∈ w.storedIds js ids ↔ (w.turnOf js ids u).Stores js u) := by
  induction ids generalizing w with
  | nil => cases hu
  | cons id ids ih =>
    obtain ⟨hni, hn⟩ := List.nodup_cons.mp hn
    unfold crossIds storedIds turnOf
    by_cases e : id = u
    · subst e
      have h₁ : id ∉ (w.afterTurn js id).crossIds js ids := fun h => hni (crossIds_subset _ _ _ h)
      have h₂ : id ∉ (w.afterTurn js id).storedIds js ids :=
        fun h => hni (storedIds_subset _ _ _ h)
      rw [List.takeWhile_cons_of_neg (by simp)]
      change (_ ↔ (w.lookedUp id).state = .online) ∧ (_ ↔ w.Stores js id)
      constructor
      · split <;> simp_all
      · split <;> simp_all
    · have hm : u ∈ ids := (List.mem_cons.mp hu).resolve_left fun h => e h.symm
      obtain ⟨h₁, h₂⟩ := ih (w.afterTurn js id) hn hm
      have e' : ¬u = id := fun h => e h.symm
      rw [List.takeWhile_cons_of_pos (by simpa using e)]
      change (_ ↔ (((w.afterTurn js id).turnOf js ids u).lookedUp u).state = .online) ∧
        (_ ↔ ((w.afterTurn js id).turnOf js ids u).Stores js u)
      rw [← h₁, ← h₂]
      constructor
      · split <;> simp [e']
      · split <;> simp [e']

end World

/-- **The loop** when MySQL works: what is for nobody online is stored. -/
theorem World.Works.afterTurns {w : World} (h : w.Works) (js : Json) (ids : List Int) :
    w.crossIds js ids = ids.filter (fun id => w.db.stateOf id = some .online) ∧
      (w.afterTurns js ids).Works ∧ (w.afterTurns js ids).servers = w.servers ∧
      (w.afterTurns js ids).db =
        w.db.storeAll (ids.filter fun id => w.db.stateOf id ≠ some .online) js.dump := by
  induction ids generalizing w with
  | nil => exact ⟨rfl, h, rfl, rfl⟩
  | cons id ids ih =>
    have hs := w.same_ask (s := .selectUser id) fun db => ⟨_, rfl⟩
    have hq := h.lookedUp_online id
    by_cases ho : w.db.stateOf id = some .online
    · have ht : w.afterTurn js id = (w.ask (.selectUser id)).2 := if_pos (hq.mpr ho)
      obtain ⟨h₁, h₂, h₃, h₄⟩ := ih (hs.works h)
      rw [hs.db] at h₁ h₄
      simp only [crossIds, World.afterTurns, List.foldl_cons, hq, ho, ht, if_true] at h₁ h₂ h₃ h₄ ⊢
      simp only [List.filter_cons, ho, decide_true, if_true, ne_eq, not_true, decide_false]
      exact ⟨by rw [h₁], h₂, h₃.trans hs.servers, h₄⟩
    · have ht : w.afterTurn js id = _ := if_neg fun e => ho (hq.mp e)
      set w₁ := ((w.ask (.selectUser id)).2.ask
        (.insertOffline (OfflineMsgModel.insertSql id js.dump))).2 with hw₁
      have hd : w₁.db = w.db.store id js.dump := by
        rw [hw₁, (hs.works h).ask_insert, hs.db]
      obtain ⟨h₁, h₂, h₃, h₄⟩ := ih ((hs.works h).after_ask
        (.insertOffline (OfflineMsgModel.insertSql id js.dump)))
      rw [← hw₁] at h₁ h₂ h₃ h₄
      simp only [hd, Database.store_stateOf] at h₁ h₄
      simp only [crossIds, World.afterTurns, List.foldl_cons, hq, ho, ht, if_false] at h₁ h₂ h₃ h₄ ⊢
      simp only [List.filter_cons, ho, decide_false, ne_eq, not_false_eq_true, decide_true, if_true]
      refine ⟨h₁, h₂, h₃.trans ?_, h₄⟩
      rw [hw₁, ask_servers, hs.servers]

section Runs

variable (i : ServerId) (w : World)

theorem run_storeOffline (js : Json) (ids : List Int) :
    (storeOffline js ids).run i w = some (w.crossIds js ids, w.afterTurns js ids) := by
  induction ids generalizing w with
  | nil => rfl
  | cons id ids ih =>
    have ih := ih (w.afterTurn js id)
    unfold storeOffline
    rw [Prog.run_bind, run_query, Option.bind_some]
    change Prog.run (L := chat) i (if (w.lookedUp id).state = .online then _ else _) _ = _
    unfold World.crossIds World.afterTurns
    rw [List.foldl_cons]
    unfold World.afterTurn at ih ⊢
    by_cases h : (w.lookedUp id).state = .online
    · simp only [h, if_true] at ih ⊢
      rw [Prog.run_bind, ih]
      rfl
    · simp only [h, if_false] at ih ⊢
      rw [Prog.run_bind, run_insertOffline, Option.bind_some, ih]
      rfl

theorem run_oneChatTo (toid : Int) (js : Json) :
    (oneChatTo toid js).run i w = some ((), w.afterOneChat i toid js) := by
  unfold oneChatTo World.afterOneChat
  rw [Prog.run_bind, run_findConn, Option.bind_some]
  cases (w.servers i).userConnMap.lookup toid with
  | some conn => rfl
  | none =>
    simp only [Prog.run_bind, run_query, Option.bind_some]
    change Prog.run (L := chat) i (if (w.lookedUp toid).state = .online then _ else _) _ = _
    by_cases h : (w.lookedUp toid).state = .online
    · rw [if_pos h, if_pos h, Prog.run_bind, run_publish]
      rfl
    · rw [if_neg h, if_neg h, run_insertOffline]

end Runs

/-! ## Publishing -/

theorem World.published_db (w : World) (i : ServerId) (ch : Int) (message : Str) :
    (w.published i ch message).db = w.db := by unfold published; split <;> rfl

theorem World.Works.published {w : World} (h : w.Works) (i : ServerId) (ch : Int) (message : Str) :
    (w.published i ch message).Works := by unfold World.published; split <;> exact h

/-- What Redis pushes to the servers. -/
theorem World.published_servers (w : World) (i : ServerId) (ch : Int) (message : Str)
    (j : ServerId) : (w.published i ch message).servers j = { w.servers j with
      inbox := (w.servers j).inbox ++
        if (w.servers i).publishContext ∧ (w.servers j).live ch then [(ch, cstr message)]
        else [] } := by
  unfold published
  by_cases h : (w.servers i).publishContext = true
  · rw [if_pos h]
    simp only [h, true_and, Server.push]
    split <;> simp
  · rw [if_neg h]
    simp [h]

/-- The world after the message was published to each of these channels. -/
def World.publishAll (w : World) (i : ServerId) (chs : List Int) (message : Str) : World :=
  chs.foldl (fun w ch => w.published i ch message) w

theorem run_publishAll (i : ServerId) (w : World) (chs : List Int) (message : Str) :
    (Prog.each (fun ch => do let _ ← publish ch message) chs).run i w =
      some ((), w.publishAll i chs message) := by
  induction chs generalizing w with
  | nil => rfl
  | cons ch chs ih =>
    rw [Prog.each_cons, Prog.run_bind, Prog.run_bind, run_publish]
    exact ih (w.published i ch message)

theorem World.publishAll_spec (w : World) (i : ServerId) (chs : List Int) (message : Str) :
    (w.publishAll i chs message).db = w.db ∧ (w.Works → (w.publishAll i chs message).Works) ∧
      ∀ j, (w.publishAll i chs message).servers j = { w.servers j with
        inbox := (w.servers j).inbox ++
          if (w.servers i).publishContext then
            (chs.filter (w.servers j).live).map fun ch => (ch, cstr message)
          else [] } := by
  induction chs generalizing w with
  | nil => exact ⟨rfl, id, fun j => by simp [publishAll]⟩
  | cons ch chs ih =>
    obtain ⟨h₁, h₂, h₃⟩ := ih (w.published i ch message)
    refine ⟨h₁.trans (w.published_db ..), fun h => h₂ (h.published i ch message), fun j => ?_⟩
    rw [publishAll, List.foldl_cons]
    refine (h₃ j).trans ?_
    simp only [published_servers]
    by_cases hp : (w.servers i).publishContext = true
    · by_cases hl : (w.servers j).live ch = true <;> simp [hp, hl]
    · simp [hp]

/-- Who of the ids has no connection on server `i`. -/
def World.absent (w : World) (i : ServerId) (ids : List Int) : List Int :=
  ids.filter fun id => ((w.servers i).userConnMap.lookup id).isNone

namespace World

variable (w : World) (i : ServerId) (userid groupid : Int) (js : Json)

/-- The members that the query of `groupChat` gives. -/
def membersRead : List Int := (w.ask (.selectGroupUserIds groupid userid)).1.getD []

/-- The world after the section of `groupChat` under the lock. -/
def routed : World := (w.ask (.selectGroupUserIds groupid userid)).2.modify i fun s =>
  ((w.membersRead userid groupid).filterMap (s.userConnMap.lookup ·)).foldl (·.deliver · js) s

/-- The world after `groupChat`. -/
def afterGroupChat : World :=
  ((w.routed i userid groupid js).afterTurns js
    (w.absent i (w.membersRead userid groupid))).publishAll i
      ((w.routed i userid groupid js).crossIds js (w.absent i (w.membersRead userid groupid))) js.dump

theorem same_membersRead : w.Same (w.ask (.selectGroupUserIds groupid userid)).2 :=
  w.same_ask fun _ => ⟨_, rfl⟩

theorem routed_self : (w.routed i userid groupid js).servers i = { w.servers i with
    outbox := (w.servers i).outbox ++
      ((w.membersRead userid groupid).filterMap ((w.servers i).userConnMap.lookup ·)).map
        fun c => ⟨c, js, (w.servers i).conns c = .connected⟩ } := by
  rw [routed, modify_self, Server.foldl_deliver, (w.same_membersRead userid groupid).servers]

/-- The section keeps all but the packets of the server. -/
theorem routed_server (j : ServerId) :
    ((w.routed i userid groupid js).servers j).inbox = (w.servers j).inbox ∧
      ((w.routed i userid groupid js).servers j).live = (w.servers j).live ∧
      ((w.routed i userid groupid js).servers j).publishContext = (w.servers j).publishContext := by
  by_cases h : j = i
  · subst h
    rw [routed_self]
    exact ⟨rfl, rfl, rfl⟩
  · rw [routed, modify_ne _ h, (w.same_membersRead userid groupid).servers]
    exact ⟨rfl, rfl, rfl⟩

theorem routed_db : (w.routed i userid groupid js).db = w.db :=
  (w.same_membersRead userid groupid).db

/-- **A group message**, for every outcome of the statements. -/
theorem run_groupChatFrom : (groupChatFrom userid groupid js).run i w =
    some ((), w.afterGroupChat i userid groupid js) := by
  unfold groupChatFrom
  simp only [Prog.run_bind, run_queryGroupUsers, Option.bind_some, run_routeGroup]
  rw [(w.same_membersRead userid groupid).servers]
  change ((storeOffline js (w.absent i (w.membersRead userid groupid))).run i
    (w.routed i userid groupid js)).bind _ = _
  rw [run_storeOffline]
  exact run_publishAll i _ _ js.dump

/-- The packets are for the members in the map. -/
theorem afterGroupChat_outbox :
    ((w.afterGroupChat i userid groupid js).servers i).outbox = (w.servers i).outbox ++
      ((w.membersRead userid groupid).filterMap ((w.servers i).userConnMap.lookup ·)).map
        fun c => ⟨c, js, (w.servers i).conns c = .connected⟩ := by
  rw [afterGroupChat, (publishAll_spec ..).2.2, afterTurns_servers, routed_self]

/-- Redis pushes to the servers that have the channels of those noted in the loop. -/
theorem afterGroupChat_inbox (j : ServerId) :
    ((w.afterGroupChat i userid groupid js).servers j).inbox = (w.servers j).inbox ++
      if (w.servers i).publishContext then
        (((w.routed i userid groupid js).crossIds js (w.absent i (w.membersRead userid groupid))).filter
          (w.servers j).live).map fun ch => (ch, cstr js.dump)
      else [] := by
  obtain ⟨h₁, h₂, -⟩ := w.routed_server i userid groupid js j
  obtain ⟨-, -, h₃⟩ := w.routed_server i userid groupid js i
  rw [afterGroupChat, (publishAll_spec ..).2.2, afterTurns_servers, h₁, h₂, h₃]

theorem afterGroupChat_rows :
    (w.afterGroupChat i userid groupid js).db.offlineMessage = w.db.offlineMessage ++
      ((w.routed i userid groupid js).storedIds js (w.absent i (w.membersRead userid groupid))).map
        fun id => (id, js.dump) := by
  rw [afterGroupChat, (publishAll_spec ..).1, afterTurns_rows, routed_db]

/-- What a group message stores when MySQL works. -/
theorem Works.afterGroupChat {w : World} (hw : w.Works) :
    (w.afterGroupChat i userid groupid js).Works ∧ (w.afterGroupChat i userid groupid js).db =
      w.db.storeAll ((w.absent i (w.db.otherMembers groupid userid)).filter
        fun id => w.db.stateOf id ≠ some .online) js.dump := by
  have hm : w.membersRead userid groupid = w.db.otherMembers groupid userid := by
    rw [membersRead, hw.ask_read rfl]; rfl
  have hr : (w.routed i userid groupid js).Works := (w.same_membersRead userid groupid).works hw
  obtain ⟨-, h₂, -, h₄⟩ := hr.afterTurns js (w.absent i (w.membersRead userid groupid))
  obtain ⟨h₅, h₆, -⟩ := publishAll_spec ((w.routed i userid groupid js).afterTurns js
    (w.absent i (w.membersRead userid groupid))) i
      ((w.routed i userid groupid js).crossIds js (w.absent i (w.membersRead userid groupid))) js.dump
  rw [routed_db, hm] at h₄
  exact ⟨h₆ h₂, h₅.trans (by rw [hm]; exact h₄)⟩

end World

/-! ## Chat messages -/

/-- A chat message as its handler has read it. -/
inductive Chat where
  | one (toid : Int) (js : Json)
  | group (userid groupid : Int) (js : Json)

namespace Chat

def js : Chat → Json
  | .one _ js => js
  | .group _ _ js => js

/-- What the handler does with it. -/
def handle : Chat → Serv Unit
  | .one toid js => oneChatTo toid js
  | .group userid groupid js => groupChatFrom userid groupid js

/-- The message is for `u`. -/
def RoutedTo (db : Database) (u : Int) : Chat → Prop
  | .one toid _ => toid = u
  | .group userid groupid _ => u ∈ db.otherMembers groupid userid

instance (db : Database) (u : Int) : DecidablePred (RoutedTo db u)
  | .one toid _ => inferInstanceAs (Decidable (toid = u))
  | .group userid groupid _ => inferInstanceAs (Decidable (u ∈ db.otherMembers groupid userid))

theorem handle_all (m : Chat) : m.handle.All ChatAct := by
  cases m with
  | one toid js => exact oneChatTo_all toid js
  | group userid groupid js => exact groupChatFrom_all userid groupid js

theorem routedTo_congr {db db' : Database} (h : db'.groupUser = db.groupUser) (u : Int) (m : Chat) :
    m.RoutedTo db' u ↔ m.RoutedTo db u := by
  cases m with
  | one toid js => exact Iff.rfl
  | group userid groupid js => simp only [RoutedTo, Database.otherMembers, h]

end Chat

/-- **A message while `u` is offline**, when MySQL works: it is stored if it is for `u` and MySQL
takes it. -/
theorem Chat.run_offline {w : World} (hw : w.Works) (i : ServerId) (m : Chat) {u : Int}
    (hst : w.db.stateOf u = some .offline) (habs : (w.servers i).userConnMap.lookup u = none) :
    ∃ w', m.handle.run i w = some ((), w') ∧ w'.Works ∧ w'.db.user = w.db.user ∧
      w'.db.groupUser = w.db.groupUser ∧ w'.db.offlineOf u = w.db.offlineOf u ++
        if m.RoutedTo w.db u ∧ w.db.Takes u m.js.dump then [m.js.dump] else [] := by
  cases m with
  | one toid js =>
    refine ⟨_, run_oneChatTo i w toid js, ?_⟩
    unfold World.afterOneChat
    have hs := w.same_ask (s := .selectUser toid) fun db => ⟨_, rfl⟩
    split
    · rename_i conn hl
      have : toid ≠ u := by rintro rfl; rw [habs] at hl; cases hl
      refine ⟨hw, rfl, rfl, ?_⟩
      simp [RoutedTo, this]
    · split
      · rename_i h
        have : toid ≠ u := by
          rintro rfl
          rw [hw.lookedUp_state, hst] at h
          cases h
        refine ⟨(hs.works hw).published i toid _, ?_, ?_, ?_⟩
        · rw [World.published_db, hs.db]
        · rw [World.published_db, hs.db]
        · rw [World.published_db, hs.db]
          simp [RoutedTo, this]
      · refine ⟨(hs.works hw).after_ask _, ?_⟩
        rw [(hs.works hw).ask_insert, hs.db]
        refine ⟨Database.store_user .., Database.store_groupUser .., ?_⟩
        have := w.db.storeAll_offlineOf (List.nodup_singleton toid) js.dump u
        simpa only [Database.storeAll, List.foldl_cons, List.foldl_nil, List.mem_singleton, RoutedTo,
          Chat.js, eq_comm] using this
  | group userid groupid js =>
    obtain ⟨hw', hdb⟩ := hw.afterGroupChat i userid groupid js
    obtain ⟨h₁, h₂, -⟩ := w.db.storeAll_spec ((w.absent i (w.db.otherMembers groupid userid)).filter
      fun id => w.db.stateOf id ≠ some .online) js.dump
    refine ⟨_, w.run_groupChatFrom i userid groupid js, hw', by rw [hdb, h₁], by rw [hdb, h₂], ?_⟩
    have hn : (w.absent i (w.db.otherMembers groupid userid)).Nodup :=
      (w.db.otherMembers_nodup groupid userid).filter _
    rw [hdb, Database.storeAll_offlineOf _ (hn.filter _)]
    congr 1
    simp only [World.absent, RoutedTo, habs, hst, Chat.js, List.mem_filter, Option.isNone_none,
      decide_eq_true_eq, and_true, ne_eq, Option.some.injEq, reduceCtorEq, not_false_eq_true]
    congr

end QtChat
