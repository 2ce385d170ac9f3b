import QtChat.Server.ChatService

/-!
# Runs of the model classes and of single actions

Each method of the model classes acquires a connection and sends its statements. `World.ask` is that
pair of steps: no answer if no connection can be had, the statement fails or MySQL refuses it. The
run of a method is then one equation (`run_query` and the like), with the defaults of the code where
there is no answer.

`World.Works` says that MySQL executes everything it is sent; a statement that it refuses still has
no answer.
-/

namespace QtChat

open Interleave

namespace World

/-- `acquire`, and the statement on the connection. -/
def ask (st : Stmt) (w : World) : Option st.Ans × World :=
  if (w.fates 0).ok then
    if (w.fates 1).ok then
      match w.db.exec st with
      | none => (none, w.next.next)
      | some (r, db) => (some r, ⟨db, w.servers, w.next.next.fates, w.now⟩)
    else (none, w.next.next)
  else (none, w.next)

/-- Connections can be had and statements are executed. -/
def Works (w : World) : Prop := ∀ n, (w.fates n).ok = true

@[simp] theorem next_db (w : World) : w.next.db = w.db := rfl

@[simp] theorem next_servers (w : World) : w.next.servers = w.servers := rfl

@[simp] theorem next_now (w : World) : w.next.now = w.now := rfl

theorem next_fates (w : World) (n : Nat) : w.next.fates n = w.fates (n + 1) := rfl

theorem Works.next {w : World} (h : w.Works) : w.next.Works := fun n => h (n + 1)

@[simp] theorem modify_db (w : World) (i : ServerId) (f : Server → Server) :
    (w.modify i f).db = w.db := rfl

@[simp] theorem modify_fates (w : World) (i : ServerId) (f : Server → Server) :
    (w.modify i f).fates = w.fates := rfl

@[simp] theorem modify_now (w : World) (i : ServerId) (f : Server → Server) :
    (w.modify i f).now = w.now := rfl

@[simp] theorem modify_self (w : World) (i : ServerId) (f : Server → Server) :
    (w.modify i f).servers i = f (w.servers i) := by simp [modify]

theorem modify_ne (w : World) {i j : ServerId} (h : j ≠ i) (f : Server → Server) :
    (w.modify i f).servers j = w.servers j := by simp [modify, h]

/-- What a change of one server leaves of it, it leaves of all. -/
theorem modify_field {β : Type} (g : Server → β) {w : World} {i : ServerId} {f : Server → Server}
    (hf : g (f (w.servers i)) = g (w.servers i)) (j : ServerId) :
    g ((w.modify i f).servers j) = g (w.servers j) := by
  by_cases hj : j = i
  · subst hj
    rw [modify_self, hf]
  · rw [modify_ne _ hj]

/-- The world when a handler starts: the time of the connection is noted. -/
def noted (w : World) (i : ServerId) (conn : ConnId) : World :=
  w.modify i fun s => { s with connectionLastTime := s.connectionLastTime.insert conn w.now }

theorem Works.modify {w : World} (h : w.Works) (i : ServerId) (f : Server → Server) :
    (w.modify i f).Works := h

@[simp] theorem ask_servers (st : Stmt) (w : World) : (w.ask st).2.servers = w.servers := by
  unfold ask
  split
  · split
    · split <;> rfl
    · rfl
  · rfl

@[simp] theorem ask_now (st : Stmt) (w : World) : (w.ask st).2.now = w.now := by
  unfold ask
  split
  · split
    · split <;> rfl
    · rfl
  · rfl

/-- An answer is what the database answers. -/
theorem ask_cases (st : Stmt) (w : World) :
    ((w.ask st).1 = none ∧ (w.ask st).2.db = w.db) ∨
      ∃ r db, w.db.exec st = some (r, db) ∧ (w.ask st).1 = some r ∧ (w.ask st).2.db = db := by
  unfold ask
  split
  · split
    · cases h : w.db.exec st with
      | none => exact .inl ⟨rfl, rfl⟩
      | some r => exact .inr ⟨r.1, r.2, rfl, rfl, rfl⟩
    · exact .inl ⟨rfl, rfl⟩
  · exact .inl ⟨rfl, rfl⟩

/-- Of a statement that MySQL executes, the answer is there. -/
theorem Works.ask {w : World} (h : w.Works) (st : Stmt) :
    w.ask st = match w.db.exec st with
      | none => (none, w.next.next)
      | some (r, db) => (some r, ⟨db, w.servers, w.next.next.fates, w.now⟩) := by
  rw [World.ask, if_pos (h 0), if_pos (h 1)]

theorem Works.after_ask {w : World} (h : w.Works) (st : Stmt) : (w.ask st).2.Works := by
  rw [h.ask]
  split <;> exact fun n => h (n + 2)

/-- A statement that only reads. -/
theorem ask_db {st : Stmt} (hr : ∀ db, ∃ r, Database.exec db st = some (r, db)) (w : World) :
    (w.ask st).2.db = w.db := by
  rcases w.ask_cases st with ⟨-, h⟩ | ⟨r, db, he, -, h⟩
  · exact h
  · obtain ⟨r', hr'⟩ := hr w.db
    rw [hr'] at he
    cases he
    exact h

/-- Of a read, the answer of the database. -/
theorem Works.ask_read {w : World} (h : w.Works) {st : Stmt} {r : st.Ans}
    (hr : w.db.exec st = some (r, w.db)) : w.ask st = (some r, w.next.next) := by
  rw [h.ask, hr]
  rfl

/-- A world where only outcomes were decided. -/
structure Same (w w' : World) : Prop where
  db : w'.db = w.db
  servers : w'.servers = w.servers
  now : w'.now = w.now
  works : w.Works → w'.Works

theorem Same.refl (w : World) : w.Same w := ⟨rfl, rfl, rfl, id⟩

theorem Same.trans {w₁ w₂ w₃ : World} (h : w₁.Same w₂) (h' : w₂.Same w₃) : w₁.Same w₃ :=
  ⟨h'.db.trans h.db, h'.servers.trans h.servers, h'.now.trans h.now, fun hw => h'.works (h.works hw)⟩

theorem same_next (w : World) : w.Same w.next := ⟨rfl, rfl, rfl, Works.next⟩

theorem same_ask {s : Stmt} (hr : ∀ db, ∃ r, Database.exec db s = some (r, db)) (w : World) :
    w.Same (w.ask s).2 :=
  ⟨ask_db hr w, ask_servers s w, ask_now s w, fun h => h.after_ask s⟩

end World

section Methods

variable {α : Type} {i : ServerId} {w : World}

theorem run_acquire (f : Bool → Serv α) :
    (acquire >>= f).run i w = (f (w.fates 0).ok).run i w.next := rfl

theorem run_sql (st : Stmt) (f : Option st.Ans → Serv α) :
    (sql st >>= f).run i w = if (w.fates 0).ok = true then
        match w.db.exec st with
        | none => (f none).run i w.next
        | some (r, db) => (f (some r)).run i ⟨db, w.servers, w.next.fates, w.now⟩
      else (f none).run i w.next := by
  refine (Prog.run_act (L := chat) i (.sql st) f w).trans ?_
  change (World.exec i (.sql st) w).bind _ = _
  rw [World.exec]
  by_cases h : (w.fates 0).ok = true
  · rw [if_pos h, if_pos h]
    cases w.db.exec st <;> rfl
  · rw [if_neg h, if_neg h]
    rfl

/-- A method: the value without a connection, and what it does with the answer. -/
theorem run_ask {st : Stmt} {d : α} {f : Option st.Ans → Serv α} (hd : f none = .ret d) :
    (acquire >>= fun ok => if (!ok) = true then pure d else sql st >>= f).run i w =
      (f (w.ask st).1).run i (w.ask st).2 := by
  rw [run_acquire]
  by_cases h0 : (w.fates 0).ok = true
  · rw [if_neg (by simp [h0]), run_sql, World.next_fates]
    by_cases h1 : (w.fates 1).ok = true
    · rw [if_pos h1, World.ask, if_pos h0, if_pos h1, World.next_db]
      cases w.db.exec st <;> rfl
    · rw [if_neg h1, World.ask, if_pos h0, if_neg h1]
  · rw [if_pos (by simp [h0]), World.ask, if_neg h0, hd]
    rfl

end Methods

/-- The object `UserModel::query` gives for its answer. -/
def User.found (id : Int) : Option (Option UserRow) → User
  | some (some row) => .ofRow id row
  | _ => {}

/-- The object that a lookup of `id` gives in this world. -/
def World.lookedUp (w : World) (id : Int) : User := User.found id (w.ask (.selectUser id)).1

/-- The objects `FriendModel::query` gives for its answer. -/
def User.friends : Option (List (Int × UserRow)) → List User
  | none => []
  | some rows => rows.map FriendModel.friendOf

/-- The groups of a user, as `GroupModel::queryGroups` gives them. -/
def Database.groupsOf (db : Database) (userid : Int) : List Group :=
  (db.groupRows userid).map fun r =>
    { GroupModel.groupOf r with users := (db.memberRows r.1).map GroupModel.memberOf }

namespace World

/-- The groups with the members that are read, by one statement for each group. -/
def withMembers (w : World) : List Group → List Group
  | [] => []
  | group :: groups =>
    { group with users :=
        (if (w.fates 0).ok then w.db.memberRows group.id else []).map GroupModel.memberOf } ::
      w.next.withMembers groups

/-- The objects `GroupModel::queryGroups` gives. -/
def groupsRead (w : World) (userid : Int) : List Group :=
  (w.ask (.selectGroups userid)).2.withMembers
    (((w.ask (.selectGroups userid)).1.getD []).map GroupModel.groupOf)

theorem Works.withMembers {w : World} (h : w.Works) (groups : List Group) :
    w.withMembers groups = groups.map fun g =>
      { g with users := (w.db.memberRows g.id).map GroupModel.memberOf } := by
  induction groups generalizing w with
  | nil => rfl
  | cons g groups ih => rw [World.withMembers, if_pos (h 0), ih h.next, List.map_cons, next_db]

theorem Works.groupsRead {w : World} (h : w.Works) (userid : Int) :
    w.groupsRead userid = w.db.groupsOf userid := by
  have hs := w.same_ask (s := .selectGroups userid) fun db => ⟨_, rfl⟩
  rw [World.groupsRead, (hs.works h).withMembers, hs.db, h.ask_read rfl, Option.getD_some,
    List.map_map]
  rfl

end World

section Runs

variable (i : ServerId) (w : World)

@[simp] theorem run_query (id : Int) : (UserModel.query id).run i w =
    some (User.found id (w.ask (.selectUser id)).1, (w.ask (.selectUser id)).2) := by
  unfold UserModel.query
  refine (run_ask (by rfl)).trans ?_
  rcases (w.ask (.selectUser id)).1 with _ | _ | row <;> rfl

@[simp] theorem run_updateState (user : User) : (UserModel.updateState user).run i w =
    some ((w.ask (.updateState user.id user.state)).1.isSome,
      (w.ask (.updateState user.id user.state)).2) :=
  run_ask rfl

@[simp] theorem run_resetState : UserModel.resetState.run i w = some ((), (w.ask .resetState).2) :=
  run_ask rfl

@[simp] theorem run_insertFriend (userid friendid : Int) :
    (FriendModel.insert userid friendid).run i w =
      some ((), (w.ask (.insertFriend userid friendid)).2) :=
  run_ask rfl

@[simp] theorem run_friends (userid : Int) : (FriendModel.query userid).run i w =
    some (User.friends (w.ask (.selectFriends userid)).1, (w.ask (.selectFriends userid)).2) := by
  unfold FriendModel.query
  refine (run_ask (by rfl)).trans ?_
  rcases (w.ask (.selectFriends userid)).1 with _ | rows <;> rfl

@[simp] theorem run_addGroup (userid groupid : Int) (role : Role) :
    (GroupModel.addGroup userid groupid role).run i w =
      some ((), (w.ask (.insertGroupUser groupid userid role)).2) :=
  run_ask rfl

@[simp] theorem run_queryGroupUsers (userid groupid : Int) :
    (GroupModel.queryGroupUsers userid groupid).run i w =
      some (((w.ask (.selectGroupUserIds groupid userid)).1).getD [],
        (w.ask (.selectGroupUserIds groupid userid)).2) :=
  run_ask rfl

@[simp] theorem run_insertOffline (userid : Int) (msg : Str) :
    (OfflineMsgModel.insert userid msg).run i w =
      some ((), (w.ask (.insertOffline (OfflineMsgModel.insertSql userid msg))).2) :=
  run_ask rfl

@[simp] theorem run_removeOffline (userid : Int) : (OfflineMsgModel.remove userid).run i w =
    some ((), (w.ask (.deleteOffline userid)).2) :=
  run_ask rfl

@[simp] theorem run_queryOffline (userid : Int) : (OfflineMsgModel.query userid).run i w =
    some (((w.ask (.selectOffline userid)).1.getD []).map cstr,
      (w.ask (.selectOffline userid)).2) :=
  run_ask rfl

theorem run_queryMembers (groups : List Group) : ∃ w',
    (GroupModel.queryMembers groups).run i w = some (w.withMembers groups, w') ∧ w.Same w' := by
  induction groups generalizing w with
  | nil => exact ⟨w, rfl, .refl w⟩
  | cons g groups ih =>
    obtain ⟨w', hr, hs⟩ := ih w.next
    unfold GroupModel.queryMembers World.withMembers
    rw [run_sql]
    by_cases h : (w.fates 0).ok = true
    · rw [if_pos h, if_pos h]
      change ∃ w'', (GroupModel.queryMembers groups >>= _).run i w.next = _ ∧ _
      rw [Prog.run_bind, hr]
      exact ⟨_, rfl, (w.same_next).trans hs⟩
    · rw [if_neg h, if_neg h]
      change ∃ w'', (GroupModel.queryMembers groups >>= _).run i w.next = _ ∧ _
      rw [Prog.run_bind, hr]
      exact ⟨_, rfl, (w.same_next).trans hs⟩

theorem run_queryGroups (userid : Int) : ∃ w',
    (GroupModel.queryGroups userid).run i w = some (w.groupsRead userid, w') ∧ w.Same w' := by
  have ha : (GroupModel.queryGroups userid).run i w = _ := run_ask (by rfl)
  have hs := w.same_ask (s := .selectGroups userid) fun db => ⟨_, rfl⟩
  rw [ha]
  unfold World.groupsRead
  cases (w.ask (.selectGroups userid)).1 with
  | none => exact ⟨_, rfl, hs⟩
  | some rows =>
    obtain ⟨w', hr, hs'⟩ :=
      run_queryMembers i (w.ask (.selectGroups userid)).2 (rows.map GroupModel.groupOf)
    exact ⟨w', hr, hs.trans hs'⟩

/-! ## Single actions -/

@[simp] theorem run_sendJson (conn : ConnId) (js : Json) :
    (sendJson conn js).run i w = some ((), w.modify i (·.deliver conn js)) := rfl

@[simp] theorem run_findConn (id : Int) : (ChatService.findConn id).run i w =
    some ((w.servers i).userConnMap.lookup id, w) := rfl

@[simp] theorem run_publish (ch : Int) (message : Str) : (ChatService.publish ch message).run i w =
    some ((w.servers i).publishContext, if (w.servers i).publishContext then
      { w with servers := fun j => (w.servers j).push ch (cstr message) } else w) := by
  refine (Prog.run_act (L := chat) i (.publish ch message) .ret w).trans ?_
  change (World.exec i (.publish ch message) w).bind _ = _
  rw [World.exec]
  by_cases h : (w.servers i).publishContext = true
  · simp only [h, if_true]; rfl
  · simp only [h]; rfl

@[simp] theorem run_subscribe (ch : Int) : (ChatService.subscribe ch).run i w =
    some ((w.servers i).subscribeContext, w.modify i (·.subscribe ch)) := rfl

@[simp] theorem run_unsubscribe (ch : Int) : (ChatService.unsubscribe ch).run i w =
    some ((w.servers i).subscribeContext, w.modify i (·.unsubscribe ch)) := rfl

@[simp] theorem run_updateConnTime (conn : ConnId) : (ChatService.updateConnTime conn).run i w =
    some ((), w.modify i fun s =>
      { s with connectionLastTime := s.connectionLastTime.insert conn w.now }) := rfl

@[simp] theorem run_forceRelogin (id : Int) (conn : ConnId) :
    (ChatService.forceRelogin id conn).run i w =
      some ((), w.modify i (·.forceRelogin id conn)) := rfl

@[simp] theorem run_mapUser (id : Int) (conn : ConnId) :
    (ChatService.mapUser id conn).run i w =
      some ((), w.modify i fun s => { s with userConnMap := s.userConnMap.insert id conn }) := rfl

@[simp] theorem run_eraseUser (id : Int) :
    (ChatService.eraseUser id).run i w =
      some ((), w.modify i fun s => { s with userConnMap := s.userConnMap.erase id }) := rfl

@[simp] theorem run_eraseLastTime (conn : ConnId) :
    (ChatService.eraseLastTime conn).run i w =
      some ((), w.modify i fun s =>
        { s with connectionLastTime := s.connectionLastTime.erase conn }) := rfl

@[simp] theorem run_routeGroup (ids : List Int) (js : Json) :
    (ChatService.routeGroup ids js).run i w =
      some (ids.filter fun id => ((w.servers i).userConnMap.lookup id).isNone,
        w.modify i fun s => (ids.filterMap (s.userConnMap.lookup ·)).foldl (·.deliver · js) s) :=
  rfl

@[simp] theorem run_splitFriends (ids : List Int) :
    (ChatService.splitFriends ids).run i w =
      some ((ids.filterMap ((w.servers i).userConnMap.lookup ·),
        ids.filter fun id => ((w.servers i).userConnMap.lookup id).isNone), w) := rfl

/-- A body that parses: its request, after the time of the connection was noted. -/
theorem run_handleMsg {P : JsonParser} {msg : Str} {js : Json} (hp : P.parse msg = some js)
    (conn : ConnId) : (ChatService.handleMsg P conn msg).run i w =
      (ChatService.Request.run (ChatService.dispatch conn js)).run i (w.noted i conn) := by
  rw [ChatService.handleMsg, hp]
  rfl

/-- A body is ignored, or its request runs. -/
theorem handleMsg_runs {P : JsonParser} {msg : Str} {conn : ConnId} {w' : World}
    (hr : (ChatService.handleMsg P conn msg).run i w = some ((), w')) :
    P.parse msg = none ∧ w' = w ∨ ∃ js, P.parse msg = some js ∧
      (ChatService.Request.run (ChatService.dispatch conn js)).run i (w.noted i conn) =
        some ((), w') := by
  cases hp : P.parse msg with
  | none =>
    rw [ChatService.handleMsg, hp] at hr
    cases hr
    exact .inl ⟨rfl, rfl⟩
  | some js => exact .inr ⟨js, rfl, (run_handleMsg i w hp conn).symm.trans hr⟩

/-- A close erases an entry of the map, then goes on with the id it found. -/
theorem close_runs {conn : ConnId} {w' : World}
    (hr : (ChatService.clientCloseException conn).run i w = some ((), w')) :
    ∃ r w₁, World.exec i (.eraseConn conn) w = some (r, w₁) ∧
      (ChatService.clientClosed conn (r.elim {} fun id => { id })).run i w₁ = some ((), w') := by
  unfold ChatService.clientCloseException at hr
  obtain ⟨r, w₁, he, hr⟩ := Prog.run_bind_eq_some.mp hr
  refine ⟨r, w₁, (Prog.run_perform (L := chat) i (.eraseConn conn) w).symm.trans he, ?_⟩
  cases r with
  | none => exact hr
  | some id => exact hr

end Runs

end QtChat
