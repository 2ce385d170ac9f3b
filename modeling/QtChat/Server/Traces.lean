import QtChat.Interleave.Pool
import QtChat.Server.Frames

/-!
# Calls of a trace

What single calls say about the state, for proofs about interleavings.

- `storedBy`, `exec_offlineOf`: the messages stored for a user are what the calls stored, as long as
  none removes them.
- **Actions of sessions** (`SessionAct`): those of the logins, logouts and chat messages. They
  change nothing in `User` but the state (`exec_find`, `exec_updateState`) and keep the groups
  (`exec_groupUser`).
- `exec_live`: the subscription of a user, as `SUBSCRIBE` and `UNSUBSCRIBE` write it.
-/

namespace QtChat

open Interleave ChatService

/-- Nothing but the threads changes the world. -/
def calm : World → Option World := fun _ => none

/-- The text that the call stored for `id`. -/
def storedBy (id : Int) : Call chat → List Str
  | ⟨.sql (.insertOffline sql), some _⟩ =>
    match MySQL.readInsert sql with
    | some (userid, message) => if userid = id then [message] else []
    | none => []
  | _ => []

/-- The call read the messages of `id`. -/
def ReadsOffline (id : Int) : Call chat → Prop
  | ⟨.sql (.selectOffline userid), some _⟩ => userid = id
  | _ => False

/-- The call removed the messages of `id`. -/
def RemovesOffline (id : Int) : Call chat → Prop
  | ⟨.sql (.deleteOffline userid), some _⟩ => userid = id
  | _ => False

instance (id : Int) : DecidablePred (ReadsOffline id) := fun c => by
  unfold ReadsOffline; split <;> infer_instance

instance (id : Int) : DecidablePred (RemovesOffline id) := fun c => by
  unfold RemovesOffline; split <;> infer_instance

/-- What is stored for a user by one executed statement. -/
theorem stmt_offlineOf (id : Int) {st : Stmt} {db db' : Database} {ans : st.Ans}
    (h : db.exec st = some (ans, db')) (hd : ∀ userid, st ≠ .deleteOffline userid) :
    db'.offlineOf id = db.offlineOf id ++ storedBy id ⟨.sql st, some ans⟩ := by
  cases st with
  | insertOffline sql =>
    simp only [Database.exec] at h
    split at h
    · cases h
    · rename_i userid message hr
      split at h
      · cases h
        simp only [storedBy, hr, Database.offlineOf, List.filter_append, List.map_append]
        by_cases e : userid = id <;> simp [e]
      · cases h
  | deleteOffline userid => exact absurd rfl (hd userid)
  | _ =>
    have e : db'.offlineMessage = db.offlineMessage := by
      simp only [Database.exec] at h
      grind [Option.map_eq_some_iff]
    simp [Database.offlineOf, e, storedBy]

theorem ReadsOffline.eq {id : Int} {c : Call chat} (h : ReadsOffline id c) :
    ∃ rows, c = ⟨.sql (.selectOffline id), some rows⟩ := by
  unfold ReadsOffline at h
  split at h
  · rename_i rows
    subst h
    exact ⟨rows, rfl⟩
  · exact h.elim

theorem RemovesOffline.act {id : Int} {c : Call chat} (h : RemovesOffline id c) :
    c.act = .sql (.deleteOffline id) := by
  unfold RemovesOffline at h
  split at h
  · subst h; rfl
  · exact h.elim

section Exec

variable {i : ServerId} {a : Act} {w w' : World} {r : a.Res}

/-- An answered statement was executed, another one changes nothing. -/
theorem exec_sql {st : Stmt} {r : Option st.Ans} (h : World.exec i (.sql st) w = some (r, w')) :
    (r = none ∧ w'.db = w.db) ∨ ∃ ans, r = some ans ∧ w.db.exec st = some (ans, w'.db) := by
  rw [World.exec] at h
  split at h
  · split at h
    · cases h; exact .inl ⟨rfl, rfl⟩
    · rename_i ans db he
      cases h
      exact .inr ⟨ans, rfl, he⟩
  · cases h; exact .inl ⟨rfl, rfl⟩

/-- **What is stored** for a user by one call. -/
theorem exec_offlineOf (id : Int) (h : World.exec i a w = some (r, w'))
    (hd : ∀ userid, a ≠ .sql (.deleteOffline userid)) :
    w'.db.offlineOf id = w.db.offlineOf id ++ storedBy id ⟨a, r⟩ := by
  cases a with
  | sql st =>
    rcases exec_sql h with ⟨rfl, e⟩ | ⟨ans, rfl, he⟩
    · rw [e]
      cases st <;> simp [storedBy]
    · exact stmt_offlineOf id he fun userid e => hd userid (by rw [e])
  | _ =>
    have e : w'.db = w.db := by
      rcases exec_db h with e | ⟨st, ans, e, -⟩
      · exact e
      · cases e
    rw [e]
    simp [storedBy]

end Exec

/-! ## Rows of users -/

/-- The statements that add or rename no user, friend or group. -/
def SessionStmt : Stmt → Prop
  | .insertUser .. => False
  | .updateName .. => False
  | .resetState => False
  | .insertFriend .. => False
  | .insertGroup .. => False
  | .insertGroupUser .. => False
  | _ => True

/-- The actions of logins, logouts and chat messages. -/
def SessionAct : Act → Prop
  | .sql st => SessionStmt st
  | _ => True

theorem sessionAct_of_login {conn : ConnId} {id : Int} {a : Act} (h : LoginAct conn id a) :
    SessionAct a := by
  cases a with
  | sql st => cases st <;> simp_all [LoginAct, SessionAct, SessionStmt]
  | _ => trivial

theorem sessionAct_of_logout {conn : ConnId} {id : Int} {a : Act} (h : LogoutAct conn id a) :
    SessionAct a := by
  cases a with
  | sql st => cases st <;> simp_all [LogoutAct, SessionAct, SessionStmt]
  | _ => trivial

theorem sessionAct_of_chat {a : Act} (h : ChatAct a) : SessionAct a := by
  cases a with
  | sql st => cases st <;> simp_all [ChatAct, SessionAct, SessionStmt]
  | _ => trivial

theorem clientCloseException_all (conn : ConnId) :
    (clientCloseException conn).All fun a : Act => a = .eraseConn conn ∨ ∃ id, LogoutAct conn id a := by
  refine Prog.All.bind (p := eraseConn _) ⟨.inl rfl, fun _ => trivial⟩ fun r => ?_
  rcases r with _ | id
  · exact (clientClosed_all conn {}).mono fun a ha => .inr ⟨_, ha⟩
  · exact (clientClosed_all conn { id }).mono fun a ha => .inr ⟨_, ha⟩

section Rows

variable {u : Int} {i : ServerId} {a : Act} {w w' : World} {r : a.Res}

theorem stmt_groupUser {st : Stmt} {db db' : Database} {ans : st.Ans} (hs : SessionStmt st)
    (h : db.exec st = some (ans, db')) : db'.groupUser = db.groupUser := by
  cases st with
  | insertOffline sql =>
    simp only [Database.exec] at h
    split at h
    · cases h
    · split at h <;> cases h
      rfl
  | _ => first | exact hs.elim | (cases h; rfl)

theorem stmt_find {st : Stmt} {db db' : Database} {ans : st.Ans} (hs : SessionStmt st)
    (hu : ∀ state, st ≠ .updateState u state) (h : db.exec st = some (ans, db')) :
    db'.user.find u = db.user.find u := by
  cases st with
  | insertOffline sql =>
    simp only [Database.exec] at h
    split at h
    · cases h
    · split at h <;> cases h
      rfl
  | updateState id state =>
    cases h
    exact Relational.Table.find_update_ne _ fun e => hu state (by rw [e])
  | _ => first | exact hs.elim | (cases h; rfl)

theorem stmt_hasUser {st : Stmt} {db db' : Database} {ans : st.Ans} (hs : SessionStmt st)
    (h : db.exec st = some (ans, db')) : db'.hasUser u = db.hasUser u := by
  by_cases hu : ∃ state, st = .updateState u state
  · obtain ⟨state, rfl⟩ := hu
    cases h
    simp [Database.hasUser, Relational.Table.find_update]
  · rw [Database.hasUser, stmt_find hs (fun state e => hu ⟨state, e⟩) h, Database.hasUser]

theorem exec_hasUser (ha : SessionAct a) (h : World.exec i a w = some (r, w')) :
    w'.db.hasUser u = w.db.hasUser u := by
  rcases exec_db h with e | ⟨st, ans, rfl, he⟩
  · rw [e]
  · exact stmt_hasUser ha he

theorem exec_groupUser (ha : SessionAct a) (h : World.exec i a w = some (r, w')) :
    w'.db.groupUser = w.db.groupUser := by
  rcases exec_db h with e | ⟨st, ans, rfl, he⟩
  · rw [e]
  · exact stmt_groupUser ha he

/-- The row of `u` changes by an update of its state only. -/
theorem exec_find (ha : SessionAct a) (hu : ∀ state, a ≠ .sql (.updateState u state))
    (h : World.exec i a w = some (r, w')) : w'.db.user.find u = w.db.user.find u := by
  rcases exec_db h with e | ⟨st, ans, rfl, he⟩
  · rw [e]
  · exact stmt_find ha (fun state e => hu state (by rw [e])) he

/-- An update of the state, when MySQL works. -/
theorem exec_updateState {state : UserState} {r : Option (Stmt.Ans (.updateState u state))}
    (hw : w.Works) (h : World.exec i (.sql (.updateState u state)) w = some (r, w')) :
    w'.db.user.find u = (w.db.user.find u).map fun row => { row with state } := by
  rw [World.exec, if_pos (hw 0)] at h
  cases h
  simp [Relational.Table.find_update]

end Rows

/-! ## Subscriptions -/

/-- The action subscribes the channel. -/
def Subscribes (u : Int) : Act → Prop
  | .subscribe ch => ch = u
  | .forceRelogin id _ => id = u
  | _ => False

/-- The two connections to Redis are there as before. -/
def SameContexts (s s' : Server) : Prop :=
  s'.publishContext = s.publishContext ∧ s'.subscribeContext = s.subscribeContext

theorem Server.SameRest.contexts {s s' : Server} (h : s.SameRest s') : SameContexts s s' :=
  ⟨h.publishContext, h.subscribeContext⟩

/-- No action loses a connection to Redis. -/
theorem ServerStep.contexts {a : Act} {s s' : Server} (h : ServerStep a s s') :
    SameContexts s s' := by
  cases h with
  | shutdown => exact (s.shutdownConn_rest _).contexts
  | publish => unfold Server.push; split <;> exact ⟨rfl, rfl⟩
  | subscribe => exact (s.subscribe_rest _).contexts
  | unsubscribe => exact (s.unsubscribe_rest _).contexts
  | forceRelogin => exact (s.forceRelogin_rest _ _).contexts
  | routeGroup => rw [Server.foldl_deliver]; exact ⟨rfl, rfl⟩
  | _ => exact ⟨rfl, rfl⟩

/-- Only `SUBSCRIBE` and `UNSUBSCRIBE` change a subscription. -/
theorem ServerStep.live {u : Int} {a : Act} {s s' : Server} (h : ServerStep a s s')
    (hs : ¬Subscribes u a) (hu : a ≠ .unsubscribe u) : s'.live u = s.live u := by
  cases h with
  | shutdown => unfold Server.shutdownConn; split <;> rfl
  | publish => unfold Server.push; split <;> rfl
  | subscribe _ ch => rw [(s.subscribe_channel ch u).2.1, if_neg fun e => hs e.1.symm]
  | unsubscribe _ ch =>
    rw [(s.unsubscribe_channel ch u).2.1, if_neg fun e => hu (by rw [e.1])]
  | forceRelogin _ id conn => rw [(s.forceRelogin_spec id conn u).2.1, if_neg fun e => hs e.1.symm]
  | routeGroup => rw [Server.foldl_deliver]
  | _ => rfl

/-- What is subscribed stays so until an `UNSUBSCRIBE`. -/
theorem ServerStep.stays_live {u : Int} {a : Act} {s s' : Server} (h : ServerStep a s s')
    (hu : a ≠ .unsubscribe u) (hl : s.live u = true) : s'.live u = true := by
  by_cases hs : Subscribes u a
  · cases h with
    | keep => exact hl
    | subscribe _ ch => rw [(s.subscribe_channel ch u).2.1, hl, ite_self]
    | forceRelogin _ id conn => rw [(s.forceRelogin_spec id conn u).2.1, hl, ite_self]
    | _ => exact hs.elim
  · rw [h.live hs hu, hl]

/-- What is not subscribed stays so until a `SUBSCRIBE`. -/
theorem ServerStep.stays_unsubscribed {u : Int} {a : Act} {s s' : Server} (h : ServerStep a s s')
    (hs : ¬Subscribes u a) (hl : s.live u = false) : s'.live u = false := by
  by_cases hu : a = .unsubscribe u
  · subst hu
    cases h with
    | keep => exact hl
    | unsubscribe => rw [(s.unsubscribe_channel u u).2.1, hl, ite_self]
  · rw [h.live hs hu, hl]

/-- The action unsubscribes the channel. -/
def Unsubscribes (u : Int) : Act → Prop
  | .unsubscribe ch => ch = u
  | _ => False

instance (u : Int) : DecidablePred (Subscribes u) := fun a => by
  unfold Subscribes; split <;> infer_instance

instance (u : Int) : DecidablePred (Unsubscribes u) := fun a => by
  unfold Unsubscribes; split <;> infer_instance

theorem Unsubscribes.eq {u : Int} {a : Act} (h : Unsubscribes u a) : a = .unsubscribe u := by
  cases a with
  | unsubscribe ch => rw [show ch = u from h]
  | _ => exact h.elim

/-- The subscription of `u` after an action of a server with its connection to Redis. -/
theorem exec_live {u : Int} {i : ServerId} {a : Act} {w w' : World} {r : a.Res}
    (hc : (w.servers i).subscribeContext = true) (h : World.exec i a w = some (r, w')) :
    (Subscribes u a → (w'.servers i).live u = true) ∧
      (Unsubscribes u a → (w'.servers i).live u = false) ∧
      (¬Subscribes u a → ¬Unsubscribes u a → (w'.servers i).live u = (w.servers i).live u) := by
  refine ⟨fun hs => ?_, fun hu => ?_, fun hs hu => ?_⟩
  · cases a with
    | subscribe ch =>
      cases h
      cases hs
      rw [World.modify_self, ((w.servers i).subscribe_channel _ _).2.1, if_pos ⟨rfl, hc⟩]
    | forceRelogin id conn =>
      cases h
      cases hs
      rw [World.modify_self, ((w.servers i).forceRelogin_spec _ conn _).2.1, if_pos ⟨rfl, hc⟩]
    | _ => exact hs.elim
  · cases hu.eq
    cases h
    rw [World.modify_self, ((w.servers i).unsubscribe_channel _ _).2.1, if_pos ⟨rfl, hc⟩]
  · refine (exec_server h i).live hs ?_
    rintro rfl
    exact hu rfl

/-! ## Inboxes -/

/-- Actions only add to what Redis has pushed. -/
theorem ServerStep.inbox {a : Act} {s s' : Server} (h : ServerStep a s s') : s.inbox ⊆ s'.inbox := by
  cases h with
  | shutdown => rw [(s.shutdownConn_rest _).inbox]; exact fun _ h => h
  | publish =>
    unfold Server.push
    split
    · exact fun _ h => List.mem_append_left _ h
    · exact fun _ h => h
  | subscribe => rw [(s.subscribe_rest _).inbox]; exact fun _ h => h
  | unsubscribe => rw [(s.unsubscribe_rest _).inbox]; exact fun _ h => h
  | forceRelogin => rw [(s.forceRelogin_rest _ _).inbox]; exact fun _ h => h
  | routeGroup => rw [Server.foldl_deliver]; exact fun _ h => h
  | _ => exact fun _ h => h

theorem run_inbox {α : Type} {i : ServerId} {p : Serv α} {w w' : World} {x : α}
    (h : p.run i w = some (x, w')) (j : ServerId) : (w.servers j).inbox ⊆ (w'.servers j).inbox :=
  p.all_true.run_rel (L := chat) (R := fun w w' : World =>
    (w.servers j).inbox ⊆ (w'.servers j).inbox) (fun _ _ h => h)
    (fun _ _ _ h h' _ hm => h' (h hm)) (fun _ _ _ _ _ he => (exec_server he j).inbox) h

/-! ## Entries -/

/-- The sections that write `_userConnMap`. -/
def WritesMap : Act → Prop
  | .forceRelogin .. => True
  | .mapUser .. => True
  | .eraseUser _ => True
  | .eraseConn _ => True
  | _ => False

theorem ServerStep.map {a : Act} {s s' : Server} (h : ServerStep a s s') (ha : ¬WritesMap a) :
    s'.userConnMap = s.userConnMap := by
  cases h with
  | shutdown => unfold Server.shutdownConn; split <;> rfl
  | publish => unfold Server.push; split <;> rfl
  | subscribe => unfold Server.subscribe; split <;> rfl
  | unsubscribe => unfold Server.unsubscribe; split <;> rfl
  | routeGroup => rw [Server.foldl_deliver]
  | forceRelogin => exact absurd trivial ha
  | mapUser => exact absurd trivial ha
  | eraseUser => exact absurd trivial ha
  | eraseConn => exact absurd trivial ha
  | _ => rfl

/-- The section enters `conn` for `id`. -/
def Enters (id : Int) (conn : ConnId) : Act → Prop
  | .mapUser id' conn' => id' = id ∧ conn' = conn
  | .forceRelogin id' conn' => id' = id ∧ conn' = conn
  | _ => False

instance (id : Int) (conn : ConnId) : DecidablePred (Enters id conn) := fun a => by
  unfold Enters; split <;> infer_instance

/-- Only the sections of a login make entries. -/
theorem ServerStep.entry {a : Act} {s s' : Server} (h : ServerStep a s s') {u : Int} {conn : ConnId}
    (ha : ∀ conn, ¬Enters u conn a) (hl : s'.userConnMap.lookup u = some conn) :
    s.userConnMap.lookup u = some conn := by
  have herase : ∀ id, (s.userConnMap.erase id).lookup u = some conn →
      s.userConnMap.lookup u = some conn := by
    intro id he
    by_cases e : u = id
    · rw [e, AList.lookup_erase] at he
      cases he
    · rwa [AList.lookup_erase_ne e] at he
  by_cases hm : WritesMap a
  · cases h with
    | keep => exact hl
    | forceRelogin _ id conn' =>
      have hne : u ≠ id := fun e => ha conn' ⟨e.symm, rfl⟩
      rwa [(s.forceRelogin_spec id conn' u).1, if_neg hne] at hl
    | mapUser _ id conn' =>
      have hne : u ≠ id := fun e => ha conn' ⟨e.symm, rfl⟩
      rwa [AList.lookup_insert_ne hne] at hl
    | eraseUser _ id => exact herase id hl
    | eraseConn _ conn id => exact herase id hl
    | _ => exact hm.elim
  · rwa [h.map hm] at hl

theorem Server.mem_entriesOf {s : Server} {conn : ConnId} {id : Int} :
    id ∈ s.entriesOf conn ↔ s.userConnMap.lookup id = some conn := by
  unfold entriesOf
  rw [List.mem_map]
  constructor
  · rintro ⟨⟨id', conn'⟩, hm, rfl⟩
    obtain ⟨hmem, hc⟩ := List.mem_filter.mp hm
    obtain rfl : conn' = conn := of_decide_eq_true hc
    exact AList.mem_lookup_iff.mpr hmem
  · intro hl
    exact ⟨⟨id, conn⟩, List.mem_filter.mpr ⟨AList.mem_lookup_iff.mp hl, decide_eq_true rfl⟩, rfl⟩

theorem Server.lookup_of_firstOf {s : Server} {conn : ConnId} {pick : Nat} {id : Int}
    (h : s.firstOf conn pick = some id) : s.userConnMap.lookup id = some conn :=
  mem_entriesOf.mp (List.mem_of_getElem? h)

/-- A connection that no loop finds has no entry. -/
theorem Server.not_lookup_of_firstOf {s : Server} {conn : ConnId} {pick : Nat}
    (h : s.firstOf conn pick = none) (id : Int) : s.userConnMap.lookup id ≠ some conn := by
  intro hl
  have hpos := List.length_pos_of_mem (mem_entriesOf.mpr hl)
  have hlt : pick % (s.entriesOf conn).length < (s.entriesOf conn).length := Nat.mod_lt _ hpos
  rw [firstOf, List.getElem?_eq_getElem hlt] at h
  cases h

/-- The close of a connection leaves the entries with another one. -/
theorem exec_eraseConn {i : ServerId} {conn : ConnId} {w w' : World} {r : Option Int}
    (h : World.exec i (.eraseConn conn) w = some (r, w')) (u : Int) :
    (w'.servers i).userConnMap.lookup u = (w.servers i).userConnMap.lookup u ∨
      (w.servers i).userConnMap.lookup u = some conn ∧
        (w'.servers i).userConnMap.lookup u = none := by
  rw [World.exec] at h
  split at h
  · cases h; exact .inl rfl
  · rename_i id hf
    cases h
    rw [World.modify_self]
    by_cases e : u = id
    · subst e
      exact .inr ⟨Server.lookup_of_firstOf hf, AList.lookup_erase _ _⟩
    · exact .inl (AList.lookup_erase_ne e)

end QtChat
