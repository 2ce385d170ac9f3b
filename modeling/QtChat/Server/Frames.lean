import QtChat.Server.Actions

/-!
# What one action changes

- `exec_server`: what an action does to the state of a server, one case for each kind of action
  (`ServerStep`); packets stay given to `send` (`ServerStep.outbox`).
- `exec_db`: the database changes by statements only.
- **Sessions** (`SameSession`): the entry of a user in `_userConnMap`, the subscription, and the state
  in the user's row change only by the actions that name the user (`exec_session`).
-/

namespace QtChat

open Interleave ChatService

/-- What an action does to the state of a server. -/
inductive ServerStep : Act → Server → Server → Prop
  | keep (a : Act) (s : Server) : ServerStep a s s
  | send (s : Server) (conn : ConnId) (js : Json) :
      ServerStep (.send conn js) s (s.deliver conn js)
  | shutdown (s : Server) (conn : ConnId) : ServerStep (.shutdown conn) s (s.shutdownConn conn)
  | publish (s : Server) (ch : Int) (message : Str) :
      ServerStep (.publish ch message) s (s.push ch (cstr message))
  | subscribe (s : Server) (ch : Int) : ServerStep (.subscribe ch) s (s.subscribe ch)
  | unsubscribe (s : Server) (ch : Int) : ServerStep (.unsubscribe ch) s (s.unsubscribe ch)
  | forceRelogin (s : Server) (id : Int) (conn : ConnId) :
      ServerStep (.forceRelogin id conn) s (s.forceRelogin id conn)
  | mapUser (s : Server) (id : Int) (conn : ConnId) :
      ServerStep (.mapUser id conn) s { s with userConnMap := s.userConnMap.insert id conn }
  | eraseUser (s : Server) (id : Int) :
      ServerStep (.eraseUser id) s { s with userConnMap := s.userConnMap.erase id }
  | eraseConn (s : Server) (conn : ConnId) (id : Int) :
      ServerStep (.eraseConn conn) s { s with userConnMap := s.userConnMap.erase id }
  | eraseLastTime (s : Server) (conn : ConnId) : ServerStep (.eraseLastTime conn) s
      { s with connectionLastTime := s.connectionLastTime.erase conn }
  | updateConnTime (s : Server) (conn : ConnId) (t : Int) : ServerStep (.updateConnTime conn) s
      { s with connectionLastTime := s.connectionLastTime.insert conn t }
  | routeGroup (s : Server) (ids : List Int) (js : Json) : ServerStep (.routeGroup ids js) s
      ((ids.filterMap (s.userConnMap.lookup ·)).foldl (·.deliver · js) s)

section Exec

variable {i : ServerId} {a : Act} {w w' : World} {r : a.Res}

theorem ServerStep.modify {f : Server → Server} (h : ServerStep a (w.servers i) (f (w.servers i)))
    (j : ServerId) : ServerStep a (w.servers j) ((w.modify i f).servers j) := by
  by_cases hj : j = i
  · subst hj; rw [World.modify_self]; exact h
  · rw [w.modify_ne hj]; exact .keep a _

/-- **What an action does to a server.** -/
theorem exec_server (h : World.exec i a w = some (r, w')) (j : ServerId) :
    ServerStep a (w.servers j) (w'.servers j) := by
  cases a with
  | sql st =>
    rw [World.exec] at h
    split at h
    · split at h <;> cases h <;> exact .keep _ _
    · cases h; exact .keep _ _
  | publish ch message =>
    rw [World.exec] at h
    split at h
    · cases h; exact .publish _ ch message
    · cases h; exact .keep _ _
  | eraseConn conn =>
    rw [World.exec] at h
    split at h
    · cases h; exact .keep _ _
    · cases h; exact ServerStep.modify (w := w.next) (.eraseConn _ conn _) j
  | send conn js => cases h; exact ServerStep.modify (.send _ conn js) j
  | shutdown conn => cases h; exact ServerStep.modify (.shutdown _ conn) j
  | subscribe ch => cases h; exact ServerStep.modify (.subscribe _ ch) j
  | unsubscribe ch => cases h; exact ServerStep.modify (.unsubscribe _ ch) j
  | forceRelogin id conn => cases h; exact ServerStep.modify (.forceRelogin _ id conn) j
  | mapUser id conn => cases h; exact ServerStep.modify (.mapUser _ id conn) j
  | eraseUser id => cases h; exact ServerStep.modify (.eraseUser _ id) j
  | eraseLastTime conn => cases h; exact ServerStep.modify (.eraseLastTime _ conn) j
  | routeGroup ids js => cases h; exact ServerStep.modify (.routeGroup _ ids js) j
  | updateConnTime conn => cases h; exact ServerStep.modify (.updateConnTime _ conn w.now) j
  | halt why => cases h
  | _ => cases h; exact .keep _ _

/-- Only `halt` has no way to go on. -/
theorem exec_isSome (i : ServerId) {a : Act} (h : ∀ why, a ≠ .halt why) (w : World) :
    (World.exec i a w).isSome := by
  cases a with
  | sql st =>
    rw [World.exec]
    split
    · split <;> rfl
    · rfl
  | publish ch message => rw [World.exec]; split <;> rfl
  | eraseConn conn => rw [World.exec]; split <;> rfl
  | halt why => exact absurd rfl (h why)
  | _ => rfl

/-- The database changes by statements only. -/
theorem exec_db (h : World.exec i a w = some (r, w')) :
    w'.db = w.db ∨ ∃ st ans, a = .sql st ∧ w.db.exec st = some (ans, w'.db) := by
  cases a with
  | sql st =>
    rw [World.exec] at h
    split at h
    · split at h
      · cases h; exact .inl rfl
      · rename_i ans db he
        cases h
        exact .inr ⟨st, ans, rfl, he⟩
    · cases h; exact .inl rfl
  | publish ch message => rw [World.exec] at h; split at h <;> cases h <;> exact .inl rfl
  | eraseConn conn => rw [World.exec] at h; split at h <;> cases h <;> exact .inl rfl
  | halt why => cases h
  | _ => cases h; exact .inl rfl

theorem exec_works (hw : w.Works) (h : World.exec i a w = some (r, w')) : w'.Works := by
  cases a with
  | acquire => cases h; exact hw.next
  | sql st =>
    rw [World.exec] at h
    split at h
    · split at h <;> cases h <;> exact hw.next
    · cases h; exact hw.next
  | publish ch message => rw [World.exec] at h; split at h <;> cases h <;> exact hw
  | eraseConn conn => rw [World.exec] at h; split at h <;> cases h <;> exact hw.next
  | halt why => cases h
  | _ => cases h; exact hw

end Exec

/-! ## Packets -/

theorem Server.foldl_deliver (js : Json) (conns : List ConnId) (s : Server) :
    conns.foldl (·.deliver · js) s =
      { s with outbox := s.outbox ++ conns.map fun c => ⟨c, js, s.conns c = .connected⟩ } := by
  induction conns generalizing s with
  | nil => simp
  | cons c conns ih =>
    rw [List.foldl_cons, ih]
    simp only [deliver, List.append_assoc, List.map_cons, List.cons_append, List.nil_append]
    rfl

/-- All but the entries, the states of the connections and the channels is as it was. -/
structure Server.SameRest (s s' : Server) : Prop where
  running : s'.running = s.running
  connectionLastTime : s'.connectionLastTime = s.connectionLastTime
  publishContext : s'.publishContext = s.publishContext
  subscribeContext : s'.subscribeContext = s.subscribeContext
  inbox : s'.inbox = s.inbox
  outbox : s'.outbox = s.outbox

theorem Server.SameRest.refl (s : Server) : s.SameRest s := ⟨rfl, rfl, rfl, rfl, rfl, rfl⟩

theorem Server.SameRest.trans {s₁ s₂ s₃ : Server} (h : s₁.SameRest s₂) (h' : s₂.SameRest s₃) :
    s₁.SameRest s₃ where
  running := h'.running.trans h.running
  connectionLastTime := h'.connectionLastTime.trans h.connectionLastTime
  publishContext := h'.publishContext.trans h.publishContext
  subscribeContext := h'.subscribeContext.trans h.subscribeContext
  inbox := h'.inbox.trans h.inbox
  outbox := h'.outbox.trans h.outbox

theorem Server.subscribe_rest (s : Server) (ch : Int) : s.SameRest (s.subscribe ch) := by
  unfold subscribe
  split
  · exact ⟨rfl, rfl, rfl, rfl, rfl, rfl⟩
  · exact .refl s

theorem Server.unsubscribe_rest (s : Server) (ch : Int) : s.SameRest (s.unsubscribe ch) := by
  unfold unsubscribe
  split
  · exact ⟨rfl, rfl, rfl, rfl, rfl, rfl⟩
  · exact .refl s

theorem Server.shutdownConn_rest (s : Server) (conn : ConnId) : s.SameRest (s.shutdownConn conn) := by
  unfold shutdownConn
  split
  · exact ⟨rfl, rfl, rfl, rfl, rfl, rfl⟩
  · exact .refl s

/-- The server with the new entry, before the channel is subscribed again. -/
def Server.takeOver (s : Server) (id : Int) (conn : ConnId) : Server :=
  let s := match s.userConnMap.lookup id with
    | none => s
    | some old => { s.shutdownConn old with userConnMap := s.userConnMap.erase id }
  { s with userConnMap := s.userConnMap.insert id conn }

theorem Server.forceRelogin_eq (s : Server) (id : Int) (conn : ConnId) :
    s.forceRelogin id conn = ((s.takeOver id conn).unsubscribe id).subscribe id := rfl

theorem Server.forceRelogin_rest (s : Server) (id : Int) (conn : ConnId) :
    s.SameRest (s.forceRelogin id conn) := by
  have ht : s.SameRest (s.takeOver id conn) := by
    unfold takeOver
    split
    · exact ⟨rfl, rfl, rfl, rfl, rfl, rfl⟩
    · exact (s.shutdownConn_rest _).trans ⟨rfl, rfl, rfl, rfl, rfl, rfl⟩
  rw [forceRelogin_eq]
  exact ht.trans ((unsubscribe_rest _ id).trans (subscribe_rest _ id))

@[simp] theorem Server.unsubscribe_outbox (s : Server) (ch : Int) :
    (s.unsubscribe ch).outbox = s.outbox := (s.unsubscribe_rest ch).outbox

@[simp] theorem Server.subscribe_outbox (s : Server) (ch : Int) :
    (s.subscribe ch).outbox = s.outbox := (s.subscribe_rest ch).outbox

@[simp] theorem Server.shutdownConn_outbox (s : Server) (conn : ConnId) :
    (s.shutdownConn conn).outbox = s.outbox := (s.shutdownConn_rest conn).outbox

@[simp] theorem Server.push_outbox (s : Server) (ch : Int) (message : Str) :
    (s.push ch message).outbox = s.outbox := by unfold push; split <;> rfl

@[simp] theorem Server.forceRelogin_outbox (s : Server) (id : Int) (conn : ConnId) :
    (s.forceRelogin id conn).outbox = s.outbox := (s.forceRelogin_rest id conn).outbox

/-- Packets are only added, and of the action's own value. -/
theorem ServerStep.outbox {a : Act} {s s' : Server} (h : ServerStep a s s') :
    ∃ ds, s'.outbox = s.outbox ++ ds ∧
      ∀ d ∈ ds, a = .send d.conn d.js ∨ ∃ ids, a = .routeGroup ids d.js := by
  cases h with
  | send _ conn js => exact ⟨_, rfl, by simp⟩
  | routeGroup _ ids js =>
    rw [Server.foldl_deliver]
    refine ⟨_, rfl, fun d hd => ?_⟩
    obtain ⟨c, -, rfl⟩ := List.mem_map.mp hd
    exact .inr ⟨ids, rfl⟩
  | _ => exact ⟨[], by simp, by simp⟩

/-- The packets that a run gave to `send` on a server. -/
def sentIn (j : ServerId) (w w' : World) : List Delivery :=
  (w'.servers j).outbox.drop (w.servers j).outbox.length

/-- What a run adds to the packets satisfies what all its actions allow. -/
theorem run_outbox {A : Act → Prop} {Q : Json → Prop} {α : Type} {i : ServerId} {p : Serv α}
    {w w' : World} {x : α} (hp : p.All A) (hsend : ∀ conn js, A (.send conn js) → Q js)
    (hroute : ∀ ids js, A (.routeGroup ids js) → Q js) (h : p.run i w = some (x, w'))
    (j : ServerId) : ∃ ds, (w'.servers j).outbox = (w.servers j).outbox ++ ds ∧ ∀ d ∈ ds, Q d.js := by
  refine hp.run_rel (L := chat) (R := fun w w' => ∃ ds,
    (w'.servers j).outbox = (w.servers j).outbox ++ ds ∧ ∀ d ∈ ds, Q d.js)
    (fun w => ⟨[], by simp, by simp⟩) ?_ ?_ h
  · rintro w₁ w₂ w₃ ⟨ds, h₁, hd⟩ ⟨es, h₂, he⟩
    refine ⟨ds ++ es, by rw [h₂, h₁, List.append_assoc], fun d hm => ?_⟩
    rcases List.mem_append.mp hm with hm | hm
    · exact hd d hm
    · exact he d hm
  · intro a w r w' ha he
    obtain ⟨ds, h₁, hd⟩ := (exec_server he j).outbox
    refine ⟨ds, h₁, fun d hm => ?_⟩
    rcases hd d hm with e | ⟨ids, e⟩
    · subst e; exact hsend _ _ ha
    · subst e; exact hroute _ _ ha

/-- Packets stay. -/
theorem run_sent {α : Type} {i : ServerId} {p : Serv α} {w w' : World} {x : α}
    (h : p.run i w = some (x, w')) (j : ServerId) :
    (w'.servers j).outbox = (w.servers j).outbox ++ sentIn j w w' := by
  obtain ⟨ds, hd, -⟩ := run_outbox (Q := fun _ => True) p.all_true
    (fun _ _ _ => trivial) (fun _ _ _ => trivial) h j
  rw [sentIn, hd, List.drop_left]

/-- A run whose statements only read keeps the database. -/
theorem run_db {A : Act → Prop} {α : Type} {i : ServerId} {p : Serv α} {w w' : World} {x : α}
    (hp : p.All A) (hA : ∀ st, A (.sql st) → ∀ db, ∃ r, Database.exec db st = some (r, db))
    (h : p.run i w = some (x, w')) : w'.db = w.db := by
  refine hp.run_rel (L := chat) (R := fun w w' : World => w'.db = w.db) (fun _ => rfl)
    (fun _ _ _ h h' => h'.trans h) (fun a w r w' ha he => ?_) h
  rcases exec_db he with e | ⟨st, ans, rfl, hx⟩
  · exact e
  · obtain ⟨r', hr'⟩ := hA st ha w.db
    rw [hr', Option.some.injEq, Prod.mk.injEq] at hx
    exact hx.2.symm

theorem run_notify_db {i : ServerId} {userid : Int} {state : UserState} {w w' : World} {x : Unit}
    (h : (notifyFriendState userid state).run i w = some (x, w')) : w'.db = w.db := by
  refine run_db (notifyFriendState_all userid state) (fun st hs db => ?_) h
  rw [show st = .selectFriends userid from hs]
  exact ⟨_, rfl⟩

/-! ## Sessions -/

/-- The session of a user is as it was: on every server the entry and the subscription, and the
state in the user's row. -/
structure SameSession (u : Int) (w w' : World) : Prop where
  entry : ∀ j, (w'.servers j).userConnMap.lookup u = (w.servers j).userConnMap.lookup u
  live : ∀ j, (w'.servers j).live u = (w.servers j).live u
  channel : ∀ j, (w'.servers j).subscribedChannels u = (w.servers j).subscribedChannels u
  state : ∀ st, w.db.stateOf u = some st → w'.db.stateOf u = some st

theorem SameSession.refl (u : Int) (w : World) : SameSession u w w :=
  ⟨fun _ => rfl, fun _ => rfl, fun _ => rfl, fun _ => id⟩

theorem SameSession.trans {u : Int} {w₁ w₂ w₃ : World} (h : SameSession u w₁ w₂)
    (h' : SameSession u w₂ w₃) : SameSession u w₁ w₃ :=
  ⟨fun j => (h'.entry j).trans (h.entry j), fun j => (h'.live j).trans (h.live j),
    fun j => (h'.channel j).trans (h.channel j), fun st hs => h'.state st (h.state st hs)⟩

/-- The statements that can change the state of `u`. -/
def TouchesState (u : Int) : Stmt → Prop
  | .updateState id _ => id = u
  | .resetState => True
  | _ => False

/-- The actions that can change the session of `u`. -/
def TouchesSession (u : Int) : Act → Prop
  | .sql st => TouchesState u st
  | .subscribe ch => ch = u
  | .unsubscribe ch => ch = u
  | .forceRelogin id _ => id = u
  | .mapUser id _ => id = u
  | .eraseUser id => id = u
  | .eraseConn _ => True
  | _ => False

theorem exec_stateOf {u : Int} {st : Stmt} {db db' : Database} {ans : st.Ans}
    (hu : ¬TouchesState u st) (h : db.exec st = some (ans, db')) {state : UserState}
    (hs : db.stateOf u = some state) : db'.stateOf u = some state := by
  cases st with
  | insertUser name password s =>
    simp only [Database.exec] at h
    split at h
    · obtain ⟨t, ht, he⟩ := Option.map_eq_some_iff.mp h
      cases he
      simp only [Database.stateOf] at hs ⊢
      rw [Relational.Table.find_insert ht]
      split
      · rename_i hn
        have hf : (db.user.find u).isSome := by
          cases hf : db.user.find u with
          | none => rw [hf] at hs; cases hs
          | some row => rfl
        rw [hn, ← Relational.Table.insert_eq_none (v := ⟨name, password, s⟩), ht] at hf
        cases hf
      · exact hs
    · cases h
  | updateState id s =>
    simp only [Database.exec] at h
    cases h
    simp only [Database.stateOf] at hs ⊢
    rwa [Relational.Table.find_update_ne _ fun e => hu e.symm]
  | updateName id name =>
    simp only [Database.exec] at h
    split at h
    · cases h; exact hs
    · split at h
      · cases h
        simp only [Database.stateOf] at hs ⊢
        rw [Relational.Table.find_update]
        split
        · rename_i e
          rw [← e, Option.map_map]
          exact hs
        · exact hs
      · cases h
  | resetState => exact absurd trivial hu
  | insertFriend userid friendid =>
    simp only [Database.exec] at h
    cases h
    split <;> exact hs
  | insertGroup name desc =>
    simp only [Database.exec] at h
    split at h
    · obtain ⟨t, ht, he⟩ := Option.map_eq_some_iff.mp h
      cases he; exact hs
    · cases h
  | insertGroupUser groupid userid role =>
    simp only [Database.exec] at h
    split at h
    · obtain ⟨t, ht, he⟩ := Option.map_eq_some_iff.mp h
      cases he; exact hs
    · cases h
  | insertOffline sql =>
    simp only [Database.exec] at h
    split at h
    · cases h
    · split at h
      · cases h; exact hs
      · cases h
  | _ => cases h; exact hs

theorem Server.subscribe_channel (s : Server) (ch u : Int) :
    (s.subscribe ch).userConnMap = s.userConnMap ∧
      (s.subscribe ch).live u = (if u = ch ∧ s.subscribeContext then true else s.live u) ∧
      (s.subscribe ch).subscribedChannels u =
        (if u = ch ∧ s.subscribeContext then true else s.subscribedChannels u) := by
  unfold subscribe
  cases s.subscribeContext <;> simp [Function.update_apply]

theorem Server.unsubscribe_channel (s : Server) (ch u : Int) :
    (s.unsubscribe ch).userConnMap = s.userConnMap ∧
      (s.unsubscribe ch).live u = (if u = ch ∧ s.subscribeContext then false else s.live u) ∧
      (s.unsubscribe ch).subscribedChannels u =
        (if u = ch ∧ s.subscribeContext then false else s.subscribedChannels u) := by
  unfold unsubscribe
  cases s.subscribeContext <;> simp [Function.update_apply]

@[simp] theorem Server.unsubscribe_context (s : Server) (ch : Int) :
    (s.unsubscribe ch).subscribeContext = s.subscribeContext := by unfold unsubscribe; split <;> rfl

theorem Server.takeOver_spec (s : Server) (id : Int) (conn : ConnId) (u : Int) :
    (s.takeOver id conn).userConnMap.lookup u =
        (if u = id then some conn else s.userConnMap.lookup u) ∧
      (s.takeOver id conn).live = s.live ∧
      (s.takeOver id conn).subscribedChannels = s.subscribedChannels ∧
      (s.takeOver id conn).subscribeContext = s.subscribeContext := by
  have hins : ∀ m : ConnMap, (∀ v, v ≠ id → m.lookup v = s.userConnMap.lookup v) →
      (m.insert id conn).lookup u = if u = id then some conn else s.userConnMap.lookup u := by
    intro m hm
    split
    · rename_i e; rw [e, AList.lookup_insert]
    · rename_i e; rw [AList.lookup_insert_ne e, hm u e]
  unfold takeOver
  split
  · exact ⟨hins _ fun _ _ => rfl, rfl, rfl, rfl⟩
  · refine ⟨hins _ fun v hv => AList.lookup_erase_ne hv, ?_⟩
    unfold shutdownConn
    split <;> exact ⟨rfl, rfl, rfl⟩

/-- The section of `login` for a user who is online. -/
theorem Server.forceRelogin_spec (s : Server) (id : Int) (conn : ConnId) (u : Int) :
    (s.forceRelogin id conn).userConnMap.lookup u =
        (if u = id then some conn else s.userConnMap.lookup u) ∧
      (s.forceRelogin id conn).live u =
        (if u = id ∧ s.subscribeContext then true else s.live u) ∧
      (s.forceRelogin id conn).subscribedChannels u =
        (if u = id ∧ s.subscribeContext then true else s.subscribedChannels u) := by
  obtain ⟨hl, hv, hc, hx⟩ := s.takeOver_spec id conn u
  obtain ⟨h₁, h₂, h₃⟩ := ((s.takeOver id conn).unsubscribe id).subscribe_channel id u
  obtain ⟨k₁, k₂, k₃⟩ := (s.takeOver id conn).unsubscribe_channel id u
  rw [forceRelogin_eq, h₁, h₂, h₃, k₁, k₂, k₃, hl, hv, hc, unsubscribe_context, hx]
  refine ⟨rfl, ?_, ?_⟩ <;> split <;> rfl

@[simp] theorem Server.deliver_all (js : Json) (conns : List ConnId) (s : Server) :
    (conns.foldl (·.deliver · js) s).userConnMap = s.userConnMap ∧
      (conns.foldl (·.deliver · js) s).live = s.live ∧
      (conns.foldl (·.deliver · js) s).subscribedChannels = s.subscribedChannels := by
  rw [foldl_deliver]; exact ⟨rfl, rfl, rfl⟩

/-- The session of another user on the server. -/
theorem ServerStep.session {u : Int} {a : Act} {s s' : Server} (hu : ¬TouchesSession u a)
    (h : ServerStep a s s') : s'.userConnMap.lookup u = s.userConnMap.lookup u ∧
      s'.live u = s.live u ∧ s'.subscribedChannels u = s.subscribedChannels u := by
  cases h with
  | keep => exact ⟨rfl, rfl, rfl⟩
  | send => exact ⟨rfl, rfl, rfl⟩
  | shutdown s conn => unfold Server.shutdownConn; split <;> exact ⟨rfl, rfl, rfl⟩
  | publish s ch message => unfold Server.push; split <;> exact ⟨rfl, rfl, rfl⟩
  | subscribe s ch =>
    have hc : ¬(u = ch ∧ s.subscribeContext = true) := fun e => hu e.1.symm
    obtain ⟨h₁, h₂, h₃⟩ := s.subscribe_channel ch u
    rw [h₁, h₂, h₃, if_neg hc, if_neg hc]
    exact ⟨rfl, rfl, rfl⟩
  | unsubscribe s ch =>
    have hc : ¬(u = ch ∧ s.subscribeContext = true) := fun e => hu e.1.symm
    obtain ⟨h₁, h₂, h₃⟩ := s.unsubscribe_channel ch u
    rw [h₁, h₂, h₃, if_neg hc, if_neg hc]
    exact ⟨rfl, rfl, rfl⟩
  | forceRelogin s id conn =>
    have hc : ¬(u = id ∧ s.subscribeContext = true) := fun e => hu e.1.symm
    obtain ⟨h₁, h₂, h₃⟩ := s.forceRelogin_spec id conn u
    rw [h₁, h₂, h₃, if_neg hc, if_neg hc, if_neg fun e => hu e.symm]
    exact ⟨rfl, rfl, rfl⟩
  | mapUser s id conn => exact ⟨AList.lookup_insert_ne fun e => hu e.symm, rfl, rfl⟩
  | eraseUser s id => exact ⟨AList.lookup_erase_ne fun e => hu e.symm, rfl, rfl⟩
  | eraseConn s conn id => exact absurd trivial hu
  | eraseLastTime => exact ⟨rfl, rfl, rfl⟩
  | updateConnTime => exact ⟨rfl, rfl, rfl⟩
  | routeGroup s ids js =>
    obtain ⟨h₁, h₂, h₃⟩ := Server.deliver_all js (ids.filterMap (s.userConnMap.lookup ·)) s
    exact ⟨by rw [h₁], by rw [h₂], by rw [h₃]⟩

/-- **Frames of sessions.** An action that does not name the user leaves the session alone. -/
theorem exec_session {u : Int} {i : ServerId} {a : Act} {w w' : World} {r : a.Res}
    (hu : ¬TouchesSession u a) (h : World.exec i a w = some (r, w')) : SameSession u w w' where
  entry j := ((exec_server h j).session hu).1
  live j := ((exec_server h j).session hu).2.1
  channel j := ((exec_server h j).session hu).2.2
  state st hs := by
    rcases exec_db h with e | ⟨stmt, ans, rfl, he⟩
    · rw [e]; exact hs
    · exact exec_stateOf hu he hs

theorem run_session {u : Int} {α : Type} {i : ServerId} {p : Serv α} {w w' : World} {x : α}
    (hp : p.All fun a => ¬TouchesSession u a) (h : p.run i w = some (x, w')) :
    SameSession u w w' :=
  hp.run_rel (L := chat) (SameSession.refl u) (fun _ _ _ => SameSession.trans)
    (fun _ _ _ _ ha he => exec_session ha he) h

theorem not_touches_of_login {conn : ConnId} {id u : Int} (h : id ≠ u) {a : Act}
    (ha : LoginAct conn id a) : ¬TouchesSession u a := by
  cases a with
  | sql st => cases st <;> simp_all [LoginAct, TouchesSession, TouchesState]
  | _ => simp_all [LoginAct, TouchesSession]

theorem not_touches_of_logout {conn : ConnId} {id u : Int} (h : id ≠ u) {a : Act}
    (ha : LogoutAct conn id a) : ¬TouchesSession u a := by
  cases a with
  | sql st => cases st <;> simp_all [LogoutAct, TouchesSession, TouchesState]
  | _ => simp_all [LogoutAct, TouchesSession]

theorem not_touches_of_chat (u : Int) {a : Act} (ha : ChatAct a) : ¬TouchesSession u a := by
  cases a with
  | sql st => cases st <;> simp_all [ChatAct, TouchesSession, TouchesState]
  | _ => simp_all [ChatAct, TouchesSession]

theorem not_touches_of_record (u : Int) {a : Act} (ha : RecordAct a) : ¬TouchesSession u a := by
  cases a with
  | sql st => cases st <;> simp_all [RecordAct, TouchesSession, TouchesState]
  | _ => simp_all [RecordAct, TouchesSession]

/-! ## The times of the connections -/

/-- No action changes the clock. -/
theorem exec_now {i : ServerId} {a : Act} {w w' : World} {r : a.Res}
    (h : World.exec i a w = some (r, w')) : w'.now = w.now := by
  cases a with
  | sql st =>
    rw [World.exec] at h
    split at h
    · split at h <;> cases h <;> rfl
    · cases h; rfl
  | publish ch message => rw [World.exec] at h; split at h <;> cases h <;> rfl
  | eraseConn conn => rw [World.exec] at h; split at h <;> cases h <;> rfl
  | halt why => cases h
  | _ => cases h; rfl

/-- Two actions change the times of the connections. -/
theorem ServerStep.lastTime {a : Act} {s s' : Server} (h : ServerStep a s s')
    (hu : ∀ conn, a ≠ .updateConnTime conn) (he : ∀ conn, a ≠ .eraseLastTime conn) :
    s'.connectionLastTime = s.connectionLastTime := by
  cases h with
  | shutdown s conn => exact (s.shutdownConn_rest conn).connectionLastTime
  | publish s ch message => unfold Server.push; split <;> rfl
  | subscribe s ch => exact (s.subscribe_rest ch).connectionLastTime
  | unsubscribe s ch => exact (s.unsubscribe_rest ch).connectionLastTime
  | forceRelogin s id conn => exact (s.forceRelogin_rest id conn).connectionLastTime
  | eraseLastTime s conn => exact absurd rfl (he conn)
  | updateConnTime s conn t => exact absurd rfl (hu conn)
  | routeGroup s ids js => rw [Server.foldl_deliver]
  | _ => rfl

/-! ## The connections -/

/-- `shutdown` closes this connection only. -/
theorem Server.shutdownConn_open (s : Server) (conn c : ConnId) :
    (s.shutdownConn conn).conns c = .connected ↔ s.conns c = .connected ∧ c ≠ conn := by
  unfold shutdownConn
  split
  · by_cases hc : c = conn
    · subst hc
      simp
    · simp [hc]
  · rename_i h
    constructor
    · intro hc
      refine ⟨hc, ?_⟩
      rintro rfl
      exact h hc
    · exact fun hc => hc.1

/-- The connection that the user had is the one that is closed. -/
theorem Server.forceRelogin_open (s : Server) (id : Int) (conn c : ConnId) :
    (s.forceRelogin id conn).conns c = .connected ↔
      s.conns c = .connected ∧ s.userConnMap.lookup id ≠ some c := by
  have hsub : ∀ (s : Server) ch, (s.subscribe ch).conns = s.conns := fun s ch => by
    unfold subscribe
    split <;> rfl
  have hunsub : ∀ (s : Server) ch, (s.unsubscribe ch).conns = s.conns := fun s ch => by
    unfold unsubscribe
    split <;> rfl
  rw [forceRelogin_eq, hsub, hunsub]
  unfold takeOver
  cases hl : s.userConnMap.lookup id with
  | none => simp
  | some old =>
    refine (s.shutdownConn_open old c).trans (and_congr_right fun _ => ?_)
    simp [eq_comm]

/-- Two actions close connections. -/
theorem ServerStep.conns {a : Act} {s s' : Server} (h : ServerStep a s s')
    (hs : ∀ conn, a ≠ .shutdown conn) (hf : ∀ id conn, a ≠ .forceRelogin id conn) :
    s'.conns = s.conns := by
  cases h with
  | shutdown _ conn => exact absurd rfl (hs conn)
  | forceRelogin _ id conn => exact absurd rfl (hf id conn)
  | publish => unfold Server.push; split <;> rfl
  | subscribe => unfold Server.subscribe; split <;> rfl
  | unsubscribe => unfold Server.unsubscribe; split <;> rfl
  | routeGroup => rw [Server.foldl_deliver]
  | _ => rfl

end QtChat
