import QtChat.Server.Frames

/-!
# Runs of login

`loginAs` sees the object that `UserModel::query` returns and nothing else: with the wrong id or
password in it the request is refused (`loginAs_refused`), otherwise the connection is entered, the
row set online, the acknowledgement sent and the friends told, in this order (`loginAs_accepted`).
`run_sendLogin` is the part with the offline messages.
-/

namespace QtChat

open Interleave ChatService

/-- The object has the id and the password of the request. -/
def Accepts (user : User) (id : Int) (pwd : Str) : Prop := user.id = id ∧ user.password = pwd

instance (user : User) (id : Int) (pwd : Str) : Decidable (Accepts user id pwd) :=
  inferInstanceAs (Decidable (_ ∧ _))

section Runs

variable (i : ServerId) (w : World) (conn : ConnId)

/-- The world after `registerConn`. -/
def World.registered (w : World) (i : ServerId) (conn : ConnId) (id : Int) (state : UserState) :
    World :=
  if state = .online then w.modify i (·.forceRelogin id conn)
  else (w.modify i fun s => { s with userConnMap := s.userConnMap.insert id conn }).modify i
    (·.subscribe id)

@[simp] theorem run_registerConn (id : Int) (state : UserState) :
    (registerConn conn id state).run i w = some ((), w.registered i conn id state) := by
  unfold registerConn World.registered
  cases state <;> rfl

theorem registered_db (id : Int) (state : UserState) :
    (w.registered i conn id state).db = w.db := by unfold World.registered; split <;> rfl

theorem registered_works {w : World} (h : w.Works) (id : Int) (state : UserState) :
    (w.registered i conn id state).Works := by unfold World.registered; split <;> exact h

theorem registered_lookup (id : Int) (state : UserState) (u : Int) :
    ((w.registered i conn id state).servers i).userConnMap.lookup u =
      if u = id then some conn else (w.servers i).userConnMap.lookup u := by
  unfold World.registered
  split
  · rw [World.modify_self]; exact ((w.servers i).forceRelogin_spec id conn u).1
  · rw [World.modify_self, World.modify_self]
    obtain ⟨h, -⟩ := Server.subscribe_channel
      { w.servers i with userConnMap := (w.servers i).userConnMap.insert id conn } id u
    rw [h]
    split
    · rename_i e; rw [e]; exact AList.lookup_insert _
    · rename_i e; exact AList.lookup_insert_ne e

theorem registered_ne {j : ServerId} (hj : j ≠ i) (id : Int) (state : UserState) :
    (w.registered i conn id state).servers j = w.servers j := by
  unfold World.registered
  split
  · rw [World.modify_ne _ hj]
  · rw [World.modify_ne _ hj, World.modify_ne _ hj]

theorem registered_outbox (id : Int) (state : UserState) (j : ServerId) :
    ((w.registered i conn id state).servers j).outbox = (w.servers j).outbox := by
  by_cases h : j = i
  · subst h
    unfold World.registered
    split <;> simp
  · rw [registered_ne _ _ _ h]

/-- **The acknowledgement.** It has the offline messages that the query read; after it they are
removed, if there were any. -/
theorem run_sendLogin (user : User) : ∃ w₁, (w.ask (.selectOffline user.id)).2.Same w₁ ∧
    (sendLogin conn user).run i w = some ((),
      let vec := ((w.ask (.selectOffline user.id)).1.getD []).map cstr
      let w₀ := (w.ask (.selectOffline user.id)).2
      let userVec := User.friends (w₀.ask (.selectFriends user.id)).1
      let groupVec := (w₀.ask (.selectFriends user.id)).2.groupsRead user.id
      let w₂ := w₁.modify i (·.deliver conn (loginResponse user vec userVec groupVec))
      if vec.isEmpty then w₂ else (w₂.ask (.deleteOffline user.id)).2) := by
  have hf := (w.ask (.selectOffline user.id)).2.same_ask (s := .selectFriends user.id)
    fun db => ⟨_, rfl⟩
  obtain ⟨w₁, hr, hs⟩ := run_queryGroups i
    ((w.ask (.selectOffline user.id)).2.ask (.selectFriends user.id)).2 user.id
  refine ⟨w₁, hf.trans hs, ?_⟩
  unfold sendLogin
  simp only [Prog.run_bind, run_queryOffline, run_friends, hr, run_sendJson, Option.bind_some]
  split
  · rename_i h
    rw [run_removeOffline, if_neg (by simpa using h)]
  · rename_i h
    rw [if_pos (by simpa using h)]
    rfl

theorem loginAs_refused {id : Int} {pwd : Str} (h : ¬Accepts (w.lookedUp id) id pwd) :
    (loginAs conn id pwd).run i w = some ((), (w.ask (.selectUser id)).2.modify i
      (·.deliver conn (loginError "id or password is invalid!"))) := by
  unfold loginAs
  rw [Prog.run_bind, run_query, Option.bind_some]
  exact congrFun (congrArg _ (if_neg h)) _

theorem loginAs_accepted {id : Int} {pwd : Str} (h : Accepts (w.lookedUp id) id pwd) :
    (loginAs conn id pwd).run i w = (do
      registerConn conn id (w.lookedUp id).state
      let _ ← UserModel.updateState { w.lookedUp id with state := .online }
      sendLogin conn { w.lookedUp id with state := .online }
      notifyFriendState id .online).run i (w.ask (.selectUser id)).2 := by
  unfold loginAs
  rw [Prog.run_bind, run_query, Option.bind_some]
  exact congrFun (congrArg _ (if_pos h)) _

/-- The world in which an accepted login reads the offline messages. -/
def World.loggedIn (w : World) (i : ServerId) (conn : ConnId) (id : Int) : World :=
  (((w.ask (.selectUser id)).2.registered i conn id (w.lookedUp id).state).ask
    (.updateState id .online)).2

theorem loggedIn_outbox (id : Int) (j : ServerId) :
    ((w.loggedIn i conn id).servers j).outbox = (w.servers j).outbox := by
  rw [World.loggedIn, World.ask_servers, registered_outbox, World.ask_servers]

theorem run_notifyFriendState (userid : Int) (state : UserState) :
    ∃ w', (notifyFriendState userid state).run i w = some ((), w') :=
  let ⟨_, w', h⟩ := (notifyFriendState_all userid state).run (L := chat) (fun a w ha =>
    exec_isSome i (by rintro why rfl; exact ha) w) w
  ⟨w', h⟩

/-- The offline messages that an accepted login reads. -/
def World.offlineVec (w : World) (i : ServerId) (conn : ConnId) (id : Int) : List Str :=
  (((w.loggedIn i conn id).ask (.selectOffline id)).1.getD []).map cstr

/-- The friends that it reads next. -/
def World.friendsVec (w : World) (i : ServerId) (conn : ConnId) (id : Int) : List User :=
  User.friends (((w.loggedIn i conn id).ask (.selectOffline id)).2.ask (.selectFriends id)).1

/-- The groups that it reads last. -/
def World.groupsVec (w : World) (i : ServerId) (conn : ConnId) (id : Int) : List Group :=
  (((w.loggedIn i conn id).ask (.selectOffline id)).2.ask (.selectFriends id)).2.groupsRead id

/-- The acknowledgement of an accepted login. -/
def World.loginAck (w : World) (i : ServerId) (conn : ConnId) (id : Int) : Json :=
  loginResponse { w.lookedUp id with state := .online } (w.offlineVec i conn id)
    (w.friendsVec i conn id) (w.groupsVec i conn id)

/-- **An accepted login** sends the acknowledgement with the offline messages, removes them, and
tells the friends. -/
theorem run_loginAs {id : Int} {pwd : Str} (h : Accepts (w.lookedUp id) id pwd) :
    ∃ w₁ w', ((w.loggedIn i conn id).ask (.selectOffline id)).2.Same w₁ ∧
      (loginAs conn id pwd).run i w = some ((), w') ∧
      let w₂ := w₁.modify i (·.deliver conn (w.loginAck i conn id))
      (notifyFriendState id .online).run i (if (w.offlineVec i conn id).isEmpty then w₂
        else (w₂.ask (.deleteOffline id)).2) = some ((), w') := by
  unfold World.loginAck
  have hid : ({ w.lookedUp id with state := .online } : User).id = id := h.1
  have hst : ({ w.lookedUp id with state := .online } : User).state = .online := rfl
  have hl := loginAs_accepted i w conn h
  generalize ({ w.lookedUp id with state := .online } : User) = user at hid hst hl ⊢
  obtain ⟨w₁, hs, hr⟩ := run_sendLogin i (w.loggedIn i conn id) conn user
  rw [hid] at hs hr
  obtain ⟨w', hw'⟩ := run_notifyFriendState i _ id .online
  refine ⟨w₁, w', hs, ?_, hw'⟩
  rw [hl, Prog.run_bind, run_registerConn, Option.bind_some, Prog.run_bind, run_updateState,
    Option.bind_some, hid, hst, Prog.run_bind]
  exact (congrArg (Option.bind · _) hr).trans hw'

/-- **The packets of an accepted login**: the acknowledgement, which is taken if the connection is
still open where it is entered, then the friends' packets. -/
theorem loginAs_sends {id : Int} {pwd : Str} (h : Accepts (w.lookedUp id) id pwd) {w' : World}
    (hr : (loginAs conn id pwd).run i w = some ((), w')) : ∃ accepted rest,
      sentIn i w w' = ⟨conn, w.loginAck i conn id, accepted⟩ :: rest ∧
      (∀ d ∈ rest, d.js = friendState id .online) ∧
      (accepted = true ↔ ((w.loggedIn i conn id).servers i).conns conn = .connected) := by
  obtain ⟨w₁, w'', hs, hr', hn⟩ := run_loginAs i w conn h
  rw [hr] at hr'
  cases hr'
  obtain ⟨rest, ho, hd⟩ := run_outbox (Q := fun js => js = friendState id .online)
    (notifyFriendState_all id .online) (fun _ _ h => h) (fun _ _ h => h.elim) hn i
  have hw₁ : w₁.servers = (w.loggedIn i conn id).servers := by
    rw [hs.servers, World.ask_servers]
  have h₁ : (w₁.servers i).outbox = (w.servers i).outbox := by
    rw [hw₁, loggedIn_outbox]
  have h₂ : ∀ b : Bool, ∀ w₂ : World, ((if b = true then w₂ else
      (w₂.ask (.deleteOffline id)).2).servers i) = w₂.servers i := by
    intro b w₂
    cases b <;> simp
  rw [h₂, World.modify_self, Server.deliver, h₁, List.append_assoc] at ho
  refine ⟨_, rest, by rw [sentIn, ho, List.drop_left]; rfl, hd, ?_⟩
  rw [hw₁, decide_eq_true_iff]

theorem loggedIn_works {w : World} (hw : w.Works) (id : Int) : (w.loggedIn i conn id).Works :=
  (registered_works i conn (hw.after_ask _) id _).after_ask _

/-- The tables in which an accepted login reads, when MySQL works. -/
theorem loggedIn_db {w : World} (hw : w.Works) (id : Int) : (w.loggedIn i conn id).db =
    { w.db with user := w.db.user.update id fun r => { r with state := .online } } := by
  have hs := w.same_ask (s := .selectUser id) fun db => ⟨_, rfl⟩
  unfold World.loggedIn
  rw [(registered_works i conn (hs.works hw) id _).ask, registered_db, hs.db]
  rfl

/-- When MySQL works, the messages read are those that are stored. -/
theorem offlineVec_works {w : World} (hw : w.Works) (id : Int) :
    w.offlineVec i conn id = (w.db.offlineOf id).map cstr := by
  unfold World.offlineVec
  rw [(loggedIn_works i conn hw id).ask_read rfl, loggedIn_db i conn hw id]
  rfl

/-- When MySQL works, the friends and the groups read are those in the tables. -/
theorem loginVecs_works {w : World} (hw : w.Works) (id : Int) :
    w.friendsVec i conn id =
        ((w.loggedIn i conn id).db.friendRows id).map FriendModel.friendOf ∧
      w.groupsVec i conn id = (w.loggedIn i conn id).db.groupsOf id := by
  have hl := loggedIn_works i conn hw id
  have ho := (w.loggedIn i conn id).same_ask (s := .selectOffline id) fun db => ⟨_, rfl⟩
  have hf := ((w.loggedIn i conn id).ask (.selectOffline id)).2.same_ask (s := .selectFriends id)
    fun db => ⟨_, rfl⟩
  unfold World.friendsVec World.groupsVec
  constructor
  · rw [(ho.works hl).ask_read rfl, ho.db]
    rfl
  · rw [(hf.works (ho.works hl)).groupsRead, hf.db, ho.db]

/-- After an accepted login nothing is stored for the user, when MySQL works. -/
theorem loginAs_removes {w : World} (hw : w.Works) {id : Int} {pwd : Str}
    (h : Accepts (w.lookedUp id) id pwd) {w' : World}
    (hr : (loginAs conn id pwd).run i w = some ((), w')) : w'.db.offlineOf id = [] := by
  obtain ⟨w₁, w'', hs, hr', hn⟩ := run_loginAs i w conn h
  rw [hr] at hr'
  cases hr'
  have hl := loggedIn_works i conn hw id
  have hw₁ : w₁.Works := hs.works (hl.after_ask _)
  have hdb : w₁.db.offlineOf id = w.db.offlineOf id := by
    rw [hs.db, World.ask_db (fun db => ⟨_, rfl⟩), loggedIn_db i conn hw id]
    rfl
  rw [run_notify_db hn, offlineVec_works i conn hw id]
  split
  · rename_i he
    have : w.db.offlineOf id = [] := by simpa using he
    exact hdb.trans this
  · rw [(hw₁.modify i _).ask]
    simp [Database.exec, Database.offlineOf]

/-- A refused login sends its negative acknowledgement and changes no entry. -/
theorem loginAs_refused_sends {id : Int} {pwd : Str} (h : ¬Accepts (w.lookedUp id) id pwd)
    {w' : World} (hr : (loginAs conn id pwd).run i w = some ((), w')) :
    (w'.servers i).userConnMap = (w.servers i).userConnMap ∧ ∀ d ∈ sentIn i w w',
      d.js = loginError "id or password is invalid!" := by
  rw [loginAs_refused i w conn h] at hr
  cases hr
  refine ⟨by rw [World.modify_self, World.ask_servers]; rfl, fun d hd => ?_⟩
  rw [sentIn, World.modify_self, World.ask_servers, Server.deliver, List.drop_left,
    List.mem_singleton] at hd
  rw [hd]

end Runs

end QtChat
