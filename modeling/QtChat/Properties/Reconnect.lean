import QtChat.Properties.OfflineDelivery
import QtChat.Server.Traces

/-!
# A reconnect and the close of the old connection

`clientCloseException` of the old connection takes the entry, then unsubscribes the channel and sets
the row offline; `login` on the new connection enters it, subscribes and sets the row online. The
two write the subscription and the row in steps of their own, so the later write wins
(`last_write`).

`reconnect_iff`: after the login the session is complete exactly if the writes of the close come
before those of the login.
-/

namespace QtChat

open Interleave ChatService

/-- If the entry of `id` on server `i` is `conn`, the row says online and the channel is subscribed.
-/
def SessionUp (i : ServerId) (id : Int) (conn : ConnId) (w : World) : Prop :=
  (w.servers i).userConnMap.lookup id = some conn →
    w.db.stateOf id = some .online ∧ (w.servers i).live id = true

/-- The action sets the state in the row of `id`. -/
def SetsState (id : Int) (state : UserState) : Act → Prop
  | .sql (.updateState id' state') => id' = id ∧ state' = state
  | _ => False

instance (id : Int) (state : UserState) : DecidablePred (SetsState id state) := fun a => by
  unfold SetsState; split <;> infer_instance

/-- Every `UNSUBSCRIBE` of the channel is before a `SUBSCRIBE`, every update of the row to offline
before one to online. -/
def InOrder (id : Int) (tr : List (Ev chat)) : Prop :=
  Followed (fun c => Unsubscribes id c.act) (fun c => Subscribes id c.act) tr ∧
    Followed (fun c => SetsState id .offline c.act) (fun c => SetsState id .online c.act) tr

instance (id : Int) : DecidablePred (InOrder id) := fun tr => by unfold InOrder; infer_instance

/-! ## Answers -/

/-- MySQL works, the subscriber connection is there, and the row of `id` is `row` in some state. -/
structure Healthy (i : ServerId) (id : Int) (row : UserRow) (w : World) : Prop where
  works : w.Works
  context : (w.servers i).subscribeContext = true
  row : ∃ state, w.db.user.find id = some { row with state }

/-- What the login is answered then. -/
def Answered (id : Int) (row : UserRow) : Call chat → Prop
  | ⟨.acquire, ok⟩ => ok = true
  | ⟨.sql (.selectUser id'), ans⟩ => id' = id → ∃ state, ans = some (some { row with state })
  | _ => True

section Step

variable {i : ServerId} {id : Int} {row : UserRow} {a : Act} {w w' : World} {r : a.Res}

theorem SetsState.eq {state : UserState} (h : SetsState id state a) :
    a = .sql (.updateState id state) := by
  unfold SetsState at h
  split at h
  · rw [h.1, h.2]
  · exact h.elim

theorem Healthy.step (hh : Healthy i id row w) (ha : SessionAct a)
    (h : World.exec i a w = some (r, w')) : Healthy i id row w' := by
  refine ⟨exec_works hh.works h, ((exec_server h i).contexts).2.trans hh.context, ?_⟩
  obtain ⟨state, hrow⟩ := hh.row
  by_cases hs : ∃ state', a = .sql (.updateState id state')
  · obtain ⟨state', rfl⟩ := hs
    exact ⟨state', by rw [exec_updateState hh.works h, hrow]; rfl⟩
  · exact ⟨state, by rw [exec_find ha (fun state' e => hs ⟨state', e⟩) h, hrow]⟩

theorem Healthy.answered (hh : Healthy i id row w) (h : World.exec i a w = some (r, w')) :
    Answered id row ⟨a, r⟩ := by
  unfold Answered
  split
  · rename_i ok e
    cases e
    cases h
    exact hh.works 0
  · rename_i id' ans e
    cases e
    rintro rfl
    obtain ⟨state, hrow⟩ := hh.row
    rw [World.exec, if_pos (hh.works 0)] at h
    cases h
    exact ⟨state, by rw [← hrow]⟩
  · trivial

/-- The state in the row after an action. -/
theorem Healthy.state (hh : Healthy i id row w) (ha : SessionAct a)
    (h : World.exec i a w = some (r, w')) :
    (SetsState id .online a → w'.db.stateOf id = some .online) ∧
      (SetsState id .offline a → ¬w'.db.stateOf id = some .online) ∧
      (¬SetsState id .online a → ¬SetsState id .offline a →
        (w'.db.stateOf id = some .online ↔ w.db.stateOf id = some .online)) := by
  obtain ⟨state, hrow⟩ := hh.row
  have hset : ∀ {state}, SetsState id state a → w'.db.stateOf id = some state := by
    intro state hs
    cases hs.eq
    rw [Database.stateOf, exec_updateState hh.works h, hrow]
    rfl
  refine ⟨hset, fun hs => by rw [hset hs]; decide, fun h₁ h₂ => ?_⟩
  rw [Database.stateOf, exec_find ha ?_ h, Database.stateOf]
  rintro (_ | _) rfl
  · exact h₁ ⟨rfl, rfl⟩
  · exact h₂ ⟨rfl, rfl⟩

end Step

/-! ## The two programs -/

/-- A login that is answered enters the connection, subscribes and sets the row online. -/
theorem loginAs_registers (conn : ConnId) (id : Int) {row : UserRow} {pwd : Str}
    (hpw : cstr row.password = pwd) : (loginAs conn id pwd).Ends (Answered id row) fun h _ =>
      (∃ c ∈ h, Enters id conn c.act) ∧ (∃ c ∈ h, Subscribes id c.act) ∧
        ∃ c ∈ h, SetsState id .online c.act := by
  have hq : (UserModel.query id).Ends (Answered id row) fun _ user =>
      ∃ state, user = .ofRow id { row with state } := by
    intro ok hok
    cases ok with
    | false => cases hok
    | true =>
      intro ans hans
      obtain ⟨state, rfl⟩ := hans rfl
      exact ⟨state, rfl⟩
  have hr : ∀ state, (registerConn conn id state).Ends (Answered id row) fun h _ =>
      (∃ c ∈ h, Enters id conn c.act) ∧ ∃ c ∈ h, Subscribes id c.act := by
    intro state
    unfold registerConn
    split
    · intro _ _
      exact ⟨⟨_, List.mem_singleton_self _, rfl, rfl⟩, ⟨_, List.mem_singleton_self _, rfl⟩⟩
    · intro _ _ _ _
      exact ⟨⟨_, List.mem_cons_self, rfl, rfl⟩, ⟨_, List.mem_cons_of_mem _ (List.mem_singleton_self _), rfl⟩⟩
  have hu : ∀ user : User, user.id = id → user.state = .online →
      (UserModel.updateState user).Ends (Answered id row) fun h _ =>
        ∃ c ∈ h, SetsState id .online c.act := by
    intro user hid hst ok hok
    cases ok with
    | false => cases hok
    | true =>
      intro _ _
      exact ⟨_, List.mem_cons_of_mem _ (List.mem_singleton_self _), hid, hst⟩
  unfold loginAs
  rw [Prog.ends_bind]
  refine hq.mono fun h₁ user hu₁ => ?_
  obtain ⟨state, rfl⟩ := hu₁
  rw [if_pos ⟨rfl, hpw⟩, Prog.ends_bind]
  refine (hr state).mono fun h₂ _ hr₂ => ?_
  obtain ⟨⟨c₁, hc₁, he⟩, ⟨c₂, hc₂, hs⟩⟩ := hr₂
  rw [Prog.ends_bind]
  refine (hu _ rfl rfl).mono fun h₃ _ hu₃ => ?_
  obtain ⟨c₃, hc₃, ho⟩ := hu₃
  refine (Prog.ends_of_all (Prog.all_true _)).mono fun h₄ _ _ => ?_
  exact ⟨⟨c₁, by simp [hc₁], he⟩, ⟨c₂, by simp [hc₂], hs⟩, ⟨c₃, by simp [hc₃], ho⟩⟩

theorem clientCloseException_map (conn : ConnId) :
    (clientCloseException conn).All fun a : Act => a = .eraseConn conn ∨ ¬WritesMap a := by
  have hn : ∀ id a, NotifyAct id .offline a → a = .eraseConn conn ∨ ¬WritesMap a := by
    intro id a ha
    cases a <;> first | exact ha.elim | exact .inr fun hf => hf
  have hc : ∀ user : User, (clientClosed conn user).All fun a : Act =>
      a = .eraseConn conn ∨ ¬WritesMap a := by
    intro user
    refine Prog.All.bind (p := unsubscribe _) ⟨.inr fun hf => hf, fun _ => trivial⟩ fun _ => ?_
    refine Prog.All.bind (p := eraseLastTime _) ⟨.inr fun hf => hf, fun _ => trivial⟩ fun _ => ?_
    split
    · refine Prog.All.bind (all_ask (.inr fun hf => hf) (.inr fun hf => hf) trivial
        fun _ => trivial) fun _ => ?_
      exact (notifyFriendState_all user.id .offline).mono (hn _)
    · trivial
  refine Prog.All.bind (p := eraseConn _) ⟨.inl rfl, fun _ => trivial⟩ fun r => ?_
  rcases r with _ | id
  · exact hc {}
  · exact hc { id }

/-- What the two do to the map. -/
theorem exec_entry {i : ServerId} {id : Int} {c₁ c₂ : ConnId} (hne : c₁ ≠ c₂) {a : Act}
    {w w' : World} {r : a.Res} (ha : LoginAct c₂ id a ∨ a = .eraseConn c₁ ∨ ¬WritesMap a)
    (h : World.exec i a w = some (r, w')) :
    (Enters id c₂ a → (w'.servers i).userConnMap.lookup id = some c₂) ∧
      (¬Enters id c₂ a → ((w'.servers i).userConnMap.lookup id = some c₂ ↔
        (w.servers i).userConnMap.lookup id = some c₂)) := by
  by_cases hm : WritesMap a
  · cases a with
    | forceRelogin id' conn' =>
      rcases ha with ha | ha | ha
      · obtain ⟨rfl, rfl⟩ := ha
        cases h
        refine ⟨fun _ => ?_, fun hn => absurd ⟨rfl, rfl⟩ hn⟩
        rw [World.modify_self, ((w.servers i).forceRelogin_spec _ _ _).1, if_pos rfl]
      · cases ha
      · exact absurd hm ha
    | mapUser id' conn' =>
      rcases ha with ha | ha | ha
      · obtain ⟨rfl, rfl⟩ := ha
        cases h
        refine ⟨fun _ => ?_, fun hn => absurd ⟨rfl, rfl⟩ hn⟩
        rw [World.modify_self]
        exact AList.lookup_insert _
      · cases ha
      · exact absurd hm ha
    | eraseConn conn =>
      refine ⟨fun he => he.elim, fun _ => ?_⟩
      rcases ha with ha | ha | ha
      · exact ha.elim
      · cases ha
        rcases exec_eraseConn h id with e | ⟨e, e'⟩
        · rw [e]
        · rw [e, e']
          simp [hne]
      · exact absurd hm ha
    | eraseUser id' =>
      rcases ha with ha | ha | ha
      · exact ha.elim
      · cases ha
      · exact absurd hm ha
    | _ => exact hm.elim
  · refine ⟨fun he => ?_, fun _ => by rw [(exec_server h i).map hm]⟩
    cases a <;> first | exact absurd trivial hm | exact he.elim

/-! ## The interleavings -/

/-- **When a reconnect is complete.** In every interleaving of the login of `id` on `c₂` with the
close of `c₁`, once the login has come to its end: the session on `c₂` is complete exactly if the
close did not write after the login. -/
theorem reconnect_iff {i : ServerId} {tc tl : Tid} {c₁ c₂ : ConnId} {id : Int} {pwd : Str}
    {row : UserRow} {P P' : Pool chat} {w w' : World} {tr : List (Ev chat)}
    (h : Run (L := chat) (fun _ => i) calm P w tr P' w') (hc : P tc = clientCloseException c₁)
    (hl : P tl = loginAs c₂ id pwd) (hrest : ∀ t, t ≠ tc → t ≠ tl → P t = .ret ())
    (hend : P' tl = .ret ()) (hne : c₁ ≠ c₂) (hw : w.Works)
    (hctx : (w.servers i).subscribeContext = true) (hrow : w.db.user.find id = some row)
    (hpw : cstr row.password = pwd) : SessionUp i id c₂ w' ↔ InOrder id tr := by
  have hact : ∀ e ∈ tr, SessionAct e.call.act ∧
      (LoginAct c₂ id e.call.act ∨ e.call.act = .eraseConn c₁ ∨ ¬WritesMap e.call.act) := by
    intro e he
    have hp := h.path e.tid
    have hm := mem_own.mpr he
    by_cases htl : e.tid = tl
    · rw [htl, hl] at hp
      rw [htl] at hm
      have ha := hp.all (loginAs_all c₂ id pwd) _ hm
      exact ⟨sessionAct_of_login ha, .inl ha⟩
    · by_cases htc : e.tid = tc
      · rw [htc, hc] at hp
        rw [htc] at hm
        refine ⟨?_, .inr (hp.all (clientCloseException_map c₁) _ hm)⟩
        rcases hp.all (clientCloseException_all c₁) _ hm with ha | ⟨id', ha⟩
        · rw [ha]; trivial
        · exact sessionAct_of_logout ha
      · rw [hrest e.tid htc htl] at hp
        rw [hp.of_ret] at hm
        cases hm
  have hh : Healthy i id row w := ⟨hw, hctx, row.state, hrow⟩
  have hev := h.evolves
  obtain ⟨-, hans⟩ := hev.calls (I := Healthy i id row) (A := Answered id row)
    (fun _ _ he => by cases he) (fun e he w w₁ hx hh => ⟨hh.step (hact e he).1 hx, hh.answered hx⟩) hh
  have hlp := h.path tl
  rw [hl, hend] at hlp
  obtain ⟨⟨a₁, hm₁, he₁⟩, ⟨a₂, hm₂, he₂⟩, a₃, hm₃, he₃⟩ := (loginAs_registers c₂ id hpw).path hlp
    fun c hc => hans ⟨tl, c⟩ (mem_own.mp hc)
  have hlive := hev.last_write (Healthy i id row) (fun w : World => (w.servers i).live id = true)
    (fun c => Unsubscribes id c.act) (fun c => Subscribes id c.act) (fun _ _ he => by cases he)
    (fun e he w w₁ hx hh => by
      obtain ⟨h₁, h₂, h₃⟩ := exec_live (u := id) hh.context hx
      exact ⟨hh.step (hact e he).1 hx, h₁, fun hu => by rw [h₂ hu]; decide,
        fun hs hu => by rw [h₃ hs hu]⟩) hh
  have hstate := hev.last_write (Healthy i id row) (fun w : World => w.db.stateOf id = some .online)
    (fun c => SetsState id .offline c.act) (fun c => SetsState id .online c.act)
    (fun _ _ he => by cases he) (fun e he w w₁ hx hh =>
      ⟨hh.step (hact e he).1 hx, hh.state (hact e he).1 hx⟩) hh
  have hmap := hev.last_write (Healthy i id row)
    (fun w : World => (w.servers i).userConnMap.lookup id = some c₂) (fun _ => False)
    (fun c => Enters id c₂ c.act) (fun _ _ he => by cases he) (fun e he w w₁ hx hh => by
      obtain ⟨h₁, h₂⟩ := exec_entry hne (hact e he).2 hx
      exact ⟨hh.step (hact e he).1 hx, h₁, False.elim, fun hn _ => h₂ hn⟩) hh
  have hnone : ∀ tr : List (Ev chat), Followed (fun _ => False) (fun c => Enters id c₂ c.act) tr := by
    intro tr
    induction tr with
    | nil => trivial
    | cons e tr ih => exact ⟨False.elim, ih⟩
  have hentry := hmap.mpr ⟨.inl ⟨_, mem_own.mp hm₁, he₁⟩, hnone tr⟩
  have hon : ∃ e ∈ tr, SetsState id .online e.call.act := ⟨_, mem_own.mp hm₃, he₃⟩
  have hsub : ∃ e ∈ tr, Subscribes id e.call.act := ⟨_, mem_own.mp hm₂, he₂⟩
  constructor
  · intro hup
    obtain ⟨ho, hv⟩ := hup hentry
    exact ⟨(hlive.mp hv).2, (hstate.mp ho).2⟩
  · rintro ⟨hv, ho⟩ -
    exact ⟨hstate.mpr ⟨.inl hon, ho⟩, hlive.mpr ⟨.inl hsub, hv⟩⟩

/-- User 1 is on connection 1, which is down; connection 2 is open. -/
def World.hungUp : World :=
  World.modify { World.oneUser with db := { World.oneUser.db with
      user := ⟨[(1, ⟨txt "ann", txt "pw", .online⟩)], World.oneUser.db.user.keys_nodup⟩ } }
    0 fun s =>
    { s with userConnMap := s.userConnMap.insert 1 1, publishContext := true,
             subscribeContext := true, observer := true,
             subscribedChannels := Function.update s.subscribedChannels 1 true,
             live := Function.update s.live 1 true,
             conns := Function.update (Function.update s.conns 1 .disconnected) 2 .connected }

def reconnectPool : Pool chat
  | 0 => clientCloseException 1
  | 1 => loginAs 2 1 (txt "pw")
  | _ => .ret ()

theorem reconnectPool_rest : ∀ t, t ≠ 0 → t ≠ 1 → reconnectPool t = .ret ()
  | 0, h, _ => absurd rfl h
  | 1, _, h => absurd rfl h
  | _ + 2, _, _ => rfl

/-- The close takes the entry, the login runs to its end, the close goes on. -/
def reconnectSchedule : List (Option Tid) :=
  some 0 :: (List.replicate 15 (some 1) ++ List.replicate 7 (some 0))

theorem reconnect_iff_race : ∃ tr P' w',
    Run (L := chat) (fun _ => 0) calm reconnectPool World.hungUp tr P' w' ∧
    (SessionUp 0 1 2 w' ↔ InOrder 1 tr) := by
  have h : (sched (L := chat) (fun _ => 0) calm reconnectSchedule reconnectPool
      World.hungUp).map (fun r => (r.2.1 1).isRet) = some true := by
    decide +kernel
  obtain ⟨⟨tr, P', w'⟩, hs, hf⟩ := Option.map_eq_some_iff.mp h
  exact ⟨tr, P', w', sched_run hs, reconnect_iff (sched_run hs)
    (show reconnectPool 0 = clientCloseException 1 from rfl) rfl
    reconnectPool_rest (Prog.eq_ret_of_isRet hf) (by decide) (fun _ => rfl) rfl rfl rfl⟩

/-- The close goes on after the login: user 1 is connected and neither online nor subscribed. -/
theorem reconnect_lost : ¬∀ (i : ServerId) (tc tl : Tid) (c₁ c₂ : ConnId) (id : Int) (pwd : Str)
    (row : UserRow) (P P' : Pool chat) (w w' : World) (tr : List (Ev chat)),
    Run (L := chat) (fun _ => i) calm P w tr P' w' → P tc = clientCloseException c₁ →
    P tl = loginAs c₂ id pwd → (∀ t, t ≠ tc → t ≠ tl → P t = .ret ()) → P' tc = .ret () →
    P' tl = .ret () → c₁ ≠ c₂ → w.Works → (w.servers i).publishContext = true →
    (w.servers i).subscribeContext = true → (w.servers i).userConnMap.lookup id = some c₁ →
    w.db.user.find id = some row → cstr row.password = pwd → SessionUp i id c₂ w' := by
  intro hall
  have h : (sched (L := chat) (fun _ => 0) calm reconnectSchedule reconnectPool
      World.hungUp).map (fun r : List (Ev chat) × Pool chat × World =>
        ((r.2.1 0).isRet, (r.2.1 1).isRet, (r.2.2.servers 0).userConnMap.lookup 1,
          (r.2.2.servers 0).live 1)) = some (true, true, some 2, false) := by
    decide +kernel
  obtain ⟨⟨tr, P', w'⟩, hs, hf⟩ := Option.map_eq_some_iff.mp h
  simp only [Prod.mk.injEq] at hf
  obtain ⟨h₁, h₂, hl, hv⟩ := hf
  have hup := hall 0 0 1 1 2 1 _ _ _ P' _ w' tr (sched_run hs) rfl rfl reconnectPool_rest
    (Prog.eq_ret_of_isRet h₁) (Prog.eq_ret_of_isRet h₂) (by decide) (fun _ => rfl) rfl rfl rfl rfl rfl
  have := (hup hl).2
  rw [hv] at this
  cases this

end QtChat
