import QtChat.Properties.FriendCopies
import QtChat.Properties.LiveEntries

/-!
# Which requests keep what was told in line

A handler but those of `LOGIN_MSG`, `LOGINOUT_MSG` and `ADD_FRIEND_MSG` says nothing of friends and
changes no state (`told_cases`).

- `login_informed`: a login on a connection of its own (`Server.LoginAlone`) loads the rows that are
  there, and tells the friends.
- `addFriend_informed`: who adds a friend as himself (`Server.AddsFriend`) is told the friend's row.
- `logout_informed`, `close_informed`: a logout and a close tell the friends.
-/

namespace QtChat

open Interleave ChatService Presence

/-! ## Requests that say nothing of friends -/

section Quiet

variable {fromJson : Str → Option Json}

theorem quiet_send {ex : Option Int} {conn : ConnId} {js : Json} (h : toldOf fromJson js = none) :
    (sendJson conn js).All (QuietAct fromJson ex) :=
  ⟨h, fun _ => trivial⟩

/-- A statement that has to do with no state. -/
theorem quiet_sql {st : Stmt} (h : ∀ u, ¬TouchesState u st) : QuietAct fromJson none (.sql st) :=
  fun u hu => absurd hu (h u)

theorem reg_quiet (conn : ConnId) (name pwd : Str) :
    (regAs conn name pwd).All (QuietAct fromJson none) := by
  refine Prog.All.bind ?_ fun r => ?_
  · exact all_ask_format trivial trivial trivial ⟨quiet_sql fun _ => id, fun _ => trivial⟩
  · rcases r with _ | id <;> exact quiet_send rfl

theorem createGroup_quiet (conn : ConnId) (userid : Int) (name desc : Str) :
    (createGroupAs conn userid name desc).All (QuietAct fromJson none) := by
  refine Prog.All.bind ?_ fun r => ?_
  · exact all_ask_format trivial trivial trivial ⟨quiet_sql fun _ => id, fun _ => trivial⟩
  · rcases r with _ | id
    · trivial
    · refine Prog.All.bind (all_ask trivial (quiet_sql fun _ h => h) trivial fun _ => trivial)
        fun _ => ?_
      exact quiet_send rfl

theorem addGroup_quiet (conn : ConnId) (userid groupid : Int) :
    (addGroupAs conn userid groupid).All (QuietAct fromJson none) := by
  refine Prog.All.bind (all_ask trivial (quiet_sql fun _ => id) trivial fun _ => trivial)
    fun _ => ?_
  refine Prog.All.bind (all_ask trivial (quiet_sql fun _ => id) trivial fun r => ?_) fun group => ?_
  · rcases r with _ | _ | row <;> trivial
  · exact quiet_send rfl

theorem updateName_quiet (conn : ConnId) (userid : Int) (newName : Str) :
    (updateNameAs conn userid newName).All (QuietAct fromJson none) := by
  refine Prog.All.bind ?_ fun ok => ?_
  · refine all_ask_format trivial trivial trivial ?_
    exact Prog.All.bind (p := sql _) ⟨quiet_sql fun _ => id, fun _ => trivial⟩ fun _ => trivial
  · cases ok <;> exact quiet_send rfl

theorem heartbeat_quiet (conn : ConnId) : (heartbeatOf conn).All (QuietAct fromJson none) :=
  ⟨trivial, fun _ => quiet_send rfl⟩

theorem query_quiet {ex : Option Int} (id : Int) :
    (UserModel.query id).All (QuietAct fromJson ex) :=
  all_query trivial fun _ hu => hu.elim

theorem insertOffline_quiet {ex : Option Int} (userid : Int) (msg : Str) :
    (OfflineMsgModel.insert userid msg).All (QuietAct fromJson ex) :=
  all_insertOffline trivial fun _ hu => hu.elim

theorem oneChat_quiet (toid : Int) {js : Json} (h : toldOf fromJson js = none) :
    (oneChatTo toid js).All (QuietAct fromJson none) := by
  refine Prog.All.bind (p := findConn _) ⟨trivial, fun _ => trivial⟩ fun r => ?_
  rcases r with _ | conn
  · refine Prog.All.bind (query_quiet toid) fun user => ?_
    split
    · exact ⟨trivial, fun _ => trivial⟩
    · exact insertOffline_quiet toid _
  · exact quiet_send h

theorem groupChat_quiet (userid groupid : Int) {js : Json} (h : toldOf fromJson js = none) :
    (groupChatFrom userid groupid js).All (QuietAct fromJson none) := by
  have hstore : ∀ ids, (storeOffline js ids).All (QuietAct fromJson none) := by
    intro ids
    induction ids with
    | nil => trivial
    | cons id ids ih =>
      refine Prog.All.bind (query_quiet id) fun user => ?_
      split
      · exact Prog.All.bind ih fun _ => trivial
      · exact Prog.All.bind (insertOffline_quiet id _) fun _ => ih
  refine Prog.All.bind (all_ask trivial (quiet_sql fun _ => id) trivial fun _ => trivial)
    fun useridVec => ?_
  refine Prog.All.bind (p := routeGroup _ _) ⟨h, fun _ => trivial⟩ fun offlineIds => ?_
  refine Prog.All.bind (hstore offlineIds) fun crossIds => ?_
  exact Prog.All.each fun id _ => ⟨trivial, fun _ => trivial⟩

/-- A request is a login, a logout, a friend more, or says nothing of friends. -/
theorem told_cases (fromJson : Str → Option Json) {conn : ConnId} {js : Json} {p : Serv Unit}
    (h : dispatch conn js = .ok p) :
    (∃ id pwd, js.intAt "msgid" = .ok 1 ∧ js.intAt "id" = .ok id ∧ p = loginAs conn id pwd) ∨
    (∃ id, p = loginoutAs conn id) ∨
    (∃ userid friendid, js.intAt "msgid" = .ok 7 ∧ js.intAt "id" = .ok userid ∧
      js.intAt "friendid" = .ok friendid ∧ p = addFriendAs conn userid friendid) ∨
    p.All (QuietAct fromJson none) := by
  have hquiet : ∀ {a b c d : Prop}, d → a ∨ b ∨ c ∨ d := fun hq => .inr (.inr (.inr hq))
  cases ChatService.handles_of_dispatch h with
  | login hm hid => exact .inl ⟨_, _, hm, hid, rfl⟩
  | loginout => exact .inr (.inl ⟨_, rfl⟩)
  | addFriend hm hu hf => exact .inr (.inr (.inl ⟨_, _, hm, hu, hf, rfl⟩))
  | nothing => exact hquiet trivial
  | loginFields => exact hquiet (quiet_send rfl)
  | regFields => exact hquiet (quiet_send rfl)
  | reg name pwd => exact hquiet (reg_quiet conn name pwd)
  | oneChat hm => exact hquiet (oneChat_quiet _ (toldOf_chat fromJson (.inl hm)))
  | createGroup userid name desc => exact hquiet (createGroup_quiet conn userid name desc)
  | addGroup userid groupid => exact hquiet (addGroup_quiet conn userid groupid)
  | groupChat hm => exact hquiet (groupChat_quiet _ _ (toldOf_chat fromJson (.inr hm)))
  | updateName userid newName => exact hquiet (updateName_quiet conn userid newName)
  | heartbeat => exact hquiet (heartbeat_quiet conn)

end Quiet

/-! ## Requests that do -/

section Handlers

variable {fromJson : Str → Option Json} {w w' : World} {conn : ConnId}

theorem logout_informed {userid : Int} (hs : w.Intact) (h : Informed fromJson none w)
    (hr : (loginoutAs conn userid).run (0 : ServerId) w = some ((), w')) :
    Informed fromJson none w' := by
  obtain ⟨_, w₁, h₁, hr⟩ := Prog.run_bind_eq_some.mp hr
  obtain ⟨_, w₂, h₂, hr⟩ := Prog.run_bind_eq_some.mp hr
  obtain ⟨_, w₃, h₃, hr⟩ := Prog.run_bind_eq_some.mp hr
  have hq₁ : Quieter fromJson none w w₁ := run_quieter (p := eraseUser userid)
    ⟨trivial, fun _ => trivial⟩ h₁
  have hq₂ : Quieter fromJson none w₁ w₂ := run_quieter (p := unsubscribe userid)
    ⟨trivial, fun _ => trivial⟩ h₂
  have hq₃ : Quieter fromJson none w₂ w₃ := run_quieter (p := eraseLastTime conn)
    ⟨trivial, fun _ => trivial⟩ h₃
  exact update_informed rfl rfl (run_intact (run_intact (run_intact hs h₁) h₂) h₃)
    (h.quieter (hq₁.trans (hq₂.trans hq₃))) hr

theorem clientClosed_informed {user : User} (hs : w.Intact) (h : Informed fromJson none w)
    (hr : (clientClosed conn user).run (0 : ServerId) w = some ((), w')) :
    Informed fromJson none w' := by
  obtain ⟨_, w₁, h₁, hr⟩ := Prog.run_bind_eq_some.mp hr
  obtain ⟨_, w₂, h₂, hr⟩ := Prog.run_bind_eq_some.mp hr
  have hq₁ : Quieter fromJson none w w₁ := run_quieter (p := unsubscribe user.id)
    ⟨trivial, fun _ => trivial⟩ h₁
  have hq₂ : Quieter fromJson none w₁ w₂ := run_quieter (p := eraseLastTime conn)
    ⟨trivial, fun _ => trivial⟩ h₂
  have hw₂ := h.quieter (hq₁.trans hq₂)
  split at hr
  · exact update_informed rfl rfl (run_intact (run_intact hs h₁) h₂) hw₂ hr
  · cases hr
    exact hw₂

theorem close_informed (hs : w.Intact) (h : Informed fromJson none w)
    (hr : (clientCloseException conn).run (0 : ServerId) w = some ((), w')) :
    Informed fromJson none w' := by
  obtain ⟨r, w₁, he, hr⟩ := close_runs (0 : ServerId) w hr
  have hq : Quieter fromJson none w w₁ := exec_quieter (a := .eraseConn conn) trivial he
  have hs₁ : w₁.Intact := run_intact (p := eraseConn conn) hs
    ((Prog.run_perform (L := chat) (0 : ServerId) (.eraseConn conn) w).trans he)
  exact clientClosed_informed hs₁ (h.quieter hq) hr

/-- Friendship goes both ways. -/
def Database.Mutual (db : Database) : Prop := ∀ a b, (a, b) ∈ db.friend → (b, a) ∈ db.friend

/-- On an open connection nobody has logged in before, or the user who logs in now and nobody else.
-/
def Server.LoginAlone (fromJson : Str → Option Json) (s : Server) (conn : ConnId) (id : Int) :
    Prop :=
  s.conns conn = .connected → (∀ u ∈ s.entriesOf conn, u = id) ∧
    (told fromJson (s.packets conn) = none ∨ s.userConnMap.lookup id = some conn)

/-- Who is logged in on an open connection speaks for himself, and names a user. -/
def Server.AddsFriend (s : Server) (db : Database) (conn : ConnId) (userid friendid : Int) : Prop :=
  s.conns conn = .connected → ∀ u ∈ s.entriesOf conn, u = userid ∧ db.hasUser u = true ∧
    db.hasUser friendid = true

/-- `fromJson` reads the objects that the server dumps for friends. -/
def ReadsFriends (fromJson : Str → Option Json) (db : Database) : Prop :=
  ∀ x ∈ db.friend, ∀ row ∈ db.user.find x.2, ∀ state ∈ [UserState.online, .offline],
    listedState fromJson (.str (friendJson (FriendModel.friendOf (x.2, { row with state }))).dump) =
      (x.2, state.text)

theorem ReadsFriends.of_row {fromJson : Str → Option Json} {db : Database} {x : Int × Int}
    {row : UserRow} (h : ReadsFriends fromJson db) (hx : x ∈ db.friend)
    (hrow : db.user.find x.2 = some row) (state : UserState) : listedState fromJson
      (.str (friendJson (FriendModel.friendOf (x.2, { row with state }))).dump) =
        (x.2, state.text) :=
  h x hx row hrow state (by cases state <;> simp)

theorem mem_friendRows {db : Database} {id : Int} {r : Int × UserRow} :
    r ∈ db.friendRows id ↔ (id, r.1) ∈ db.friend ∧ db.user.find r.1 = some r.2 := by
  unfold Database.friendRows
  rw [List.mem_filterMap]
  constructor
  · rintro ⟨⟨a, b⟩, hx, hrow⟩
    obtain ⟨hmem, ha⟩ := List.mem_filter.mp hx
    obtain rfl : a = id := of_decide_eq_true ha
    obtain ⟨row, hfind, rfl⟩ := Option.map_eq_some_iff.mp hrow
    exact ⟨hmem, hfind⟩
  · rintro ⟨hmem, hrow⟩
    exact ⟨(id, r.1), List.mem_filter.mpr ⟨hmem, decide_eq_true rfl⟩, by rw [hrow]; rfl⟩

theorem fewer_of_same (h : w.Same w') : Fewer w w' where
  entries u c hl := by rwa [h.servers] at hl
  conns c hc := by rwa [h.servers] at hc
  packets c := ⟨[], by rw [h.servers, List.append_nil]⟩

theorem quieter_of_same {ex : Option Int} (h : w.Same w') : Quieter fromJson ex w w' where
  toFewer := fewer_of_same h
  friend x hx := by rwa [h.db]
  state f st _ hst := by rwa [h.db]
  told c := by rw [h.servers]

theorem World.Intact.of_db (hs : w.Intact) (hw : w'.Works) (hdb : w'.db = w.db) : w'.Intact :=
  ⟨hw, hdb ▸ hs.keyed, hdb ▸ hs.wf⟩

theorem World.Intact.ask (hs : w.Intact) (st : Stmt) : (w.ask st).2.Intact := by
  have hw := hs.works.after_ask st
  rcases w.ask_cases st with ⟨-, h⟩ | ⟨r, db, he, -, h⟩
  · exact hs.of_db hw h
  · refine ⟨hw, ?_, ?_⟩
    · rw [h]
      exact Database.exec_keyed hs.keyed he
    · rw [h]
      exact Database.exec_wf hs.wf he

/-- The entry of a login. -/
theorem registered_informed {id : Int} {state : UserState}
    (halone : (w.servers 0).LoginAlone fromJson conn id) (h : Informed fromJson none w) :
    Informed fromJson none (w.registered 0 conn id state) := by
  intro u c hl hc
  rw [registered_lookup] at hl
  have hopen := ((registered_open w 0 conn id state c).mp hc).1
  rw [registered_db, Server.packets, registered_outbox, ← Server.packets]
  split at hl
  · rename_i hu
    cases hl
    subst hu
    rcases (halone hopen).2 with hnone | hentry
    · rw [hnone]
      exact tells_none _
    · exact h u conn hentry hopen
  · exact h u c hl hopen

/-- One packet more on a connection. -/
theorem deliver_informed {ex : Option Int} {js : Json} (h : Informed fromJson ex w)
    (hjs : (w.servers 0).conns conn = .connected →
      ∀ u, (w.servers 0).userConnMap.lookup u = some conn →
        Tells (Tracks ex w.db u) (told fromJson ((w.servers 0).packets conn ++ [js]))) :
    Informed fromJson ex (w.modify 0 (·.deliver conn js)) := by
  intro u c hl hc
  rw [World.modify_self] at hl hc
  have houtbox : ((w.modify 0 (·.deliver conn js)).servers 0).outbox =
      (w.servers 0).outbox ++ [⟨conn, js, (w.servers 0).conns conn = .connected⟩] := by
    rw [World.modify_self]
    rfl
  rw [packets_append houtbox, World.modify_db]
  by_cases hconn : conn = c
  · subst hconn
    have hopen : (w.servers 0).conns conn = .connected := hc
    simpa [hopen] using hjs hopen u hl
  · simpa [hconn] using h u c hl hc

/-- The pairs of an acknowledgement. -/
theorem loaded_tracks {db : Database} {id : Int} {ex : Option Int} (hm : db.Mutual)
    {p : Int × Str} (hp : p ∈ ((db.friendRows id).map FriendModel.friendOf).map fun u : User =>
      (u.id, u.state.text)) : Tracks ex db id p := by
  rw [List.map_map, List.mem_map] at hp
  obtain ⟨r, hr, rfl⟩ := hp
  obtain ⟨hmem, hrow⟩ := mem_friendRows.mp hr
  refine ⟨hm _ _ hmem, fun _ => ?_⟩
  change (db.stateOf r.1).map UserState.text = some r.2.state.text
  rw [Database.stateOf, hrow]
  rfl

/-- The entry and the row of an accepted login. -/
theorem loggedIn_informed {id : Int} (halone : (w.servers 0).LoginAlone fromJson conn id)
    (h : Informed fromJson none w) : Informed fromJson (some id) (w.loggedIn 0 conn id) := by
  have hselect := w.same_ask (s := .selectUser id) fun _ => ⟨_, rfl⟩
  have hentry : Informed fromJson none
      ((w.ask (.selectUser id)).2.registered 0 conn id (w.lookedUp id).state) := by
    refine registered_informed ?_ (h.quieter (quieter_of_same hselect))
    rwa [hselect.servers]
  exact (hentry.mono (some id)).quieter (run_quieter
    (p := UserModel.updateState { id := id, state := .online })
    (all_ask trivial (fun v hv => congrArg some hv) trivial fun _ => trivial)
    (run_updateState ..))

/-- Nobody else has the connection then. -/
theorem loggedIn_alone {id u : Int} (halone : (w.servers 0).LoginAlone fromJson conn id)
    (hopen : ((w.loggedIn 0 conn id).servers 0).conns conn = .connected)
    (hl : ((w.loggedIn 0 conn id).servers 0).userConnMap.lookup u = some conn) : u = id := by
  unfold World.loggedIn at hopen hl
  rw [World.ask_servers] at hopen hl
  have hopen := ((registered_open _ 0 conn id _ conn).mp hopen).1
  rw [registered_lookup] at hl
  rw [World.ask_servers] at hopen hl
  split at hl
  · assumption
  · exact (halone hopen).1 u (Server.mem_entriesOf.mpr hl)

/-- The copy that the acknowledgement of an accepted login loads. -/
theorem toldOf_loginAck {id : Int} (hw : w.Works) (hreads : ReadsFriends fromJson w.db) :
    toldOf fromJson (w.loginAck 0 conn id) =
      some (.load ((((w.loggedIn 0 conn id).db.friendRows id).map FriendModel.friendOf).map
        fun u : User => (u.id, u.state.text))) := by
  unfold World.loginAck
  rw [(loginVecs_works 0 conn hw id).1]
  refine toldOf_loginResponse fromJson fun u hu => ?_
  obtain ⟨⟨f, row⟩, hr, rfl⟩ := List.mem_map.mp hu
  obtain ⟨hmem, hfind⟩ := mem_friendRows.mp hr
  rw [loggedIn_db 0 conn hw id] at hmem hfind
  rw [Relational.Table.find_update] at hfind
  split at hfind
  · rename_i e
    obtain rfl : f = id := e
    obtain ⟨row', hrow, rfl⟩ := Option.map_eq_some_iff.mp hfind
    exact hreads.of_row hmem hrow .online
  · exact hreads.of_row hmem hfind row.state

/-- **A login** loads the copy of its connection, and tells the others. -/
theorem login_informed {id : Int} {pwd : Str} (hs : w.Intact) (hm : w.db.Mutual)
    (hreads : ReadsFriends fromJson w.db)
    (halone : (w.servers 0).LoginAlone fromJson conn id) (h : Informed fromJson none w)
    (hr : (loginAs conn id pwd).run (0 : ServerId) w = some ((), w')) :
    Informed fromJson none w' := by
  by_cases hacc : Accepts (w.lookedUp id) id pwd
  · have hlogged := loggedIn_informed halone h
    have hoffline := (w.loggedIn 0 conn id).same_ask (s := .selectOffline id) fun _ => ⟨_, rfl⟩
    have hdb := loggedIn_db 0 conn hs.works id
    have hintact : (w.loggedIn 0 conn id).Intact :=
      ((hs.ask (.selectUser id)).of_db (registered_works 0 conn (hs.works.after_ask _) id _)
        (registered_db ..)).ask _
    obtain ⟨w₁, w₂, hsame, hrun, hnotify⟩ := run_loginAs 0 w conn hacc
    rw [hr] at hrun
    cases hrun
    have hsame := hoffline.trans hsame
    have hinf : Informed fromJson (some id)
        (w₁.modify 0 (·.deliver conn (w.loginAck 0 conn id))) := by
      have hinf₁ := hlogged.quieter (quieter_of_same hsame)
      refine deliver_informed hinf₁ fun hopen u hl => ?_
      obtain rfl : u = id := by
        rw [hsame.servers] at hopen hl
        exact loggedIn_alone halone hopen hl
      rw [told_concat, toldOf_loginAck hs.works hreads, hsame.db]
      have htells := hinf₁ u conn hl hopen
      rw [hsame.db] at htells
      refine htells.load fun p hp => loaded_tracks ?_ hp
      rw [hdb]
      exact hm
    have hstate : ∀ db : Database, db.user = w₁.db.user → ∀ st', db.stateOf id = some st' →
        st' = .online := by
      intro db huser st' hst'
      rw [Database.stateOf, huser, hsame.db, hdb, Relational.Table.find_update, if_pos rfl,
        Option.map_map] at hst'
      obtain ⟨_, -, rfl⟩ := Option.map_eq_some_iff.mp hst'
      rfl
    have hintact₁ : w₁.Intact := hintact.of_db (hsame.works hintact.works) hsame.db
    have hintact₂ : (w₁.modify 0 (·.deliver conn (w.loginAck 0 conn id))).Intact :=
      hintact₁.of_db hintact₁.works rfl
    simp only at hnotify
    split at hnotify
    · exact notify_informed hintact₂.keyed hintact₂.wf hintact₂.works (hstate _ rfl) hinf hnotify
    · have hintact₃ := hintact₂.ask (.deleteOffline id)
      have hq : Quieter fromJson (some id) (w₁.modify 0 (·.deliver conn (w.loginAck 0 conn id)))
          ((w₁.modify 0 (·.deliver conn (w.loginAck 0 conn id))).ask (.deleteOffline id)).2 :=
        run_quieter (p := OfflineMsgModel.remove id)
          (all_ask trivial (fun v hv => hv.elim) trivial fun _ => trivial) (run_removeOffline ..)
      refine notify_informed hintact₃.keyed hintact₃.wf hintact₃.works (hstate _ ?_)
        (hinf.quieter hq) hnotify
      rw [hintact₂.works.ask]
      rfl
  · rw [loginAs_refused 0 w conn hacc] at hr
    cases hr
    have hask : Informed fromJson none (w.ask (.selectUser id)).2 :=
      h.quieter (quieter_of_same (w.same_ask fun _ => ⟨_, rfl⟩))
    exact hask.quieter (run_quieter (p := sendJson conn (loginError "id or password is invalid!"))
      (quiet_send rfl) rfl)

theorem asked_reaches (hw : w.Works) : w.Reaches ∧ w.asked.Reaches := by
  refine ⟨⟨hw 0, hw 1⟩, ?_⟩
  unfold World.asked
  rw [if_pos (hw 0)]
  exact ⟨hw 2, hw 3⟩

/-- **A friend more.** -/
theorem addFriend_informed {userid friendid : Int} (hs : w.Intact)
    (hadds : (w.servers 0).AddsFriend w.db conn userid friendid) (h : Informed fromJson none w)
    (hr : (addFriendAs conn userid friendid).run (0 : ServerId) w = some ((), w')) :
    Informed fromJson none w' := by
  have hrows := addFriend_rows hr
  have hall : ∀ a b, (FriendModel.insert a b).All (QuietAct fromJson none) := fun a b =>
    all_ask trivial (quiet_sql fun _ h => h) trivial fun _ => trivial
  obtain ⟨_, w₁, h₁, hr⟩ := Prog.run_bind_eq_some.mp hr
  obtain ⟨_, w₂, h₂, hr⟩ := Prog.run_bind_eq_some.mp hr
  obtain ⟨user, w₃, h₃, hr⟩ := Prog.run_bind_eq_some.mp hr
  have hq : Quieter fromJson none w w₃ := (run_quieter (hall _ _) h₁).trans
    ((run_quieter (hall _ _) h₂).trans (run_quieter (query_quiet friendid) h₃))
  have hs₂ := run_intact (run_intact hs h₁) h₂
  have hfound : user = User.found friendid (some (w₂.db.user.find friendid)) ∧ w₃.db = w₂.db := by
    rw [run_query, hs₂.works.ask_read rfl] at h₃
    cases h₃
    exact ⟨rfl, rfl⟩
  obtain ⟨huser, hdb⟩ := hfound
  rw [run_sendJson] at hr
  cases hr
  refine deliver_informed (h.quieter hq) fun hopen u hl => ?_
  obtain ⟨rfl, hu, hf⟩ := hadds (hq.conns conn hopen) u
    (Server.mem_entriesOf.mpr (hq.entries u conn hl))
  have hrow : ∃ row, w₂.db.user.find friendid = some row := by
    have huser₃ : w₃.db.user = w.db.user := hrows.user
    rw [← hdb, huser₃]
    exact Option.isSome_iff_exists.mp hf
  obtain ⟨row, hrow⟩ := hrow
  have hid : user.id = friendid := by rw [huser, hrow]; rfl
  have hstate : user.state = row.state := by rw [huser, hrow]; rfl
  have hadded : toldOf fromJson (friendAdded user) = some (.add user.id user.state.text) := by
    refine toldOf_friendAdded fromJson ?_
    rw [hid]
    exact fitsInt_id (hs₂.wf.user_find hrow).1
  change Tells _ (told fromJson (_ ++ [friendAdded user]))
  rw [told_concat, hadded]
  refine (h.quieter hq u conn hl hopen).add fun _ => ⟨?_, fun _ => ?_⟩
  · rw [hid]
    exact (hrows.friend (friendid, u)).mpr
      (.inr ⟨⟨hu, hf⟩, .inr ⟨rfl, (asked_reaches hs.works).2⟩⟩)
  · change (w₃.db.stateOf user.id).map UserState.text = some user.state.text
    rw [hid, hstate, hdb, Database.stateOf, hrow]
    rfl

/-- A request that changes the friends makes them mutual. -/
theorem addFriend_mutual {userid friendid : Int} (hw : w.Works) (hm : w.db.Mutual)
    (hr : (addFriendAs conn userid friendid).run (0 : ServerId) w = some ((), w')) :
    w'.db.Mutual := by
  have hrows := addFriend_rows hr
  obtain ⟨h₁, h₂⟩ := asked_reaches hw
  intro a b hab
  rw [hrows.friend] at hab ⊢
  rcases hab with hab | ⟨husers, ⟨hx, -⟩ | ⟨hx, -⟩⟩
  · exact .inl (hm a b hab)
  · cases hx
    exact .inr ⟨husers, .inr ⟨rfl, h₂⟩⟩
  · cases hx
    exact .inr ⟨husers, .inl ⟨rfl, h₁⟩⟩

end Handlers

end QtChat
