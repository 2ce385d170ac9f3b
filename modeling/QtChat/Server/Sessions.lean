import QtChat.Presence.Events
import QtChat.Server.Invariants
import QtChat.Server.LoginRuns
import QtChat.Server.Traces

/-!
# The sessions of a system of servers

Who is held by the servers' `_userConnMap`s, and who is online in the table `User`, when every
handler runs from its first action to its last.

- `Label.event`: what a step does to the sessions, read off the request and the state before it.
- `Neutral`: the actions that leave the sessions alone (`run_neutral`).
- `step_does`: **every step does what its event says**, to the entries always, to the rows when
  MySQL works.
-/

namespace QtChat

open Interleave ChatService Presence

/-- Server `i` has an entry for the user. -/
def World.holds (w : World) (i : ServerId) (id : Int) : Prop :=
  ((w.servers i).userConnMap.lookup id).isSome

/-- The row of the user says online. -/
def World.online (w : World) (id : Int) : Prop := w.db.stateOf id = some .online

/-- The user has a row. -/
def World.known (w : World) (id : Int) : Prop := (w.db.user.find id).isSome

instance (w : World) (i : ServerId) (id : Int) : Decidable (w.holds i id) :=
  inferInstanceAs (Decidable (_ = true))

instance (w : World) (id : Int) : Decidable (w.known id) := inferInstanceAs (Decidable (_ = true))

/-- No server holds anybody before the first one starts. -/
theorem not_holds_of_stopped {w : World} (h : ∀ i, w.servers i = .stopped) (i : ServerId)
    (id : Int) : ¬w.holds i id := by
  unfold World.holds
  rw [h i]
  simp [Server.stopped]

theorem World.known_of_online {w : World} {id : Int} (h : w.online id) : w.known id := by
  unfold World.online Database.stateOf at h
  obtain ⟨row, hr, -⟩ := Option.map_eq_some_iff.mp h
  rw [World.known, hr]
  rfl

/-- What a request does to the sessions. -/
def requestEvent (w : World) (i : ServerId) (js : Json) : Event ServerId Int :=
  match js.intAt "msgid", js.intAt "id" with
  | .ok msgid, .ok id =>
    if msgid = 1 then
      match js.stringAt "password" with
      | .ok pwd => if Accepts (w.lookedUp id) id pwd then .login i id else .none
      | .error _ => .none
    else if msgid = 3 then .logout i id
    else .none
  | _, _ => .none

/-- What the close of a connection does: it takes the first entry with the connection. -/
def closeEvent (w : World) (i : ServerId) (conn : ConnId) : Event ServerId Int :=
  match (w.servers i).firstOf conn (w.fates 0).pick with
  | none => .none
  | some id => .logout i id

/-- What a body does to the sessions. -/
def bodyEvent (P : JsonParser) (w : World) (i : ServerId) (body : Str) : Event ServerId Int :=
  match P.parse body with
  | none => .none
  | some js => requestEvent w i js

/-- What a step does to the sessions. -/
def Label.event (P : JsonParser) (w : World) : Label → Event ServerId Int
  | .whole i (.frame _ body) => bodyEvent P w i body
  | .whole i (.close conn) => closeEvent w i conn
  | .exit i => .exit i
  | .crash i => .crash i
  | _ => .none

/-- The handler runs from its first action to its last. -/
def Label.atomic : Label → Bool
  | .spawn .. => false
  | .act _ => false
  | _ => true

/-! ## Actions that leave the sessions alone -/

/-- The action enters and takes nobody, and writes no state into a row. -/
def Neutral : Act → Prop
  | .sql (.insertUser _ _ state) => state = .offline
  | .sql (.updateState ..) => False
  | .sql .resetState => False
  | .forceRelogin .. => False
  | .mapUser .. => False
  | .eraseUser _ => False
  | .eraseConn _ => False
  | _ => True

/-- The sessions are the same. -/
structure SamePresence (w w' : World) : Prop where
  holds : ∀ j u, w'.holds j u ↔ w.holds j u
  online : ∀ u, w'.online u ↔ w.online u

theorem SamePresence.refl (w : World) : SamePresence w w := ⟨fun _ _ => Iff.rfl, fun _ => Iff.rfl⟩

theorem SamePresence.trans {w₁ w₂ w₃ : World} (h : SamePresence w₁ w₂) (h' : SamePresence w₂ w₃) :
    SamePresence w₁ w₃ :=
  ⟨fun j u => (h'.holds j u).trans (h.holds j u), fun u => (h'.online u).trans (h.online u)⟩

theorem stmt_online {st : Stmt} {db db' : Database} {ans : st.Ans} (hn : Neutral (.sql st))
    (h : db.exec st = some (ans, db')) (u : Int) :
    db'.stateOf u = some .online ↔ db.stateOf u = some .online := by
  cases st with
  | insertUser name password state =>
    obtain rfl : state = .offline := hn
    simp only [Database.exec] at h
    split at h
    · obtain ⟨t, ht, he⟩ := Option.map_eq_some_iff.mp h
      cases he
      have hnew : db.user.find db.nextUser = none := by
        rw [← Option.not_isSome_iff_eq_none, ← Relational.Table.insert_eq_none, ht]
        exact Option.some_ne_none t
      simp only [Database.stateOf]
      rw [Relational.Table.find_insert ht]
      split
      · rename_i e
        rw [e, hnew]
        simp
      · exact Iff.rfl
    · cases h
  | updateState id state => exact hn.elim
  | resetState => exact hn.elim
  | updateName id name =>
    simp only [Database.exec] at h
    split at h
    · cases h; exact Iff.rfl
    · split at h
      · cases h
        simp only [Database.stateOf]
        rw [Relational.Table.find_update]
        split
        · rename_i e
          rw [← e, Option.map_map]
          exact Iff.rfl
        · exact Iff.rfl
      · cases h
  | insertFriend userid friendid =>
    simp only [Database.exec] at h
    cases h
    split <;> exact Iff.rfl
  | insertGroup name desc =>
    simp only [Database.exec] at h
    split at h
    · obtain ⟨t, ht, he⟩ := Option.map_eq_some_iff.mp h
      cases he; exact Iff.rfl
    · cases h
  | insertGroupUser groupid userid role =>
    simp only [Database.exec] at h
    split at h
    · obtain ⟨t, ht, he⟩ := Option.map_eq_some_iff.mp h
      cases he; exact Iff.rfl
    · cases h
  | insertOffline sql =>
    simp only [Database.exec] at h
    split at h
    · cases h
    · split at h
      · cases h; exact Iff.rfl
      · cases h
  | _ => cases h; exact Iff.rfl

theorem not_writesMap_of_neutral {a : Act} (h : Neutral a) : ¬WritesMap a := by
  cases a <;> simp_all [Neutral, WritesMap]

theorem exec_neutral {i : ServerId} {a : Act} {w w' : World} {r : a.Res} (hn : Neutral a)
    (h : World.exec i a w = some (r, w')) : SamePresence w w' where
  holds j u := by
    unfold World.holds
    rw [(exec_server h j).map (not_writesMap_of_neutral hn)]
  online u := by
    rcases exec_db h with e | ⟨st, ans, rfl, he⟩
    · unfold World.online
      rw [e]
    · exact stmt_online hn he u

theorem run_neutral {α : Type} {i : ServerId} {p : Serv α} {w w' : World} {x : α}
    (hp : p.All Neutral) (h : p.run i w = some (x, w')) : SamePresence w w' :=
  hp.run_rel (L := chat) SamePresence.refl (fun _ _ _ => SamePresence.trans)
    (fun _ _ _ _ ha he => exec_neutral ha he) h

theorem neutral_of_chat {a : Act} (h : ChatAct a) : Neutral a := by
  cases a with
  | sql st => cases st <;> simp_all [ChatAct, Neutral]
  | _ => simp_all [ChatAct, Neutral]

theorem neutral_of_record {a : Act} (h : RecordAct a) : Neutral a := by
  cases a with
  | sql st => cases st <;> simp_all [RecordAct, Neutral]
  | _ => simp_all [RecordAct, Neutral]

theorem neutral_of_notify {id : Int} {state : UserState} {a : Act} (h : NotifyAct id state a) :
    Neutral a := by
  cases a with
  | sql st => cases st <;> simp_all [NotifyAct, Neutral]
  | _ => simp_all [NotifyAct, Neutral]

theorem neutral_of_ack {conn : ConnId} {id : Int} {a : Act} (h : AckAct conn id a) : Neutral a := by
  cases a with
  | sql st => cases st <;> simp_all [AckAct, Neutral]
  | _ => simp_all [AckAct, Neutral]

theorem checkHeartbeat_neutral : checkHeartbeat.All Neutral := by
  refine Prog.All.bind (p := staleConns) ⟨trivial, fun _ => trivial⟩ fun conns => ?_
  exact Prog.All.each fun conn _ => ⟨trivial, fun _ => trivial⟩

/-! ## What the handlers do -/

/-- The worlds before and after differ in their sessions by the event; in the rows, when MySQL
works. -/
structure Does (e : Event ServerId Int) (w w' : World) : Prop where
  holds : ∀ j u, w'.holds j u ↔ e.holds w.holds j u
  online : w.Works → ∀ u, w'.online u ↔ e.online w.known w.online u

theorem SamePresence.does {w w' : World} (h : SamePresence w w') : Does .none w w' :=
  ⟨h.holds, fun _ => h.online⟩

section Handlers

variable {i : ServerId} {w w' : World} {conn : ConnId} {id : Int}

theorem ask_updateState_stateOf (hw : w.Works) (id : Int) (state : UserState) (u : Int) :
    (w.ask (.updateState id state)).2.db.stateOf u =
      if u = id then (w.db.stateOf id).map fun _ => state else w.db.stateOf u := by
  rw [hw.ask]
  simp only [Database.exec, Database.stateOf, Relational.Table.find_update]
  split
  · rw [Option.map_map, Option.map_map]
    rfl
  · rfl

theorem loggedIn_does (id : Int) : Does (.login i id) w (w.loggedIn i conn id) where
  holds j u := by
    unfold World.holds World.loggedIn
    rw [World.ask_servers]
    by_cases hj : j = i
    · subst hj
      rw [registered_lookup, World.ask_servers]
      by_cases hu : u = id <;> simp [Event.holds, hu]
    · rw [registered_ne _ _ _ hj, World.ask_servers]
      simp [Event.holds, hj]
  online hw u := by
    unfold World.online
    rw [loggedIn_db i conn hw id]
    simp only [Database.stateOf, Relational.Table.find_update, Event.online, World.known]
    by_cases hu : u = id
    · subst hu
      cases hf : w.db.user.find u <;> simp
    · simp [hu]

theorem login_does {pwd : Str} (h : Accepts (w.lookedUp id) id pwd)
    (hr : (loginAs conn id pwd).run i w = some ((), w')) : Does (.login i id) w w' := by
  rw [loginAs_accepted i w conn h, Prog.run_bind, run_registerConn, Option.bind_some,
    Prog.run_bind, run_updateState, Option.bind_some] at hr
  have hsame := run_neutral (Prog.All.bind ((sendLogin_acks _ _).mono fun _ => neutral_of_ack) fun _ =>
    (notifyFriendState_all id .online).mono fun _ => neutral_of_notify) hr
  have hloggedIn : (World.ask (.updateState (w.lookedUp id).id .online)
      ((w.ask (.selectUser id)).2.registered i conn id (w.lookedUp id).state)).2 =
        w.loggedIn i conn id := by
    rw [World.loggedIn, h.1]
  rw [hloggedIn] at hsame
  have hdoes : Does (.login i id) w (w.loggedIn i conn id) := loggedIn_does id
  exact ⟨fun j u => (hsame.holds j u).trans (hdoes.holds j u),
    fun hw u => (hsame.online u).trans (hdoes.online hw u)⟩

theorem refused_does {pwd : Str} (h : ¬Accepts (w.lookedUp id) id pwd)
    (hr : (loginAs conn id pwd).run i w = some ((), w')) : Does .none w w' := by
  rw [loginAs_refused i w conn h] at hr
  have hr' : (UserModel.query id >>= fun _ =>
      sendJson conn (loginError "id or password is invalid!")).run i w = some ((), w') := by
    rw [Prog.run_bind, run_query, Option.bind_some, run_sendJson]
    exact hr
  exact (run_neutral (Prog.All.bind (all_query trivial trivial) fun _ => all_sendJson trivial)
    hr').does

/-- The end of a logout and of a close: the row is set offline, and the friends are told. -/
def goOffline (conn : ConnId) (id : Int) : Serv Unit := do
  let _ ← unsubscribe id
  eraseLastTime conn
  let _ ← UserModel.updateState { id := id, state := .offline }
  notifyFriendState id .offline

theorem goOffline_spec (hr : (goOffline conn id).run i w = some ((), w')) :
    (∀ j u, w'.holds j u ↔ w.holds j u) ∧ (w.Works → ∀ u, w'.online u ↔ w.online u ∧ u ≠ id) := by
  have h₁ := run_neutral (p := unsubscribe id) ⟨trivial, fun _ => trivial⟩ (run_unsubscribe i w id)
  have h₂ := run_neutral (p := eraseLastTime conn) ⟨trivial, fun _ => trivial⟩
    (run_eraseLastTime i (w.modify i (·.unsubscribe id)) conn)
  have h₁₂ := h₁.trans h₂
  unfold goOffline at hr
  rw [Prog.run_bind, run_unsubscribe, Option.bind_some, Prog.run_bind, run_eraseLastTime,
    Option.bind_some, Prog.run_bind, run_updateState, Option.bind_some] at hr
  generalize hw₂ : (w.modify i (·.unsubscribe id)).modify i
    (fun s => { s with connectionLastTime := s.connectionLastTime.erase conn }) = w₂ at h₁₂ hr
  have h₃ := run_neutral ((notifyFriendState_all id .offline).mono fun _ => neutral_of_notify) hr
  refine ⟨fun j u => ?_, fun hw u => ?_⟩
  · rw [h₃.holds, ← h₁₂.holds, World.holds, World.ask_servers, World.holds]
  · have hworks : w₂.Works := by
      rw [← hw₂]
      exact hw
    rw [h₃.online, ← h₁₂.online, World.online, ask_updateState_stateOf hworks]
    by_cases hu : u = id
    · simp [hu]
    · simp [hu, World.online]

theorem erased_holds (w : World) (i : ServerId) (id : Int) (j : ServerId) (u : Int) :
    (w.modify i fun s => { s with userConnMap := s.userConnMap.erase id }).holds j u ↔
      (Event.logout i id).holds w.holds j u := by
  unfold World.holds
  by_cases hj : j = i
  · subst hj
    rw [World.modify_self]
    by_cases hu : u = id
    · subst hu
      rw [AList.lookup_erase]
      simp [Event.holds]
    · rw [AList.lookup_erase_ne hu]
      simp [Event.holds, hu]
  · rw [World.modify_ne _ hj]
    simp [Event.holds, hj]

theorem logout_does (hr : (loginoutAs conn id).run i w = some ((), w')) :
    Does (.logout i id) w w' := by
  have hp : loginoutAs conn id = eraseUser id >>= fun _ => goOffline conn id := rfl
  rw [hp, Prog.run_bind, run_eraseUser, Option.bind_some] at hr
  obtain ⟨hh, ho⟩ := goOffline_spec hr
  exact ⟨fun j u => (hh j u).trans (erased_holds w i id j u), fun hw u => ho hw u⟩

theorem close_does (hwf : w.db.Wf) (hr : (clientCloseException conn).run i w = some ((), w')) :
    Does (closeEvent w i conn) w w' := by
  obtain ⟨r, w₁, he, hr⟩ := close_runs i w hr
  rw [World.exec] at he
  unfold closeEvent
  cases hf : (w.servers i).firstOf conn (w.fates 0).pick with
  | none =>
    rw [hf] at he
    cases he
    have hsame := run_neutral (p := clientClosed conn {})
      ⟨trivial, fun _ => ⟨trivial, fun _ => trivial⟩⟩ hr
    exact SamePresence.does ⟨hsame.holds, hsame.online⟩
  | some id =>
    rw [hf] at he
    cases he
    have herased := erased_holds w i id
    by_cases hid : id = -1
    · subst hid
      have hsame := run_neutral (p := clientClosed conn { id := -1 })
        ⟨trivial, fun _ => ⟨trivial, fun _ => trivial⟩⟩ hr
      refine ⟨fun j u => (hsame.holds j u).trans (herased j u), fun _ u => ?_⟩
      refine (hsame.online u).trans ⟨fun ho => ⟨ho, ?_⟩, fun ho => ho.1⟩
      -- no row has the id -1
      rintro rfl
      have hknown : w.known (-1) := World.known_of_online ho
      obtain ⟨row, hrow⟩ := Option.isSome_iff_exists.mp hknown
      have := (hwf.user_find hrow).1.1
      omega
    · have hoff : clientClosed conn { id } = goOffline conn id := by
        unfold clientClosed goOffline
        simp only [ne_eq, hid, not_false_eq_true, if_true]
      replace hr : (clientClosed conn { id }).run i _ = some ((), w') := hr
      rw [hoff] at hr
      obtain ⟨hh, ho⟩ := goOffline_spec hr
      exact ⟨fun j u => (hh j u).trans (herased j u), fun hw u => ho (fun n => hw (n + 1)) u⟩

/-- A server that has no entries any more. -/
theorem emptied_holds (w : World) (i : ServerId) {s : Server} (hs : s.userConnMap = ∅)
    (j : ServerId) (u : Int) : (w.modify i fun _ => s).holds j u ↔ w.holds j u ∧ j ≠ i := by
  unfold World.holds
  by_cases hj : j = i
  · subst hj
    rw [World.modify_self, hs]
    simp
  · rw [World.modify_ne _ hj]
    simp [hj]

/-- Leaving, a server sets all rows offline. -/
theorem exit_does (hr : reset.run i w = some ((), w')) :
    Does (.exit i) w (w'.modify i fun _ => .stopped) := by
  unfold reset at hr
  rw [run_resetState] at hr
  cases hr
  constructor
  · intro j u
    rw [emptied_holds _ i rfl, World.holds, World.ask_servers]
    rfl
  · intro hw u
    refine iff_of_false ?_ id
    rw [World.online, World.modify_db, hw.ask]
    simp only [Database.exec, Database.stateOf, Relational.Table.find_updateAll]
    cases w.db.user.find u <;> simp

/-! ## Requests -/

/-- A member that is read and is not null is there. -/
theorem contains_of_index {js v : Json} {key : String} (h : js.index key = .ok v)
    (hv : v ≠ .null) : js.contains key = true := by
  cases js with
  | obj m =>
    rw [Json.contains]
    cases hg : (Json.obj m).get? key with
    | some v => rfl
    | none =>
      rw [Json.index, hg] at h
      cases h
      exact absurd rfl hv
  | null => cases h; exact absurd rfl hv
  | _ => cases h

theorem contains_of_intAt {js : Json} {key : String} {z : Int} (h : js.intAt key = .ok z) :
    js.contains key = true := by
  obtain ⟨v, hv, hz⟩ := ok_of_reads h
  refine contains_of_index hv ?_
  rintro rfl
  cases hz

theorem contains_of_stringAt {js : Json} {key : String} {s : Str} (h : js.stringAt key = .ok s) :
    js.contains key = true := by
  obtain ⟨v, hv, hs⟩ := ok_of_reads h
  refine contains_of_index hv ?_
  rintro rfl
  cases hs

theorem dispatch_login {js : Json} {pwd : Str} (hm : js.intAt "msgid" = .ok 1)
    (hi : js.intAt "id" = .ok id) (hp : js.stringAt "password" = .ok pwd) :
    dispatch conn js = .ok (loginAs conn id pwd) := by
  unfold dispatch
  rw [hm]
  change ChatService.login conn js = _
  unfold ChatService.login
  rw [contains_of_intAt hi, contains_of_stringAt hp, hi, hp]
  rfl

theorem dispatch_loginout {js : Json} (hm : js.intAt "msgid" = .ok 3)
    (hi : js.intAt "id" = .ok id) : dispatch conn js = .ok (loginoutAs conn id) := by
  unfold dispatch
  rw [hm]
  change ChatService.loginout conn js = _
  unfold ChatService.loginout
  rw [contains_of_intAt hi, hi]
  rfl

/-- A request is a login that is read, a logout that is read, or leaves the sessions alone. -/
theorem requestEvent_cases (w : World) (i : ServerId) (conn : ConnId) (js : Json) :
    (∃ id pwd, dispatch conn js = .ok (loginAs conn id pwd) ∧ requestEvent w i js =
        if Accepts (w.lookedUp id) id pwd then .login i id else .none) ∨
      (∃ id, dispatch conn js = .ok (loginoutAs conn id) ∧ requestEvent w i js = .logout i id) ∨
      (Request.run (dispatch conn js)).All Neutral ∧ requestEvent w i js = .none := by
  have hother : (∀ id pwd, js.intAt "msgid" = .ok 1 → js.intAt "id" = .ok id →
      js.stringAt "password" = .ok pwd → False) →
      (∀ id, js.intAt "msgid" = .ok 3 → js.intAt "id" = .ok id → False) →
      (Request.run (dispatch conn js)).All Neutral := by
    intro hlogin hlogout
    cases hd : dispatch conn js with
    | error e => trivial
    | ok p =>
      change p.All Neutral
      cases handles_of_dispatch hd with
      | nothing => trivial
      | loginFields => exact all_sendJson trivial
      | regFields => exact all_sendJson trivial
      | login hm hi hp => exact (hlogin _ _ hm hi hp).elim
      | loginout hm hi => exact (hlogout _ hm hi).elim
      | reg name pwd => exact (regAs_all conn name pwd).mono fun _ => neutral_of_record
      | oneChat => exact (oneChatTo_all _ js).mono fun _ => neutral_of_chat
      | addFriend => exact (addFriendAs_all conn _ _).mono fun _ => neutral_of_record
      | createGroup a b c => exact (createGroupAs_all conn a b c).mono fun _ => neutral_of_record
      | addGroup a b => exact (addGroupAs_all conn a b).mono fun _ => neutral_of_record
      | groupChat => exact (groupChatFrom_all _ _ js).mono fun _ => neutral_of_chat
      | updateName a b => exact (updateNameAs_all conn a b).mono fun _ => neutral_of_record
      | heartbeat => exact (heartbeatOf_all conn).mono fun _ => neutral_of_record
  unfold requestEvent
  cases hm : js.intAt "msgid" with
  | error e => exact .inr (.inr ⟨hother (by simp [hm]) (by simp [hm]), rfl⟩)
  | ok msgid =>
    cases hi : js.intAt "id" with
    | error e => exact .inr (.inr ⟨hother (by simp [hi]) (by simp [hi]), rfl⟩)
    | ok id =>
      by_cases h1 : msgid = 1
      · subst h1
        cases hp : js.stringAt "password" with
        | error e => exact .inr (.inr ⟨hother (by simp [hp]) (by simp [hm]), rfl⟩)
        | ok pwd => exact .inl ⟨id, pwd, dispatch_login hm hi hp, rfl⟩
      · by_cases h3 : msgid = 3
        · subst h3
          exact .inr (.inl ⟨id, dispatch_loginout hm hi, rfl⟩)
        · refine .inr (.inr ⟨hother ?_ ?_, by simp only [h1, h3, if_false]⟩)
          · rintro id' pwd' h
            rw [hm, Except.ok.injEq] at h
            exact absurd h h1
          · rintro id' h
            rw [hm, Except.ok.injEq] at h
            exact absurd h h3

theorem request_does {js : Json}
    (hr : (Request.run (dispatch conn js)).run i w = some ((), w')) :
    Does (requestEvent w i js) w w' := by
  rcases requestEvent_cases w i conn js with ⟨id, pwd, hd, he⟩ | ⟨id, hd, he⟩ | ⟨hn, he⟩
  · rw [hd] at hr
    rw [he]
    split
    · rename_i ha
      exact login_does ha hr
    · rename_i ha
      exact refused_does ha hr
  · rw [hd] at hr
    rw [he]
    exact logout_does hr
  · rw [he]
    exact (run_neutral hn hr).does

/-! ## Steps -/

theorem samePresence_modify {f : Server → Server}
    (hf : (f (w.servers i)).userConnMap = (w.servers i).userConnMap) :
    SamePresence w (w.modify i f) where
  holds j u := by
    unfold World.holds
    rw [World.modify_field (·.userConnMap) hf]
  online _ := Iff.rfl

theorem World.lookedUp_modify (w : World) (i : ServerId) (f : Server → Server) (id : Int) :
    (w.modify i f).lookedUp id = w.lookedUp id := by
  unfold World.lookedUp World.ask
  rw [World.modify_fates, World.modify_db]
  split
  · split
    · cases w.db.exec (.selectUser id) <;> rfl
    · rfl
  · rfl

theorem requestEvent_modify (w : World) (i : ServerId) (f : Server → Server) (k : ServerId)
    (js : Json) : requestEvent (w.modify i f) k js = requestEvent w k js := by
  unfold requestEvent
  simp only [World.lookedUp_modify]

/-- A change before that leaves the sessions, the tables and the outcomes alone. -/
theorem Does.after {e : Event ServerId Int} {w₁ : World} (h : Does e w₁ w')
    (hsame : SamePresence w w₁) (hdb : w₁.db = w.db) (hfates : w₁.fates = w.fates) :
    Does e w w' where
  holds j u := (h.holds j u).trans (Event.holds_congr hsame.holds e j u)
  online hw u := by
    have hworks : w₁.Works := by
      unfold World.Works
      rw [hfates]
      exact hw
    have hknown : ∀ v, w₁.known v ↔ w.known v := fun v => by unfold World.known; rw [hdb]
    exact (h.online hworks u).trans (Event.online_congr hknown hsame.online e u)

theorem frame_does {P : JsonParser} {body : Str}
    (hr : (handleMsg P conn body).run i w = some ((), w')) :
    Does (bodyEvent P w i body) w w' := by
  unfold bodyEvent
  rcases handleMsg_runs i w hr with ⟨hp, rfl⟩ | ⟨js, hp, hr⟩
  · rw [hp]
    exact (SamePresence.refl w').does
  · rw [hp]
    have := (request_does hr).after (samePresence_modify rfl) rfl rfl
    rwa [World.noted, requestEvent_modify] at this

/-- A stopped server that nobody restarted has no entries. -/
def World.Idle (w : World) : Prop := ∀ i id, w.holds i id → (w.servers i).running = true

/-- What a job does from its begin to its end. -/
theorem job_does {P : JsonParser} {job : Job} {p : Serv Unit} {w₁ : World} (hwf : w.db.Wf)
    (hb : job.Begins P i w p w₁) (hr : p.run i w₁ = some ((), w')) :
    Does (Label.event P w (.whole i job)) w w' := by
  cases hb with
  | frame => exact frame_does hr
  | @close conn =>
    have hsame : SamePresence w (w.modify i fun s =>
        { s with conns := Function.update s.conns conn .disconnected }) := samePresence_modify rfl
    have hdoes := (close_does (by exact hwf) hr).after hsame rfl rfl
    unfold closeEvent at hdoes
    rw [World.modify_self] at hdoes
    exact hdoes
  | @redis ch message inbox =>
    have hsame : SamePresence w (w.modify i fun s => { s with inbox }) := samePresence_modify rfl
    have hrun := run_neutral ((handleRedisSubscribeMessage_all P _ _).mono
      fun _ => neutral_of_chat) hr
    exact (hsame.trans hrun).does
  | check => exact (run_neutral checkHeartbeat_neutral hr).does

/-- **Every step does what its event says.** -/
theorem step_does {P : JsonParser} {l : Label} {s s' : Sys} (hat : l.atomic = true)
    (hwf : s.world.db.Wf) (hidle : s.world.Idle) (h : Sys.step P l s = some s') :
    Does (l.event P s.world) s.world s'.world := by
  cases Sys.steps h with
  | @start i redis hrun =>
    refine SamePresence.does ⟨fun j u => ?_, fun _ => Iff.rfl⟩
    rw [emptied_holds _ i rfl]
    refine ⟨fun hh => hh.1, fun hh => ⟨hh, ?_⟩⟩
    -- nothing was left on the server
    rintro rfl
    rw [hidle j u hh] at hrun
    cases hrun
  | whole hb hr => exact job_does hwf hb hr
  | spawn => cases hat
  | done => cases hat
  | act => cases hat
  | tick => exact SamePresence.does ⟨fun _ _ => Iff.rfl, fun _ => Iff.rfl⟩
  | connect =>
    dsimp only
    exact (samePresence_modify rfl).does
  | publishLost =>
    dsimp only
    exact (samePresence_modify rfl).does
  | subscribeLost =>
    dsimp only
    exact (samePresence_modify rfl).does
  | resubscribe =>
    dsimp only
    exact (samePresence_modify rfl).does
  | exit _ hr => exact exit_does hr
  | crash => exact ⟨fun j u => emptied_holds _ _ rfl j u, fun _ _ => Iff.rfl⟩

theorem ServerStep.running {a : Act} {s s' : Server} (h : ServerStep a s s') :
    s'.running = s.running := by
  cases h with
  | shutdown => exact (s.shutdownConn_rest _).running
  | publish => unfold Server.push; split <;> rfl
  | subscribe => exact (s.subscribe_rest _).running
  | unsubscribe => exact (s.unsubscribe_rest _).running
  | forceRelogin => exact (s.forceRelogin_rest _ _).running
  | routeGroup => rw [Server.foldl_deliver]
  | _ => rfl

theorem run_running {α : Type} {p : Serv α} {x : α} (h : p.run i w = some (x, w')) (j : ServerId) :
    (w'.servers j).running = (w.servers j).running :=
  p.all_true.run_rel (L := chat) (R := fun w w' : World =>
    (w'.servers j).running = (w.servers j).running) (fun _ => rfl) (fun _ _ _ h h' => h'.trans h)
    (fun _ _ _ _ _ he => (exec_server he j).running) h

theorem whole_running {P : JsonParser} {job : Job} {s s' : Sys}
    (h : Sys.step P (.whole i job) s = some s') (j : ServerId) :
    (s'.world.servers j).running = (s.world.servers j).running := by
  cases Sys.steps h with
  | whole hb hr =>
    exact (run_running hr j).trans (hb.field (·.running) (fun _ _ => rfl) (fun _ _ => rfl) j)

/-- The logins of a job are on its server. -/
theorem event_login {P : JsonParser} {job : Job} {j : ServerId} {u : Int}
    (h : Label.event P w (.whole i job) = .login j u) : j = i := by
  cases job with
  | frame conn body =>
    change bodyEvent P w i body = _ at h
    unfold bodyEvent at h
    split at h
    · cases h
    · rename_i js _
      rcases requestEvent_cases w i 0 js with ⟨id, pwd, -, he⟩ | ⟨id, -, he⟩ | ⟨-, he⟩
      · rw [he] at h
        split at h <;> cases h
        rfl
      · rw [he] at h
        cases h
      · rw [he] at h
        cases h
  | close conn =>
    change closeEvent w i conn = _ at h
    unfold closeEvent at h
    split at h <;> cases h
  | redis => cases h
  | check => cases h

theorem step_idle {P : JsonParser} {l : Label} {s s' : Sys} (hat : l.atomic = true)
    (hwf : s.world.db.Wf) (hidle : s.world.Idle) (h : Sys.step P l s = some s') :
    s'.world.Idle := by
  intro j u hj
  rw [(step_does hat hwf hidle h).holds] at hj
  -- the server ran before, unless the step is its start
  have hbefore := Event.held_before hj
  have hrunning : ∀ i f, (f (s.world.servers i)).running = (s.world.servers i).running →
      s.world.holds j u → ((s.world.modify i f).servers j).running = true := fun i f hf hj =>
    (World.modify_field (·.running) hf j).trans (hidle j u hj)
  cases Sys.steps h with
  | @start i redis =>
    by_cases hji : j = i
    · subst hji
      rw [World.modify_self]
      rfl
    · rw [World.modify_ne _ hji]
      exact hidle j u hj
  | whole hb hr =>
    rw [run_running hr j, hb.field (·.running) (fun _ _ => rfl) (fun _ _ => rfl)]
    rcases hbefore with hh | hl
    · exact hidle j u hh
    · rw [event_login hl]
      exact hb.running
  | spawn => cases hat
  | done => cases hat
  | act => cases hat
  | tick => exact hidle j u hj
  | exit _ hr =>
    rw [World.modify_ne _ hj.2, run_running hr j]
    exact hidle j u hj.1
  | crash =>
    rw [World.modify_ne _ hj.2]
    exact hidle j u hj.1
  | connect =>
    dsimp only
    exact hrunning _ _ rfl hj
  | publishLost =>
    dsimp only
    exact hrunning _ _ rfl hj
  | subscribeLost =>
    dsimp only
    exact hrunning _ _ rfl hj
  | resubscribe =>
    dsimp only
    exact hrunning _ _ rfl hj

/-- The handlers run on these servers. -/
def Label.WorksOn (servers : List ServerId) : Label → Prop
  | .whole i _ => i ∈ servers
  | _ => True

instance (servers : List ServerId) (l : Label) : Decidable (l.WorksOn servers) := by
  unfold Label.WorksOn; split <;> infer_instance

end Handlers

theorem step_wf {P : JsonParser} {l : Label} {s s' : Sys} (hwf : s.world.db.Wf)
    (h : Sys.step P l s = some s') : s'.world.db.Wf :=
  step_keep (K := fun w => w.db.Wf) (fun _ _ _ _ _ hw he => by
    rcases exec_db he with e | ⟨st, ans, rfl, hx⟩
    · rw [e]; exact hw
    · exact Database.exec_wf hw hx) (fun _ _ hd _ hw => by rw [hd]; exact hw) hwf h

theorem step_works {P : JsonParser} {l : Label} {s s' : Sys} (hw : s.world.Works)
    (h : Sys.step P l s = some s') : s'.world.Works :=
  step_keep (K := World.Works) (fun _ _ _ _ _ hw he => exec_works hw he)
    (fun _ _ _ hf hw => by unfold World.Works; rw [hf]; exact hw) hw h

/-- The servers that may hold users are among these. -/
structure Sys.HoldsOn (servers : List ServerId) (s : Sys) : Prop where
  wf : s.world.db.Wf
  idle : s.world.Idle
  held : ∀ j u, s.world.holds j u → j ∈ servers

/-- A server that holds users runs handlers. -/
theorem Sys.HoldsOn.step {P : JsonParser} {servers : List ServerId} {l : Label} {s s' : Sys}
    (hs : s.HoldsOn servers) (hat : l.atomic = true) (hl : l.WorksOn servers)
    (h : Sys.step P l s = some s') : s'.HoldsOn servers := by
  refine ⟨step_wf hs.wf h, step_idle hat hs.wf hs.idle h, fun j u hj => ?_⟩
  rw [(step_does hat hs.wf hs.idle h).holds] at hj
  rcases Event.held_before hj with hj | he
  · exact hs.held j u hj
  · cases l with
    | whole i job =>
      rw [event_login he]
      exact hl
    | _ => cases he

theorem Sys.HoldsOn.of_stopped {servers : List ServerId} {s : Sys} (hwf : s.world.db.Wf)
    (h : ∀ i, s.world.servers i = .stopped) : s.HoldsOn servers :=
  ⟨hwf, fun i u hi => absurd hi (not_holds_of_stopped h i u),
    fun i u hi => absurd hi (not_holds_of_stopped h i u)⟩

end QtChat
