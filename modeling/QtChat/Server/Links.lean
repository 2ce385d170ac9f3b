import QtChat.Server.Sessions

/-!
# The connections of a server

What handlers do to `_userConnMap`, to the connections and to `_connectionLastTime`. A request is an
accepted login, a logout, or leaves all three alone but for the time of its own connection
(`request_cases`).

- `run_links`: programs that keep the entries and the connections; `login_links`, `logout_links`,
  `close_links`, `check_links`: what the others do to them.
- `run_times`: programs that keep the times; `frame_times`, `close_times`: what the others do.
-/

namespace QtChat

open Interleave ChatService

/-! ## Requests -/

/-- Writes no entry, closes nothing and notes no time. -/
def PlainAct : Act → Prop
  | .forceRelogin .. => False
  | .mapUser .. => False
  | .eraseUser _ => False
  | .eraseConn _ => False
  | .shutdown _ => False
  | .eraseLastTime _ => False
  | .updateConnTime _ => False
  | _ => True

theorem plain_of_chat {a : Act} (h : ChatAct a) : PlainAct a := by
  cases a <;> first | exact trivial | exact h.elim

theorem plain_of_row {a : Act} (h : RowAct a) : PlainAct a := by
  cases a <;> first | exact trivial | exact h.elim

theorem plain_of_ack {conn : ConnId} {id : Int} {a : Act} (h : AckAct conn id a) : PlainAct a := by
  cases a <;> first | exact trivial | exact h.elim

theorem plain_of_notify {id : Int} {state : UserState} {a : Act} (h : NotifyAct id state a) :
    PlainAct a := by
  cases a <;> first | exact trivial | exact h.elim

/-- A request is a login that is read, a logout that is read, a heartbeat, or plain. -/
theorem request_cases (conn : ConnId) (js : Json) :
    (∃ id pwd, js.intAt "msgid" = .ok 1 ∧ js.intAt "id" = .ok id ∧ js.stringAt "password" = .ok pwd ∧
      dispatch conn js = .ok (loginAs conn id pwd)) ∨
    (∃ id, js.intAt "msgid" = .ok 3 ∧ js.intAt "id" = .ok id ∧
      dispatch conn js = .ok (loginoutAs conn id)) ∨
    dispatch conn js = .ok (heartbeatOf conn) ∨
    (Request.run (dispatch conn js)).All PlainAct := by
  cases hd : dispatch conn js with
  | error e => exact .inr (.inr (.inr trivial))
  | ok p =>
    have hplain : p.All PlainAct → (Request.run (.ok p)).All PlainAct := id
    cases handles_of_dispatch hd with
    | nothing => exact .inr (.inr (.inr trivial))
    | loginFields => exact .inr (.inr (.inr (all_sendJson trivial)))
    | regFields => exact .inr (.inr (.inr (all_sendJson trivial)))
    | login hm hi hp => exact .inl ⟨_, _, hm, hi, hp, rfl⟩
    | loginout hm hi => exact .inr (.inl ⟨_, hm, hi, rfl⟩)
    | heartbeat => exact .inr (.inr (.inl rfl))
    | oneChat =>
      exact .inr (.inr (.inr (hplain ((oneChatTo_all _ js).mono fun _ => plain_of_chat))))
    | groupChat =>
      exact .inr (.inr (.inr (hplain ((groupChatFrom_all _ _ js).mono fun _ => plain_of_chat))))
    | reg name pwd =>
      exact .inr (.inr (.inr (hplain ((regAs_rows conn name pwd).mono fun _ => plain_of_row))))
    | addFriend =>
      exact .inr (.inr (.inr (hplain ((addFriendAs_rows conn _ _).mono fun _ => plain_of_row))))
    | createGroup a b c =>
      exact .inr (.inr (.inr (hplain ((createGroupAs_rows conn a b c).mono fun _ => plain_of_row))))
    | addGroup a b =>
      exact .inr (.inr (.inr (hplain ((addGroupAs_rows conn a b).mono fun _ => plain_of_row))))
    | updateName a b =>
      exact .inr (.inr (.inr (hplain ((updateNameAs_rows conn a b).mono fun _ => plain_of_row))))

/-! ## Entries and connections -/

/-- The entries and the connections of all servers are the same. -/
structure SameLinks (w w' : World) : Prop where
  entries : ∀ j, (w'.servers j).userConnMap = (w.servers j).userConnMap
  conns : ∀ j, (w'.servers j).conns = (w.servers j).conns

theorem SameLinks.refl (w : World) : SameLinks w w := ⟨fun _ => rfl, fun _ => rfl⟩

theorem SameLinks.trans {w₁ w₂ w₃ : World} (h : SameLinks w₁ w₂) (h' : SameLinks w₂ w₃) :
    SameLinks w₁ w₃ :=
  ⟨fun j => (h'.entries j).trans (h.entries j), fun j => (h'.conns j).trans (h.conns j)⟩

theorem SameLinks.modify {w : World} {i : ServerId} {f : Server → Server}
    (he : (f (w.servers i)).userConnMap = (w.servers i).userConnMap)
    (hc : (f (w.servers i)).conns = (w.servers i).conns) : SameLinks w (w.modify i f) :=
  ⟨World.modify_field (·.userConnMap) he, World.modify_field (·.conns) hc⟩

theorem same_links_of_servers {w w' : World} (h : w'.servers = w.servers) : SameLinks w w' := by
  constructor <;> intro j <;> rw [h]

/-- Neither the entries nor the connections change. -/
def Linkless (a : Act) : Prop := ¬WritesMap a ∧ ∀ conn, a ≠ .shutdown conn

theorem linkless_of_plain {a : Act} (h : PlainAct a) : Linkless a := by
  refine ⟨fun hm => ?_, ?_⟩
  · cases a <;> first | exact hm | exact h
  · rintro conn rfl
    exact h

theorem run_links {α : Type} {i : ServerId} {p : Serv α} {w w' : World} {x : α}
    (hp : p.All Linkless) (h : p.run i w = some (x, w')) : SameLinks w w' :=
  hp.run_rel (L := chat) SameLinks.refl (fun _ _ _ => SameLinks.trans)
    (fun a w r w' ha he => ⟨fun j => (exec_server he j).map ha.1, fun j =>
      (exec_server he j).conns ha.2 fun id conn e => ha.1 (by rw [e]; trivial)⟩) h

section Handlers

variable {i : ServerId} {w w' : World} {conn : ConnId} {id : Int}

/-- An accepted login changes the entries and the connections where it enters its own. -/
theorem login_links {pwd : Str} (h : Accepts (w.lookedUp id) id pwd)
    (hr : (loginAs conn id pwd).run i w = some ((), w')) :
    SameLinks ((w.ask (.selectUser id)).2.registered i conn id (w.lookedUp id).state) w' := by
  rw [loginAs_accepted i w conn h, Prog.run_bind, run_registerConn, Option.bind_some,
    Prog.run_bind, run_updateState, Option.bind_some] at hr
  have hplain := Prog.All.bind
    ((sendLogin_acks conn { w.lookedUp id with state := .online }).mono fun _ => plain_of_ack)
    fun _ => (notifyFriendState_all id .online).mono fun _ => plain_of_notify
  exact (same_links_of_servers (World.ask_servers ..)).trans
    (run_links (hplain.mono fun _ => linkless_of_plain) hr)

theorem refused_links {pwd : Str} (h : ¬Accepts (w.lookedUp id) id pwd)
    (hr : (loginAs conn id pwd).run i w = some ((), w')) : SameLinks w w' := by
  rw [loginAs_refused i w conn h] at hr
  cases hr
  exact (same_links_of_servers (World.ask_servers ..)).trans (.modify rfl rfl)

/-- After the entry was erased a logout and a close change neither the entries nor the connections.
-/
theorem goOffline_linkless (conn : ConnId) (id : Int) : (goOffline conn id).All Linkless := by
  refine Prog.All.bind (p := unsubscribe _) ⟨⟨not_false, nofun⟩, fun _ => trivial⟩ fun _ => ?_
  refine Prog.All.bind (p := eraseLastTime _) ⟨⟨not_false, nofun⟩, fun _ => trivial⟩ fun _ => ?_
  refine Prog.All.bind (all_ask ⟨not_false, nofun⟩ ⟨not_false, nofun⟩ trivial fun _ => trivial)
    fun _ => ?_
  exact (notifyFriendState_all id .offline).mono fun _ ha => linkless_of_plain (plain_of_notify ha)

theorem heartbeatOf_linkless (conn : ConnId) : (heartbeatOf conn).All Linkless := by
  refine Prog.All.bind (p := updateConnTime _) ⟨⟨not_false, ?_⟩, fun _ => trivial⟩ fun _ => ?_
  · rintro _ ⟨⟩
  · refine all_sendJson ⟨not_false, ?_⟩
    rintro _ ⟨⟩

theorem clientClosed_linkless (conn : ConnId) (user : User) :
    (clientClosed conn user).All Linkless := by
  refine Prog.All.bind (p := unsubscribe _) ⟨⟨not_false, nofun⟩, fun _ => trivial⟩ fun _ => ?_
  refine Prog.All.bind (p := eraseLastTime _) ⟨⟨not_false, nofun⟩, fun _ => trivial⟩ fun _ => ?_
  split
  · refine Prog.All.bind (all_ask ⟨not_false, nofun⟩ ⟨not_false, nofun⟩ trivial fun _ => trivial)
      fun _ => ?_
    exact (notifyFriendState_all _ .offline).mono fun _ ha => linkless_of_plain (plain_of_notify ha)
  · trivial

theorem logout_links (hr : (loginoutAs conn id).run i w = some ((), w')) :
    SameLinks (w.modify i fun s => { s with userConnMap := s.userConnMap.erase id }) w' := by
  have hp : loginoutAs conn id = eraseUser id >>= fun _ => goOffline conn id := rfl
  rw [hp, Prog.run_bind, run_eraseUser, Option.bind_some] at hr
  exact run_links (goOffline_linkless conn id) hr

/-- A close erases the entry that it finds first. -/
theorem close_links (hr : (clientCloseException conn).run i w = some ((), w')) :
    (∀ j, (w'.servers j).conns = (w.servers j).conns) ∧
    (∀ j, j ≠ i → (w'.servers j).userConnMap = (w.servers j).userConnMap) ∧
    (w'.servers i).userConnMap = match (w.servers i).firstOf conn (w.fates 0).pick with
      | none => (w.servers i).userConnMap
      | some id => (w.servers i).userConnMap.erase id := by
  obtain ⟨r, w₁, he, hr⟩ := close_runs i w hr
  have hlinks := run_links (clientClosed_linkless conn _) hr
  rw [World.exec] at he
  cases hf : (w.servers i).firstOf conn (w.fates 0).pick with
  | none =>
    rw [hf] at he
    cases he
    exact ⟨hlinks.conns, fun j _ => hlinks.entries j, hlinks.entries i⟩
  | some id =>
    rw [hf] at he
    cases he
    refine ⟨fun j => (hlinks.conns j).trans ?_, fun j hj => (hlinks.entries j).trans ?_,
      (hlinks.entries i).trans ?_⟩
    · exact World.modify_field (w := w.next) (·.conns) rfl j
    · rw [World.modify_ne _ hj]
      rfl
    · rw [World.modify_self]
      rfl

/-- The connections that the check closes. -/
def World.stale (w : World) (i : ServerId) : List ConnId :=
  ((w.servers i).connectionLastTime.entries.filter fun e => w.now - e.2 > 30).map (·.1)

theorem shutdowns_links (conns : List ConnId)
    (hr : (Prog.each shutdown conns).run i w = some ((), w')) :
    (∀ j, (w'.servers j).userConnMap = (w.servers j).userConnMap) ∧
    (∀ j, j ≠ i → (w'.servers j).conns = (w.servers j).conns) ∧
    ∀ c, (w'.servers i).conns c = .connected ↔ (w.servers i).conns c = .connected ∧ c ∉ conns := by
  induction conns generalizing w with
  | nil =>
    cases hr
    exact ⟨fun _ => rfl, fun _ _ => rfl, fun c => by simp⟩
  | cons conn conns ih =>
    rw [Prog.each_cons] at hr
    obtain ⟨_, w₁, h₁, hr⟩ := Prog.run_bind_eq_some.mp hr
    cases h₁
    obtain ⟨he, hne, hc⟩ := ih hr
    refine ⟨fun j => (he j).trans ?_, fun j hj => (hne j hj).trans ?_, fun c => (hc c).trans ?_⟩
    · exact World.modify_field (·.userConnMap) (by unfold Server.shutdownConn; split <;> rfl) j
    · rw [World.modify_ne _ hj]
    · rw [World.modify_self, Server.shutdownConn_open, List.mem_cons]
      grind

/-- The check shuts down what is stale. -/
theorem check_links (hr : checkHeartbeat.run i w = some ((), w')) :
    (∀ j, (w'.servers j).userConnMap = (w.servers j).userConnMap) ∧
    (∀ j, j ≠ i → (w'.servers j).conns = (w.servers j).conns) ∧
    ∀ c, (w'.servers i).conns c = .connected ↔
      (w.servers i).conns c = .connected ∧ c ∉ w.stale i :=
  shutdowns_links (w.stale i) hr

end Handlers

/-! ## The times of the connections -/

/-- Notes and erases no time. -/
def Timeless : Act → Prop
  | .updateConnTime _ => False
  | .eraseLastTime _ => False
  | _ => True

theorem timeless_of_plain {a : Act} (h : PlainAct a) : Timeless a := by
  cases a <;> first | exact trivial | exact h.elim

theorem timeless_of_login {conn : ConnId} {id : Int} {a : Act} (h : LoginAct conn id a) :
    Timeless a := by
  cases a <;> first | exact trivial | exact h.elim

theorem run_times {α : Type} {i : ServerId} {p : Serv α} {w w' : World} {x : α}
    (hp : p.All Timeless) (h : p.run i w = some (x, w')) (j : ServerId) :
    (w'.servers j).connectionLastTime = (w.servers j).connectionLastTime :=
  hp.run_rel (L := chat) (R := fun w w' : World =>
    (w'.servers j).connectionLastTime = (w.servers j).connectionLastTime) (fun _ => rfl)
    (fun _ _ _ h h' => h'.trans h) (fun a w r w' ha he => (exec_server he j).lastTime
      (fun conn e => by rw [e] at ha; exact ha) fun conn e => by rw [e] at ha; exact ha) h

/-- No action takes a connection down. -/
theorem ServerStep.disconnected {a : Act} {s s' : Server} (h : ServerStep a s s') (c : ConnId) :
    s'.conns c = .disconnected ↔ s.conns c = .disconnected := by
  have hshut : ∀ (s : Server) conn, (s.shutdownConn conn).conns c = .disconnected ↔
      s.conns c = .disconnected := by
    intro s conn
    unfold Server.shutdownConn
    split
    · rename_i ho
      by_cases hc : c = conn
      · subst hc
        simp [ho]
      · simp [hc]
    · exact Iff.rfl
  by_cases hs : ∃ conn, a = .shutdown conn
  · obtain ⟨conn, rfl⟩ := hs
    cases h with
    | keep => exact Iff.rfl
    | shutdown => exact hshut s conn
  · by_cases hf : ∃ id conn, a = .forceRelogin id conn
    · obtain ⟨id, conn, rfl⟩ := hf
      cases h with
      | keep => exact Iff.rfl
      | forceRelogin =>
        have hsub : ∀ (s : Server) ch, (s.subscribe ch).conns = s.conns := fun s ch => by
          unfold Server.subscribe
          split <;> rfl
        have hunsub : ∀ (s : Server) ch, (s.unsubscribe ch).conns = s.conns := fun s ch => by
          unfold Server.unsubscribe
          split <;> rfl
        rw [Server.forceRelogin_eq, hsub, hunsub]
        unfold Server.takeOver
        split
        · exact Iff.rfl
        · exact hshut s _
    · rw [h.conns (fun conn e => hs ⟨conn, e⟩) fun id conn e => hf ⟨id, conn, e⟩]

theorem run_disconnected {α : Type} {i : ServerId} {p : Serv α} {w w' : World} {x : α}
    (h : p.run i w = some (x, w')) (j : ServerId) (c : ConnId) :
    (w'.servers j).conns c = .disconnected ↔ (w.servers j).conns c = .disconnected :=
  p.all_true.run_rel (L := chat) (R := fun w w' : World =>
    (w'.servers j).conns c = .disconnected ↔ (w.servers j).conns c = .disconnected)
    (fun _ => Iff.rfl) (fun _ _ _ h h' => h'.trans h)
    (fun _ _ _ _ _ he => (exec_server he j).disconnected c) h

section Times

variable {i : ServerId} {w w' : World} {conn : ConnId}

/-- The time of `conn` is erased, and nothing after that has to do with times. -/
theorem erase_times {id : Int} {rest : Serv Unit} (hrest : rest.All Timeless)
    (hr : (do let _ ← unsubscribe id; eraseLastTime conn; rest : Serv Unit).run i w = some ((), w')) :
    (∀ j, j ≠ i → (w'.servers j).connectionLastTime = (w.servers j).connectionLastTime) ∧
    (w'.servers i).connectionLastTime = (w.servers i).connectionLastTime.erase conn := by
  rw [Prog.run_bind, run_unsubscribe, Option.bind_some, Prog.run_bind, run_eraseLastTime,
    Option.bind_some] at hr
  have htimes := run_times hrest hr
  constructor
  · intro j hj
    rw [htimes, World.modify_ne _ hj, World.modify_ne _ hj]
  · rw [htimes, World.modify_self, World.modify_self, (Server.unsubscribe_rest _ id).connectionLastTime]

theorem offline_timeless (user : User) :
    (do let _ ← UserModel.updateState user; notifyFriendState user.id .offline : Serv Unit).All
      Timeless :=
  Prog.All.bind (all_ask trivial trivial trivial fun _ => trivial) fun _ =>
    (notifyFriendState_all _ .offline).mono fun _ ha => timeless_of_plain (plain_of_notify ha)

theorem logout_times {id : Int} (hr : (loginoutAs conn id).run i w = some ((), w')) :
    (∀ j, j ≠ i → (w'.servers j).connectionLastTime = (w.servers j).connectionLastTime) ∧
    (w'.servers i).connectionLastTime = (w.servers i).connectionLastTime.erase conn := by
  have hp : loginoutAs conn id = eraseUser id >>= fun _ => goOffline conn id := rfl
  rw [hp, Prog.run_bind, run_eraseUser, Option.bind_some] at hr
  obtain ⟨hne, hi⟩ := erase_times (offline_timeless { id := id, state := .offline }) hr
  refine ⟨fun j hj => ?_, ?_⟩
  · rw [hne j hj, World.modify_ne _ hj]
  · rw [hi, World.modify_self]

theorem close_times (hr : (clientCloseException conn).run i w = some ((), w')) :
    (∀ j, j ≠ i → (w'.servers j).connectionLastTime = (w.servers j).connectionLastTime) ∧
    (w'.servers i).connectionLastTime = (w.servers i).connectionLastTime.erase conn := by
  obtain ⟨r, w₁, he, hr⟩ := close_runs i w hr
  have hbefore : ∀ j, (w₁.servers j).connectionLastTime = (w.servers j).connectionLastTime :=
    fun j => (exec_server he j).lastTime nofun nofun
  let user : User := r.elim {} fun id => { id }
  obtain ⟨hne, hi⟩ := @erase_times i w₁ w' conn user.id _ (by
    split
    · exact offline_timeless { user with state := .offline }
    · trivial) hr
  exact ⟨fun j hj => (hne j hj).trans (hbefore j), by rw [hi, hbefore]⟩

end Times

end QtChat
