import QtChat.Client.Requests
import QtChat.Server.Invariants
import QtChat.Server.LoginRuns

/-!
# Who can change a session

The handlers act on the id in the request, whatever connection it comes from. The session of a user
is changed by two requests only: a login as this user with the password, and a logout of this user.

- `handleMsg_keeps_session`: every other body leaves the session of a user with a row alone.
- `loginout_changes_session`: a logout from a connection that is not the user's ends the session.
-/

namespace QtChat

open Interleave ChatService

/-- The body is a login of `u` with the password that `pwd` stores. -/
def IsLoginOf (P : JsonParser) (u : Int) (pwd : Str) (body : Str) : Prop :=
  ∃ js, P.parse body = some js ∧ js.intAt "msgid" = .ok 1 ∧ js.intAt "id" = .ok u ∧
    js.stringAt "password" = .ok (cstr pwd)

/-- The body is a logout of `u`. -/
def IsLogoutOf (P : JsonParser) (u : Int) (body : Str) : Prop :=
  ∃ js, P.parse body = some js ∧ js.intAt "msgid" = .ok 3 ∧ js.intAt "id" = .ok u

theorem not_accepts_wrong {w : World} {u : Int} {row : UserRow} {pwd : Str} (hu : u ≠ -1)
    (hrow : w.db.user.find u = some row) (hp : pwd ≠ cstr row.password) :
    ¬Accepts (w.lookedUp u) u pwd := by
  unfold World.lookedUp
  rcases w.ask_cases (.selectUser u) with ⟨ha, -⟩ | ⟨r, db, he, ha, -⟩
  · rw [ha]
    exact fun h => hu h.1.symm
  · cases he
    rw [ha, hrow]
    exact fun h => hp h.2.symm

/-- A login with another password leaves the session alone. -/
theorem login_wrong_keeps_session {w w' : World} {i : ServerId} {conn : ConnId} {u : Int}
    {row : UserRow} {pwd : Str} (hu : u ≠ -1) (hrow : w.db.user.find u = some row)
    (hp : pwd ≠ cstr row.password) (hr : (loginAs conn u pwd).run i w = some ((), w')) :
    SameSession u w w' := by
  rw [loginAs_refused i w conn (not_accepts_wrong hu hrow hp)] at hr
  have hr' : (UserModel.query u >>= fun _ =>
      sendJson conn (loginError "id or password is invalid!")).run i w = some ((), w') := by
    rw [Prog.run_bind, run_query, Option.bind_some, run_sendJson]
    exact hr
  refine run_session (Prog.All.bind (all_query ?_ ?_) fun _ => all_sendJson ?_) hr' <;>
    simp [TouchesSession, TouchesState]

/-- **A body** leaves the session of a user alone, if it is no logout of the user, and, being a login
of the user, leaves it alone. -/
theorem body_keeps_session {P : JsonParser} {w w' : World} {u : Int} {body : Str} {i : ServerId}
    {conn : ConnId} (hlogin : ∀ js pwd, P.parse body = some js → js.intAt "msgid" = .ok 1 →
      js.intAt "id" = .ok u → js.stringAt "password" = .ok pwd →
        (loginAs conn u pwd).run i (w.noted i conn) = some ((), w') →
          SameSession u (w.noted i conn) w') (hlogout : ¬IsLogoutOf P u body)
    (hr : (handleMsg P conn body).run i w = some ((), w')) : SameSession u w w' := by
  rcases handleMsg_runs i w hr with ⟨-, rfl⟩ | ⟨js, hp, hr⟩
  · exact .refl u _
  · refine (run_session (p := updateConnTime conn) ⟨by simp [TouchesSession], fun _ => trivial⟩
      (run_updateConnTime i w conn)).trans ?_
    cases hd : dispatch conn js with
    | error e => rw [hd] at hr; cases hr; exact .refl u _
    | ok p =>
      rw [hd] at hr
      simp only [Request.run] at hr
      cases handles_of_dispatch hd with
      | nothing => cases hr; exact .refl u _
      | loginFields => exact run_session (all_sendJson (by simp [TouchesSession])) hr
      | regFields => exact run_session (all_sendJson (by simp [TouchesSession])) hr
      | @login id pwd hm hi hpw =>
        by_cases e : id = u
        · subst e
          exact hlogin js pwd hp hm hi hpw hr
        · exact run_session ((loginAs_all conn id pwd).mono fun _ => not_touches_of_login e) hr
      | @loginout id hm hi =>
        have e : id ≠ u := fun e => hlogout ⟨js, hp, hm, by rw [hi, e]⟩
        exact run_session ((loginoutAs_all conn id).mono fun _ => not_touches_of_logout e) hr
      | oneChat => exact run_session ((oneChatTo_all _ js).mono fun _ => not_touches_of_chat u) hr
      | groupChat =>
        exact run_session ((groupChatFrom_all _ _ js).mono fun _ => not_touches_of_chat u) hr
      | reg name pwd =>
        exact run_session ((regAs_all conn name pwd).mono fun _ => not_touches_of_record u) hr
      | addFriend =>
        exact run_session ((addFriendAs_all conn _ _).mono fun _ => not_touches_of_record u) hr
      | createGroup a b c =>
        exact run_session ((createGroupAs_all conn a b c).mono fun _ => not_touches_of_record u) hr
      | addGroup a b =>
        exact run_session ((addGroupAs_all conn a b).mono fun _ => not_touches_of_record u) hr
      | updateName a b =>
        exact run_session ((updateNameAs_all conn a b).mono fun _ => not_touches_of_record u) hr
      | heartbeat =>
        exact run_session ((heartbeatOf_all conn).mono fun _ => not_touches_of_record u) hr

/-- **Sessions of others.** In every reachable state, whatever connection a body arrives on: unless
it is a login of the user with the password or a logout of the user, it leaves the session of the
user alone. -/
theorem handleMsg_keeps_session {P : JsonParser} {s : Sys} (hs : (system P).Reach s) {u : Int}
    {row : UserRow} (hrow : s.world.db.user.find u = some row) {body : Str}
    (hlogin : ¬IsLoginOf P u row.password body) (hlogout : ¬IsLogoutOf P u body) (i : ServerId)
    (conn : ConnId) {w' : World} (hr : (handleMsg P conn body).run i s.world = some ((), w')) :
    SameSession u s.world w' := by
  have hu : u ≠ -1 := by have := ((reach_wf hs).user_find hrow).1; omega
  refine body_keeps_session (fun js pwd hp hm hi hpw hr => ?_) hlogout hr
  refine login_wrong_keeps_session hu hrow (fun e => hlogin ⟨js, hp, hm, hi, ?_⟩) hr
  rw [hpw, e]

/-- A parser of the requests below. -/
def sessionParser : JsonParser :=
  .ofDumps [ChatClient.reg (txt "ann") (txt "pw"), ChatClient.login 1 (txt "pw"),
    ChatClient.loginout 1, ChatClient.sendHeartbeat]

/-- User 1 registers and logs in on connection 1; connection 2 is open. -/
def sessionLabels : List Label :=
  [.start 0 true, .connect 0 1, .connect 0 2,
    .whole 0 (.frame 1 (ChatClient.reg (txt "ann") (txt "pw")).dump),
    .whole 0 (.frame 1 (ChatClient.login 1 (txt "pw")).dump)]

/-- A heartbeat on the other connection. -/
theorem handleMsg_keeps_session_heartbeat : ∃ s w', (system sessionParser).Reach s ∧
    (s.world.servers 0).userConnMap.lookup 1 = some 1 ∧
    (handleMsg sessionParser 2 ChatClient.sendHeartbeat.dump).run (0 : ServerId) s.world =
      some ((), w') ∧ SameSession 1 s.world w' := by
  have h : ((system sessionParser).runs sessionLabels Sys.initial).map (fun s : Sys =>
      ((s.world.servers 0).userConnMap.lookup 1, s.world.db.user.find 1,
        ((handleMsg sessionParser 2 ChatClient.sendHeartbeat.dump).run
          (0 : ServerId) s.world).isSome)) =
      some (some 1, some ⟨txt "ann", txt "pw", .online⟩, true) := by decide +kernel
  obtain ⟨s, hs, hf⟩ := Option.map_eq_some_iff.mp h
  simp only [Prod.mk.injEq] at hf
  obtain ⟨⟨⟨⟩, w'⟩, hw⟩ := Option.isSome_iff_exists.mp hf.2.2
  have hp : sessionParser.parse ChatClient.sendHeartbeat.dump = some ChatClient.sendHeartbeat := rfl
  have hm : ChatClient.sendHeartbeat.intAt "msgid" = .ok 13 := rfl
  refine ⟨s, w', reach_of_runs hs, hf.1, hw,
    handleMsg_keeps_session (reach_of_runs hs) hf.2.1 ?_ ?_ 0 2 hw⟩
  · rintro ⟨js, hj, hk, -⟩
    rw [hp] at hj; cases hj
    rw [hm] at hk; cases hk
  · rintro ⟨js, hj, hk, -⟩
    rw [hp] at hj; cases hj
    rw [hm] at hk; cases hk

/-- A logout of user 1 that arrives on connection 2 ends the session on connection 1. -/
theorem loginout_changes_session : ¬∀ (P : JsonParser) (s : Sys), (system P).Reach s →
    ∀ (i : ServerId) (c c' : ConnId) (u : Int) (row : UserRow) (body : Str),
      s.world.db.user.find u = some row → (s.world.servers i).userConnMap.lookup u = some c' →
      c' ≠ c → ¬IsLoginOf P u row.password body →
      ∀ w', (handleMsg P c body).run i s.world = some ((), w') → SameSession u s.world w' := by
  intro hall
  have h : ((system sessionParser).runs sessionLabels Sys.initial).map (fun s : Sys =>
      ((s.world.servers 0).userConnMap.lookup 1, s.world.db.user.find 1,
        ((handleMsg sessionParser 2 (ChatClient.loginout 1).dump).run (0 : ServerId)
          s.world).map fun r : Unit × World => (r.2.servers 0).userConnMap.lookup 1)) =
      some (some 1, some ⟨txt "ann", txt "pw", .online⟩, some none) := by decide +kernel
  obtain ⟨s, hs, hf⟩ := Option.map_eq_some_iff.mp h
  simp only [Prod.mk.injEq] at hf
  obtain ⟨hl, hr, hw⟩ := hf
  obtain ⟨⟨⟨⟩, w'⟩, hw, hn⟩ := Option.map_eq_some_iff.mp hw
  have hp : sessionParser.parse (ChatClient.loginout 1).dump = some (ChatClient.loginout 1) := rfl
  have hm : (ChatClient.loginout 1).intAt "msgid" = .ok 3 := rfl
  have hsame := hall sessionParser s (reach_of_runs hs) 0 2 1 1 _ _ hr hl (by decide) (by
    rintro ⟨js, hj, hk, -⟩
    rw [hp] at hj; cases hj
    rw [hm] at hk; cases hk) w' hw
  have := hsame.entry 0
  rw [hn, hl] at this
  cases this

end QtChat
