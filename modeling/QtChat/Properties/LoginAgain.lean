import QtChat.Properties.LiveEntries
import QtChat.Properties.LoginSound
import QtChat.Server.RowRuns

/-!
# A login on an open connection

`login` shuts down whatever connection `_userConnMap` has for the id, enters its own and
acknowledges. Whether the two are the same connection is not looked at.

- `LoggedInOn`: what the login is to leave; `FirstLogin`: what it needs for that.
- `logs_in_iff`: in a run, the logins with the right password leave it exactly if they meet the
  condition.
- `login_again`: a second login of a user on the same connection shuts the connection down.
-/

namespace QtChat

open Interleave ChatService

/-- A `LOGIN_MSG` with the right password, on an open connection. -/
structure LoginRequest (P : JsonParser) (w : World) (i : ServerId) (conn : ConnId) (body : Str)
    (id : Int) (pwd : Str) : Prop where
  request : ∃ js, P.parse body = some js ∧ js.intAt "msgid" = .ok 1 ∧ js.intAt "id" = .ok id ∧
    js.stringAt "password" = .ok pwd
  right : w.db.HasLogin id pwd
  opened : (w.servers i).conns conn = .connected

/-- The connection is entered for the user, is not shut down, and has taken the positive
acknowledgement. -/
structure LoggedInOn (i : ServerId) (conn : ConnId) (id : Int) (w w' : World) : Prop where
  entry : (w'.servers i).userConnMap.lookup id = some conn
  opened : (w'.servers i).conns conn = .connected
  acked : ∃ d ∈ sentIn i w w', d.conn = conn ∧ d.accepted = true ∧ IsLoginAck d.js

/-- The lookup reads the row, the password has no NUL, and the user is not online with this very
connection. -/
structure FirstLogin (w : World) (i : ServerId) (conn : ConnId) (id : Int) (pwd : Str) : Prop where
  reaches : w.Reaches
  whole : cstr pwd = pwd
  other : ¬(w.db.stateOf id = some .online ∧ (w.servers i).userConnMap.lookup id = some conn)

/-- A step that is the login of a user leaves the user logged in. -/
def Label.LogsIn (P : JsonParser) (w w' : World) : Label → Prop
  | .whole i (.frame conn body) =>
    ∀ id pwd, LoginRequest P w i conn body id pwd → LoggedInOn i conn id w w'
  | _ => True

/-- It meets the condition. -/
def Label.IsFirstLogin (P : JsonParser) (w : World) : Label → Prop
  | .whole i (.frame conn body) =>
    ∀ id pwd, LoginRequest P w i conn body id pwd → FirstLogin w i conn id pwd
  | _ => True

section

variable {P : JsonParser} {w w' : World} {i : ServerId} {conn : ConnId} {id : Int} {pwd : Str}

/-- Which lookups give an object with the password of the row. -/
theorem accepts_iff (hwf : w.db.Wf) (h : w.db.HasLogin id pwd) :
    Accepts (w.lookedUp id) id pwd ↔ w.Reaches ∧ cstr pwd = pwd := by
  obtain ⟨row, hrow, hpwd⟩ := h
  by_cases hreach : w.Reaches
  · rw [World.lookedUp_reaches hreach, hrow, User.found, Accepts, ← hpwd]
    exact ⟨fun ha => ⟨hreach, ha.2⟩, fun ha => ⟨rfl, ha.2⟩⟩
  · refine iff_of_false (fun ha => ?_) fun ha => hreach ha.1
    -- the object without a row has the id -1, which no row has
    rw [World.lookedUp_fails hreach] at ha
    have hid : -1 = id := ha.1
    have := (hwf.user_find hrow).1
    omega

theorem lookedUp_state (hreach : w.Reaches) (h : w.db.HasLogin id pwd) :
    (w.lookedUp id).state = .online ↔ w.db.stateOf id = some .online := by
  obtain ⟨row, hrow, -⟩ := h
  rw [World.lookedUp_reaches hreach, Database.stateOf, hrow]
  exact (Option.some_inj (a := row.state)).symm

/-- What an accepted login leaves. -/
theorem accepted_logs_in (ha : Accepts (w.lookedUp id) id pwd)
    (hopen : (w.servers i).conns conn = .connected)
    (hr : (loginAs conn id pwd).run i w = some ((), w')) : LoggedInOn i conn id w w' ↔
      ((w.lookedUp id).state = .online → (w.servers i).userConnMap.lookup id ≠ some conn) := by
  have hlinks := login_links ha hr
  have hservers : (w.ask (.selectUser id)).2.servers = w.servers := World.ask_servers ..
  have hconns : (w'.servers i).conns conn = .connected ↔
      ((w.lookedUp id).state = .online → (w.servers i).userConnMap.lookup id ≠ some conn) := by
    rw [hlinks.conns, registered_open, hservers]
    exact and_iff_right hopen
  refine ⟨fun h => hconns.mp h.opened, fun h => ⟨?_, hconns.mpr h, ?_⟩⟩
  · rw [hlinks.entries, registered_lookup, if_pos rfl]
  · obtain ⟨accepted, rest, hs, -, hacc⟩ := loginAs_sends i w conn ha hr
    have htaken : accepted = true := by
      rw [hacc, World.loggedIn, World.ask_servers, ← hlinks.conns]
      exact hconns.mpr h
    refine ⟨_, by rw [hs]; exact List.mem_cons_self, rfl, htaken, isLoginAck_loginResponse ..⟩

theorem loggedInOn_noted :
    LoggedInOn i conn id (w.noted i conn) w' ↔ LoggedInOn i conn id w w' := by
  have hsent : sentIn i (w.noted i conn) w' = sentIn i w w' := sentIn_modify rfl
  constructor
  · rintro ⟨hentry, hopen, hack⟩
    exact ⟨hentry, hopen, by rwa [hsent] at hack⟩
  · rintro ⟨hentry, hopen, hack⟩
    exact ⟨hentry, hopen, by rwa [hsent]⟩

/-- **One login.** -/
theorem login_logs_in_iff {s s' : Sys} {body : Str} (hs : (system P).Reach s)
    (hq : LoginRequest P s.world i conn body id pwd)
    (h : Sys.step P (.whole i (.frame conn body)) s = some s') :
    LoggedInOn i conn id s.world s'.world ↔ FirstLogin s.world i conn id pwd := by
  obtain ⟨⟨js, hp, hm, hi, hpw⟩, hright, hopen⟩ := hq
  cases Sys.steps h with
  | whole hb hr =>
    cases hb
    rw [run_handleMsg _ _ hp, dispatch_login hm hi hpw] at hr
    change (loginAs conn id pwd).run i (s.world.noted i conn) = _ at hr
    have hlook : (s.world.noted i conn).lookedUp id = s.world.lookedUp id :=
      World.lookedUp_modify ..
    have hiff := accepts_iff (reach_wf hs) hright
    rw [← loggedInOn_noted]
    by_cases ha : Accepts (s.world.lookedUp id) id pwd
    · obtain ⟨hreach, hwhole⟩ := hiff.mp ha
      rw [← hlook] at ha
      rw [accepted_logs_in ha (by rw [World.noted, World.modify_self]; exact hopen) hr, hlook,
        lookedUp_state hreach hright, World.noted, World.modify_self]
      exact ⟨fun h => ⟨hreach, hwhole, fun hc => h hc.1 hc.2⟩, fun h hc hl => h.other ⟨hc, hl⟩⟩
    · refine iff_of_false (fun hin => ?_) fun hf => ha (hiff.mpr ⟨hf.reaches, hf.whole⟩)
      -- a refused login sends no positive acknowledgement
      rw [← hlook] at ha
      obtain ⟨d, hd, -, -, hack⟩ := hin.acked
      rw [(loginAs_refused_sends i _ conn ha hr).2 d hd] at hack
      exact not_isLoginAck_loginError _ hack

/-- **When a login is in force.** In a run of any servers, with any logins, logouts and closes
before it, each login with the right password on an open connection leaves the user logged in
exactly if it meets the condition. -/
theorem logs_in_iff {ls : List Label} {s s' : Sys} (hs : (system P).init s)
    (hr : (system P).runs ls s = some s') :
    (∀ l s₁ s₂, (system P).Takes ls s l s₁ → Sys.step P l s₁ = some s₂ →
      l.LogsIn P s₁.world s₂.world) ↔
    ∀ l s₁, (system P).Takes ls s l s₁ → l.IsFirstLogin P s₁.world := by
  refine Machine.takes_iff_of_step hr fun l s₁ s₂ ht hl => ?_
  cases l with
  | whole i job =>
    cases job with
    | frame conn body =>
      exact forall_congr' fun id => forall_congr' fun pwd => forall_congr' fun hq =>
        login_logs_in_iff ((Machine.Reach.init hs).takes ht) hq hl
    | _ => exact Iff.rfl
  | _ => exact Iff.rfl

end

theorem logs_in_iff_ann : ∃ s', (system twoLoginsParser).runs oneLogin Sys.initial = some s' ∧
    ((∀ l s₁ s₂, (system twoLoginsParser).Takes oneLogin Sys.initial l s₁ →
        Sys.step twoLoginsParser l s₁ = some s₂ →
          l.LogsIn twoLoginsParser s₁.world s₂.world) ↔
      ∀ l s₁, (system twoLoginsParser).Takes oneLogin Sys.initial l s₁ →
        l.IsFirstLogin twoLoginsParser s₁.world) := by
  have h : ((system twoLoginsParser).runs oneLogin Sys.initial).isSome = true := by
    decide +kernel
  obtain ⟨s', hr⟩ := Option.isSome_iff_exists.mp h
  exact ⟨s', hr, logs_in_iff ⟨id, fun _ => ⟨true, 0⟩, 0, rfl⟩ hr⟩

/-- User 1 logs in on connection 1 a second time. -/
theorem login_again : ¬∀ (P : JsonParser) (s s' : Sys) (i : ServerId) (conn : ConnId) (body : Str)
    (id : Int) (pwd : Str), (system P).Reach s → LoginRequest P s.world i conn body id pwd →
      Sys.step P (.whole i (.frame conn body)) s = some s' →
        LoggedInOn i conn id s.world s'.world := by
  intro hall
  have h : ((system twoLoginsParser).runs oneLogin Sys.initial).map (fun s : Sys =>
      ((s.world.db.user.find 1).map (·.password), (s.world.servers 0).conns 1,
        (Sys.step twoLoginsParser (.whole 0 (.frame 1 (ChatClient.login 1 (txt "pw")).dump)) s).map
          fun s' => (s'.world.servers 0).conns 1)) =
      some (some (txt "pw"), .connected, some .disconnecting) := by
    decide +kernel
  obtain ⟨s, hs, hf⟩ := Option.map_eq_some_iff.mp h
  simp only [Prod.mk.injEq] at hf
  obtain ⟨hpwd, hopen, hstep⟩ := hf
  obtain ⟨row, hrow, hpwd⟩ := Option.map_eq_some_iff.mp hpwd
  obtain ⟨s', hl, hshut⟩ := Option.map_eq_some_iff.mp hstep
  have hparse : twoLoginsParser.parse (ChatClient.login 1 (txt "pw")).dump =
      some (ChatClient.login 1 (txt "pw")) := by
    have hne : (ChatClient.reg (txt "ann") (txt "pw")).dump ≠
        (ChatClient.login 1 (txt "pw")).dump := by decide +kernel
    simp [twoLoginsParser, JsonParser.ofDumps, hne]
  have hq : LoginRequest twoLoginsParser s.world 0 1 (ChatClient.login 1 (txt "pw")).dump 1
      (txt "pw") :=
    ⟨⟨_, hparse, rfl, rfl, rfl⟩, ⟨row, hrow, hpwd⟩, hopen⟩
  have hin := hall _ s s' 0 1 _ 1 (txt "pw") (reach_of_runs hs) hq hl
  rw [hin.opened] at hshut
  cases hshut

end QtChat
