import QtChat.Client.Frames
import QtChat.Client.Network
import QtChat.Properties.KickIsolation
import QtChat.Properties.QuietLogout
import QtChat.Server.Replies

/-!
# What a client does after it was kicked

A login with an id that is online shuts the old connection down and enters the new one. To the old
client this looks like any other loss of its connection: it connects again and, if it still wants a
login, logs in, which kicks the other client.

- `Resting`: no login is wanted; `resting_step` and `resting_run` are about everything but the user.
- `displaced_stays`: a client that is resting when it is kicked stays displaced;
  `displaced_returns`: one that is not comes back.
-/

namespace QtChat

open Interleave ChatService

namespace QtClient

variable {c c' : QtClient}

/-- No login is wanted: not by the client, nor by its dialog. -/
structure Resting (c : QtClient) : Prop where
  relogin : c.m_wantRelogin = false
  pending : c.window.pending ≠ some .login

/-- Resting, and with no login sent since `c`. -/
structure Rests (c c' : QtClient) : Prop where
  resting : c'.Resting
  logins : c'.loginsSent = c.loginsSent

theorem Rests.refl (h : Resting c) : Rests c c := ⟨h, rfl⟩

theorem Rests.trans {c₁ c₂ c₃ : QtClient} (h : Rests c₁ c₂) (h' : Rests c₂ c₃) : Rests c₁ c₃ :=
  ⟨h'.resting, h'.logins.trans h.logins⟩

theorem Keeps.rests {W : Json → Prop} (h : Keeps W c c') (hW : ∀ js, W js → js.isMsg .loginMsg = false)
    (hr : Resting c) : Rests c c' where
  resting := by
    refine ⟨h.relogin.trans hr.relogin, ?_⟩
    rcases h.window with hw | hw
    · rw [hw]
      exact hr.pending
    · rw [hw, setStatus_pending]
      exact hr.pending
  logins := by
    obtain ⟨sent, hs, hall⟩ := h.written
    have hnone : sent.countP (fun e => e.2.isMsg .loginMsg) = 0 := by
      refine List.countP_eq_zero.mpr fun e he => ?_
      rw [hW _ (hall e he).2]
      decide
    rw [loginsSent, hs, List.countP_append, hnone]
    rfl

/-- Nothing is written. -/
theorem Rests.silent {c₁ : QtClient} (h : Rests c c₁) (hk : Keeps (fun _ => False) c₁ c') :
    Rests c c' :=
  h.trans (hk.rests (fun _ => False.elim) h.resting)

theorem writeJson_rests (hr : Resting c) {js : Json} (hjs : js.isMsg .loginMsg = false) :
    Rests c (c.writeJson js) :=
  (writeJson_keeps (W := (· = js)) c rfl).rests (by rintro _ rfl; exact hjs) hr

theorem connectToHost_rests (hr : Resting c) (host : Str) (port : Nat) :
    Rests c (c.connectToHost host port) := by
  unfold connectToHost QTcpSocket.connectToHost
  split <;> exact ⟨⟨hr.relogin, hr.pending⟩, rfl⟩

theorem loginout_rests (hr : Resting c) : Rests c c.loginout := by
  unfold loginout
  split
  · exact .refl hr
  · have hwrite := writeJson_rests (c := { c with
      m_intentionalDisconnect := true, m_wantRelogin := false, m_reconnectTimer := false,
      m_loginTimeoutTimer := false, m_heartbeatTimer := false, m_heartbeatTimeout := false,
      m_lastDataTime := c.now }) ⟨rfl, hr.pending⟩ (loginout_no_login c.m_myId)
    have hwrite : Rests c _ := ⟨hwrite.resting, hwrite.logins⟩
    exact hwrite.silent (disconnectFromHost_keeps _)

theorem reg_no_login (name pwd : Str) : (ChatClient.reg name pwd).isMsg .loginMsg = false := rfl

theorem connect_rests (hr : Resting c) : Rests c c.connect := by
  have hconn : ∀ c : QtClient, Resting c → Rests c c.onConnected := by
    intro c hr
    unfold onConnected emitConnected
    dsimp only
    rw [if_neg (by rw [hr.relogin]; nofun)]
    have hpending := hr.pending
    split
    · rename_i d hw
      split
      · rename_i hp
        rw [hw, Shown.pending, hp] at hpending
        exact absurd rfl hpending
      · have hwrite := writeJson_rests (c := { c with
          m_reconnectTimer := false, m_intentionalDisconnect := false, m_lastDataTime := c.now })
          ⟨hr.relogin, hr.pending⟩ (reg_no_login d.m_pendingRegName d.m_pendingRegPwd)
        exact ⟨hwrite.resting, hwrite.logins⟩
      · exact ⟨⟨hr.relogin, hr.pending⟩, rfl⟩
    · exact ⟨⟨hr.relogin, hr.pending⟩, rfl⟩
  have hopen := hconn { c with m_socket := { c.m_socket with state := .connected } }
    ⟨hr.relogin, hr.pending⟩
  have hopen : Rests c _ := ⟨hopen.resting, hopen.logins⟩
  unfold connect
  dsimp only
  split
  · exact hopen.silent (disconnectFromHost_keeps _)
  · exact hopen

/-- A signal makes no login pending. -/
theorem hear_pending {s : Shown} (h : s.pending ≠ some .login) (sig : Signal) :
    (s.hear sig).pending ≠ some .login := by
  cases s with
  | dialog d => cases sig <;> first | exact h | exact nofun
  | widget w => exact nofun
  | none => exact nofun

theorem handleMessage_rests (hr : Resting c) (js : Json) : Rests c (c.handleMessage js) := by
  have hemit : ∀ c : QtClient, Resting c → Rests c (c.emit js) := by
    intro c hr
    unfold emit
    split
    · exact ⟨⟨hr.relogin, hear_pending hr.pending _⟩, rfl⟩
    · exact .refl hr
  have hsame : ∀ {c₁ : QtClient}, c₁.m_wantRelogin = false → c₁.window = c.window →
      c₁.m_socket = c.m_socket → Rests c c₁ := by
    intro c₁ h₁ h₂ h₃
    refine ⟨⟨h₁, by rw [h₂]; exact hr.pending⟩, by rw [loginsSent, h₃]; rfl⟩
  unfold handleMessage
  dsimp only
  split_ifs
  · have hack : Rests c { c with
        m_loginTimeoutTimer := false, m_myId := (js.value "id").qtInt,
        m_myName := (js.value "name").qtString } := hsame hr.relogin rfl rfl
    have hsig := hack.trans (hemit _ hack.resting)
    exact ⟨⟨hsig.resting.relogin, hsig.resting.pending⟩, hsig.logins⟩
  · exact hsame hr.relogin rfl rfl
  · have hreset : Rests c (resetLoginState { c with
        m_loginTimeoutTimer := false, m_reconnectTimer := false }) := hsame rfl rfl rfl
    exact hreset.trans (hemit _ hreset.resting)
  · exact hsame hr.relogin rfl rfl
  · exact hsame hr.relogin rfl rfl
  · exact hemit _ hr

theorem onReadyRead_rests (hr : Resting c) (msgs : List Json) (bad : Bool) :
    Rests c (c.onReadyRead msgs bad) := by
  have hfold : ∀ c : QtClient, Resting c → Rests c (msgs.foldl handleMessage c) := by
    induction msgs with
    | nil => exact fun c hr => .refl hr
    | cons js msgs ih =>
      intro c hr
      have hone := handleMessage_rests hr js
      exact hone.trans (ih _ hone.resting)
  have hread := hfold { c with m_lastDataTime := c.now } ⟨hr.relogin, hr.pending⟩
  have hread : Rests c _ := ⟨hread.resting, hread.logins⟩
  unfold onReadyRead
  dsimp only
  split
  · exact hread.silent (abort_keeps _)
  · exact hread

/-- **One event** that is not the user's. -/
theorem resting_step {fromJson : Str → Option Json} {e : ClientEvent} (hr : Resting c)
    (he : e.byUser = false) (hs : c.step fromJson e = some c') : Rests c c' := by
  have hsame : ∀ {c₁ : QtClient}, c₁.m_wantRelogin = c.m_wantRelogin → c₁.window = c.window →
      c₁.m_socket.written = c.m_socket.written → Rests c c₁ := fun h₁ h₂ h₃ =>
    ⟨⟨h₁.trans hr.relogin, by rw [h₂]; exact hr.pending⟩, by rw [loginsSent, h₃]; rfl⟩
  cases QtClient.steps hs with
  | connected => exact connect_rests hr
  | failed =>
    have hclosed : Rests c { c with m_socket := { c.m_socket with state := .unconnected } } :=
      hsame rfl rfl rfl
    exact hclosed.silent (onError_keeps _)
  | remoteClosed => exact (Rests.refl hr).silent ((onError_keeps c).trans (disconnectFromHost_keeps _))
  | written => exact (Rests.refl hr).silent (leave_keeps c)
  | broke => exact (Rests.refl hr).silent ((onError_keeps c).trans (abort_keeps _))
  | readyRead => exact onReadyRead_rests hr _ _
  | unsent => exact hsame rfl rfl rfl
  | breaks => exact hsame rfl rfl rfl
  | reconnectTimeout =>
    unfold onReconnectTimeout
    split
    · exact .refl hr
    · have habort := (Rests.refl hr).silent (abort_keeps c)
      exact habort.trans (connectToHost_rests habort.resting _ _)
  | loginTimeout =>
    have hstop : Rests c { c with m_loginTimeoutTimer := false } := hsame rfl rfl rfl
    exact hstop.silent (abort_keeps _)
  | heartbeat =>
    unfold sendHeartbeat
    split_ifs
    · exact .refl hr
    · exact .refl hr
    · have hwrite := writeJson_rests hr heartbeat_no_login
      exact ⟨⟨hwrite.resting.relogin, hwrite.resting.pending⟩, hwrite.logins⟩
  | heartbeatTimeout =>
    have hstop : Rests c { c with m_heartbeatTimeout := false } := hsame rfl rfl rfl
    have habort := hstop.silent (abort_keeps _)
    unfold onHeartbeatTimeout
    split
    · exact ⟨⟨habort.resting.relogin, habort.resting.pending⟩, habort.logins⟩
    · exact habort
  | retryTimeout =>
    have hout := loginout_rests hr
    exact ⟨⟨hout.resting.relogin, by rintro ⟨⟩⟩, hout.logins⟩
  | tick => exact hsame rfl rfl rfl
  | built => exact ⟨⟨hr.relogin, by rintro ⟨⟩⟩, rfl⟩
  | left =>
    refine ⟨⟨hr.relogin, ?_⟩, rfl⟩
    dsimp only
    split <;> rintro ⟨⟩
  | _ => cases he

end QtClient

open QtClient

/-! ## In the network -/

section Network

variable {P : JsonParser} {fromJson : Str → Option Json} {n n' : Net} {u : Int} {b : ConnId}

/-- **A run** without the users. -/
theorem resting_run {k : ClientId} {ls : List NetLabel} (hrest : (n.clients k).Resting)
    (hls : ∀ l ∈ ls, l.byUser = false) (hr : (netMachine P fromJson).runs ls n = some n') :
    Rests (n.clients k) (n'.clients k) := by
  induction ls generalizing n with
  | nil =>
    cases hr
    exact .refl hrest
  | cons l ls ih =>
    obtain ⟨n₁, h₁, hr⟩ := Option.bind_eq_some_iff.mp hr
    have hone : Rests (n.clients k) (n₁.clients k) := by
      rcases Net.step_client h₁ k with ⟨e, he, hs⟩ | hs
      · exact resting_step hrest (he (hls l (.head _))) hs
      · rw [hs]
        exact .refl hrest
    exact hone.trans (ih hone.resting (fun l hl => hls l (.tail _ hl)) hr)

/-- A login or logout of `u` is read, or `b` goes down. -/
def NetLabel.Disturbs (P : JsonParser) (u : Int) (b : ConnId) (n : Net) : NetLabel → Prop
  | .deliver conn => ∃ js ∈ (n.up conn).head?, NamesUser P u js.dump
  | .hangUp conn | .drop conn => conn = b
  | _ => False

/-- The entry of the user, who has a row, is `b`. -/
structure Holds (u : Int) (b : ConnId) (n : Net) : Prop where
  running : n.server.running = true
  entry : n.server.userConnMap.lookup u = some b
  known : n.sys.world.known u

/-- The job leaves the session alone. -/
theorem Holds.session (h : Holds u b n) (hrun : n'.server.running = n.server.running)
    (hs : SameSession u n.sys.world n'.sys.world) : Holds u b n' :=
  ⟨hrun.trans h.running, (hs.entry 0).trans h.entry, hs.known h.known⟩

/-- The entries are left alone. -/
theorem Holds.modify (h : Holds u b n) {f : Server → Server}
    (hw : n'.sys.world = n.sys.world.modify 0 f) (hrun : (f n.server).running = n.server.running)
    (hmap : (f n.server).userConnMap = n.server.userConnMap) : Holds u b n' where
  running := by
    rw [Net.server, hw, World.modify_self]
    exact hrun.trans h.running
  entry := by
    rw [Net.server, hw, World.modify_self]
    exact (congrArg (·.lookup u) hmap).trans h.entry
  known := by
    rw [hw]
    exact h.known

theorem holds_step {l : NetLabel} (hn : (netMachine P fromJson).Reach n) (h : Holds u b n)
    (hl : ¬l.Disturbs P u b n) (hstep : n.step P fromJson l = some n') : Holds u b n' := by
  have hreach := Net.reach_sys hn
  obtain ⟨row, hrow⟩ := Option.isSome_iff_exists.mp h.known
  have hu : u ≠ -1 := by have := ((reach_wf hreach).user_find hrow).1; omega
  -- the close of another connection
  have hclose : ∀ {conn : ConnId} {sys : Sys}, conn ≠ b →
      Sys.step P (.whole 0 (.close conn)) n.sys = some sys →
      SameSession u n.sys.world sys.world := by
    intro conn sys hne hs
    cases Sys.steps hs with
    | whole hb hr =>
      cases hb with
      | close =>
        have hbegin : SameSession u n.sys.world (n.sys.world.modify 0 fun s =>
            { s with conns := Function.update s.conns conn .disconnected }) :=
          sameSession_modify rfl rfl rfl
        refine hbegin.trans (close_keeps_session hu ?_ hr)
        rw [World.modify_self]
        intro e
        exact hne (Option.some.inj (e.symm.trans h.entry))
  cases Net.steps hstep with
  | client => exact ⟨h.running, h.entry, h.known⟩
  | connected => exact ⟨h.running, h.entry, h.known⟩
  | read => exact ⟨h.running, h.entry, h.known⟩
  | eof => exact ⟨h.running, h.entry, h.known⟩
  | hangUp _ _ hs =>
    exact h.session (whole_running hs 0) (hclose hl hs)
  | drop hs =>
    exact h.session (whole_running hs 0) (hclose hl hs)
  | @accept conn _ _ _ hs =>
    cases Sys.steps hs with
    | @connect i =>
      exact h.modify (f := fun s =>
        { s with conns := Function.update s.conns conn .connected }) rfl rfl rfl
  | @deliver conn js rest sys hup hs =>
    have hother : ¬NamesUser P u js.dump := fun hn => hl ⟨js, by rw [hup]; rfl, hn⟩
    refine h.session (whole_running hs 0) ?_
    cases Sys.steps hs with
    | whole hb hr =>
      cases hb with
      | frame =>
        exact unnamed_keeps_session hother hr
  | server hown hs =>
    rcases Label.own_cases hown with ⟨redis, rfl⟩ | rfl | rfl | ⟨seconds, rfl⟩ | rfl | rfl | rfl
    · cases Sys.steps hs with
      | start hoff =>
        rw [show (n.sys.world.servers 0).running = true from h.running] at hoff
        cases hoff
    · refine h.session (whole_running hs 0) ?_
      cases Sys.steps hs with
      | whole hb hr =>
        cases hb with
        | check =>
          refine run_session (Prog.All.bind (p := staleConns) ⟨id, fun _ => trivial⟩
            fun toClose => ?_) hr
          exact Prog.All.each fun conn _ => ⟨id, fun _ => trivial⟩
    · refine h.session (whole_running hs 0) ?_
      cases Sys.steps hs with
      | whole hb hr =>
        cases hb with
        | @redis ch message inbox =>
          have hbegin : SameSession u n.sys.world (n.sys.world.modify 0 fun s => { s with inbox }) :=
            sameSession_modify rfl rfl rfl
          exact hbegin.trans (run_session
            ((handleRedisSubscribeMessage_all P ch message).mono fun _ => not_touches_of_chat u) hr)
    · cases Sys.steps hs with
      | tick => exact ⟨h.running, h.entry, h.known⟩
    · cases Sys.steps hs with
      | publishLost =>
        exact h.modify (f := fun s => { s with publishContext := false }) rfl rfl rfl
    · cases Sys.steps hs with
      | subscribeLost =>
        exact h.modify (f := fun s => { s with subscribeContext := false, live := fun _ => false }) rfl rfl rfl
    · cases Sys.steps hs with
      | resubscribe =>
        exact h.modify (f := fun s => { s with subscribeContext := true, live := s.subscribedChannels }) rfl rfl rfl

/-- The entry, all along a run that does not disturb it. -/
theorem holds_run {ls : List NetLabel} (hn : (netMachine P fromJson).Reach n) (h : Holds u b n)
    (hls : ∀ l m, (netMachine P fromJson).Takes ls n l m → ¬l.Disturbs P u b m)
    (hr : (netMachine P fromJson).runs ls n = some n') : Holds u b n' := by
  refine (Machine.runs_keep_takes (M := netMachine P fromJson) (I := fun n : Net =>
    (netMachine P fromJson).Reach n ∧ Holds u b n) (fun l n n₁ hl hn h₁ => ?_) ⟨hn, h⟩ hls hr).2
  exact ⟨hn.1.step l h₁, holds_step hn.1 hn.2 hl h₁⟩

end Network

/-- The server reads what client `B` wrote on `b`, and for user `u` enters `b` and shuts down `a`,
the connection of client `A`. -/
structure Kicks (P : JsonParser) (fromJson : Str → Option Json) (u : Int) (A B : ClientId)
    (a b : ConnId) (n n' : Net) : Prop where
  step : n.step P fromJson (.deliver b) = some n'
  user : n.sys.world.known u
  linkA : n.link A = some a
  linkB : n.link B = some b
  entry : n.server.userConnMap.lookup u = some a
  isOpen : n.server.conns a = .connected
  replaced : n'.server.userConnMap.lookup u = some b
  shut : n'.server.conns a = .disconnecting

theorem step_known {P : JsonParser} {l : Label} {s s' : Sys} {u : Int} (hu : s.world.known u)
    (h : Sys.step P l s = some s') : s'.world.known u := by
  refine step_keep (K := fun w => w.db.hasUser u = true) (fun i a w r w' hw he => ?_)
    (fun w w' hd _ hw => by rw [hd]; exact hw) hu h
  rcases exec_db he with e | ⟨st, ans, rfl, hx⟩
  · rw [e]
    exact hw
  · exact Database.exec_keeps_user hw hx

theorem Kicks.holds {P : JsonParser} {fromJson : Str → Option Json} {u : Int} {A B : ClientId}
    {a b : ConnId} {n n' : Net} (h : Kicks P fromJson u A B a b n n') : Holds u b n' := by
  cases Net.steps h.step with
  | deliver hup hs =>
    refine ⟨?_, h.replaced, step_known h.user hs⟩
    rw [Net.server, whole_running hs]
    cases Sys.steps hs with
    | whole hb hr => exact hb.running

/-- **Displaced for good.** A client that is resting when it is kicked sends no `LOGIN_MSG`, in
every run without the users, also if the network fails. And the entry stays, unless `b` goes down or
a login or logout of the user is read. -/
theorem displaced_stays {P : JsonParser} {fromJson : Str → Option Json} {u : Int} {A B : ClientId}
    {a b : ConnId} {n n₁ n₂ : Net} {ls : List NetLabel} (hn : (netMachine P fromJson).Reach n)
    (hkick : Kicks P fromJson u A B a b n n₁) (hrest : (n.clients A).Resting)
    (hls : ∀ l ∈ ls, l.byUser = false) (hr : (netMachine P fromJson).runs ls n₁ = some n₂) :
    (n₂.clients A).loginsSent = (n₁.clients A).loginsSent ∧
      ((∀ l m, (netMachine P fromJson).Takes ls n₁ l m → ¬l.Disturbs P u b m) →
        n₂.server.userConnMap.lookup u = some b) := by
  have hrest₁ : (n₁.clients A).Resting := by
    rcases Net.step_client hkick.step A with ⟨e, he, hs⟩ | hs
    · exact (resting_step hrest (he rfl) hs).resting
    · rw [hs]
      exact hrest
  have hn₁ : (netMachine P fromJson).Reach n₁ := Machine.Reach.step (.deliver b) hn hkick.step
  refine ⟨(resting_run hrest₁ hls hr).logins, fun hcalm => ?_⟩
  exact (holds_run hn₁ hkick.holds hcalm hr).entry

/-- User 1 registers and logs in with client 0, on connection 0. -/
def firstLogin : List NetLabel :=
  [.server (.start 0 true), .client 0 (.registerClicked (txt "ann") (txt "pw")), .accept 0,
    .connected 0, .deliver 0, .read 0, .client 0 (.loginClicked (some 1) (txt "pw")), .deliver 0,
    .read 0, .client 0 .execReturns]

/-- The user logs in with client 1, on connection 1. -/
def secondLogin : List NetLabel :=
  [.client 1 (.loginClicked (some 1) (txt "pw")), .accept 1, .connected 1]

/-- The first client was closing its connection: its user had chosen to be offline. -/
theorem displaced_stays_offline : ∃ n n₁ n₂ : Net,
    Kicks sessionParser (fun _ => none) 1 0 1 0 1 n n₁ ∧ (n.clients 0).Resting ∧
    (netMachine sessionParser fun _ => none).runs [.client 0 .written] n₁ = some n₂ ∧
    (n₂.clients 0).loginsSent = (n₁.clients 0).loginsSent ∧
      n₂.server.userConnMap.lookup 1 = some 1 := by
  let M := netMachine sessionParser fun _ => none
  let goOffline : List NetLabel := [.client 0 (.unsent true), .client 0 .statusClicked]
  have h : ((M.runs (firstLogin ++ goOffline ++ secondLogin) Net.initial).bind fun n : Net =>
      (n.step sessionParser (fun _ => none) (.deliver 1)).map fun n₁ : Net => decide
        ((n.sys.world.db.hasUser 1 = true ∧ n.link 0 = some 0 ∧ n.link 1 = some 1 ∧
            n.server.userConnMap.lookup 1 = some 0 ∧ n.server.conns 0 = .connected ∧
            n₁.server.userConnMap.lookup 1 = some 1 ∧ n₁.server.conns 0 = .disconnecting) ∧
          (n.clients 0).m_wantRelogin = false ∧ (n.clients 0).window.pending = some .none ∧
          (M.runs [.client 0 .written] n₁).isSome)) = some true := by decide +kernel
  obtain ⟨n, hn, h⟩ := Option.bind_eq_some_iff.mp h
  obtain ⟨n₁, h₁, h⟩ := Option.map_eq_some_iff.mp h
  obtain ⟨⟨hu, hA, hB, he, ho, hr, hd⟩, hw, hp, hrun⟩ := of_decide_eq_true h
  obtain ⟨n₂, h₂⟩ := Option.isSome_iff_exists.mp hrun
  have hkick : Kicks sessionParser (fun _ => none) 1 0 1 0 1 n n₁ := ⟨h₁, hu, hA, hB, he, ho, hr, hd⟩
  have hrest : (n.clients 0).Resting := ⟨hw, by rw [hp]; nofun⟩
  have hby : ∀ l ∈ [NetLabel.client 0 .written], l.byUser = false := by decide
  obtain ⟨hlogins, hentry⟩ := displaced_stays
    (Machine.Reach.runs (.init (Net.initial_init _ _)) hn) hkick hrest hby h₂
  refine ⟨n, n₁, n₂, hkick, hrest, h₂, hlogins, hentry ?_⟩
  rintro l m (⟨rfl, -⟩ | ⟨_, -, ⟨⟩⟩)
  exact id

/-- User 1 logs in with client 0, then with client 1. Client 0 connects again and logs in once more.
-/
theorem displaced_returns : ¬∀ (P : JsonParser) (fromJson : Str → Option Json) (u : Int)
    (A B : ClientId) (a b : ConnId) (n n₁ n₂ : Net) (ls : List NetLabel),
    (netMachine P fromJson).Reach n → Kicks P fromJson u A B a b n n₁ →
    (∀ l ∈ ls, l.byUser = false ∧ l.fails = false) →
    (netMachine P fromJson).runs ls n₁ = some n₂ →
    (n₂.clients A).loginsSent = (n₁.clients A).loginsSent := by
  intro hall
  let M := netMachine sessionParser fun _ => none
  let back : List NetLabel := [.eof 0, .client 0 .reconnectTimeout, .accept 2, .connected 0]
  have h : ((M.runs (firstLogin ++ secondLogin) Net.initial).bind fun n : Net =>
      (n.step sessionParser (fun _ => none) (.deliver 1)).bind fun n₁ : Net =>
        (M.runs back n₁).map fun n₂ : Net => decide
          ((n.sys.world.db.hasUser 1 = true ∧ n.link 0 = some 0 ∧ n.link 1 = some 1 ∧
              n.server.userConnMap.lookup 1 = some 0 ∧ n.server.conns 0 = .connected ∧
              n₁.server.userConnMap.lookup 1 = some 1 ∧ n₁.server.conns 0 = .disconnecting) ∧
            (n₁.clients 0).loginsSent = 1 ∧ (n₂.clients 0).loginsSent = 2)) = some true := by
    decide +kernel
  obtain ⟨n, hn, h⟩ := Option.bind_eq_some_iff.mp h
  obtain ⟨n₁, h₁, h⟩ := Option.bind_eq_some_iff.mp h
  obtain ⟨n₂, h₂, h⟩ := Option.map_eq_some_iff.mp h
  obtain ⟨⟨hu, hA, hB, he, ho, hr, hd⟩, hone, htwo⟩ := of_decide_eq_true h
  have hcalm : ∀ l ∈ back, l.byUser = false ∧ l.fails = false := by decide
  have hsame := hall sessionParser (fun _ => none) 1 0 1 0 1 n n₁ n₂ back
    (Machine.Reach.runs (.init (Net.initial_init _ _)) hn) ⟨h₁, hu, hA, hB, he, ho, hr, hd⟩ hcalm h₂
  omega

end QtChat
