import QtChat.Client.Events

/-!
# The client never gets stuck offline

Unless the user asked for it, a client that has tried to connect is connected, connecting or
closing, or its reconnect timer is active.

- `Timed`: the login timer is active only where `abort` starts the reconnect timer, or it is active.
  `abort` in `connecting` raises nothing, so this is what the slot of the login timer needs.
- `Waits`: the property; each function keeps it, in the states in which it is called.
- `never_stuck`: both hold in every reachable state.
-/

namespace QtChat

open Interleave

namespace QtClient

/-- The client wants to be connected, and is or tries again. -/
def Keen (c : QtClient) : Prop :=
  c.m_intentionalDisconnect = false ∧ (c.IsOpen ∨ c.m_reconnectTimer = true)

/-- While the login timer is active, the client is keen. -/
def Timed (c : QtClient) : Prop := c.m_loginTimeoutTimer = true → Keen c

/-- Not intentionally offline, a client that has tried to connect does so, or will again. -/
def Waits (c : QtClient) : Prop :=
  c.m_socket.attempts ≠ 0 → c.m_intentionalDisconnect = false →
    c.m_socket.state ≠ .unconnected ∨ c.m_reconnectTimer = true

/-- The reconnect timer is active unless the client is intentionally offline. -/
def Retries (c : QtClient) : Prop :=
  c.m_intentionalDisconnect = false → c.m_reconnectTimer = true

variable {c : QtClient}

/-! ## The reconnect timer -/

theorem Retries.waits (h : Retries c) : Waits c := fun _ hi => .inr (h hi)

theorem waits_of_state (h : c.m_socket.state ≠ .unconnected) : Waits c := fun _ _ => .inl h

theorem waits_of_intentional (h : c.m_intentionalDisconnect = true) : Waits c := by
  intro _ hi
  rw [h] at hi
  cases hi

theorem retries_startReconnect (c : QtClient) : Retries c.startReconnect := fun _ => rfl

theorem retries_onDisconnected (c : QtClient) : Retries c.onDisconnected := by
  unfold onDisconnected startReconnect Retries
  grind

theorem retries_onError (c : QtClient) : Retries c.onError := by
  unfold onError startReconnect Retries
  grind

/-- A connection that goes leaves the reconnect timer active. -/
theorem retries_leave (h : c.IsOpen) : Retries c.leave := by
  unfold leave
  rw [if_pos h]
  exact retries_onDisconnected _

theorem Retries.leave (h : Retries c) : Retries c.leave := by
  unfold QtClient.leave
  split
  · exact retries_onDisconnected _
  · exact h

theorem Retries.abort (h : Retries c) : Retries c.abort := by
  unfold QtClient.abort
  split
  · exact h
  · exact h.leave

theorem retries_abort (h : c.IsOpen) : Retries c.abort := by
  unfold abort
  rw [if_neg (by rcases h with h | h <;> simp [h])]
  exact retries_leave h

/-! ## The login timer -/

theorem keen_onDisconnected (h : c.m_intentionalDisconnect = false) : Keen c.onDisconnected := by
  unfold onDisconnected startReconnect Keen
  grind

theorem Keen.onError (h : Keen c) : Keen c.onError := by
  unfold QtClient.onError startReconnect Keen at *
  grind

theorem Keen.leave (h : Keen c) : Keen c.leave := by
  unfold QtClient.leave
  split
  · exact keen_onDisconnected h.1
  · rename_i hopen
    exact ⟨h.1, .inr (h.2.resolve_left hopen)⟩

theorem Keen.abort (h : Keen c) : Keen c.abort := by
  unfold QtClient.abort
  split
  · exact h
  · exact h.leave

theorem Keen.disconnectFromHost (h : Keen c) : Keen c.disconnectFromHost := by
  unfold QtClient.disconnectFromHost
  split_ifs
  · exact ⟨h.1, .inl (.inr rfl)⟩
  · exact h.leave
  · exact h
  · exact h

theorem Keen.connectToHost (h : Keen c) (host : Str) (port : Nat) :
    Keen (c.connectToHost host port) := by
  unfold QtClient.connectToHost QTcpSocket.connectToHost Keen IsOpen at *
  grind

theorem Keen.flush (h : Keen c) : Keen c.flush := by
  unfold QtClient.flush
  split
  · exact h.onError.abort
  · exact h

theorem Keen.writeJson (h : Keen c) (js : Json) : Keen (c.writeJson js) := by
  refine Keen.flush ?_
  unfold Keen IsOpen QTcpSocket.write at *
  grind

section Timer

@[simp] theorem startReconnect_timer (c : QtClient) :
    c.startReconnect.m_loginTimeoutTimer = c.m_loginTimeoutTimer := rfl

@[simp] theorem onDisconnected_timer (c : QtClient) :
    c.onDisconnected.m_loginTimeoutTimer = c.m_loginTimeoutTimer := by
  unfold onDisconnected
  grind [startReconnect_timer]

@[simp] theorem onError_timer (c : QtClient) :
    c.onError.m_loginTimeoutTimer = c.m_loginTimeoutTimer := by
  unfold onError
  grind [startReconnect_timer]

@[simp] theorem leave_timer (c : QtClient) :
    c.leave.m_loginTimeoutTimer = c.m_loginTimeoutTimer := by
  unfold leave
  grind [onDisconnected_timer]

@[simp] theorem abort_timer (c : QtClient) :
    c.abort.m_loginTimeoutTimer = c.m_loginTimeoutTimer := by
  unfold abort
  grind [leave_timer]

@[simp] theorem disconnectFromHost_timer (c : QtClient) :
    c.disconnectFromHost.m_loginTimeoutTimer = c.m_loginTimeoutTimer := by
  unfold disconnectFromHost
  grind [leave_timer]

@[simp] theorem writeJson_timer (c : QtClient) (js : Json) :
    (c.writeJson js).m_loginTimeoutTimer = c.m_loginTimeoutTimer := by
  unfold writeJson flush
  grind [abort_timer, onError_timer]

end Timer

theorem Timed.onError (h : Timed c) : Timed c.onError := fun ht => (h (by simpa using ht)).onError

theorem Timed.leave (h : Timed c) : Timed c.leave := fun ht => (h (by simpa using ht)).leave

theorem Timed.abort (h : Timed c) : Timed c.abort := fun ht => (h (by simpa using ht)).abort

theorem Timed.disconnectFromHost (h : Timed c) : Timed c.disconnectFromHost :=
  fun ht => (h (by simpa using ht)).disconnectFromHost

theorem Timed.connectToHost (h : Timed c) (host : Str) (port : Nat) :
    Timed (c.connectToHost host port) := fun ht => (h ht).connectToHost host port

theorem Timed.writeJson (h : Timed c) (js : Json) : Timed (c.writeJson js) :=
  fun ht => (h (by simpa using ht)).writeJson js

theorem timed_of_stopped (h : c.m_loginTimeoutTimer = false) : Timed c := by
  intro ht
  rw [h] at ht
  cases ht

/-! ## The functions of the client -/

/-- Both parts of the invariant. -/
structure Awake (c : QtClient) : Prop where
  timed : Timed c
  waits : Waits c

theorem Waits.onError (c : QtClient) : Waits c.onError := (retries_onError c).waits

theorem Waits.disconnectFromHost (h : Waits c) : Waits c.disconnectFromHost := by
  unfold QtClient.disconnectFromHost
  split_ifs with hopen
  · exact waits_of_state nofun
  · exact (retries_leave hopen).waits
  · exact h
  · exact h

theorem Waits.writeJson (h : Waits c) (js : Json) : Waits (c.writeJson js) := by
  unfold QtClient.writeJson QtClient.flush
  split
  · exact (retries_onError _).abort.waits
  · unfold Waits QTcpSocket.write at *
    grind

theorem Awake.writeJson (h : Awake c) (js : Json) : Awake (c.writeJson js) :=
  ⟨h.timed.writeJson js, h.waits.writeJson js⟩

theorem Awake.sendJson (h : Awake c) (js : Json) : Awake (c.sendJson js) := by
  have hnow : Awake { c with m_lastDataTime := c.now } := ⟨h.timed, h.waits⟩
  exact hnow.writeJson js

theorem Timed.connectToServer (h : Timed c) (host : Str) (port : Nat) :
    Awake (c.connectToServer host port) := by
  have hwant : Timed { c with m_intentionalDisconnect := false, m_host := host, m_port := port } :=
    fun ht => ⟨rfl, (h ht).2⟩
  exact ⟨hwant.abort.connectToHost host port, waits_of_state (connectToHost_state _ host port)⟩

/-- A login on a connection. -/
theorem login_awake (h : c.IsOpen) (id : Int) (pwd : Str) : Awake (c.login id pwd) := by
  have hkeen : Keen { c with m_intentionalDisconnect := false, m_myId := id, m_password := pwd,
                             m_wantRelogin := true, m_lastDataTime := c.now } := ⟨rfl, .inl h⟩
  have hwaits : Waits { c with m_intentionalDisconnect := false, m_myId := id, m_password := pwd,
                               m_wantRelogin := true, m_lastDataTime := c.now } :=
    waits_of_state (by rcases h with h | h <;> simp [h])
  exact ⟨fun _ => hkeen.writeJson _, hwaits.writeJson _⟩

theorem Awake.loginout (h : Awake c) : Awake c.loginout := by
  unfold QtClient.loginout
  split
  · exact h
  · constructor
    · exact Timed.disconnectFromHost (Timed.writeJson (timed_of_stopped rfl) _)
    · exact Waits.disconnectFromHost (Waits.writeJson (waits_of_intentional rfl) _)

theorem Awake.relogin (h : Awake c) : Awake c.relogin := by
  unfold QtClient.relogin
  split
  · have hwant : Timed { c with m_intentionalDisconnect := false, m_wantRelogin := true } :=
      fun ht => ⟨rfl, (h.timed ht).2⟩
    exact hwant.abort.connectToServer _ _
  · exact h

/-- The invariant does not read the window. -/
theorem Awake.window (h : Awake c) (window : Shown) : Awake { c with window } :=
  ⟨h.timed, h.waits⟩

theorem awake_of_open (h : c.IsOpen) (ht : Timed c) : Awake c :=
  ⟨ht, waits_of_state (by rcases h with h | h <;> simp [h])⟩

theorem emitConnected_awake (h : c.IsOpen) (ht : Timed c) : Awake c.emitConnected := by
  unfold emitConnected
  split
  · split
    · exact login_awake h _ _
    · exact (awake_of_open h ht).sendJson _
    · exact awake_of_open h ht
  · exact awake_of_open h ht

theorem onConnected_awake (h : c.IsOpen) : Awake c.onConnected := by
  have hopen : { c with m_reconnectTimer := false, m_intentionalDisconnect := false }.IsOpen := h
  have htimed : Timed { c with m_reconnectTimer := false, m_intentionalDisconnect := false } :=
    fun _ => ⟨rfl, .inl h⟩
  unfold onConnected
  dsimp only
  split
  · exact login_awake hopen _ _
  · exact emitConnected_awake hopen htimed

theorem Awake.disconnectFromHost (h : Awake c) : Awake c.disconnectFromHost :=
  ⟨h.timed.disconnectFromHost, h.waits.disconnectFromHost⟩

theorem connect_awake (c : QtClient) : Awake c.connect := by
  have hconn : Awake { c with m_socket := { c.m_socket with state := .connected } }.onConnected :=
    onConnected_awake (.inl rfl)
  unfold QtClient.connect
  dsimp only
  split
  · exact hconn.disconnectFromHost
  · exact hconn

/-- In `connecting` an active login timer needs the reconnect timer. -/
theorem Awake.fail (h : Awake c) (hs : c.m_socket.state = .connecting) : Awake c.fail := by
  have hkeen : Timed { c with m_socket := { c.m_socket with state := .unconnected } } := by
    intro ht
    have hdue := (h.timed ht).2.resolve_left (by simp [IsOpen, hs])
    exact ⟨(h.timed ht).1, .inr hdue⟩
  exact ⟨hkeen.onError, (retries_onError _).waits⟩

theorem Awake.abort_open (h : Awake c) (hopen : c.IsOpen) : Awake c.abort :=
  ⟨h.timed.abort, (retries_abort hopen).waits⟩

theorem onHeartbeatTimeout_awake (h : Timed c) : Awake c.onHeartbeatTimeout := by
  unfold onHeartbeatTimeout
  split
  · rename_i hi
    exact ⟨fun ht => ⟨(h.abort ht).1, .inr rfl⟩, (retries_startReconnect _).waits⟩
  · rename_i hi
    exact ⟨h.abort, waits_of_intentional (by simpa using hi)⟩

theorem Awake.onReconnectTimeout (h : Awake c) : Awake c.onReconnectTimeout := by
  unfold QtClient.onReconnectTimeout
  split
  · exact h
  · exact ⟨h.timed.abort.connectToHost _ _, waits_of_state (connectToHost_state _ _ _)⟩

/-- `abort` in `connecting` would leave nothing that connects again, but for the reconnect timer. -/
theorem Awake.onLoginTimeout (h : Awake c) (ht : c.m_loginTimeoutTimer = true) :
    Awake c.onLoginTimeout := by
  refine ⟨timed_of_stopped (by simp [QtClient.onLoginTimeout]), ?_⟩
  rcases (h.timed ht).2 with hopen | hdue
  · exact (retries_abort (c := { c with m_loginTimeoutTimer := false }) hopen).waits
  · exact (Retries.abort (c := { c with m_loginTimeoutTimer := false }) fun _ => hdue).waits

theorem Awake.sendHeartbeat (h : Awake c) : Awake c.sendHeartbeat := by
  unfold QtClient.sendHeartbeat
  split_ifs
  · exact h
  · exact h
  · have hsent := h.writeJson ChatClient.sendHeartbeat
    exact ⟨hsent.timed, hsent.waits⟩

/-! ## Messages -/

@[simp] theorem emit_socket (c : QtClient) (js : Json) : (c.emit js).m_socket = c.m_socket := by
  unfold emit
  split <;> rfl

@[simp] theorem emit_timer (c : QtClient) (js : Json) :
    (c.emit js).m_loginTimeoutTimer = c.m_loginTimeoutTimer := by
  unfold emit
  split <;> rfl

/-- A message leaves the socket alone. -/
@[simp] theorem handleMessage_socket (c : QtClient) (js : Json) :
    (c.handleMessage js).m_socket = c.m_socket := by
  unfold handleMessage resetLoginState
  split_ifs <;> simp

theorem Timed.handleMessage (h : Timed c) (js : Json) : Timed (c.handleMessage js) := by
  have hemit : Timed (c.emit js) := by
    unfold QtClient.emit
    split <;> exact h
  unfold QtClient.handleMessage
  split_ifs
  -- an acknowledgement stops the timer first
  · exact timed_of_stopped (by simp)
  · exact timed_of_stopped rfl
  · exact timed_of_stopped (by simp [resetLoginState])
  · exact timed_of_stopped rfl
  · exact h
  · exact hemit

theorem onReadyRead_awake (hopen : c.IsOpen) (h : Timed c) (msgs : List Json) (bad : Bool) :
    Awake (c.onReadyRead msgs bad) := by
  have hfold : ∀ c : QtClient, c.IsOpen → Timed c →
      (msgs.foldl handleMessage c).IsOpen ∧ Timed (msgs.foldl handleMessage c) := by
    induction msgs with
    | nil => exact fun c ho ht => ⟨ho, ht⟩
    | cons js msgs ih =>
      intro c ho ht
      refine ih (c.handleMessage js) ?_ (ht.handleMessage js)
      unfold IsOpen
      rwa [handleMessage_socket]
  obtain ⟨ho, ht⟩ := hfold { c with m_lastDataTime := c.now } hopen h
  unfold onReadyRead
  dsimp only
  split
  · exact (awake_of_open ho ht).abort_open ho
  · exact awake_of_open ho ht

/-! ## The windows -/

theorem Awake.onLoginClicked (h : Awake c) (d : Dialog) (id : Option Int) (pwd : Str) :
    Awake (c.onLoginClicked d id pwd) := by
  unfold QtClient.onLoginClicked
  split
  · exact h
  · dsimp only
    split_ifs with hp hc
    · exact h
    · exact (h.window _).timed.connectToServer _ _
    · exact login_awake (.inl (by simpa [isConnected] using hc)) _ _

theorem Awake.onRegisterClicked (h : Awake c) (d : Dialog) (name pwd : Str) :
    Awake (c.onRegisterClicked d name pwd) := by
  unfold QtClient.onRegisterClicked
  dsimp only
  split_ifs
  · exact h
  · exact (h.window _).timed.connectToServer _ _
  · exact (h.window _).sendJson _

theorem Awake.giveUp (h : Awake c) (d : Dialog) : Awake (c.giveUp d) := h.loginout.window _

theorem Awake.close (h : Awake c) : Awake c.close := h.loginout.window _

theorem Awake.onSwitchAccountClicked (h : Awake c) : Awake c.onSwitchAccountClicked := by
  have hreset : Awake c.loginout.resetLoginState := ⟨h.loginout.timed, h.loginout.waits⟩
  exact (hreset.close.window _).close

theorem Awake.toggleStatus (h : Awake c) (w : MainWindow) : Awake (c.toggleStatus w) := by
  unfold QtClient.toggleStatus
  split
  · exact h.loginout.window _
  · exact h.relogin

end QtClient

open QtClient

/-- **One event.** -/
theorem step_awake {fromJson : Str → Option Json} {e : ClientEvent} {c c' : QtClient}
    (h : Awake c) (hs : c.step fromJson e = some c') : Awake c' := by
  cases QtClient.steps hs with
  | loginClicked => exact h.onLoginClicked _ _ _
  | registerClicked => exact h.onRegisterClicked _ _ _
  | cancelClicked => exact h.giveUp _
  | serverSettings => exact ⟨h.timed, h.waits⟩
  | dialogClosed => exact h.window _
  | logoutClicked => exact (h.window _).loginout.close
  | switchClicked => exact h.onSwitchAccountClicked
  | statusClicked => exact h.toggleStatus _
  | windowClosed => exact h.close
  | request => exact h.sendJson _
  | connected => exact connect_awake c
  | failed hc => exact h.fail hc
  | remoteClosed => exact ⟨h.timed.onError.disconnectFromHost, (retries_onError c).waits.disconnectFromHost⟩
  | written hc => exact ⟨h.timed.leave, (retries_leave (.inr hc)).waits⟩
  | broke => exact ⟨h.timed.onError.abort, (retries_onError c).abort.waits⟩
  | readyRead ho => exact onReadyRead_awake ho h.timed _ _
  | unsent => exact ⟨h.timed, h.waits⟩
  | breaks => exact ⟨h.timed, h.waits⟩
  | reconnectTimeout => exact h.onReconnectTimeout
  | loginTimeout ht => exact h.onLoginTimeout ht
  | heartbeat => exact h.sendHeartbeat
  | heartbeatTimeout => exact onHeartbeatTimeout_awake (c := { c with m_heartbeatTimeout := false }) h.timed
  | retryTimeout => exact h.giveUp _
  | tick => exact ⟨h.timed, h.waits⟩
  | built => exact h.window _
  | left => exact h.window _

/-- **The client never gets stuck offline.** In every run of user actions, socket events, timer
events and messages, once `connectToServer` was called and unless the user asked to be offline, the
socket is not unconnected or the reconnect timer is active. -/
theorem never_stuck {fromJson : Str → Option Json} {c : QtClient}
    (h : (clientMachine fromJson).Reach c) (hcalled : 0 < c.m_socket.attempts)
    (hintent : c.m_intentionalDisconnect = false) :
    c.m_socket.state ≠ .unconnected ∨ c.m_reconnectTimer = true := by
  have hawake : Awake c := by
    refine h.inv (M := clientMachine fromJson) ?_ fun e c c' hc he => step_awake hc he
    rintro c ⟨now, ip, port, rfl⟩
    exact ⟨timed_of_stopped rfl, fun ha => absurd rfl ha⟩
  exact hawake.waits (by omega) hintent

/-- The user logs in, and the server does not answer. -/
def serverDown : List ClientEvent := [.loginClicked (some 1) (txt "pw"), .failed]

theorem never_stuck_server_down : ∃ c, (clientMachine fun _ => none).runs serverDown
    (.start 0 (txt "::1") 6000) = some c ∧
    (c.m_socket.state ≠ .unconnected ∨ c.m_reconnectTimer = true) := by
  have h : ((clientMachine fun _ => none).runs serverDown (.start 0 (txt "::1") 6000)).map
      (fun c : QtClient => (c.m_socket.attempts, c.m_intentionalDisconnect)) = some (1, false) := by
    decide
  obtain ⟨c, hr, hf⟩ := Option.map_eq_some_iff.mp h
  simp only [Prod.mk.injEq] at hf
  have hreach : (clientMachine fun _ => none).Reach c := Machine.Reach.runs (.init ⟨_, _, _, rfl⟩) hr
  exact ⟨c, hr, never_stuck hreach (by omega) hf.2⟩

end QtChat
