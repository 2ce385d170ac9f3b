import QtChat.Client.Events

/-!
# What the client does after a logout

After `ChatClient::loginout` the client sends no `LOGIN_MSG` and starts no reconnect timer until the
user acts, unless the socket was still connecting: `onConnected` forgets that the disconnect was
intentional.

- `Resigned`: what `m_intentionalDisconnect` says of the timer and of the other flag; every event
  keeps it.
- `Stays`: what the functions of the client keep when the disconnect is intentional; `quiet_step` is
  about the events that may follow a logout, `quiet_run` about their runs.
- `quiet_after_loginout_iff`, and `reconnects_after_cancel`: a user who cancels while connecting is
  connected again and again.
-/

namespace QtChat

open Interleave

namespace QtClient

/-- Intentionally offline, the client does not try to connect, nor wants to log in. -/
def Resigned (c : QtClient) : Prop :=
  c.m_intentionalDisconnect = true → c.m_reconnectTimer = false ∧ c.m_wantRelogin = false

/-- The `LOGIN_MSG` that were sent. -/
def loginsSent (c : QtClient) : Nat := c.m_socket.written.countP fun e => e.2.isMsg .loginMsg

/-- The socket is not connecting, or the write of the logout fails and closes it. -/
def CanClose (c : QtClient) : Prop :=
  c.m_socket.state = .connecting → c.m_intentionalDisconnect = false ∧ c.m_socket.broken = true

end QtClient

/-- The event makes a call of `loginout`. -/
def ClientEvent.LogsOut (c : QtClient) : ClientEvent → Prop
  | .cancelClicked | .retryTimeout | .logoutClicked | .switchClicked | .windowClosed => True
  | .statusClicked => ∃ w, c.window = .widget w ∧ w.m_online = true
  | _ => False

namespace QtClient

variable {c c' : QtClient}

/-! ## The flags -/

theorem Resigned.onDisconnected (h : Resigned c) : Resigned c.onDisconnected := by
  unfold QtClient.onDisconnected startReconnect Resigned at *
  grind

theorem Resigned.onError (h : Resigned c) : Resigned c.onError := by
  unfold QtClient.onError startReconnect Resigned at *
  grind

theorem Resigned.leave (h : Resigned c) : Resigned c.leave := by
  unfold QtClient.leave
  split
  · exact Resigned.onDisconnected h
  · exact h

theorem Resigned.abort (h : Resigned c) : Resigned c.abort := by
  unfold QtClient.abort
  split
  · exact h
  · exact h.leave

theorem Resigned.disconnectFromHost (h : Resigned c) : Resigned c.disconnectFromHost := by
  unfold QtClient.disconnectFromHost
  split_ifs
  · exact h
  · exact h.leave
  · exact h
  · exact h

theorem Resigned.writeJson (h : Resigned c) (js : Json) : Resigned (c.writeJson js) := by
  unfold QtClient.writeJson QtClient.flush
  split
  · exact Resigned.abort (Resigned.onError h)
  · exact h

theorem resigned_of_wanted (h : c.m_intentionalDisconnect = false) : Resigned c := by
  intro hi
  rw [h] at hi
  cases hi

theorem Resigned.sendJson (h : Resigned c) (js : Json) : Resigned (c.sendJson js) := by
  refine Resigned.writeJson ?_ js
  exact h

theorem login_resigned (c : QtClient) (id : Int) (pwd : Str) : Resigned (c.login id pwd) := by
  refine Resigned.sendJson ?_ _
  exact resigned_of_wanted rfl

theorem connectToServer_resigned (c : QtClient) (host : Str) (port : Nat) :
    Resigned (c.connectToServer host port) := by
  refine Resigned.abort ?_
  exact resigned_of_wanted rfl

theorem Resigned.loginout (h : Resigned c) : Resigned c.loginout := by
  unfold QtClient.loginout
  split
  · exact h
  · refine Resigned.disconnectFromHost (Resigned.sendJson ?_ _)
    exact fun _ => ⟨rfl, rfl⟩

theorem Resigned.resetLoginState (h : Resigned c) : Resigned c.resetLoginState :=
  fun hi => ⟨(h hi).1, rfl⟩

theorem Resigned.relogin (h : Resigned c) : Resigned c.relogin := by
  unfold QtClient.relogin
  split
  · exact connectToServer_resigned _ _ _
  · exact h

theorem Resigned.connect (c : QtClient) : Resigned c.connect := by
  have hemit : ∀ c : QtClient, Resigned c → Resigned c.emitConnected := by
    intro c h
    unfold emitConnected
    split
    · split
      · exact login_resigned _ _ _
      · exact h.sendJson _
      · exact h
    · exact h
  have hconn : ∀ c : QtClient, Resigned c.onConnected := by
    intro c
    unfold onConnected
    dsimp only
    split
    · exact login_resigned _ _ _
    · exact hemit _ (resigned_of_wanted rfl)
  unfold QtClient.connect
  dsimp only
  split
  · exact (hconn _).disconnectFromHost
  · exact hconn _

theorem Resigned.handleMessage (h : Resigned c) (js : Json) : Resigned (c.handleMessage js) := by
  have hemit : ∀ c : QtClient, Resigned c → Resigned (c.emit js) := by
    intro c h
    unfold emit
    split <;> exact h
  unfold QtClient.handleMessage
  split_ifs
  · exact hemit _ h
  · exact h
  · refine hemit _ ?_
    exact fun hi => ⟨rfl, rfl⟩
  · exact h
  · exact h
  · exact hemit _ h

theorem Resigned.onReadyRead (h : Resigned c) (msgs : List Json) (bad : Bool) :
    Resigned (c.onReadyRead msgs bad) := by
  have hfold : ∀ c : QtClient, Resigned c → Resigned (msgs.foldl QtClient.handleMessage c) := by
    induction msgs with
    | nil => exact fun c h => h
    | cons js msgs ih => exact fun c h => ih _ (h.handleMessage js)
  unfold QtClient.onReadyRead
  dsimp only
  split
  · exact (hfold { c with m_lastDataTime := c.now } h).abort
  · exact hfold { c with m_lastDataTime := c.now } h

theorem Resigned.onHeartbeatTimeout (h : Resigned c) : Resigned c.onHeartbeatTimeout := by
  unfold QtClient.onHeartbeatTimeout
  split
  · rename_i hi
    exact resigned_of_wanted (by simpa [startReconnect] using hi)
  · exact h.abort

theorem Resigned.onReconnectTimeout (h : Resigned c) : Resigned c.onReconnectTimeout := by
  unfold QtClient.onReconnectTimeout
  split
  · exact h
  · exact h.abort

theorem Resigned.sendHeartbeat (h : Resigned c) : Resigned c.sendHeartbeat := by
  unfold QtClient.sendHeartbeat
  split_ifs
  · exact h
  · exact h
  · exact h.writeJson _

theorem Resigned.onLoginClicked (h : Resigned c) (d : Dialog) (id : Option Int) (pwd : Str) :
    Resigned (c.onLoginClicked d id pwd) := by
  unfold QtClient.onLoginClicked
  split
  · exact h
  · dsimp only
    split_ifs
    · exact h
    · exact connectToServer_resigned _ _ _
    · exact login_resigned _ _ _

theorem Resigned.onRegisterClicked (h : Resigned c) (d : Dialog) (name pwd : Str) :
    Resigned (c.onRegisterClicked d name pwd) := by
  unfold QtClient.onRegisterClicked
  dsimp only
  split_ifs
  · exact h
  · exact connectToServer_resigned _ _ _
  · refine Resigned.sendJson ?_ _
    exact h

/-- **One event.** -/
theorem step_resigned {fromJson : Str → Option Json} {e : ClientEvent} (h : Resigned c)
    (hs : c.step fromJson e = some c') : Resigned c' := by
  cases QtClient.steps hs with
  | loginClicked => exact h.onLoginClicked _ _ _
  | registerClicked => exact h.onRegisterClicked _ _ _
  | cancelClicked => exact h.loginout
  | logoutClicked =>
    refine Resigned.loginout (Resigned.loginout ?_)
    exact h
  | switchClicked =>
    have hclosed : Resigned c.loginout.resetLoginState.close := h.loginout.resetLoginState.loginout
    refine Resigned.loginout ?_
    exact hclosed
  | statusClicked =>
    unfold toggleStatus
    split
    · exact h.loginout
    · exact h.relogin
  | windowClosed => exact h.loginout
  | request => exact h.sendJson _
  | connected => exact Resigned.connect c
  | failed => exact Resigned.onError h
  | remoteClosed => exact h.onError.disconnectFromHost
  | written => exact h.leave
  | broke => exact h.onError.abort
  | readyRead => exact h.onReadyRead _ _
  | reconnectTimeout => exact h.onReconnectTimeout
  | loginTimeout =>
    refine Resigned.abort ?_
    exact h
  | heartbeat => exact h.sendHeartbeat
  | heartbeatTimeout =>
    refine Resigned.onHeartbeatTimeout ?_
    exact h
  | retryTimeout => exact h.loginout
  | _ => exact h

theorem resigned {fromJson : Str → Option Json} (h : (clientMachine fromJson).Reach c) :
    Resigned c := by
  refine h.inv (M := clientMachine fromJson) ?_ fun e c c' hc he => step_resigned hc he
  rintro c ⟨now, ip, port, rfl⟩
  exact resigned_of_wanted rfl

/-! ## What an intentional disconnect keeps -/

/-- From `c` to `c'` no login was sent and no reconnect timer started, and both are intentionally
offline. -/
structure Stays (c c' : QtClient) : Prop where
  intent : c'.m_intentionalDisconnect = true
  timer : c.m_reconnectTimer = false → c'.m_reconnectTimer = false
  starts : c'.reconnectStarts = c.reconnectStarts
  logins : c'.loginsSent = c.loginsSent
  state : c.m_socket.state ≠ .connecting → c'.m_socket.state ≠ .connecting

theorem Stays.refl (hi : c.m_intentionalDisconnect = true) : Stays c c :=
  ⟨hi, id, rfl, rfl, id⟩

theorem Stays.trans {c₁ c₂ c₃ : QtClient} (h : Stays c₁ c₂) (h' : Stays c₂ c₃) : Stays c₁ c₃ :=
  ⟨h'.intent, fun ht => h'.timer (h.timer ht), h'.starts.trans h.starts, h'.logins.trans h.logins,
    fun hs => h'.state (h.state hs)⟩

/-- The window, the other timers and the user's data are free. -/
theorem Stays.congr {c₁ c₂ : QtClient} (h : Stays c c₁)
    (hi : c₂.m_intentionalDisconnect = c₁.m_intentionalDisconnect)
    (ht : c₂.m_reconnectTimer = c₁.m_reconnectTimer)
    (hs : c₂.reconnectStarts = c₁.reconnectStarts) (hk : c₂.m_socket = c₁.m_socket) :
    Stays c c₂ := by
  refine ⟨hi.trans h.intent, fun h₀ => ht.trans (h.timer h₀), hs.trans h.starts, ?_, ?_⟩
  · rw [loginsSent, hk]
    exact h.logins
  · rw [hk]
    exact h.state

theorem leave_stays (hi : c.m_intentionalDisconnect = true) : Stays c c.leave := by
  unfold leave onDisconnected
  simp only [hi, Bool.not_true, Bool.false_and, Bool.false_eq_true, if_false]
  split
  · exact ⟨rfl, id, rfl, rfl, nofun⟩
  · exact ⟨rfl, id, rfl, rfl, nofun⟩

theorem abort_stays (hi : c.m_intentionalDisconnect = true) : Stays c c.abort := by
  unfold abort
  split
  · exact .refl hi
  · exact leave_stays hi

theorem onError_intentional (hi : c.m_intentionalDisconnect = true) : c.onError = c := by
  rw [onError, if_pos hi]

theorem disconnectFromHost_stays (hi : c.m_intentionalDisconnect = true) :
    Stays c c.disconnectFromHost := by
  unfold disconnectFromHost
  split_ifs
  · exact ⟨hi, id, rfl, rfl, nofun⟩
  · exact leave_stays hi
  · exact ⟨hi, id, rfl, rfl, id⟩
  · exact .refl hi

theorem writeJson_stays (hi : c.m_intentionalDisconnect = true) {js : Json}
    (hjs : js.isMsg .loginMsg = false) : Stays c (c.writeJson js) := by
  have hwrite : Stays c { c with m_socket := c.m_socket.write js } := by
    refine ⟨hi, id, rfl, ?_, ?_⟩
    · unfold loginsSent QTcpSocket.write
      split
      · rfl
      · simp [List.countP_append, hjs]
    · unfold QTcpSocket.write
      split <;> exact id
  refine hwrite.trans ?_
  unfold writeJson flush
  split
  · rw [onError_intentional (by exact hi)]
    exact abort_stays hi
  · exact .refl hi

theorem loginout_early (hi : c.m_intentionalDisconnect = true) : c.loginout = c := by
  rw [loginout, if_pos hi]

theorem handleMessage_stays (hi : c.m_intentionalDisconnect = true) (js : Json) :
    Stays c (c.handleMessage js) := by
  have hemit : ∀ c₁ : QtClient, Stays c c₁ → Stays c (c₁.emit js) := by
    intro c₁ h
    unfold emit
    split
    · exact h.congr rfl rfl rfl rfl
    · exact h
  have hself := Stays.refl hi
  unfold handleMessage
  split_ifs
  · refine Stays.congr (hemit _ ?_) rfl rfl rfl rfl
    exact hself.congr rfl rfl rfl rfl
  · exact hself.congr rfl rfl rfl rfl
  · refine hemit _ ?_
    exact ⟨hi, fun _ => rfl, rfl, rfl, id⟩
  · exact hself.congr rfl rfl rfl rfl
  · exact hself.congr rfl rfl rfl rfl
  · exact hemit _ hself

theorem onReadyRead_stays (hi : c.m_intentionalDisconnect = true) (msgs : List Json) (bad : Bool) :
    Stays c (c.onReadyRead msgs bad) := by
  have hfold : ∀ c : QtClient, c.m_intentionalDisconnect = true →
      Stays c (msgs.foldl handleMessage c) := by
    induction msgs with
    | nil => exact fun c hi => .refl hi
    | cons js msgs ih =>
      intro c hi
      have hone := handleMessage_stays hi js
      exact hone.trans (ih _ hone.intent)
  have hnow : Stays c { c with m_lastDataTime := c.now } := (Stays.refl hi).congr rfl rfl rfl rfl
  have hread := hnow.trans (hfold _ hnow.intent)
  unfold onReadyRead
  dsimp only
  split
  · exact hread.trans (abort_stays hread.intent)
  · exact hread

theorem heartbeat_no_login : ChatClient.sendHeartbeat.isMsg .loginMsg = false := by decide

theorem loginout_no_login (id : Int) : (ChatClient.loginout id).isMsg .loginMsg = false := rfl

/-- Intentionally offline, with no timer and no attempt under way. -/
structure Gone (c : QtClient) : Prop where
  intent : c.m_intentionalDisconnect = true
  timer : c.m_reconnectTimer = false
  state : c.m_socket.state ≠ .connecting

theorem Gone.stays (h : Gone c) (hs : Stays c c') : Gone c' :=
  ⟨hs.intent, hs.timer h.timer, hs.state h.state⟩

/-- **One event** that is not the user's. -/
theorem quiet_step {fromJson : Str → Option Json} {e : ClientEvent} (h : Gone c)
    (he : e.byUser = false) (hs : c.step fromJson e = some c') : Stays c c' := by
  have hself := Stays.refl h.intent
  cases QtClient.steps hs with
  | connected hc => exact absurd hc h.state
  | failed hc => exact absurd hc h.state
  | remoteClosed =>
    rw [onError_intentional h.intent]
    exact disconnectFromHost_stays h.intent
  | written => exact leave_stays h.intent
  | broke =>
    rw [onError_intentional h.intent]
    exact abort_stays h.intent
  | readyRead => exact onReadyRead_stays h.intent _ _
  | unsent => exact ⟨h.intent, id, rfl, rfl, id⟩
  | breaks => exact ⟨h.intent, id, rfl, rfl, id⟩
  | reconnectTimeout ht =>
    rw [h.timer] at ht
    cases ht
  | loginTimeout =>
    have hstop : Stays c { c with m_loginTimeoutTimer := false } := hself.congr rfl rfl rfl rfl
    exact hstop.trans (abort_stays h.intent)
  | heartbeat =>
    unfold sendHeartbeat
    split_ifs
    · exact hself
    · exact hself
    · exact (writeJson_stays h.intent heartbeat_no_login).congr rfl rfl rfl rfl
  | heartbeatTimeout =>
    have hstop : Stays c { c with m_heartbeatTimeout := false } := hself.congr rfl rfl rfl rfl
    have habort := hstop.trans (abort_stays hstop.intent)
    unfold onHeartbeatTimeout
    rw [if_neg (by simp [habort.intent])]
    exact habort
  | retryTimeout =>
    rw [giveUp, loginout_early h.intent]
    exact hself.congr rfl rfl rfl rfl
  | tick => exact hself.congr rfl rfl rfl rfl
  | built => exact hself.congr rfl rfl rfl rfl
  | left => exact hself.congr rfl rfl rfl rfl
  | _ => cases he

/-- **A run** without the user. -/
theorem quiet_run {fromJson : Str → Option Json} {es : List ClientEvent} (h : Gone c)
    (hes : ∀ e ∈ es, e.byUser = false) (hr : (clientMachine fromJson).runs es c = some c') :
    Stays c c' := by
  induction es generalizing c with
  | nil =>
    cases hr
    exact .refl h.intent
  | cons e es ih =>
    obtain ⟨c₁, h₁, hr⟩ := Option.bind_eq_some_iff.mp hr
    have hone := quiet_step h (hes e (.head _)) h₁
    exact hone.trans (ih (h.stays hone) (fun e he => hes e (.tail _ he)) hr)

/-! ## The logout -/

theorem loginout_gone (hr : Resigned c) (hc : CanClose c) : Gone c.loginout := by
  unfold loginout
  split
  · rename_i hi
    refine ⟨hi, (hr hi).1, fun hs => ?_⟩
    have := (hc hs).1
    rw [hi] at this
    cases this
  · have hwrite := writeJson_stays (c := { c with
      m_intentionalDisconnect := true, m_wantRelogin := false, m_reconnectTimer := false,
      m_loginTimeoutTimer := false, m_heartbeatTimer := false, m_heartbeatTimeout := false,
      m_lastDataTime := c.now }) rfl (loginout_no_login c.m_myId)
    have hclose := disconnectFromHost_stays hwrite.intent
    refine ⟨hclose.intent, hclose.timer (hwrite.timer rfl), hclose.state ?_⟩
    by_cases hs : c.m_socket.state = .connecting
    · -- the write finds the attempt broken and closes the socket
      have hb := (hc hs).2
      have hclosed : ∀ c : QtClient, c.abort.m_socket.state ≠ .connecting := by
        intro c
        rw [abort_state]
        nofun
      unfold writeJson flush
      rw [if_pos ⟨by simp [QTcpSocket.write, hs], by simp [QTcpSocket.write, hs, hb]⟩]
      exact hclosed _
    · exact hwrite.state hs

/-- The logout waits for the connection: the socket goes on connecting. -/
structure AwaitsSocket (c : QtClient) : Prop where
  state : c.m_socket.state = .connecting
  intent : c.m_intentionalDisconnect = true
  relogin : c.m_wantRelogin = false

theorem loginout_waiting (hr : Resigned c) (hc : ¬CanClose c) : AwaitsSocket c.loginout := by
  obtain ⟨hs, hb⟩ := Classical.not_imp.mp hc
  unfold loginout
  split
  · rename_i hi
    exact ⟨hs, hi, (hr hi).2⟩
  · rename_i hi
    have hb : c.m_socket.broken = false := by simpa [hi] using hb
    simp only [sendJson, writeJson, flush, QTcpSocket.write, hs, hb]
    exact ⟨rfl, rfl, rfl⟩

theorem loginout_intent (c : QtClient) : c.loginout.m_intentionalDisconnect = true := by
  unfold loginout
  split
  · assumption
  · exact (disconnectFromHost_stays (writeJson_stays rfl (loginout_no_login _)).intent).intent

theorem close_of_intent (hi : c.m_intentionalDisconnect = true) :
    c.close = { c with window := c.window.close } := by
  rw [close, loginout_early hi]

/-- The connection of `c'` is that of `c`, and no new login is wanted. -/
structure SameLink (c c' : QtClient) : Prop where
  socket : c'.m_socket = c.m_socket
  intent : c'.m_intentionalDisconnect = c.m_intentionalDisconnect
  timer : c'.m_reconnectTimer = c.m_reconnectTimer
  relogin : c.m_wantRelogin = false → c'.m_wantRelogin = false

/-- The window logs out once, and waits for nothing. -/
theorem logsOut_link {fromJson : Str → Option Json} {e : ClientEvent} (he : e.LogsOut c)
    (hs : c.step fromJson e = some c') :
    ∃ window, SameLink ({ c with window }.loginout) c' ∧ c'.window.pending = some .none := by
  have hwidget : ∀ {w}, c.window = .widget w → c.window.pending = some .none :=
    fun hw => by rw [hw]; rfl
  cases QtClient.steps hs with
  | cancelClicked => exact ⟨c.window, ⟨rfl, rfl, rfl, id⟩, rfl⟩
  | retryTimeout => exact ⟨c.window, ⟨rfl, rfl, rfl, id⟩, rfl⟩
  | logoutClicked hw =>
    refine ⟨c.window.setStatus false, ?_⟩
    unfold onLogoutClicked
    rw [close_of_intent (loginout_intent _)]
    exact ⟨⟨rfl, rfl, rfl, id⟩, by simp [hwidget hw]⟩
  | switchClicked hw =>
    have hreset : c.loginout.resetLoginState.m_intentionalDisconnect = true := loginout_intent c
    have hclose := close_of_intent hreset
    have hclosed : c.loginout.resetLoginState.close.m_intentionalDisconnect = true := by
      rw [hclose]
      exact hreset
    refine ⟨c.window, ?_⟩
    rw [show c.onSwitchAccountClicked = _ from close_of_intent hclosed, hclose]
    exact ⟨⟨rfl, rfl, rfl, fun _ => rfl⟩, by simp [resetLoginState, hwidget hw]⟩
  | statusClicked hw =>
    obtain ⟨w, hw', ho⟩ := he
    rw [hw] at hw'
    cases hw'
    unfold toggleStatus
    rw [if_pos ho]
    exact ⟨c.window, ⟨rfl, rfl, rfl, id⟩, by simp [hwidget hw]⟩
  | windowClosed hw => exact ⟨c.window, ⟨rfl, rfl, rfl, id⟩, by simp [close, hwidget hw]⟩
  | _ => exact he.elim

/-- With no login to send, `onConnected` sends nothing. -/
theorem onConnected_idle (hr : c.m_wantRelogin = false) (hp : c.window.pending = some .none) :
    c.onConnected = { c with m_reconnectTimer := false, m_intentionalDisconnect := false } := by
  unfold onConnected emitConnected
  dsimp only
  rw [hr, if_neg nofun]
  split
  · rename_i d hw
    have hd : d.m_pending = .none := by
      rw [hw] at hp
      exact Option.some.inj hp
    rw [hd]
  · rfl

/-- A connection that breaks starts the reconnect timer if nothing says that it was intentional. -/
theorem broke_starts (hi : c.m_intentionalDisconnect = false) (ht : c.m_reconnectTimer = false) :
    c.onError.abort.reconnectStarts = c.reconnectStarts + 1 := by
  have herror : c.onError = c.startReconnect := by simp [onError, hi, ht]
  rw [herror]
  unfold abort leave onDisconnected
  dsimp only
  split_ifs <;> simp_all [startReconnect]

/-- A client that waits for its connection gets it, and does not know any more that it wanted none.
-/
theorem waiting_starts {fromJson : Str → Option Json} (h : AwaitsSocket c)
    (hp : c.window.pending = some .none) : ∃ c', (clientMachine fromJson).runs
      [.unsent true, .connected, .broke] c = some c' ∧
        c'.reconnectStarts = c.reconnectStarts + 1 := by
  have hw : c.window ≠ .none := by
    intro hw
    rw [hw] at hp
    cases hp
  let c₁ : QtClient := { c with m_socket := { c.m_socket with unsent := true } }
  have h₁ : c.step fromJson (.unsent true) = some c₁ := step_socket hw rfl
  have h₂ : c₁.step fromJson .connected = some c₁.connect :=
    step_socket hw (if_pos h.state)
  have hidle : ({ c₁ with m_socket := { c₁.m_socket with state := .connected } }).onConnected = _ :=
    onConnected_idle h.relogin hp
  have hconn : c₁.connect.IsOpen ∧ c₁.connect.m_intentionalDisconnect = false ∧
      c₁.connect.m_reconnectTimer = false ∧ c₁.connect.reconnectStarts = c.reconnectStarts ∧
      c₁.connect.window = c.window := by
    unfold connect
    rw [hidle]
    dsimp only
    split
    · -- the socket closes, but has not sent all
      rw [disconnectFromHost, if_pos (.inl rfl), if_pos rfl]
      exact ⟨.inr rfl, rfl, rfl, rfl, rfl⟩
    · exact ⟨.inl rfl, rfl, rfl, rfl, rfl⟩
  obtain ⟨hopen, hi, ht, hstarts, hwindow⟩ := hconn
  have h₃ : c₁.connect.step fromJson .broke = some c₁.connect.onError.abort :=
    step_socket (by rw [hwindow]; exact hw) (if_pos hopen)
  refine ⟨c₁.connect.onError.abort, ?_, ?_⟩
  · rw [Machine.runs_step (M := clientMachine fromJson) h₁,
      Machine.runs_step (M := clientMachine fromJson) h₂,
      Machine.runs_step (M := clientMachine fromJson) h₃]
    rfl
  · rw [broke_starts hi ht, hstarts]

end QtClient

open QtClient

/-- **After a logout.** From a reachable state a logout (the button, the account switch, the status,
the window that is closed, Cancel, or the dialog's giving up) is followed by no `LOGIN_MSG` and by
no start of the reconnect timer, in every run without the user, exactly if the socket was not
connecting, or was closed by a failed write of the logout. -/
theorem quiet_after_loginout_iff {fromJson : Str → Option Json} {e : ClientEvent} {c c₁ : QtClient}
    (h : (clientMachine fromJson).Reach c) (he : e.LogsOut c) (hs : c.step fromJson e = some c₁) :
    (∀ (es : List ClientEvent) (c₂ : QtClient), (∀ e ∈ es, e.byUser = false) →
      (clientMachine fromJson).runs es c₁ = some c₂ →
        c₂.loginsSent = c₁.loginsSent ∧ c₂.reconnectStarts = c₁.reconnectStarts) ↔ c.CanClose := by
  obtain ⟨window, hlink, hpending⟩ := logsOut_link he hs
  have hres : Resigned c := resigned h
  constructor
  · intro hquiet
    by_contra hclose
    have hwait := loginout_waiting (c := { c with window }) hres hclose
    have hwait₁ : AwaitsSocket c₁ :=
      ⟨(congrArg QTcpSocket.state hlink.socket).trans hwait.state, hlink.intent.trans hwait.intent,
        hlink.relogin hwait.relogin⟩
    obtain ⟨c₂, hr, hstarts⟩ := @waiting_starts c₁ fromJson hwait₁ hpending
    have hby : ∀ e ∈ [ClientEvent.unsent true, .connected, .broke], e.byUser = false := by
      simp [ClientEvent.byUser]
    have hsame := (hquiet _ c₂ hby hr).2
    omega
  · intro hclose es c₂ hes hr
    have hgone := loginout_gone (c := { c with window }) hres hclose
    have hgone₁ : Gone c₁ :=
      ⟨hlink.intent.trans hgone.intent, hlink.timer.trans hgone.timer, fun hc =>
        hgone.state ((congrArg QTcpSocket.state hlink.socket).symm.trans hc)⟩
    have hstays := quiet_run hgone₁ hes hr
    exact ⟨hstays.logins, hstays.starts⟩

/-- The user has asked for a login, and the server's host does not answer yet. -/
def connecting : QtClient :=
  (QtClient.start 0 (txt "::1") 6000).onLoginClicked .new (some 1) (txt "pw")

theorem connecting_reach : (clientMachine fun _ => none).Reach connecting :=
  .step (.loginClicked (some 1) (txt "pw")) (.init ⟨0, txt "::1", 6000, rfl⟩) rfl

/-- The host answers, and the user cancels. -/
theorem quiet_after_loginout_iff_cancel : ∃ c₁ : QtClient,
    connecting.connect.step (fun _ => none) .cancelClicked = some c₁ ∧
    ((∀ (es : List ClientEvent) (c₂ : QtClient), (∀ e ∈ es, e.byUser = false) →
      (clientMachine fun _ => none).runs es c₁ = some c₂ →
        c₂.loginsSent = c₁.loginsSent ∧ c₂.reconnectStarts = c₁.reconnectStarts) ↔
      connecting.connect.CanClose) := by
  have hreach : (clientMachine fun _ => none).Reach connecting.connect :=
    .step .connected connecting_reach rfl
  exact ⟨_, rfl, quiet_after_loginout_iff hreach (e := .cancelClicked) trivial rfl⟩

/-- The user cancels before the host answers. The connection comes and is closed, and the client
makes the next one 2 seconds later, and so on. -/
theorem reconnects_after_cancel : ¬∀ (fromJson : Str → Option Json) (e : ClientEvent)
    (c c₁ : QtClient), (clientMachine fromJson).Reach c → e.LogsOut c →
    c.step fromJson e = some c₁ →
    ∀ (es : List ClientEvent) (c₂ : QtClient), (∀ e ∈ es, e.byUser = false) →
      (clientMachine fromJson).runs es c₁ = some c₂ →
        c₂.loginsSent = c₁.loginsSent ∧ c₂.reconnectStarts = c₁.reconnectStarts := by
  intro hall
  have h : ((connecting.step (fun _ => none) .cancelClicked).bind fun c₁ =>
      ((clientMachine fun _ => none).runs [.unsent true, .connected, .written] c₁).map
        fun c₂ : QtClient => (c₁.reconnectStarts, c₂.reconnectStarts)) = some (0, 1) := by decide
  obtain ⟨c₁, h₁, h⟩ := Option.bind_eq_some_iff.mp h
  obtain ⟨c₂, h₂, hf⟩ := Option.map_eq_some_iff.mp h
  simp only [Prod.mk.injEq] at hf
  have hby : ∀ e ∈ [ClientEvent.unsent true, .connected, .written], e.byUser = false := by
    simp [ClientEvent.byUser]
  have hsame := (hall _ .cancelClicked _ c₁ connecting_reach trivial h₁ _ c₂ hby h₂).2
  omega

end QtChat
