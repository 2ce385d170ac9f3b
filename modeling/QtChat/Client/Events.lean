import QtChat.Client.Connection
import QtChat.Interleave.Machine

/-!
# The events of the Qt client

- `ClientEvent`, `QtClient.step`: what the user does, what the socket and the timers raise, and the
  return of an event loop of `main`.
- `QtClient.Steps`: the ways the client goes on; `clientMachine`: its runs.
-/

namespace QtChat

/-- What the user asks for in the main window. -/
inductive WidgetRequest where
  | oneChat (toid : Int) (msg time : Str)
  | groupChat (groupid : Int) (msg time : Str)
  | addFriend (friendid : Int)
  | createGroup (name desc : Str)
  | addGroup (groupid : Int)
  | updateName (newName : Str)

namespace WidgetRequest

/-- What `ChatClient` sends. -/
def json (c : QtClient) (w : MainWindow) : WidgetRequest → Json
  | oneChat toid msg time => ChatClient.oneChat c.m_myId c.m_myName toid msg time
  | groupChat groupid msg time => ChatClient.groupChat c.m_myId c.m_myName groupid msg time
  | addFriend friendid => ChatClient.addFriend c.m_myId friendid
  | createGroup name desc => ChatClient.createGroup c.m_myId name desc
  | addGroup groupid => ChatClient.addGroup c.m_myId groupid
  | updateName newName => ChatClient.updateName w.m_myId newName

/-- `onSendClicked` sends chats only while the window shows the user online. -/
def isChat : WidgetRequest → Bool
  | oneChat .. | groupChat .. => true
  | _ => false

end WidgetRequest

/-! ## Events -/

inductive ClientEvent where
  -- the user, in the login dialog
  | loginClicked (id : Option Int) (pwd : Str)
  | registerClicked (name pwd : Str)
  | cancelClicked
  | serverSettings (ip : Str) (port : Nat)
  | dialogClosed
  -- the user, in the main window
  | logoutClicked
  | switchClicked
  | statusClicked
  | windowClosed
  | request (r : WidgetRequest)
  -- the socket
  | connected
  /-- The host is not found, refuses, or does not answer. -/
  | failed
  | remoteClosed
  /-- A closing socket has written all. -/
  | written
  | broke
  | readyRead (msgs : List Json) (bad : Bool)
  -- the kernel and the network, unseen by the client
  | unsent (b : Bool)
  | breaks
  -- the timers, and the clock
  | reconnectTimeout
  | loginTimeout
  | heartbeat
  | heartbeatTimeout
  | retryTimeout
  | tick (seconds : Nat)
  /-- `dlg.exec()` or `a.exec()` returns in `main`. -/
  | execReturns

/-- The user does it. -/
def ClientEvent.byUser : ClientEvent → Bool
  | loginClicked .. | registerClicked .. | cancelClicked | serverSettings .. | dialogClosed
  | logoutClicked | switchClicked | statusClicked | windowClosed | request _ => true
  | _ => false

namespace QtClient

/-- What the user does in the dialog. -/
def stepDialog (c : QtClient) (d : Dialog) : ClientEvent → Option QtClient
  | .loginClicked id pwd => some (c.onLoginClicked d id pwd)
  | .registerClicked name pwd =>
    if d.inputsEnabled then some (c.onRegisterClicked d name pwd) else none
  | .cancelClicked => if d.inputsEnabled then none else some (c.giveUp d)
  | .serverSettings ip port => some { c with m_serverIp := ip, m_serverPort := port }
  | .dialogClosed => some { c with window := .none }
  | _ => none

/-- What the user does in the main window. -/
def stepWidget (c : QtClient) (w : MainWindow) : ClientEvent → Option QtClient
  | .logoutClicked => some c.onLogoutClicked
  | .switchClicked => some c.onSwitchAccountClicked
  | .statusClicked => some (c.toggleStatus w)
  | .windowClosed => some c.close
  | .request r => if r.isChat ∧ ¬w.m_online then none else some (c.sendJson (r.json c w))
  | _ => none

/-- The user can use a window until it is accepted or closed. -/
def stepUser (c : QtClient) (e : ClientEvent) : Option QtClient :=
  match c.window with
  | .dialog d => if d.accepted then none else c.stepDialog d e
  | .widget w => if w.closed then none else c.stepWidget w e
  | .none => none

/-- An event of the socket, which the state of the socket allows. -/
def stepSocket (c : QtClient) : ClientEvent → Option QtClient
  | .connected => if c.m_socket.state = .connecting then some c.connect else none
  | .failed => if c.m_socket.state = .connecting then some c.fail else none
  | .remoteClosed => if c.IsOpen then some c.onError.disconnectFromHost else none
  | .written => if c.m_socket.state = .closing then some c.leave else none
  | .broke => if c.IsOpen then some c.onError.abort else none
  | .readyRead msgs bad => if c.IsOpen then some (c.onReadyRead msgs bad) else none
  | .unsent b => some { c with m_socket := { c.m_socket with unsent := b } }
  | .breaks => some { c with m_socket := { c.m_socket with broken := true } }
  | _ => none

/-- A timer that is active is due. -/
def stepTimer (c : QtClient) : ClientEvent → Option QtClient
  | .reconnectTimeout => if c.m_reconnectTimer then some c.onReconnectTimeout else none
  | .loginTimeout => if c.m_loginTimeoutTimer then some c.onLoginTimeout else none
  | .heartbeat => if c.m_heartbeatTimer then some c.sendHeartbeat else none
  | .heartbeatTimeout =>
    if c.m_heartbeatTimeout then some { c with m_heartbeatTimeout := false }.onHeartbeatTimeout
    else none
  | .retryTimeout => match c.window with
    | .dialog d => if d.m_retryTimeout then some (c.giveUp d) else none
    | _ => none
  | .tick seconds => some { c with now := c.now + seconds }
  | _ => none

/-- The loop of `main`. -/
def stepMain (fromJson : Str → Option Json) (c : QtClient) : Option QtClient :=
  match c.window with
  | .dialog d => if d.accepted then some { c with window := .widget (.new fromJson d) } else none
  | .widget w =>
    if w.closed then some { c with window := if w.switchRequested then .dialog .new else .none }
    else none
  | .none => none

/-- One event; none after `main` has returned. -/
def step (fromJson : Str → Option Json) (e : ClientEvent) (c : QtClient) : Option QtClient :=
  match c.window, e with
  | .none, _ => none
  | _, .execReturns => c.stepMain fromJson
  | _, e => (c.stepUser e).or ((c.stepSocket e).or (c.stepTimer e))

end QtClient

/-! ## What an event can do -/

/-- The ways the client goes on. -/
inductive QtClient.Steps (fromJson : Str → Option Json) (c : QtClient) : ClientEvent → QtClient → Prop
  | loginClicked {d : Dialog} {id : Option Int} {pwd : Str} : c.window = .dialog d →
      d.accepted = false → Steps fromJson c (.loginClicked id pwd) (c.onLoginClicked d id pwd)
  | registerClicked {d : Dialog} {name pwd : Str} : c.window = .dialog d → d.accepted = false →
      d.inputsEnabled = true →
      Steps fromJson c (.registerClicked name pwd) (c.onRegisterClicked d name pwd)
  | cancelClicked {d : Dialog} : c.window = .dialog d → d.accepted = false →
      d.inputsEnabled = false → Steps fromJson c .cancelClicked (c.giveUp d)
  | serverSettings {d : Dialog} {ip : Str} {port : Nat} : c.window = .dialog d →
      d.accepted = false →
      Steps fromJson c (.serverSettings ip port) { c with m_serverIp := ip, m_serverPort := port }
  | dialogClosed {d : Dialog} : c.window = .dialog d → d.accepted = false →
      Steps fromJson c .dialogClosed { c with window := .none }
  | logoutClicked {w : MainWindow} : c.window = .widget w → w.closed = false →
      Steps fromJson c .logoutClicked c.onLogoutClicked
  | switchClicked {w : MainWindow} : c.window = .widget w → w.closed = false →
      Steps fromJson c .switchClicked c.onSwitchAccountClicked
  | statusClicked {w : MainWindow} : c.window = .widget w → w.closed = false →
      Steps fromJson c .statusClicked (c.toggleStatus w)
  | windowClosed {w : MainWindow} : c.window = .widget w → w.closed = false →
      Steps fromJson c .windowClosed c.close
  | request {w : MainWindow} {r : WidgetRequest} : c.window = .widget w → w.closed = false →
      (r.isChat = true → w.m_online = true) →
      Steps fromJson c (.request r) (c.sendJson (r.json c w))
  | connected : c.m_socket.state = .connecting → Steps fromJson c .connected c.connect
  | failed : c.m_socket.state = .connecting → Steps fromJson c .failed c.fail
  | remoteClosed : c.IsOpen → Steps fromJson c .remoteClosed c.onError.disconnectFromHost
  | written : c.m_socket.state = .closing → Steps fromJson c .written c.leave
  | broke : c.IsOpen → Steps fromJson c .broke c.onError.abort
  | readyRead {msgs : List Json} {bad : Bool} : c.IsOpen →
      Steps fromJson c (.readyRead msgs bad) (c.onReadyRead msgs bad)
  | unsent {b : Bool} :
      Steps fromJson c (.unsent b) { c with m_socket := { c.m_socket with unsent := b } }
  | breaks : Steps fromJson c .breaks { c with m_socket := { c.m_socket with broken := true } }
  | reconnectTimeout : c.m_reconnectTimer = true →
      Steps fromJson c .reconnectTimeout c.onReconnectTimeout
  | loginTimeout : c.m_loginTimeoutTimer = true → Steps fromJson c .loginTimeout c.onLoginTimeout
  | heartbeat : c.m_heartbeatTimer = true → Steps fromJson c .heartbeat c.sendHeartbeat
  | heartbeatTimeout : c.m_heartbeatTimeout = true →
      Steps fromJson c .heartbeatTimeout { c with m_heartbeatTimeout := false }.onHeartbeatTimeout
  | retryTimeout {d : Dialog} : c.window = .dialog d → d.m_retryTimeout = true →
      Steps fromJson c .retryTimeout (c.giveUp d)
  | tick {seconds : Nat} : Steps fromJson c (.tick seconds) { c with now := c.now + seconds }
  /-- The dialog was accepted. -/
  | built {d : Dialog} : c.window = .dialog d → d.accepted = true →
      Steps fromJson c .execReturns { c with window := .widget (.new fromJson d) }
  /-- The main window is gone. -/
  | left {w : MainWindow} : c.window = .widget w → w.closed = true →
      Steps fromJson c .execReturns
        { c with window := if w.switchRequested then .dialog .new else .none }

section Steps

variable {fromJson : Str → Option Json} {e : ClientEvent} {c c' : QtClient}

theorem QtClient.stepUser_steps (h : c.stepUser e = some c') : c.Steps fromJson e c' := by
  unfold stepUser at h
  split at h
  · rename_i d hw
    simp only [Option.ite_none_left_eq_some, Bool.not_eq_true] at h
    obtain ⟨ha, h⟩ := h
    cases e <;> simp only [stepDialog, Option.ite_none_right_eq_some, Option.ite_none_left_eq_some,
      Option.some.injEq, reduceCtorEq, Bool.not_eq_true] at h
    case loginClicked => exact h ▸ .loginClicked hw ha
    case registerClicked => exact h.2 ▸ .registerClicked hw ha h.1
    case cancelClicked => exact h.2 ▸ .cancelClicked hw ha h.1
    case serverSettings => exact h ▸ .serverSettings hw ha
    case dialogClosed => exact h ▸ .dialogClosed hw ha
  · rename_i w hw
    simp only [Option.ite_none_left_eq_some, Bool.not_eq_true] at h
    obtain ⟨hc, h⟩ := h
    cases e <;> simp only [stepWidget, Option.ite_none_left_eq_some, Option.some.injEq,
      reduceCtorEq] at h
    case logoutClicked => exact h ▸ .logoutClicked hw hc
    case switchClicked => exact h ▸ .switchClicked hw hc
    case statusClicked => exact h ▸ .statusClicked hw hc
    case windowClosed => exact h ▸ .windowClosed hw hc
    case request r =>
      refine h.2 ▸ .request hw hc fun hr => ?_
      by_contra ho
      exact h.1 ⟨hr, ho⟩
  · cases h

theorem QtClient.stepSocket_steps (h : c.stepSocket e = some c') : c.Steps fromJson e c' := by
  cases e <;> simp only [stepSocket, Option.ite_none_right_eq_some, Option.some.injEq,
    reduceCtorEq] at h
  case connected => exact h.2 ▸ .connected h.1
  case failed => exact h.2 ▸ .failed h.1
  case remoteClosed => exact h.2 ▸ .remoteClosed h.1
  case written => exact h.2 ▸ .written h.1
  case broke => exact h.2 ▸ .broke h.1
  case readyRead => exact h.2 ▸ .readyRead h.1
  case unsent => exact h ▸ .unsent
  case breaks => exact h ▸ .breaks

theorem QtClient.stepTimer_steps (h : c.stepTimer e = some c') : c.Steps fromJson e c' := by
  cases e <;> simp only [stepTimer, Option.ite_none_right_eq_some, Option.some.injEq,
    reduceCtorEq] at h
  case reconnectTimeout => exact h.2 ▸ .reconnectTimeout h.1
  case loginTimeout => exact h.2 ▸ .loginTimeout h.1
  case heartbeat => exact h.2 ▸ .heartbeat h.1
  case heartbeatTimeout => exact h.2 ▸ .heartbeatTimeout h.1
  case retryTimeout =>
    split at h
    · rename_i d hw
      simp only [Option.ite_none_right_eq_some, Option.some.injEq] at h
      exact h.2 ▸ .retryTimeout hw h.1
    · cases h
  case tick => exact h ▸ .tick

theorem QtClient.stepMain_steps (h : c.stepMain fromJson = some c') :
    c.Steps fromJson .execReturns c' := by
  unfold stepMain at h
  split at h
  · rename_i d hw
    simp only [Option.ite_none_right_eq_some, Option.some.injEq] at h
    exact h.2 ▸ .built hw h.1
  · rename_i w hw
    simp only [Option.ite_none_right_eq_some, Option.some.injEq] at h
    exact h.2 ▸ .left hw h.1
  · cases h

/-- **Every event** does one of these. -/
theorem QtClient.steps (h : c.step fromJson e = some c') : c.Steps fromJson e c' := by
  unfold step at h
  split at h
  · cases h
  · exact stepMain_steps h
  · rcases Option.or_eq_some_iff.mp h with h | ⟨-, h⟩
    · exact stepUser_steps h
    · rcases Option.or_eq_some_iff.mp h with h | ⟨-, h⟩
      · exact stepSocket_steps h
      · exact stepTimer_steps h

/-- While there is a window, what the socket raises happens. -/
theorem QtClient.step_socket (hw : c.window ≠ .none) (h : c.stepSocket e = some c') :
    c.step fromJson e = some c' := by
  have huser : c.stepUser e = none := by
    unfold stepUser
    split
    · cases e <;> simp_all [stepSocket, stepDialog]
    · cases e <;> simp_all [stepSocket, stepWidget]
    · rfl
  unfold step
  split
  · contradiction
  · cases h
  · rw [huser, Option.none_or, h, Option.some_or]

end Steps

/-- The client as a machine. -/
def clientMachine (fromJson : Str → Option Json) : Interleave.Machine where
  State := QtClient
  Label := ClientEvent
  init c := ∃ now ip port, c = .start now ip port
  step := QtClient.step fromJson

end QtChat
