import QtChat.Client.FriendTree
import QtChat.Client.Requests

/-!
# The connection of the Qt client

What decides when the client connects, logs in and gives up: `ChatClient` (`chatclient.cpp`) with
its socket, its timers and its two flags, and of the windows (`logindialog.cpp`, `widget.cpp`) the
slots that call it or hear from it. Slots run inside the signal that they are connected to, as in
Qt.

- `QTcpSocket`: the states of a socket. `abort`, `disconnectFromHost` and `flush` call back into the
  client. What the network and the kernel do is the choice of events.
- `QtClient`: the client and its window; the functions have the names of the source.
-/

namespace QtChat

/-- `QAbstractSocket::SocketState`; `connecting` includes the lookup of the host. -/
inductive SocketState where
  | unconnected
  | connecting
  | connected
  | closing
  deriving DecidableEq

structure QTcpSocket where
  state : SocketState
  /-- `disconnectFromHost` was called in `connecting`: it waits for the connection. -/
  pendingClose : Bool
  /-- The kernel has not taken all that was written. -/
  unsent : Bool
  /-- The connection is broken, which the next `flush` finds out. -/
  broken : Bool
  hostName : Str
  port : Nat
  /-- The calls of `connectToHost`. -/
  attempts : Nat
  /-- What was written, with the attempt it was written on. -/
  written : List (Nat × Json)

namespace QTcpSocket

/-- A new socket. -/
def new : QTcpSocket := ⟨.unconnected, false, false, false, [], 0, 0, []⟩

/-- `write`: a socket that is not open takes nothing. -/
def write (s : QTcpSocket) (js : Json) : QTcpSocket :=
  if s.state = .unconnected then s else { s with written := s.written ++ [(s.attempts, js)] }

/-- `connectToHost`, which does nothing on an open socket. -/
def connectToHost (s : QTcpSocket) (host : Str) (port : Nat) : QTcpSocket :=
  if s.state = .unconnected then
    { s with state := .connecting, pendingClose := false, unsent := false, broken := false,
             hostName := host, port := port, attempts := s.attempts + 1 }
  else s

end QTcpSocket

/-- `LoginDialog` with what its buttons and its timer use. -/
structure Dialog extends LoginDialog where
  m_pendingLoginId : Int
  m_pendingLoginPwd : Str
  m_pendingRegName : Str
  m_pendingRegPwd : Str
  /-- `m_retryTimeout` is active. -/
  m_retryTimeout : Bool
  /-- The button to register is enabled, and that to cancel hidden. -/
  inputsEnabled : Bool

/-- The constructor of `LoginDialog`. -/
def Dialog.new : Dialog where
  m_userId := -1
  m_userName := []
  m_friends := []
  m_groups := []
  m_offlineMsgs := []
  m_pending := .none
  accepted := false
  m_pendingLoginId := -1
  m_pendingLoginPwd := []
  m_pendingRegName := []
  m_pendingRegPwd := []
  m_retryTimeout := false
  inputsEnabled := true

/-- `Widget`, without the chats. -/
structure MainWindow where
  m_myId : Int
  m_userName : Str
  m_online : Bool
  m_friendTree : FriendTree
  closed : Bool
  /-- `switchRequested` of `main`. -/
  switchRequested : Bool

/-- The slots of the dialog: each stops `m_retryTimeout`. -/
def Dialog.hear (d : Dialog) : Signal → Dialog
  | .loginSuccess id name friends groups offlineMsgs =>
    { d with
      toLoginDialog := d.onLoginSuccess id name friends groups offlineMsgs
      m_retryTimeout := false }
  | .loginFailed _ | .regSuccess _ | .regFailed _ =>
    { d with m_pending := .none, m_retryTimeout := false, inputsEnabled := true }
  | _ => d

/-- The constructor of `Widget`, with what the dialog got. -/
def MainWindow.new (fromJson : Str → Option Json) (d : Dialog) : MainWindow where
  m_myId := d.m_userId
  m_userName := d.m_userName
  m_online := true
  m_friendTree := .load fromJson d.m_friends d.m_groups
  closed := false
  switchRequested := false

/-- The slots of the main window, without the chats. -/
def MainWindow.hear (w : MainWindow) : Signal → MainWindow
  | .loginSuccess .. => { w with m_online := true }
  | .friendStateChanged friendid state =>
    { w with m_friendTree := w.m_friendTree.onFriendStateChanged friendid state }
  | .friendAdded friendId name state =>
    { w with m_friendTree := w.m_friendTree.onFriendAdded friendId name state }
  | .groupCreated groupId groupName =>
    { w with m_friendTree := w.m_friendTree.onGroupCreated groupId groupName }
  | .groupJoined groupId groupName =>
    { w with m_friendTree := w.m_friendTree.onGroupJoined groupId groupName }
  | .nameUpdated id newName => if id = w.m_myId then { w with m_userName := newName } else w
  | _ => w

/-- The window that `main` shows; none when it has returned. -/
inductive Shown where
  | dialog (d : Dialog)
  | widget (w : MainWindow)
  | none

namespace Shown

/-- What the window waits for, if there is one: `m_pending` of the dialog. -/
def pending : Shown → Option PendingAction
  | dialog d => some d.m_pending
  | widget _ => some .none
  | none => .none

/-- The signal goes to the slots of the window. -/
def hear (sig : Signal) : Shown → Shown
  | dialog d => dialog (d.hear sig)
  | widget w => widget (w.hear sig)
  | none => none

/-- `Widget::setStatus`. -/
def setStatus (online : Bool) : Shown → Shown
  | widget w => widget { w with m_online := online }
  | s => s

/-- The main window is closed. -/
def close : Shown → Shown
  | widget w => widget { w with closed := true }
  | s => s

/-- The slot of `switchAccountRequested` in `main`, before it closes the window. -/
def requestSwitch : Shown → Shown
  | widget w => widget { w with switchRequested := true }
  | s => s

end Shown

structure QtClient where
  /-- `time(NULL)`. -/
  now : Nat
  m_socket : QTcpSocket
  /-- The timer is active. -/
  m_reconnectTimer : Bool
  /-- The calls of `m_reconnectTimer->start()`. -/
  reconnectStarts : Nat
  m_loginTimeoutTimer : Bool
  m_heartbeatTimer : Bool
  m_heartbeatTimeout : Bool
  m_host : Str
  m_port : Nat
  m_serverIp : Str
  m_serverPort : Nat
  m_intentionalDisconnect : Bool
  m_wantRelogin : Bool
  m_lastDataTime : Nat
  m_myId : Int
  m_myName : Str
  m_password : Str
  window : Shown

namespace QtClient

/-- A client that was just started. -/
def start (now : Nat) (ip : Str) (port : Nat) : QtClient where
  now := now
  m_socket := .new
  m_reconnectTimer := false
  reconnectStarts := 0
  m_loginTimeoutTimer := false
  m_heartbeatTimer := false
  m_heartbeatTimeout := false
  m_host := []
  m_port := 0
  m_serverIp := ip
  m_serverPort := port
  m_intentionalDisconnect := false
  m_wantRelogin := false
  m_lastDataTime := now
  m_myId := -1
  m_myName := []
  m_password := []
  window := .dialog .new

/-- `m_reconnectTimer->start()`. -/
def startReconnect (c : QtClient) : QtClient :=
  { c with m_reconnectTimer := true, reconnectStarts := c.reconnectStarts + 1 }

/-! ## What the socket calls -/

/-- `onDisconnected`; the main window shows the user offline. -/
def onDisconnected (c : QtClient) : QtClient :=
  let c := { c with m_heartbeatTimer := false, m_heartbeatTimeout := false,
                    window := c.window.setStatus false }
  if !c.m_intentionalDisconnect && !c.m_reconnectTimer then c.startReconnect else c

/-- `onError`; the slots of `connectionError` show a text. -/
def onError (c : QtClient) : QtClient :=
  if c.m_intentionalDisconnect then c
  else if !c.m_reconnectTimer then c.startReconnect else c

/-- The socket has a connection. -/
def IsOpen (c : QtClient) : Prop :=
  c.m_socket.state = .connected ∨ c.m_socket.state = .closing

instance (c : QtClient) : Decidable c.IsOpen := inferInstanceAs (Decidable (_ ∨ _))

/-- The socket is closed, and says so if it had a connection. -/
def leave (c : QtClient) : QtClient :=
  let c' := { c with m_socket := { c.m_socket with state := .unconnected } }
  if c.IsOpen then c'.onDisconnected else c'

/-- `m_socket->abort()`. -/
def abort (c : QtClient) : QtClient := if c.m_socket.state = .unconnected then c else c.leave

/-- `m_socket->disconnectFromHost()`. -/
def disconnectFromHost (c : QtClient) : QtClient :=
  if c.IsOpen then
    if c.m_socket.unsent then { c with m_socket := { c.m_socket with state := .closing } }
    else c.leave
  else if c.m_socket.state = .connecting then
    { c with m_socket := { c.m_socket with pendingClose := true } }
  else c

/-- `m_socket->connectToHost(host, port)`. -/
def connectToHost (c : QtClient) (host : Str) (port : Nat) : QtClient :=
  { c with m_socket := c.m_socket.connectToHost host port }

/-- `m_socket->flush()`: an error of the write closes the socket. -/
def flush (c : QtClient) : QtClient :=
  if c.m_socket.state ≠ .unconnected ∧ c.m_socket.broken then c.onError.abort else c

/-- `write` and `flush`. -/
def writeJson (c : QtClient) (js : Json) : QtClient :=
  { c with m_socket := c.m_socket.write js }.flush

/-! ## ChatClient -/

def connectToServer (c : QtClient) (host : Str) (port : Nat) : QtClient :=
  { c with m_intentionalDisconnect := false, m_host := host, m_port := port }.abort.connectToHost
    host port

def isConnected (c : QtClient) : Bool := c.m_socket.state = .connected

def sendJson (c : QtClient) (js : Json) : QtClient := { c with m_lastDataTime := c.now }.writeJson js

def login (c : QtClient) (id : Int) (pwd : Str) : QtClient :=
  { ({ c with m_intentionalDisconnect := false, m_myId := id, m_password := pwd,
              m_wantRelogin := true }.sendJson (ChatClient.login id pwd)) with
    m_loginTimeoutTimer := true }

def reg (c : QtClient) (name pwd : Str) : QtClient := c.sendJson (ChatClient.reg name pwd)

def loginout (c : QtClient) : QtClient :=
  if c.m_intentionalDisconnect then c
  else
    ({ c with m_intentionalDisconnect := true, m_wantRelogin := false, m_reconnectTimer := false,
              m_loginTimeoutTimer := false, m_heartbeatTimer := false,
              m_heartbeatTimeout := false }.sendJson (ChatClient.loginout c.m_myId)).disconnectFromHost

def resetLoginState (c : QtClient) : QtClient :=
  { c with m_myId := -1, m_password := [], m_wantRelogin := false }

def sendHeartbeat (c : QtClient) : QtClient :=
  if c.m_socket.state ≠ .connected then c
  else if c.now - c.m_lastDataTime < 15 then c
  else { (c.writeJson ChatClient.sendHeartbeat) with m_heartbeatTimeout := true }

def onHeartbeatTimeout (c : QtClient) : QtClient :=
  if !c.abort.m_intentionalDisconnect then c.abort.startReconnect else c.abort

def relogin (c : QtClient) : QtClient :=
  if 0 < c.m_myId ∧ c.m_password ≠ [] then
    { c with m_intentionalDisconnect := false, m_wantRelogin := true }.abort.connectToServer
      c.m_host c.m_port
  else c

/-- The slot of `connected`, `LoginDialog::onConnected`. -/
def emitConnected (c : QtClient) : QtClient :=
  match c.window with
  | .dialog d => match d.m_pending with
    | .login => c.login d.m_pendingLoginId d.m_pendingLoginPwd
    | .reg => c.reg d.m_pendingRegName d.m_pendingRegPwd
    | .none => c
  | _ => c

def onConnected (c : QtClient) : QtClient :=
  let c := { c with m_reconnectTimer := false, m_intentionalDisconnect := false }
  if c.m_wantRelogin then c.login c.m_myId c.m_password else c.emitConnected

/-- The socket gets its connection; it closes at once if that was asked for. -/
def connect (c : QtClient) : QtClient :=
  let c' := { c with m_socket := { c.m_socket with state := .connected } }.onConnected
  if c.m_socket.pendingClose then c'.disconnectFromHost else c'

/-- The socket gets no connection. -/
def fail (c : QtClient) : QtClient :=
  { c with m_socket := { c.m_socket with state := .unconnected } }.onError

def onReconnectTimeout (c : QtClient) : QtClient :=
  if c.m_socket.state ≠ .unconnected then c else c.abort.connectToHost c.m_host c.m_port

def onLoginTimeout (c : QtClient) : QtClient := { c with m_loginTimeoutTimer := false }.abort

/-! ## Messages -/

/-- The signal of the message goes to the slots of the window. -/
def emit (c : QtClient) (js : Json) : QtClient :=
  match Signal.ofMessage js with
  | some sig => { c with window := c.window.hear sig }
  | none => c

def handleMessage (c : QtClient) (js : Json) : QtClient :=
  if js.isMsg .loginMsgAck then
    let c := { c with m_loginTimeoutTimer := false }
    if js.contains "errno" then
      if (js.value "errno").qtInt = 0 then
        if js.contains "id" ∧ js.contains "name" then
          { ({ c with m_myId := (js.value "id").qtInt,
                      m_myName := (js.value "name").qtString }.emit js) with
            m_heartbeatTimer := true }
        else c
      else ({ c with m_reconnectTimer := false }.resetLoginState).emit js
    else c
  else if js.isMsg .heartbeatMsg then { c with m_heartbeatTimeout := false }
  else c.emit js

/-- `onReadyRead`, when the read completes these messages; `bad`: a length follows that is 0 or over
1 MiB. -/
def onReadyRead (c : QtClient) (msgs : List Json) (bad : Bool) : QtClient :=
  let c := msgs.foldl handleMessage { c with m_lastDataTime := c.now }
  if bad then c.abort else c

/-! ## The windows -/

/-- `LoginDialog::onLoginClicked`; no id: the field is empty. -/
def onLoginClicked (c : QtClient) (d : Dialog) (id : Option Int) (pwd : Str) : QtClient :=
  match id with
  | none => c
  | some id =>
    if pwd = [] then c
    else
      let c := { c with window := .dialog { d with
        inputsEnabled := false, m_pendingLoginId := id, m_pendingLoginPwd := pwd,
        m_pending := .login, m_retryTimeout := true } }
      if !c.isConnected then c.connectToServer c.m_serverIp c.m_serverPort else c.login id pwd

def onRegisterClicked (c : QtClient) (d : Dialog) (name pwd : Str) : QtClient :=
  if name = [] ∨ pwd = [] then c
  else
    let c := { c with window := .dialog { d with
      inputsEnabled := false, m_pendingRegName := name, m_pendingRegPwd := pwd,
      m_pending := .reg, m_retryTimeout := true } }
    if !c.isConnected then c.connectToServer c.m_serverIp c.m_serverPort else c.reg name pwd

/-- `onCancelClicked`, and the slot of `m_retryTimeout`, which has stopped by itself. -/
def giveUp (c : QtClient) (d : Dialog) : QtClient :=
  { c.loginout with window := .dialog { d with
    m_retryTimeout := false, m_pending := .none, inputsEnabled := true } }

/-- `close()` of the main window: `closeEvent` logs out. -/
def close (c : QtClient) : QtClient := { c.loginout with window := c.loginout.window.close }

def onLogoutClicked (c : QtClient) : QtClient :=
  { c with window := c.window.setStatus false }.loginout.close

/-- `onSwitchAccountClicked`; the slot of `switchAccountRequested` closes the window once more. -/
def onSwitchAccountClicked (c : QtClient) : QtClient :=
  let c := c.loginout.resetLoginState.close
  { c with window := c.window.requestSwitch }.close

def toggleStatus (c : QtClient) (w : MainWindow) : QtClient :=
  if w.m_online then { c.loginout with window := c.loginout.window.setStatus false }
  else c.relogin

/-! ## The state of the socket -/

theorem leave_state (c : QtClient) : c.leave.m_socket.state = .unconnected := by
  unfold leave onDisconnected startReconnect
  grind

theorem abort_state (c : QtClient) : c.abort.m_socket.state = .unconnected := by
  unfold abort
  split
  · assumption
  · exact leave_state c

theorem connectToHost_state (c : QtClient) (host : Str) (port : Nat) :
    (c.connectToHost host port).m_socket.state ≠ .unconnected := by
  unfold connectToHost QTcpSocket.connectToHost
  grind

/-! ## What the login dialog waits for -/

@[simp] theorem setStatus_pending (online : Bool) (s : Shown) :
    (s.setStatus online).pending = s.pending := by
  cases s <;> rfl

@[simp] theorem close_pending (s : Shown) : s.close.pending = s.pending := by cases s <;> rfl

@[simp] theorem requestSwitch_pending (s : Shown) : s.requestSwitch.pending = s.pending := by
  cases s <;> rfl

@[simp] theorem onDisconnected_pending (c : QtClient) :
    c.onDisconnected.window.pending = c.window.pending := by
  unfold onDisconnected startReconnect
  dsimp only
  split <;> simp

@[simp] theorem onError_pending (c : QtClient) : c.onError.window.pending = c.window.pending := by
  unfold onError startReconnect
  split_ifs <;> rfl

@[simp] theorem leave_pending (c : QtClient) : c.leave.window.pending = c.window.pending := by
  unfold leave
  dsimp only
  split <;> simp

@[simp] theorem abort_pending (c : QtClient) : c.abort.window.pending = c.window.pending := by
  unfold abort
  split <;> simp

@[simp] theorem disconnectFromHost_pending (c : QtClient) :
    c.disconnectFromHost.window.pending = c.window.pending := by
  unfold disconnectFromHost
  split_ifs <;> simp

@[simp] theorem writeJson_pending (c : QtClient) (js : Json) :
    (c.writeJson js).window.pending = c.window.pending := by
  unfold writeJson flush
  split <;> simp

@[simp] theorem loginout_pending (c : QtClient) : c.loginout.window.pending = c.window.pending := by
  unfold loginout sendJson
  split <;> simp

end QtClient

end QtChat
