import QtChat.Client.ChatClient
import QtChat.Server.ChatService

/-!
# The windows of the Qt client

`main` (`main.cpp`) shows a `LoginDialog` until a login succeeds, then a `Widget` built from what
the dialog got. The signals of the `ChatClient` go to the slots of the window that exists.

- `Signal.ofMessage`: the signal that `ChatClient::handleMessage` emits.
- `LoginDialog`, `Widget`: what of the windows the messages reach, that is the fields that the
  dialog hands over, and the message histories.
- `Main.read`: one `readyRead`. The slots run inside the read loop; they touch neither the buffer
  nor the socket.
- `Main.main`: the reads of a connection. `late` is how many reads the event loop of the dialog
  still handles after `accept()`, before `exec` returns and the Widget connects its slots.
-/

namespace QtChat

/-- The signals of `ChatClient` that `handleMessage` emits. -/
inductive Signal where
  | loginSuccess (id : Int) (name : Str) (friends groups offlineMsgs : List Json)
  | loginFailed (reason : Str)
  | regSuccess (id : Int)
  | regFailed (reason : Str)
  | receivedChatMsg (fromid : Int) (name msg time : Str)
  | receivedGroupMsg (groupid fromid : Int) (name msg time : Str)
  | friendStateChanged (friendid : Int) (state : Str)
  | friendAdded (friendId : Int) (name state : Str)
  | groupCreated (groupId : Int) (groupName : Str)
  | groupJoined (groupId : Int) (groupName : Str)
  | nameUpdated (id : Int) (newName : Str)
  | nameUpdateFailed (reason : Str)

/-- `js["msgid"].toInt()` is this message's. -/
def Json.isMsg (js : Json) (m : EnMsgType) : Bool := (js.value "msgid").qtInt = m.toInt

/-- `ChatClient::handleMessage`: the signal that the message makes, if any. -/
def Signal.ofMessage (js : Json) : Option Signal :=
  if js.isMsg .loginMsgAck then
    if js.contains "errno" then
      if (js.value "errno").qtInt = 0 then
        if js.contains "id" ∧ js.contains "name" then
          some (.loginSuccess (js.value "id").qtInt (js.value "name").qtString
            (js.value "friends").qtArray (js.value "groups").qtArray
            (js.value "offlinemsg").qtArray)
        else none
      else some (.loginFailed (js.value "errmsg").qtString)
    else none
  else if js.isMsg .regMsgAck then
    if (js.value "errno").qtInt = 0 then some (.regSuccess (js.value "id").qtInt)
    else some (.regFailed (txt "register failed"))
  else if js.isMsg .oneChatMsg then
    some (.receivedChatMsg (js.value "id").qtInt (js.value "name").qtString
      (js.value "msg").qtString (js.value "time").qtString)
  else if js.isMsg .groupChatMsg then
    some (.receivedGroupMsg (js.value "groupid").qtInt (js.value "id").qtInt
      (js.value "name").qtString (js.value "msg").qtString (js.value "time").qtString)
  else if js.isMsg .friendStateChangeMsg then
    some (.friendStateChanged (js.value "friendid").qtInt (js.value "state").qtString)
  else if js.isMsg .addFriendMsg then
    some (.friendAdded (js.value "id").qtInt (js.value "name").qtString (js.value "state").qtString)
  else if js.isMsg .createGroupMsg then
    some (.groupCreated (js.value "groupid").qtInt (js.value "groupname").qtString)
  else if js.isMsg .addGroupMsg then
    some (.groupJoined (js.value "groupid").qtInt (js.value "groupname").qtString)
  else if js.isMsg .updateNameMsg then
    if js.contains "errno" then some (.nameUpdateFailed (js.value "errmsg").qtString)
    else some (.nameUpdated (js.value "id").qtInt (js.value "name").qtString)
  else none

/-! ## The login dialog -/

inductive PendingAction where
  | none
  | login
  | reg
  deriving DecidableEq

structure LoginDialog where
  m_userId : Int
  m_userName : Str
  m_friends : List Json
  m_groups : List Json
  m_offlineMsgs : List Json
  m_pending : PendingAction
  /-- `accept()` was called. -/
  accepted : Bool

namespace LoginDialog

/-- A dialog with its login pending. -/
def loggingIn : LoginDialog := ⟨-1, [], [], [], [], .login, false⟩

def onLoginSuccess (d : LoginDialog) (id : Int) (name : Str) (friends groups offlineMsgs : List Json) :
    LoginDialog :=
  { d with m_userId := id, m_userName := name, m_friends := friends, m_groups := groups,
           m_offlineMsgs := offlineMsgs, m_pending := .none, accepted := true }

/-- The slots that are connected. `onLoginFailed`, `onRegSuccess` and `onRegFailed` show a text. -/
def slot (d : LoginDialog) : Signal → LoginDialog
  | .loginSuccess id name friends groups offlineMsgs =>
    d.onLoginSuccess id name friends groups offlineMsgs
  | .loginFailed _ | .regSuccess _ | .regFailed _ => { d with m_pending := .none }
  | _ => d

end LoginDialog

/-! ## The main window -/

structure ChatMsg where
  isRight : Bool
  name : Str
  time : Str
  text : Str
  deriving DecidableEq

/-- A call of `appendToHistory`. -/
structure HistoryCall where
  targetId : Int
  isGroup : Bool
  cm : ChatMsg
  deriving DecidableEq

structure Widget where
  m_myId : Int
  m_friendMsgHistory : Int → List ChatMsg
  m_groupMsgHistory : Int → List ChatMsg
  /-- The calls of `appendToHistory`. -/
  appended : List HistoryCall

namespace Widget

/-- A history with a message more: the oldest one goes when there are over 500. -/
def push (hist : List ChatMsg) (cm : ChatMsg) : List ChatMsg :=
  if (hist ++ [cm]).length > 500 then (hist ++ [cm]).tail else hist ++ [cm]

def appendToHistory (w : Widget) (targetId : Int) (isGroup : Bool) (cm : ChatMsg) : Widget :=
  if isGroup then
    { w with
      m_groupMsgHistory := fun id =>
        if id = targetId then push (w.m_groupMsgHistory id) cm else w.m_groupMsgHistory id
      appended := w.appended ++ [⟨targetId, isGroup, cm⟩] }
  else
    { w with
      m_friendMsgHistory := fun id =>
        if id = targetId then push (w.m_friendMsgHistory id) cm else w.m_friendMsgHistory id
      appended := w.appended ++ [⟨targetId, isGroup, cm⟩] }

/-- The object of an offline message: the empty one when it is no JSON. -/
def offlineObj (fromJson : Str → Option Json) (m : Json) : Json :=
  ((fromJson m.qtString).map ChatClient.object).getD (.obj [])

/-- One turn of the loop over the offline messages. -/
def mergeOne (w : Widget) (obj : Json) : Widget :=
  if obj.isMsg .oneChatMsg then
    w.appendToHistory (obj.value "id").qtInt false
      ⟨false, (obj.value "name").qtString, (obj.value "time").qtString, (obj.value "msg").qtString⟩
  else if obj.isMsg .groupChatMsg then
    w.appendToHistory (obj.value "groupid").qtInt true
      ⟨false, (obj.value "name").qtString, (obj.value "time").qtString, (obj.value "msg").qtString⟩
  else w

/-- The loop over the offline messages, in the constructor and in the slot of `loginSuccess`. -/
def mergeOffline (fromJson : Str → Option Json) (w : Widget) (offlineMsgs : List Json) : Widget :=
  (offlineMsgs.map (offlineObj fromJson)).foldl mergeOne w

/-- The constructor `Widget::Widget`. -/
def new (fromJson : Str → Option Json) (myId : Int) (offlineMsgs : List Json) : Widget :=
  mergeOffline fromJson ⟨myId, fun _ => [], fun _ => [], []⟩ offlineMsgs

def onChatMsg (w : Widget) (fromid : Int) (name msg time : Str) : Widget :=
  w.appendToHistory fromid false ⟨false, name, time, msg⟩

def onGroupMsg (w : Widget) (groupid fromid : Int) (name msg time : Str) : Widget :=
  if fromid = w.m_myId then w else w.appendToHistory groupid true ⟨false, name, time, msg⟩

/-- The slots that are connected. Those of the other signals leave the histories. -/
def slot (fromJson : Str → Option Json) (w : Widget) : Signal → Widget
  | .receivedChatMsg fromid name msg time => w.onChatMsg fromid name msg time
  | .receivedGroupMsg groupid fromid name msg time => w.onGroupMsg groupid fromid name msg time
  | .loginSuccess _ _ _ _ offlineMsgs => w.mergeOffline fromJson offlineMsgs
  | _ => w

end Widget

/-! ## The program -/

/-- The window that exists. -/
inductive Window where
  | dialog (d : LoginDialog)
  | widget (w : Widget)

namespace Window

/-- `handleMessage`: the signal of the message goes to the slots of the window. -/
def handleMessage (fromJson : Str → Option Json) : Window → Json → Window
  | .dialog d, js => .dialog (((Signal.ofMessage js).map d.slot).getD d)
  | .widget w, js => .widget (((Signal.ofMessage js).map (w.slot fromJson)).getD w)

end Window

structure Main where
  client : ChatClient
  window : Window

namespace Main

/-- A connection that nothing was read from, and the dialog. -/
def start : Main := ⟨⟨[], false, []⟩, .dialog .loggingIn⟩

/-- The dialog is accepted. -/
def accepted (m : Main) : Bool :=
  match m.window with
  | .dialog d => d.accepted
  | .widget _ => false

variable (e : Endian) (fromJson : Str → Option Json)

/-- One `readyRead`. Nothing is read after `abort()`. -/
def read (m : Main) (chunk : Str) : Main :=
  if m.client.aborted then m
  else
    ⟨m.client.onReadyRead e fromJson chunk,
      ((m.client.onReadyRead e fromJson chunk).handled.drop m.client.handled.length).foldl
        (Window.handleMessage fromJson) m.window⟩

/-- `dlg.exec()`: the reads until the dialog is accepted, and `late` more. -/
def exec (late : Nat) (m : Main) : List Str → Main × List Str
  | [] => (m, [])
  | chunk :: chunks =>
    if m.accepted then
      (((chunk :: chunks).take late).foldl (read e fromJson) m, (chunk :: chunks).drop late)
    else exec late (m.read e fromJson chunk) chunks

/-- `Widget w(&client, dlg.userId(), …, dlg.offlineMsgs())`, if the dialog was accepted. -/
def build (m : Main) : Main :=
  match m.window with
  | .dialog d => if d.accepted then ⟨m.client, .widget (.new fromJson d.m_userId d.m_offlineMsgs)⟩ else m
  | .widget _ => m

/-- The loop body of `main` over the reads of the connection. -/
def main (late : Nat) (chunks : List Str) : Main :=
  (exec e fromJson late start chunks).2.foldl (read e fromJson)
    (build fromJson (exec e fromJson late start chunks).1)

end Main

end QtChat
