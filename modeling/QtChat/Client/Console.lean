import QtChat.Client.Requests
import QtChat.Interleave.Machine
import QtChat.Redis.Observer
import QtChat.Server.Utf8

/-!
# The console client

`ChatServer/src/client/main.cpp`: a main thread that reads `cin` and sends requests, and a thread
that receives (`readTaskHandler`). `Console.step` interleaves their loop turns, a `recv` and a
`sem_wait` being one step each.

`Istream` is `cin`: an operation on a stream that is not good reads nothing and sets `failbit`,
which the program never clears. What is printed is left out, but for the chats (`cout`). An exception
ends the process; so does `exit`.
-/

namespace QtChat

open Interleave

/-! ## Input -/

/-- `std::cin`: the bytes that are still to come, up to the end of the file, and its state. -/
structure Istream where
  rest : Str
  eofbit : Bool := false
  failbit : Bool := false

namespace Istream

def good (s : Istream) : Bool := !s.eofbit && !s.failbit

/-- The sentry of an operation fails. -/
def refuse (s : Istream) : Istream := { s with failbit := true }

/-- `get()`. -/
def get (s : Istream) : Istream :=
  if s.good then
    match s.rest with
    | [] => { s with eofbit := true, failbit := true }
    | _ :: rest => { s with rest }
  else s.refuse

/-- `getline(buffer, n)`: what it stores, and the stream. -/
def getline (n : Nat) (s : Istream) : Str × Istream :=
  if s.good then
    let line := (s.rest.take (n - 1)).takeWhile (· ≠ 10)
    match s.rest.drop line.length with
    | [] => (line, { s with rest := [], eofbit := true, failbit := line.isEmpty })
    | b :: rest =>
      if b = 10 then (line, { s with rest })
      else (line, { s with rest := b :: rest, failbit := true })
  else ([], s.refuse)

/-- The sign that `num_get` takes, and what follows it. -/
def sign (s : Str) : Bool × Str :=
  match s with
  | 45 :: s => (true, s)
  | 43 :: s => (false, s)
  | s => (false, s)

/-- `>> n` for an `int` that is 0: its value then, and the stream. -/
def readInt (s : Istream) : Int × Istream :=
  if s.good then
    match s.rest.dropWhile isSpace with
    | [] => (0, { s with rest := [], eofbit := true, failbit := true })
    | rest =>
      let minus := (sign rest).1
      let text := (sign rest).2.takeWhile isDigit
      let rest := (sign rest).2.dropWhile isDigit
      let value : Int := if minus then -(digitsValue text : Int) else digitsValue text
      let s := { s with rest, eofbit := rest.isEmpty }
      if text.isEmpty then (0, { s with failbit := true })
      else if value < -2 ^ 31 then (-2 ^ 31, { s with failbit := true })
      else if 2 ^ 31 ≤ value then (2 ^ 31 - 1, { s with failbit := true })
      else (value, s)
  else (0, s.refuse)

end Istream

/-! ## The state -/

namespace Console

/-- `User` and `GroupUser` of the client. -/
structure User where
  id : Int := -1
  name : Str := []
  state : Str := txt "offline"

structure GroupUser extends User where
  role : Str := []

structure Group where
  id : Int := -1
  name : Str := []
  desc : Str := []
  users : List GroupUser := []

/-- Where the main thread is. -/
inductive Place where
  /-- At the top of the loop of `main`. -/
  | menu
  /-- In `sem_wait`, after a login or a registration was sent. -/
  | loginSent
  | regSent
  /-- At the top of the loop of `mainMenu`. -/
  | mainMenu
  /-- The process has ended. -/
  | ended
  deriving DecidableEq

end Console

structure Console where
  cin : Istream
  place : Console.Place := .menu
  g_currentUser : Console.User := {}
  g_currentUserFriendList : List Console.User := []
  g_currentUserGroupList : List Console.Group := []
  isMainMenuRunning : Bool := false
  rwsem : Nat := 0
  g_isLoginSuccess : Bool := false
  /-- What `send` was given. -/
  sent : Str := []
  /-- The lines of the chats. -/
  cout : List Str := []

namespace Console

/-- `js.dump()`, and `send` with the NUL behind it; `ok`: it does not give -1. None: an exception. -/
def send (ok : Bool) (r : ClientRequest) (c : Console) : Option Console :=
  match r.json.dumpStrict with
  | .error _ => none
  | .ok request => some (if ok then { c with sent := c.sent ++ (request ++ [0]) } else c)

/-! ## The commands -/

/-- `atoi` of glibc: `strtol`, cut to an `int`. -/
def atoi (s : Str) : Int := toInt32 (max (-2 ^ 63) (min (2 ^ 63 - 1) (QtChat.atoi (cstr s))))

def isBlank (b : UInt8) : Bool := b = 32 || b = 9 || b = 13 || b = 10

/-- From the first byte that is no blank to the last one. -/
def trim (s : Str) : Str := ((s.dropWhile isBlank).reverse.dropWhile isBlank).reverse

/-- The parts before and after the first `:`. -/
def split (s : Str) : Option (Str × Str) :=
  if 58 ∈ s then some (s.takeWhile (· ≠ 58), (s.dropWhile (· ≠ 58)).drop 1) else none

section Commands

variable (ok : Bool) (now : Str) (str : Str) (c : Console)

def addfriend : Option Console := c.send ok (.addFriend c.g_currentUser.id (atoi str))

/-- `now` is what `getCurrentTime` gives. -/
def chat : Option Console :=
  match split str with
  | none => some c
  | some (friendid, message) =>
    c.send ok (.oneChat c.g_currentUser.id c.g_currentUser.name (atoi friendid) message now)

def creategroup : Option Console :=
  match split str with
  | none => some c
  | some (groupname, groupdesc) =>
    c.send ok (.createGroup c.g_currentUser.id groupname groupdesc)

def addgroup : Option Console := c.send ok (.addGroup c.g_currentUser.id (atoi str))

def groupchat : Option Console :=
  match split str with
  | none => some c
  | some (groupid, message) =>
    c.send ok (.groupChat c.g_currentUser.id c.g_currentUser.name (atoi groupid) message now)

def loginout : Option Console := do
  let c ← c.send ok (.loginout c.g_currentUser.id)
  return if ok then { c with isMainMenuRunning := false } else c

end Commands

/-- `commandHandlerMap`. -/
def commandHandler (command : Str) : Option (Bool → Str → Str → Console → Option Console) :=
  if command = txt "help" then some fun _ _ _ c => some c
  else if command = txt "chat" then some chat
  else if command = txt "addfriend" then some fun ok _ => addfriend ok
  else if command = txt "creategroup" then some fun ok _ => creategroup ok
  else if command = txt "addgroup" then some fun ok _ => addgroup ok
  else if command = txt "groupchat" then some groupchat
  else if command = txt "loginout" then some fun ok _ _ => loginout ok
  else none

/-- A line of the main menu. Without a `:` the handler is given the whole line. -/
def runCommand (ok : Bool) (now commandbuf : Str) (c : Console) : Option Console :=
  if (trim commandbuf).isEmpty then some c
  else
    let parts := (split (trim commandbuf)).getD (trim commandbuf, trim commandbuf)
    match commandHandler parts.1 with
    | none => some c
    | some handle => handle ok now parts.2 c

/-! ## The main thread -/

/-- A turn of the loop of `main`, up to `sem_wait`. -/
def menuTurn (ok : Bool) (c : Console) : Option Console :=
  let (choice, cin) := c.cin.readInt
  let cin := cin.get
  match choice with
  | 1 => do
    let (id, cin) := cin.readInt
    let (pwd, cin) := cin.get.getline 50
    let c ← ({ c with cin, g_isLoginSuccess := false } : Console).send ok (.login id (cstr pwd))
    return { c with place := .loginSent }
  | 2 => do
    let (name, cin) := cin.getline 50
    let (pwd, cin) := cin.getline 50
    let c ← ({ c with cin } : Console).send ok (.reg (cstr name) (cstr pwd))
    return { c with place := .regSent }
  | 3 => none
  | _ => some { c with cin }

/-- A turn of the loop of `mainMenu`. -/
def mainMenuTurn (ok : Bool) (now : Str) (c : Console) : Option Console :=
  if c.isMainMenuRunning then
    let (buffer, cin) := c.cin.getline 1024
    ({ c with cin } : Console).runCommand ok now (cstr buffer)
  else some { c with place := .menu }

/-- `sem_wait` returns. -/
def wake (c : Console) : Option Console :=
  match c.place, c.rwsem with
  | .loginSent, n + 1 =>
    if c.g_isLoginSuccess then
      some { c with rwsem := n, isMainMenuRunning := true, place := .mainMenu }
    else some { c with rwsem := n, place := .menu }
  | .regSent, n + 1 => some { c with rwsem := n, place := .menu }
  | _, _ => none

/-! ## The receiving thread -/

/-- `js[key]` as it is printed. -/
def printed (js : Json) (key : String) : Option Str := (js.index key).toOption.map Json.dump

/-- A vector of strings: `vector<string> vec = js[key]`. -/
def stringsAt (js : Json) (key : String) : Option (List Str) := do
  match ← (js.index key).toOption with
  | .arr xs => xs.mapM fun x => x.getString.toOption
  | _ => none

/-- The line of a chat with one user. -/
def oneChatLine (js : Json) : Option Str := do
  let time ← (js.stringAt "time").toOption
  let id ← printed js "id"
  let name ← (js.stringAt "name").toOption
  let msg ← (js.stringAt "msg").toOption
  return time ++ txt " [" ++ id ++ txt "]" ++ name ++ txt " said: " ++ msg

/-- The line of a chat in a group. -/
def groupChatLine (js : Json) : Option Str := do
  let groupid ← printed js "groupid"
  let line ← oneChatLine js
  return txt "群消息[" ++ groupid ++ txt "]:" ++ line

def user (js : Json) : Option User := do
  let id ← (js.intAt "id").toOption
  let name ← (js.stringAt "name").toOption
  let state ← (js.stringAt "state").toOption
  return { id, name, state }

def groupUser (js : Json) : Option GroupUser := do
  let u ← user js
  let role ← (js.stringAt "role").toOption
  return { u with role }

def group (P : JsonParser) (grpjs : Json) : Option Group := do
  let id ← (grpjs.intAt "id").toOption
  let name ← (grpjs.stringAt "groupname").toOption
  let desc ← (grpjs.stringAt "groupdesc").toOption
  let vec2 ← stringsAt grpjs "users"
  let users ← vec2.mapM fun userstr => P.parse userstr >>= groupUser
  return { id, name, desc, users }

/-- The line of an offline message. -/
def offlineLine (js : Json) : Option Str := do
  let msgid ← (js.intAt "msgid").toOption
  if msgid = EnMsgType.oneChatMsg.toInt then oneChatLine js else groupChatLine js

def doRegResponse (responsejs : Json) : Option Unit :=
  (responsejs.intAt "errno").toOption.map fun _ => ()

section Lists

variable (P : JsonParser) (responsejs : Json)

/-- `g_currentUserFriendList` afterwards: without the field it stays as it was. -/
def friendList (before : List User) : Option (List User) :=
  if responsejs.contains "friends" then
    stringsAt responsejs "friends" >>= fun vec => vec.mapM fun str => P.parse str >>= user
  else some before

def groupList (before : List Group) : Option (List Group) :=
  if responsejs.contains "groups" then
    stringsAt responsejs "groups" >>= fun vec1 => vec1.mapM fun str => P.parse str >>= group P
  else some before

/-- The lines of the offline messages. -/
def offlineLines : Option (List Str) :=
  if responsejs.contains "offlinemsg" then
    stringsAt responsejs "offlinemsg" >>= fun vec => vec.mapM fun str => P.parse str >>= offlineLine
  else some []

end Lists

/-- The positive `LOGIN_MSG_ACK`. -/
def loggedIn (P : JsonParser) (responsejs : Json) (c : Console) : Option Console := do
  let id ← (responsejs.intAt "id").toOption
  let name ← (responsejs.stringAt "name").toOption
  let friends ← friendList P responsejs c.g_currentUserFriendList
  let groups ← groupList P responsejs c.g_currentUserGroupList
  let lines ← offlineLines P responsejs
  return { c with
    g_currentUser := { c.g_currentUser with id, name }
    g_currentUserFriendList := friends
    g_currentUserGroupList := groups
    cout := c.cout ++ lines
    g_isLoginSuccess := true }

def doLoginResponse (P : JsonParser) (responsejs : Json) (c : Console) : Option Console := do
  let errno ← (responsejs.intAt "errno").toOption
  if errno ≠ 0 then return { c with g_isLoginSuccess := false } else loggedIn P responsejs c

/-- What `readTaskHandler` does with a parsed buffer. -/
def handleMessage (P : JsonParser) (js : Json) (c : Console) : Option Console := do
  let msgtype ← (js.intAt "msgid").toOption
  if msgtype = EnMsgType.oneChatMsg.toInt then
    let line ← oneChatLine js
    return { c with cout := c.cout ++ [line] }
  else if msgtype = EnMsgType.groupChatMsg.toInt then
    let line ← groupChatLine js
    return { c with cout := c.cout ++ [line] }
  else if msgtype = EnMsgType.loginMsgAck.toInt then
    let c ← doLoginResponse P js c
    return { c with rwsem := c.rwsem + 1 }
  else if msgtype = EnMsgType.regMsgAck.toInt then
    doRegResponse js
    return { c with rwsem := c.rwsem + 1 }
  else return c

/-- A turn of the loop of `readTaskHandler`: `json::parse` is given the whole of `buffer`. -/
def readTask (P : JsonParser) (received : Str) (c : Console) : Option Console := do
  let js ← P.parse (received ++ List.replicate (1024 - received.length) 0)
  c.handleMessage P js

/-! ## The program -/

/-- The process has ended. -/
def terminate (c : Console) : Console := { c with place := .ended }

inductive Label where
  /-- The main thread takes a turn of its loop. `ok`: `send` succeeds; `now`: the time. -/
  | turn (ok : Bool) (now : Str)
  | wake
  | recv (received : Str)
  /-- `recv` gives 0 or -1. -/
  | hangUp

def step (P : JsonParser) : Label → Console → Option Console
  | .turn ok now, c =>
    match c.place with
    | .menu => some ((c.menuTurn ok).getD c.terminate)
    | .mainMenu => some ((c.mainMenuTurn ok now).getD c.terminate)
    | _ => none
  | .wake, c => c.wake
  | .recv received, c =>
    if c.place ≠ .ended ∧ 1 ≤ received.length ∧ received.length ≤ 1024 then
      some ((c.readTask P received).getD c.terminate)
    else none
  | .hangUp, c => if c.place ≠ .ended then some c.terminate else none

/-- The program, from its connection on, with all that will ever be typed. -/
def program (P : JsonParser) : Machine where
  State := Console
  Label := Label
  init c := ∃ rest, c = { cin := { rest } }
  step := step P

end Console

end QtChat
