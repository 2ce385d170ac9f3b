import QtChat.Server.World

/-!
# The model classes

`UserModel`, `FriendModel`, `GroupModel` and `OfflineMsgModel` (`src/server/model`) as programs.
Each call acquires a pooled connection (no connection: the failure value) and sends its statements.
The columns of a row are C strings (`row[i]`).

A statement with strings is formatted into `char sql[1024]` by `sprintf`, which writes past the end
if the text is longer: the program halts there. `OfflineMsgModel::insert` uses `snprintf` and sends
what is left of the text.
-/

namespace QtChat

open Interleave

/-! ## The actions as programs -/

def acquire : Serv Bool := .act .acquire .ret

def sql (st : Stmt) : Serv (Option st.Ans) := .act (.sql st) .ret

/-- `ChatService::sendJson`: the packet of `js` on the connection. -/
def sendJson (conn : ConnId) (js : Json) : Serv Unit := .act (.send conn js) .ret

def halt {α : Type} (why : Halt) : Serv α := .act (.halt why) fun r => r.elim

/-- `sprintf` into `char sql[1024]`. -/
def format (text : Str) : Serv Str :=
  match sprintf 1024 text with
  | none => halt .bufferOverflow
  | some s => .ret s

/-! ## User -/

/-- `class User`. -/
structure User where
  id : Int := -1
  name : Str := []
  password : Str := []
  state : UserState := .offline
  deriving DecidableEq

/-- The object for a row of `User`. -/
def User.ofRow (id : Int) (r : UserRow) : User := ⟨id, cstr r.name, cstr r.password, r.state⟩

namespace UserModel

/-- The new id; `none`: not inserted. -/
def insert (name password : Str) (state : UserState) : Serv (Option Int) := do
  if !(← acquire) then return none
  let _ ← format (txt "insert into User(name, password, state) values('" ++ MySQL.escape name ++
    txt "', '" ++ MySQL.escape password ++ txt "', '" ++ MySQL.escape state.text ++ txt "')")
  sql (.insertUser name password state)

def query (id : Int) : Serv User := do
  if !(← acquire) then return {}
  match ← sql (.selectUser id) with
  | some (some row) => return .ofRow id row
  | _ => return {}

def updateState (user : User) : Serv Bool := do
  if !(← acquire) then return false
  return (← sql (.updateState user.id user.state)).isSome

def updateName (id : Int) (name : Str) : Serv Bool := do
  if !(← acquire) then return false
  let _ ← format (txt "update User set name = '" ++ MySQL.escape name ++ txt "' where id = " ++
    decimal id)
  return (← sql (.updateName id name)).isSome

def resetState : Serv Unit := do
  if !(← acquire) then return
  let _ ← sql .resetState

end UserModel

/-! ## Friend -/

namespace FriendModel

def insert (userid friendid : Int) : Serv Unit := do
  if !(← acquire) then return
  let _ ← sql (.insertFriend userid friendid)

/-- The object for a row of the friends. -/
def friendOf (r : Int × UserRow) : User :=
  { id := r.1, name := cstr r.2.name, state := r.2.state }

def query (userid : Int) : Serv (List User) := do
  if !(← acquire) then return []
  match ← sql (.selectFriends userid) with
  | none => return []
  | some rows => return rows.map friendOf

end FriendModel

/-! ## AllGroup and GroupUser -/

/-- `class GroupUser`. -/
structure GroupUser extends User where
  role : Role

/-- `class Group`. -/
structure Group where
  id : Int := -1
  name : Str := []
  desc : Str := []
  users : List GroupUser := []

namespace GroupModel

/-- The new id; `none`: not created. -/
def createGroup (name desc : Str) : Serv (Option Int) := do
  if !(← acquire) then return none
  let _ ← format (txt "insert into AllGroup(groupname, groupdesc) values('" ++ MySQL.escape name ++
    txt "', '" ++ MySQL.escape desc ++ txt "')")
  sql (.insertGroup name desc)

def addGroup (userid groupid : Int) (role : Role) : Serv Unit := do
  if !(← acquire) then return
  let _ ← sql (.insertGroupUser groupid userid role)

/-- The object for a row of the members. -/
def memberOf (r : Int × UserRow × Role) : GroupUser :=
  { id := r.1, name := cstr r.2.1.name, state := r.2.1.state, role := r.2.2 }

/-- The object for a row of the groups. -/
def groupOf (r : Int × GroupRow) : Group :=
  { id := r.1, name := cstr r.2.groupname, desc := cstr r.2.groupdesc }

/-- The groups with their members, by one statement each on the same connection. -/
def queryMembers : List Group → Serv (List Group)
  | [] => return []
  | group :: groups => do
    let rows ← sql (.selectGroupMembers group.id)
    let groups ← queryMembers groups
    return { group with users := (rows.getD []).map memberOf } :: groups

def queryGroups (userid : Int) : Serv (List Group) := do
  if !(← acquire) then return []
  match ← sql (.selectGroups userid) with
  | none => return []
  | some rows => queryMembers (rows.map groupOf)

def queryGroupUsers (userid groupid : Int) : Serv (List Int) := do
  if !(← acquire) then return []
  return (← sql (.selectGroupUserIds groupid userid)).getD []

def queryGroup (groupid : Int) : Serv Group := do
  if !(← acquire) then return {}
  match ← sql (.selectGroup groupid) with
  | some (some row) => return groupOf (groupid, row)
  | _ => return {}

end GroupModel

/-! ## OfflineMessage -/

namespace OfflineMsgModel

/-- The text of `char sql[2048]` for a message. -/
def insertSql (userid : Int) (msg : Str) : Str :=
  snprintf 2048 (insertText userid (MySQL.escape msg))

def insert (userid : Int) (msg : Str) : Serv Unit := do
  if !(← acquire) then return
  let _ ← sql (.insertOffline (insertSql userid msg))

def remove (userid : Int) : Serv Unit := do
  if !(← acquire) then return
  let _ ← sql (.deleteOffline userid)

def query (userid : Int) : Serv (List Str) := do
  if !(← acquire) then return []
  return ((← sql (.selectOffline userid)).getD []).map cstr

end OfflineMsgModel

end QtChat
