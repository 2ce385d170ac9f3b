import QtChat.Relational.Table
import QtChat.Server.Sql

/-!
# The database

The five tables (README) and the statements that the model classes send. A statement answers `none`
when MySQL refuses it: a syntax error, a duplicate key, a missing foreign key, a value too long for
its column. `Database.collate` is the key of a name under the database's collation, by which `User`
has unique names.

Reads give the columns as MySQL stores them; that the server reads them as C strings is in the model
classes.
-/

namespace QtChat

open Relational

/-- `ENUM('online', 'offline')`. -/
inductive UserState where
  | online
  | offline
  deriving DecidableEq

def UserState.text : UserState → Str
  | .online => txt "online"
  | .offline => txt "offline"

/-- `ENUM('creator', 'normal')`. -/
inductive Role where
  | creator
  | normal
  deriving DecidableEq

def Role.text : Role → Str
  | .creator => txt "creator"
  | .normal => txt "normal"

/-- The columns of `User` besides its id. -/
structure UserRow where
  name : Str
  password : Str
  state : UserState
  deriving DecidableEq

/-- The columns of `AllGroup` besides its id. -/
structure GroupRow where
  groupname : Str
  groupdesc : Str
  deriving DecidableEq

structure Database where
  user : Table Int UserRow
  nextUser : Int
  /-- Pairs (userid, friendid). -/
  friend : List (Int × Int)
  allGroup : Table Int GroupRow
  nextGroup : Int
  /-- By (groupid, userid). -/
  groupUser : Table (Int × Int) Role
  /-- Pairs (userid, message). -/
  offlineMessage : List (Int × Str)
  collate : Str → Str

/-- The tables after `CREATE TABLE`. -/
def Database.created (collate : Str → Str) : Database where
  user := .empty
  nextUser := 1
  friend := []
  allGroup := .empty
  nextGroup := 1
  groupUser := .empty
  offlineMessage := []
  collate := collate

/-- `s` fits a `VARCHAR(n)`: at most `n` characters of at most 4 bytes. -/
def fitsVarchar (n : Nat) (s : Str) : Bool :=
  s.countP (fun b => b &&& 0xC0 ≠ 0x80) ≤ n && s.length ≤ 4 * n

/-- The largest `INT`. -/
def maxInt : Int := 2 ^ 31 - 1

/-- A statement. -/
inductive Stmt where
  | insertUser (name password : Str) (state : UserState)
  | selectUser (id : Int)
  | updateState (id : Int) (state : UserState)
  | updateName (id : Int) (name : Str)
  | resetState
  | insertFriend (userid friendid : Int)
  | selectFriends (userid : Int)
  | insertGroup (name desc : Str)
  | insertGroupUser (groupid userid : Int) (role : Role)
  | selectGroups (userid : Int)
  | selectGroupMembers (groupid : Int)
  | selectGroupUserIds (groupid userid : Int)
  | selectGroup (id : Int)
  /-- `insert into OfflineMessage …` as text. -/
  | insertOffline (sql : Str)
  | deleteOffline (userid : Int)
  | selectOffline (userid : Int)
  deriving DecidableEq

/-- What a statement answers when it is executed: the new id of an insert with `mysql_insert_id`,
the rows of a select. -/
@[reducible] def Stmt.Ans : Stmt → Type
  | .insertUser .. => Int
  | .selectUser _ => Option UserRow
  | .updateState .. => Unit
  | .updateName .. => Unit
  | .resetState => Unit
  | .insertFriend .. => Unit
  | .selectFriends _ => List (Int × UserRow)
  | .insertGroup .. => Int
  | .insertGroupUser .. => Unit
  | .selectGroups _ => List (Int × GroupRow)
  | .selectGroupMembers _ => List (Int × UserRow × Role)
  | .selectGroupUserIds .. => List Int
  | .selectGroup _ => Option GroupRow
  | .insertOffline _ => Unit
  | .deleteOffline _ => Unit
  | .selectOffline _ => List Str

namespace Database

def hasUser (db : Database) (id : Int) : Bool := (db.user.find id).isSome

/-- Another user than `id` has a name equal to `name`. -/
def nameTaken (db : Database) (id : Int) (name : Str) : Bool :=
  db.user.rows.any fun r => r.1 ≠ id && db.collate r.2.name = db.collate name

/-- The messages stored for a user, in the order of their inserts. -/
def offlineOf (db : Database) (id : Int) : List Str :=
  (db.offlineMessage.filter fun r => r.1 = id).map Prod.snd

/-- The friends of a user with their rows. -/
def friendRows (db : Database) (userid : Int) : List (Int × UserRow) :=
  (db.friend.filter fun r => r.1 = userid).filterMap fun r =>
    (db.user.find r.2).map fun u => (r.2, u)

/-- The groups of a user with their rows. -/
def groupRows (db : Database) (userid : Int) : List (Int × GroupRow) :=
  (db.groupUser.rows.filter fun r => r.1.2 = userid).filterMap fun r =>
    (db.allGroup.find r.1.1).map fun g => (r.1.1, g)

/-- The members of a group with their rows and roles. -/
def memberRows (db : Database) (groupid : Int) : List (Int × UserRow × Role) :=
  (db.groupUser.rows.filter fun r => r.1.1 = groupid).filterMap fun r =>
    (db.user.find r.1.2).map fun u => (r.1.2, u, r.2)

/-- The members of a group besides one. -/
def otherMembers (db : Database) (groupid userid : Int) : List Int :=
  (db.groupUser.rows.filter fun r => r.1.1 = groupid && r.1.2 ≠ userid).map (·.1.2)

/-- The state of a user's row. -/
def stateOf (db : Database) (id : Int) : Option UserState := (db.user.find id).map (·.state)

/-- One statement. -/
def exec (db : Database) : (st : Stmt) → Option (st.Ans × Database)
  | .insertUser name password state =>
    if fitsVarchar 50 name && fitsVarchar 100 password && !db.nameTaken db.nextUser name &&
        db.nextUser ≤ maxInt then
      (db.user.insert db.nextUser ⟨name, password, state⟩).map fun t =>
        (db.nextUser, { db with user := t, nextUser := db.nextUser + 1 })
    else none
  | .selectUser id => some (db.user.find id, db)
  | .updateState id state =>
    some ((), { db with user := db.user.update id fun r => { r with state } })
  | .updateName id name =>
    if !db.hasUser id then some ((), db)
    else if fitsVarchar 50 name && !db.nameTaken id name then
      some ((), { db with user := db.user.update id fun r => { r with name } })
    else none
  | .resetState => some ((), { db with user := db.user.updateAll fun r => { r with state := .offline } })
  | .insertFriend userid friendid =>
    -- `insert ignore`: a duplicate or a missing user is no error
    some ((), if db.hasUser userid && db.hasUser friendid && !db.friend.contains (userid, friendid)
      then { db with friend := db.friend ++ [(userid, friendid)] } else db)
  | .selectFriends userid => some (db.friendRows userid, db)
  | .insertGroup name desc =>
    if fitsVarchar 50 name && fitsVarchar 200 desc && db.nextGroup ≤ maxInt then
      (db.allGroup.insert db.nextGroup ⟨name, desc⟩).map fun t =>
        (db.nextGroup, { db with allGroup := t, nextGroup := db.nextGroup + 1 })
    else none
  | .insertGroupUser groupid userid role =>
    if (db.allGroup.find groupid).isSome && db.hasUser userid then
      (db.groupUser.insert (groupid, userid) role).map fun t => ((), { db with groupUser := t })
    else none
  | .selectGroups userid => some (db.groupRows userid, db)
  | .selectGroupMembers groupid => some (db.memberRows groupid, db)
  | .selectGroupUserIds groupid userid => some (db.otherMembers groupid userid, db)
  | .selectGroup id => some (db.allGroup.find id, db)
  | .insertOffline sql =>
    match MySQL.readInsert sql with
    | none => none
    | some (userid, message) =>
      if db.hasUser userid && message.length ≤ 65535 then
        some ((), { db with offlineMessage := db.offlineMessage ++ [(userid, message)] })
      else none
  | .deleteOffline userid =>
    some ((), { db with offlineMessage := db.offlineMessage.filter fun r => r.1 ≠ userid })
  | .selectOffline userid => some (db.offlineOf userid, db)

end Database

end QtChat
