import QtChat.Server.LoginRuns

/-!
# Who can log in

`login` compares the request with the object that `UserModel::query` returns. That object is a
default one (id -1, no password) when there is no row, no connection or an error, the password in it
ends at a NUL, and the id of the request was cut to 32 bits before.

`login_sound_iff`: a positive acknowledgement means that the table has the row of the request
exactly if none of the three matters for this request.
-/

namespace QtChat

open Interleave ChatService

/-- A `LOGIN_MSG_ACK` with errno 0. -/
def IsLoginAck (js : Json) : Prop :=
  js.get? "msgid" = some (.int 2) ∧ js.get? "errno" = some (.int 0)

theorem listField_key {key : String} {vec : List Str} {f : String × Json}
    (h : f ∈ listField key vec) : f.1 = key := by
  unfold listField at h
  split at h
  · cases h
  · rw [List.mem_singleton.mp h]

theorem get?_loginResponse (user : User) (vec : List Str) (userVec : List User)
    (groupVec : List Group) {key : String}
    (h : txt "offlinemsg" ≠ txt key ∧ txt "friends" ≠ txt key ∧ txt "groups" ≠ txt key) :
    (loginResponse user vec userVec groupVec).get? key =
      (Json.object [EnMsgType.loginMsgAck.field, ("errno", .int 0), ("id", .int user.id),
        ("name", .str user.name)]).get? key := by
  unfold loginResponse
  rw [Json.get?_object_append, Json.get?_object_append, Json.get?_object_append]
  · intro f hf; rw [listField_key hf]; exact h.1
  · intro f hf; rw [listField_key hf]; exact h.2.1
  · intro f hf; rw [listField_key hf]; exact h.2.2

theorem isLoginAck_loginResponse (user : User) (vec : List Str) (userVec : List User)
    (groupVec : List Group) : IsLoginAck (loginResponse user vec userVec groupVec) := by
  constructor <;> rw [get?_loginResponse _ _ _ _ (by decide)] <;> rfl

theorem not_isLoginAck_loginError (errmsg : String) : ¬IsLoginAck (loginError errmsg) := by
  rintro ⟨-, h⟩
  cases h

/-- A request with an integer id and a password is read as these, the id as an `int`. -/
theorem login_read {js : Json} {z : Int} {pwd : Str} (conn : ConnId)
    (hz : js.get? "id" = some (.int z)) (hp : js.get? "password" = some (.str pwd)) :
    ChatService.login conn js = .ok (loginAs conn (toInt32 z) pwd) := by
  cases js with
  | obj m =>
    simp only [ChatService.login, Json.contains, hz, hp, Option.isSome_some, Bool.not_true,
      Bool.or_self, Bool.false_eq_true, if_false, Json.intAt, Json.stringAt, Json.index,
      Option.getD_some]
    rfl
  | _ => cases hz

/-- The keys of `User` are `INT`s. -/
def Database.IntKeys (db : Database) : Prop := ∀ k row, db.user.find k = some row → toInt32 k = k

/-- `User` has a row with this id and this password. -/
def Database.HasLogin (db : Database) (z : Int) (pwd : Str) : Prop :=
  ∃ row, db.user.find z = some row ∧ row.password = pwd

/-- Handling the request enters no connection and sends no positive acknowledgement on `conn` unless
the table has the row. -/
def LoginSound (w : World) (i : ServerId) (conn : ConnId) (js : Json) (z : Int) (pwd : Str) : Prop :=
  ∀ w', (Request.run (ChatService.login conn js)).run i w = some ((), w') →
    ((w'.servers i).userConnMap ≠ (w.servers i).userConnMap ∨
      ∃ d ∈ sentIn i w w', d.conn = conn ∧ IsLoginAck d.js) → w.db.HasLogin z pwd

/-- The object that the lookup gives stands for the row: a row's password is not cut where the
request's ends and the id was not cut, and the default object is not what the request asks for. -/
def LookupExact (w : World) (z : Int) (pwd : Str) : Prop :=
  match (w.ask (.selectUser (toInt32 z))).1 with
  | some (some row) => cstr row.password = pwd → row.password = pwd ∧ toInt32 z = z
  | _ => toInt32 z = -1 → pwd = [] → w.db.HasLogin z pwd

theorem loginSound_iff_accepts {w : World} {i : ServerId} {conn : ConnId} {js : Json} {z : Int}
    {pwd : Str} (hz : js.get? "id" = some (.int z)) (hp : js.get? "password" = some (.str pwd)) :
    LoginSound w i conn js z pwd ↔
      (Accepts (w.lookedUp (toInt32 z)) (toInt32 z) pwd → w.db.HasLogin z pwd) := by
  unfold LoginSound
  rw [login_read conn hz hp]
  constructor
  · intro h ha
    obtain ⟨_, w', -, hr, -⟩ := run_loginAs i w conn ha
    obtain ⟨_, rest, hs, -⟩ := loginAs_sends i w conn ha hr
    exact h w' hr (.inr ⟨_, by rw [hs]; exact List.mem_cons_self, rfl,
      isLoginAck_loginResponse _ _ _ _⟩)
  · intro h w' hr he
    by_cases ha : Accepts (w.lookedUp (toInt32 z)) (toInt32 z) pwd
    · exact h ha
    · obtain ⟨hm, hd⟩ := loginAs_refused_sends i w conn ha hr
      rcases he with he | ⟨d, hd', -, hk⟩
      · exact absurd hm he
      · rw [hd d hd'] at hk
        exact absurd hk (not_isLoginAck_loginError _)

/-- **When a login is sound.** Whatever the table and the outcome of the lookup, a positive
acknowledgement or a new entry means that the row of the request is there exactly if the lookup's
object stands for the row. -/
theorem login_sound_iff {w : World} (hk : w.db.IntKeys) (i : ServerId) (conn : ConnId) {js : Json}
    {z : Int} {pwd : Str} (hz : js.get? "id" = some (.int z))
    (hp : js.get? "password" = some (.str pwd)) :
    LoginSound w i conn js z pwd ↔ LookupExact w z pwd := by
  rw [loginSound_iff_accepts hz hp]
  unfold LookupExact Accepts World.lookedUp
  rcases w.ask_cases (.selectUser (toInt32 z)) with ⟨ha, -⟩ | ⟨r, db, he, ha, -⟩
  · rw [ha]
    exact ⟨fun h h₁ h₂ => h ⟨h₁.symm, h₂.symm⟩, fun h h' => h h'.1.symm h'.2.symm⟩
  · cases he
    rw [ha]
    cases hf : w.db.user.find (toInt32 z) with
    | none => exact ⟨fun h h₁ h₂ => h ⟨h₁.symm, h₂.symm⟩, fun h h' => h h'.1.symm h'.2.symm⟩
    | some row =>
      refine ⟨fun h hc => ?_, fun h h' => ?_⟩
      · obtain ⟨row', hr, hpw⟩ := h ⟨rfl, hc⟩
        have hzz := hk z row' hr
        rw [hzz, hr] at hf
        cases hf
        exact ⟨hpw, hzz⟩
      · obtain ⟨hpw, hzz⟩ := h h'.2
        rw [hzz] at hf
        exact ⟨row, hf, hpw⟩

/-- A running server with a connection, an empty table, and all statements executed. -/
def World.fresh : World :=
  (World.mk (.created id) (fun _ => .stopped) (fun _ => ⟨true, 0⟩) 0).modify 0 fun s =>
    { s with running := true, conns := Function.update s.conns 1 .connected }

/-- The request with the id and the password of the default object. -/
def emptyLogin : Json :=
  .object [EnMsgType.loginMsg.field, ("id", .int (-1)), ("password", .str [])]

theorem login_sound_iff_fresh :
    LoginSound World.fresh 0 1 emptyLogin (-1) [] ↔ LookupExact World.fresh (-1) [] :=
  login_sound_iff (fun _ _ h => by cases h) 0 1 rfl rfl

/-- With no user at all, id -1 and the empty password are accepted. -/
theorem login_unsound : ¬∀ (w : World), w.db.IntKeys → ∀ (i : ServerId) (conn : ConnId) (js : Json)
    (z : Int) (pwd : Str), js.get? "id" = some (.int z) → js.get? "password" = some (.str pwd) →
      LoginSound w i conn js z pwd := by
  intro h
  have hs := h World.fresh (fun _ _ h => by cases h) 0 1 emptyLogin (-1) [] rfl rfl
  rw [loginSound_iff_accepts rfl rfl] at hs
  obtain ⟨row, hr, -⟩ := hs ⟨rfl, rfl⟩
  cases hr

end QtChat
