import QtChat.Server.Replies

/-!
# The statements with names

`UserModel::insert`, `UserModel::updateName` and `GroupModel::createGroup` format their statement
into `char sql[1024]` with `sprintf`. Neither the frame nor the handlers bound the strings of the
request; only the database would.

- `NameRequest.text`: the text; `length_text`: its length.
- `statement_fits_iff`: which requests stay in the buffer.
-/

namespace QtChat

open Interleave ChatService

/-! ## The length of an escaped string -/

/-- A byte that `mysql_real_escape_string` writes as two. -/
def isEscaped (b : UInt8) : Bool :=
  b = 0 || b = 10 || b = 13 || b = 92 || b = 39 || b = 34 || b = 26

def escapedLength (s : Str) : Nat := s.length + s.countP isEscaped

theorem length_escapeByte (b : UInt8) :
    (escapeByte b).length = if isEscaped b = true then 2 else 1 := by
  unfold escapeByte isEscaped
  repeat' split
  all_goals first
    | rfl
    | simp_all

theorem length_escape (s : Str) : (MySQL.escape s).length = escapedLength s := by
  induction s with
  | nil => rfl
  | cons b s ih =>
    rw [MySQL.escape_cons, List.length_append, ih, length_escapeByte, escapedLength, escapedLength,
      List.countP_cons, List.length_cons]
    split <;> omega

/-! ## The requests -/

/-- A request whose handler formats a statement with its strings. -/
inductive NameRequest where
  | reg (name pwd : Str)
  | updateName (userid : Int) (newName : Str)
  | createGroup (userid : Int) (name desc : Str)

namespace NameRequest

/-- What the handler of the body reads; `none`: a field is missing or has another type. -/
def read (js : Json) : Option NameRequest :=
  match js.intAt "msgid" with
  | .ok 4 =>
    if !js.contains "name" || !js.contains "password" then none
    else match js.stringAt "name", js.stringAt "password" with
      | .ok name, .ok pwd => some (.reg name pwd)
      | _, _ => none
  | .ok 12 =>
    if !js.contains "id" || !js.contains "name" then none
    else match js.intAt "id", js.stringAt "name" with
      | .ok userid, .ok newName => some (.updateName userid newName)
      | _, _ => none
  | .ok 8 =>
    if !js.contains "id" || !js.contains "groupname" then none
    else match js.intAt "id", js.stringAt "groupname", js.stringAt "groupdesc" with
      | .ok userid, .ok name, .ok desc => some (.createGroup userid name desc)
      | _, _, _ => none
  | _ => none

/-- What its handler does after it has read the request. -/
def handle (conn : ConnId) : NameRequest → Serv Unit
  | reg name pwd => regAs conn name pwd
  | updateName userid newName => updateNameAs conn userid newName
  | createGroup userid name desc => createGroupAs conn userid name desc

/-- The text that `sprintf` builds. -/
def text : NameRequest → Str
  | reg name pwd => txt "insert into User(name, password, state) values('" ++ MySQL.escape name ++
      txt "', '" ++ MySQL.escape pwd ++ txt "', '" ++ MySQL.escape UserState.offline.text ++ txt "')"
  | updateName userid newName => txt "update User set name = '" ++ MySQL.escape newName ++
      txt "' where id = " ++ decimal userid
  | createGroup _ name desc => txt "insert into AllGroup(groupname, groupdesc) values('" ++
      MySQL.escape name ++ txt "', '" ++ MySQL.escape desc ++ txt "')"

/-- The bytes of the statement: those of its form and those of the strings. -/
def width : NameRequest → Nat
  | reg name pwd => 65 + escapedLength name + escapedLength pwd
  | updateName userid newName => 37 + escapedLength newName + (decimal userid).length
  | createGroup _ name desc => 57 + escapedLength name + escapedLength desc

theorem length_text (r : NameRequest) : r.text.length = r.width := by
  cases r with
  | reg name pwd =>
    have h1 : (txt "insert into User(name, password, state) values('").length = 48 := by decide
    have h2 : (txt "', '").length = 4 := by decide
    have h3 : (MySQL.escape UserState.offline.text).length = 7 := by decide
    have h4 : (txt "')").length = 2 := by decide
    simp only [text, width, List.length_append, length_escape, h1, h2, h3, h4]
    omega
  | updateName userid newName =>
    have h1 : (txt "update User set name = '").length = 24 := by decide
    have h2 : (txt "' where id = ").length = 13 := by decide
    simp only [text, width, List.length_append, length_escape, h1, h2]
    omega
  | createGroup userid name desc =>
    have h1 : (txt "insert into AllGroup(groupname, groupdesc) values('").length = 51 := by decide
    have h2 : (txt "', '").length = 4 := by decide
    have h3 : (txt "')").length = 2 := by decide
    simp only [text, width, List.length_append, length_escape, h1, h2, h3]
    omega

variable {i : ServerId} {w : World} {conn : ConnId}

/-- A method whose text fits: what it does with the answer. -/
theorem run_ask_of_fits {α : Type} {st : Stmt} {text : Str} {d : α} {f : Option st.Ans → Serv α}
    (hd : f none = .ret d) (h : text.length + 1 ≤ 1024) :
    (acquire >>= fun ok =>
      if (!ok) = true then pure d else format text >>= fun _ => sql st >>= f).run i w =
      (f (w.ask st).1).run i (w.ask st).2 := by
  have hf : format text = .ret text := by rw [format, sprintf, if_pos h]
  rw [hf]
  exact run_ask hd

theorem format_of_long {text : Str} (h : ¬ text.length + 1 ≤ 1024) (i : ServerId) (w : World)
    {α : Type} (f : Str → Serv α) : (format text >>= f).run i w = none := by
  rw [format, sprintf, if_neg h]
  rfl

/-- A text that fits: the handler gets to its end in every world. -/
theorem run_of_fits (r : NameRequest) (h : r.text.length + 1 ≤ 1024) :
    ((r.handle conn).run i w).isSome = true := by
  cases r with
  | reg name pwd =>
    have hm : (UserModel.insert name pwd .offline).run i w =
        some (w.ask (.insertUser name pwd .offline)) :=
      run_ask_of_fits (f := Prog.ret) rfl h
    rw [handle, regAs, Prog.run_bind, hm, Option.bind_some]
    cases (w.ask (.insertUser name pwd .offline)).1 with
    | none => rfl
    | some id => rfl
  | updateName userid newName =>
    have hm : (UserModel.updateName userid newName).run i w =
        some ((w.ask (.updateName userid newName)).1.isSome,
          (w.ask (.updateName userid newName)).2) :=
      run_ask_of_fits (f := fun r => Prog.ret r.isSome) rfl h
    rw [handle, updateNameAs, Prog.run_bind, hm, Option.bind_some]
    cases (w.ask (.updateName userid newName)).1.isSome with
    | false => rfl
    | true => rfl
  | createGroup userid name desc =>
    have hm : (GroupModel.createGroup name desc).run i w =
        some (w.ask (.insertGroup name desc)) :=
      run_ask_of_fits (f := Prog.ret) rfl h
    rw [handle, createGroupAs, Prog.run_bind, hm, Option.bind_some]
    cases (w.ask (.insertGroup name desc)).1 with
    | none => rfl
    | some id =>
      simp only [Prog.run_bind, run_addGroup, Option.bind_some, run_sendJson, Option.isSome_some]

/-- A longer text: with a database connection the handler writes past the end of the buffer. -/
theorem run_of_long (r : NameRequest) (h : ¬ r.text.length + 1 ≤ 1024)
    (hw : (w.fates 0).ok = true) : (r.handle conn).run i w = none := by
  have hr : ∀ {α β : Type} (d : Serv α) (f : Str → Serv α) (g : α → Serv β),
      ((acquire >>= fun ok => if (!ok) = true then d else format r.text >>= f) >>= g).run i w =
        none := by
    intro α β d f g
    rw [Prog.run_bind, run_acquire, if_neg (by simp [hw]), format_of_long h]
    rfl
  cases r with
  | reg name pwd => exact hr _ _ _
  | updateName userid newName => exact hr _ _ _
  | createGroup userid name desc => exact hr _ _ _

end NameRequest

/-! ## The bodies -/

/-- A body of one of the three messages. -/
def Json.IsNameMsg (js : Json) : Prop :=
  ∃ m : EnMsgType, js.intAt "msgid" = .ok m.toInt ∧
    (m = .regMsg ∨ m = .updateNameMsg ∨ m = .createGroupMsg)

/-- The handlers of the three messages go on with what they read, or end before they have formatted
any statement. -/
theorem dispatch_name {js : Json} (conn : ConnId) (hm : js.IsNameMsg) :
    (∃ r, NameRequest.read js = some r ∧ dispatch conn js = .ok (r.handle conn)) ∨
      NameRequest.read js = none ∧
        ∀ i w, ((Request.run (dispatch conn js)).run i w).isSome = true := by
  obtain ⟨m, hm, rfl | rfl | rfl⟩ := hm
  · have hd : dispatch conn js = reg conn js := by rw [dispatch, hm]; rfl
    rw [hd, reg, NameRequest.read, hm]
    simp only [EnMsgType.toInt]
    split
    · exact .inr ⟨rfl, fun _ _ => rfl⟩
    · cases js.stringAt "name" with
      | error e => exact .inr ⟨rfl, fun _ _ => rfl⟩
      | ok name => cases js.stringAt "password" with
        | error e => exact .inr ⟨rfl, fun _ _ => rfl⟩
        | ok pwd => exact .inl ⟨.reg name pwd, rfl, rfl⟩
  · have hd : dispatch conn js = updateName conn js := by rw [dispatch, hm]; rfl
    rw [hd, updateName, NameRequest.read, hm]
    simp only [EnMsgType.toInt]
    split
    · exact .inr ⟨rfl, fun _ _ => rfl⟩
    · cases js.intAt "id" with
      | error e => exact .inr ⟨rfl, fun _ _ => rfl⟩
      | ok userid => cases js.stringAt "name" with
        | error e => exact .inr ⟨rfl, fun _ _ => rfl⟩
        | ok newName => exact .inl ⟨.updateName userid newName, rfl, rfl⟩
  · have hd : dispatch conn js = createGroup conn js := by rw [dispatch, hm]; rfl
    rw [hd, createGroup, NameRequest.read, hm]
    simp only [EnMsgType.toInt]
    split
    · exact .inr ⟨rfl, fun _ _ => rfl⟩
    · cases js.intAt "id" with
      | error e => exact .inr ⟨rfl, fun _ _ => rfl⟩
      | ok userid => cases js.stringAt "groupname" with
        | error e => exact .inr ⟨rfl, fun _ _ => rfl⟩
        | ok name => cases js.stringAt "groupdesc" with
          | error e => exact .inr ⟨rfl, fun _ _ => rfl⟩
          | ok desc => exact .inl ⟨.createGroup userid name desc, rfl, rfl⟩

theorem fits_iff (r : NameRequest) : r.text.length + 1 ≤ 1024 ↔ r.width ≤ 1023 := by
  rw [r.length_text]
  omega

/-- What the handling of a body comes to, in every world, when its statement is too long. -/
theorem handleMsg_halts {P : JsonParser} {msg : Str} {js : Json} (hp : P.parse msg = some js)
    {conn : ConnId} (hm : js.IsNameMsg) {r : NameRequest} (hr : NameRequest.read js = some r)
    (hl : ¬ r.width ≤ 1023) (i : ServerId) {w : World} (hw : (w.fates 0).ok = true) :
    (handleMsg P conn msg).run i w = none := by
  rcases dispatch_name conn hm with ⟨r', hr', hd⟩ | ⟨hn, -⟩
  · cases hr.symm.trans hr'
    rw [run_handleMsg _ _ hp, hd]
    exact r.run_of_long (fun h => hl ((fits_iff r).mp h)) hw
  · cases hr.symm.trans hn

/-- A world in which MySQL executes what it is sent. -/
def emptyWorld : World := ⟨.created id, fun _ => .stopped, fun _ => ⟨true, 0⟩, 0⟩

/-- **Which bodies stay in the buffer**: exactly those whose strings are short, each escaped byte
counted twice. The text then fits with its NUL, and the handler gets to its end whatever the server
and the database do. -/
theorem statement_fits_iff {P : JsonParser} {msg : Str} {js : Json} (hp : P.parse msg = some js)
    (hm : js.IsNameMsg) (conn : ConnId) :
    ((∀ r, NameRequest.read js = some r → r.text.length + 1 ≤ 1024) ↔
      ∀ r, NameRequest.read js = some r → r.width ≤ 1023) ∧
    ((∀ i w, ((handleMsg P conn msg).run i w).isSome = true) ↔
      ∀ r, NameRequest.read js = some r → r.width ≤ 1023) := by
  refine ⟨forall_congr' fun r => imp_congr_right fun _ => fits_iff r, fun h r hr => ?_,
    fun h i w => ?_⟩
  · by_contra hl
    have hw := h 0 emptyWorld
    rw [handleMsg_halts hp hm hr hl 0 rfl] at hw
    cases hw
  · rw [run_handleMsg _ _ hp]
    rcases dispatch_name conn hm with ⟨r, hr, hd⟩ | ⟨-, hd⟩
    · rw [hd]
      exact r.run_of_fits ((fits_iff r).mpr (h r hr))
    · exact hd i _

/-- A registration with these strings. -/
def regBody (name pwd : Str) : Json :=
  .object [EnMsgType.regMsg.field, ("name", .str name), ("password", .str pwd)]

theorem read_regBody (name pwd : Str) : NameRequest.read (regBody name pwd) = some (.reg name pwd) :=
  rfl

theorem parse_ofDumps (js : Json) : (JsonParser.ofDumps [js]).parse js.dump = some js := by
  simp [JsonParser.ofDumps]

/-- A short registration. -/
theorem statement_fits_ann : ((handleMsg (.ofDumps [regBody (txt "ann") (txt "pw")]) 1
    (regBody (txt "ann") (txt "pw")).dump).run (0 : ServerId) emptyWorld).isSome :=
  (statement_fits_iff (parse_ofDumps _) ⟨.regMsg, rfl, .inl rfl⟩ 1).2.mpr (by decide) 0 emptyWorld

/-- A name of 480 quotes. -/
theorem statement_overflows : ∃ (P : JsonParser) (msg : Str) (js : Json),
    msg.length ≤ 1024 * 1024 ∧ P.parse msg = some js ∧ js.IsNameMsg ∧
      ¬ (∀ r, NameRequest.read js = some r → r.text.length + 1 ≤ 1024) ∧
      ∃ w, (handleMsg P 1 msg).run (0 : ServerId) w = none := by
  have hm : (regBody (List.replicate 480 39) []).IsNameMsg := ⟨.regMsg, rfl, .inl rfl⟩
  have hl : ¬ (NameRequest.reg (List.replicate 480 39) []).width ≤ 1023 := by
    decide +kernel
  exact ⟨.ofDumps [regBody (List.replicate 480 39) []], _, _, by decide +kernel, parse_ofDumps _, hm,
    fun h => hl ((fits_iff _).mp (h _ (read_regBody _ _))),
    emptyWorld, handleMsg_halts (parse_ofDumps _) hm (read_regBody _ _) hl 0 rfl⟩

end QtChat
