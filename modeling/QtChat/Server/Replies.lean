import QtChat.Server.ChatServer
import QtChat.Server.Invariants
import QtChat.Server.Width

/-!
# The packets of the handlers that read single rows

`Deliverable`: the body of a packet has a length that the receivers take. The replies to all
requests but an accepted login, and the packets for friends, are deliverable in every reachable
state: their numbers are `int`s, and their names stand in a column or were formatted into `char
sql[1024]`.

`Database.Linked` is what of the tables this rests on (`reach_linked`).
-/

namespace QtChat

open Interleave ChatService Json

/-- The receivers take a packet with this body. -/
def Deliverable (js : Json) : Prop := 1 ≤ js.dump.length ∧ js.dump.length ≤ maxBody

theorem deliverable_iff {js : Json} : Deliverable js ↔ js.width 0 ≤ maxBody := by
  have hpos := List.length_pos_iff.mpr (dump_ne_nil js)
  unfold Deliverable
  rw [length_dump] at hpos ⊢
  exact ⟨fun h => h.2, fun h => ⟨hpos, h⟩⟩

/-- **What the Qt client finds** at the front of its buffer, when the packet is there: the body if
it is deliverable, and never the body otherwise. -/
theorem deliverable_iff_front (e : Endian) {js : Json} : Deliverable js ↔
    packets.front (ChatService.packetOf e js.dump) = .frame js.dump [] := by
  rw [ChatService.packetOf_eq]
  change _ ↔ packetFront (packet js.dump) = _
  constructor
  · intro h
    have := packetFront_packet (dump_ne_nil js) h.2 []
    rwa [List.append_nil] at this
  · intro h
    obtain ⟨-, -, hb, hm, -⟩ := packetFront_frame.mp h
    exact ⟨List.length_pos_iff.mpr hb, hm⟩

/-! ## Small objects -/

/-- A field with a short key and a value of at most 20000 bytes. -/
def SmallField (f : String × Json) : Prop := (txt f.1).length ≤ 20 ∧ f.2.width 0 ≤ 20000

theorem SmallField.int {key : String} {z : Int} (hk : (txt key).length ≤ 20)
    (hz : (decimal z).length ≤ 2000) : SmallField (key, .int z) := by
  refine ⟨hk, ?_⟩
  rw [width]
  omega

theorem SmallField.str {key : String} {s : Str} (hk : (txt key).length ≤ 20)
    (hs : s.length ≤ 2000) : SmallField (key, .str s) := by
  have := quoteWidth_le s
  refine ⟨hk, ?_⟩
  rw [width]
  omega

theorem SmallField.msgid (m : EnMsgType) : SmallField m.field :=
  .int (by decide) (by cases m <;> decide)

theorem SmallField.state {key : String} (hk : (txt key).length ≤ 20) (state : UserState) :
    SmallField (key, .str state.text) :=
  .str hk (by cases state <;> decide)

theorem deliverable_object {fields : List (String × Json)} (hne : fields ≠ [])
    (hn : (fields.map fun f => txt f.1).Nodup) (hl : fields.length ≤ 8)
    (h : ∀ f ∈ fields, SmallField f) : Deliverable (object fields) := by
  have hsum : ∀ fs : List (String × Json), (∀ f ∈ fs, SmallField f) →
      (fs.map (fieldWidth 0)).sum ≤ 20124 * fs.length := by
    intro fs hfs
    induction fs with
    | nil => exact Nat.le_refl 0
    | cons f fs ih =>
      obtain ⟨hk, hv⟩ := hfs f (by simp)
      have hq := quoteWidth_le (txt f.1)
      have := ih fun g hg => hfs g (by simp [hg])
      rw [List.map_cons, List.sum_cons, List.length_cons, fieldWidth]
      omega
  have := hsum fields h
  rw [deliverable_iff, width_object 0 hne hn, maxBody]
  omega

/-! ## The tables -/

/-- Positive ids and names that fit, and a friend row only of a user who is there. -/
structure Database.Linked (db : Database) : Prop where
  wf : db.Wf
  friend : ∀ r ∈ db.friend, db.hasUser r.1 = true

namespace Database

variable {db db' : Database} {st : Stmt} {r : st.Ans}

/-- No statement removes a user. -/
theorem exec_keeps_user {u : Int} (hu : db.hasUser u = true) (h : db.exec st = some (r, db')) :
    db'.hasUser u = true := by
  cases st with
  | insertUser name password state =>
    simp only [exec] at h
    split at h
    · obtain ⟨t, ht, he⟩ := Option.map_eq_some_iff.mp h
      cases he
      simp only [hasUser, Relational.Table.find_insert ht] at hu ⊢
      split
      · rfl
      · exact hu
    · cases h
  | updateState id state =>
    cases h
    simp only [hasUser, Relational.Table.find_update] at hu ⊢
    split
    · rename_i e
      rw [← e, Option.isSome_map]
      exact hu
    · exact hu
  | updateName id name =>
    simp only [exec] at h
    split at h
    · cases h; exact hu
    · split at h
      · cases h
        simp only [hasUser, Relational.Table.find_update] at hu ⊢
        split
        · rename_i e
          rw [← e, Option.isSome_map]
          exact hu
        · exact hu
      · cases h
  | resetState =>
    cases h
    simp only [hasUser, Relational.Table.find_updateAll, Option.isSome_map] at hu ⊢
    exact hu
  | _ =>
    have e : db'.user = db.user := by
      simp only [exec] at h
      grind [Option.map_eq_some_iff]
    rw [hasUser, e]
    exact hu

theorem exec_friend (h : db.exec st = some (r, db')) : db'.friend = db.friend ∨
    ∃ a b, db.hasUser a = true ∧ db'.friend = db.friend ++ [(a, b)] := by
  cases st with
  | insertFriend userid friendid =>
    simp only [exec] at h
    cases h
    split
    · rename_i hc
      simp only [Bool.and_eq_true] at hc
      exact .inr ⟨userid, friendid, hc.1.1, rfl⟩
    · exact .inl rfl
  | _ =>
    refine .inl ?_
    simp only [exec] at h
    grind [Option.map_eq_some_iff]

theorem exec_linked (hl : db.Linked) (h : db.exec st = some (r, db')) : db'.Linked where
  wf := exec_wf hl.wf h
  friend row hr := by
    rcases exec_friend h with e | ⟨a, b, ha, e⟩
    · rw [e] at hr
      exact exec_keeps_user (hl.friend row hr) h
    · rw [e, List.mem_append, List.mem_singleton] at hr
      rcases hr with hr | rfl
      · exact exec_keeps_user (hl.friend row hr) h
      · exact exec_keeps_user ha h

theorem linked_created (collate : Str → Str) : (created collate).Linked where
  wf := wf_created collate
  friend := by simp [created]

end Database

theorem reach_linked {P : JsonParser} {s : Sys} (h : (system P).Reach s) : s.world.db.Linked :=
  reach_db Database.linked_created (fun _ _ _ _ hw he => Database.exec_linked hw he) h

/-! ## Replies -/

/-- The object `GroupModel::queryGroup` gives for its answer. -/
def Group.found (groupid : Int) : Option (Option GroupRow) → Group
  | some (some row) => GroupModel.groupOf (groupid, row)
  | _ => {}

theorem length_cstr_le (s : Str) : (cstr s).length ≤ s.length :=
  (List.takeWhile_sublist _).length_le

/-- An id of a row has few digits. -/
theorem length_id_le {z : Int} (h : 1 ≤ z ∧ z ≤ maxInt) : (decimal z).length ≤ 11 := by
  refine length_decimal_le ?_
  simp only [maxInt] at h
  omega

section Replies

variable {i : ServerId} {w w' : World} {conn : ConnId}

@[simp] theorem run_queryGroup (i : ServerId) (w : World) (groupid : Int) :
    (GroupModel.queryGroup groupid).run i w =
      some (Group.found groupid (w.ask (.selectGroup groupid)).1,
        (w.ask (.selectGroup groupid)).2) := by
  unfold GroupModel.queryGroup
  refine (run_ask (by rfl)).trans ?_
  rcases (w.ask (.selectGroup groupid)).1 with _ | _ | row <;> rfl

/-- A method that formats its statement: it answers only if the text fits. -/
theorem run_ask_format {α : Type} {st : Stmt} {text : Str} {d : α} {f : Option st.Ans → Serv α}
    {r : α × World} (hd : f none = .ret d) (h : (acquire >>= fun ok =>
      if (!ok) = true then pure d else format text >>= fun _ => sql st >>= f).run i w = some r) :
    (f (w.ask st).1).run i (w.ask st).2 = some r ∧
      ((w.ask st).1.isSome = true → text.length ≤ 1023) := by
  by_cases h0 : (w.fates 0).ok = true
  · have hlen : text.length ≤ 1023 := by
      rw [run_acquire, if_neg (by simp [h0]), format, sprintf] at h
      by_contra hl
      rw [if_neg (by omega)] at h
      cases h
    refine ⟨?_, fun _ => hlen⟩
    rw [← run_ask hd, run_acquire, if_neg (by simp [h0])]
    rw [run_acquire, if_neg (by simp [h0]), format, sprintf, if_pos (by omega)] at h
    exact h
  · rw [run_acquire, if_pos (by simp [h0])] at h
    rw [World.ask, if_neg h0, hd]
    exact ⟨h, fun hs => by cases hs⟩

theorem linked_ask (hl : w.db.Linked) (st : Stmt) : (w.ask st).2.db.Linked := by
  rcases w.ask_cases st with ⟨-, h⟩ | ⟨r, db, he, -, h⟩
  · rw [h]; exact hl
  · rw [h]; exact Database.exec_linked hl he

theorem lookedUp_small (hl : w.db.Wf) (id : Int) :
    (decimal (w.lookedUp id).id).length ≤ 11 ∧ (w.lookedUp id).name.length ≤ 200 := by
  have hdefault : (decimal (-1)).length ≤ 11 := by decide
  unfold World.lookedUp
  rcases w.ask_cases (.selectUser id) with ⟨ha, -⟩ | ⟨r, db, he, ha, -⟩
  · rw [ha]
    exact ⟨hdefault, Nat.zero_le _⟩
  · cases he
    rw [ha]
    cases hf : w.db.user.find id with
    | none => exact ⟨hdefault, Nat.zero_le _⟩
    | some row =>
      obtain ⟨hid, hname⟩ := hl.user_find hf
      exact ⟨length_id_le hid, (length_cstr_le row.name).trans hname⟩

theorem group_small (hl : w.db.Wf) (groupid : Int) :
    (decimal (Group.found groupid (w.ask (.selectGroup groupid)).1).id).length ≤ 11 ∧
      (Group.found groupid (w.ask (.selectGroup groupid)).1).name.length ≤ 200 := by
  have hdefault : (decimal (-1)).length ≤ 11 := by decide
  rcases w.ask_cases (.selectGroup groupid) with ⟨ha, -⟩ | ⟨r, db, he, ha, -⟩
  · rw [ha]
    exact ⟨hdefault, Nat.zero_le _⟩
  · cases he
    rw [ha]
    cases hf : w.db.allGroup.find groupid with
    | none => exact ⟨hdefault, Nat.zero_le _⟩
    | some row =>
      obtain ⟨hid, hname, -⟩ := hl.group_find hf
      exact ⟨length_id_le hid, (length_cstr_le row.groupname).trans hname⟩

/-- The packets of a run that sends one at its end. -/
theorem sent_one {w₁ : World} {js : Json} (ho : (w₁.servers i).outbox = (w.servers i).outbox)
    (hr : (sendJson conn js).run i w₁ = some ((), w')) : ∀ d ∈ sentIn i w w', d.js = js := by
  rw [run_sendJson] at hr
  cases hr
  intro d hd
  rw [sentIn, World.modify_self, Server.deliver, ho, List.drop_left, List.mem_singleton] at hd
  rw [hd]

/-- A packet that tells of an error. -/
theorem deliverable_error (m : EnMsgType) {errmsg : Str} (h : errmsg.length ≤ 2000) :
    Deliverable (.object [m.field, ("errno", .int 1), ("errmsg", .str errmsg)]) := by
  have hn : [txt "msgid", txt "errno", txt "errmsg"].Nodup := by decide
  refine deliverable_object (by simp) hn (by simp) fun f hf => ?_
  simp only [List.mem_cons, List.not_mem_nil, or_false] at hf
  rcases hf with rfl | rfl | rfl
  · exact .msgid _
  · exact .int (by decide) (by decide)
  · exact .str (by decide) h

theorem deliverable_loginError {errmsg : String} (h : (txt errmsg).length ≤ 2000) :
    Deliverable (loginError errmsg) := deliverable_error _ h

theorem deliverable_friendState {userid : Int} (h : (decimal userid).length ≤ 11)
    (state : UserState) : Deliverable (friendState userid state) := by
  have hn : [txt "msgid", txt "friendid", txt "state"].Nodup := by decide
  refine deliverable_object (by simp) hn (by simp) fun f hf => ?_
  simp only [List.mem_cons, List.not_mem_nil, or_false] at hf
  rcases hf with rfl | rfl | rfl
  · exact .msgid _
  · exact .int (by decide) (by omega)
  · exact .state (by decide) state

theorem regAs_deliverable (hl : w.db.Linked) {name pwd : Str}
    (hr : (regAs conn name pwd).run i w = some ((), w')) :
    ∀ d ∈ sentIn i w w', Deliverable d.js := by
  unfold regAs at hr
  obtain ⟨r, w₁, hi, hr⟩ := Prog.run_bind_eq_some.mp hr
  obtain ⟨he, -⟩ := run_ask_format (f := Prog.ret) rfl (by exact hi)
  cases he
  have ho : ((w.ask (.insertUser name pwd .offline)).2.servers i).outbox =
      (w.servers i).outbox := by rw [World.ask_servers]
  intro d hd
  rcases w.ask_cases (.insertUser name pwd .offline) with ⟨ha, -⟩ | ⟨id, db, he, ha, -⟩
  · rw [ha] at hr
    rw [sent_one ho hr d hd]
    have hn : [txt "msgid", txt "errno"].Nodup := by decide
    refine deliverable_object (by simp) hn (by simp) fun f hf => ?_
    simp only [List.cons_append, List.nil_append, List.mem_cons, List.not_mem_nil, or_false] at hf
    rcases hf with rfl | rfl
    · exact .msgid _
    · exact .int (by decide) (by decide)
  · rw [ha] at hr
    rw [sent_one ho hr d hd]
    have hid : 1 ≤ id ∧ id ≤ maxInt := by
      simp only [Database.exec] at he
      split at he
      · rename_i hc
        simp only [Bool.and_eq_true, decide_eq_true_eq] at hc
        obtain ⟨t, -, he⟩ := Option.map_eq_some_iff.mp he
        cases he
        exact ⟨hl.wf.nextUser, hc.2⟩
      · cases he
    have := length_id_le hid
    have hn : [txt "msgid", txt "errno", txt "id"].Nodup := by decide
    refine deliverable_object (by simp) hn (by simp) fun f hf => ?_
    simp only [List.mem_cons, List.not_mem_nil, or_false] at hf
    rcases hf with rfl | rfl | rfl
    · exact .msgid _
    · exact .int (by decide) (by decide)
    · exact .int (by decide) (by omega)

theorem addFriendAs_deliverable (hl : w.db.Linked) {userid friendid : Int}
    (hr : (addFriendAs conn userid friendid).run i w = some ((), w')) :
    ∀ d ∈ sentIn i w w', Deliverable d.js := by
  unfold addFriendAs at hr
  simp only [Prog.run_bind, run_insertFriend, run_query, Option.bind_some] at hr
  obtain ⟨hid, hname⟩ := lookedUp_small (linked_ask (linked_ask hl (.insertFriend userid friendid))
    (.insertFriend friendid userid)).wf friendid
  unfold World.lookedUp at hid hname
  intro d hd
  rw [sent_one (by simp) hr d hd]
  have hn : [txt "msgid", txt "id", txt "name", txt "state"].Nodup := by decide
  refine deliverable_object (by simp) hn (by simp) fun f hf => ?_
  simp only [List.mem_cons, List.not_mem_nil, or_false] at hf
  rcases hf with rfl | rfl | rfl | rfl
  · exact .msgid _
  · exact .int (by decide) (by omega)
  · exact .str (by decide) (by omega)
  · exact .state (by decide) _

theorem createGroupAs_deliverable (hl : w.db.Linked) {userid : Int} {name desc : Str}
    (hr : (createGroupAs conn userid name desc).run i w = some ((), w')) :
    ∀ d ∈ sentIn i w w', Deliverable d.js := by
  unfold createGroupAs at hr
  obtain ⟨r, w₁, hi, hr⟩ := Prog.run_bind_eq_some.mp hr
  obtain ⟨he, -⟩ := run_ask_format (f := Prog.ret) rfl (by exact hi)
  cases he
  intro d hd
  rcases w.ask_cases (.insertGroup name desc) with ⟨ha, -⟩ | ⟨id, db, he, ha, -⟩
  · rw [ha] at hr
    cases hr
    rw [sentIn, World.ask_servers, List.drop_length] at hd
    cases hd
  · rw [ha] at hr
    simp only [Prog.run_bind, run_addGroup, Option.bind_some] at hr
    rw [sent_one (by simp) hr d hd]
    have hrow : (1 ≤ id ∧ id ≤ maxInt) ∧ name.length ≤ 200 ∧ desc.length ≤ 800 := by
      simp only [Database.exec] at he
      split at he
      · rename_i hc
        simp only [Bool.and_eq_true, decide_eq_true_eq] at hc
        obtain ⟨t, -, he⟩ := Option.map_eq_some_iff.mp he
        cases he
        exact ⟨⟨hl.wf.nextGroup, hc.2⟩, length_of_fitsVarchar hc.1.1, length_of_fitsVarchar hc.1.2⟩
      · cases he
    have := length_id_le hrow.1
    have hn : [txt "msgid", txt "groupid", txt "groupname", txt "groupdesc"].Nodup := by decide
    refine deliverable_object (by simp) hn (by simp) fun f hf => ?_
    simp only [List.mem_cons, List.not_mem_nil, or_false] at hf
    rcases hf with rfl | rfl | rfl | rfl
    · exact .msgid _
    · exact .int (by decide) (by omega)
    · exact .str (by decide) (by omega)
    · exact .str (by decide) (by omega)

theorem addGroupAs_deliverable (hl : w.db.Linked) {userid groupid : Int}
    (hr : (addGroupAs conn userid groupid).run i w = some ((), w')) :
    ∀ d ∈ sentIn i w w', Deliverable d.js := by
  unfold addGroupAs at hr
  simp only [Prog.run_bind, run_addGroup, run_queryGroup, Option.bind_some] at hr
  obtain ⟨hid, hname⟩ :=
    group_small (linked_ask hl (.insertGroupUser groupid userid .normal)).wf groupid
  intro d hd
  rw [sent_one (by simp) hr d hd]
  have hn : [txt "msgid", txt "groupid", txt "groupname"].Nodup := by decide
  refine deliverable_object (by simp) hn (by simp) fun f hf => ?_
  simp only [List.mem_cons, List.not_mem_nil, or_false] at hf
  rcases hf with rfl | rfl | rfl
  · exact .msgid _
  · exact .int (by decide) (by omega)
  · exact .str (by decide) (by omega)

/-- The id and the name of a rename were formatted into the statement. -/
theorem updateNameAs_deliverable {userid : Int} {newName : Str}
    (hr : (updateNameAs conn userid newName).run i w = some ((), w')) :
    ∀ d ∈ sentIn i w w', Deliverable d.js := by
  unfold updateNameAs at hr
  obtain ⟨ok, w₁, hi, hr⟩ := Prog.run_bind_eq_some.mp hr
  obtain ⟨he, hlen⟩ := run_ask_format (f := fun r => Prog.ret r.isSome) rfl (by exact hi)
  cases he
  have ho : ((w.ask (.updateName userid newName)).2.servers i).outbox =
      (w.servers i).outbox := by rw [World.ask_servers]
  intro d hd
  cases hs : (w.ask (.updateName userid newName)).1.isSome with
  | false =>
    rw [hs] at hr
    rw [sent_one ho hr d hd]
    exact deliverable_error _ (by decide)
  | true =>
    rw [hs] at hr
    rw [sent_one ho hr d hd]
    have htext := hlen hs
    have hname := length_le_escape newName
    simp only [List.length_append] at htext
    have hn : [txt "msgid", txt "id", txt "name"].Nodup := by decide
    refine deliverable_object (by simp) hn (by simp) fun f hf => ?_
    simp only [List.mem_cons, List.not_mem_nil, or_false] at hf
    rcases hf with rfl | rfl | rfl
    · exact .msgid _
    · exact .int (by decide) (by omega)
    · exact .str (by decide) (by omega)

theorem heartbeatOf_deliverable (hr : (heartbeatOf conn).run i w = some ((), w')) :
    ∀ d ∈ sentIn i w w', Deliverable d.js := by
  unfold heartbeatOf at hr
  simp only [Prog.run_bind, run_updateConnTime, Option.bind_some] at hr
  intro d hd
  rw [sent_one (by rw [World.modify_self]) hr d hd]
  have hn : [txt "msgid"].Nodup := by decide
  refine deliverable_object (by simp) hn (by simp) fun f hf => ?_
  rw [List.mem_singleton] at hf
  rw [hf]
  exact .msgid _

/-! ## Packets for friends -/

/-- Friends are told of a user who has a row. -/
theorem notify_deliverable (hl : w.db.Linked) {userid : Int} {state : UserState}
    (hr : (notifyFriendState userid state).run i w = some ((), w')) :
    ∀ d ∈ sentIn i w w', Deliverable d.js := by
  intro d hd
  have hjs : d.js = friendState userid state := by
    obtain ⟨ds, ho, hds⟩ := run_outbox (Q := fun js => js = friendState userid state)
      (notifyFriendState_all userid state) (fun _ _ h => h) (fun _ _ h => h.elim) hr i
    rw [sentIn, ho, List.drop_left] at hd
    exact hds d hd
  rw [hjs]
  by_cases hu : w.db.hasUser userid = true
  · obtain ⟨row, hrow⟩ := Option.isSome_iff_exists.mp hu
    exact deliverable_friendState (length_id_le (hl.wf.user_find hrow).1) state
  · -- nobody is a friend of a user without a row
    have hfriends : User.friends (w.ask (.selectFriends userid)).1 = [] := by
      rcases w.ask_cases (.selectFriends userid) with ⟨ha, -⟩ | ⟨rows, db, he, ha, -⟩
      · rw [ha]
        rfl
      · cases he
        have hrows : w.db.friendRows userid = [] := by
          unfold Database.friendRows
          rw [List.filter_eq_nil_iff.mpr, List.filterMap_nil]
          intro r hrow
          simp only [decide_eq_true_eq]
          rintro rfl
          exact hu (hl.friend r hrow)
        rw [ha, hrows]
        rfl
    unfold notifyFriendState at hr
    simp only [Prog.run_bind, run_friends, hfriends, Option.bind_some] at hr
    cases hr
    rw [sentIn, World.ask_servers, List.drop_length] at hd
    cases hd

theorem sentIn_congr {w₁ : World} (h : (w₁.servers i).outbox = (w.servers i).outbox) :
    sentIn i w w' = sentIn i w₁ w' := by
  rw [sentIn, sentIn, h]

theorem sentIn_modify {f : Server → Server} (hf : (f (w.servers i)).outbox = (w.servers i).outbox) :
    sentIn i (w.modify i f) w' = sentIn i w w' := by
  rw [sentIn, sentIn, World.modify_self, hf]

theorem loginoutAs_deliverable (hl : w.db.Linked) {userid : Int}
    (hr : (loginoutAs conn userid).run i w = some ((), w')) :
    ∀ d ∈ sentIn i w w', Deliverable d.js := by
  unfold loginoutAs at hr
  simp only [Prog.run_bind, run_eraseUser, run_unsubscribe, run_eraseLastTime, run_updateState,
    Option.bind_some] at hr
  refine fun d hd => notify_deliverable (linked_ask (by exact hl) _) hr d ?_
  rw [← sentIn_congr (w := w)]
  · exact hd
  · simp

theorem clientClosed_deliverable (hl : w.db.Linked) {user : User}
    (hr : (clientClosed conn user).run i w = some ((), w')) :
    ∀ d ∈ sentIn i w w', Deliverable d.js := by
  unfold clientClosed at hr
  simp only [Prog.run_bind, run_unsubscribe, run_eraseLastTime, Option.bind_some] at hr
  split at hr
  · simp only [Prog.run_bind, run_updateState, Option.bind_some] at hr
    refine fun d hd => notify_deliverable (linked_ask (by exact hl) _) hr d ?_
    rw [← sentIn_congr (w := w)]
    · exact hd
    · simp
  · cases hr
    intro d hd
    simp [sentIn] at hd

theorem clientCloseException_deliverable (hl : w.db.Linked)
    (hr : (clientCloseException conn).run i w = some ((), w')) :
    ∀ d ∈ sentIn i w w', Deliverable d.js := by
  obtain ⟨r, w₁, he, hr⟩ := close_runs i w hr
  have hdb : w₁.db = w.db := by
    rcases exec_db he with e | ⟨st, ans, e, -⟩
    · exact e
    · cases e
  have ho : (w₁.servers i).outbox = (w.servers i).outbox := by
    obtain ⟨ds, h, hds⟩ := (exec_server he i).outbox
    cases ds with
    | nil => rw [h, List.append_nil]
    | cons d ds =>
      rcases hds d (by simp) with e | ⟨ids, e⟩
      · cases e
      · cases e
  rw [sentIn_congr ho]
  have hl₁ : w₁.db.Linked := by rw [hdb]; exact hl
  exact clientClosed_deliverable hl₁ hr

end Replies

end QtChat
