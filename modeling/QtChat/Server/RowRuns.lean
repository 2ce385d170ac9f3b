import QtChat.Server.Replies

/-!
# Friends and groups in the tables

What `addFriend`, `createGroup` and `addGroup` leave in `Friend`, `AllGroup` and `GroupUser`, by
which of their connections and statements work.

- `Database.Keyed`: what the keys of these tables are for; every statement keeps it.
- `World.Reaches`: a method gets a connection, and its statement is executed; `World.asked`: the
  world whose outcomes are the ones of the next method.
-/

namespace QtChat

open Interleave ChatService

/-! ## Keys -/

/-- The primary and the foreign keys of the friends and groups, and the new ids. -/
structure Database.Keyed (db : Database) : Prop where
  friend : ∀ r ∈ db.friend, db.hasUser r.1 = true ∧ db.hasUser r.2 = true
  nodup : db.friend.Nodup
  member : ∀ r ∈ db.groupUser.rows, (db.allGroup.find r.1.1).isSome = true
  below : ∀ r ∈ db.allGroup.rows, r.1 < db.nextGroup

namespace Database

variable {db db' : Database} {st : Stmt} {r : st.Ans}

theorem keyed_created (collate : Str → Str) : (created collate).Keyed where
  friend := nofun
  nodup := List.nodup_nil
  member := nofun
  below := nofun

/-- The groups and their members are the same, if no statement of theirs is executed. -/
theorem Keyed.groups (hk : db.Keyed) (hfriend : ∀ r ∈ db'.friend, db'.hasUser r.1 = true ∧
    db'.hasUser r.2 = true) (hnodup : db'.friend.Nodup) (hm : db'.groupUser = db.groupUser)
    (hg : db'.allGroup = db.allGroup) (hn : db'.nextGroup = db.nextGroup) : db'.Keyed where
  friend := hfriend
  nodup := hnodup
  member := by rw [hm, hg]; exact hk.member
  below := by rw [hg, hn]; exact hk.below

theorem exec_keyed (hk : db.Keyed) (h : db.exec st = some (r, db')) : db'.Keyed := by
  have huser : ∀ x ∈ db.friend, db'.hasUser x.1 = true ∧ db'.hasUser x.2 = true := fun x hx =>
    ⟨exec_keeps_user (hk.friend x hx).1 h, exec_keeps_user (hk.friend x hx).2 h⟩
  cases st with
  | insertFriend userid friendid =>
    simp only [exec] at h
    cases h
    split
    · rename_i hc
      simp only [Bool.and_eq_true, Bool.not_eq_true', List.contains_eq_mem,
        decide_eq_false_iff_not] at hc
      refine hk.groups (fun x hx => ?_) ?_ rfl rfl rfl
      · rcases List.mem_append.mp hx with hx | hx
        · exact hk.friend x hx
        · rw [List.mem_singleton.mp hx]
          exact hc.1
      · refine List.nodup_append.mpr ⟨hk.nodup, List.nodup_singleton _, ?_⟩
        rintro x hx y hy rfl
        exact hc.2 (List.mem_singleton.mp hy ▸ hx)
    · exact hk
  | insertGroup name desc =>
    simp only [exec] at h
    split at h
    · obtain ⟨t, ht, he⟩ := Option.map_eq_some_iff.mp h
      cases he
      refine ⟨huser, hk.nodup, fun x hx => ?_, fun x hx => ?_⟩
      · dsimp only
        rw [Relational.Table.find_insert ht]
        split
        · rfl
        · exact hk.member x hx
      · rw [rows_insert ht] at hx
        rcases List.mem_append.mp hx with hx | hx
        · have := hk.below x hx
          dsimp only
          omega
        · rw [List.mem_singleton.mp hx]
          exact Int.lt_succ _
    · cases h
  | insertGroupUser groupid userid role =>
    simp only [exec] at h
    split at h
    · rename_i hc
      obtain ⟨t, ht, he⟩ := Option.map_eq_some_iff.mp h
      cases he
      refine ⟨huser, hk.nodup, fun x hx => ?_, hk.below⟩
      rw [rows_insert ht] at hx
      rcases List.mem_append.mp hx with hx | hx
      · exact hk.member x hx
      · rw [List.mem_singleton.mp hx]
        exact (Bool.and_eq_true _ _ ▸ hc).1
    · cases h
  | _ =>
    have hsame : db'.friend = db.friend ∧ db'.groupUser = db.groupUser ∧
        db'.allGroup = db.allGroup ∧ db'.nextGroup = db.nextGroup := by
      simp only [exec] at h
      grind [Option.map_eq_some_iff]
    obtain ⟨hf, hm, hg, hn⟩ := hsame
    exact hk.groups (hf ▸ huser) (hf ▸ hk.nodup) hm hg hn

/-- The friends after an insert that is executed. -/
theorem exec_insertFriend {u f : Int} {ans : Unit}
    (h : db.exec (.insertFriend u f) = some (ans, db')) : db'.user = db.user ∧
      ∀ x, x ∈ db'.friend ↔ x ∈ db.friend ∨
        x = (u, f) ∧ db.hasUser u = true ∧ db.hasUser f = true := by
  simp only [exec] at h
  cases h
  split
  · rename_i hc
    simp only [Bool.and_eq_true] at hc
    refine ⟨rfl, fun x => ?_⟩
    rw [List.mem_append, List.mem_singleton]
    exact or_congr_right ⟨fun e => ⟨e, hc.1⟩, fun e => e.1⟩
  · rename_i hc
    refine ⟨rfl, fun x => ⟨.inl, ?_⟩⟩
    rintro (hx | ⟨rfl, hu, hf⟩)
    · exact hx
    · by_contra hx
      exact hc (by simp [hu, hf, hx])

end Database

theorem reach_keyed {P : JsonParser} {s : Sys} (h : (system P).Reach s) : s.world.db.Keyed :=
  reach_db Database.keyed_created (fun _ _ _ _ hk he => Database.exec_keyed hk he) h

/-! ## Methods -/

namespace World

/-- The next method gets a connection, and its statement is executed. -/
def Reaches (w : World) : Prop := (w.fates 0).ok = true ∧ (w.fates 1).ok = true

instance (w : World) : Decidable w.Reaches := inferInstanceAs (Decidable (_ ∧ _))

/-- The outcomes of the next method are decided. -/
def asked (w : World) : World := if (w.fates 0).ok then w.next.next else w.next

variable {w : World} {st : Stmt}

theorem ask_fates (st : Stmt) (w : World) : (w.ask st).2.fates = w.asked.fates := by
  unfold ask asked
  split
  · split
    · split <;> rfl
    · rfl
  · rfl

theorem reaches_congr {w' : World} (h : w'.fates = w.fates) : w'.Reaches ↔ w.Reaches := by
  unfold Reaches
  rw [h]

theorem asked_congr {w' : World} (h : w'.fates = w.fates) : w'.asked.fates = w.asked.fates := by
  unfold asked
  rw [h]
  split
  · exact funext fun n => congrFun h (n + 2)
  · exact funext fun n => congrFun h (n + 1)

/-- A method whose connection and statement work. -/
theorem ask_reaches (h : w.Reaches) {r : st.Ans} {db : Database} (he : w.db.exec st = some (r, db)) :
    (w.ask st).1 = some r ∧ (w.ask st).2.db = db := by
  rw [ask, if_pos h.1, if_pos h.2, he]
  exact ⟨rfl, rfl⟩

theorem ask_refused (he : w.db.exec st = none) : (w.ask st).1 = none ∧ (w.ask st).2.db = w.db := by
  rcases w.ask_cases st with h | ⟨r, db, h, -⟩
  · exact h
  · rw [he] at h
    cases h

/-- A method whose connection or statement fails. -/
theorem ask_fails (h : ¬ w.Reaches) : (w.ask st).1 = none ∧ (w.ask st).2.db = w.db := by
  unfold ask
  split
  · rename_i h0
    split
    · rename_i h1
      exact absurd ⟨h0, h1⟩ h
    · exact ⟨rfl, rfl⟩
  · exact ⟨rfl, rfl⟩

/-- The lookup of a user, when it is answered. -/
theorem lookedUp_reaches (h : w.Reaches) (id : Int) :
    w.lookedUp id = User.found id (some (w.db.user.find id)) := by
  have hask : (w.ask (.selectUser id)).1 = some (w.db.user.find id) := (ask_reaches h rfl).1
  rw [lookedUp, hask]

theorem lookedUp_fails (h : ¬ w.Reaches) (id : Int) : w.lookedUp id = {} := by
  rw [lookedUp, (ask_fails h).1]
  rfl

/-- The friends after an insert. -/
theorem ask_insertFriend (w : World) (u f : Int) :
    (w.ask (.insertFriend u f)).2.db.user = w.db.user ∧
      ∀ x, x ∈ (w.ask (.insertFriend u f)).2.db.friend ↔ x ∈ w.db.friend ∨
        x = (u, f) ∧ w.Reaches ∧ w.db.hasUser u = true ∧ w.db.hasUser f = true := by
  by_cases h : w.Reaches
  · rw [(ask_reaches h rfl).2]
    have hexec : w.db.exec (.insertFriend u f) = some ((), _) := rfl
    obtain ⟨huser, hm⟩ := Database.exec_insertFriend hexec
    refine ⟨huser, fun x => (hm x).trans (or_congr_right (and_congr_right fun _ => ?_))⟩
    rw [and_iff_right h]
  · rw [(ask_fails h).2]
    refine ⟨rfl, fun x => ⟨.inl, ?_⟩⟩
    rintro (hx | ⟨-, hr, -⟩)
    · exact hx
    · exact absurd hr h

end World

section Runs

variable {i : ServerId} {w w' : World} {conn : ConnId}

/-- The response of `addFriend`. -/
def friendAdded (friendUser : User) : Json :=
  .object [EnMsgType.addFriendMsg.field, ("id", .int friendUser.id),
    ("name", .str friendUser.name), ("state", .str friendUser.state.text)]

/-- What `addFriend` leaves. -/
structure FriendRows (i : ServerId) (conn : ConnId) (u f : Int) (w w' : World) : Prop where
  friend : ∀ x, x ∈ w'.db.friend ↔ x ∈ w.db.friend ∨ (w.db.hasUser u = true ∧ w.db.hasUser f = true) ∧
    (x = (u, f) ∧ w.Reaches ∨ x = (f, u) ∧ w.asked.Reaches)
  user : w'.db.user = w.db.user
  groups : w'.db.allGroup = w.db.allGroup ∧ w'.db.groupUser = w.db.groupUser ∧
    w'.db.nextGroup = w.db.nextGroup
  sent : sentIn i w w' = [⟨conn, friendAdded (if w.asked.asked.Reaches then
    User.found f (some (w.db.user.find f)) else {}), (w.servers i).conns conn = .connected⟩]

/-- An insert of a friend has to do with no group. -/
theorem ask_friend_groups (w : World) (u f : Int) :
    (w.ask (.insertFriend u f)).2.db.allGroup = w.db.allGroup ∧
      (w.ask (.insertFriend u f)).2.db.groupUser = w.db.groupUser ∧
        (w.ask (.insertFriend u f)).2.db.nextGroup = w.db.nextGroup := by
  by_cases h : w.Reaches
  · rw [(World.ask_reaches h rfl).2]
    split <;> exact ⟨rfl, rfl, rfl⟩
  · rw [(World.ask_fails h).2]
    exact ⟨rfl, rfl, rfl⟩

/-- The user that a method looks up. -/
theorem ask_selectUser (w : World) (id : Int) : (w.ask (.selectUser id)).1 =
    if w.Reaches then some (w.db.user.find id) else none := by
  split
  · rename_i h
    exact (World.ask_reaches h rfl).1
  · rename_i h
    exact (World.ask_fails h).1

/-- The packets of a run that sends one at its end. -/
theorem sentIn_one {w₁ : World} {js : Json} (hs : w₁.servers = w.servers) :
    sentIn i w (w₁.modify i (·.deliver conn js)) =
      [⟨conn, js, (w.servers i).conns conn = .connected⟩] := by
  rw [sentIn, World.modify_self, Server.deliver, hs, List.drop_left]

theorem addFriend_rows {u f : Int} (hr : (addFriendAs conn u f).run i w = some ((), w')) :
    FriendRows i conn u f w w' := by
  unfold addFriendAs at hr
  simp only [Prog.run_bind, run_insertFriend, run_query, Option.bind_some, run_sendJson] at hr
  cases hr
  have hf₁ := World.ask_fates (.insertFriend u f) w
  have hf₂ := World.ask_fates (.insertFriend f u) (w.ask (.insertFriend u f)).2
  obtain ⟨hu₁, hm₁⟩ := World.ask_insertFriend w u f
  obtain ⟨hu₂, hm₂⟩ := World.ask_insertFriend (w.ask (.insertFriend u f)).2 f u
  obtain ⟨hg₁, hg₁', hg₁''⟩ := ask_friend_groups w u f
  obtain ⟨hg₂, hg₂', hg₂''⟩ := ask_friend_groups (w.ask (.insertFriend u f)).2 f u
  have hread : ∀ db : Database, ∃ r, db.exec (.selectUser f) = some (r, db) := fun _ => ⟨_, rfl⟩
  have hdb := World.ask_db hread ((w.ask (.insertFriend u f)).2.ask (.insertFriend f u)).2
  have huser : ∀ id, (w.ask (.insertFriend u f)).2.db.hasUser id = w.db.hasUser id := fun id => by
    rw [Database.hasUser, hu₁, Database.hasUser]
  have hasked := World.reaches_congr (hf₂.trans (World.asked_congr hf₁))
  refine ⟨fun x => ?_, ?_, ⟨?_, ?_, ?_⟩, ?_⟩
  · rw [World.modify_db, hdb, hm₂, hm₁, World.reaches_congr hf₁, huser, huser]
    grind
  · rw [World.modify_db, hdb, hu₂, hu₁]
  · rw [World.modify_db, hdb, hg₂, hg₁]
  · rw [World.modify_db, hdb, hg₂', hg₁']
  · rw [World.modify_db, hdb, hg₂'', hg₁'']
  · rw [sentIn_one (by simp), ask_selectUser, hu₂, hu₁]
    simp only [hasked]
    split <;> rfl

/-! ## Groups -/

/-- A member can be entered: the group and the user are there, and the pair is new. -/
def Database.CanJoin (db : Database) (g u : Int) : Prop :=
  (db.allGroup.find g).isSome = true ∧ db.hasUser u = true ∧ db.groupUser.find (g, u) = none

instance (db : Database) (g u : Int) : Decidable (db.CanJoin g u) :=
  inferInstanceAs (Decidable (_ ∧ _))

/-- A group of this name can be entered. -/
def Database.CanCreate (db : Database) (name desc : Str) : Prop :=
  fitsVarchar 50 name = true ∧ fitsVarchar 200 desc = true ∧ db.nextGroup ≤ maxInt

instance (db : Database) (name desc : Str) : Decidable (db.CanCreate name desc) :=
  inferInstanceAs (Decidable (_ ∧ _))

/-- The tables of users and groups after an insert of a member. -/
structure MemberRows (g u : Int) (role : Role) (w w' : World) : Prop where
  member : ∀ k, w'.db.groupUser.find k =
    if k = (g, u) ∧ w.Reaches ∧ w.db.CanJoin g u then some role else w.db.groupUser.find k
  user : w'.db.user = w.db.user
  friend : w'.db.friend = w.db.friend
  groups : w'.db.allGroup = w.db.allGroup ∧ w'.db.nextGroup = w.db.nextGroup

theorem ask_insertGroupUser (w : World) (g u : Int) (role : Role) :
    MemberRows g u role w (w.ask (.insertGroupUser g u role)).2 := by
  by_cases h : w.Reaches ∧ w.db.CanJoin g u
  · obtain ⟨h, hg, hu, hn⟩ := h
    cases ht : w.db.groupUser.insert (g, u) role with
    | none =>
      rw [Relational.Table.insert_eq_none, hn] at ht
      cases ht
    | some t =>
      have he : w.db.exec (.insertGroupUser g u role) = some ((), { w.db with groupUser := t }) := by
        simp only [Database.exec, hg, hu, ht]
        rfl
      have hdb := (World.ask_reaches h he).2
      refine ⟨fun k => ?_, by rw [hdb], by rw [hdb], by rw [hdb], by rw [hdb]⟩
      rw [hdb, Relational.Table.find_insert ht]
      exact if_congr ⟨fun e => ⟨e, h, hg, hu, hn⟩, And.left⟩ rfl rfl
  · have hsame : (w.ask (.insertGroupUser g u role)).2.db = w.db := by
      by_cases hr : w.Reaches
      · refine (World.ask_refused ?_).2
        simp only [Database.exec]
        split
        · rename_i hc
          rw [Bool.and_eq_true] at hc
          rw [Option.map_eq_none_iff, Relational.Table.insert_eq_none, Option.isSome_iff_ne_none]
          exact fun hn => h ⟨hr, hc.1, hc.2, hn⟩
        · rfl
      · exact (World.ask_fails hr).2
    refine ⟨fun k => ?_, by rw [hsame], by rw [hsame], by rw [hsame], by rw [hsame]⟩
    rw [hsame, if_neg fun e => h e.2]

/-- The response of `createGroup`. -/
def groupCreated (groupid : Int) (name desc : Str) : Json :=
  .object [EnMsgType.createGroupMsg.field, ("groupid", .int groupid), ("groupname", .str name),
    ("groupdesc", .str desc)]

/-- What `createGroup` leaves when it makes a group. -/
structure GroupMade (i : ServerId) (conn : ConnId) (u : Int) (name desc : Str) (w w' : World) :
    Prop where
  group : ∀ k, w'.db.allGroup.find k =
    if k = w.db.nextGroup then some ⟨name, desc⟩ else w.db.allGroup.find k
  member : ∀ k, w'.db.groupUser.find k =
    if k = (w.db.nextGroup, u) ∧ w.asked.Reaches ∧ w.db.hasUser u = true then some .creator
    else w.db.groupUser.find k
  user : w'.db.user = w.db.user
  friend : w'.db.friend = w.db.friend
  sent : sentIn i w w' =
    [⟨conn, groupCreated w.db.nextGroup name desc, (w.servers i).conns conn = .connected⟩]

/-- A group whose columns fit gets the next id. -/
theorem insertGroup_makes {db : Database} (hk : db.Keyed) {name desc : Str}
    (hc : db.CanCreate name desc) : ∃ t, db.allGroup.insert db.nextGroup ⟨name, desc⟩ = some t ∧
      db.exec (.insertGroup name desc) =
        some (db.nextGroup, { db with allGroup := t, nextGroup := db.nextGroup + 1 }) := by
  cases ht : db.allGroup.insert db.nextGroup ⟨name, desc⟩ with
  | none =>
    obtain ⟨row, hrow⟩ := Option.isSome_iff_exists.mp (Relational.Table.insert_eq_none.mp ht)
    exact absurd (hk.below _ (Relational.Table.find_eq_some.mp hrow)) (lt_irrefl _)
  | some t =>
    refine ⟨t, rfl, ?_⟩
    simp only [Database.exec, hc.1, hc.2.1, hc.2.2, ht]
    rfl

theorem insertGroup_refused {db : Database} {name desc : Str} (hc : ¬ db.CanCreate name desc) :
    db.exec (.insertGroup name desc) = none := by
  simp only [Database.exec]
  refine if_neg fun h => hc ?_
  simp only [Bool.and_eq_true, decide_eq_true_eq] at h
  exact ⟨h.1.1, h.1.2, h.2⟩

/-- Nobody is in a group that has no row. -/
theorem notMember_new {db : Database} (hk : db.Keyed) (u : Int) :
    db.groupUser.find (db.nextGroup, u) = none := by
  rw [Relational.Table.find_eq_none]
  rintro r hr he
  obtain ⟨row, hrow⟩ := Option.isSome_iff_exists.mp (hk.member r hr)
  rw [he] at hrow
  exact absurd (hk.below _ (Relational.Table.find_eq_some.mp hrow)) (lt_irrefl _)

theorem createGroup_rows (hk : w.db.Keyed) {u : Int} {name desc : Str}
    (hr : (createGroupAs conn u name desc).run i w = some ((), w')) :
    (w.Reaches ∧ w.db.CanCreate name desc → GroupMade i conn u name desc w w') ∧
      (¬(w.Reaches ∧ w.db.CanCreate name desc) → w'.db = w.db ∧ sentIn i w w' = []) := by
  unfold createGroupAs at hr
  obtain ⟨r, w₁, hi, hr⟩ := Prog.run_bind_eq_some.mp hr
  obtain ⟨he, -⟩ := run_ask_format (f := Prog.ret) rfl (by exact hi)
  cases he
  constructor
  · rintro ⟨h, hc⟩
    obtain ⟨t, ht, he⟩ := insertGroup_makes hk hc
    obtain ⟨ha, hdb⟩ := World.ask_reaches h he
    rw [ha] at hr
    simp only [Prog.run_bind, run_addGroup, Option.bind_some, run_sendJson] at hr
    cases hr
    have hrows := ask_insertGroupUser (w.ask (.insertGroup name desc)).2 w.db.nextGroup u .creator
    have hasked := World.reaches_congr (World.ask_fates (.insertGroup name desc) w)
    have hjoin : (w.ask (.insertGroup name desc)).2.db.CanJoin w.db.nextGroup u ↔
        w.db.hasUser u = true := by
      rw [hdb]
      have hnew := Relational.Table.find_insert ht w.db.nextGroup
      rw [if_pos rfl] at hnew
      exact ⟨fun hj => hj.2.1, fun hu => ⟨by dsimp only; rw [hnew]; rfl, hu, notMember_new hk u⟩⟩
    refine ⟨fun k => ?_, fun k => ?_, ?_, ?_, ?_⟩
    · rw [World.modify_db, hrows.groups.1, hdb, Relational.Table.find_insert ht]
    · rw [World.modify_db, hrows.member, hdb]
      exact if_congr (and_congr_right fun _ => and_congr hasked (hdb ▸ hjoin)) rfl rfl
    · rw [World.modify_db, hrows.user, hdb]
    · rw [World.modify_db, hrows.friend, hdb]
    · rw [sentIn_one (by simp)]
      rfl
  · intro h
    have hnone : (w.ask (.insertGroup name desc)).1 = none ∧
        (w.ask (.insertGroup name desc)).2.db = w.db := by
      by_cases hr : w.Reaches
      · exact World.ask_refused (insertGroup_refused fun hc => h ⟨hr, hc⟩)
      · exact World.ask_fails hr
    rw [hnone.1] at hr
    cases hr
    rw [sentIn, World.ask_servers, List.drop_length]
    exact ⟨hnone.2, rfl⟩

/-- The response of `addGroup`. -/
def groupJoined (group : Group) : Json :=
  .object [EnMsgType.addGroupMsg.field, ("groupid", .int group.id), ("groupname", .str group.name)]

/-- What `addGroup` leaves. -/
structure GroupAdded (i : ServerId) (conn : ConnId) (u g : Int) (w w' : World) : Prop where
  rows : MemberRows g u .normal w w'
  sent : sentIn i w w' = [⟨conn, groupJoined (if w.asked.Reaches then
    Group.found g (some (w.db.allGroup.find g)) else {}), (w.servers i).conns conn = .connected⟩]

theorem ask_selectGroup (w : World) (id : Int) : (w.ask (.selectGroup id)).1 =
    if w.Reaches then some (w.db.allGroup.find id) else none := by
  split
  · rename_i h
    exact (World.ask_reaches h rfl).1
  · rename_i h
    exact (World.ask_fails h).1

theorem addGroup_rows {u g : Int} (hr : (addGroupAs conn u g).run i w = some ((), w')) :
    GroupAdded i conn u g w w' := by
  unfold addGroupAs at hr
  simp only [Prog.run_bind, run_addGroup, run_queryGroup, Option.bind_some, run_sendJson] at hr
  cases hr
  have hrows := ask_insertGroupUser w g u .normal
  have hread : ∀ db : Database, ∃ r, db.exec (.selectGroup g) = some (r, db) := fun _ => ⟨_, rfl⟩
  have hdb := World.ask_db hread (w.ask (.insertGroupUser g u .normal)).2
  have hasked := World.reaches_congr (World.ask_fates (.insertGroupUser g u .normal) w)
  refine ⟨⟨fun k => ?_, ?_, ?_, ?_, ?_⟩, ?_⟩
  · rw [World.modify_db, hdb, hrows.member]
  · rw [World.modify_db, hdb, hrows.user]
  · rw [World.modify_db, hdb, hrows.friend]
  · rw [World.modify_db, hdb, hrows.groups.1]
  · rw [World.modify_db, hdb, hrows.groups.2]
  · rw [sentIn_one (by simp), ask_selectGroup, hrows.groups.1]
    simp only [hasked]
    split <;> rfl

end Runs

end QtChat
