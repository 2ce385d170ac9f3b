import QtChat.Client.Connection
import QtChat.Interleave.Machine
import QtChat.Server.RowRuns

/-!
# The lists of the main window

The ids below the roots `Friends` and `Groups` of the client's tree, against what the login queries
give for the user. The tree is loaded once; after that every response to `ADD_FRIEND_MSG`,
`CREATE_GROUP_MSG` and `ADD_GROUP_MSG` adds an item, whatever became of the insert.

- `Listed.step`: one request of the user, handled by the server, and its responses in the window.
- `Listed.Matches`: each id of the queries is in the tree, once, and no other.
- `ListRequest.Kept`: the requests that keep this so.
-/

namespace QtChat

open Interleave ChatService

/-! ## Requests and their responses -/

inductive ListRequest where
  | addFriend (friendid : Int)
  | createGroup (name desc : Str)
  | addGroup (groupid : Int)

/-- What `ChatClient` sends for the user. -/
def ListRequest.json (m_myId : Int) : ListRequest → Json
  | addFriend friendid => ChatClient.addFriend m_myId friendid
  | createGroup name desc => ChatClient.createGroup m_myId name desc
  | addGroup groupid => ChatClient.addGroup m_myId groupid

/-- The system, and the main window of one user. -/
structure Listed where
  world : World
  window : MainWindow

/-- `handleMessage`, for what goes to the main window. -/
def MainWindow.handleMessage (w : MainWindow) (js : Json) : MainWindow :=
  (Signal.ofMessage js).elim w w.hear

namespace Listed

/-- Server `i` handles the request, and the window hears all that it sends on the connection. -/
def step (i : ServerId) (conn : ConnId) (u : Int) (r : ListRequest) (s : Listed) : Option Listed :=
  ((do updateConnTime conn; Request.run (dispatch conn (r.json u)) : Serv Unit).run i s.world).map
    fun x => ⟨x.2, ((sentIn i s.world x.2).filter fun d => d.conn = conn).foldl
      (fun window d => window.handleMessage d.js) s.window⟩

/-- The ids below `Friends`. -/
def friendIds (s : Listed) : List Int := s.window.m_friendTree.friends.map (·.id)

/-- The ids below `Groups`. -/
def groupIds (s : Listed) : List Int := s.window.m_friendTree.groups.map (·.id)

end Listed

/-- The requests of user `u` on a connection, one after the other. -/
def listMachine (i : ServerId) (conn : ConnId) (u : Int) : Machine where
  State := Listed
  Label := ListRequest
  init _ := True
  step := Listed.step i conn u

/-- The ids that `FriendModel::query` gives. -/
def Database.friendIds (db : Database) (u : Int) : List Int :=
  (User.friends (some (db.friendRows u))).map (·.id)

/-- The ids that `GroupModel::queryGroups` gives. -/
def Database.groupIds (db : Database) (u : Int) : List Int := (db.groupsOf u).map (·.id)

/-- The ids that are shown are the stored ones, each once. -/
def SameIds (shown stored : List Int) : Prop := shown.Nodup ∧ ∀ id, id ∈ shown ↔ id ∈ stored

def Listed.Matches (u : Int) (s : Listed) : Prop :=
  SameIds s.friendIds (s.world.db.friendIds u) ∧ SameIds s.groupIds (s.world.db.groupIds u)

/-- The request and its response agree: the friend is there and new, and is stored and read; a group
that is made gets its creator; the group that is joined is there and new, and is stored and read. -/
def ListRequest.Kept (u : Int) : ListRequest → Listed → Prop
  | addFriend friendid, s =>
    s.world.db.hasUser (toInt32 friendid) = true ∧ (u, toInt32 friendid) ∉ s.world.db.friend ∧
      (s.world.Reaches ∨ toInt32 friendid = u ∧ s.world.asked.Reaches) ∧
        s.world.asked.asked.Reaches
  | createGroup name desc, s =>
    s.world.Reaches → s.world.db.CanCreate name desc → s.world.asked.Reaches
  | addGroup groupid, s =>
    s.world.db.CanJoin (toInt32 groupid) u ∧ s.world.Reaches ∧ s.world.asked.Reaches

/-- The main window after a login whose queries gave what the tables have for the user. -/
def loginWindow (fromJson : Str → Option Json) (db : Database) (u : Int) (user : User)
    (vec : List Str) : MainWindow :=
  .new fromJson ((Signal.ofMessage (loginResponse user vec (User.friends (some (db.friendRows u)))
    (db.groupsOf u))).elim .new Dialog.new.hear)

/-- `QJsonDocument::fromJson` reads the objects that the server dumps for the lists of the user. -/
structure ReadsLists (fromJson : Str → Option Json) (db : Database) (u : Int) : Prop where
  friends : ∀ user ∈ User.friends (some (db.friendRows u)),
    fromJson (friendJson user).dump = some (friendJson user)
  groups : ∀ group ∈ db.groupsOf u, fromJson (groupJson group).dump = some (groupJson group)

/-! ## The ids in the tables -/

namespace Database

variable {db : Database} {u : Int}

theorem friendIds_eq (hk : db.Keyed) :
    db.friendIds u = (db.friend.filter fun r => r.1 = u).map Prod.snd := by
  unfold friendIds User.friends friendRows
  rw [List.map_map, List.map_filterMap]
  refine (List.filterMap_congr fun r hr => ?_).trans (congrFun List.filterMap_eq_map _)
  obtain ⟨row, hrow⟩ := Option.isSome_iff_exists.mp (hk.friend r (List.mem_of_mem_filter hr)).2
  rw [hrow]
  rfl

theorem mem_friendIds (hk : db.Keyed) {id : Int} : id ∈ db.friendIds u ↔ (u, id) ∈ db.friend := by
  rw [friendIds_eq hk, List.mem_map]
  constructor
  · rintro ⟨⟨a, b⟩, hr, rfl⟩
    obtain ⟨hmem, ha⟩ := List.mem_filter.mp hr
    obtain rfl : a = u := of_decide_eq_true ha
    exact hmem
  · intro h
    exact ⟨(u, id), List.mem_filter.mpr ⟨h, decide_eq_true rfl⟩, rfl⟩

theorem nodup_friendIds (hk : db.Keyed) : (db.friendIds u).Nodup := by
  rw [friendIds_eq hk]
  refine (hk.nodup.filter _).map_on fun x hx y hy hxy => ?_
  have hx := of_decide_eq_true (List.mem_filter.mp hx).2
  have hy := of_decide_eq_true (List.mem_filter.mp hy).2
  exact Prod.ext (hx.trans hy.symm) hxy

theorem groupIds_eq (hk : db.Keyed) :
    db.groupIds u = (db.groupUser.rows.filter fun r => r.1.2 = u).map (·.1.1) := by
  unfold groupIds groupsOf groupRows
  rw [List.map_map, List.map_filterMap]
  refine (List.filterMap_congr fun r hr => ?_).trans (congrFun List.filterMap_eq_map _)
  obtain ⟨row, hrow⟩ := Option.isSome_iff_exists.mp (hk.member r (List.mem_of_mem_filter hr))
  rw [hrow]
  rfl

theorem mem_groupIds (hk : db.Keyed) {id : Int} :
    id ∈ db.groupIds u ↔ (db.groupUser.find (id, u)).isSome = true := by
  rw [groupIds_eq hk, List.mem_map, Option.isSome_iff_exists]
  constructor
  · rintro ⟨⟨⟨g, a⟩, role⟩, hr, rfl⟩
    obtain ⟨hmem, ha⟩ := List.mem_filter.mp hr
    obtain rfl : a = u := of_decide_eq_true ha
    exact ⟨role, Relational.Table.find_eq_some.mpr hmem⟩
  · rintro ⟨role, h⟩
    exact ⟨((id, u), role), List.mem_filter.mpr
      ⟨Relational.Table.find_eq_some.mp h, decide_eq_true rfl⟩, rfl⟩

theorem nodup_groupIds (hk : db.Keyed) : (db.groupIds u).Nodup := by
  rw [groupIds_eq hk]
  have hkeys := db.groupUser.keys_nodup
  refine ((hkeys.of_map _).filter _).map_on fun x hx y hy hxy => ?_
  obtain ⟨hx, hxu⟩ := List.mem_filter.mp hx
  obtain ⟨hy, hyu⟩ := List.mem_filter.mp hy
  have he : x.1 = y.1 := Prod.ext hxy ((of_decide_eq_true hxu).trans (of_decide_eq_true hyu).symm)
  exact List.inj_on_of_nodup_map hkeys hx hy he

end Database

theorem dispatch_addFriend (conn : ConnId) (u f : Int) :
    dispatch conn (ChatClient.addFriend u f) = .ok (addFriendAs conn (toInt32 u) (toInt32 f)) := rfl

theorem dispatch_createGroup (conn : ConnId) (u : Int) (name desc : Str) :
    dispatch conn (ChatClient.createGroup u name desc) =
      .ok (createGroupAs conn (toInt32 u) name desc) := rfl

theorem dispatch_addGroup (conn : ConnId) (u g : Int) :
    dispatch conn (ChatClient.addGroup u g) = .ok (addGroupAs conn (toInt32 u) (toInt32 g)) := rfl

/-! ## The responses in the window -/

section Window

variable (w : MainWindow)

theorem handle_friendAdded {user : User} (h : fitsInt user.id = true) :
    (w.handleMessage (friendAdded user)).m_friendTree =
      w.m_friendTree.onFriendAdded user.id user.name user.state.text := by
  have hsig : Signal.ofMessage (friendAdded user) =
      some (.friendAdded (Json.int user.id).qtInt user.name user.state.text) := rfl
  rw [MainWindow.handleMessage, hsig, Json.qtInt, if_pos h]
  rfl

theorem handle_groupCreated {groupid : Int} (name desc : Str) (h : fitsInt groupid = true) :
    (w.handleMessage (groupCreated groupid name desc)).m_friendTree =
      w.m_friendTree.onGroupCreated groupid name := by
  have hsig : Signal.ofMessage (groupCreated groupid name desc) =
      some (.groupCreated (Json.int groupid).qtInt name) := rfl
  rw [MainWindow.handleMessage, hsig, Json.qtInt, if_pos h]
  rfl

theorem handle_groupJoined {group : Group} (h : fitsInt group.id = true) :
    (w.handleMessage (groupJoined group)).m_friendTree =
      w.m_friendTree.onGroupCreated group.id group.name := by
  have hsig : Signal.ofMessage (groupJoined group) =
      some (.groupJoined (Json.int group.id).qtInt group.name) := rfl
  rw [MainWindow.handleMessage, hsig, Json.qtInt, if_pos h]
  rfl

end Window

theorem fitsInt_id {id : Int} (h : 1 ≤ id ∧ id ≤ maxInt) : fitsInt id = true := by
  unfold maxInt at h
  simp only [fitsInt, Bool.and_eq_true, decide_eq_true_eq]
  omega

theorem toInt32_id {id : Int} (h : 1 ≤ id ∧ id ≤ maxInt) : toInt32 id = id := by
  unfold maxInt at h
  exact Int.bmod_eq_of_le (by omega) (by omega)

/-! ## One item more -/

/-- An item is added to the tree. -/
theorem sameIds_concat {shown stored stored' : List Int} {x : Int} (h : SameIds shown stored) :
    SameIds (shown ++ [x]) stored' ↔ x ∉ stored ∧ ∀ id, id ∈ stored' ↔ id ∈ stored ∨ id = x := by
  obtain ⟨hnodup, hmem⟩ := h
  unfold SameIds
  rw [List.nodup_append]
  simp only [List.mem_append, List.mem_singleton, hmem]
  constructor
  · rintro ⟨⟨-, -, hnew⟩, hall⟩
    exact ⟨fun hin => hnew x hin x rfl rfl, fun id => (hall id).symm⟩
  · rintro ⟨hnew, hall⟩
    refine ⟨⟨hnodup, List.nodup_singleton x, ?_⟩, fun id => (hall id).symm⟩
    rintro a ha b rfl rfl
    exact hnew ha

theorem sameIds_congr {shown stored stored' : List Int} (h : ∀ id, id ∈ stored' ↔ id ∈ stored) :
    SameIds shown stored' ↔ SameIds shown stored := by
  unfold SameIds
  simp only [h]

/-! ## One request -/

/-- The tables are as they should be, the user is there, and the lists agree. -/
structure Listed.Good (u : Int) (s : Listed) : Prop where
  keyed : s.world.db.Keyed
  wf : s.world.db.Wf
  user : s.world.db.hasUser u = true
  matched : s.Matches u

section Request

variable {i : ServerId} {conn : ConnId} {u : Int} {s s' : Listed}

/-- What the tables are, a run leaves. -/
theorem run_tables {p : Serv Unit} {w w' : World} {x : Unit} (hr : p.run i w = some (x, w'))
    (hk : w.db.Keyed) (hwf : w.db.Wf) (hu : w.db.hasUser u = true) :
    w'.db.Keyed ∧ w'.db.Wf ∧ w'.db.hasUser u = true := by
  refine Prog.run_keep (L := chat) (I := fun w : World => w.db.Keyed ∧ w.db.Wf ∧
    w.db.hasUser u = true) ?_ ⟨hk, hwf, hu⟩ hr
  rintro a w r w' ⟨hk, hwf, hu⟩ he
  rcases exec_db he with e | ⟨st, ans, rfl, hx⟩
  · rw [e]
    exact ⟨hk, hwf, hu⟩
  · exact ⟨Database.exec_keyed hk hx, Database.exec_wf hwf hx, Database.exec_keeps_user hu hx⟩

/-- A step: the run of the handler, and what the window makes of the packets. -/
theorem listed_step {r : ListRequest} {p : Serv Unit} (hd : dispatch conn (r.json u) = .ok p)
    (hs : s.step i conn u r = some s') :
    p.run i (s.world.noted i conn) = some ((), s'.world) ∧
      s'.window = ((sentIn i (s.world.noted i conn) s'.world).filter fun d => d.conn = conn).foldl
        (fun window d => window.handleMessage d.js) s.window := by
  obtain ⟨⟨⟨⟩, w'⟩, hr, rfl⟩ := Option.map_eq_some_iff.mp hs
  rw [hd] at hr
  refine ⟨hr, ?_⟩
  have hsent : sentIn i (s.world.noted i conn) w' = sentIn i s.world w' := sentIn_modify rfl
  rw [hsent]

/-- The window after the one response of a request. -/
theorem window_one {w w' : World} {window : MainWindow} {js : Json} {accepted : Bool}
    (h : sentIn i w w' = [⟨conn, js, accepted⟩]) :
    ((sentIn i w w').filter fun d => d.conn = conn).foldl
      (fun window d => window.handleMessage d.js) window = window.handleMessage js := by
  simp [h]

/-- The tree gets a friend. -/
theorem matches_friend {w w' : World} {m m' : MainWindow} {x : Int} {name state : Str}
    (hm : (⟨w, m⟩ : Listed).Matches u)
    (ht : m'.m_friendTree = m.m_friendTree.onFriendAdded x name state)
    (hgroups : ∀ id, id ∈ w'.db.groupIds u ↔ id ∈ w.db.groupIds u) :
    (⟨w', m'⟩ : Listed).Matches u ↔ x ∉ w.db.friendIds u ∧
      ∀ id, id ∈ w'.db.friendIds u ↔ id ∈ w.db.friendIds u ∨ id = x := by
  have hfriendIds : (⟨w', m'⟩ : Listed).friendIds = (⟨w, m⟩ : Listed).friendIds ++ [x] := by
    unfold Listed.friendIds
    dsimp only
    rw [ht, FriendTree.onFriendAdded, List.map_append]
    rfl
  have hgroupIds : (⟨w', m'⟩ : Listed).groupIds = (⟨w, m⟩ : Listed).groupIds := by
    unfold Listed.groupIds
    dsimp only
    rw [ht]
    rfl
  unfold Listed.Matches
  rw [hfriendIds, hgroupIds, sameIds_congr hgroups, sameIds_concat hm.1]
  exact and_iff_left hm.2

/-- The tree gets a group. -/
theorem matches_group {w w' : World} {m m' : MainWindow} {x : Int} {name : Str}
    (hm : (⟨w, m⟩ : Listed).Matches u)
    (ht : m'.m_friendTree = m.m_friendTree.onGroupCreated x name)
    (hfriends : ∀ id, id ∈ w'.db.friendIds u ↔ id ∈ w.db.friendIds u) :
    (⟨w', m'⟩ : Listed).Matches u ↔ x ∉ w.db.groupIds u ∧
      ∀ id, id ∈ w'.db.groupIds u ↔ id ∈ w.db.groupIds u ∨ id = x := by
  have hgroupIds : (⟨w', m'⟩ : Listed).groupIds = (⟨w, m⟩ : Listed).groupIds ++ [x] := by
    unfold Listed.groupIds
    dsimp only
    rw [ht, FriendTree.onGroupCreated, List.map_append]
    rfl
  have hfriendIds : (⟨w', m'⟩ : Listed).friendIds = (⟨w, m⟩ : Listed).friendIds := by
    unfold Listed.friendIds
    dsimp only
    rw [ht]
    rfl
  unfold Listed.Matches
  rw [hfriendIds, hgroupIds, sameIds_congr hfriends, sameIds_concat hm.2]
  exact and_iff_right hm.1

/-- A friend is a user, and has a user's id. -/
theorem friend_range {db : Database} (hk : db.Keyed) (hwf : db.Wf) {id : Int}
    (h : id ∈ db.friendIds u) : 1 ≤ id ∧ id ≤ maxInt := by
  obtain ⟨row, hrow⟩ := Option.isSome_iff_exists.mp (hk.friend _ ((Database.mem_friendIds hk).mp h)).2
  exact (hwf.user_find hrow).1

theorem group_range {db : Database} (hk : db.Keyed) (hwf : db.Wf) {id : Int}
    (h : id ∈ db.groupIds u) : 1 ≤ id ∧ id ≤ maxInt := by
  obtain ⟨role, hrole⟩ := Option.isSome_iff_exists.mp ((Database.mem_groupIds hk).mp h)
  obtain ⟨row, hrow⟩ := Option.isSome_iff_exists.mp
    (hk.member _ (Relational.Table.find_eq_some.mp hrole))
  exact (hwf.group_find hrow).1

/-- The id in a response: that of the row, if it is there and was read. -/
theorem read_id {α ρ : Type} (idOf : α → Int) (found : Option ρ → α) (default : α)
    {row : Option ρ} {id : Int} (hsome : ∀ r, idOf (found (some r)) = id) (hnone : found none = default)
    (hdefault : idOf default = -1) (hrow : row.isSome = true → 1 ≤ id ∧ id ≤ maxInt) (ok : Prop)
    [Decidable ok] : fitsInt (idOf (if ok then found row else default)) = true ∧
      idOf (if ok then found row else default) = if ok ∧ row.isSome = true then id else -1 := by
  by_cases hok : ok
  · cases row with
    | none =>
      rw [if_pos hok, hnone, hdefault, if_neg fun h => by cases h.2]
      exact ⟨by decide, rfl⟩
    | some r =>
      rw [if_pos hok, hsome, if_pos ⟨hok, rfl⟩]
      exact ⟨fitsInt_id (hrow rfl), rfl⟩
  · rw [if_neg hok, hdefault, if_neg fun h => hok h.1]
    exact ⟨by decide, rfl⟩

/-- An `addFriend` and its response. -/
theorem addFriend_matches {w w' : World} {m : MainWindow} {f : Int}
    (hg : (⟨w, m⟩ : Listed).Good u) (hrun : (addFriendAs conn u f).run i w = some ((), w')) :
    (⟨w', ((sentIn i w w').filter fun d => d.conn = conn).foldl
      (fun window d => window.handleMessage d.js) m⟩ : Listed).Matches u ↔
    w.db.hasUser f = true ∧ (u, f) ∉ w.db.friend ∧ (w.Reaches ∨ f = u ∧ w.asked.Reaches) ∧
      w.asked.asked.Reaches := by
  obtain ⟨hk', hwf', -⟩ := run_tables hrun hg.keyed hg.wf hg.user
  obtain ⟨hF, -, ⟨hgroups, hmembers, -⟩, hsent⟩ := addFriend_rows hrun
  have hgroupIds : ∀ id, id ∈ w'.db.groupIds u ↔ id ∈ w.db.groupIds u := fun id => by
    rw [Database.mem_groupIds hk', Database.mem_groupIds hg.keyed, hmembers]
  have hrow : (w.db.user.find f).isSome = true → 1 ≤ f ∧ f ≤ maxInt := fun h => by
    obtain ⟨row, hrow⟩ := Option.isSome_iff_exists.mp h
    exact (hg.wf.user_find hrow).1
  obtain ⟨hfits, hid⟩ := read_id User.id (fun row => User.found f (some row)) {}
    (fun _ => rfl) rfl rfl hrow w.asked.asked.Reaches
  rw [window_one hsent, matches_friend hg.matched (handle_friendAdded m hfits) hgroupIds, hid]
  by_cases hread : w.asked.asked.Reaches ∧ (w.db.user.find f).isSome = true
  · rw [if_pos hread]
    simp only [Database.mem_friendIds hk', Database.mem_friendIds hg.keyed, hF]
    constructor
    · rintro ⟨hnew, hall⟩
      refine ⟨hread.2, hnew, ?_, hread.1⟩
      rcases ((hall f).mpr (.inr rfl)).resolve_left hnew with ⟨-, ⟨-, h⟩ | ⟨he, h⟩⟩
      · exact .inl h
      · exact .inr ⟨(Prod.mk.inj he).2, h⟩
    · rintro ⟨-, hnew, hok, -⟩
      refine ⟨hnew, fun id => or_congr_right ⟨?_, ?_⟩⟩
      · rintro ⟨-, ⟨he, -⟩ | ⟨he, -⟩⟩
        · exact (Prod.mk.inj he).2
        · obtain ⟨h₁, h₂⟩ := Prod.mk.inj he
          exact h₂.trans h₁
      · rintro rfl
        refine ⟨⟨hg.user, hread.2⟩, hok.imp (fun h => ⟨rfl, h⟩) ?_⟩
        rintro ⟨rfl, h⟩
        exact ⟨rfl, h⟩
  · rw [if_neg hread]
    refine iff_of_false ?_ fun h => hread ⟨h.2.2.2, h.1⟩
    rintro ⟨-, hall⟩
    exact absurd (friend_range hk' hwf' ((hall (-1)).mpr (.inr rfl))).1 (by decide)

/-- A `createGroup` and its response. -/
theorem createGroup_matches {w w' : World} {m : MainWindow} {name desc : Str}
    (hg : (⟨w, m⟩ : Listed).Good u)
    (hrun : (createGroupAs conn u name desc).run i w = some ((), w')) :
    (⟨w', ((sentIn i w w').filter fun d => d.conn = conn).foldl
      (fun window d => window.handleMessage d.js) m⟩ : Listed).Matches u ↔
    (w.Reaches → w.db.CanCreate name desc → w.asked.Reaches) := by
  have hk : w.db.Keyed := hg.keyed
  obtain ⟨hk', -, -⟩ := run_tables hrun hk hg.wf hg.user
  obtain ⟨hmade, hnot⟩ := createGroup_rows hk hrun
  by_cases hc : w.Reaches ∧ w.db.CanCreate name desc
  · obtain ⟨-, hmember, -, hfriend, hsent⟩ := hmade hc
    have hfriendIds : ∀ id, id ∈ w'.db.friendIds u ↔ id ∈ w.db.friendIds u := fun id => by
      rw [Database.mem_friendIds hk', Database.mem_friendIds hk, hfriend]
    have hfits : fitsInt w.db.nextGroup = true := fitsInt_id ⟨hg.wf.nextGroup, hc.2.2.2⟩
    have hnew : w.db.nextGroup ∉ w.db.groupIds u := by
      rw [Database.mem_groupIds hk, notMember_new hk]
      nofun
    rw [window_one hsent,
      matches_group hg.matched (handle_groupCreated m name desc hfits) hfriendIds, and_iff_right hnew]
    simp only [Database.mem_groupIds hk', Database.mem_groupIds hk, hmember]
    constructor
    · intro hall _ _
      have hin := (hall w.db.nextGroup).mpr (.inr rfl)
      split at hin
      · rename_i h
        exact h.2.1
      · rw [notMember_new hk] at hin
        cases hin
    · intro h id
      have hok := h hc.1 hc.2
      split
      · rename_i he
        exact iff_of_true rfl (.inr (Prod.mk.inj he.1).1)
      · rename_i hne
        refine ⟨.inl, fun hin => hin.resolve_right fun he => hne ⟨by rw [he], hok, hg.user⟩⟩
  · obtain ⟨hdb, hsent⟩ := hnot hc
    rw [hsent]
    refine iff_of_true ?_ fun hr hcan => absurd ⟨hr, hcan⟩ hc
    unfold Listed.Matches Listed.friendIds Listed.groupIds
    dsimp only
    rw [hdb]
    exact hg.matched

/-- An `addGroup` and its response. -/
theorem addGroup_matches {w w' : World} {m : MainWindow} {g : Int}
    (hg : (⟨w, m⟩ : Listed).Good u) (hrun : (addGroupAs conn u g).run i w = some ((), w')) :
    (⟨w', ((sentIn i w w').filter fun d => d.conn = conn).foldl
      (fun window d => window.handleMessage d.js) m⟩ : Listed).Matches u ↔
    w.db.CanJoin g u ∧ w.Reaches ∧ w.asked.Reaches := by
  obtain ⟨hk', hwf', -⟩ := run_tables hrun hg.keyed hg.wf hg.user
  obtain ⟨⟨hmember, -, hfriend, -⟩, hsent⟩ := addGroup_rows hrun
  have hfriendIds : ∀ id, id ∈ w'.db.friendIds u ↔ id ∈ w.db.friendIds u := fun id => by
    rw [Database.mem_friendIds hk', Database.mem_friendIds hg.keyed, hfriend]
  have hrow : (w.db.allGroup.find g).isSome = true → 1 ≤ g ∧ g ≤ maxInt := fun h => by
    obtain ⟨row, hrow⟩ := Option.isSome_iff_exists.mp h
    exact (hg.wf.group_find hrow).1
  obtain ⟨hfits, hid⟩ := read_id Group.id (fun row => Group.found g (some row)) {}
    (fun _ => rfl) rfl rfl hrow w.asked.Reaches
  rw [window_one hsent, matches_group hg.matched (handle_groupJoined m hfits) hfriendIds, hid]
  by_cases hread : w.asked.Reaches ∧ (w.db.allGroup.find g).isSome = true
  · rw [if_pos hread]
    simp only [Database.mem_groupIds hk', Database.mem_groupIds hg.keyed, hmember]
    constructor
    · rintro ⟨hnew, hall⟩
      have hin := (hall g).mpr (.inr rfl)
      split at hin
      · rename_i h
        exact ⟨h.2.2, h.2.1, hread.1⟩
      · exact absurd hin hnew
    · rintro ⟨hjoin, hok, -⟩
      refine ⟨by rw [hjoin.2.2]; exact Bool.false_ne_true, fun id => ?_⟩
      split
      · rename_i he
        exact iff_of_true rfl (.inr (Prod.mk.inj he.1).1)
      · rename_i hne
        refine ⟨.inl, fun hin => hin.resolve_right fun he => hne ⟨by rw [he], hok, hjoin⟩⟩
  · rw [if_neg hread]
    refine iff_of_false ?_ fun h => hread ⟨h.2.2, h.1.1⟩
    rintro ⟨-, hall⟩
    exact absurd (group_range hk' hwf' ((hall (-1)).mpr (.inr rfl))).1 (by decide)

end Request

/-! ## The window after the login -/

theorem loginResponse_signal (user : User) (vec : List Str) (userVec : List User)
    (groupVec : List Group) : Signal.ofMessage (loginResponse user vec userVec groupVec) =
      some (.loginSuccess (Json.int user.id).qtInt user.name
        ((userVec.map fun f => (friendJson f).dump).map .str)
        ((groupVec.map fun g => (groupJson g).dump).map .str) (vec.map .str)) := by
  cases vec <;> cases userVec <;> cases groupVec <;> rfl

theorem loginWindow_tree (fromJson : Str → Option Json) (db : Database) (u : Int) (user : User)
    (vec : List Str) : (loginWindow fromJson db u user vec).m_friendTree =
      .load fromJson (((User.friends (some (db.friendRows u))).map fun f => (friendJson f).dump).map .str)
        (((db.groupsOf u).map fun g => (groupJson g).dump).map .str) := by
  rw [loginWindow, loginResponse_signal]
  rfl

/-- The ids of the items that `loadFriends` makes. -/
theorem loadFriends_ids {fromJson : Str → Option Json} {users : List User}
    (hread : ∀ user ∈ users, fromJson (friendJson user).dump = some (friendJson user))
    (hfits : ∀ user ∈ users, fitsInt user.id = true) :
    (FriendTree.loadFriends fromJson ((users.map fun f => (friendJson f).dump).map .str)).map (·.id) =
      users.map (·.id) := by
  unfold FriendTree.loadFriends
  rw [List.map_map, List.map_map, List.map_map]
  refine List.map_congr_left fun user hin => ?_
  have hobj : FriendTree.listed fromJson (.str (friendJson user).dump) = friendJson user := by
    rw [FriendTree.listed, Widget.offlineObj, Json.qtString, hread user hin]
    rfl
  change ((FriendTree.listed fromJson (.str (friendJson user).dump)).value "id").qtInt = user.id
  rw [hobj]
  exact if_pos (hfits user hin)

theorem loadGroups_ids {fromJson : Str → Option Json} {groups : List Group}
    (hread : ∀ group ∈ groups, fromJson (groupJson group).dump = some (groupJson group))
    (hfits : ∀ group ∈ groups, fitsInt group.id = true) :
    (FriendTree.loadGroups fromJson ((groups.map fun g => (groupJson g).dump).map .str)).map (·.id) =
      groups.map (·.id) := by
  unfold FriendTree.loadGroups
  rw [List.map_map, List.map_map, List.map_map]
  refine List.map_congr_left fun group hin => ?_
  have hobj : FriendTree.listed fromJson (.str (groupJson group).dump) = groupJson group := by
    rw [FriendTree.listed, Widget.offlineObj, Json.qtString, hread group hin]
    rfl
  change ((FriendTree.listed fromJson (.str (groupJson group).dump)).value "id").qtInt = group.id
  rw [hobj]
  exact if_pos (hfits group hin)

/-- After the login the lists agree. -/
theorem login_good {fromJson : Str → Option Json} {w : World} {u : Int} (hk : w.db.Keyed)
    (hwf : w.db.Wf) (hu : w.db.hasUser u = true) (hread : ReadsLists fromJson w.db u) (user : User)
    (vec : List Str) : Listed.Good u ⟨w, loginWindow fromJson w.db u user vec⟩ := by
  refine ⟨hk, hwf, hu, ?_, ?_⟩
  · have hids : (⟨w, loginWindow fromJson w.db u user vec⟩ : Listed).friendIds = w.db.friendIds u := by
      unfold Listed.friendIds
      dsimp only
      rw [loginWindow_tree]
      exact loadFriends_ids hread.friends fun user hin =>
        fitsInt_id (friend_range hk hwf (List.mem_map_of_mem hin))
    rw [hids]
    exact ⟨Database.nodup_friendIds hk, fun _ => Iff.rfl⟩
  · have hids : (⟨w, loginWindow fromJson w.db u user vec⟩ : Listed).groupIds = w.db.groupIds u := by
      unfold Listed.groupIds
      dsimp only
      rw [loginWindow_tree]
      exact loadGroups_ids hread.groups fun group hin =>
        fitsInt_id (group_range hk hwf (List.mem_map_of_mem hin))
    rw [hids]
    exact ⟨Database.nodup_groupIds hk, fun _ => Iff.rfl⟩

/-! ## The requests of a run -/

section Run

variable {i : ServerId} {conn : ConnId} {u : Int} {s s' : Listed} {r : ListRequest}

/-- That the handler notes the time does not matter. -/
theorem kept_noted (i : ServerId) (conn : ConnId) : r.Kept u ⟨s.world.noted i conn, s.window⟩ ↔ r.Kept u s := by
  have hf : (s.world.noted i conn).fates = s.world.fates := rfl
  have h₀ := World.reaches_congr hf
  have h₁ := World.reaches_congr (World.asked_congr hf)
  have h₂ := World.reaches_congr (World.asked_congr (World.asked_congr hf))
  cases r <;> simp only [ListRequest.Kept, h₀, h₁, h₂] <;> rfl

/-- **Every request** leaves the lists in agreement exactly if it is kept. -/
theorem request_matches (hg : s.Good u) (hs : s.step i conn u r = some s') :
    (s'.world.db.Keyed ∧ s'.world.db.Wf ∧ s'.world.db.hasUser u = true) ∧
      (s'.Matches u ↔ r.Kept u s) := by
  have hg' : (⟨s.world.noted i conn, s.window⟩ : Listed).Good u :=
    ⟨hg.keyed, hg.wf, hg.user, hg.matched⟩
  have hu : toInt32 u = u := by
    obtain ⟨row, hrow⟩ := Option.isSome_iff_exists.mp hg.user
    exact toInt32_id (hg.wf.user_find hrow).1
  rw [← kept_noted i conn]
  obtain ⟨w', m'⟩ := s'
  cases r with
  | addFriend friendid =>
    obtain ⟨hrun, hwindow⟩ := listed_step (dispatch_addFriend conn u friendid) hs
    dsimp only at hrun hwindow
    rw [hu] at hrun
    rw [hwindow]
    exact ⟨run_tables hrun hg.keyed hg.wf hg.user, addFriend_matches hg' hrun⟩
  | createGroup name desc =>
    obtain ⟨hrun, hwindow⟩ := listed_step (dispatch_createGroup conn u name desc) hs
    dsimp only at hrun hwindow
    rw [hu] at hrun
    rw [hwindow]
    exact ⟨run_tables hrun hg.keyed hg.wf hg.user, createGroup_matches hg' hrun⟩
  | addGroup groupid =>
    obtain ⟨hrun, hwindow⟩ := listed_step (dispatch_addGroup conn u groupid) hs
    dsimp only at hrun hwindow
    rw [hu] at hrun
    rw [hwindow]
    exact ⟨run_tables hrun hg.keyed hg.wf hg.user, addGroup_matches hg' hrun⟩

end Run

/-- **The lists of the main window.** After a login whose queries gave what the tables have, in
every run of `ADD_FRIEND_MSG`, `CREATE_GROUP_MSG` and `ADD_GROUP_MSG` requests of the user with any
ids, whatever connections and statements fail: the tree has all along the ids that the queries would
give, each once, exactly if every request is kept. -/
theorem lists_match_iff {P : JsonParser} {fromJson : Str → Option Json} {sys : Sys} {i : ServerId}
    {conn : ConnId} {u : Int} {user : User} {vec : List Str} {rs : List ListRequest} {s : Listed}
    (h : (system P).Reach sys) (hu : sys.world.db.hasUser u = true)
    (hread : ReadsLists fromJson sys.world.db u)
    (hr : (listMachine i conn u).runs rs
      (⟨sys.world, loginWindow fromJson sys.world.db u user vec⟩ : Listed) = some s) :
    (∀ s₁, (listMachine i conn u).Passes rs
        (⟨sys.world, loginWindow fromJson sys.world.db u user vec⟩ : Listed) s₁ →
      Listed.Matches u s₁) ↔
    ∀ r s₁, (listMachine i conn u).Takes rs
        (⟨sys.world, loginWindow fromJson sys.world.db u user vec⟩ : Listed) r s₁ →
      ListRequest.Kept u r s₁ := by
  refine Machine.passes_iff_takes (M := listMachine i conn u) (G := Listed.Good u)
    (P := Listed.Matches u) (Q := ListRequest.Kept u) (fun s hg => hg.matched) ?_
    (login_good (reach_keyed h) (reach_wf h) hu hread user vec) hr
  intro r s s' hg hs
  obtain ⟨⟨hk, hwf, hu⟩, hiff⟩ := request_matches hg hs
  exact ⟨fun hkept => ⟨hk, hwf, hu, hiff.mpr hkept⟩, hiff.mp⟩

def listsParser : JsonParser :=
  .ofDumps [ChatClient.reg (txt "ann") (txt "pw"), ChatClient.reg (txt "bob") (txt "pw"),
    ChatClient.login 1 (txt "pw")]

/-- Two users register, and user 1 logs in. -/
def annLogsIn : List Label :=
  [.start 0 true, .connect 0 1,
    .whole 0 (.frame 1 (ChatClient.reg (txt "ann") (txt "pw")).dump),
    .whole 0 (.frame 1 (ChatClient.reg (txt "bob") (txt "pw")).dump),
    .whole 0 (.frame 1 (ChatClient.login 1 (txt "pw")).dump)]

/-- The main window that user 1 then has. -/
def annsWindow (db : Database) : MainWindow :=
  loginWindow listsParser.parse db 1 { id := 1, name := txt "ann" } []

/-- The lists after these requests of user 1. -/
def annsLists (rs : List ListRequest) : Option (List Int × List Int × List Int × List Int) :=
  ((system listsParser).runs annLogsIn Sys.initial).bind fun sys : Sys =>
    ((listMachine 0 1 1).runs rs (⟨sys.world, annsWindow sys.world.db⟩ : Listed)).map
      fun s : Listed => (s.friendIds, s.world.db.friendIds 1, s.groupIds, s.world.db.groupIds 1)

theorem annsLists_run {rs : List ListRequest} {fs fs' gs gs' : List Int}
    (h : annsLists rs = some (fs, fs', gs, gs')) : ∃ (sys : Sys) (s : Listed),
      (system listsParser).Reach sys ∧ sys.world.db.hasUser 1 = true ∧
      ReadsLists listsParser.parse sys.world.db 1 ∧
      (listMachine 0 1 1).runs rs (⟨sys.world, annsWindow sys.world.db⟩ : Listed) = some s ∧
      s.friendIds = fs ∧ s.world.db.friendIds 1 = fs' ∧ s.groupIds = gs ∧
        s.world.db.groupIds 1 = gs' := by
  obtain ⟨sys, hsys, h⟩ := Option.bind_eq_some_iff.mp h
  obtain ⟨s, hs, hf⟩ := Option.map_eq_some_iff.mp h
  simp only [Prod.mk.injEq] at hf
  have hstart : ((system listsParser).runs annLogsIn Sys.initial).map (fun sys : Sys =>
      (sys.world.db.hasUser 1, sys.world.db.friendRows 1, sys.world.db.groupRows 1)) =
        some (true, [], []) := by
    decide +kernel
  obtain ⟨sys', hsys', hstart⟩ := Option.map_eq_some_iff.mp hstart
  obtain rfl : sys' = sys := Option.some.inj (hsys'.symm.trans hsys)
  simp only [Prod.mk.injEq] at hstart
  refine ⟨sys', s, reach_of_runs hsys, hstart.1, ⟨?_, ?_⟩, hs, hf⟩
  · rw [hstart.2.1]
    nofun
  · unfold Database.groupsOf
    rw [hstart.2.2]
    nofun

/-- User 1 adds user 2 and makes a group. -/
theorem lists_match_two : ∃ (sys : Sys) (s : Listed),
    (s.friendIds = [2] ∧ s.groupIds = [1]) ∧
    ((∀ s₁, (listMachine 0 1 1).Passes [.addFriend 2, .createGroup (txt "g") (txt "d")]
        (⟨sys.world, annsWindow sys.world.db⟩ : Listed) s₁ → Listed.Matches 1 s₁) ↔
      ∀ r s₁, (listMachine 0 1 1).Takes [.addFriend 2, .createGroup (txt "g") (txt "d")]
        (⟨sys.world, annsWindow sys.world.db⟩ : Listed) r s₁ → ListRequest.Kept 1 r s₁) := by
  have h : annsLists [.addFriend 2, .createGroup (txt "g") (txt "d")] = some ([2], [2], [1], [1]) := by
    decide +kernel
  obtain ⟨sys, s, hr, hu, hread, hrun, hf, -, hg, -⟩ := annsLists_run h
  exact ⟨sys, s, ⟨hf, hg⟩, lists_match_iff hr hu hread hrun⟩

/-- User 1 adds a user who does not exist: the response has the id -1, and so has the new item. -/
theorem lists_differ :
    ¬∀ (P : JsonParser) (fromJson : Str → Option Json) (sys : Sys) (i : ServerId) (conn : ConnId)
      (u : Int) (user : User) (vec : List Str) (rs : List ListRequest) (s : Listed),
      (system P).Reach sys → sys.world.db.hasUser u = true → ReadsLists fromJson sys.world.db u →
      (listMachine i conn u).runs rs
        (⟨sys.world, loginWindow fromJson sys.world.db u user vec⟩ : Listed) = some s →
      s.Matches u := by
  intro hall
  have h : annsLists [.addFriend 7] = some ([-1], [], [], []) := by decide +kernel
  obtain ⟨sys, s, hr, hu, hread, hrun, hf, hf', -, -⟩ := annsLists_run h
  have hsame := (hall _ _ sys 0 1 1 _ _ _ s hr hu hread hrun).1
  rw [hf, hf'] at hsame
  exact absurd ((hsame.2 (-1)).mp List.mem_cons_self) (by decide)

end QtChat
