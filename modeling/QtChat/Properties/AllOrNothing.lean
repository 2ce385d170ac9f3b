import QtChat.Client.Requests
import QtChat.Server.RowRuns

/-!
# Two rows of one request

`addFriend` and `createGroup` insert two rows each, by two methods that get a connection and send a
statement of their own; what the second one answers is ignored. `BothOrNeither` and `GroupOrNothing`
are what a request should leave, `FriendsTogether` and `GroupTogether` when it does.

Between the two inserts of `addFriend` other threads run, and the server may go down. `FriendsEven`
says that `Friend` is symmetric but for the second inserts that threads have still to do
(`Sys.Owes`).
-/

namespace QtChat

open Interleave ChatService

/-! ## One request -/

/-- Both rows are there, or neither was added. -/
def BothOrNeither (u f : Int) (before after : Database) : Prop :=
  (u, f) ∈ after.friend ∧ (f, u) ∈ after.friend ∨
    ((u, f) ∈ after.friend → (u, f) ∈ before.friend) ∧ ((f, u) ∈ after.friend → (f, u) ∈ before.friend)

/-- If the two rows would be new and different, both inserts work or both fail. -/
def FriendsTogether (u f : Int) (w : World) : Prop :=
  w.db.hasUser u = true → w.db.hasUser f = true → u ≠ f → (u, f) ∉ w.db.friend →
    (f, u) ∉ w.db.friend → (w.Reaches ↔ w.asked.Reaches)

/-- The group, its creator and the response are there, or nothing was done. -/
def GroupOrNothing (i : ServerId) (conn : ConnId) (u : Int) (name desc : Str) (w w' : World) : Prop :=
  (∃ id accepted, w.db.allGroup.find id = none ∧ w'.db.allGroup.find id = some ⟨name, desc⟩ ∧
    w'.db.groupUser.find (id, u) = some .creator ∧
      sentIn i w w' = [⟨conn, groupCreated id name desc, accepted⟩]) ∨
  (∀ id, w'.db.allGroup.find id = w.db.allGroup.find id) ∧
    (∀ k, w'.db.groupUser.find k = w.db.groupUser.find k) ∧ sentIn i w w' = []

/-- If the group is made, the user is there, and the insert of the creator works. -/
def GroupTogether (u : Int) (name desc : Str) (w : World) : Prop :=
  w.Reaches → w.db.CanCreate name desc → w.asked.Reaches ∧ w.db.hasUser u = true

section Requests

variable {i : ServerId} {conn : ConnId} {u f : Int} {name desc : Str} {w w' : World}

theorem friends_iff (h : FriendRows i conn u f w w') :
    BothOrNeither u f w.db w'.db ↔ FriendsTogether u f w := by
  have hsame : (f, u) = (u, f) ↔ u = f := by
    rw [Prod.mk.injEq]
    exact ⟨fun e => e.2, fun e => ⟨e.symm, e⟩⟩
  have hsame' : (u, f) = (f, u) ↔ u = f := eq_comm.trans hsame
  unfold BothOrNeither FriendsTogether
  rw [h.friend, h.friend, hsame, hsame']
  by_cases he : u = f
  · subst he
    grind
  · grind

theorem group_iff (hk : w.db.Keyed) (hr : (createGroupAs conn u name desc).run i w = some ((), w')) :
    GroupOrNothing i conn u name desc w w' ↔ GroupTogether u name desc w := by
  obtain ⟨hmade, hnot⟩ := createGroup_rows hk hr
  by_cases hc : w.Reaches ∧ w.db.CanCreate name desc
  · obtain ⟨hgroup, hmember, -, -, hsent⟩ := hmade hc
    have hnew : w.db.allGroup.find w.db.nextGroup = none := by
      cases hg : w.db.allGroup.find w.db.nextGroup with
      | none => rfl
      | some row => exact absurd (hk.below _ (Relational.Table.find_eq_some.mp hg)) (lt_irrefl _)
    constructor
    · rintro (⟨id, -, hnone, hsome, hcreator, -⟩ | ⟨hall, -⟩) - -
      · by_cases hid : id = w.db.nextGroup
        · subst hid
          rw [hmember] at hcreator
          split at hcreator
          · rename_i hin
            exact hin.2
          · rw [notMember_new hk] at hcreator
            cases hcreator
        · rw [hgroup, if_neg hid, hnone] at hsome
          cases hsome
      · have hrow := hall w.db.nextGroup
        rw [hgroup, if_pos rfl, hnew] at hrow
        cases hrow
    · intro h
      refine .inl ⟨w.db.nextGroup, _, hnew, ?_, ?_, hsent⟩
      · rw [hgroup, if_pos rfl]
      · rw [hmember, if_pos ⟨rfl, h hc.1 hc.2⟩]
  · obtain ⟨hdb, hsent⟩ := hnot hc
    exact iff_of_true (.inr ⟨by simp [hdb], by simp [hdb], hsent⟩) fun hr hcan => absurd ⟨hr, hcan⟩ hc

end Requests

/-! ## Threads in the middle of `addFriend` -/

/-- `addFriend` after its inserts. -/
def friendReply (conn : ConnId) (f : Int) : Serv Unit := do
  let friendUser ← UserModel.query f
  sendJson conn (friendAdded friendUser)

/-- `addFriend` after its first insert. -/
def addBack (conn : ConnId) (u f : Int) : Serv Unit := do
  FriendModel.insert f u
  friendReply conn f

/-- The second insert has its connection. -/
def addBackSql (conn : ConnId) (u f : Int) : Serv Unit :=
  .act (.sql (.insertFriend f u)) fun _ => friendReply conn f

/-- The thread has the second insert of `addFriend` for `u` and `f` still to do. -/
def Sys.Owes (s : Sys) (t : Nat) (i : ServerId) (u f : Int) : Prop :=
  ∃ conn, s.threads t = some (i, addBack conn u f) ∨ s.threads t = some (i, addBackSql conn u f)

/-- `Friend` is symmetric but for the second inserts that threads have still to do. -/
def FriendsEven (s : Sys) : Prop :=
  ∀ u f, (u, f) ∈ s.world.db.friend → (f, u) ∈ s.world.db.friend ∨ ∃ t i, s.Owes t i u f

/-- Only the first row is there. -/
def Database.Half (db : Database) (u f : Int) : Prop := (u, f) ∈ db.friend ∧ (f, u) ∉ db.friend

/-- The steps of the inserts of `addFriend` that belong together work or fail together, and no
server goes down between them: an `addFriend` that runs alone meets `FriendsTogether`; the second
insert of a thread does not fail if there is only the first row, and does not work if there is none.
-/
def FriendsKept (P : JsonParser) : Label → Sys → Prop
  | .whole _ (.frame conn body), s => ∀ js u f, P.parse body = some js →
      dispatch conn js = .ok (addFriendAs conn u f) → FriendsTogether u f s.world
  | .act t, s =>
    (∀ i u f, s.Owes t i u f → (s.world.fates 0).ok = false → ¬ s.world.db.Half u f) ∧
    ∀ i conn u f, s.threads t = some (i, addBackSql conn u f) → (s.world.fates 0).ok = true →
      s.world.db.hasUser u = true → s.world.db.hasUser f = true → u ≠ f →
      (f, u) ∉ s.world.db.friend → (u, f) ∈ s.world.db.friend
  | .exit i, s => ∀ t u f, s.Owes t i u f → ¬ s.world.db.Half u f
  | .crash i, s => ∀ t u f, s.Owes t i u f → ¬ s.world.db.Half u f
  | _, _ => True

/-- Inserts no friend. -/
def NoFriend : Act → Prop
  | .sql (.insertFriend ..) => False
  | _ => True

/-- What is left of a thread: all of an `addFriend`, what one of its inserts leaves, or something
that inserts no friend. -/
inductive Known : Serv Unit → Prop
  | plain {p : Serv Unit} : p.All NoFriend → Known p
  | note {conn : ConnId} {k : Unit → Serv Unit} : Known (k ()) → Known (.act (.updateConnTime conn) k)
  | first (conn : ConnId) (u f : Int) : Known (addFriendAs conn u f)
  | firstSql (conn : ConnId) (u f : Int) :
      Known (.act (.sql (.insertFriend u f)) fun _ => addBack conn u f)
  | back (conn : ConnId) (u f : Int) : Known (addBack conn u f)
  | backSql (conn : ConnId) (u f : Int) : Known (addBackSql conn u f)

theorem addFriendAs_act (conn : ConnId) (u f : Int) : addFriendAs conn u f =
    .act .acquire fun ok : Bool =>
      if ok then .act (.sql (.insertFriend u f)) fun _ => addBack conn u f else addBack conn u f := by
  refine congrArg (Prog.act (L := chat) Act.acquire) (funext fun ok : Bool => ?_)
  cases ok <;> rfl

theorem addBack_act (conn : ConnId) (u f : Int) : addBack conn u f =
    .act .acquire fun ok : Bool => if ok then addBackSql conn u f else friendReply conn f := by
  refine congrArg (Prog.act (L := chat) Act.acquire) (funext fun ok : Bool => ?_)
  cases ok <;> rfl

theorem friendReply_plain (conn : ConnId) (f : Int) : (friendReply conn f).All NoFriend :=
  Prog.All.bind (all_query trivial trivial) fun _ => ⟨trivial, fun _ => trivial⟩

/-- What is left after an action. -/
theorem Known.next {a : Act} {k : a.Res → Serv Unit} (h : Known (.act a k)) (r : a.Res) :
    Known (k r) := by
  generalize hp : Prog.act (L := chat) a k = p at h
  cases h with
  | plain h =>
    subst hp
    exact .plain (h.2 r)
  | note h =>
    cases hp
    exact h
  | first conn u f =>
    rw [addFriendAs_act] at hp
    cases hp
    cases r
    · exact .back conn u f
    · exact .firstSql conn u f
  | firstSql conn u f =>
    cases hp
    exact .back conn u f
  | back conn u f =>
    rw [addBack_act] at hp
    cases hp
    cases r
    · exact .plain (friendReply_plain conn f)
    · exact .backSql conn u f
  | backSql conn u f =>
    cases hp
    exact .plain (friendReply_plain conn f)

/-- A thread that inserts a friend is in the middle of `addFriend`. -/
theorem Known.inserts {x y : Int} {k : Option Unit → Serv Unit}
    (h : Known (Prog.act (L := chat) (.sql (.insertFriend x y)) k)) :
    (∃ conn, ∀ r, k r = addBack conn x y) ∨
      ∃ conn, Prog.act (L := chat) (.sql (.insertFriend x y)) k = addBackSql conn y x := by
  generalize hp : Prog.act (L := chat) (.sql (.insertFriend x y)) k = p at h
  cases h with
  | plain h =>
    subst hp
    exact h.1.elim
  | note => cases hp
  | first conn u f =>
    rw [addFriendAs_act] at hp
    cases hp
  | firstSql conn u f =>
    cases hp
    exact .inl ⟨conn, fun _ => rfl⟩
  | back conn u f =>
    rw [addBack_act] at hp
    cases hp
  | backSql conn u f =>
    cases hp
    exact .inr ⟨conn, rfl⟩

/-! ### The programs of the threads -/

theorem noFriend_of_login {conn : ConnId} {id : Int} {a : Act} (h : LoginAct conn id a) :
    NoFriend a := by
  cases a with
  | sql st => cases st <;> first | exact trivial | exact h.elim
  | _ => trivial

theorem noFriend_of_logout {conn : ConnId} {id : Int} {a : Act} (h : LogoutAct conn id a) :
    NoFriend a := by
  cases a with
  | sql st => rcases h with rfl | rfl <;> exact trivial
  | _ => trivial

theorem noFriend_of_chat {a : Act} (h : ChatAct a) : NoFriend a := by
  cases a with
  | sql st => cases st <;> first | exact trivial | exact h.elim
  | _ => trivial

/-- A request is an `addFriend`, or inserts no friend. -/
theorem request_friends {conn : ConnId} {js : Json} {p : Serv Unit} (h : dispatch conn js = .ok p) :
    p.All NoFriend ∨ ∃ u f, p = addFriendAs conn u f := by
  cases handles_of_dispatch h with
  | nothing => exact .inl trivial
  | loginFields => exact .inl (all_sendJson trivial)
  | regFields => exact .inl (all_sendJson trivial)
  | login => exact .inl ((loginAs_all _ _ _).mono fun _ => noFriend_of_login)
  | loginout => exact .inl ((loginoutAs_all _ _).mono fun _ => noFriend_of_logout)
  | reg name pwd =>
    refine .inl (Prog.All.bind ?_ fun r => ?_)
    · exact all_ask_format trivial trivial trivial ⟨trivial, fun _ => trivial⟩
    · rcases r with _ | id <;> exact ⟨trivial, fun _ => trivial⟩
  | oneChat => exact .inl ((oneChatTo_all _ js).mono fun _ => noFriend_of_chat)
  | addFriend => exact .inr ⟨_, _, rfl⟩
  | createGroup u name desc =>
    refine .inl (Prog.All.bind ?_ fun r => ?_)
    · exact all_ask_format trivial trivial trivial ⟨trivial, fun _ => trivial⟩
    · rcases r with _ | id
      · trivial
      · refine Prog.All.bind (all_ask trivial trivial trivial fun _ => trivial) fun _ => ?_
        exact ⟨trivial, fun _ => trivial⟩
  | addGroup u g =>
    refine .inl (Prog.All.bind (all_ask trivial trivial trivial fun _ => trivial) fun _ => ?_)
    refine Prog.All.bind (all_ask trivial trivial trivial fun r => ?_) fun group => ?_
    · rcases r with _ | _ | row <;> trivial
    · exact ⟨trivial, fun _ => trivial⟩
  | groupChat => exact .inl ((groupChatFrom_all _ _ js).mono fun _ => noFriend_of_chat)
  | updateName u newName =>
    refine .inl (Prog.All.bind ?_ fun ok => ?_)
    · refine all_ask_format trivial trivial trivial ?_
      exact Prog.All.bind (p := sql _) ⟨trivial, fun _ => trivial⟩ fun _ => trivial
    · cases ok <;> exact ⟨trivial, fun _ => trivial⟩
  | heartbeat => exact .inl ⟨trivial, fun _ => ⟨trivial, fun _ => trivial⟩⟩

/-- A job handles a request that adds a friend, or inserts no friend. -/
theorem job_friends {P : JsonParser} {i : ServerId} {w w' : World} {job : Job} {p : Serv Unit}
    (h : job.Begins P i w p w') : p.All NoFriend ∨ ∃ conn body js u f, job = .frame conn body ∧
      P.parse body = some js ∧ dispatch conn js = .ok (addFriendAs conn u f) ∧ w' = w ∧
        p = .act (.updateConnTime conn) fun _ => addFriendAs conn u f := by
  cases h with
  | @frame conn body =>
    cases hp : P.parse body with
    | none =>
      have hm : handleMsg P conn body = .ret () := by
        unfold handleMsg
        rw [hp]
      exact .inl (by rw [hm]; trivial)
    | some js =>
      have hm : handleMsg P conn body =
          .act (.updateConnTime conn) fun _ => Request.run (dispatch conn js) := by
        unfold handleMsg
        rw [hp]
        rfl
      rw [hm]
      cases hd : dispatch conn js with
      | error e => exact .inl ⟨trivial, fun _ => trivial⟩
      | ok q =>
        rcases request_friends hd with hq | ⟨u, f, rfl⟩
        · exact .inl ⟨trivial, fun _ => hq⟩
        · exact .inr ⟨conn, body, js, u, f, rfl, hp, hd, rfl, rfl⟩
  | @close conn =>
    refine .inl (Prog.All.bind (p := eraseConn conn) ⟨trivial, fun _ => trivial⟩ fun r => ?_)
    rcases r with _ | id
    · exact (clientClosed_all conn {}).mono fun _ => noFriend_of_logout
    · exact (clientClosed_all conn { id }).mono fun _ => noFriend_of_logout
  | redis =>
    exact .inl ((handleRedisSubscribeMessage_all P _ _).mono fun _ => noFriend_of_chat)
  | check =>
    refine .inl (Prog.All.bind (p := staleConns) ⟨trivial, fun _ => trivial⟩ fun toClose => ?_)
    exact Prog.All.each fun conn _ => ⟨trivial, fun _ => trivial⟩

/-- **Threads** are in the middle of an `addFriend`, or insert no friend. -/
theorem reach_known {P : JsonParser} {s : Sys} (h : (system P).Reach s) :
    ∀ t i p, s.threads t = some (i, p) → Known p := by
  refine h.inv (M := system P) (I := fun s : Sys => ∀ t i p, s.threads t = some (i, p) → Known p)
    ?_ fun l s s' hs hl => ?_
  · rintro s ⟨collate, fates, now, rfl⟩ t i p hp
    cases hp
  · intro t i p hp
    cases Sys.steps hl with
    | @spawn t' i' job q w ht hb =>
      by_cases he : t = t'
      · subst he
        have hq := Option.some.inj ((Function.update_self t _ s.threads).symm.trans hp)
        cases hq
        rcases job_friends hb with hp | ⟨conn, body, js, u, f, -, -, -, -, rfl⟩
        · exact .plain hp
        · exact .note (.first conn u f)
      · exact hs t i p ((Function.update_of_ne he _ s.threads).symm.trans hp)
    | @done t' i' x ht =>
      by_cases he : t = t'
      · subst he
        cases (Function.update_self t _ s.threads).symm.trans hp
      · exact hs t i p ((Function.update_of_ne he _ s.threads).symm.trans hp)
    | @act t' i' a k r w ht hx =>
      by_cases he : t = t'
      · subst he
        cases Option.some.inj ((Function.update_self t _ s.threads).symm.trans hp)
        exact (hs t _ _ ht).next r
      · exact hs t i p ((Function.update_of_ne he _ s.threads).symm.trans hp)
    | exit _ _ =>
      exact hs t i p (Option.filter_eq_some_iff.mp hp).1
    | crash => exact hs t i p (Option.filter_eq_some_iff.mp hp).1
    | _ => exact hs t i p hp

/-! ## What the steps keep -/

variable {P : JsonParser} {l : Label} {s s' : Sys}

/-- A statement that inserts no friend keeps the friends. -/
theorem exec_friends {st : Stmt} {db db' : Database} {ans : st.Ans} (hn : NoFriend (.sql st))
    (h : db.exec st = some (ans, db')) : db'.friend = db.friend := by
  cases st with
  | insertFriend u f => exact hn.elim
  | _ =>
    simp only [Database.exec] at h
    grind [Option.map_eq_some_iff]

theorem act_friends {i : ServerId} {a : Act} {w w' : World} {r : a.Res} (hn : NoFriend a)
    (h : World.exec i a w = some (r, w')) : w'.db.friend = w.db.friend := by
  rcases exec_db h with e | ⟨st, ans, rfl, hx⟩
  · rw [e]
  · exact exec_friends hn hx

theorem run_friends_same {i : ServerId} {p : Serv Unit} {w w' : World} {x : Unit}
    (hp : p.All NoFriend) (h : p.run i w = some (x, w')) : w'.db.friend = w.db.friend :=
  hp.run_rel (L := chat) (R := fun w w' : World => w'.db.friend = w.db.friend) (fun _ => rfl)
    (fun _ _ _ h h' => h'.trans h) (fun _ _ _ _ ha he => act_friends ha he) h

/-- What an insert of a friend does. -/
theorem insert_friends {i : ServerId} {u f : Int} {w w' : World} {r : Option Unit}
    (h : World.exec i (.sql (.insertFriend u f)) w = some (r, w')) :
    ∀ x, x ∈ w'.db.friend ↔ x ∈ w.db.friend ∨
      x = (u, f) ∧ (w.fates 0).ok = true ∧ w.db.hasUser u = true ∧ w.db.hasUser f = true := by
  intro x
  rw [World.exec] at h
  by_cases hok : (w.fates 0).ok = true
  · rw [if_pos hok] at h
    have hexec : w.db.exec (.insertFriend u f) = some ((), _) := rfl
    obtain ⟨-, hm⟩ := Database.exec_insertFriend hexec
    cases h
    rw [and_iff_right hok]
    exact hm x
  · rw [if_neg hok] at h
    cases h
    exact ⟨.inl, fun hx => hx.resolve_right fun e => hok e.2.1⟩

theorem together_congr {u f : Int} {w w' : World} (hd : w'.db = w.db) (hf : w'.fates = w.fates) :
    FriendsTogether u f w' ↔ FriendsTogether u f w := by
  unfold FriendsTogether
  rw [hd, World.reaches_congr hf, World.reaches_congr (World.asked_congr hf)]

/-- The threads but one are as they were. -/
theorem Sys.Owes.update {t t' : Nat} {i : ServerId} {u f : Int} {x : Option (ServerId × Serv Unit)}
    (h : s.Owes t' i u f) (hs : s'.threads = Function.update s.threads t x) (hne : t' ≠ t) :
    s'.Owes t' i u f := by
  obtain ⟨conn, h⟩ := h
  refine ⟨conn, ?_⟩
  rw [hs, Function.update_of_ne hne]
  exact h

/-- The threads of the other servers are as they were. -/
theorem Sys.Owes.drop {t : Nat} {i j : ServerId} {u f : Int} {w : World} (h : s.Owes t i u f)
    (hne : i ≠ j) : Sys.Owes ⟨w, Sys.dropThreads j s.threads⟩ t i u f := by
  obtain ⟨conn, h | h⟩ := h
  · exact ⟨conn, .inl (Option.filter_eq_some_iff.mpr ⟨h, decide_eq_true hne⟩)⟩
  · exact ⟨conn, .inr (Option.filter_eq_some_iff.mpr ⟨h, decide_eq_true hne⟩)⟩

/-- The friends are as they were, and so are the second inserts that are needed. -/
theorem even_of_owes (h : FriendsEven s) (hf : s'.world.db.friend = s.world.db.friend)
    (ho : ∀ t i u f, s.Owes t i u f → s.world.db.Half u f → ∃ t i, s'.Owes t i u f) :
    FriendsEven s' := by
  intro u f hin
  rw [hf] at hin ⊢
  by_cases hback : (f, u) ∈ s.world.db.friend
  · exact .inl hback
  · rcases h u f hin with hb | ⟨t, i, ht⟩
    · exact absurd hb hback
    · exact .inr (ho t i u f ht ⟨hin, hback⟩)

/-- An `addFriend` that runs alone. -/
theorem even_whole {i : ServerId} {conn : ConnId} {u f : Int} {w' : World} (h : FriendsEven s)
    (ht : FriendsTogether u f s.world)
    (hr : (addFriendAs conn u f).run i (s.world.noted i conn) = some ((), w')) :
    FriendsEven ⟨w', s.threads⟩ := by
  have hrows := addFriend_rows hr
  have hd : (s.world.noted i conn).db = s.world.db := rfl
  have hf : (s.world.noted i conn).fates = s.world.fates := rfl
  have hboth := (friends_iff hrows).mpr ((together_congr hd hf).mpr ht)
  intro a b hin
  by_cases hold : (a, b) ∈ s.world.db.friend
  · refine (h a b hold).imp (fun hb => ?_) id
    exact (hrows.friend _).mpr (.inl hb)
  · refine .inl ?_
    rcases (hrows.friend _).mp hin with ho | ⟨-, ⟨he, -⟩ | ⟨he, -⟩⟩
    · exact absurd ho hold
    · cases he
      rcases hboth with hb | hb
      · exact hb.2
      · exact absurd (hb.1 hin) hold
    · cases he
      rcases hboth with hb | hb
      · exact hb.1
      · exact absurd (hb.2 hin) hold

/-- An action that inserts no friend. -/
theorem even_act {t : Nat} {i : ServerId} {a : Act} {k : a.Res → Serv Unit} {r : a.Res} {w : World}
    (h : FriendsEven s) (hk : FriendsKept P (.act t) s) (ht : s.threads t = some (i, .act a k))
    (hn : NoFriend a) (hx : World.exec i a s.world = some (r, w)) :
    FriendsEven ⟨w, Function.update s.threads t (some (i, k r))⟩ := by
  refine even_of_owes h (act_friends hn hx) fun t' i' u f ho hhalf => ?_
  by_cases he : t' = t
  · subst he
    have hfail := hk.1 i' u f ho
    obtain ⟨conn, hp | hp⟩ := ho
    · -- the thread gets a connection for its second insert
      rw [ht, addBack_act] at hp
      cases hp
      cases hx
      cases hok : (s.world.fates 0).ok with
      | false => exact absurd hhalf (hfail hok)
      | true => exact ⟨t', i, conn, .inr (Function.update_self t' _ s.threads)⟩
    · rw [ht] at hp
      cases hp
      exact hn.elim
  · exact ⟨t', i', ho.update rfl he⟩

/-- An insert of a friend. -/
theorem even_insert {t : Nat} {i : ServerId} {x y : Int} {k : Option Unit → Serv Unit}
    {r : Option Unit} {w : World} (hr : (system P).Reach s) (h : FriendsEven s)
    (hk : FriendsKept P (.act t) s)
    (ht : s.threads t = some (i, .act (L := chat) (.sql (.insertFriend x y)) k))
    (hx : World.exec i (.sql (.insertFriend x y)) s.world = some (r, w)) :
    FriendsEven ⟨w, Function.update s.threads t (some (i, k r))⟩ := by
  have hmem := insert_friends hx
  intro u f hin
  by_cases hold : (u, f) ∈ s.world.db.friend
  · rcases h u f hold with hb | ⟨t', i', ho⟩
    · exact .inl ((hmem _).mpr (.inl hb))
    by_cases he : t' = t
    · -- it is this thread's second insert
      subst he
      refine .inl ((hmem _).mpr ?_)
      have hfail := hk.1 i' u f ho
      obtain ⟨conn, hp | hp⟩ := ho
      · rw [ht, addBack_act] at hp
        cases hp
      · rw [ht] at hp
        cases hp
        cases hok : (s.world.fates 0).ok with
        | false => exact .inl (not_not.mp fun hback => hfail hok ⟨hold, hback⟩)
        | true =>
          have husers := (reach_keyed hr).friend _ hold
          exact .inr ⟨rfl, rfl, husers.2, husers.1⟩
    · exact .inr ⟨t', i', ho.update rfl he⟩
  · obtain ⟨he, hok, hux, huy⟩ := ((hmem _).mp hin).resolve_left hold
    cases he
    rcases (reach_known hr t i _ ht).inserts with ⟨conn, hk'⟩ | ⟨conn, hk'⟩
    · refine .inr ⟨t, i, conn, .inl ?_⟩
      rw [← hk' r]
      exact Function.update_self t _ s.threads
    · refine .inl ((hmem _).mpr ?_)
      by_cases he : x = y
      · subst he
        exact .inr ⟨rfl, hok, hux, huy⟩
      · exact .inl (hk.2 i conn y x (hk' ▸ ht) hok huy hux (Ne.symm he) hold)

/-- **Every step** that keeps the inserts together. -/
theorem even_step (hr : (system P).Reach s) (h : FriendsEven s) (hk : FriendsKept P l s)
    (hs : Sys.step P l s = some s') : FriendsEven s' := by
  cases Sys.steps hs with
  | @whole i job p w w' hb hrun =>
    rcases job_friends hb with hp | ⟨conn, body, js, u, f, rfl, hparse, hd, rfl, rfl⟩
    · refine even_of_owes h ?_ fun t i u f ho _ => ⟨t, i, ho⟩
      exact (run_friends_same hp hrun).trans (congrArg Database.friend hb.same.1)
    · exact even_whole h (hk js u f hparse hd) hrun
  | @spawn t i job p w ht hb =>
    refine even_of_owes h (congrArg Database.friend hb.same.1) fun t' i' u f ho _ => ?_
    refine ⟨t', i', ho.update rfl ?_⟩
    rintro rfl
    obtain ⟨conn, hp | hp⟩ := ho <;> rw [ht] at hp <;> cases hp
  | @done t i x ht =>
    refine even_of_owes h rfl fun t' i' u f ho _ => ⟨t', i', ho.update rfl ?_⟩
    rintro rfl
    obtain ⟨conn, hp | hp⟩ := ho <;> rw [ht] at hp <;> cases hp
  | @act t i a k r w ht hx =>
    by_cases hn : NoFriend a
    · exact even_act h hk ht hn hx
    · cases a with
      | sql st =>
        cases st with
        | insertFriend x y => exact even_insert hr h hk ht hx
        | _ => exact absurd trivial hn
      | _ => exact absurd trivial hn
  | @exit i w _ hrun =>
    have hreset : reset.All NoFriend := by
      unfold reset UserModel.resetState
      exact all_ask trivial trivial trivial fun _ => trivial
    have hf : w.db.friend = s.world.db.friend := run_friends_same hreset hrun
    refine even_of_owes h hf fun t i' u f ho hhalf => ?_
    exact ⟨t, i', ho.drop fun he => hk t u f (he ▸ ho) hhalf⟩
  | @crash i =>
    refine even_of_owes h rfl fun t i' u f ho hhalf => ?_
    exact ⟨t, i', ho.drop fun he => hk t u f (he ▸ ho) hhalf⟩
  | _ => exact h

theorem reachBy_even (h : (system P).ReachBy (FriendsKept P) s) : FriendsEven s := by
  refine (h.inv (M := system P) (I := fun s : Sys => (system P).Reach s ∧ FriendsEven s) ?_ ?_).2
  · rintro s hs
    refine ⟨.init hs, fun u f hin => ?_⟩
    obtain ⟨collate, fates, now, rfl⟩ := hs
    cases hin
  · rintro l s s' ⟨hr, he⟩ hq hl
    exact ⟨hr.step l hl, even_step hr he hq hl⟩

/-- **Two rows of one request.** In every reachable state, whatever connections and statements fail:
`addFriend` leaves both rows or adds neither exactly if its inserts work or fail together (or the
rows would not be new); `createGroup` leaves the group, its creator and the response, or nothing,
exactly if the creator's insert works when the group's does. In every run that keeps the inserts of
each `addFriend` together, `Friend` is symmetric but for those that are still to do. -/
theorem all_or_nothing_iff {P : JsonParser} {s : Sys} (h : (system P).Reach s) (i : ServerId)
    (conn : ConnId) :
    (∀ u f w', (addFriendAs conn u f).run i s.world = some ((), w') →
      (BothOrNeither u f s.world.db w'.db ↔ FriendsTogether u f s.world)) ∧
    (∀ u name desc w', (createGroupAs conn u name desc).run i s.world = some ((), w') →
      (GroupOrNothing i conn u name desc s.world w' ↔ GroupTogether u name desc s.world)) ∧
    ∀ s', (system P).ReachBy (FriendsKept P) s' → FriendsEven s' :=
  ⟨fun _ _ _ hr => friends_iff (addFriend_rows hr), fun _ _ _ _ hr => group_iff (reach_keyed h) hr,
    fun _ hs => reachBy_even hs⟩

/-! ## The second insert fails -/

def friendsParser : JsonParser :=
  .ofDumps [ChatClient.reg (txt "ann") (txt "pw"), ChatClient.reg (txt "bob") (txt "pw"),
    ChatClient.addFriend 1 2]

/-- Two users register. -/
def twoUsers : List Label :=
  [.start 0 true, .connect 0 1,
    .whole 0 (.frame 1 (ChatClient.reg (txt "ann") (txt "pw")).dump),
    .whole 0 (.frame 1 (ChatClient.reg (txt "bob") (txt "pw")).dump)]

/-- After them one method works, and the next one gets no connection. -/
theorem twoUsers_run : ∃ s : Sys, (system friendsParser).Reach s ∧
    (s.world.db.hasUser 1 = true ∧ s.world.db.hasUser 2 = true ∧ s.world.db.friend = []) ∧
      s.world.Reaches ∧ ¬ s.world.asked.Reaches := by
  have h : ((system friendsParser).runs twoUsers
      ⟨.created id (fun n => ⟨n ≠ 6, 0⟩) 0, fun _ => none⟩).map (fun s : Sys =>
        ((s.world.db.hasUser 1, s.world.db.hasUser 2, s.world.db.friend),
          decide s.world.Reaches, decide s.world.asked.Reaches)) =
      some ((true, true, []), true, false) := by
    decide +kernel
  obtain ⟨s, hs, hf⟩ := Option.map_eq_some_iff.mp h
  simp only [Prod.mk.injEq, decide_eq_true_eq, decide_eq_false_iff_not] at hf
  exact ⟨s, .runs (.init ⟨_, _, _, rfl⟩) hs, hf⟩

/-- If MySQL works, both inserts do. -/
theorem friendsTogether_of_works {w : World} (hw : w.Works) (u f : Int) : FriendsTogether u f w := by
  intro _ _ _ _ _
  have hasked : w.asked.Works := by
    unfold World.asked
    rw [if_pos (hw 0)]
    exact hw.next.next
  exact iff_of_true ⟨hw 0, hw 1⟩ ⟨hasked 0, hasked 1⟩

/-- One of them then adds the other as a friend. -/
def newFriend : List Label := twoUsers ++ [.whole 0 (.frame 1 (ChatClient.addFriend 1 2).dump)]

/-- Its steps keep the inserts together while MySQL works. -/
theorem newFriend_kept : ∀ l ∈ newFriend, ∀ s : Sys, s.world.Works → FriendsKept friendsParser l s := by
  intro l hl s hw
  simp only [newFriend, twoUsers, List.cons_append, List.nil_append, List.mem_cons,
    List.not_mem_nil, or_false] at hl
  rcases hl with rfl | rfl | rfl | rfl | rfl
  · trivial
  · trivial
  all_goals exact fun _ u f _ _ => friendsTogether_of_works hw u f

theorem newFriend_run : ∃ s : Sys, (system friendsParser).ReachBy (FriendsKept friendsParser) s ∧
    (1, 2) ∈ s.world.db.friend := by
  have h : ((system friendsParser).runs newFriend Sys.initial).map (fun s : Sys =>
      decide ((1, 2) ∈ s.world.db.friend)) = some true := by
    decide +kernel
  obtain ⟨s, hs, hf⟩ := Option.map_eq_some_iff.mp h
  refine ⟨s, Machine.runs_keep_takes (I := (system friendsParser).ReachBy (FriendsKept friendsParser))
    (fun l _ _ hq hr hl => hr.step l hq hl) (.init ⟨_, _, _, rfl⟩) ?_ hs, of_decide_eq_true hf⟩
  intro l s₁ ht
  obtain ⟨pre, post, hls, hpre⟩ := Machine.takes_iff.mp ht
  refine newFriend_kept l ?_ s₁ (works_of_runs hpre)
  rw [hls]
  exact List.mem_append_right _ List.mem_cons_self

/-- A state in which the second insert fails, and a run in which both work. -/
theorem all_or_nothing_two : ∃ s s' : Sys, (s.world.Reaches ∧ ¬ s.world.asked.Reaches ∧
    (∀ u f w', (addFriendAs 1 u f).run (0 : ServerId) s.world = some ((), w') →
      (BothOrNeither u f s.world.db w'.db ↔ FriendsTogether u f s.world)) ∧
    ∀ u name desc w', (createGroupAs 1 u name desc).run (0 : ServerId) s.world = some ((), w') →
      (GroupOrNothing 0 1 u name desc s.world w' ↔ GroupTogether u name desc s.world)) ∧
    (1, 2) ∈ s'.world.db.friend ∧ FriendsEven s' := by
  obtain ⟨s, hs, -, hok, hfail⟩ := twoUsers_run
  obtain ⟨s', hby, hfriend⟩ := newFriend_run
  obtain ⟨hadd, hcreate, heven⟩ := all_or_nothing_iff hs 0 1
  exact ⟨s, s', ⟨hok, hfail, hadd, hcreate⟩, hfriend, heven s' hby⟩

/-- The second insert gets no connection: user 2 is a friend of user 1, and not the other way round.
-/
theorem all_or_nothing_half :
    ¬∀ (P : JsonParser) (s : Sys), (system P).Reach s → ∀ (i : ServerId) (conn : ConnId) u f w',
      (addFriendAs conn u f).run i s.world = some ((), w') → BothOrNeither u f s.world.db w'.db := by
  intro hall
  obtain ⟨s, hs, ⟨h₁, h₂, hnone⟩, hok, hfail⟩ := twoUsers_run
  obtain ⟨w', hr⟩ : ∃ w', (addFriendAs 1 1 2).run (0 : ServerId) s.world = some ((), w') := by
    unfold addFriendAs
    simp only [Prog.run_bind, run_insertFriend, run_query, Option.bind_some, run_sendJson]
    exact ⟨_, rfl⟩
  have htogether := (friends_iff (addFriend_rows hr)).mp (hall _ s hs 0 1 1 2 w' hr)
  exact hfail ((htogether h₁ h₂ (by decide) (by simp [hnone]) (by simp [hnone])).mp hok)

end QtChat
