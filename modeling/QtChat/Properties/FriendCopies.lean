import QtChat.Client.FriendTree
import QtChat.Presence.Copies
import QtChat.Properties.FriendLists
import QtChat.Server.ChatRuns
import QtChat.Server.Sessions

/-!
# What a connection is told of friends

A client's tree of friends is a copy of rows of `User`: the acknowledgement of a login loads it, the
packets for changed states and for new friends change it (`toldOf`). `told` is the copy that the
packets of a connection make, whatever the client does with them.

- `Informed`: what an open connection was told of friends is what the rows have.
- `Quieter`, `run_quieter`: what a run keeps of this that says nothing of friends.
- `notify_informed`: `notifyFriendState` tells a new state to everybody whose copy has the user.
-/

namespace QtChat

open Interleave ChatService Presence

/-! ## Notes in packets -/

/-- The id and the state in a string of the acknowledgement's list of friends. -/
def listedState (fromJson : Str → Option Json) (f : Json) : Int × Str :=
  (((FriendTree.listed fromJson f).value "id").qtInt,
    ((FriendTree.listed fromJson f).value "state").qtString)

/-- What a signal says of the states of friends. -/
def Signal.note (fromJson : Str → Option Json) : Signal → Option (Note Int Str)
  | .loginSuccess _ _ friends _ _ => some (.load (friends.map (listedState fromJson)))
  | .friendStateChanged friendid state => some (.set friendid state)
  | .friendAdded friendId _ state => some (.add friendId state)
  | _ => none

/-- What a packet says of them. -/
def toldOf (fromJson : Str → Option Json) (js : Json) : Option (Note Int Str) :=
  (Signal.ofMessage js).bind (·.note fromJson)

/-- The copy that these packets make. -/
def told (fromJson : Str → Option Json) (packets : List Json) : Option (List (Int × Str)) :=
  copyOf (packets.filterMap (toldOf fromJson))

/-- The packets that Muduo took for the connection. -/
def Server.packets (s : Server) (conn : ConnId) : List Json :=
  (s.outbox.filter fun d => d.conn = conn ∧ d.accepted).map (·.js)

section Notes

variable (fromJson : Str → Option Json)

theorem told_concat (packets : List Json) (js : Json) : told fromJson (packets ++ [js]) =
    match toldOf fromJson js with
    | none => told fromJson packets
    | some n => n.apply (told fromJson packets) := by
  unfold told
  rw [List.filterMap_append]
  cases h : toldOf fromJson js with
  | none => rw [List.filterMap_cons_none h, List.filterMap_nil, List.append_nil]
  | some n => rw [List.filterMap_cons_some h, List.filterMap_nil, copyOf_concat]

/-- Packets that say nothing of friends. -/
theorem told_append {packets more : List Json} (h : ∀ js ∈ more, toldOf fromJson js = none) :
    told fromJson (packets ++ more) = told fromJson packets := by
  unfold told
  rw [List.filterMap_append, List.filterMap_eq_nil_iff.mpr h, List.append_nil]

theorem toldOf_friendState (userid : Int) (state : UserState) :
    toldOf fromJson (friendState userid state) = some (.set (Json.int userid).qtInt state.text) :=
  rfl

theorem toldOf_friendAdded {user : User} (h : fitsInt user.id = true) :
    toldOf fromJson (friendAdded user) = some (.add user.id user.state.text) := by
  have hsig : Signal.ofMessage (friendAdded user) =
      some (.friendAdded (Json.int user.id).qtInt user.name user.state.text) := rfl
  rw [toldOf, hsig, Json.qtInt, if_pos h]
  rfl

/-- An integer that the server reads, the client reads alike or as 0. -/
theorem qtInt_of_intAt {js : Json} {key : String} {z : Int} (h : js.intAt key = .ok z) :
    (js.value key).qtInt = z ∨ (js.value key).qtInt = 0 := by
  obtain ⟨v, hv, hz⟩ := ok_of_reads h
  have hvalue : v = .null ∨ js.value key = v := by
    cases js with
    | obj m =>
      cases hv
      exact .inr rfl
    | null =>
      cases hv
      exact .inl rfl
    | _ => cases hv
  rcases hvalue with rfl | hvalue
  · cases hz
  rw [hvalue]
  cases v with
  | int z' =>
    cases hz
    simp only [Json.qtInt]
    split
    · rename_i hfit
      simp only [fitsInt, Bool.and_eq_true, decide_eq_true_eq] at hfit
      exact .inl (Int.bmod_eq_of_le (by omega) (by omega)).symm
    · exact .inr rfl
  | float d =>
    cases hz
    simp only [Json.qtInt]
    split
    · exact .inl rfl
    · exact .inr rfl
  | _ => exact .inr rfl

/-- A chat message says nothing of friends. -/
theorem toldOf_chat {js : Json} (h : js.intAt "msgid" = .ok 6 ∨ js.intAt "msgid" = .ok 10) :
    toldOf fromJson js = none := by
  have hid : (js.value "msgid").qtInt = 6 ∨ (js.value "msgid").qtInt = 10 ∨
      (js.value "msgid").qtInt = 0 := by
    rcases h with h | h
    · exact (qtInt_of_intAt h).elim .inl fun e => .inr (.inr e)
    · exact (qtInt_of_intAt h).elim (fun e => .inr (.inl e)) fun e => .inr (.inr e)
  unfold toldOf Signal.ofMessage Json.isMsg
  rcases hid with e | e | e <;> rw [e] <;> rfl

/-- An acknowledgement loads its friends. -/
theorem toldOf_loginResponse {user : User} {vec : List Str} {userVec : List User}
    {groupVec : List Group}
    (h : ∀ u ∈ userVec, listedState fromJson (.str (friendJson u).dump) = (u.id, u.state.text)) :
    toldOf fromJson (loginResponse user vec userVec groupVec) =
      some (.load (userVec.map fun u => (u.id, u.state.text))) := by
  rw [toldOf, loginResponse_signal, Option.bind_some, Signal.note, List.map_map, List.map_map]
  congr 2
  exact List.map_congr_left h

end Notes

/-! ## Open connections -/

/-- What the pair `p` in the copy of user `u` has to do with the rows: the state, unless the user is
`ex`, and that `u` is a friend and will hear of the next one. -/
def Tracks (ex : Option Int) (db : Database) (u : Int) (p : Int × Str) : Prop :=
  (p.1, u) ∈ db.friend ∧ (ex ≠ some p.1 → (db.stateOf p.1).map UserState.text = some p.2)

/-- The copies of the open connections. -/
def Informed (fromJson : Str → Option Json) (ex : Option Int) (w : World) : Prop :=
  ∀ u conn, (w.servers 0).userConnMap.lookup u = some conn →
    (w.servers 0).conns conn = .connected →
    Tells (Tracks ex w.db u) (told fromJson ((w.servers 0).packets conn))

/-- `w'` has no entry and no open connection that `w` has not, and all the packets of `w`. -/
structure Fewer (w w' : World) : Prop where
  entries : ∀ u conn, (w'.servers 0).userConnMap.lookup u = some conn →
    (w.servers 0).userConnMap.lookup u = some conn
  conns : ∀ conn, (w'.servers 0).conns conn = .connected → (w.servers 0).conns conn = .connected
  packets : ∀ conn, ∃ more, (w'.servers 0).packets conn = (w.servers 0).packets conn ++ more

/-- Nothing new is told of friends either, and no state but that of `ex` has changed. -/
structure Quieter (fromJson : Str → Option Json) (ex : Option Int) (w w' : World) : Prop
    extends Fewer w w' where
  friend : ∀ x ∈ w.db.friend, x ∈ w'.db.friend
  state : ∀ f st, ex ≠ some f → w.db.stateOf f = some st → w'.db.stateOf f = some st
  told : ∀ conn, told fromJson ((w'.servers 0).packets conn) =
    QtChat.told fromJson ((w.servers 0).packets conn)

section Quiet

variable {fromJson : Str → Option Json} {ex : Option Int} {w w' : World}

theorem Fewer.refl (w : World) : Fewer w w :=
  ⟨fun _ _ h => h, fun _ h => h, fun _ => ⟨[], (List.append_nil _).symm⟩⟩

theorem Fewer.trans {w₁ w₂ w₃ : World} (h : Fewer w₁ w₂) (h' : Fewer w₂ w₃) : Fewer w₁ w₃ where
  entries u conn hl := h.entries u conn (h'.entries u conn hl)
  conns conn hc := h.conns conn (h'.conns conn hc)
  packets conn := by
    obtain ⟨more, hm⟩ := h.packets conn
    obtain ⟨more', hm'⟩ := h'.packets conn
    exact ⟨more ++ more', by rw [hm', hm, List.append_assoc]⟩

theorem Quieter.refl (w : World) : Quieter fromJson ex w w :=
  ⟨.refl w, fun _ h => h, fun _ _ _ h => h, fun _ => rfl⟩

theorem Quieter.trans {w₁ w₂ w₃ : World} (h : Quieter fromJson ex w₁ w₂)
    (h' : Quieter fromJson ex w₂ w₃) : Quieter fromJson ex w₁ w₃ where
  toFewer := h.toFewer.trans h'.toFewer
  friend x hx := h'.friend x (h.friend x hx)
  state f st he hs := h'.state f st he (h.state f st he hs)
  told conn := (h'.told conn).trans (h.told conn)

theorem Tracks.mono {db db' : Database} {u : Int} {p : Int × Str}
    (hfriend : ∀ x ∈ db.friend, x ∈ db'.friend)
    (hstate : ∀ f st, ex ≠ some f → db.stateOf f = some st → db'.stateOf f = some st)
    (h : Tracks ex db u p) : Tracks ex db' u p := by
  obtain ⟨hf, hs⟩ := h
  refine ⟨hfriend _ hf, fun he => ?_⟩
  obtain ⟨st, hst, htext⟩ := Option.map_eq_some_iff.mp (hs he)
  rw [hstate _ _ he hst, ← htext]
  rfl

theorem Informed.quieter (h : Informed fromJson ex w) (hq : Quieter fromJson ex w w') :
    Informed fromJson ex w' := by
  intro u conn hl hc
  rw [hq.told conn]
  exact (h u conn (hq.entries u conn hl) (hq.conns conn hc)).mono fun p =>
    Tracks.mono hq.friend hq.state

/-- More packets. -/
theorem packets_append {s s' : Server} {ds : List Delivery} (h : s'.outbox = s.outbox ++ ds)
    (c : ConnId) : s'.packets c =
      s.packets c ++ (ds.filter fun d => d.conn = c ∧ d.accepted).map (·.js) := by
  unfold Server.packets
  rw [h, List.filter_append, List.map_append]

/-- Nobody is entered. -/
def EntersNobody : Act → Prop
  | .forceRelogin .. => False
  | .mapUser .. => False
  | _ => True

/-- An action that says nothing of friends, enters nobody, and changes no state but that of `ex`. -/
def QuietAct (fromJson : Str → Option Json) (ex : Option Int) : Act → Prop
  | .sql st => ∀ u, TouchesState u st → ex = some u
  | .send _ js => toldOf fromJson js = none
  | .routeGroup _ js => toldOf fromJson js = none
  | .forceRelogin .. => False
  | .mapUser .. => False
  | _ => True

theorem entersNobody_of_quiet {a : Act} (h : QuietAct fromJson ex a) : EntersNobody a := by
  cases a <;> first | exact trivial | exact h

theorem ServerStep.entries_erased {a : Act} {s s' : Server} (ha : EntersNobody a)
    (h : ServerStep a s s') {u : Int} {conn : ConnId} (hl : s'.userConnMap.lookup u = some conn) :
    s.userConnMap.lookup u = some conn := by
  have herase : ∀ id, (s.userConnMap.erase id).lookup u = some conn →
      s.userConnMap.lookup u = some conn := by
    intro id hl
    by_cases hu : u = id
    · subst hu
      rw [AList.lookup_erase] at hl
      cases hl
    · rwa [AList.lookup_erase_ne hu] at hl
  by_cases hw : WritesMap a
  · cases h with
    | eraseUser _ id => exact herase id hl
    | eraseConn _ _ id => exact herase id hl
    | keep => exact hl
    | forceRelogin => exact ha.elim
    | mapUser => exact ha.elim
    | _ => exact hw.elim
  · rwa [h.map hw] at hl

theorem ServerStep.still_open {a : Act} {s s' : Server} (ha : EntersNobody a)
    (h : ServerStep a s s') {conn : ConnId} (hc : s'.conns conn = .connected) :
    s.conns conn = .connected := by
  by_cases hs : ∃ c, a = .shutdown c
  · obtain ⟨c, rfl⟩ := hs
    cases h with
    | keep => exact hc
    | shutdown => exact ((s.shutdownConn_open c conn).mp hc).1
  · rw [not_exists] at hs
    rwa [h.conns hs (by rintro id c rfl; exact ha)] at hc

theorem exec_fewer {a : Act} {r : a.Res} (ha : EntersNobody a)
    (h : World.exec 0 a w = some (r, w')) : Fewer w w' where
  entries u conn hl := (exec_server h 0).entries_erased ha hl
  conns conn hc := (exec_server h 0).still_open ha hc
  packets conn := by
    obtain ⟨ds, houtbox, -⟩ := (exec_server h 0).outbox
    exact ⟨_, packets_append houtbox conn⟩

theorem run_fewer {α : Type} {p : Serv α} {x : α} (hp : p.All EntersNobody)
    (h : p.run (0 : ServerId) w = some (x, w')) : Fewer w w' :=
  hp.run_rel (L := chat) Fewer.refl (fun _ _ _ => Fewer.trans)
    (fun _ _ _ _ ha he => exec_fewer ha he) h

theorem exec_quieter {a : Act} {r : a.Res} (ha : QuietAct fromJson ex a)
    (h : World.exec 0 a w = some (r, w')) : Quieter fromJson ex w w' where
  toFewer := exec_fewer (entersNobody_of_quiet ha) h
  friend := by
    rcases exec_db h with e | ⟨st, ans, rfl, hx⟩
    · rw [e]
      exact fun _ hx => hx
    · intro x hf
      rcases Database.exec_friend hx with e | ⟨_, _, -, e⟩
      · rwa [e]
      · rw [e]
        exact List.mem_append_left _ hf
  state f st hf hs := by
    rcases exec_db h with e | ⟨st, ans, rfl, hx⟩
    · rwa [e]
    · exact exec_stateOf (fun ht => hf (ha f ht)) hx hs
  told conn := by
    obtain ⟨ds, houtbox, hds⟩ := (exec_server h 0).outbox
    rw [packets_append houtbox]
    refine told_append fromJson fun js hjs => ?_
    obtain ⟨d, hd, rfl⟩ := List.mem_map.mp hjs
    rcases hds d (List.mem_of_mem_filter hd) with rfl | ⟨ids, rfl⟩
    · exact ha
    · exact ha

theorem run_quieter {α : Type} {p : Serv α} {x : α} (hp : p.All (QuietAct fromJson ex))
    (h : p.run (0 : ServerId) w = some (x, w')) : Quieter fromJson ex w w' :=
  hp.run_rel (L := chat) Quieter.refl (fun _ _ _ => Quieter.trans)
    (fun _ _ _ _ ha he => exec_quieter ha he) h

end Quiet

/-! ## A new state -/

theorem run_sendAll (i : ServerId) (w : World) (conns : List ConnId) (js : Json) :
    (Prog.each (fun conn => sendJson conn js) conns).run i w =
      some ((), w.modify i fun s => conns.foldl (·.deliver · js) s) := by
  induction conns generalizing w with
  | nil => simp [Prog.each, World.modify]
  | cons conn conns ih =>
    rw [Prog.each_cons, Prog.run_bind, run_sendJson, Option.bind_some, ih]
    simp [World.modify]

/-- The connections of the friends of `u` on the server. -/
def World.friendConns (w : World) (u : Int) : List ConnId :=
  (w.db.friendIds u).filterMap ((w.servers 0).userConnMap.lookup ·)

/-- What `notifyFriendState` leaves. -/
structure Notified (u : Int) (st : UserState) (w w' : World) : Prop where
  db : w'.db = w.db
  entries : (w'.servers 0).userConnMap = (w.servers 0).userConnMap
  conns : (w'.servers 0).conns = (w.servers 0).conns
  outbox : (w'.servers 0).outbox = (w.servers 0).outbox ++ (w.friendConns u).map fun c =>
    ⟨c, friendState u st, (w.servers 0).conns c = .connected⟩

theorem notifyFriendState_spec {w w' : World} {u : Int} {st : UserState} (hw : w.Works)
    (h : (notifyFriendState u st).run (0 : ServerId) w = some ((), w')) : Notified u st w w' := by
  unfold notifyFriendState at h
  rw [Prog.run_bind, run_friends, hw.ask_read rfl, Option.bind_some, Prog.run_bind,
    run_splitFriends, Option.bind_some, Prog.run_bind, run_sendAll, Option.bind_some,
    run_publishAll] at h
  cases h
  have hids : (User.friends (some (w.db.friendRows u))).map (·.id) = w.db.friendIds u := rfl
  rw [hids]
  obtain ⟨hdb, -, hservers⟩ := World.publishAll_spec (w.next.next.modify 0 fun s =>
    ((w.db.friendIds u).filterMap ((w.next.next.servers 0).userConnMap.lookup ·)).foldl
      (·.deliver · (friendState u st)) s) 0 ((w.db.friendIds u).filter fun id =>
        ((w.next.next.servers 0).userConnMap.lookup id).isNone) (friendState u st).dump
  refine ⟨hdb, ?_, ?_, ?_⟩
  all_goals
    rw [hservers, World.modify_self, Server.foldl_deliver]
    rfl

/-- Packets of one value, some for an open connection that is among these. -/
theorem map_deliveries (conns : List ConnId) (js : Json) (isOpen : ConnId → Bool) (c : ConnId) :
    ∃ m, ((conns.map fun c => (⟨c, js, isOpen c⟩ : Delivery)).filter fun d =>
        d.conn = c ∧ d.accepted).map (·.js) = List.replicate m js ∧
      (c ∈ conns → isOpen c = true → m ≠ 0) := by
  refine ⟨_, List.eq_replicate_of_mem fun x hx => ?_, fun hc ho hm => ?_⟩
  · obtain ⟨d, hd, rfl⟩ := List.mem_map.mp hx
    obtain ⟨_, -, rfl⟩ := List.mem_map.mp (List.mem_of_mem_filter hd)
    rfl
  · have hmem : (⟨c, js, isOpen c⟩ : Delivery) ∈
        (conns.map fun c => (⟨c, js, isOpen c⟩ : Delivery)).filter fun d =>
          d.conn = c ∧ d.accepted :=
      List.mem_filter.mpr ⟨List.mem_map_of_mem hc, by simp [ho]⟩
    rw [List.length_map, List.length_eq_zero_iff] at hm
    rw [hm] at hmem
    cases hmem

/-- A friend has a row, with an id that fits. -/
theorem friend_row {db : Database} (hk : db.Keyed) (hwf : db.Wf) {f owner : Int}
    (hf : (f, owner) ∈ db.friend) :
    ∃ row, db.user.find f = some row ∧ 1 ≤ f ∧ fitsInt f = true := by
  obtain ⟨row, hrow⟩ := Option.isSome_iff_exists.mp (hk.friend _ hf).1
  obtain ⟨hid, -⟩ := hwf.user_find hrow
  exact ⟨row, hrow, hid.1, fitsInt_id hid⟩

/-- A client reads the id `u` as that of a friend exactly if it is. -/
theorem qtInt_of_friend {db : Database} (hk : db.Keyed) (hwf : db.Wf) {f owner : Int}
    (hf : (f, owner) ∈ db.friend) (u : Int) : f = (Json.int u).qtInt ↔ f = u := by
  obtain ⟨-, -, hpos, hfit⟩ := friend_row hk hwf hf
  rw [Json.qtInt]
  split
  · rfl
  · rename_i hu
    -- what does not fit is read as 0
    constructor
    · intro e
      omega
    · rintro rfl
      exact absurd hfit hu

/-- **A change of the state of `u` is told** to everybody whose copy has `u`. -/
theorem notify_informed {fromJson : Str → Option Json} {w w' : World} {u : Int} {st : UserState}
    (hk : w.db.Keyed) (hwf : w.db.Wf) (hw : w.Works)
    (hst : ∀ st', w.db.stateOf u = some st' → st' = st) (h : Informed fromJson (some u) w)
    (hr : (notifyFriendState u st).run (0 : ServerId) w = some ((), w')) :
    Informed fromJson none w' := by
  obtain ⟨hdb, hentries, hconns, houtbox⟩ := notifyFriendState_spec hw hr
  intro owner conn hl hc
  rw [hentries] at hl
  rw [hconns] at hc
  obtain ⟨m, hpackets, hm⟩ := map_deliveries (w.friendConns u) (friendState u st)
    (fun c => (w.servers 0).conns c = .connected) conn
  rw [hdb, packets_append houtbox]
  have hread : ∀ f, (f, owner) ∈ w.db.friend → (f = (Json.int u).qtInt ↔ f = u) :=
    fun f hf => qtInt_of_friend hk hwf hf u
  have hnotes : told fromJson ((w.servers 0).packets conn ++ List.replicate m (friendState u st)) =
      copyOf ((((w.servers 0).packets conn).filterMap (toldOf fromJson)) ++
        List.replicate m (.set (Json.int u).qtInt st.text)) := by
    rw [told, List.filterMap_append, List.filterMap_replicate_of_some
      (toldOf_friendState fromJson u st)]
  rw [hpackets, hnotes]
  refine Tells.sets (h owner conn hl hc) ?_ ?_ ?_ ?_
  · rintro p hp ⟨hf, hs⟩
    refine ⟨hf, fun _ => hs fun e => hp ?_⟩
    exact (hread _ hf).mpr (Option.some.inj e).symm
  · rintro v ⟨hf, -⟩
    obtain ⟨row, hrow, -⟩ := friend_row hk hwf hf
    have hu : (Json.int u).qtInt = u := (hread _ hf).mp rfl
    have hsome : w.db.stateOf u = some row.state := by
      rw [Database.stateOf, ← hu, hrow]
      rfl
    refine ⟨hf, fun _ => ?_⟩
    rw [hu, hsome, hst _ hsome]
    rfl
  · rintro v ⟨hf, hs⟩
    exact ⟨hf, fun _ => hs (Option.some_ne_none _).symm⟩
  · rintro hzero v ⟨hf, -⟩
    have hu : (Json.int u).qtInt = u := (hread _ hf).mp rfl
    have hmem : conn ∈ w.friendConns u :=
      List.mem_filterMap.mpr ⟨owner, (Database.mem_friendIds hk).mpr (hu ▸ hf), hl⟩
    exact absurd hzero (hm hmem (decide_eq_true hc))

/-- What every run on a database that works keeps. -/
structure World.Intact (w : World) : Prop where
  works : w.Works
  keyed : w.db.Keyed
  wf : w.db.Wf

theorem run_intact {α : Type} {i : ServerId} {p : Serv α} {w w' : World} {x : α} (hs : w.Intact)
    (h : p.run i w = some (x, w')) : w'.Intact := by
  refine Prog.run_keep (L := chat) (I := World.Intact) (fun a w r w' hs he => ?_) hs h
  refine ⟨exec_works hs.works he, ?_, ?_⟩
  · rcases exec_db he with e | ⟨st, ans, rfl, hx⟩
    · rw [e]
      exact hs.keyed
    · exact Database.exec_keyed hs.keyed hx
  · rcases exec_db he with e | ⟨st, ans, rfl, hx⟩
    · rw [e]
      exact hs.wf
    · exact Database.exec_wf hs.wf hx

theorem Informed.mono {fromJson : Str → Option Json} {w : World} (h : Informed fromJson none w)
    (ex : Option Int) : Informed fromJson ex w := by
  intro u conn hl hc
  exact (h u conn hl hc).mono fun p hp => ⟨hp.1, fun _ => hp.2 (Option.some_ne_none _).symm⟩

/-- A new state and its notification. -/
theorem update_informed {fromJson : Str → Option Json} {w w' : World} {u : Int} {st : UserState}
    {user : User} (hid : user.id = u) (hstate : user.state = st) (hs : w.Intact)
    (h : Informed fromJson none w)
    (hr : (UserModel.updateState user >>= fun _ => notifyFriendState u st).run (0 : ServerId) w =
      some ((), w')) : Informed fromJson none w' := by
  subst hid hstate
  rw [Prog.run_bind] at hr
  obtain ⟨⟨ok, w₁⟩, hu, hr⟩ := Option.bind_eq_some_iff.mp hr
  have hs₁ := run_intact hs hu
  have hall : (UserModel.updateState user).All (QuietAct fromJson (some user.id)) :=
    all_ask trivial (fun v hv => congrArg some hv) trivial fun _ => trivial
  have hq := run_quieter hall hu
  rw [run_updateState] at hu
  cases hu
  refine notify_informed hs₁.keyed hs₁.wf hs₁.works (fun st' hst' => ?_)
    ((h.mono (some user.id)).quieter hq) hr
  rw [ask_updateState_stateOf hs.works, if_pos rfl] at hst'
  obtain ⟨_, -, rfl⟩ := Option.map_eq_some_iff.mp hst'
  rfl

end QtChat
