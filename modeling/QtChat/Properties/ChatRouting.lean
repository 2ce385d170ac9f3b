import QtChat.Client.Requests
import QtChat.Server.ChatRuns
import QtChat.Server.System

/-!
# Where a chat message goes

`oneChat` and `groupChat` trust the state in the recipient's row: if it says online the message is
published, and neither the answer of `Redis::publish` nor the number of receivers is looked at.

- `chat_safe_iff`: the recipient's message is handed over, received or stored exactly if the map,
  the state and Redis are as `Chat.Routes` says, for every outcome of the statements.
- `Chat.routes_of_works`: what that means when MySQL works.
-/

namespace QtChat

open Interleave ChatService

/-- What Redis pushed to server `j` in the run. -/
def receivedBy (j : ServerId) (w w' : World) : List (Int × Str) :=
  (w'.servers j).inbox.drop (w.servers j).inbox.length

/-- The offline messages that the run stored. -/
def storedIn (w w' : World) : List (Int × Str) :=
  w'.db.offlineMessage.drop w.db.offlineMessage.length

namespace Chat

/-- The message for `u` was handed to the connection of `u`, or a subscribed server received it, or
it was stored. -/
def Safe (m : Chat) (u : Int) (i : ServerId) (w w' : World) : Prop :=
  (∃ d ∈ sentIn i w w', (w.servers i).userConnMap.lookup u = some d.conn ∧ d.js = m.js) ∨
    (∃ j, (u, m.js.dump) ∈ receivedBy j w w') ∨ (u, m.js.dump) ∈ storedIn w w'

/-- The handler gets to know its recipients. -/
def Known (w : World) : Chat → Prop
  | .one _ _ => True
  | .group userid groupid _ => (w.ask (.selectGroupUserIds groupid userid)).1.isSome = true

/-- The world in which the handler looks `u` up. -/
def turn (u : Int) (i : ServerId) (w : World) : Chat → World
  | .one _ _ => w
  | .group userid groupid js =>
    (w.routed i userid groupid js).turnOf js (w.absent i (w.membersRead userid groupid)) u

/-- A route for the message: an entry in the map, or the row says online and the message is
published to a server that has the channel, or the row does not and the message can be stored. -/
def Routes (m : Chat) (u : Int) (i : ServerId) (w : World) : Prop :=
  m.Known w ∧ (((w.servers i).userConnMap.lookup u).isSome = true ∨
    (((m.turn u i w).lookedUp u).state = .online ∧ (w.servers i).publishContext = true ∧
      ∃ j, (w.servers j).live u = true) ∨
    (m.turn u i w).Stores m.js u)

end Chat

/-! ## What a message adds -/

theorem sentIn_eq {j : ServerId} {w w' : World} {ds : List Delivery}
    (h : (w'.servers j).outbox = (w.servers j).outbox ++ ds) : sentIn j w w' = ds := by
  rw [sentIn, h, List.drop_left]

theorem receivedBy_eq {j : ServerId} {w w' : World} {ms : List (Int × Str)}
    (h : (w'.servers j).inbox = (w.servers j).inbox ++ ms) : receivedBy j w w' = ms := by
  rw [receivedBy, h, List.drop_left]

theorem storedIn_eq {w w' : World} {ms : List (Int × Str)}
    (h : w'.db.offlineMessage = w.db.offlineMessage ++ ms) : storedIn w w' = ms := by
  rw [storedIn, h, List.drop_left]

theorem cstr_dump (js : Json) : cstr js.dump = js.dump := cstr_of_no_nul (Json.no_nul_dump js)

/-- To somebody who is in the map. -/
theorem oneChat_safe_of_entry {w : World} {i : ServerId} {toid : Int} {js : Json} {conn : ConnId}
    (h : (w.servers i).userConnMap.lookup toid = some conn) :
    (Chat.one toid js).Safe toid i w (w.afterOneChat i toid js) := by
  have hs : sentIn i w (w.afterOneChat i toid js) =
      [⟨conn, js, (w.servers i).conns conn = .connected⟩] := by
    refine sentIn_eq ?_
    simp only [World.afterOneChat, h, World.modify_self, Server.deliver]
  exact .inl ⟨_, by rw [hs]; exact List.mem_singleton_self _, h, rfl⟩

/-- To somebody who is not: what is published and what is stored. -/
theorem oneChat_adds {w : World} {i : ServerId} {toid : Int} (js : Json)
    (h : (w.servers i).userConnMap.lookup toid = none) :
    (∀ j, receivedBy j w (w.afterOneChat i toid js) =
      if (w.lookedUp toid).state = .online ∧ (w.servers i).publishContext ∧ (w.servers j).live toid
      then [(toid, js.dump)] else []) ∧
    storedIn w (w.afterOneChat i toid js) =
      if w.Stores js toid then [(toid, js.dump)] else [] := by
  have hs := w.same_ask (s := .selectUser toid) fun db => ⟨_, rfl⟩
  unfold World.afterOneChat World.Stores
  rw [h]
  by_cases ho : (w.lookedUp toid).state = .online
  · simp only [ho, if_true, ne_eq, not_true, false_and, if_false, true_and]
    constructor
    · intro j
      refine receivedBy_eq ?_
      rw [World.published_servers, hs.servers, cstr_dump]
    · exact storedIn_eq (by rw [World.published_db, hs.db, List.append_nil])
  · simp only [ho, if_false, ne_eq, not_false_eq_true, true_and, false_and]
    constructor
    · intro j
      exact receivedBy_eq (by rw [World.ask_servers, hs.servers, List.append_nil])
    · exact storedIn_eq (by rw [World.ask_insert_rows, hs.db])

theorem oneChat_safe_iff (w : World) (i : ServerId) (toid : Int) (js : Json) :
    (Chat.one toid js).Safe toid i w (w.afterOneChat i toid js) ↔
      (Chat.one toid js).Routes toid i w := by
  cases h : (w.servers i).userConnMap.lookup toid with
  | some conn =>
    exact ⟨fun _ => ⟨trivial, .inl (by rw [h]; rfl)⟩, fun _ => oneChat_safe_of_entry h⟩
  | none =>
    obtain ⟨hr, hs⟩ := oneChat_adds (i := i) js h
    simp only [Chat.Safe, Chat.Routes, Chat.js, Chat.Known, Chat.turn, h, hr, hs]
    constructor
    · rintro (⟨d, -, hd, -⟩ | ⟨j, hj⟩ | hj)
      · cases hd
      · split at hj
        · rename_i hc
          exact ⟨trivial, .inr (.inl ⟨hc.1, hc.2.1, j, hc.2.2⟩)⟩
        · cases hj
      · split at hj
        · rename_i hc
          exact ⟨trivial, .inr (.inr hc)⟩
        · cases hj
    · rintro ⟨-, hc | ⟨ho, hp, j, hl⟩ | hc⟩
      · cases hc
      · exact .inr (.inl ⟨j, by rw [if_pos ⟨ho, hp, hl⟩]; exact List.mem_singleton_self _⟩)
      · exact .inr (.inr (by rw [if_pos hc]; exact List.mem_singleton_self _))

/-- The members that the handler knows of are those of the group, if the query is answered. -/
theorem membersRead_of_known {w : World} {userid groupid : Int}
    (h : (w.ask (.selectGroupUserIds groupid userid)).1.isSome = true) :
    w.membersRead userid groupid = w.db.otherMembers groupid userid := by
  rcases w.ask_cases (.selectGroupUserIds groupid userid) with ⟨ha, -⟩ | ⟨r, db, he, ha, -⟩
  · rw [ha] at h; cases h
  · cases he
    rw [World.membersRead, ha]
    rfl

/-- Nothing is done for a group whose members cannot be read. -/
theorem groupChat_unknown {w : World} {i : ServerId} {userid groupid : Int} {js : Json}
    (h : ¬(w.ask (.selectGroupUserIds groupid userid)).1.isSome = true) (u : Int) :
    ¬(Chat.group userid groupid js).Safe u i w (w.afterGroupChat i userid groupid js) := by
  have hm : w.membersRead userid groupid = [] := by
    rw [World.membersRead, Option.not_isSome_iff_eq_none.mp h]
    rfl
  have h₁ := w.afterGroupChat_outbox i userid groupid js
  have h₂ := w.afterGroupChat_inbox i userid groupid js
  have h₃ := w.afterGroupChat_rows i userid groupid js
  simp only [hm, World.absent, List.filterMap_nil, List.filter_nil, List.map_nil, World.crossIds,
    World.storedIds, ite_self] at h₁ h₂ h₃
  rintro (⟨d, hd, -⟩ | ⟨j, hj⟩ | hj)
  · rw [sentIn_eq h₁] at hd; cases hd
  · rw [receivedBy_eq (h₂ j)] at hj; cases hj
  · rw [storedIn_eq h₃] at hj; cases hj

theorem groupChat_safe_iff {w : World} (i : ServerId) {userid groupid u : Int} (js : Json)
    (hu : u ∈ w.db.otherMembers groupid userid) :
    (Chat.group userid groupid js).Safe u i w (w.afterGroupChat i userid groupid js) ↔
      (Chat.group userid groupid js).Routes u i w := by
  by_cases hk : (w.ask (.selectGroupUserIds groupid userid)).1.isSome = true
  · have hm := membersRead_of_known hk
    have hn : (w.membersRead userid groupid).Nodup := by
      rw [hm]; exact w.db.otherMembers_nodup groupid userid
    have hr := fun j => receivedBy_eq (w.afterGroupChat_inbox i userid groupid js j)
    have hs := storedIn_eq (w.afterGroupChat_rows i userid groupid js)
    rw [← hm] at hu
    cases h : (w.servers i).userConnMap.lookup u with
    | some conn =>
      refine ⟨fun _ => ⟨hk, .inl (by rw [h]; rfl)⟩, fun _ =>
        .inl ⟨⟨conn, js, (w.servers i).conns conn = .connected⟩, ?_, h, rfl⟩⟩
      rw [sentIn_eq (w.afterGroupChat_outbox i userid groupid js)]
      exact List.mem_map.mpr ⟨conn, List.mem_filterMap.mpr ⟨u, hu, h⟩, rfl⟩
    | none =>
      have ha : u ∈ w.absent i (w.membersRead userid groupid) :=
        List.mem_filter.mpr ⟨hu, by rw [h]; rfl⟩
      obtain ⟨hc, hst⟩ := (w.routed i userid groupid js).mem_turns js (hn.filter _) ha
      simp only [Chat.Safe, Chat.Routes, Chat.js, Chat.Known, Chat.turn, h, hr, hs, hk]
      constructor
      · rintro (⟨d, -, hd, -⟩ | ⟨j, hj⟩ | hj)
        · cases hd
        · split at hj
          · rename_i hp
            obtain ⟨ch, hch, he⟩ := List.mem_map.mp hj
            obtain ⟨rfl, -⟩ := Prod.mk.inj he
            obtain ⟨hx, hl⟩ := List.mem_filter.mp hch
            exact ⟨trivial, .inr (.inl ⟨hc.mp hx, hp, j, hl⟩)⟩
          · cases hj
        · obtain ⟨id, hid, he⟩ := List.mem_map.mp hj
          obtain ⟨rfl, -⟩ := Prod.mk.inj he
          exact ⟨trivial, .inr (.inr (hst.mp hid))⟩
      · rintro ⟨-, hx | ⟨ho, hp, j, hl⟩ | hx⟩
        · cases hx
        · refine .inr (.inl ⟨j, ?_⟩)
          rw [if_pos hp, cstr_dump]
          exact List.mem_map.mpr ⟨u, List.mem_filter.mpr ⟨hc.mpr ho, hl⟩, rfl⟩
        · exact .inr (.inr (List.mem_map.mpr ⟨u, hst.mpr hx, rfl⟩))
  · exact ⟨fun h => absurd h (groupChat_unknown hk u), fun h => absurd h.1 hk⟩

/-! ## When MySQL works -/

theorem Chat.turn_of_works {w : World} (hw : w.Works) (i : ServerId) (m : Chat) (u : Int) :
    (m.turn u i w).Works ∧ (m.turn u i w).db.user = w.db.user := by
  cases m with
  | one toid js => exact ⟨hw, rfl⟩
  | group userid groupid js =>
    have hr : (w.routed i userid groupid js).Works := (w.same_membersRead userid groupid).works hw
    obtain ⟨-, h₂, -, h₄⟩ := hr.afterTurns js
      ((w.absent i (w.membersRead userid groupid)).takeWhile (· ≠ u))
    refine ⟨h₂, ?_⟩
    change ((w.routed i userid groupid js).afterTurns js _).db.user = _
    rw [h₄, (Database.storeAll_spec ..).1, World.routed_db]

/-- **The routes** when MySQL works: an entry in the map; or the row says online, the connection for
`PUBLISH` is there and some server has the channel; or the row does not and MySQL takes the message.
-/
theorem Chat.routes_of_works {w : World} (hw : w.Works) (i : ServerId) (m : Chat) (u : Int) :
    m.Routes u i w ↔ ((w.servers i).userConnMap.lookup u).isSome = true ∨
      (w.db.stateOf u = some .online ∧ (w.servers i).publishContext = true ∧
        ∃ j, (w.servers j).live u = true) ∨
      (w.db.stateOf u ≠ some .online ∧ w.db.Takes u m.js.dump) := by
  obtain ⟨ht, hd⟩ := m.turn_of_works hw i u
  have hs := (m.turn u i w).same_ask (s := .selectUser u) fun db => ⟨_, rfl⟩
  have hk : m.Known w := by
    cases m with
    | one => trivial
    | group userid groupid js =>
      change (w.ask (.selectGroupUserIds groupid userid)).1.isSome = true
      rw [hw.ask_read rfl]
      rfl
  have ho : ((m.turn u i w).lookedUp u).state = .online ↔ w.db.stateOf u = some .online := by
    rw [ht.lookedUp_online, Database.stateOf, hd]
    rfl
  have hst : (m.turn u i w).Stores m.js u ↔
      w.db.stateOf u ≠ some .online ∧ w.db.Takes u m.js.dump := by
    have htk : (m.turn u i w).db.Takes u m.js.dump ↔ w.db.Takes u m.js.dump := by
      simp only [Database.Takes, Database.hasUser, hd]
    unfold World.Stores
    rw [ne_eq, ho, (hs.works ht).ask, Database.exec_insertSql, hs.db, ← htk]
    by_cases h : (m.turn u i w).db.Takes u m.js.dump
    · simp [h]
    · simp [h]
  simp only [Routes, hk, ho, hst, true_and]

/-! ## When a message is safe -/

/-- **When a message is safe.** From every state, whatever the statements answer, the handler gets
to its end, and the message for a recipient was then handed over, received or stored exactly if
there is a route for it. -/
theorem chat_safe_iff (w : World) (i : ServerId) (m : Chat) {u : Int} (hu : m.RoutedTo w.db u) :
    ∃ w', m.handle.run i w = some ((), w') ∧ (m.Safe u i w w' ↔ m.Routes u i w) := by
  cases m with
  | one toid js =>
    cases hu
    exact ⟨_, run_oneChatTo i w u js, oneChat_safe_iff w i u js⟩
  | group userid groupid js =>
    exact ⟨_, w.run_groupChatFrom i userid groupid js, groupChat_safe_iff i js hu⟩

/-- A group of three: user 1, who writes, is on server 0; the row of user 2 says online, but the user
is on no server; user 3 is offline. -/
def staleWorld : World where
  db := { Database.created id with
    user := ⟨[(1, ⟨txt "ann", txt "pw", .online⟩), (2, ⟨txt "bob", txt "pw", .online⟩),
      (3, ⟨txt "cat", txt "pw", .offline⟩)], by decide⟩
    groupUser := ⟨[((5, 1), .creator), ((5, 2), .normal), ((5, 3), .normal)], by decide⟩ }
  servers j :=
    { Server.stopped with
      running := true
      publishContext := true
      userConnMap := if j = 0 then AList.insert 1 1 ∅ else ∅
      conns := fun _ => .connected
      live := fun ch => j = 0 && ch == 1 }
  fates _ := ⟨true, 0⟩
  now := 0

/-- What user 1 writes. -/
def helloAll : Chat := .group 1 5 (ChatClient.groupChat 1 (txt "ann") 5 (txt "hello") (txt "now"))

/-- It is stored for user 3, and lost for user 2. -/
theorem chat_safe_iff_stale : ∃ w', helloAll.handle.run (0 : ServerId) staleWorld = some ((), w') ∧
    ¬helloAll.Safe 2 0 staleWorld w' ∧ helloAll.Safe 3 0 staleWorld w' := by
  have hw : staleWorld.Works := fun _ => rfl
  obtain ⟨w', hr, hlost⟩ := chat_safe_iff staleWorld 0 helloAll (u := 2) (by decide)
  obtain ⟨w'', hr', hkept⟩ := chat_safe_iff staleWorld 0 helloAll (u := 3) (by decide)
  obtain rfl : w' = w'' := congrArg Prod.snd (Option.some.inj (hr.symm.trans hr'))
  rw [Chat.routes_of_works hw] at hlost hkept
  refine ⟨w', hr, fun hsafe => ?_, hkept.mpr (.inr (.inr (by decide +kernel)))⟩
  rcases hlost.mp hsafe with h | ⟨-, -, j, h⟩ | ⟨h, -⟩
  · exact absurd h (by decide)
  · simp [staleWorld] at h
  · exact absurd rfl h

/-! ## A message that is lost -/

/-- A message for user 1. -/
def hello : Chat := .one 1 (ChatClient.oneChat 2 (txt "bob") 1 (txt "hello") (txt "now"))

/-- A parser of the requests below. -/
def routingParser : JsonParser :=
  .ofDumps [ChatClient.reg (txt "ann") (txt "pw"), ChatClient.login 1 (txt "pw")]

/-- User 1 logs in, the server dies, and a server without Redis starts. -/
def routingLabels : List Label :=
  [.start 0 true, .connect 0 1,
    .whole 0 (.frame 1 (ChatClient.reg (txt "ann") (txt "pw")).dump),
    .whole 0 (.frame 1 (ChatClient.login 1 (txt "pw")).dump),
    .crash 0, .start 0 false, .connect 0 2]

/-- The row still says online, so a message is published, and lost. -/
theorem chat_lost : ¬∀ (P : JsonParser) (s : Sys), (system P).Reach s →
    ∀ (i : ServerId) (m : Chat) (u : Int), m.RoutedTo s.world.db u →
      ∀ w', m.handle.run i s.world = some ((), w') → m.Safe u i s.world w' := by
  intro hall
  have h : ((system routingParser).runs routingLabels Sys.initial).map (fun s : Sys =>
      ((s.world.servers 0).userConnMap.lookup 1, s.world.db.stateOf 1,
        (s.world.servers 0).publishContext)) = some (none, some .online, false) := by
    decide +kernel
  obtain ⟨s, hs, hf⟩ := Option.map_eq_some_iff.mp h
  simp only [Prod.mk.injEq] at hf
  obtain ⟨hl, hst, hp⟩ := hf
  have hsafe := hall routingParser s (reach_of_runs hs) 0 hello 1 rfl _ (run_oneChatTo 0 s.world 1 _)
  have hr := (oneChat_safe_iff s.world 0 1 _).mp hsafe
  rw [Chat.routes_of_works (works_of_runs hs)] at hr
  rw [hl, hst, hp] at hr
  simp at hr

end QtChat
