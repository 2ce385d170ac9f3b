import QtChat.Properties.ChatRouting
import QtChat.Properties.Reconnect
import QtChat.Server.System

/-!
# A message for a user who leaves

A message for `u` interleaves with the logout of `u` or the close of a connection; between the steps
the observer thread handles what Redis has pushed, one callback at a time.

- `Grows`: what none of these steps takes back.
- `Secured`: the message was handed over, is stored, or is in the inbox of the observer. Every step
  keeps it (`callback_secured`), and each way to deliver the message makes it so
  (`attempt_secures`).
- `chat_survives_logout`: the message is handed over or stored if, where it is stored, it fits the
  statement (`fitCallback`), and the channel is subscribed when it is published.
-/

namespace QtChat

open Interleave ChatService

/-- One callback of the observer thread on server `i`. -/
def callback (J : JsonParser) (i : ServerId) (w : World) : Option World :=
  (Job.redis.begin J i w).bind fun r => (r.1.run i r.2).map (·.2)

/-- The observer is about to store the message for `u`, who has no entry. -/
def AboutToStore (i : ServerId) (u : Int) (js : Json) (w : World) : Prop :=
  (w.servers i).inbox.head? = some (u, js.dump) ∧ (w.servers i).userConnMap.lookup u = none

instance (i : ServerId) (u : Int) (js : Json) (w : World) : Decidable (AboutToStore i u js w) :=
  inferInstanceAs (Decidable (_ ∧ _))

/-- A callback that stores the message for `u` only with a statement that it fits. -/
def fitCallback (J : JsonParser) (i : ServerId) (u : Int) (js : Json) (w : World) : Option World :=
  if AboutToStore i u js w → Fits u js.dump then callback J i w else none

/-- The handlers by which users leave. -/
inductive Leaves (u : Int) : Serv Unit → Prop
  | loginout (conn : ConnId) : Leaves u (loginoutAs conn u)
  | close (conn : ConnId) : Leaves u (clientCloseException conn)

/-- The packets for the connection of `u` that were handed over between the worlds. -/
def handedTo (i : ServerId) (u : Int) (js : Json) (w w' : World) : Prop :=
  ∃ d ∈ sentIn i w w', (w.servers i).userConnMap.lookup u = some d.conn ∧ d.js = js

/-- The messages for `u` that were stored between the worlds. -/
def storedFor (u : Int) (w w' : World) : List Str :=
  (w'.db.offlineOf u).drop (w.db.offlineOf u).length

/-! ## What stays -/

/-- The actions here: no row is removed or renamed, and nobody is entered. -/
def RaceAct (a : Act) : Prop :=
  SessionAct a ∧ (∀ id, a ≠ .sql (.deleteOffline id)) ∧ ∀ id conn, ¬Enters id conn a

theorem raceAct_of_chat {a : Act} (h : ChatAct a) : RaceAct a := by
  refine ⟨sessionAct_of_chat h, ?_, ?_⟩
  · rintro id rfl
    exact h
  · intro id conn he
    cases a <;> first | exact he | exact h

theorem raceAct_of_logout {conn : ConnId} {id : Int} {a : Act} (h : LogoutAct conn id a) :
    RaceAct a := by
  refine ⟨sessionAct_of_logout h, ?_, ?_⟩
  · rintro id rfl
    rcases h with h | h <;> cases h
  · intro id conn he
    cases a <;> first | exact he | exact h

theorem Leaves.all {u : Int} {p : Serv Unit} (h : Leaves u p) : p.All RaceAct := by
  cases h with
  | loginout conn => exact (loginoutAs_all conn u).mono fun _ => raceAct_of_logout
  | close conn =>
    refine (clientCloseException_all conn).mono ?_
    rintro a (rfl | ⟨id, ha⟩)
    · exact ⟨trivial, (fun _ e => nomatch e), fun _ _ he => he⟩
    · exact raceAct_of_logout ha

/-- What these actions keep on server `i` and of `u`. -/
structure Grows (i : ServerId) (u : Int) (w w' : World) : Prop where
  works : w.Works → w'.Works
  publish : (w'.servers i).publishContext = (w.servers i).publishContext
  user : w'.db.hasUser u = w.db.hasUser u
  groups : w'.db.groupUser = w.db.groupUser
  entry : ∀ conn, (w'.servers i).userConnMap.lookup u = some conn →
    (w.servers i).userConnMap.lookup u = some conn
  outbox : ∃ ds, (w'.servers i).outbox = (w.servers i).outbox ++ ds
  offline : ∃ ms, w'.db.offlineOf u = w.db.offlineOf u ++ ms

section Grows

variable {i : ServerId} {u : Int} {w w₁ w₂ w' : World}

theorem Grows.refl (i : ServerId) (u : Int) (w : World) : Grows i u w w :=
  ⟨id, rfl, rfl, rfl, fun _ => id, ⟨[], by simp⟩, ⟨[], by simp⟩⟩

theorem Grows.trans (h : Grows i u w w₁) (h' : Grows i u w₁ w₂) : Grows i u w w₂ := by
  obtain ⟨ds, hd⟩ := h.outbox
  obtain ⟨ds', hd'⟩ := h'.outbox
  obtain ⟨ms, hm⟩ := h.offline
  obtain ⟨ms', hm'⟩ := h'.offline
  exact ⟨fun hw => h'.works (h.works hw), h'.publish.trans h.publish, h'.user.trans h.user,
    h'.groups.trans h.groups, fun conn hc => h.entry conn (h'.entry conn hc),
    ⟨ds ++ ds', by rw [hd', hd, List.append_assoc]⟩, ⟨ms ++ ms', by rw [hm', hm, List.append_assoc]⟩⟩

theorem exec_grows {a : Act} {r : a.Res} (ha : RaceAct a) (h : World.exec i a w = some (r, w')) :
    Grows i u w w' where
  works hw := exec_works hw h
  publish := ((exec_server h i).contexts).1
  user := exec_hasUser ha.1 h
  groups := exec_groupUser ha.1 h
  entry conn hl := (exec_server h i).entry (ha.2.2 u) hl
  outbox := by
    obtain ⟨ds, hd, -⟩ := (exec_server h i).outbox
    exact ⟨ds, hd⟩
  offline := ⟨_, exec_offlineOf u h ha.2.1⟩

theorem run_grows {p : Serv Unit} {x : Unit} (hp : p.All RaceAct)
    (h : p.run i w = some (x, w')) : Grows i u w w' :=
  hp.run_rel (L := chat) (Grows.refl i u) (fun _ _ _ => Grows.trans)
    (fun _ _ _ _ ha he => exec_grows ha he) h

end Grows

/-! ## Secured messages -/

/-- The message was handed over, or is stored, or Redis has pushed it. -/
def Secured (i : ServerId) (u : Int) (js : Json) (w₀ w : World) : Prop :=
  handedTo i u js w₀ w ∨ js.dump ∈ storedFor u w₀ w ∨ (u, js.dump) ∈ (w.servers i).inbox

section Secured

variable {i : ServerId} {u : Int} {js : Json} {w₀ w w' : World}

theorem handedTo_of_outbox (hg : Grows i u w₀ w) {ds : List Delivery}
    (h : (w'.servers i).outbox = (w.servers i).outbox ++ ds) :
    (handedTo i u js w₀ w → handedTo i u js w₀ w') ∧
      ∀ d ∈ ds, (w₀.servers i).userConnMap.lookup u = some d.conn → d.js = js →
        handedTo i u js w₀ w' := by
  obtain ⟨ds₀, h₀⟩ := hg.outbox
  have hs : sentIn i w₀ w' = sentIn i w₀ w ++ ds := by
    rw [sentIn, sentIn, h, h₀, List.append_assoc, List.drop_left, List.drop_left]
  constructor
  · rintro ⟨d, hd, hc⟩
    exact ⟨d, by rw [hs]; exact List.mem_append_left _ hd, hc⟩
  · intro d hd hl hj
    exact ⟨d, by rw [hs]; exact List.mem_append_right _ hd, hl, hj⟩

theorem storedFor_of_rows (hg : Grows i u w₀ w) {ms : List Str}
    (h : w'.db.offlineOf u = w.db.offlineOf u ++ ms) :
    storedFor u w₀ w' = storedFor u w₀ w ++ ms := by
  obtain ⟨ms₀, h₀⟩ := hg.offline
  rw [storedFor, storedFor, h, h₀, List.append_assoc, List.drop_left, List.drop_left]

/-- What is secured stays so. -/
theorem Secured.mono (hg : Grows i u w₀ w) (h : Grows i u w w')
    (hin : (w.servers i).inbox ⊆ (w'.servers i).inbox) (hs : Secured i u js w₀ w) :
    Secured i u js w₀ w' := by
  obtain ⟨ds, hd⟩ := h.outbox
  obtain ⟨ms, hm⟩ := h.offline
  rcases hs with hs | hs | hs
  · exact .inl ((handedTo_of_outbox hg hd).1 hs)
  · exact .inr (.inl (by rw [storedFor_of_rows hg hm]; exact List.mem_append_left _ hs))
  · exact .inr (.inr (hin hs))

/-- A message that fits is stored when MySQL works. -/
theorem secured_of_insert (hg : Grows i u w₀ w) (hu : w₀.db.hasUser u = true)
    (hfit : Fits u js.dump) (h : w'.db = w.db.store u js.dump) : Secured i u js w₀ w' := by
  have ht : w.db.Takes u js.dump := ⟨hfit, hg.user.trans hu, hfit.length_le⟩
  have ho : w'.db.offlineOf u = w.db.offlineOf u ++ [js.dump] := by
    rw [h, Database.offlineOf, Database.store_offlineMessage, if_pos ht, List.filter_append,
      List.map_append]
    simp [Database.offlineOf]
  exact .inr (.inl (by rw [storedFor_of_rows hg ho]; simp))

end Secured

/-- A chat message that Redis pushes is stored, not dropped. -/
theorem storeMessage_chat {js : Json} {n : Int} (h : js.intAt "msgid" = .ok n) (hn : n ≠ 11)
    (userid : Int) (msg : Str) :
    storeMessage (some js) userid msg = OfflineMsgModel.insert userid msg := by
  unfold storeMessage
  split
  · rename_i m e
    cases e
    rw [h]
    split
    · exact if_neg hn
    · rfl
  · rfl

section Callback

variable {J : JsonParser} {i : ServerId} {u : Int} {js : Json} {w₀ w w' : World}

theorem callback_eq (h : callback J i w = some w') : ∃ ch message inbox,
    (w.servers i).inbox = (ch, message) :: inbox ∧
    (handleRedisSubscribeMessage J ch message).run i (w.modify i fun s => { s with inbox }) =
      some ((), w') := by
  obtain ⟨⟨p, w₁⟩, hb, h⟩ := Option.bind_eq_some_iff.mp h
  obtain ⟨⟨x, w₂⟩, hr, rfl⟩ := Option.map_eq_some_iff.mp h
  cases Job.begins hb with
  | @redis ch message inbox hin => exact ⟨ch, message, inbox, hin, hr⟩

theorem fitCallback_eq (h : fitCallback J i u js w = some w') :
    (AboutToStore i u js w → Fits u js.dump) ∧ callback J i w = some w' :=
  Option.ite_none_right_eq_some.mp h

theorem grows_pop (inbox : List (Int × Str)) :
    Grows i u w (w.modify i fun s => { s with inbox }) where
  works hw := hw
  publish := by rw [World.modify_self]
  user := rfl
  groups := rfl
  entry conn := by rw [World.modify_self]; exact id
  outbox := ⟨[], by rw [World.modify_self]; simp⟩
  offline := ⟨[], by simp⟩

theorem callback_grows (h : callback J i w = some w') : Grows i u w w' := by
  obtain ⟨ch, message, inbox, -, hr⟩ := callback_eq h
  exact (grows_pop inbox).trans (run_grows
    ((handleRedisSubscribeMessage_all J ch message).mono fun _ => raceAct_of_chat) hr)

/-- The callback for the message hands it over or stores it. -/
theorem redis_secures {n : Int} (hg : Grows i u w₀ w) (hw : w₀.Works) (hu : w₀.db.hasUser u = true)
    (hfit : (w.servers i).userConnMap.lookup u = none → Fits u js.dump)
    (hJ : J.parse js.dump = some js) (hn : js.intAt "msgid" = .ok n)
    (hne : n ≠ 11) (h : (handleRedisSubscribeMessage J u js.dump).run i w = some ((), w')) :
    Secured i u js w₀ w' := by
  unfold handleRedisSubscribeMessage at h
  rw [Prog.run_bind, run_findConn, Option.bind_some, hJ] at h
  cases hl : (w.servers i).userConnMap.lookup u with
  | some conn =>
    rw [hl] at h
    cases (run_sendJson i w conn js).symm.trans h
    have ho : ((w.modify i (·.deliver conn js)).servers i).outbox = (w.servers i).outbox ++
        [⟨conn, js, (w.servers i).conns conn = .connected⟩] := by
      rw [World.modify_self, Server.deliver]
    exact .inl ((handedTo_of_outbox hg ho).2 _ (List.mem_singleton_self _) (hg.entry conn hl) rfl)
  | none =>
    rw [hl] at h
    simp only [storeMessage_chat hn hne] at h
    cases (run_insertOffline i w u js.dump).symm.trans h
    exact secured_of_insert hg hu (hfit hl) ((hg.works hw).ask_insert u js.dump)

/-- **A callback keeps what is secured.** -/
theorem callback_secured {n : Int} (hg : Grows i u w₀ w) (hw : w₀.Works)
    (hu : w₀.db.hasUser u = true) (hJ : J.parse js.dump = some js)
    (hn : js.intAt "msgid" = .ok n) (hne : n ≠ 11) (h : fitCallback J i u js w = some w')
    (hs : Secured i u js w₀ w) : Secured i u js w₀ w' := by
  obtain ⟨hfit, h⟩ := fitCallback_eq h
  obtain ⟨ch, message, inbox, hin, hr⟩ := callback_eq h
  have hp : Grows i u w (w.modify i fun s => { s with inbox }) := grows_pop inbox
  have hrun : Grows i u _ w' := run_grows
    ((handleRedisSubscribeMessage_all J ch message).mono fun _ => raceAct_of_chat) hr
  have hsub := run_inbox hr i
  rw [World.modify_self] at hsub
  rcases hs with hs | hs | hs
  · obtain ⟨ds, hd⟩ := (hp.trans hrun).outbox
    exact .inl ((handedTo_of_outbox hg hd).1 hs)
  · obtain ⟨ms, hm⟩ := (hp.trans hrun).offline
    exact .inr (.inl (by rw [storedFor_of_rows hg hm]; exact List.mem_append_left _ hs))
  · rw [hin] at hs
    rcases List.mem_cons.mp hs with e | hs
    · cases e
      refine redis_secures (hg.trans hp) hw hu (fun hl => hfit ⟨?_, ?_⟩) hJ hn hne hr
      · rw [hin, List.head?_cons]
      · rwa [World.modify_self] at hl
    · exact .inr (.inr (hsub hs))

end Callback

/-! ## The sender -/

/-- The call delivers the message for `u`: it hands it to the connection found, publishes it, or
stores it. -/
def Attempt (i : ServerId) (u : Int) (js : Json) (w₀ : World) : Call chat → Prop
  | ⟨.send conn js', _⟩ => (w₀.servers i).userConnMap.lookup u = some conn ∧ js' = js
  | ⟨.routeGroup ids js', absent⟩ => u ∈ ids ∧ u ∉ absent ∧ js' = js
  | ⟨.publish ch message, _⟩ => ch = u ∧ message = js.dump
  | ⟨.sql (.insertOffline sql), _⟩ => sql = OfflineMsgModel.insertSql u js.dump
  | _ => False

/-- What the sender is answered. -/
def Truthful (i : ServerId) (u : Int) (w₀ : World) : Call chat → Prop
  | ⟨.acquire, ok⟩ => ok = true
  | ⟨.findConn id, found⟩ => id = u → ∀ conn, found = some conn →
      (w₀.servers i).userConnMap.lookup u = some conn
  | ⟨.sql (.selectGroupUserIds groupid userid), ans⟩ =>
      ans = some (w₀.db.otherMembers groupid userid)
  | _ => True

section Sender

variable {i : ServerId} {u : Int} {js : Json} {w₀ w w' : World} {a : Act} {r : a.Res}

theorem Grows.truthful (hg : Grows i u w₀ w) (hw : w₀.Works) (h : World.exec i a w = some (r, w')) :
    Truthful i u w₀ ⟨a, r⟩ := by
  unfold Truthful
  split
  · rename_i ok e
    cases e
    cases h
    exact hg.works hw 0
  · rename_i id found e
    cases e
    cases h
    rintro rfl conn hc
    exact hg.entry conn hc
  · rename_i groupid userid ans e
    cases e
    rw [World.exec, if_pos (hg.works hw 0)] at h
    cases h
    simp only [Database.otherMembers, hg.groups]
  · trivial

theorem query_ends (id : Int) (A : Call chat → Prop) :
    (UserModel.query id).Ends A fun _ _ => True :=
  (Prog.ends_of_all (Prog.all_true _)).mono fun _ _ _ => trivial

theorem insert_ends : (OfflineMsgModel.insert u js.dump).Ends (Truthful i u w₀) fun h _ =>
    ∃ c ∈ h, Attempt i u js w₀ c := by
  intro ok hok
  cases ok with
  | false => cases hok
  | true =>
    intro _ _
    exact ⟨_, List.mem_cons_of_mem _ (List.mem_singleton_self _), rfl⟩

theorem oneChat_attempts : (oneChatTo u js).Ends (Truthful i u w₀) fun h _ =>
    ∃ c ∈ h, Attempt i u js w₀ c := by
  intro found hf
  cases found with
  | some conn =>
    intro _ _
    exact ⟨_, List.mem_cons_of_mem _ (List.mem_singleton_self _), hf rfl conn rfl, rfl⟩
  | none =>
    refine (Prog.ends_bind (p := UserModel.query u)).mpr ((query_ends u _).mono fun h user _ => ?_)
    split
    · intro ok _
      exact ⟨⟨.publish u js.dump, ok⟩, by simp, rfl, rfl⟩
    · refine insert_ends.mono fun h' _ hc => ?_
      obtain ⟨c, hc, ha⟩ := hc
      exact ⟨c, by simp [hc], ha⟩

theorem storeOffline_attempts {ids : List Int} (hu : u ∈ ids) :
    (storeOffline js ids).Ends (Truthful i u w₀) fun h crossIds =>
      u ∈ crossIds ∨ ∃ c ∈ h, Attempt i u js w₀ c := by
  induction ids with
  | nil => cases hu
  | cons id ids ih =>
    refine (Prog.ends_bind (p := UserModel.query id)).mpr
      ((query_ends id _).mono fun h user _ => ?_)
    have hrest : u ≠ id → (storeOffline js ids).Ends (Truthful i u w₀) fun h crossIds =>
        u ∈ crossIds ∨ ∃ c ∈ h, Attempt i u js w₀ c :=
      fun e => ih ((List.mem_cons.mp hu).resolve_left e)
    split
    · refine (Prog.ends_bind (p := storeOffline js ids)).mpr ?_
      by_cases e : u = id
      · exact (Prog.ends_of_all (Prog.all_true _)).mono fun h' crossIds _ =>
          .inl (by rw [e]; exact List.mem_cons_self)
      · refine (hrest e).mono fun h' crossIds hc => ?_
        rcases hc with hc | ⟨c, hc, ha⟩
        · exact .inl (List.mem_cons_of_mem _ hc)
        · exact .inr ⟨c, by simp [hc], ha⟩
    · refine (Prog.ends_bind (p := OfflineMsgModel.insert id js.dump)).mpr ?_
      by_cases e : u = id
      · subst e
        refine insert_ends.mono fun h' _ hc => ?_
        obtain ⟨c, hc, ha⟩ := hc
        exact (Prog.ends_of_all (Prog.all_true _)).mono fun h'' crossIds _ =>
          .inr ⟨c, by simp [hc], ha⟩
      · refine (Prog.ends_of_all (Prog.all_true _)).mono fun h' _ _ => ?_
        refine (hrest e).mono fun h'' crossIds hc => ?_
        rcases hc with hc | ⟨c, hc, ha⟩
        · exact .inl hc
        · exact .inr ⟨c, by simp [hc], ha⟩

theorem publish_attempts {ids : List Int} (hu : u ∈ ids) :
    (Prog.each (fun id => do let _ ← publish id js.dump) ids).Ends (Truthful i u w₀) fun h _ =>
      ∃ c ∈ h, Attempt i u js w₀ c := by
  induction ids with
  | nil => cases hu
  | cons id ids ih =>
    intro ok _
    by_cases e : u = id
    · exact (Prog.ends_of_all (Prog.all_true _)).mono fun h _ _ =>
        ⟨_, List.mem_cons_self, e.symm, rfl⟩
    · refine (ih ((List.mem_cons.mp hu).resolve_left e)).mono fun h _ hc => ?_
      obtain ⟨c, hc, ha⟩ := hc
      exact ⟨c, List.mem_cons_of_mem _ hc, ha⟩

theorem groupChat_attempts {userid groupid : Int} (hu : u ∈ w₀.db.otherMembers groupid userid) :
    (groupChatFrom userid groupid js).Ends (Truthful i u w₀) fun h _ =>
      ∃ c ∈ h, Attempt i u js w₀ c := by
  have hq : (GroupModel.queryGroupUsers userid groupid).Ends (Truthful i u w₀)
      fun _ members => u ∈ members := by
    intro ok hok
    cases ok with
    | false => cases hok
    | true =>
      intro ans hans
      cases hans
      exact hu
  refine (Prog.ends_bind (p := GroupModel.queryGroupUsers userid groupid)).mpr
    (hq.mono fun h₁ members hm => ?_)
  intro absent _
  by_cases e : u ∈ absent
  · refine (Prog.ends_bind (p := storeOffline js absent)).mpr
      ((storeOffline_attempts e).mono fun h₂ crossIds hc => ?_)
    rcases hc with hc | ⟨c, hc, ha⟩
    · refine (publish_attempts hc).mono fun h₃ _ hp => ?_
      obtain ⟨c, hc, ha⟩ := hp
      exact ⟨c, by simp [hc], ha⟩
    · exact (Prog.ends_of_all (Prog.all_true _)).mono fun h₃ _ _ => ⟨c, by simp [hc], ha⟩
  · exact (Prog.ends_of_all (Prog.all_true _)).mono fun h₂ _ _ =>
      ⟨⟨.routeGroup members js, absent⟩, by simp, hm, e, rfl⟩

/-- **The sender delivers** the message in one of the ways. -/
theorem Chat.attempts {m : Chat} (hm : m.RoutedTo w₀.db u) :
    m.handle.Ends (Truthful i u w₀) fun h _ => ∃ c ∈ h, Attempt i u m.js w₀ c := by
  cases m with
  | one toid js =>
    cases hm
    exact oneChat_attempts
  | group userid groupid js => exact groupChat_attempts hm

/-- **Each way secures it**, a `PUBLISH` if the channel is subscribed then. -/
theorem attempt_secures (hg : Grows i u w₀ w) (hw : w₀.Works)
    (hpub : (w₀.servers i).publishContext = true) (hu : w₀.db.hasUser u = true)
    (hfit : a = .sql (.insertOffline (OfflineMsgModel.insertSql u js.dump)) → Fits u js.dump)
    (hlive : ∀ message, a = .publish u message → (w.servers i).live u = true)
    (ha : Attempt i u js w₀ ⟨a, r⟩) (h : World.exec i a w = some (r, w')) :
    Secured i u js w₀ w' := by
  unfold Attempt at ha
  split at ha
  · rename_i conn js' _ e
    cases e
    obtain ⟨hl, rfl⟩ := ha
    cases h
    have ho : ((w.modify i (·.deliver conn js')).servers i).outbox = (w.servers i).outbox ++
        [⟨conn, js', (w.servers i).conns conn = .connected⟩] := by
      rw [World.modify_self, Server.deliver]
    exact .inl ((handedTo_of_outbox hg ho).2 _ (List.mem_singleton_self _) hl rfl)
  · rename_i ids js' absent e
    cases e
    obtain ⟨hm, hn, rfl⟩ := ha
    cases h
    cases hl : (w.servers i).userConnMap.lookup u with
    | none => exact absurd (List.mem_filter.mpr ⟨hm, by rw [hl]; rfl⟩) hn
    | some conn =>
      have ho := congrArg Server.outbox (w.modify_self i fun s =>
        (ids.filterMap (s.userConnMap.lookup ·)).foldl (·.deliver · js') s)
      rw [Server.foldl_deliver] at ho
      refine .inl ((handedTo_of_outbox hg ho).2 _ (List.mem_map.mpr ⟨conn, ?_, rfl⟩)
        (hg.entry conn hl) rfl)
      exact List.mem_filterMap.mpr ⟨u, hm, hl⟩
  · rename_i ch message ok e
    cases e
    obtain ⟨rfl, rfl⟩ := ha
    rw [World.exec, if_pos (hg.publish.trans hpub)] at h
    cases h
    refine .inr (.inr ?_)
    simp only [Server.push, hlive _ rfl, if_true, cstr_dump]
    exact List.mem_append_right _ (List.mem_singleton_self _)
  · rename_i sql ans e
    cases e
    cases ha
    have hfit := hfit rfl
    refine secured_of_insert hg hu hfit ?_
    rw [World.exec, if_pos (hg.works hw 0), Database.exec_insertSql,
      if_pos ⟨hfit, hg.user.trans hu, hfit.length_le⟩] at h
    cases h
    rw [Database.store, if_pos ⟨hfit, hg.user.trans hu, hfit.length_le⟩]
  · exact ha.elim

end Sender

/-! ## The interleavings -/

/-- The id in a message of this kind. -/
def Chat.msgid : Chat → Int
  | .one .. => EnMsgType.oneChatMsg.toInt
  | .group .. => EnMsgType.groupChatMsg.toInt

/-- The message was parsed from a body and dispatched by its id. -/
def Chat.ReadFrom (J : JsonParser) (body : Str) (m : Chat) : Prop :=
  J.parse body = some m.js ∧ m.js.intAt "msgid" = .ok m.msgid

/-- Whenever thread `ts` publishes for `u`, the server has the channel. -/
def PublishedLive (J : JsonParser) (i : ServerId) (ts : Tid) (u : Int) (w : World)
    (tr : List (Ev chat)) : Prop :=
  ∀ tr₁ e tr₂ w₁ message, tr = tr₁ ++ e :: tr₂ → e.tid = ts → e.call.act = .publish u message →
    Evolves (L := chat) (fun _ => i) (callback J i) w tr₁ w₁ → (w₁.servers i).live u = true

section Trace

variable {J : JsonParser} {i : ServerId} {ts tl : Tid} {u : Int} {m : Chat} {P P' : Pool chat}
  {w w' : World} {tr : List (Ev chat)}

theorem grows_of_evolves (h : Evolves (L := chat) (fun _ => i) (callback J i) w tr w')
    (ha : ∀ e ∈ tr, RaceAct e.call.act) : Grows i u w w' :=
  h.keep (R := Grows i u) (Grows.refl i u) (fun _ _ _ => Grows.trans) (fun _ _ he => callback_grows he)
    fun e he _ _ hx => exec_grows (ha e he) hx

/-- A channel that is subscribed stays so until an `UNSUBSCRIBE`. -/
theorem live_of_evolves (h : Evolves (L := chat) (fun _ => i) (callback J i) w tr w')
    (hn : ∀ e ∈ tr, ¬Unsubscribes u e.call.act) (hl : (w.servers i).live u = true) :
    (w'.servers i).live u = true := by
  refine h.inv (I := fun w : World => (w.servers i).live u = true) ?_ (fun e he w w₁ hx => ?_) hl
  · intro w w₁ he hl
    obtain ⟨ch, message, inbox, -, hr⟩ := callback_eq he
    have hs := run_session ((handleRedisSubscribeMessage_all J ch message).mono
      fun _ => not_touches_of_chat u) hr
    rw [hs.live i, World.modify_self]
    exact hl
  · refine (exec_server hx i).stays_live ?_
    intro e'
    exact hn e he (by rw [e']; rfl)

/-- The order that is enough: no `PUBLISH` after an `UNSUBSCRIBE`. -/
theorem publishedLive_of_order (hl : (w.servers i).live u = true)
    (ho : tr.Pairwise fun x e => Unsubscribes u x.call.act → e.tid ≠ ts) :
    PublishedLive J i ts u w tr := by
  rintro tr₁ e tr₂ w₁ message rfl he - hev
  refine live_of_evolves hev (fun x hx hu => ?_) hl
  exact (List.pairwise_append.mp ho).2.2 x hx e List.mem_cons_self hu he

end Trace

/-- **A message survives a logout.** In every interleaving of a message for `u` with a handler by
which `u` leaves, and with the callbacks of the observer: once the sender has come to its end and
nothing is left to be delivered, the message was handed to the connection of `u` or is stored, if it
fits its statement wherever that is executed, and was published only while the server had the
channel. -/
theorem chat_survives_logout {J : JsonParser} {i : ServerId} {ts tl : Tid} {u : Int} {m : Chat}
    {body : Str} {P P' : Pool chat} {w w' : World} {tr : List (Ev chat)}
    (h : Run (L := chat) (fun _ => i) (fitCallback J i u m.js) P w tr P' w')
    (hs : P ts = m.handle) (hl : Leaves u (P tl))
    (hrest : ∀ t, t ≠ ts → t ≠ tl → P t = .ret ()) (hend : P' ts = .ret ())
    (hdone : (w'.servers i).inbox = []) (hw : w.Works)
    (hpub : (w.servers i).publishContext = true) (hu : w.db.hasUser u = true)
    (hm : m.RoutedTo w.db u) (hread : m.ReadFrom J body)
    (hfit : ∀ e ∈ tr, e.call.act = .sql (.insertOffline (OfflineMsgModel.insertSql u m.js.dump)) →
      Fits u m.js.dump)
    (hlive : PublishedLive J i ts u w tr) :
    handedTo i u m.js w w' ∨ m.js.dump ∈ storedFor u w w' := by
  have hact : ∀ e ∈ tr, RaceAct e.call.act := by
    intro e he
    have hp := h.path e.tid
    have hmem := mem_own.mpr he
    by_cases hts : e.tid = ts
    · rw [hts, hs] at hp
      rw [hts] at hmem
      exact raceAct_of_chat (hp.all m.handle_all _ hmem)
    · by_cases htl : e.tid = tl
      · rw [htl] at hp hmem
        exact hp.all hl.all _ hmem
      · rw [hrest e.tid hts htl] at hp
        rw [hp.of_ret] at hmem
        cases hmem
  have hev := h.evolves
  obtain ⟨-, hans⟩ := hev.calls (I := Grows i u w) (A := Truthful i u w)
    (fun _ _ he hg => hg.trans (callback_grows (fitCallback_eq he).2))
    (fun e he _ _ hx hg => ⟨hg.trans (exec_grows (hact e he) hx), hg.truthful hw hx⟩)
    (.refl i u w)
  have hp := h.path ts
  rw [hs, hend] at hp
  obtain ⟨c, hc, hatt⟩ := (m.attempts hm).path hp fun c hc => hans ⟨ts, c⟩ (mem_own.mp hc)
  obtain ⟨tr₁, tr₂, htr⟩ := List.append_of_mem (mem_own.mp hc)
  rw [htr] at hev
  obtain ⟨w₁, h₁, hev⟩ := hev.split
  obtain ⟨w₂, w₃, h₂, hx, h₃⟩ := hev.cons
  have h₁₂ := (h₁.append h₂).mono fun _ _ he => (fitCallback_eq he).2
  rw [List.append_nil] at h₁₂
  have hg₂ : Grows i u w w₂ := grows_of_evolves h₁₂ fun e he => hact e (by rw [htr]; simp [he])
  have hg₃ : Grows i u w w₃ := hg₂.trans (exec_grows (hact ⟨ts, c⟩ (by rw [htr]; simp)) hx)
  have hsec : Secured i u m.js w w₃ := attempt_secures hg₂ hw hpub hu
    (fun e => hfit ⟨ts, c⟩ (by rw [htr]; simp) e)
    (fun message e => hlive tr₁ _ tr₂ w₂ message htr rfl e h₁₂) hatt hx
  have hne : m.msgid ≠ 11 := by
    cases m <;> simp [Chat.msgid, EnMsgType.toInt]
  have hfin := h₃.inv (I := fun w' => Grows i u w w' ∧ Secured i u m.js w w')
    (fun _ _ he hi => ⟨hi.1.trans (callback_grows (fitCallback_eq he).2),
      callback_secured hi.1 hw hu (J.parse_dump hread.1) hread.2 hne he hi.2⟩)
    (fun e he _ _ hx hi => by
      have hg := exec_grows (i := i) (u := u) (hact e (by rw [htr]; simp [he])) hx
      exact ⟨hi.1.trans hg, hi.2.mono hi.1 hg (exec_server hx i).inbox⟩) ⟨hg₃, hsec⟩
  rcases hfin.2 with hh | hh | hh
  · exact .inl hh
  · exact .inr hh
  · rw [hdone] at hh
    cases hh

/-- A parser of the message below. -/
def leavingParser : JsonParser := .ofDumps [hello.js]

/-- A message for user 1 and the close of the user's connection. -/
def leavingPool : Pool chat
  | 0 => hello.handle
  | 1 => clientCloseException 1
  | _ => .ret ()

theorem leavingPool_rest : ∀ t, t ≠ 0 → t ≠ 1 → leavingPool t = .ret ()
  | 0, h, _ => absurd rfl h
  | 1, _, h => absurd rfl h
  | _ + 2, _, _ => rfl

/-- The message is published before the channel is unsubscribed; the observer handles it after. -/
def earlySchedule : List (Option Tid) :=
  some 1 :: (List.replicate 4 (some 0) ++ [some 1, none] ++ List.replicate 6 (some 1))

/-- The message is published after the channel was unsubscribed, before the row says offline. -/
def lateSchedule : List (Option Tid) :=
  [some 1, some 1] ++ List.replicate 4 (some 0) ++ List.replicate 6 (some 1)

theorem chat_survives_logout_early : ∃ tr P' w',
    Run (L := chat) (fun _ => 0) (fitCallback leavingParser 0 1 hello.js) leavingPool World.hungUp
      tr P' w' ∧
    (handedTo 0 1 hello.js World.hungUp w' ∨ hello.js.dump ∈ storedFor 1 World.hungUp w') := by
  have h : (sched (L := chat) (fun _ => 0) (fitCallback leavingParser 0 1 hello.js) earlySchedule
      leavingPool World.hungUp).map (fun r : List (Ev chat) × Pool chat × World =>
        ((r.2.1 0).isRet, (r.2.2.servers 0).inbox,
          decide (r.1.Pairwise fun x e => Unsubscribes 1 x.call.act → e.tid ≠ 0))) =
      some (true, [], true) := by decide +kernel
  obtain ⟨⟨tr, P', w'⟩, hs, hf⟩ := Option.map_eq_some_iff.mp h
  simp only [Prod.mk.injEq, decide_eq_true_eq] at hf
  obtain ⟨hret, hin, ho⟩ := hf
  exact ⟨tr, P', w', sched_run hs, chat_survives_logout (sched_run hs)
    (show leavingPool 0 = hello.handle from rfl)
    (show Leaves 1 (leavingPool 1) from .close 1) leavingPool_rest (Prog.eq_ret_of_isRet hret) hin
    (fun _ => rfl) rfl rfl rfl ⟨show leavingParser.parse hello.js.dump = _ from rfl, rfl⟩
    (fun _ _ _ => by decide +kernel) (publishedLive_of_order rfl ho)⟩

/-- User 1 is online and subscribed; the message is published too late, and lost. -/
theorem chat_lost_at_logout : ¬∀ (J : JsonParser) (i : ServerId) (ts tl : Tid) (u : Int) (m : Chat)
    (body : Str) (c : ConnId) (P P' : Pool chat) (w w' : World) (tr : List (Ev chat)),
    Run (L := chat) (fun _ => i) (callback J i) P w tr P' w' → P ts = m.handle →
    P tl = clientCloseException c → (∀ t, t ≠ ts → t ≠ tl → P t = .ret ()) → P' ts = .ret () →
    P' tl = .ret () → (w'.servers i).inbox = [] → w.Works →
    (w.servers i).publishContext = true → (w.servers i).subscribeContext = true →
    (w.servers i).userConnMap.lookup u = some c → w.db.stateOf u = some .online →
    (w.servers i).live u = true → m.RoutedTo w.db u → m.ReadFrom J body → Fits u m.js.dump →
    handedTo i u m.js w w' ∨ m.js.dump ∈ storedFor u w w' := by
  intro hall
  have h : (sched (L := chat) (fun _ => 0) (callback leavingParser 0) lateSchedule leavingPool
      World.hungUp).map (fun r : List (Ev chat) × Pool chat × World =>
        ((r.2.1 0).isRet && (r.2.1 1).isRet, (r.2.2.servers 0).inbox,
          (sentIn 0 World.hungUp r.2.2).isEmpty, storedFor 1 World.hungUp r.2.2)) =
      some (true, [], true, []) := by decide +kernel
  obtain ⟨⟨tr, P', w'⟩, hs, hf⟩ := Option.map_eq_some_iff.mp h
  simp only [Prod.mk.injEq, Bool.and_eq_true, List.isEmpty_iff] at hf
  obtain ⟨⟨hret₀, hret₁⟩, hin, hsent, hstored⟩ := hf
  rcases hall leavingParser 0 0 1 1 hello hello.js.dump 1 _ P' _ w' tr (sched_run hs) rfl rfl
    leavingPool_rest (Prog.eq_ret_of_isRet hret₀) (Prog.eq_ret_of_isRet hret₁) hin (fun _ => rfl)
    rfl rfl rfl rfl rfl rfl ⟨rfl, rfl⟩ (by decide +kernel) with ⟨d, hd, -⟩ | hm
  · rw [hsent] at hd
    cases hd
  · rw [hstored] at hm
    cases hm

end QtChat
