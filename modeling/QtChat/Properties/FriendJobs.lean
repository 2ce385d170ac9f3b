import QtChat.Client.Network
import QtChat.Properties.AllOrNothing
import QtChat.Properties.FriendRequests

/-!
# What was told of friends, job by job

- `UpToDate`: the invariant of the server. Every open connection with an entry has a copy, and what
  it was told is what the rows have.
- `Job.KeepsUp`: what a job needs for it, a condition on the state before the job.
- `job_upToDate`: every such job keeps it.
- `Served`: the invariant as a network has it, with connections that come and go (`whole_served`,
  `own_served`, `connect_served`).
-/

namespace QtChat

open Interleave ChatService Presence

/-! ## Loaded copies -/

/-- Every open connection with an entry has loaded its copy. -/
def Loaded (fromJson : Str → Option Json) (w : World) : Prop :=
  ∀ u conn, (w.servers 0).userConnMap.lookup u = some conn →
    (w.servers 0).conns conn = .connected → told fromJson ((w.servers 0).packets conn) ≠ none

section Jobs

variable {P : JsonParser} {fromJson : Str → Option Json} {w w' : World} {conn : ConnId}

theorem told_more {packets : List Json} (h : told fromJson packets ≠ none) (more : List Json) :
    told fromJson (packets ++ more) ≠ none := by
  unfold told at h ⊢
  rw [List.filterMap_append]
  exact copyOf_append h _

theorem Loaded.fewer (h : Loaded fromJson w) (hf : Fewer w w') : Loaded fromJson w' := by
  intro u conn hl hc
  obtain ⟨more, hm⟩ := hf.packets conn
  rw [hm]
  exact told_more (h u conn (hf.entries u conn hl) (hf.conns conn hc)) more

theorem fewer_deliver (w : World) (conn : ConnId) (js : Json) :
    Fewer w (w.modify 0 (·.deliver conn js)) :=
  exec_fewer (a := .send conn js) trivial rfl

theorem entersNobody_of_linkless {a : Act} (h : Linkless a) : EntersNobody a := by
  cases a <;> first | exact trivial | exact h.1 trivial

/-- The packets that a run adds on a connection. -/
theorem run_packets {α : Type} {p : Serv α} {x : α} (h : p.run (0 : ServerId) w = some (x, w'))
    (c : ConnId) : (w'.servers 0).packets c = (w.servers 0).packets c ++
      ((sentIn 0 w w').filter fun d => d.conn = c ∧ d.accepted).map (·.js) :=
  packets_append (run_sent h 0) c

theorem logout_fewer {id : Int}
    (hr : (loginoutAs conn id).run (0 : ServerId) w = some ((), w')) : Fewer w w' := by
  refine run_fewer (p := eraseUser id >>= fun _ => goOffline conn id) ?_ hr
  exact Prog.All.bind (p := eraseUser id) ⟨trivial, fun _ => trivial⟩ fun _ =>
    (goOffline_linkless conn id).mono fun _ => entersNobody_of_linkless

theorem close_fewer (hr : (clientCloseException conn).run (0 : ServerId) w = some ((), w')) :
    Fewer w w' := by
  obtain ⟨r, w₁, he, hr⟩ := close_runs (0 : ServerId) w hr
  refine (exec_fewer (a := .eraseConn conn) trivial he).trans (run_fewer ?_ hr)
  exact (clientClosed_linkless conn _).mono fun _ => entersNobody_of_linkless

/-- An accepted login loads the copy of its connection. -/
theorem login_loaded {id : Int} {pwd : Str} (hw : w.Works) (hreads : ReadsFriends fromJson w.db)
    (h : Loaded fromJson w) (hr : (loginAs conn id pwd).run (0 : ServerId) w = some ((), w')) :
    Loaded fromJson w' := by
  by_cases hacc : Accepts (w.lookedUp id) id pwd
  · intro u c hl hc
    have hlinks := login_links hacc hr
    have hask : (w.ask (.selectUser id)).2.servers = w.servers := World.ask_servers ..
    rw [hlinks.entries, registered_lookup] at hl
    rw [hlinks.conns] at hc
    rw [run_packets hr]
    split at hl
    · cases hl
      obtain ⟨accepted, rest, hsent, -, hopen⟩ := loginAs_sends 0 w conn hacc hr
      have haccepted : accepted = true := by
        rw [hopen, World.loggedIn, World.ask_servers]
        exact hc
      rw [hsent, haccepted, List.filter_cons_of_pos (by simp), List.map_cons, told,
        List.filterMap_append, List.filterMap_cons_some (toldOf_loginAck hw hreads)]
      exact copyOf_load _ _ _
    · have hopen := ((registered_open _ 0 conn id _ c).mp hc).1
      rw [hask] at hl hopen
      exact told_more (h u c hl hopen) _
  · rw [loginAs_refused 0 w conn hacc] at hr
    cases hr
    exact h.fewer ((fewer_of_same (w.same_ask fun _ => ⟨_, rfl⟩)).trans (fewer_deliver _ conn _))

/-! ## Jobs -/

/-- What the server has told, and the rows. -/
structure UpToDate (fromJson : Str → Option Json) (w : World) : Prop where
  intact : w.Intact
  friends : w.db.Mutual
  informed : Informed fromJson none w
  loaded : Loaded fromJson w

/-- The note is a new state, which the row has. -/
def Database.agrees (db : Database) : Note Int Str → Bool
  | .set id state => (db.stateOf id).map UserState.text = some state
  | _ => false

/-- What a request needs: a login is the only one on its connection, and who adds a friend speaks
for himself. -/
def RequestKeepsUp (fromJson : Str → Option Json) (w : World) (conn : ConnId) (js : Json) : Prop :=
  ∀ msgid ∈ (js.intAt "msgid").toOption, ∀ id ∈ (js.intAt "id").toOption,
    (msgid = EnMsgType.loginMsg.toInt → (w.servers 0).LoginAlone fromJson conn id) ∧
    (msgid = EnMsgType.addFriendMsg.toInt → ∀ friendid ∈ (js.intAt "friendid").toOption,
      (w.servers 0).AddsFriend w.db conn id friendid)

/-- What a job needs: a message that Redis kept for a user has the state that the row has. -/
def Job.KeepsUp (P : JsonParser) (fromJson : Str → Option Json) (w : World) : Job → Prop
  | .frame conn body => ∀ js ∈ P.parse body, RequestKeepsUp fromJson w conn js
  | .redis => ∀ m ∈ (w.servers 0).inbox.head?,
      ((w.servers 0).userConnMap.lookup m.1).isSome → ∀ js ∈ P.parse m.2,
        ∀ note ∈ toldOf fromJson js, w.db.agrees note = true
  | _ => True

instance (fromJson : Str → Option Json) (s : Server) (conn : ConnId) (id : Int) :
    Decidable (s.LoginAlone fromJson conn id) :=
  inferInstanceAs (Decidable (_ → (∀ u ∈ s.entriesOf conn, u = id) ∧ _))

instance (s : Server) (db : Database) (conn : ConnId) (userid friendid : Int) :
    Decidable (s.AddsFriend db conn userid friendid) :=
  inferInstanceAs (Decidable (_ → ∀ u ∈ s.entriesOf conn, _))

instance (fromJson : Str → Option Json) (db : Database) : Decidable (ReadsFriends fromJson db) :=
  inferInstanceAs (Decidable (∀ x ∈ db.friend, ∀ row ∈ db.user.find x.2,
    ∀ state ∈ [UserState.online, .offline], _))

instance (fromJson : Str → Option Json) (w : World) (conn : ConnId) (js : Json) :
    Decidable (RequestKeepsUp fromJson w conn js) :=
  inferInstanceAs (Decidable (∀ msgid ∈ (js.intAt "msgid").toOption,
    ∀ id ∈ (js.intAt "id").toOption, _))

instance (P : JsonParser) (fromJson : Str → Option Json) (w : World) :
    ∀ job, Decidable (Job.KeepsUp P fromJson w job)
  | .frame _ body => inferInstanceAs (Decidable (∀ js ∈ P.parse body, _))
  | .redis => inferInstanceAs (Decidable (∀ m ∈ (w.servers 0).inbox.head?,
      ((w.servers 0).userConnMap.lookup m.1).isSome → ∀ js ∈ P.parse m.2,
        ∀ note ∈ toldOf fromJson js, _))
  | .close _ => .isTrue trivial
  | .check => .isTrue trivial

/-- A change of the server that opens nothing and says nothing. -/
theorem quieter_modify {ex : Option Int} {f : Server → Server}
    (hmap : (f (w.servers 0)).userConnMap = (w.servers 0).userConnMap)
    (hconns : ∀ c, (f (w.servers 0)).conns c = .connected → (w.servers 0).conns c = .connected)
    (hout : (f (w.servers 0)).outbox = (w.servers 0).outbox) :
    Quieter fromJson ex w (w.modify 0 f) where
  entries u c hl := by
    rw [World.modify_self, hmap] at hl
    exact hl
  conns c hc := by
    rw [World.modify_self] at hc
    exact hconns c hc
  packets c := ⟨[], by rw [World.modify_self, Server.packets, hout, List.append_nil]; rfl⟩
  friend _ hx := hx
  state _ _ _ hs := hs
  told c := by
    rw [World.modify_self]
    unfold Server.packets
    rw [hout]

theorem UpToDate.quieter (h : UpToDate fromJson w) (hq : Quieter fromJson none w w')
    (hw : w'.Works) (hdb : w'.db = w.db) : UpToDate fromJson w' where
  intact := h.intact.of_db hw hdb
  friends := by
    rw [hdb]
    exact h.friends
  informed := h.informed.quieter hq
  loaded := h.loaded.fewer hq.toFewer

/-- A message from Redis, with the state that the row has. -/
theorem redis_informed {ch : Int} {message : Str}
    (hagrees : ((w.servers 0).userConnMap.lookup ch).isSome → ∀ js ∈ P.parse message,
      ∀ note ∈ toldOf fromJson js, w.db.agrees note = true) (h : Informed fromJson none w)
    (hr : (handleRedisSubscribeMessage P ch message).run (0 : ServerId) w = some ((), w')) :
    Informed fromJson none w' := by
  obtain ⟨r, w₁, h₁, hr⟩ := Prog.run_bind_eq_some.mp hr
  obtain ⟨hr₁, hw₁⟩ : r = (w.servers 0).userConnMap.lookup ch ∧ w₁ = w := by
    cases h₁
    exact ⟨rfl, rfl⟩
  subst hw₁
  rcases r with _ | c
  · refine h.quieter (run_quieter (p := storeMessage (P.parse message) ch message) ?_ hr)
    unfold storeMessage
    split
    · split
      · split
        · exact ⟨trivial, fun r => r.elim⟩
        · split
          · trivial
          · exact insertOffline_quiet _ _
      · exact insertOffline_quiet _ _
    · exact insertOffline_quiet _ _
  · dsimp only at hr
    cases hp : P.parse message with
    | none =>
      rw [hp] at hr
      cases hr
      exact h
    | some js =>
      rw [hp] at hr
      cases hr
      refine deliver_informed h fun hopen u hl => ?_
      rw [told_concat]
      cases hn : toldOf fromJson js with
      | none => exact h u c hl hopen
      | some note =>
        have hag := hagrees (by rw [← hr₁]; rfl) js hp note hn
        cases note with
        | set k v =>
          refine (h u c hl hopen).set (fun _ _ hp => hp) fun v' hv => ⟨hv.1, fun _ => ?_⟩
          exact of_decide_eq_true hag
        | load pairs => cases hag
        | add k v => cases hag

/-- What the request of a frame does. -/
theorem request_informed {js : Json} (hs : w.Intact) (hm : w.db.Mutual)
    (hreads : ReadsFriends fromJson w.db) (hkeeps : RequestKeepsUp fromJson w conn js)
    (h : Informed fromJson none w)
    (hr : (Request.run (dispatch conn js)).run (0 : ServerId) w = some ((), w')) :
    Informed fromJson none w' := by
  cases hd : dispatch conn js with
  | error e =>
    rw [hd] at hr
    cases hr
    exact h
  | ok p =>
    rw [hd] at hr
    rcases told_cases fromJson hd with ⟨id, pwd, hmsg, hid, rfl⟩ | ⟨id, rfl⟩ |
      ⟨userid, friendid, hmsg, hid, hfid, rfl⟩ | hq
    · have hlogin := (hkeeps 1 (by rw [hmsg]; rfl) id (by rw [hid]; rfl)).1 rfl
      exact login_informed hs hm hreads hlogin h hr
    · exact logout_informed hs h hr
    · have hadd := (hkeeps 7 (by rw [hmsg]; rfl) userid (by rw [hid]; rfl)).2 rfl friendid
        (by rw [hfid]; rfl)
      exact addFriend_informed hs hadd h hr
    · exact h.quieter (run_quieter hq hr)

theorem request_loaded {js : Json} (hw : w.Works) (hreads : ReadsFriends fromJson w.db)
    (h : Loaded fromJson w)
    (hr : (Request.run (dispatch conn js)).run (0 : ServerId) w = some ((), w')) :
    Loaded fromJson w' := by
  cases hd : dispatch conn js with
  | error e =>
    rw [hd] at hr
    cases hr
    exact h
  | ok p =>
    rw [hd] at hr
    rcases told_cases fromJson hd with ⟨id, pwd, -, -, rfl⟩ | ⟨id, rfl⟩ |
      ⟨userid, friendid, -, -, -, rfl⟩ | hq
    · exact login_loaded hw hreads h hr
    · exact h.fewer (logout_fewer hr)
    · refine h.fewer (run_fewer ((addFriendAs_rows conn userid friendid).mono fun a ha => ?_) hr)
      exact entersNobody_of_linkless (linkless_of_plain (plain_of_row ha))
    · exact h.fewer (run_fewer (hq.mono fun _ => entersNobody_of_quiet) hr)

/-- What a job begins with opens nothing and says nothing. -/
theorem begins_quieter {ex : Option Int} {job : Job} {p : Serv Unit} {w₁ : World}
    (hb : job.Begins P 0 w p w₁) : Quieter fromJson ex w w₁ := by
  cases hb with
  | @close conn =>
    refine quieter_modify rfl (fun c hc => ?_) rfl
    by_cases e : c = conn
    · subst e
      cases (Function.update_self c _ (w.servers 0).conns).symm.trans hc
    · exact (Function.update_of_ne e _ _).symm.trans hc
  | redis => exact quieter_modify rfl (fun _ hc => hc) rfl
  | _ => exact .refl w

theorem UpToDate.begins {job : Job} {p : Serv Unit} {w₁ : World} (h : UpToDate fromJson w)
    (hb : job.Begins P 0 w p w₁) : UpToDate fromJson w₁ := by
  refine h.quieter (begins_quieter hb) ?_ hb.same.1
  unfold World.Works
  rw [hb.same.2]
  exact h.intact.works

/-- Friends stay mutual. -/
theorem job_mutual {job : Job} {p : Serv Unit} {w₁ : World} (hb : job.Begins P 0 w p w₁)
    (h : UpToDate fromJson w₁) (hr : p.run (0 : ServerId) w₁ = some ((), w')) :
    w'.db.Mutual := by
  rcases job_friends hb with hp | ⟨conn, body, js, u, f, rfl, -, -, rfl, rfl⟩
  · rw [Database.Mutual, run_friends_same hp hr]
    exact h.friends
  · exact addFriend_mutual (w := w₁.noted 0 conn) h.intact.works h.friends hr

theorem check_quieter (hr : checkHeartbeat.run (0 : ServerId) w = some ((), w')) :
    Quieter fromJson none w w' := by
  refine run_quieter (Prog.All.bind (p := staleConns) ⟨trivial, fun _ => trivial⟩
    fun toClose => ?_) hr
  exact Prog.All.each fun conn _ => ⟨trivial, fun _ => trivial⟩

/-- **A job on the server** keeps the copies up to date. -/
theorem job_upToDate {job : Job} {p : Serv Unit} {w₁ : World} (hb : job.Begins P 0 w p w₁)
    (hreads : ReadsFriends fromJson w.db) (hkeeps : job.KeepsUp P fromJson w)
    (h : UpToDate fromJson w) (hr : p.run (0 : ServerId) w₁ = some ((), w')) :
    UpToDate fromJson w' := by
  have h₁ := h.begins hb
  have hmutual := job_mutual hb h₁ hr
  have hintact := run_intact h₁.intact hr
  cases hb with
  | @frame conn body =>
    rcases handleMsg_runs 0 w hr with ⟨-, rfl⟩ | ⟨js, hp, hr⟩
    · exact h
    · have hnoted : UpToDate fromJson (w.noted 0 conn) :=
        h.quieter (quieter_modify rfl (fun _ hc => hc) rfl) h.intact.works rfl
      have hrequest : RequestKeepsUp fromJson (w.noted 0 conn) conn js := by
        unfold RequestKeepsUp World.noted
        rw [World.modify_self]
        exact hkeeps js hp
      exact ⟨hintact, hmutual,
        request_informed hnoted.intact hnoted.friends hreads hrequest hnoted.informed hr,
        request_loaded hnoted.intact.works hreads hnoted.loaded hr⟩
  | close =>
    exact ⟨hintact, hmutual, close_informed h₁.intact h₁.informed hr,
      h₁.loaded.fewer (close_fewer hr)⟩
  | @redis ch message inbox hin =>
    refine ⟨hintact, hmutual, redis_informed ?_ h₁.informed hr, h₁.loaded.fewer (run_fewer ?_ hr)⟩
    · rw [World.modify_self]
      exact hkeeps (ch, message) (by rw [hin]; rfl)
    · exact (handleRedisSubscribeMessage_all P ch message).mono fun _ ha =>
        entersNobody_of_linkless (linkless_of_plain (plain_of_chat ha))
  | check =>
    have hq : Quieter fromJson none w w' := check_quieter hr
    exact ⟨hintact, hmutual, h₁.informed.quieter hq, h₁.loaded.fewer hq.toFewer⟩

end Jobs

/-! ## The server in the network -/

/-- What a network keeps of its server: the copies, no packets before it runs, and of a connection
that it has not got no entry. -/
structure Served (fromJson : Str → Option Json) (accepted : ConnId → Bool) (w : World) : Prop where
  upToDate : UpToDate fromJson w
  idle : (w.servers 0).running = false → (w.servers 0).outbox = []
  fresh : ∀ conn, accepted conn = false → (w.servers 0).conns conn = .disconnected ∧
    ∀ u, (w.servers 0).userConnMap.lookup u ≠ some conn

/-- Packets stay. -/
def KeepsPackets (w w' : World) : Prop :=
  ∀ conn, ∃ more, (w'.servers 0).packets conn = (w.servers 0).packets conn ++ more

section Served

variable {P : JsonParser} {fromJson : Str → Option Json} {accepted : ConnId → Bool} {w w' : World}

/-- A request enters its own connection, if any. -/
theorem request_entries {conn : ConnId} {js : Json}
    (hr : (Request.run (dispatch conn js)).run (0 : ServerId) w = some ((), w')) {u : Int}
    {c : ConnId} (hl : (w'.servers 0).userConnMap.lookup u = some c) :
    (w.servers 0).userConnMap.lookup u = some c ∨ c = conn := by
  rcases request_cases conn js with ⟨id, pwd, -, -, -, hd⟩ | ⟨id, -, -, hd⟩ | hd | hp
  · rw [hd] at hr
    by_cases hacc : Accepts (w.lookedUp id) id pwd
    · rw [(login_links hacc hr).entries, registered_lookup, World.ask_servers] at hl
      split at hl
      · exact .inr (Option.some.inj hl).symm
      · exact .inl hl
    · rw [(refused_links hacc hr).entries] at hl
      exact .inl hl
  · rw [hd] at hr
    exact .inl ((logout_fewer hr).entries u c hl)
  · rw [hd] at hr
    rw [(run_links (heartbeatOf_linkless conn) hr).entries] at hl
    exact .inl hl
  · rw [(run_links (hp.mono fun _ => linkless_of_plain) hr).entries] at hl
    exact .inl hl

/-- A job enters a connection that is not down, if any. -/
theorem job_entries {job : Job} {p : Serv Unit} {w₁ : World} (hb : job.Begins P 0 w p w₁)
    (hr : p.run (0 : ServerId) w₁ = some ((), w')) {u : Int} {c : ConnId}
    (hl : (w'.servers 0).userConnMap.lookup u = some c) :
    (w.servers 0).userConnMap.lookup u = some c ∨ (w.servers 0).conns c ≠ .disconnected := by
  have hfield := hb.field (·.userConnMap) (fun _ _ => rfl) (fun _ _ => rfl) 0
  rw [← hfield]
  cases hb with
  | @frame conn body _ hc =>
    rcases handleMsg_runs 0 w hr with ⟨-, rfl⟩ | ⟨js, -, hr⟩
    · exact .inl hl
    · rcases request_entries hr hl with h | rfl
      · rw [World.noted, World.modify_self] at h
        exact .inl h
      · exact .inr hc
  | @close conn =>
    exact .inl ((close_fewer hr).entries u c hl)
  | @redis ch message =>
    have hp := (handleRedisSubscribeMessage_all P ch message).mono fun _ ha =>
      linkless_of_plain (plain_of_chat ha)
    rw [(run_links hp hr).entries] at hl
    exact .inl hl
  | check =>
    rw [(check_links hr).1] at hl
    exact .inl hl

theorem job_packets {job : Job} {p : Serv Unit} {w₁ : World} (hb : job.Begins P 0 w p w₁)
    (hr : p.run (0 : ServerId) w₁ = some ((), w')) : KeepsPackets w w' := by
  intro conn
  have hfield := hb.field (·.outbox) (fun _ _ => rfl) (fun _ _ => rfl) 0
  have hsame : (w₁.servers 0).packets conn = (w.servers 0).packets conn := by
    unfold Server.packets
    rw [hfield]
  exact ⟨_, hsame ▸ run_packets hr conn⟩

theorem KeepsPackets.of_outbox (h : (w'.servers 0).outbox = (w.servers 0).outbox) :
    KeepsPackets w w' := by
  intro conn
  refine ⟨[], ?_⟩
  unfold Server.packets
  rw [h, List.append_nil]

/-- A job. -/
theorem whole_served {job : Job} {s s' : Sys} (hreads : ReadsFriends fromJson s.world.db)
    (hkeeps : job.KeepsUp P fromJson s.world) (h : Served fromJson accepted s.world)
    (hs : Sys.step P (.whole 0 job) s = some s') :
    Served fromJson accepted s'.world ∧ KeepsPackets s.world s'.world := by
  cases Sys.steps hs with
  | whole hb hr =>
    refine ⟨⟨job_upToDate hb hreads hkeeps h.upToDate hr, fun hrun => ?_, fun conn hc => ?_⟩,
      job_packets hb hr⟩
    · rw [whole_running hs 0, hb.running] at hrun
      cases hrun
    · obtain ⟨hdown, hno⟩ := h.fresh conn hc
      refine ⟨(run_disconnected hr 0 conn).mpr ?_, fun u hl => ?_⟩
      · cases hb with
        | @close c =>
          rw [World.modify_self]
          by_cases e : conn = c
          · subst e
            exact Function.update_self ..
          · exact (Function.update_of_ne e _ _).trans hdown
        | redis =>
          rw [World.modify_self]
          exact hdown
        | _ => exact hdown
      · exact (job_entries hb hr hl).elim (hno u) fun hup => hup hdown

/-- A change of the server that leaves its entries, connections and packets. -/
theorem Served.modify {f : Server → Server} (h : Served fromJson accepted w)
    (hrun : (f (w.servers 0)).running = (w.servers 0).running)
    (hmap : (f (w.servers 0)).userConnMap = (w.servers 0).userConnMap)
    (hconns : (f (w.servers 0)).conns = (w.servers 0).conns)
    (hout : (f (w.servers 0)).outbox = (w.servers 0).outbox) :
    Served fromJson accepted (w.modify 0 f) ∧ KeepsPackets w (w.modify 0 f) := by
  have hq : Quieter fromJson none w (w.modify 0 f) :=
    quieter_modify hmap (fun c hc => by rwa [hconns] at hc) hout
  refine ⟨⟨h.upToDate.quieter hq h.upToDate.intact.works rfl, fun hr => ?_, fun conn hc => ?_⟩,
    .of_outbox ?_⟩
  · rw [World.modify_self] at hr ⊢
    rw [hout]
    exact h.idle (hrun.symm.trans hr)
  · rw [World.modify_self, hmap, hconns]
    exact h.fresh conn hc
  · rw [World.modify_self]
    exact hout

/-- What happens to the server without a client. -/
theorem own_served {l : Label} {s s' : Sys} (hown : l.own = true)
    (hreads : ReadsFriends fromJson s.world.db)
    (hkeeps : l = .whole 0 .redis → Job.KeepsUp P fromJson s.world .redis)
    (h : Served fromJson accepted s.world) (hs : Sys.step P l s = some s') :
    Served fromJson accepted s'.world ∧ KeepsPackets s.world s'.world := by
  rcases Label.own_cases hown with ⟨redis, rfl⟩ | rfl | rfl | ⟨seconds, rfl⟩ | rfl | rfl | rfl
  · cases Sys.steps hs with
    | start hoff =>
      have hnone := h.idle hoff
      have hempty : ∀ u (c : ConnId), ((s.world.modify 0 fun _ => .started redis).servers
          0).userConnMap.lookup u ≠ some c := by
        intro u c hl
        rw [World.modify_self] at hl
        cases hl
      refine ⟨⟨⟨h.upToDate.intact.of_db h.upToDate.intact.works rfl, h.upToDate.friends,
        fun u c hl => absurd hl (hempty u c), fun u c hl => absurd hl (hempty u c)⟩, fun hr => ?_,
        fun conn _ => ⟨?_, fun u => hempty u conn⟩⟩, .of_outbox ?_⟩
      · rw [World.modify_self] at hr
        cases hr
      · rw [World.modify_self]
        rfl
      · rw [World.modify_self, hnone]
        rfl
  · exact whole_served hreads (by trivial) h hs
  · exact whole_served hreads (hkeeps rfl) h hs
  · cases Sys.steps hs with
    | tick =>
      have hq : Quieter fromJson none s.world { s.world with now := s.world.now + seconds } :=
        ⟨⟨fun _ _ hl => hl, fun _ hc => hc, fun _ => ⟨[], (List.append_nil _).symm⟩⟩,
          fun _ hx => hx, fun _ _ _ hst => hst, fun _ => rfl⟩
      exact ⟨⟨h.upToDate.quieter hq h.upToDate.intact.works rfl, h.idle, h.fresh⟩, .of_outbox rfl⟩
  · cases Sys.steps hs with
    | publishLost =>
      exact h.modify (f := fun s => { s with publishContext := false }) rfl rfl rfl rfl
  · cases Sys.steps hs with
    | subscribeLost =>
      exact h.modify (f := fun s => { s with subscribeContext := false, live := fun _ => false })
        rfl rfl rfl rfl
  · cases Sys.steps hs with
    | resubscribe =>
      exact h.modify
        (f := fun s => { s with subscribeContext := true, live := s.subscribedChannels })
        rfl rfl rfl rfl

/-- The server gets a connection. -/
theorem connect_served {conn : ConnId} {s s' : Sys} (hnew : accepted conn = false)
    (h : Served fromJson accepted s.world) (hs : Sys.step P (.connect 0 conn) s = some s') :
    Served fromJson (Function.update accepted conn true) s'.world ∧
      KeepsPackets s.world s'.world := by
  cases Sys.steps hs with
  | connect hrun =>
    have hmodify := World.modify_self s.world 0 fun s =>
      { s with conns := Function.update s.conns conn .connected }
    have hne : ∀ c u, (s.world.servers 0).userConnMap.lookup u = some c → c ≠ conn := by
      rintro c u hl rfl
      exact (h.fresh c hnew).2 u hl
    have hopen : ∀ c u, (s.world.servers 0).userConnMap.lookup u = some c →
        Function.update (s.world.servers 0).conns conn .connected c = .connected →
          (s.world.servers 0).conns c = .connected :=
      fun c u hl hc => (Function.update_of_ne (hne c u hl) _ _).symm.trans hc
    refine ⟨⟨⟨h.upToDate.intact.of_db h.upToDate.intact.works rfl, h.upToDate.friends, ?_, ?_⟩,
      ?_, ?_⟩, .of_outbox ?_⟩
    · intro u c hl hc
      rw [hmodify] at hl hc ⊢
      exact h.upToDate.informed u c hl (hopen c u hl hc)
    · intro u c hl hc
      rw [hmodify] at hl hc ⊢
      exact h.upToDate.loaded u c hl (hopen c u hl hc)
    · rw [hmodify]
      exact h.idle
    · intro c hc
      rw [hmodify]
      by_cases e : c = conn
      · subst e
        cases (Function.update_self c true accepted).symm.trans hc
      · rw [Function.update_of_ne e] at hc
        exact ⟨(Function.update_of_ne e _ _).trans (h.fresh c hc).1, (h.fresh c hc).2⟩
    · rw [hmodify]

end Served

end QtChat
