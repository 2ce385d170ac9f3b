import QtChat.Client.Requests
import QtChat.Properties.ChatRouting
import QtChat.Server.LoginRuns
import QtChat.Server.Replies
import QtChat.Server.Sessions

/-!
# The length of the server's packets

The receivers take bodies of 1 to 1048576 bytes, `ChatService::sendJson` writes any. Two kinds of
packets can be too long: the acknowledgement of an accepted login, which has all that is stored for
the user, and a message that is forwarded, which is written again from the parsed value.

- `RequestFits`, `Job.Fits`: what these packets have to satisfy, counted from the rows that the
  login reads and from the value of the message.
- `packets_deliverable_iff`: in every reachable state, all packets of a job are deliverable exactly
  if the job fits.
- `ack_too_long`: 16384 short messages for a user who is offline make an acknowledgement that the
  client refuses.
-/

namespace QtChat

open Interleave ChatService Json

/-! ## The condition -/

/-- The length of the acknowledgement of a login of `id`, from what it reads. -/
def World.ackWidth (w : World) (i : ServerId) (conn : ConnId) (id : Int) : Nat :=
  QtChat.ackWidth (w.lookedUp id) (w.offlineVec i conn id) (w.friendsVec i conn id)
    (w.groupsVec i conn id)

/-- An accepted login has little enough to report, and a message for somebody with a connection here
is short enough when it is written again. -/
structure RequestFits (w : World) (i : ServerId) (conn : ConnId) (js : Json) : Prop where
  login : ∀ id pwd, js.intAt "msgid" = .ok 1 → js.intAt "id" = .ok id →
    js.stringAt "password" = .ok pwd → Accepts (w.lookedUp id) id pwd →
      w.ackWidth i conn id ≤ maxBody
  oneChat : ∀ userid toid, js.intAt "msgid" = .ok 6 → js.intAt "id" = .ok userid →
    js.intAt "toid" = .ok toid → ((w.servers i).userConnMap.lookup toid).isSome = true →
      js.width 0 ≤ maxBody
  groupChat : ∀ userid groupid, js.intAt "msgid" = .ok 10 → js.intAt "id" = .ok userid →
    js.intAt "groupid" = .ok groupid → (∃ u ∈ w.membersRead userid groupid,
      ((w.servers i).userConnMap.lookup u).isSome = true) → js.width 0 ≤ maxBody

def Job.Fits (P : JsonParser) (i : ServerId) (w : World) : Job → Prop
  | .frame conn body => ∀ js, P.parse body = some js → RequestFits (w.noted i conn) i conn js
  | .redis => match (w.servers i).inbox with
    | [] => True
    | (ch, message) :: _ => ((w.servers i).userConnMap.lookup ch).isSome = true →
        ∀ js, P.parse message = some js → js.width 0 ≤ maxBody
  | .close _ => True
  | .check => True

section Handlers

variable {i : ServerId} {w w' : World} {conn : ConnId} {js : Json}

/-! ## Login -/

theorem loginAck_width (id : Int) : (w.loginAck i conn id).width 0 = w.ackWidth i conn id :=
  width_loginResponse _ _ _ _

theorem login_deliverable_iff (hl : w.db.Linked) {id : Int} {pwd : Str}
    (ha : Accepts (w.lookedUp id) id pwd) (hr : (loginAs conn id pwd).run i w = some ((), w')) :
    (∀ d ∈ sentIn i w w', Deliverable d.js) ↔ w.ackWidth i conn id ≤ maxBody := by
  obtain ⟨accepted, rest, hs, hrest, -⟩ := loginAs_sends i w conn ha hr
  have hid : (decimal id).length ≤ 11 := by
    have := (lookedUp_small hl.wf id).1
    rwa [ha.1] at this
  rw [hs, List.forall_mem_cons, deliverable_iff, loginAck_width]
  refine and_iff_left fun d hd => ?_
  rw [hrest d hd]
  exact deliverable_friendState hid .online

theorem refused_deliverable {id : Int} {pwd : Str} (ha : ¬Accepts (w.lookedUp id) id pwd)
    (hr : (loginAs conn id pwd).run i w = some ((), w')) :
    ∀ d ∈ sentIn i w w', Deliverable d.js := by
  intro d hd
  rw [(loginAs_refused_sends i w conn ha hr).2 d hd]
  exact deliverable_loginError (by decide)

/-! ## Chat messages -/

theorem oneChat_deliverable_iff (toid : Int) :
    (∀ d ∈ sentIn i w (w.afterOneChat i toid js), Deliverable d.js) ↔
      (((w.servers i).userConnMap.lookup toid).isSome = true → js.width 0 ≤ maxBody) := by
  rw [← deliverable_iff]
  cases h : (w.servers i).userConnMap.lookup toid with
  | some conn =>
    have hs : sentIn i w (w.afterOneChat i toid js) =
        [⟨conn, js, (w.servers i).conns conn = .connected⟩] := by
      refine sentIn_eq ?_
      simp only [World.afterOneChat, h, World.modify_self, Server.deliver]
    rw [hs]
    simp
  | none =>
    have hs : sentIn i w (w.afterOneChat i toid js) = [] := by
      refine sentIn_eq ?_
      simp only [World.afterOneChat, h]
      split
      · rw [World.published_servers, World.ask_servers, List.append_nil]
      · rw [World.ask_servers, World.ask_servers, List.append_nil]
    rw [hs]
    simp

theorem groupChat_deliverable_iff (userid groupid : Int) :
    (∀ d ∈ sentIn i w (w.afterGroupChat i userid groupid js), Deliverable d.js) ↔
      ((∃ u ∈ w.membersRead userid groupid,
        ((w.servers i).userConnMap.lookup u).isSome = true) → js.width 0 ≤ maxBody) := by
  rw [← deliverable_iff, sentIn_eq (w.afterGroupChat_outbox i userid groupid js)]
  constructor
  · rintro h ⟨u, hu, hs⟩
    obtain ⟨conn, hc⟩ := Option.isSome_iff_exists.mp hs
    exact h _ (List.mem_map.mpr ⟨conn, List.mem_filterMap.mpr ⟨u, hu, hc⟩, rfl⟩)
  · intro h d hd
    obtain ⟨conn, hc, rfl⟩ := List.mem_map.mp hd
    obtain ⟨u, hu, hl⟩ := List.mem_filterMap.mp hc
    exact h ⟨u, hu, by rw [hl]; rfl⟩

/-! ## Requests -/

theorem sentIn_self (i : ServerId) (w : World) : sentIn i w w = [] := by
  rw [sentIn, List.drop_length]

/-- A request for which nothing long is written. -/
theorem others_deliverable (hl : w.db.Linked)
    (hlogin : ∀ id pwd, js.intAt "msgid" = .ok 1 → js.intAt "id" = .ok id →
      js.stringAt "password" = .ok pwd → False)
    (hone : js.intAt "msgid" ≠ .ok 6) (hgroup : js.intAt "msgid" ≠ .ok 10)
    (hr : (Request.run (dispatch conn js)).run i w = some ((), w')) :
    ∀ d ∈ sentIn i w w', Deliverable d.js := by
  cases hd : dispatch conn js with
  | error e =>
    rw [hd] at hr
    cases hr
    simp [sentIn_self]
  | ok p =>
    rw [hd] at hr
    replace hr : p.run i w = some ((), w') := hr
    cases handles_of_dispatch hd with
    | nothing => cases hr; simp [sentIn_self]
    | loginFields =>
      intro d hd
      rw [sent_one rfl hr d hd]
      exact deliverable_loginError (by decide)
    | regFields =>
      intro d hd
      rw [sent_one rfl hr d hd]
      have hn : [txt "msgid", txt "errno", txt "errmsg"].Nodup := by decide
      refine deliverable_object (by simp) hn (by simp) fun f hf => ?_
      simp only [List.cons_append, List.nil_append, List.mem_cons, List.not_mem_nil, or_false] at hf
      rcases hf with rfl | rfl | rfl
      · exact .msgid _
      · exact .int (by decide) (by decide)
      · exact .str (by decide) (by decide)
    | login hm hi hp => exact (hlogin _ _ hm hi hp).elim
    | loginout hm hi => exact loginoutAs_deliverable hl hr
    | reg name pwd => exact regAs_deliverable hl hr
    | oneChat hm => exact absurd hm hone
    | addFriend => exact addFriendAs_deliverable hl hr
    | createGroup a b c => exact createGroupAs_deliverable hl hr
    | addGroup a b => exact addGroupAs_deliverable hl hr
    | groupChat hm => exact absurd hm hgroup
    | updateName a b => exact updateNameAs_deliverable hr
    | heartbeat => exact heartbeatOf_deliverable hr

/-- A chat message for one user is read, or nothing is done. -/
theorem dispatch_oneChat (conn : ConnId) (hm : js.intAt "msgid" = .ok 6) :
    (∃ userid toid, js.intAt "id" = .ok userid ∧ js.intAt "toid" = .ok toid ∧
        dispatch conn js = .ok (oneChatTo toid js)) ∨
      (Request.run (dispatch conn js) = .ret () ∧ ∀ userid toid, js.intAt "id" = .ok userid →
        js.intAt "toid" = .ok toid → False) := by
  have hd : dispatch conn js = ChatService.oneChat conn js := by
    unfold dispatch
    rw [hm]
    rfl
  rw [hd]
  unfold ChatService.oneChat
  cases ht : js.intAt "toid" with
  | error e =>
    refine .inr ⟨?_, by simp⟩
    split <;> rfl
  | ok toid =>
    cases hi : js.intAt "id" with
    | error e =>
      refine .inr ⟨?_, by simp⟩
      split <;> rfl
    | ok userid =>
      refine .inl ⟨userid, toid, rfl, rfl, ?_⟩
      rw [contains_of_intAt hi, contains_of_intAt ht]
      rfl

/-- A chat message for a group is read, or nothing is done. -/
theorem dispatch_groupChat (conn : ConnId) (hm : js.intAt "msgid" = .ok 10) :
    (∃ userid groupid, js.intAt "id" = .ok userid ∧ js.intAt "groupid" = .ok groupid ∧
        dispatch conn js = .ok (groupChatFrom userid groupid js)) ∨
      (Request.run (dispatch conn js) = .ret () ∧ ∀ userid groupid, js.intAt "id" = .ok userid →
        js.intAt "groupid" = .ok groupid → False) := by
  have hd : dispatch conn js = ChatService.groupChat conn js := by
    unfold dispatch
    rw [hm]
    rfl
  rw [hd]
  unfold ChatService.groupChat
  cases hi : js.intAt "id" with
  | error e =>
    refine .inr ⟨?_, by simp⟩
    split <;> rfl
  | ok userid =>
    cases hg : js.intAt "groupid" with
    | error e =>
      refine .inr ⟨?_, by simp⟩
      split <;> rfl
    | ok groupid =>
      refine .inl ⟨userid, groupid, rfl, rfl, ?_⟩
      rw [contains_of_intAt hi, contains_of_intAt hg]
      rfl

theorem oneChat_request_iff (hm : js.intAt "msgid" = .ok 6)
    (hr : (Request.run (dispatch conn js)).run i w = some ((), w')) :
    (∀ d ∈ sentIn i w w', Deliverable d.js) ↔ RequestFits w i conn js := by
  have hfits : RequestFits w i conn js ↔ ∀ userid toid, js.intAt "id" = .ok userid →
      js.intAt "toid" = .ok toid → ((w.servers i).userConnMap.lookup toid).isSome = true →
        js.width 0 ≤ maxBody :=
    ⟨fun h userid toid => h.oneChat userid toid hm,
      fun h => ⟨by simp [hm], fun userid toid _ => h userid toid, by simp [hm]⟩⟩
  rw [hfits]
  rcases dispatch_oneChat conn hm with ⟨userid, toid, hi, ht, hd⟩ | ⟨hd, hno⟩
  · rw [hd] at hr
    replace hr : (oneChatTo toid js).run i w = some ((), w') := hr
    rw [run_oneChatTo] at hr
    cases hr
    simp [oneChat_deliverable_iff, hi, ht]
  · rw [hd] at hr
    cases hr
    simp only [sentIn_self, List.not_mem_nil, false_implies, implies_true, true_iff]
    exact fun userid toid hi ht => (hno userid toid hi ht).elim

theorem groupChat_request_iff (hm : js.intAt "msgid" = .ok 10)
    (hr : (Request.run (dispatch conn js)).run i w = some ((), w')) :
    (∀ d ∈ sentIn i w w', Deliverable d.js) ↔ RequestFits w i conn js := by
  have hfits : RequestFits w i conn js ↔ ∀ userid groupid, js.intAt "id" = .ok userid →
      js.intAt "groupid" = .ok groupid → (∃ u ∈ w.membersRead userid groupid,
        ((w.servers i).userConnMap.lookup u).isSome = true) → js.width 0 ≤ maxBody :=
    ⟨fun h userid groupid => h.groupChat userid groupid hm,
      fun h => ⟨by simp [hm], by simp [hm], fun userid groupid _ => h userid groupid⟩⟩
  rw [hfits]
  rcases dispatch_groupChat conn hm with ⟨userid, groupid, hi, hg, hd⟩ | ⟨hd, hno⟩
  · rw [hd] at hr
    replace hr : (groupChatFrom userid groupid js).run i w = some ((), w') := hr
    rw [World.run_groupChatFrom] at hr
    cases hr
    simp [groupChat_deliverable_iff, hi, hg]
  · rw [hd] at hr
    cases hr
    simp only [sentIn_self, List.not_mem_nil, false_implies, implies_true, true_iff]
    exact fun userid groupid hi hg => (hno userid groupid hi hg).elim

theorem login_request_iff (hl : w.db.Linked) {id : Int} {pwd : Str}
    (hm : js.intAt "msgid" = .ok 1) (hi : js.intAt "id" = .ok id)
    (hp : js.stringAt "password" = .ok pwd)
    (hr : (Request.run (dispatch conn js)).run i w = some ((), w')) :
    (∀ d ∈ sentIn i w w', Deliverable d.js) ↔ RequestFits w i conn js := by
  have hfits : RequestFits w i conn js ↔
      (Accepts (w.lookedUp id) id pwd → w.ackWidth i conn id ≤ maxBody) := by
    refine ⟨fun h => h.login id pwd hm hi hp, fun h => ⟨?_, by simp [hm], by simp [hm]⟩⟩
    intro id' pwd' _ hi' hp'
    rw [hi] at hi'
    rw [hp] at hp'
    cases hi'
    cases hp'
    exact h
  rw [dispatch_login hm hi hp] at hr
  replace hr : (loginAs conn id pwd).run i w = some ((), w') := hr
  rw [hfits]
  by_cases ha : Accepts (w.lookedUp id) id pwd
  · rw [login_deliverable_iff hl ha hr]
    exact ⟨fun h _ => h, fun h => h ha⟩
  · exact ⟨fun _ h => absurd h ha, fun _ => refused_deliverable ha hr⟩

/-- **The packets of a request.** -/
theorem request_deliverable_iff (hl : w.db.Linked)
    (hr : (Request.run (dispatch conn js)).run i w = some ((), w')) :
    (∀ d ∈ sentIn i w w', Deliverable d.js) ↔ RequestFits w i conn js := by
  by_cases h6 : js.intAt "msgid" = .ok 6
  · exact oneChat_request_iff h6 hr
  · by_cases h10 : js.intAt "msgid" = .ok 10
    · exact groupChat_request_iff h10 hr
    · by_cases hlogin : ∃ id pwd, js.intAt "msgid" = .ok 1 ∧ js.intAt "id" = .ok id ∧
          js.stringAt "password" = .ok pwd
      · obtain ⟨id, pwd, hm, hi, hp⟩ := hlogin
        exact login_request_iff hl hm hi hp hr
      · simp only [not_exists, not_and] at hlogin
        refine iff_of_true (others_deliverable hl (fun id pwd hm hi hp => hlogin id pwd hm hi hp)
          h6 h10 hr) ⟨fun id pwd hm hi hp => (hlogin id pwd hm hi hp).elim,
            fun _ _ hm => absurd hm h6, fun _ _ hm => absurd hm h10⟩

/-! ## Jobs -/

/-- The actions that write no packet. -/
def Silent : Act → Prop
  | .send .. => False
  | .routeGroup .. => False
  | _ => True

theorem sentIn_of_silent {α : Type} {p : Serv α} {x : α} (hp : p.All Silent)
    (hr : p.run i w = some (x, w')) : sentIn i w w' = [] := by
  obtain ⟨ds, ho, hds⟩ := run_outbox (Q := fun _ => False) hp (fun _ _ h => h) (fun _ _ h => h) hr i
  refine (sentIn_eq ho).trans ?_
  cases ds with
  | nil => rfl
  | cons d ds => exact (hds d (by simp)).elim

theorem storeMessage_silent (parsed : Option Json) (userid : Int) (msg : Str) :
    (storeMessage parsed userid msg).All Silent := by
  have hs : (OfflineMsgModel.insert userid msg).All Silent := all_insertOffline trivial trivial
  unfold storeMessage
  split
  · split
    · split
      · exact ⟨trivial, fun r => r.elim⟩
      · split
        · trivial
        · exact hs
    · exact hs
  · exact hs

/-- A message from Redis is forwarded to a connection or stored. -/
theorem redis_deliverable_iff {P : JsonParser} {userid : Int} {msg : Str}
    (hr : (handleRedisSubscribeMessage P userid msg).run i w = some ((), w')) :
    (∀ d ∈ sentIn i w w', Deliverable d.js) ↔
      (((w.servers i).userConnMap.lookup userid).isSome = true →
        ∀ js, P.parse msg = some js → js.width 0 ≤ maxBody) := by
  unfold handleRedisSubscribeMessage at hr
  rw [Prog.run_bind, run_findConn, Option.bind_some] at hr
  cases hl : (w.servers i).userConnMap.lookup userid with
  | none =>
    rw [hl] at hr
    rw [sentIn_of_silent (storeMessage_silent _ _ _) (by exact hr)]
    simp
  | some conn =>
    rw [hl] at hr
    cases hp : P.parse msg with
    | none =>
      rw [hp] at hr
      cases hr
      simp [sentIn_self]
    | some js =>
      rw [hp] at hr
      replace hr : (sendJson conn js).run i w = some ((), w') := hr
      rw [run_sendJson] at hr
      cases hr
      have hs : sentIn i w (w.modify i (·.deliver conn js)) =
          [⟨conn, js, (w.servers i).conns conn = .connected⟩] :=
        sentIn_eq (by rw [World.modify_self]; rfl)
      rw [hs]
      simp [deliverable_iff]

theorem checkHeartbeat_silent : checkHeartbeat.All Silent := by
  refine Prog.All.bind (p := staleConns) ⟨trivial, fun _ => trivial⟩ fun toClose => ?_
  exact Prog.All.each fun conn _ => ⟨trivial, fun _ => trivial⟩

end Handlers

/-- **The packets of a job.** -/
theorem job_deliverable_iff {P : JsonParser} {i : ServerId} {job : Job} {p : Serv Unit}
    {w w₁ w' : World} (hl : w.db.Linked) (hb : job.begin P i w = some (p, w₁))
    (hr : p.run i w₁ = some ((), w')) :
    (∀ d ∈ sentIn i w w', Deliverable d.js) ↔ job.Fits P i w := by
  cases Job.begins hb with
  | @frame conn body =>
    simp only [Job.Fits]
    rcases handleMsg_runs i w hr with ⟨hp, rfl⟩ | ⟨js, hp, hr⟩
    · simp [hp, sentIn_self]
    · rw [hp]
      have hreq := request_deliverable_iff (w := w.noted i conn) (by exact hl) hr
      have hsent : sentIn i (w.noted i conn) w' = sentIn i w w' := sentIn_modify rfl
      rw [← hsent, hreq]
      simp
  | close =>
    refine iff_of_true (fun d hd => ?_) trivial
    refine clientCloseException_deliverable (by exact hl) hr d ?_
    rwa [sentIn_modify rfl]
  | redis hin =>
    unfold Job.Fits
    rw [hin]
    have hredis := redis_deliverable_iff hr
    rw [sentIn_modify rfl, World.modify_self] at hredis
    exact hredis
  | check =>
    refine iff_of_true (fun d hd => ?_) trivial
    rw [sentIn_of_silent checkHeartbeat_silent hr] at hd
    cases hd


/-! ## Runs -/

/-- A server writes to its own connections. -/
theorem exec_outbox_ne {i j : ServerId} (hj : j ≠ i) {a : Act} {w w' : World} {r : a.Res}
    (h : World.exec i a w = some (r, w')) : (w'.servers j).outbox = (w.servers j).outbox := by
  cases a with
  | sql st =>
    rw [World.exec] at h
    split at h
    · split at h <;> cases h <;> rfl
    · cases h; rfl
  | publish ch message =>
    rw [World.exec] at h
    split at h <;> cases h
    · exact Server.push_outbox _ ch _
    · rfl
  | eraseConn conn =>
    rw [World.exec] at h
    split at h <;> cases h
    · rfl
    · rw [World.modify_ne _ hj]
      rfl
  | halt why => cases h
  | acquire => cases h; rfl
  | findConn id => cases h; rfl
  | splitFriends ids => cases h; rfl
  | staleConns => cases h; rfl
  | _ => cases h; rw [World.modify_ne _ hj]

theorem run_outbox_ne {i j : ServerId} (hj : j ≠ i) {α : Type} {p : Serv α} {w w' : World} {x : α}
    (h : p.run i w = some (x, w')) : (w'.servers j).outbox = (w.servers j).outbox :=
  p.all_true.run_rel (L := chat) (R := fun w w' : World =>
    (w'.servers j).outbox = (w.servers j).outbox) (fun _ => rfl) (fun _ _ _ h h' => h'.trans h)
    (fun _ _ _ _ _ he => exec_outbox_ne hj he) h

/-- A step that runs a job as a whole, which fits, or no job. -/
def Label.Fits (P : JsonParser) (l : Label) (s : Sys) : Prop :=
  match l with
  | .whole i job => job.Fits P i s.world
  | .spawn .. => False
  | .act _ => False
  | _ => True

/-- The packets that the servers wrote since they started. -/
def AllDeliverable (w : World) : Prop := ∀ i, ∀ d ∈ (w.servers i).outbox, Deliverable d.js

theorem AllDeliverable.modify {w : World} (h : AllDeliverable w) {i : ServerId} {f : Server → Server}
    (hf : ∀ d ∈ (f (w.servers i)).outbox, d ∈ (w.servers i).outbox) :
    AllDeliverable (w.modify i f) := by
  intro j d hd
  by_cases hj : j = i
  · subst hj
    rw [World.modify_self] at hd
    exact h j d (hf d hd)
  · rw [World.modify_ne _ hj] at hd
    exact h j d hd

theorem whole_deliverable {P : JsonParser} {i : ServerId} {job : Job} {p : Serv Unit}
    {w w₁ w' : World} (hl : w.db.Linked) (hfits : job.Fits P i w) (h : AllDeliverable w)
    (hb : job.begin P i w = some (p, w₁)) (hr : p.run i w₁ = some ((), w')) :
    AllDeliverable w' := by
  intro j d hd
  have hbegin : (w₁.servers j).outbox = (w.servers j).outbox :=
    (Job.begins hb).field (·.outbox) (fun _ _ => rfl) (fun _ _ => rfl) j
  by_cases hj : j = i
  · subst hj
    have hsent := run_sent hr j
    rw [sentIn_congr hbegin.symm, hbegin] at hsent
    rw [hsent] at hd
    rcases List.mem_append.mp hd with hd | hd
    · exact h j d hd
    · exact (job_deliverable_iff hl hb hr).mpr hfits d hd
  · rw [run_outbox_ne hj hr, hbegin] at hd
    exact h j d hd

theorem step_deliverable {P : JsonParser} {l : Label} {s s' : Sys} (hl : s.world.db.Linked)
    (hfits : l.Fits P s) (h : AllDeliverable s.world) (hstep : Sys.step P l s = some s') :
    AllDeliverable s'.world := by
  cases l with
  | start i redis =>
    rw [Sys.step] at hstep
    split at hstep <;> cases hstep
    dsimp only
    exact h.modify fun d hd => by cases hd
  | connect i conn =>
    rw [Sys.step] at hstep
    split at hstep <;> cases hstep
    dsimp only
    exact h.modify fun d hd => hd
  | whole i job =>
    obtain ⟨⟨p, w⟩, hb, hstep⟩ := Option.bind_eq_some_iff.mp hstep
    obtain ⟨⟨⟨⟩, w'⟩, hr, rfl⟩ := Option.map_eq_some_iff.mp hstep
    exact whole_deliverable hl hfits h hb hr
  | spawn t i job => exact hfits.elim
  | act t => exact hfits.elim
  | tick seconds => cases hstep; exact h
  | publishLost i => cases hstep; dsimp only; exact h.modify fun d hd => hd
  | subscribeLost i => cases hstep; dsimp only; exact h.modify fun d hd => hd
  | resubscribe i =>
    rw [Sys.step] at hstep
    split at hstep <;> cases hstep
    dsimp only
    exact h.modify fun d hd => hd
  | exit i =>
    rw [Sys.step] at hstep
    split at hstep
    · obtain ⟨⟨⟨⟩, w'⟩, hr, rfl⟩ := Option.map_eq_some_iff.mp hstep
      unfold reset at hr
      rw [run_resetState] at hr
      cases hr
      have hask : AllDeliverable (s.world.ask .resetState).2 := by
        intro j d hd
        rw [World.ask_servers] at hd
        exact h j d hd
      dsimp only
      exact hask.modify fun d hd => by cases hd
    · cases hstep
  | crash i => cases hstep; dsimp only; exact h.modify fun d hd => by cases hd

/-- **Runs.** In a run of whole jobs that fit, all packets are deliverable. -/
theorem run_deliverable {P : JsonParser} {s : Sys} (h : (system P).ReachBy (Label.Fits P) s) :
    AllDeliverable s.world := by
  suffices hs : s.world.db.Linked ∧ AllDeliverable s.world from hs.2
  refine h.inv (I := fun s : Sys => s.world.db.Linked ∧ AllDeliverable s.world) ?_ ?_
  · rintro s ⟨collate, fates, now, rfl⟩
    exact ⟨Database.linked_created collate, fun i d hd => by cases hd⟩
  · rintro l s s' ⟨hl, hd⟩ hfits hstep
    refine ⟨?_, step_deliverable hl hfits hd hstep⟩
    refine step_keep (K := fun w => w.db.Linked) (fun _ _ _ _ _ hw he => ?_)
      (fun _ _ hdb _ hw => by rw [hdb]; exact hw) hl hstep
    rcases exec_db he with e | ⟨st, ans, rfl, hx⟩
    · rw [e]; exact hw
    · exact Database.exec_linked hw hx

/-- **Which packets can be delivered.** In every reachable state of the servers, whatever a thread
has to do next and whatever the statements answer: all packets that it writes have 1 to 1048576
bytes exactly if the job fits. -/
theorem packets_deliverable_iff {P : JsonParser} {s : Sys} (hs : (system P).Reach s) (i : ServerId)
    (job : Job) {p : Serv Unit} {w w' : World} (hb : job.begin P i s.world = some (p, w))
    (hr : p.run i w = some ((), w')) :
    (∀ d ∈ sentIn i s.world w', 1 ≤ d.js.dump.length ∧ d.js.dump.length ≤ 1048576) ↔
      job.Fits P i s.world :=
  job_deliverable_iff (reach_linked hs) hb hr

/-- The acknowledgement when MySQL works: all that is stored. -/
theorem World.Works.ackWidth {w : World} (hw : w.Works) (i : ServerId) (conn : ConnId) (id : Int) :
    w.ackWidth i conn id = QtChat.ackWidth (w.lookedUp id) ((w.db.offlineOf id).map cstr)
      (((w.loggedIn i conn id).db.friendRows id).map FriendModel.friendOf)
      ((w.loggedIn i conn id).db.groupsOf id) := by
  obtain ⟨hf, hg⟩ := loginVecs_works i conn hw id
  rw [World.ackWidth, hf, hg, offlineVec_works i conn hw id]

/-! ## Too many messages -/

/-- A message from user 1 to user 2. -/
def note : Json := ChatClient.oneChat 1 (txt "ann") 2 (txt "hello") (txt "now")

def bobLogin : Json := ChatClient.login 2 (txt "pw")

def backlogParser : JsonParser :=
  .ofDumps [note, bobLogin, ChatClient.reg (txt "ann") (txt "pw"), ChatClient.reg (txt "bob") (txt "pw"),
    ChatClient.login 1 (txt "pw")]

theorem parse_note : backlogParser.parse note.dump = some note := by
  simp [backlogParser, JsonParser.ofDumps]

theorem parse_bobLogin : backlogParser.parse bobLogin.dump = some bobLogin := by
  have h : note.dump ≠ bobLogin.dump := by decide +kernel
  simp [backlogParser, JsonParser.ofDumps, h]

theorem dispatch_note : dispatch 1 note = .ok (oneChatTo 2 note) := rfl

theorem dispatch_bobLogin : dispatch 2 bobLogin = .ok (loginAs 2 2 (txt "pw")) := rfl

/-- Both users register, and user 1 logs in. -/
def backlogSetup : List Label :=
  [.start 0 true, .connect 0 1, .connect 0 2,
    .whole 0 (.frame 1 (ChatClient.reg (txt "ann") (txt "pw")).dump),
    .whole 0 (.frame 2 (ChatClient.reg (txt "bob") (txt "pw")).dump),
    .whole 0 (.frame 1 (ChatClient.login 1 (txt "pw")).dump)]

/-- User 2 is offline, and has `n` notes. -/
structure Backlog (s : Sys) (n : Nat) : Prop where
  works : s.world.Works
  running : (s.world.servers 0).running = true
  conns : (s.world.servers 0).conns 1 = .connected ∧ (s.world.servers 0).conns 2 = .connected
  absent : (s.world.servers 0).userConnMap.lookup 2 = none
  row : s.world.db.user.find 2 = some ⟨txt "bob", txt "pw", .offline⟩
  stored : s.world.db.offlineOf 2 = List.replicate n note.dump

theorem backlog_setup : ∃ s, (system backlogParser).runs backlogSetup Sys.initial = some s ∧
    Backlog s 0 := by
  have h : ((system backlogParser).runs backlogSetup Sys.initial).map (fun s : Sys =>
      (((s.world.servers 0).running, (s.world.servers 0).conns 1, (s.world.servers 0).conns 2),
        (s.world.servers 0).userConnMap.lookup 2, s.world.db.user.find 2, s.world.db.offlineOf 2)) =
      some ((true, .connected, .connected), none, some ⟨txt "bob", txt "pw", .offline⟩, []) := by
    decide +kernel
  obtain ⟨s, hs, hf⟩ := Option.map_eq_some_iff.mp h
  simp only [Prod.mk.injEq] at hf
  obtain ⟨⟨hrun, h₁, h₂⟩, habs, hrow, hst⟩ := hf
  exact ⟨s, hs, works_of_runs hs, hrun, ⟨h₁, h₂⟩, habs, hrow, hst⟩

theorem backlog_step {s : Sys} {n : Nat} (h : Backlog s n) : ∃ s',
    (system backlogParser).step (.whole 0 (.frame 1 note.dump)) s = some s' ∧ Backlog s' (n + 1) := by
  have hb : Job.begin backlogParser 0 s.world (.frame 1 note.dump) =
      some (handleMsg backlogParser 1 note.dump, s.world) := by
    refine if_pos ⟨h.running, ?_, dump_ne_nil note, by decide +kernel⟩
    rw [h.conns.1]
    decide
  have hr : (handleMsg backlogParser 1 note.dump).run (0 : ServerId) s.world =
      some ((), (s.world.noted 0 1).afterOneChat 0 2 note) := by
    rw [run_handleMsg _ _ parse_note, dispatch_note]
    exact run_oneChatTo 0 (s.world.noted 0 1) 2 note
  refine ⟨⟨(s.world.noted 0 1).afterOneChat 0 2 note, s.threads⟩, ?_, ?_⟩
  · change (Job.begin backlogParser 0 s.world (.frame 1 note.dump)).bind _ = _
    rw [hb, Option.bind_some, hr]
    rfl
  · have hw : (s.world.noted 0 1).Works := h.works
    have hself := (s.world.noted 0 1).same_ask (s := .selectUser 2) fun db => ⟨_, rfl⟩
    have hservers : (s.world.noted 0 1).servers 0 = { s.world.servers 0 with
        connectionLastTime := (s.world.servers 0).connectionLastTime.insert 1 s.world.now } :=
      World.modify_self ..
    have hstate : ¬((s.world.noted 0 1).lookedUp 2).state = .online := by
      rw [hw.lookedUp_online, Database.stateOf]
      change ¬(s.world.db.user.find 2).map _ = _
      rw [h.row]
      decide
    have hafter : (s.world.noted 0 1).afterOneChat 0 2 note =
        (((s.world.noted 0 1).ask (.selectUser 2)).2.ask
          (.insertOffline (OfflineMsgModel.insertSql 2 note.dump))).2 := by
      unfold World.afterOneChat
      rw [hservers, h.absent]
      exact if_neg hstate
    have htakes : s.world.db.Takes 2 note.dump := by
      refine ⟨by decide +kernel, ?_, by decide +kernel⟩
      rw [Database.hasUser, h.row]
      rfl
    have hdb : ((s.world.noted 0 1).afterOneChat 0 2 note).db = s.world.db.store 2 note.dump := by
      rw [hafter, (hself.works hw).ask_insert, hself.db]
      rfl
    have hsrv : ((s.world.noted 0 1).afterOneChat 0 2 note).servers =
        (s.world.noted 0 1).servers := by
      rw [hafter, World.ask_servers, hself.servers]
    refine ⟨?_, ?_, ?_, ?_, ?_, ?_⟩
    · rw [hafter]
      exact (hself.works hw).after_ask _
    · rw [hsrv, hservers]
      exact h.running
    · rw [hsrv, hservers]
      exact h.conns
    · rw [hsrv, hservers]
      exact h.absent
    · rw [hdb, Database.store_user]
      exact h.row
    · have hst := s.world.db.storeAll_offlineOf (List.nodup_singleton 2) note.dump 2
      rw [hdb, List.replicate_succ', ← h.stored]
      simpa [Database.storeAll, htakes] using hst

theorem backlog_runs {s : Sys} {k : Nat} (h : Backlog s k) (n : Nat) : ∃ s',
    (system backlogParser).runs (List.replicate n (Label.whole 0 (.frame 1 note.dump))) s =
      some s' ∧ Backlog s' (k + n) := by
  induction n generalizing s k with
  | zero => exact ⟨s, rfl, h⟩
  | succ n ih =>
    obtain ⟨s₁, hstep, h₁⟩ := backlog_step h
    obtain ⟨s', hr, h'⟩ := ih h₁
    refine ⟨s', (Machine.runs_step hstep).trans hr, ?_⟩
    rwa [Nat.add_assoc, Nat.add_comm 1 n] at h'

theorem backlog_accepts {s : Sys} {n : Nat} (h : Backlog s n) :
    Accepts ((s.world.noted 0 2).lookedUp 2) 2 (txt "pw") := by
  have hw : (s.world.noted 0 2).Works := h.works
  unfold World.lookedUp
  rw [hw.ask_read rfl]
  change Accepts (User.found 2 (some (s.world.db.user.find 2))) 2 (txt "pw")
  rw [h.row]
  decide

/-- A note takes at least 65 bytes of the acknowledgement. -/
theorem backlog_ackWidth {s : Sys} {n : Nat} (h : Backlog s n) :
    65 * n ≤ (s.world.noted 0 2).ackWidth 0 2 2 := by
  have hw : (s.world.noted 0 2).Works := h.works
  have hvec : (s.world.noted 0 2).offlineVec 0 2 2 = List.replicate n note.dump := by
    rw [offlineVec_works 0 2 hw]
    change (s.world.db.offlineOf 2).map cstr = _
    rw [h.stored, List.map_replicate, cstr_dump]
  have hnote : 65 ≤ 3 + strWidth 1 note.dump := by decide +kernel
  calc 65 * n ≤ n * (3 + strWidth 1 note.dump) := by
        rw [Nat.mul_comm]
        exact Nat.mul_le_mul_left n hnote
    _ = ((List.replicate n note.dump).map fun s => 3 + strWidth 1 s).sum := by
        rw [List.map_replicate, List.sum_replicate_nat]
    _ ≤ (s.world.noted 0 2).ackWidth 0 2 2 := by
        rw [World.ackWidth, hvec]
        exact sum_le_ackWidth _ _ _ _

/-- User 2 logs in. -/
theorem backlog_login {s : Sys} {n : Nat} (h : Backlog s n) : ∃ w' accepted rest,
    Job.begin backlogParser 0 s.world (.frame 2 bobLogin.dump) =
      some (handleMsg backlogParser 2 bobLogin.dump, s.world) ∧
    (handleMsg backlogParser 2 bobLogin.dump).run (0 : ServerId) s.world = some ((), w') ∧
    sentIn 0 s.world w' = ⟨2, (s.world.noted 0 2).loginAck 0 2 2, accepted⟩ :: rest := by
  have haccepts := backlog_accepts h
  obtain ⟨_, w', -, hr, -⟩ := run_loginAs 0 (s.world.noted 0 2) 2 haccepts
  obtain ⟨accepted, rest, hsent, -⟩ := loginAs_sends 0 (s.world.noted 0 2) 2 haccepts hr
  refine ⟨w', accepted, rest, ?_, ?_, ?_⟩
  · refine if_pos ⟨h.running, ?_, dump_ne_nil bobLogin, by decide +kernel⟩
    rw [h.conns.2]
    decide
  · rw [run_handleMsg _ _ parse_bobLogin, dispatch_bobLogin]
    exact hr
  · have hsame : sentIn 0 (s.world.noted 0 2) w' = sentIn 0 s.world w' := sentIn_modify rfl
    rw [← hsame, hsent]

theorem packets_deliverable_iff_login : ∃ s w', (system backlogParser).Reach s ∧
    (handleMsg backlogParser 2 bobLogin.dump).run (0 : ServerId) s.world = some ((), w') ∧
    ((∀ d ∈ sentIn 0 s.world w', 1 ≤ d.js.dump.length ∧ d.js.dump.length ≤ 1048576) ↔
      (Job.frame 2 bobLogin.dump).Fits backlogParser 0 s.world) := by
  obtain ⟨s, hs, hlog⟩ := backlog_setup
  obtain ⟨w', _, _, hb, hr, -⟩ := backlog_login hlog
  exact ⟨s, w', reach_of_runs hs, hr, packets_deliverable_iff (reach_of_runs hs) 0 _ hb hr⟩

/-- With 16384 notes the acknowledgement is too long. -/
theorem ack_too_long : ¬∀ (P : JsonParser) (s : Sys), (system P).Reach s → ∀ (i : ServerId)
    (job : Job) (p : Serv Unit) (w w' : World), job.begin P i s.world = some (p, w) →
    p.run i w = some ((), w') → ∀ d ∈ sentIn i s.world w',
      1 ≤ d.js.dump.length ∧ d.js.dump.length ≤ 1048576 := by
  intro hall
  obtain ⟨s₀, h₀, hs₀⟩ := backlog_setup
  obtain ⟨s, hs, hlog⟩ := backlog_runs hs₀ 16384
  have hreach : (system backlogParser).Reach s := (reach_of_runs h₀).runs hs
  obtain ⟨w', accepted, rest, hb, hr, hsent⟩ := backlog_login hlog
  have hd := (hall backlogParser s hreach 0 _ _ _ w' hb hr
    ⟨2, (s.world.noted 0 2).loginAck 0 2 2, accepted⟩ (by rw [hsent]; exact List.mem_cons_self)).2
  have hlong := backlog_ackWidth hlog
  rw [length_dump, loginAck_width] at hd
  omega

end QtChat
