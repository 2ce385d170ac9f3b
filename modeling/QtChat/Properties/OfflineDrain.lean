import QtChat.Properties.OfflineDelivery
import QtChat.Server.Traces

/-!
# What the login removes

`login` reads the offline messages, sends them, and removes all messages of the user by one
`DELETE`. Meanwhile other handlers may store messages.

- `loginAs_drains`: before the `DELETE` the login has read a list and sent exactly it.
- `drain_sound_iff`: everything removed was sent exactly if nothing was stored between the read and
  the `DELETE`, in every interleaving.
-/

namespace QtChat

open Interleave ChatService

/-- The handlers that store messages, and a thread that does nothing. -/
inductive Sender : Serv Unit → Prop
  | oneChat (toid : Int) (js : Json) : Sender (oneChatTo toid js)
  | groupChat (userid groupid : Int) (js : Json) : Sender (groupChatFrom userid groupid js)
  | redis (P : JsonParser) (userid : Int) (msg : Str) :
      Sender (handleRedisSubscribeMessage P userid msg)
  | idle : Sender (.ret ())

theorem Sender.all {p : Serv Unit} (h : Sender p) : p.All ChatAct := by
  cases h with
  | oneChat toid js => exact oneChatTo_all toid js
  | groupChat userid groupid js => exact groupChatFrom_all userid groupid js
  | redis P userid msg => exact handleRedisSubscribeMessage_all P userid msg
  | idle => trivial

/-! ## The calls of the login -/

/-- Neither reads nor removes offline messages, nor sends. -/
def Quiet : Act → Prop
  | .sql (.selectOffline _) => False
  | .sql (.deleteOffline _) => False
  | .send .. => False
  | _ => True

/-- The calls read a list and sent it in an acknowledgement on `conn`, and nothing else. -/
def Drains (conn : ConnId) (id : Int) (h : List (Call chat)) : Prop :=
  ∃ h₁ rows h₂ js h₃, h = h₁ ++ ⟨.sql (.selectOffline id), some rows⟩ ::
      (h₂ ++ ⟨.send conn js, ()⟩ :: h₃) ∧
    (∀ c ∈ h₁, Quiet c.act) ∧ (∀ c ∈ h₂, Quiet c.act) ∧ (∀ c ∈ h₃, Quiet c.act) ∧
    IsLoginAck js ∧ offlineMsgs js = rows.map cstr

/-- What must have happened before the login removes the messages. -/
def BeforeRemove (conn : ConnId) (id : Int) (h : List (Call chat)) (a : Act) : Prop :=
  a = .sql (.deleteOffline id) → Drains conn id h

theorem beforeRemove_of_quiet {conn : ConnId} {id : Int} (h : List (Call chat)) (a : Act)
    (ha : Quiet a) : BeforeRemove conn id h a := by
  rintro rfl
  exact ha.elim

/-- A list that is not empty was read by the last call. -/
theorem queryOffline_ends (userid : Int) : (OfflineMsgModel.query userid).Ends (fun _ => True)
    fun h vec => vec ≠ [] → ∃ h₁ rows, h = h₁ ++ [⟨.sql (.selectOffline userid), some rows⟩] ∧
      (∀ c ∈ h₁, Quiet c.act) ∧ vec = rows.map cstr := by
  intro ok _
  cases ok with
  | false => exact fun hv => absurd rfl hv
  | true =>
    intro rows _ hv
    cases rows with
    | none => exact absurd rfl hv
    | some rows =>
      refine ⟨[⟨.acquire, true⟩], rows, rfl, fun c hc => ?_, rfl⟩
      rw [List.mem_singleton.mp hc]
      trivial

theorem queryOffline_always {conn : ConnId} {id : Int} (userid : Int) (h : List (Call chat)) :
    (OfflineMsgModel.query userid).Always (fun _ => True) (BeforeRemove conn id) h := by
  have ha : (OfflineMsgModel.query userid).All fun a : Act =>
      ∀ userid, a ≠ .sql (.deleteOffline userid) := by
    unfold OfflineMsgModel.query
    exact all_ask (by simp) (by simp) trivial fun _ => trivial
  exact Prog.always_of_all ha (fun _ _ hn e => absurd e (hn id)) h

theorem sendLogin_drains {conn : ConnId} {user : User} {h : List (Call chat)}
    (hq : ∀ c ∈ h, Quiet c.act) :
    (sendLogin conn user).Always (fun _ => True) (BeforeRemove conn user.id) h := by
  unfold sendLogin
  refine (queryOffline_always user.id h).bind ((queryOffline_ends user.id).mono fun h₁ vec hv => ?_)
  refine Prog.All.always_bind (P := Quiet) (all_friends trivial trivial) beforeRemove_of_quiet
    fun h₂ userVec hq₂ => ?_
  refine Prog.All.always_bind (P := Quiet) (all_queryGroups trivial trivial fun _ => trivial)
    beforeRemove_of_quiet fun h₃ groupVec hq₃ => ?_
  refine (Prog.always_act (L := chat) _ _ _).mpr ⟨fun e => (nomatch e), fun _ _ => ?_⟩
  change Prog.Always (L := chat) _ _ _ (if (!vec.isEmpty) = true then _ else _)
  split
  · rename_i hne
    obtain ⟨h₀, rows, rfl, hq₀, rfl⟩ := hv (by simpa using hne)
    refine (Prog.always_act (L := chat) _ _ _).mpr ⟨fun e => (nomatch e), fun ok _ => ?_⟩
    change Prog.Always (L := chat) _ _ _ (if (!ok) = true then _ else _)
    split
    · trivial
    · refine (Prog.always_act (L := chat) _ _ _).mpr ⟨fun _ => ?_, fun _ _ => trivial⟩
      refine ⟨h ++ h₀, rows, h₂ ++ h₃, loginResponse user (rows.map cstr) userVec groupVec,
        [⟨.acquire, ok⟩], ?_, ?_, ?_, ?_,
        isLoginAck_loginResponse _ _ _ _, offlineMsgs_loginResponse _ _ _ _⟩
      · simp only [List.append_assoc, List.cons_append, List.nil_append]
      · exact fun c hc => (List.mem_append.mp hc).elim (hq c) (hq₀ c)
      · exact fun c hc => (List.mem_append.mp hc).elim (hq₂ c) (hq₃ c)
      · intro c hc
        rw [List.mem_singleton.mp hc]
        trivial
  · trivial

/-- **Before the login removes the messages** it has read a list and sent it. -/
theorem loginAs_drains (conn : ConnId) (id : Int) (pwd : Str) :
    (loginAs conn id pwd).Always (fun _ => True) (BeforeRemove conn id) [] := by
  unfold loginAs
  refine Prog.All.always_bind (P := Quiet) (all_query trivial trivial) beforeRemove_of_quiet
    fun h₁ user hq₁ => ?_
  split
  · rename_i hu
    refine Prog.All.always_bind (P := Quiet) ?_ beforeRemove_of_quiet fun h₂ _ hq₂ => ?_
    · unfold registerConn
      split
      · exact ⟨trivial, fun _ => trivial⟩
      · exact ⟨trivial, fun _ => ⟨trivial, fun _ => trivial⟩⟩
    refine Prog.All.always_bind (P := Quiet) (all_ask trivial trivial trivial fun _ => trivial)
      beforeRemove_of_quiet fun h₃ _ hq₃ => ?_
    refine Prog.Always.bind ?_ ((Prog.ends_of_all (Prog.all_true _)).mono fun h₄ _ _ => ?_)
    · have := @sendLogin_drains conn { user with state := .online } ([] ++ h₁ ++ h₂ ++ h₃) ?_
      · rw [← hu.1]; exact this
      · simp only [List.nil_append, List.mem_append]
        rintro c ((hc | hc) | hc)
        · exact hq₁ c hc
        · exact hq₂ c hc
        · exact hq₃ c hc
    · refine Prog.always_of_all (notifyFriendState_all id .online) (fun h a ha e => ?_) _
      rw [e] at ha
      cases ha
  · exact (Prog.always_act (L := chat) _ _ _).mpr ⟨fun e => (nomatch e), fun _ _ => trivial⟩

/-! ## The interleavings -/

section Trace

variable (site : Tid → ServerId) (t₀ : Tid) (conn : ConnId) (id : Int) (w : World)
  (tr : List (Ev chat))

/-- Whenever thread `t₀` removes the messages of `id`, those that are stored then were sent in an
acknowledgement on `conn`. -/
def DrainSound : Prop :=
  ∀ tr₁ e tr₂ w₁, tr = tr₁ ++ e :: tr₂ → e.tid = t₀ → RemovesOffline id e.call →
    Evolves (L := chat) site calm w tr₁ w₁ →
    ∃ js, ⟨t₀, ⟨.send conn js, ()⟩⟩ ∈ tr₁ ∧ IsLoginAck js ∧
      ((w₁.db.offlineOf id).map cstr).Subperm (offlineMsgs js)

/-- Nothing is stored for `id` from where thread `t₀` has read the messages to where it removes
them. -/
def Undisturbed : Prop :=
  ∀ tr₁ r tr₂ e tr₃, tr = tr₁ ++ r :: tr₂ ++ e :: tr₃ → r.tid = t₀ → ReadsOffline id r.call →
    e.tid = t₀ → RemovesOffline id e.call → ∀ x ∈ tr₂, storedBy id x.call = []

variable {site t₀ conn id w tr} {pwd : Str} {P P' : Pool chat} {w' : World}

/-- What is stored after the messages were read: these, and what was stored since. -/
theorem stored_since {tr₁ tr₂ : List (Ev chat)} {rows : List Str} {w₁ : World}
    (h : Evolves (L := chat) site calm w (tr₁ ++ ⟨t₀, ⟨.sql (.selectOffline id), some rows⟩⟩ :: tr₂) w₁)
    (hd : ∀ e ∈ tr₂, ∀ userid, e.call.act ≠ .sql (.deleteOffline userid)) :
    w₁.db.offlineOf id = rows ++ tr₂.flatMap fun e => storedBy id e.call := by
  obtain ⟨w₂, -, h⟩ := h.split
  obtain ⟨w₃, w₄, -, hx, h⟩ := h.cons
  have hr : w₄.db.offlineOf id = rows := by
    rcases exec_sql (i := site t₀) hx with ⟨e, -⟩ | ⟨ans, e, he⟩
    · cases e
    · cases e
      obtain ⟨h₁, h₂⟩ := Prod.mk.inj (Option.some.inj he)
      rw [← h₂, ← h₁]
  rw [h.adds (f := fun w : World => w.db.offlineOf id) (g := fun e => storedBy id e.call)
    (fun _ _ he => by cases he) fun e he w w' hx => exec_offlineOf id hx (hd e he), hr]

variable (h : Run (L := chat) site calm P w tr P' w') (h₀ : P t₀ = loginAs conn id pwd)
  (hs : ∀ t, t ≠ t₀ → Sender (P t))
include h

include hs in
theorem sender_act {e : Ev chat} (he : e ∈ tr) (ht : e.tid ≠ t₀) : ChatAct e.call.act :=
  (h.path e.tid).all (hs e.tid ht).all e.call (mem_own.mpr he)

include h₀ in
theorem drains_before {tr₁ tr₂ : List (Ev chat)} {e : Ev chat} (htr : tr = tr₁ ++ e :: tr₂)
    (he : e.tid = t₀) (hr : RemovesOffline id e.call) : Drains conn id (own t₀ tr₁) := by
  have hp := h.path t₀
  rw [h₀, htr, own_append, own_cons, if_pos he] at hp
  exact (loginAs_drains conn id pwd).path hp (fun _ _ => trivial) hr.act

include h₀ hs in
/-- At one `DELETE`: all was sent exactly if nothing was stored since the read. -/
theorem sent_iff {tr₁ tr₂ tr₃ : List (Ev chat)} {r e : Ev chat} {w₁ : World}
    (htr : tr = tr₁ ++ r :: tr₂ ++ e :: tr₃) (hr : r.tid = t₀) (hread : ReadsOffline id r.call)
    (he : e.tid = t₀) (hrem : RemovesOffline id e.call)
    (hev : Evolves (L := chat) site calm w (tr₁ ++ r :: tr₂) w₁) :
    (∃ js, ⟨t₀, ⟨.send conn js, ()⟩⟩ ∈ tr₁ ++ r :: tr₂ ∧ IsLoginAck js ∧
      ((w₁.db.offlineOf id).map cstr).Subperm (offlineMsgs js)) ↔
      ∀ x ∈ tr₂, storedBy id x.call = [] := by
  obtain ⟨h₁, rows, h₂, js, h₃, hown, hq₁, hq₂, hq₃, hack, hmsgs⟩ := drains_before h h₀ htr he hrem
  have hown' := hown
  obtain ⟨rt, rc⟩ := r
  simp only at hr hread
  subst hr
  rw [own_append, own_cons_self] at hown
  have hread' : ∀ c : Call chat, Quiet c.act → ¬ReadsOffline id c := by
    rintro c hq hc
    obtain ⟨rows, rfl⟩ := hc.eq
    exact hq
  obtain ⟨rfl, rfl, ht₂⟩ := split_unique (p := ReadsOffline id) hread
    (fun c hc => hread' c (hq₁ c hc)) (by
      intro c hc
      rcases List.mem_append.mp hc with hc | hc
      · exact hread' c (hq₂ c hc)
      · rcases List.mem_cons.mp hc with rfl | hc
        · exact fun hf => hf
        · exact hread' c (hq₃ c hc)) hown
  have hd : ∀ x ∈ tr₂, ∀ userid, x.call.act ≠ .sql (.deleteOffline userid) := by
    intro x hx userid e'
    by_cases ht : x.tid = rt
    · have hm : x.call ∈ own rt tr₂ := by rw [← ht]; exact mem_own.mpr hx
      rw [ht₂] at hm
      rcases List.mem_append.mp hm with hm | hm
      · have := hq₂ _ hm; rw [e'] at this; exact this
      · rcases List.mem_cons.mp hm with hm | hm
        · rw [hm] at e'; cases e'
        · have := hq₃ _ hm; rw [e'] at this; exact this
    · have := sender_act h hs (by rw [htr]; simp [hx]) ht
      rw [e'] at this
      exact this
  rw [stored_since hev hd, List.map_append, ← hmsgs]
  constructor
  · rintro ⟨js', hm, -, hsub⟩
    have hjs : js' = js := by
      have hm := mem_own.mpr hm
      rw [hown'] at hm
      have hno : ∀ c : Call chat, Quiet c.act → c ≠ ⟨.send conn js', ()⟩ := by
        rintro c hq rfl
        exact hq
      rcases List.mem_append.mp hm with hm | hm
      · exact absurd rfl (hno _ (hq₁ _ hm))
      · rcases List.mem_cons.mp hm with hm | hm
        · cases hm
        · rcases List.mem_append.mp hm with hm | hm
          · exact absurd rfl (hno _ (hq₂ _ hm))
          · rcases List.mem_cons.mp hm with hm | hm
            · cases hm; rfl
            · exact absurd rfl (hno _ (hq₃ _ hm))
    subst hjs
    have hl := hsub.length_le
    rw [List.length_append, List.length_map] at hl
    have : tr₂.flatMap (fun e => storedBy id e.call) = [] :=
      List.length_eq_zero_iff.mp (by omega)
    exact List.flatMap_eq_nil_iff.mp this
  · intro hn
    refine ⟨js, mem_own.mp (by rw [hown']; simp), hack, ?_⟩
    rw [List.flatMap_eq_nil_iff.mpr hn, List.map_nil, List.append_nil]

end Trace

/-- **When the login loses nothing.** In every interleaving of a login with handlers that store
messages, what it removes was sent exactly if nothing was stored between its read and its `DELETE`.
-/
theorem drain_sound_iff {site : Tid → ServerId} {t₀ : Tid} {conn : ConnId} {id : Int} {pwd : Str}
    {P P' : Pool chat} {w w' : World} {tr : List (Ev chat)}
    (h : Run (L := chat) site calm P w tr P' w') (h₀ : P t₀ = loginAs conn id pwd)
    (hs : ∀ t, t ≠ t₀ → Sender (P t)) :
    DrainSound site t₀ conn id w tr ↔ Undisturbed t₀ id tr := by
  constructor
  · intro hd tr₁ r tr₂ e tr₃ htr hr hread he hrem
    have hev := h.evolves
    rw [htr] at hev
    obtain ⟨w₁, hev, -⟩ := hev.split
    exact (sent_iff h h₀ hs htr hr hread he hrem hev).mp (hd _ e tr₃ w₁ htr he hrem hev)
  · intro hu tr₁ e tr₃ w₁ htr he hrem hev
    obtain ⟨h₁, rows, h₂, js, h₃, hown, -⟩ := drains_before h h₀ htr he hrem
    obtain ⟨tr₀, tr₂, rfl, -, -⟩ := own_split hown
    exact (sent_iff h h₀ hs htr rfl (show ReadsOffline id _ from rfl) he hrem hev).mpr
      (hu _ _ _ e tr₃ htr rfl rfl he hrem)

/-- User 1 has a message stored, a login and a message for the user come together. -/
def drainPool : Pool chat
  | 0 => loginAs 1 1 (txt "pw")
  | 1 => (messageOf 5).2.handle
  | _ => .ret ()

def World.oneStored : World :=
  { World.oneUser with db := { World.oneUser.db with
      offlineMessage := [(1, (messageOf 4).2.js.dump)] } }

theorem drainPool_sender : ∀ t, t ≠ 0 → Sender (drainPool t)
  | 0, h => absurd rfl h
  | 1, _ => .oneChat _ _
  | _ + 2, _ => .idle

/-- The message is looked up before the login and stored after its read. -/
def drainSchedule : List (Option Tid) :=
  List.replicate 3 (some 1) ++ List.replicate 8 (some 0) ++ List.replicate 2 (some 1) ++
    List.replicate 10 (some 0)

theorem drain_sound_iff_race : ∃ tr P' w',
    Run (L := chat) (fun _ => 0) calm drainPool World.oneStored tr P' w' ∧
    (DrainSound (fun _ => 0) 0 1 1 World.oneStored tr ↔ Undisturbed 0 1 tr) := by
  have h : (sched (L := chat) (fun _ => 0) calm drainSchedule drainPool World.oneStored).isSome := by
    decide +kernel
  obtain ⟨⟨tr, P', w'⟩, h⟩ := Option.isSome_iff_exists.mp h
  exact ⟨tr, P', w', sched_run h, drain_sound_iff (sched_run h) rfl drainPool_sender⟩

/-- Two items of a list and what stands between them. -/
theorem split_two {α : Type} {l : List α} {m n : Nat} {a b : α} (ha : l[m]? = some a)
    (hb : l[m + 1 + n]? = some b) :
    l = l.take m ++ a :: (l.drop (m + 1)).take n ++ b :: l.drop (m + 1 + n + 1) := by
  obtain ⟨hm, rfl⟩ := List.getElem?_eq_some_iff.mp ha
  obtain ⟨hn, rfl⟩ := List.getElem?_eq_some_iff.mp hb
  calc l = l.take m ++ l[m] :: l.drop (m + 1) := by
        rw [← List.drop_eq_getElem_cons hm, List.take_append_drop]
    _ = l.take m ++ l[m] :: ((l.drop (m + 1)).take n ++ l.drop (m + 1 + n)) := by
        rw [← List.drop_drop (i := n) (j := m + 1), List.take_append_drop]
    _ = _ := by
        rw [List.drop_eq_getElem_cons hn, List.append_assoc, List.cons_append]

/-- The second message is removed and was not sent. -/
theorem drain_unsound : ¬∀ (site : Tid → ServerId) (t₀ : Tid) (conn : ConnId) (id : Int) (pwd : Str)
    (P P' : Pool chat) (w w' : World) (tr : List (Ev chat)), Run (L := chat) site calm P w tr P' w' →
    P t₀ = loginAs conn id pwd → (∀ t, t ≠ t₀ → Sender (P t)) → DrainSound site t₀ conn id w tr := by
  intro hall
  have h : (sched (L := chat) (fun _ => 0) calm drainSchedule drainPool World.oneStored).map
      (fun r => (r.1[10]?.map fun e => (e.tid, decide (ReadsOffline 1 e.call)),
        r.1[19]?.map fun e => (e.tid, decide (RemovesOffline 1 e.call)),
        r.1[12]?.map fun e => decide (storedBy 1 e.call = []))) =
      some (some (0, true), some (0, true), some false) := by
    decide +kernel
  obtain ⟨⟨tr, P', w'⟩, hs, hf⟩ := Option.map_eq_some_iff.mp h
  simp only [Prod.mk.injEq, Option.map_eq_some_iff, decide_eq_true_eq, decide_eq_false_iff_not] at hf
  obtain ⟨⟨r, hr, hr0, hread⟩, ⟨e, he, he0, hrem⟩, ⟨x, hx, hst⟩⟩ := hf
  have hrun := sched_run hs
  have hd := hall _ _ 1 1 (txt "pw") _ _ _ _ _ hrun rfl drainPool_sender
  have htr := split_two (n := 8) hr he
  have hev := hrun.evolves
  rw [htr] at hev
  obtain ⟨w₁, hev, -⟩ := hev.split
  have := (sent_iff hrun rfl drainPool_sender htr hr0 hread he0 hrem hev).mp
    (hd _ e _ w₁ htr he0 hrem hev)
  refine hst (this x (List.mem_of_getElem? (i := 1) ?_))
  rw [List.getElem?_take, List.getElem?_drop]
  exact hx

end QtChat
