import QtChat.Client.Requests
import QtChat.Properties.LoginSound
import QtChat.Server.ChatRuns
import QtChat.Server.Invariants

/-!
# What an offline user gets at the next login

Handlers run one after another and MySQL executes what it is sent. `OfflineMsgModel::insert` formats
its statement into 2048 bytes, and a cut statement is a syntax error, so a message whose statement
is longer is lost.

- `handleAll_offline`: what is stored for an offline user after any sequence of chat messages.
- `offline_delivery_iff`: the next login delivers every message once and unaltered exactly if every
  statement fits.
-/

namespace QtChat

open Interleave ChatService

/-- The messages are handled one after another, each on its server. -/
def handleAll : List (ServerId × Chat) → World → Option World
  | [], w => some w
  | m :: msgs, w => (m.2.handle.run m.1 w).bind fun r => handleAll msgs r.2

/-- The strings in the `offlinemsg` list of a packet. -/
def offlineMsgs (js : Json) : List Str :=
  match js.get? "offlinemsg" with
  | some (.arr xs) => xs.filterMap fun
    | .str s => some s
    | _ => none
  | _ => []

theorem offlineMsgs_loginResponse (user : User) (vec : List Str) (userVec : List User)
    (groupVec : List Group) : offlineMsgs (loginResponse user vec userVec groupVec) = vec := by
  have h : (loginResponse user vec userVec groupVec).get? "offlinemsg" =
      if vec.isEmpty then none else some (.strings vec) := by
    unfold loginResponse
    rw [Json.get?_object_append, Json.get?_object_append]
    · unfold listField
      split
      · rw [List.append_nil]; rfl
      · rw [Json.get?_object_concat, if_pos rfl]
    · intro f hf; rw [listField_key hf]; decide
    · intro f hf; rw [listField_key hf]; decide
  unfold offlineMsgs
  rw [h]
  split
  · rename_i xs hx
    split at hx
    · cases hx
    · cases hx
      induction vec with
      | nil => rfl
      | cons s vec ih => simp_all
  · rename_i hx
    cases vec with
    | nil => rfl
    | cons s vec => exact absurd rfl (hx _)

theorem not_isLoginAck_friendState (userid : Int) (state : UserState) :
    ¬IsLoginAck (friendState userid state) := by
  rintro ⟨h, -⟩
  cases h

/-- **What is stored** after the messages: those for `u` that MySQL takes, in order. -/
theorem handleAll_offline {w : World} (hw : w.Works) {u : Int}
    (hst : w.db.stateOf u = some .offline)
    (habs : ∀ j, (w.servers j).userConnMap.lookup u = none) (msgs : List (ServerId × Chat)) :
    ∃ w₁, handleAll msgs w = some w₁ ∧ w₁.Works ∧ w₁.db.user = w.db.user ∧
      w₁.db.offlineOf u = w.db.offlineOf u ++
        (msgs.filter fun m => m.2.RoutedTo w.db u ∧ w.db.Takes u m.2.js.dump).map
          (·.2.js.dump) := by
  induction msgs generalizing w with
  | nil => exact ⟨w, rfl, hw, rfl, by simp⟩
  | cons m msgs ih =>
    obtain ⟨w', hr, hw', hu', hg', ho'⟩ := m.2.run_offline hw m.1 hst (habs m.1)
    have hs : SameSession u w w' :=
      run_session (m.2.handle_all.mono fun _ => not_touches_of_chat u) hr
    obtain ⟨w₁, hr₁, hw₁, hu₁, ho₁⟩ := ih hw' (hs.state _ hst) fun j => (hs.entry j).trans (habs j)
    have ht : ∀ msg, w'.db.Takes u msg ↔ w.db.Takes u msg := fun msg => by
      simp only [Database.Takes, Database.hasUser, hu']
    refine ⟨w₁, by rw [handleAll, hr]; exact hr₁, hw₁, hu₁.trans hu', ?_⟩
    rw [ho₁, ho', List.append_assoc]
    congr 1
    simp only [Chat.routedTo_congr hg', ht, List.filter_cons]
    by_cases h : m.2.RoutedTo w.db u ∧ w.db.Takes u m.2.js.dump
    · rw [if_pos h, if_pos (by simpa using h)]
      rfl
    · rw [if_neg h, if_neg (by simpa using h)]
      rfl

/-- The dumps of the messages for `u`. -/
def dumpsFor (db : Database) (u : Int) (msgs : List (ServerId × Chat)) : List Str :=
  (msgs.filter fun m => m.2.RoutedTo db u).map (·.2.js.dump)

/-- The login on `conn` of server `i` sent the list `msgs` and left nothing stored for `u`. -/
def DrainedTo (u : Int) (i : ServerId) (conn : ConnId) (w w' : World) (msgs : List Str) : Prop :=
  (∃ d ∈ sentIn i w w', d.conn = conn ∧ IsLoginAck d.js ∧ offlineMsgs d.js = msgs) ∧
    w'.db.offlineOf u = []

/-- What an accepted login sends is what is stored. -/
theorem drainedTo_iff {w w' : World} (hw : w.Works) {i : ServerId} {conn : ConnId} {u : Int}
    {pwd : Str} (ha : Accepts (w.lookedUp u) u pwd)
    (hr : (loginAs conn u pwd).run i w = some ((), w')) (msgs : List Str) :
    DrainedTo u i conn w w' msgs ↔ (w.db.offlineOf u).map cstr = msgs := by
  obtain ⟨acc, rest, hs, hrest, -⟩ := loginAs_sends i w conn ha hr
  rw [World.loginAck, offlineVec_works i conn hw u] at hs
  constructor
  · rintro ⟨⟨d, hd, -, hk, ho⟩, -⟩
    rw [hs] at hd
    rcases List.mem_cons.mp hd with rfl | hd
    · rw [← ho, offlineMsgs_loginResponse]
    · rw [hrest d hd] at hk
      exact absurd hk (not_isLoginAck_friendState _ _)
  · intro h
    refine ⟨⟨_, by rw [hs]; exact List.mem_cons_self, rfl, isLoginAck_loginResponse _ _ _ _, ?_⟩,
      loginAs_removes i conn hw ha hr⟩
    rw [offlineMsgs_loginResponse, h]

/-- Of the items with `p`, as many have `q` as there are exactly if all have it. -/
theorem map_filter_and_eq_iff {α β : Type} (f : α → β) (p q : α → Prop) [DecidablePred p]
    [DecidablePred q] (l : List α) :
    (l.filter fun a => p a ∧ q a).map f = (l.filter fun a => p a).map f ↔ ∀ a ∈ l, p a → q a := by
  constructor
  · intro h a ha hp
    have hf : (l.filter fun a => p a ∧ q a) = (l.filter fun a => p a).filter fun a => q a := by
      rw [List.filter_filter]
      exact List.filter_congr fun a _ => by simp [Bool.and_comm]
    have hl := congrArg List.length h
    rw [List.length_map, List.length_map, hf, List.length_filter_eq_length_iff] at hl
    simpa using hl a (List.mem_filter.mpr ⟨ha, by simpa using hp⟩)
  · intro h
    congr 1
    refine List.filter_congr fun a ha => ?_
    simp only [decide_eq_decide, and_iff_left_iff_imp]
    exact h a ha

/-- **When offline messages are delivered.** A user who is offline gets, at the next login, every
message that was sent meanwhile exactly if the `INSERT` of each fits the statement buffer. -/
theorem offline_delivery_iff {w : World} (hw : w.Works) {u : Int}
    (hst : w.db.stateOf u = some .offline)
    (habs : ∀ j, (w.servers j).userConnMap.lookup u = none) (msgs : List (ServerId × Chat))
    (hlen : ∀ m ∈ msgs, m.2.js.dump.length ≤ 65535) {w₁ : World} (h₁ : handleAll msgs w = some w₁)
    (i : ServerId) (conn : ConnId) {pwd : Str} (ha : Accepts (w₁.lookedUp u) u pwd) {w₂ : World}
    (h₂ : (loginAs conn u pwd).run i w₁ = some ((), w₂)) :
    DrainedTo u i conn w₁ w₂ ((w.db.offlineOf u).map cstr ++ dumpsFor w.db u msgs) ↔
      ∀ m ∈ msgs, m.2.RoutedTo w.db u → Fits u m.2.js.dump := by
  obtain ⟨w', hr, hw', -, ho⟩ := handleAll_offline hw hst habs msgs
  rw [h₁] at hr
  cases hr
  have hu : w.db.hasUser u = true := by
    simp only [Database.stateOf, Option.map_eq_some_iff] at hst
    obtain ⟨row, hrow, -⟩ := hst
    simp [Database.hasUser, hrow]
  have hc : ∀ l : List (ServerId × Chat), (l.map (·.2.js.dump)).map cstr = l.map (·.2.js.dump) := by
    intro l
    rw [List.map_map]
    exact List.map_congr_left fun m _ => cstr_of_no_nul (Json.no_nul_dump _)
  rw [drainedTo_iff hw' ha h₂, ho, List.map_append, List.append_cancel_left_eq, hc, dumpsFor,
    map_filter_and_eq_iff]
  refine forall_congr' fun m => imp_congr_right fun hm => imp_congr_right fun _ => ?_
  exact ⟨fun h => h.1, fun h => ⟨h, hu, hlen m hm⟩⟩

/-- A message of `n` bytes for user 1. -/
def messageOf (n : Nat) : ServerId × Chat :=
  (0, .one 1 (ChatClient.oneChat 7 (txt "bob") 1 (List.replicate n 97) (txt "now")))

/-- A server with a connection, and user 1 who is registered and offline. -/
def World.oneUser : World :=
  { World.fresh with db := { Database.created id with
      user := ⟨[(1, ⟨txt "ann", txt "pw", .offline⟩)], List.nodup_singleton 1⟩, nextUser := 2 } }

theorem oneUser_absent (j : ServerId) : (World.oneUser.servers j).userConnMap.lookup 1 = none := by
  by_cases h : j = 0
  · subst h; rfl
  · change ((World.fresh.servers j).userConnMap.lookup 1) = none
    rw [World.fresh, World.modify_ne _ h]
    rfl

/-- A message to user 1, and then the login. -/
theorem oneUser_login (m : ServerId × Chat) : ∃ w₁ w₂, handleAll [m] World.oneUser = some w₁ ∧
    Accepts (w₁.lookedUp 1) 1 (txt "pw") ∧
    (loginAs 1 1 (txt "pw")).run (0 : ServerId) w₁ = some ((), w₂) := by
  obtain ⟨w₁, h₁, hw₁, hu, -⟩ := handleAll_offline (w := World.oneUser) (fun _ => rfl) (u := 1) rfl
    oneUser_absent [m]
  have ha : Accepts (w₁.lookedUp 1) 1 (txt "pw") := by
    unfold World.lookedUp
    rw [hw₁.ask_read rfl, hu]
    change Accepts (User.found 1 (some (World.oneUser.db.user.find 1))) 1 (txt "pw")
    decide
  obtain ⟨_, w₂, -, h₂, -⟩ := run_loginAs 0 w₁ 1 ha
  exact ⟨w₁, w₂, h₁, ha, h₂⟩

theorem offline_delivery_iff_short : ∃ w₁ w₂, handleAll [messageOf 5] World.oneUser = some w₁ ∧
    (loginAs 1 1 (txt "pw")).run (0 : ServerId) w₁ = some ((), w₂) ∧
    (DrainedTo 1 0 1 w₁ w₂ ((World.oneUser.db.offlineOf 1).map cstr ++
        dumpsFor World.oneUser.db 1 [messageOf 5]) ↔
      ∀ m ∈ [messageOf 5], m.2.RoutedTo World.oneUser.db 1 → Fits 1 m.2.js.dump) := by
  obtain ⟨w₁, w₂, h₁, ha, h₂⟩ := oneUser_login (messageOf 5)
  exact ⟨w₁, w₂, h₁, h₂, offline_delivery_iff (fun _ => rfl) rfl oneUser_absent _
    (by decide +kernel) h₁ 0 1 ha h₂⟩

/-- A message of 2000 bytes is not in the list. -/
theorem offline_message_lost : ¬∀ (w : World), w.Works → ∀ (u : Int),
    w.db.stateOf u = some .offline → (∀ j, (w.servers j).userConnMap.lookup u = none) →
    ∀ msgs : List (ServerId × Chat), (∀ m ∈ msgs, m.2.js.dump.length ≤ 65535) →
    ∀ w₁, handleAll msgs w = some w₁ → ∀ (i : ServerId) (conn : ConnId) (pwd : Str),
      Accepts (w₁.lookedUp u) u pwd → ∀ w₂, (loginAs conn u pwd).run i w₁ = some ((), w₂) →
      DrainedTo u i conn w₁ w₂ ((w.db.offlineOf u).map cstr ++ dumpsFor w.db u msgs) := by
  intro hall
  obtain ⟨w₁, w₂, h₁, ha, h₂⟩ := oneUser_login (messageOf 2000)
  have hd := hall World.oneUser (fun _ => rfl) 1 rfl oneUser_absent [messageOf 2000]
    (by decide +kernel) w₁ h₁ 0 1 (txt "pw") ha w₂ h₂
  obtain ⟨w', h₁', hw₁, -, ho⟩ := handleAll_offline (w := World.oneUser) (fun _ => rfl) (u := 1) rfl
    oneUser_absent [messageOf 2000]
  rw [h₁] at h₁'
  cases h₁'
  rw [drainedTo_iff hw₁ ha h₂, ho] at hd
  revert hd
  decide +kernel

end QtChat
