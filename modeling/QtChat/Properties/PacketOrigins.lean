import QtChat.Client.Requests
import QtChat.Properties.JsonRoundTrip
import QtChat.Server.Knowledge
import QtChat.Server.Replies
import QtChat.Server.Sessions

/-!
# Where packets come from

What each server knows at the end of a run is read off the run and the tables (`knownTo`): the frames
that its process has read since it was started, the frames of all servers, and rows. Rows of
`User`, `Friend` and `GroupUser` are never lost, and passwords never change (`Database.Extends`).

All that the servers have done is covered by it (`Sys.Accounted`), however their threads interleave,
whatever fails, and whenever servers crash and start again:

- `outbox_sendable`: every packet that was given to `send`;
- `stored_chats`: every offline message in the table;
- `pushed_to_logged_in`: what Redis has pushed to a server;
- `entered_logged_in`: every connection in `_userConnMap`.
-/

namespace QtChat

open Interleave ChatService

/-! ## What is known -/

/-- The connection and the value of a frame that the label makes server `i` read. -/
def Label.reads (P : JsonParser) (i : ServerId) : Label → Option (ConnId × Json)
  | .whole j (.frame conn body) => if j = i then (P.parse body).map fun js => (conn, js) else none
  | .spawn _ j (.frame conn body) => if j = i then (P.parse body).map fun js => (conn, js) else none
  | _ => none

/-- The body of a frame on the connection. -/
def Label.body (i : ServerId) (conn : ConnId) : Label → Option Str
  | .whole j (.frame conn' body) => if j = i ∧ conn' = conn then some body else none
  | .spawn _ j (.frame conn' body) => if j = i ∧ conn' = conn then some body else none
  | _ => none

/-- A frame that a label makes a server read is a body of the label. -/
theorem Label.reads_body {P : JsonParser} {i : ServerId} {l : Label} {conn : ConnId} {js : Json}
    (h : l.reads P i = some (conn, js)) :
    ∃ body, l.body i conn = some body ∧ P.parse body = some js := by
  unfold Label.reads at h
  split at h
  case h_3 => cases h
  all_goals
    rename_i j conn' body
    split at h
    · rename_i hj
      obtain ⟨js', hp, he⟩ := Option.map_eq_some_iff.mp h
      cases he
      exact ⟨body, if_pos ⟨hj, rfl⟩, hp⟩
    · cases h

def Label.starts (i : ServerId) : Label → Bool
  | .start j _ => j = i
  | _ => false

/-- The labels since the process of server `i` was started. -/
def sinceStart (i : ServerId) (ls : List Label) : List Label :=
  ls.foldl (fun since l => if l.starts i then [] else since ++ [l]) []

/-- The facts of server `i` after the labels. -/
inductive Learned (P : JsonParser) (ls : List Label) (i : ServerId) (db : Database) : Fact → Prop
  | read {l : Label} {conn : ConnId} {js : Json} : l ∈ sinceStart i ls →
      l.reads P i = some (conn, js) → Learned P ls i db (.read conn js)
  | posted {l : Label} {j : ServerId} {conn : ConnId} {js : Json} : l ∈ ls →
      l.reads P j = some (conn, js) → Learned P ls i db (.posted js)
  | password {userid : Int} {row : UserRow} : db.user.find userid = some row →
      Learned P ls i db (.password userid (cstr row.password))
  | friends {userid friendid : Int} : (userid, friendid) ∈ db.friend →
      Learned P ls i db (.friends userid friendid)
  | member {groupid userid : Int} {role : Role} : ((groupid, userid), role) ∈ db.groupUser.rows →
      Learned P ls i db (.member groupid userid)

def knownTo (P : JsonParser) (ls : List Label) (i : ServerId) (db : Database) : Facts :=
  {f | Learned P ls i db f}

/-! ## What is known is kept -/

/-- The rows are there, and the passwords are as they were. -/
structure Database.Extends (db db' : Database) : Prop where
  user : ∀ id row, db.user.find id = some row →
    ∃ row', db'.user.find id = some row' ∧ row'.password = row.password
  friend : ∀ r ∈ db.friend, r ∈ db'.friend
  member : ∀ r ∈ db.groupUser.rows, r ∈ db'.groupUser.rows

namespace Database

theorem Extends.refl (db : Database) : db.Extends db :=
  ⟨fun _ row h => ⟨row, h, rfl⟩, fun _ h => h, fun _ h => h⟩

theorem Extends.trans {db₁ db₂ db₃ : Database} (h : db₁.Extends db₂) (h' : db₂.Extends db₃) :
    db₁.Extends db₃ where
  user id row hrow := by
    obtain ⟨row₂, hrow₂, hp₂⟩ := h.user id row hrow
    obtain ⟨row₃, hrow₃, hp₃⟩ := h'.user id row₂ hrow₂
    exact ⟨row₃, hrow₃, hp₃.trans hp₂⟩
  friend r hr := h'.friend r (h.friend r hr)
  member r hr := h'.member r (h.member r hr)

/-- **No statement** takes a row away or changes a password. -/
theorem exec_extends {db db' : Database} {st : Stmt} {r : st.Ans}
    (h : db.exec st = some (r, db')) : db.Extends db' := by
  cases st with
  | insertUser name password state =>
    simp only [exec] at h
    split at h
    · obtain ⟨t, ht, he⟩ := Option.map_eq_some_iff.mp h
      cases he
      refine ⟨fun id row hrow => ?_, fun _ h => h, fun _ h => h⟩
      refine ⟨row, ?_, rfl⟩
      rw [Relational.Table.find_insert ht, if_neg]
      · exact hrow
      · rintro rfl
        have hnone : db.user.insert db.nextUser ⟨name, password, state⟩ = none :=
          Relational.Table.insert_eq_none.mpr (by rw [hrow]; rfl)
        rw [hnone] at ht
        cases ht
    · cases h
  | updateState id state =>
    cases h
    refine ⟨fun u row hrow => ?_, fun _ h => h, fun _ h => h⟩
    simp only [Relational.Table.find_update]
    split
    · rename_i e
      subst e
      exact ⟨_, Option.map_eq_some_iff.mpr ⟨row, hrow, rfl⟩, rfl⟩
    · exact ⟨row, hrow, rfl⟩
  | updateName id name =>
    simp only [exec] at h
    split at h
    · cases h
      exact .refl db
    · split at h
      · cases h
        refine ⟨fun u row hrow => ?_, fun _ h => h, fun _ h => h⟩
        simp only [Relational.Table.find_update]
        split
        · rename_i e
          subst e
          exact ⟨_, Option.map_eq_some_iff.mpr ⟨row, hrow, rfl⟩, rfl⟩
        · exact ⟨row, hrow, rfl⟩
      · cases h
  | resetState =>
    cases h
    refine ⟨fun u row hrow => ?_, fun _ h => h, fun _ h => h⟩
    rw [Relational.Table.find_updateAll]
    exact ⟨_, Option.map_eq_some_iff.mpr ⟨row, hrow, rfl⟩, rfl⟩
  | insertFriend userid friendid =>
    cases h
    refine ⟨fun _ row hrow => ⟨row, ?_, rfl⟩, fun r hr => ?_, fun r hr => ?_⟩
    · split <;> exact hrow
    · split
      · exact List.mem_append_left _ hr
      · exact hr
    · split <;> exact hr
  | insertGroup name desc =>
    simp only [exec] at h
    split at h
    · obtain ⟨t, -, he⟩ := Option.map_eq_some_iff.mp h
      cases he
      exact ⟨fun _ row hrow => ⟨row, hrow, rfl⟩, fun _ h => h, fun _ h => h⟩
    · cases h
  | insertGroupUser groupid userid role =>
    simp only [exec] at h
    split at h
    · obtain ⟨t, ht, he⟩ := Option.map_eq_some_iff.mp h
      cases he
      refine ⟨fun _ row hrow => ⟨row, hrow, rfl⟩, fun _ h => h, fun r hr => ?_⟩
      rw [rows_insert ht]
      exact List.mem_append_left _ hr
    · cases h
  | insertOffline sql =>
    simp only [exec] at h
    split at h
    · cases h
    · split at h
      · cases h
        exact ⟨fun _ row hrow => ⟨row, hrow, rfl⟩, fun _ h => h, fun _ h => h⟩
      · cases h
  | deleteOffline userid =>
    cases h
    exact ⟨fun _ row hrow => ⟨row, hrow, rfl⟩, fun _ h => h, fun _ h => h⟩
  | _ =>
    cases h
    exact .refl db

end Database

theorem exec_extends {i : ServerId} {a : Act} {w w' : World} {r : a.Res}
    (h : World.exec i a w = some (r, w')) : w.db.Extends w'.db := by
  rcases exec_db h with e | ⟨st, ans, -, hx⟩
  · rw [e]
    exact .refl _
  · exact Database.exec_extends hx

theorem sinceStart_concat (i : ServerId) (ls : List Label) (l : Label) :
    sinceStart i (ls ++ [l]) = if l.starts i then [] else sinceStart i ls ++ [l] := by
  rw [sinceStart, List.foldl_append]
  rfl

section Known

variable {P : JsonParser} {ls : List Label} {i j : ServerId} {db db' : Database}

theorem known_extends (h : db.Extends db') : knownTo P ls i db ⊆ knownTo P ls i db' := by
  intro f hf
  cases hf with
  | read hl hr => exact Learned.read hl hr
  | posted hl hr => exact Learned.posted hl hr
  | password hrow =>
    obtain ⟨row', hrow', hp⟩ := h.user _ _ hrow
    rw [← hp]
    exact Learned.password hrow'
  | friends hf => exact Learned.friends (h.friend _ hf)
  | member hm => exact Learned.member (h.member _ hm)

theorem known_concat {l : Label} (h : l.starts i = false) :
    knownTo P ls i db ⊆ knownTo P (ls ++ [l]) i db := by
  intro f hf
  cases hf with
  | read hl hr =>
    refine Learned.read ?_ hr
    rw [sinceStart_concat, h]
    exact List.mem_append_left _ hl
  | posted hl hr => exact Learned.posted (List.mem_append_left _ hl) hr
  | password hrow => exact Learned.password hrow
  | friends hf => exact Learned.friends hf
  | member hm => exact Learned.member hm

/-- The facts that servers have in common. -/
theorem known_shared {more : List Label} {f : Fact} (hs : f.Shared) (hf : f ∈ knownTo P ls i db) :
    f ∈ knownTo P (ls ++ more) j db := by
  cases hf with
  | read => exact hs.elim
  | posted hl hr => exact Learned.posted (List.mem_append_left _ hl) hr
  | password hrow => exact Learned.password hrow
  | friends hf => exact Learned.friends hf
  | member hm => exact Learned.member hm

theorem known_elsewhere {f : Fact} (hs : f.Shared) (hf : f ∈ knownTo P ls i db) :
    f ∈ knownTo P ls j db := by
  have h : f ∈ knownTo P (ls ++ []) j db := known_shared hs hf
  rwa [List.append_nil] at h

/-- Friends have ids. -/
theorem friends_known (hl : db.Linked) {id userid : Int}
    (h : Fact.friends id userid ∈ knownTo P ls i db) : 1 ≤ id ∧ id ≤ maxInt := by
  cases h with
  | friends hf =>
    obtain ⟨row, hrow⟩ := Option.isSome_iff_exists.mp (hl.friend _ hf)
    exact (hl.wf.user_find hrow).1

/-- What was posted, the parser reads back. -/
theorem parse_posted {js : Json} (h : Fact.posted js ∈ knownTo P ls i db) :
    P.parse js.dump = some js := by
  cases h with
  | @posted l j conn _ hl hr =>
    obtain ⟨body, -, hp⟩ := Label.reads_body hr
    exact P.parse_dump hp

end Known

/-! ## The servers -/

/-- All that the server holds and has done is covered by what it knows. -/
structure Server.Accounted (k : Facts) (s : Server) : Prop where
  entries : ∀ id conn, s.userConnMap.lookup id = some conn → LoggedInBy k id conn
  channels : ∀ ch, s.subscribedChannels ch = true ∨ s.live ch = true → ∃ conn, LoggedInBy k ch conn
  inbox : ∀ m ∈ s.inbox, PushableTo k m.1 m.2 ∧ ∃ conn, LoggedInBy k m.1 conn
  outbox : ∀ d ∈ s.outbox, Sendable k d.conn d.js

namespace Server

variable {k k' : Facts} {s : Server}

theorem Accounted.mono (h : s.Accounted k) (hk : k ⊆ k') : s.Accounted k' where
  entries id conn hl := (h.entries id conn hl).mono hk
  channels ch hc := by
    obtain ⟨conn, hl⟩ := h.channels ch hc
    exact ⟨conn, hl.mono hk⟩
  inbox m hm := by
    obtain ⟨hp, conn, hl⟩ := h.inbox m hm
    exact ⟨hp.mono hk, conn, hl.mono hk⟩
  outbox d hd := (h.outbox d hd).mono hk

/-- A server whose process has just begun, or is not there. -/
theorem accounted_fresh {redis : Bool} : (Server.started redis).Accounted k where
  entries id conn h := by cases h
  channels ch h := by rcases h with h | h <;> cases h
  inbox m h := by cases h
  outbox d h := by cases h

theorem accounted_stopped : Server.stopped.Accounted k where
  entries id conn h := by cases h
  channels ch h := by rcases h with h | h <;> cases h
  inbox m h := by cases h
  outbox d h := by cases h

/-- Changes of fields that say nothing of users. -/
theorem Accounted.same {s' : Server} (h : s.Accounted k) (hm : s'.userConnMap = s.userConnMap)
    (hs : s'.subscribedChannels = s.subscribedChannels) (hl : s'.live = s.live)
    (hi : s'.inbox = s.inbox) (ho : s'.outbox = s.outbox) : s'.Accounted k where
  entries := by rw [hm]; exact h.entries
  channels := by rw [hs, hl]; exact h.channels
  inbox := by rw [hi]; exact h.inbox
  outbox := by rw [ho]; exact h.outbox

theorem Accounted.shutdownConn (h : s.Accounted k) (conn : ConnId) :
    (s.shutdownConn conn).Accounted k := by
  unfold Server.shutdownConn
  split
  · exact h.same rfl rfl rfl rfl rfl
  · exact h

theorem Accounted.eraseUser (h : s.Accounted k) (id : Int) :
    ({ s with userConnMap := s.userConnMap.erase id } : Server).Accounted k where
  entries u conn hl := by
    by_cases hu : u = id
    · subst hu
      simp only [AList.lookup_erase] at hl
      cases hl
    · simp only [AList.lookup_erase_ne hu] at hl
      exact h.entries u conn hl
  channels := h.channels
  inbox := h.inbox
  outbox := h.outbox

theorem Accounted.mapUser (h : s.Accounted k) {id : Int} {conn : ConnId}
    (hl : LoggedInBy k id conn) :
    ({ s with userConnMap := s.userConnMap.insert id conn } : Server).Accounted k where
  entries u c hu := by
    by_cases he : u = id
    · subst he
      simp only [AList.lookup_insert, Option.some.injEq] at hu
      subst hu
      exact hl
    · simp only [AList.lookup_insert_ne he] at hu
      exact h.entries u c hu
  channels := h.channels
  inbox := h.inbox
  outbox := h.outbox

theorem Accounted.subscribe (h : s.Accounted k) {ch : Int} (hl : ∃ conn, LoggedInBy k ch conn) :
    (s.subscribe ch).Accounted k := by
  unfold Server.subscribe
  split
  · refine ⟨h.entries, fun ch' hc => ?_, h.inbox, h.outbox⟩
    by_cases he : ch' = ch
    · subst he
      exact hl
    · simp only [Function.update_of_ne he] at hc
      exact h.channels ch' hc
  · exact h

theorem Accounted.unsubscribe (h : s.Accounted k) (ch : Int) : (s.unsubscribe ch).Accounted k := by
  unfold Server.unsubscribe
  split
  · refine ⟨h.entries, fun ch' hc => ?_, h.inbox, h.outbox⟩
    by_cases he : ch' = ch
    · subst he
      simp at hc
    · simp only [Function.update_of_ne he] at hc
      exact h.channels ch' hc
  · exact h

theorem Accounted.forceRelogin (h : s.Accounted k) {id : Int} {conn : ConnId}
    (hl : LoggedInBy k id conn) : (s.forceRelogin id conn).Accounted k := by
  have htake : (s.takeOver id conn).Accounted k := by
    unfold takeOver
    split
    · exact h.mapUser hl
    · rename_i old _
      have hmap : (s.shutdownConn old).userConnMap = s.userConnMap := by
        unfold Server.shutdownConn
        split <;> rfl
      refine (((h.shutdownConn old).eraseUser id).mapUser hl).same ?_ rfl rfl rfl rfl
      exact congrArg (fun m => (AList.erase id m).insert id conn) hmap.symm
  rw [forceRelogin_eq]
  exact (htake.unsubscribe id).subscribe ⟨conn, hl⟩

theorem Accounted.push (h : s.Accounted k) {ch : Int} {message : Str}
    (hp : PushableTo k ch message) : (s.push ch message).Accounted k := by
  unfold Server.push
  split
  · rename_i hlive
    refine ⟨h.entries, h.channels, fun m hm => ?_, h.outbox⟩
    rcases List.mem_append.mp hm with hm | hm
    · exact h.inbox m hm
    · rw [List.mem_singleton.mp hm]
      exact ⟨hp, h.channels ch (.inr hlive)⟩
  · exact h

end Server

/-- A message without a NUL is pushed as it was published. -/
theorem PushableTo.cstr_eq {k : Facts} {ch : Int} {message : Str}
    (h : PushableTo k ch message) : cstr message = message := by
  obtain ⟨js, rfl, -⟩ := h
  exact cstr_of_no_nul (Json.no_nul_dump js)

/-- **An action of the server** that what it knows allows. -/
theorem ServerStep.accounted {k : Facts} {a : Act} {s s' : Server} (h : ServerStep a s s')
    (hs : s.Accounted k) (ha : MayAct k a) : s'.Accounted k := by
  cases h with
  | keep => exact hs
  | send _ conn js =>
    refine ⟨hs.entries, hs.channels, hs.inbox, fun d hd => ?_⟩
    rcases List.mem_append.mp hd with hd | hd
    · exact hs.outbox d hd
    · rw [List.mem_singleton.mp hd]
      exact ha
  | shutdown _ conn => exact hs.shutdownConn conn
  | publish _ ch message =>
    have hp : PushableTo k ch message := ha
    rw [hp.cstr_eq]
    exact hs.push hp
  | subscribe _ ch => exact hs.subscribe ha
  | unsubscribe _ ch => exact hs.unsubscribe ch
  | forceRelogin _ id conn => exact hs.forceRelogin ha
  | mapUser _ id conn => exact hs.mapUser ha
  | eraseUser _ id => exact hs.eraseUser id
  | eraseConn _ conn id => exact hs.eraseUser id
  | eraseLastTime | updateConnTime => exact hs.same rfl rfl rfl rfl rfl
  | routeGroup _ ids js =>
    rw [Server.foldl_deliver]
    refine ⟨hs.entries, hs.channels, hs.inbox, fun d hd => ?_⟩
    rcases List.mem_append.mp hd with hd | hd
    · exact hs.outbox d hd
    · obtain ⟨conn, hconn, rfl⟩ := List.mem_map.mp hd
      obtain ⟨id, hid, hl⟩ := List.mem_filterMap.mp hconn
      exact .chat (hs.entries id conn hl) (ha id hid)

/-! ## The actions -/

section Exec

variable {P : JsonParser} {ls : List Label} {i : ServerId} {a : Act} {w w' : World} {r : a.Res}

/-- Other servers get messages of Redis only. -/
theorem exec_elsewhere (h : World.exec i a w = some (r, w')) {j : ServerId} (hj : j ≠ i) :
    w'.servers j = w.servers j ∨
      ∃ ch message, a = .publish ch message ∧ w'.servers j = (w.servers j).push ch (cstr message) := by
  cases a with
  | publish ch message =>
    rw [World.exec] at h
    split at h
    · cases h
      exact .inr ⟨ch, message, rfl, rfl⟩
    · cases h
      exact .inl rfl
  | sql st =>
    rw [World.exec] at h
    split at h
    · split at h <;> cases h <;> exact .inl rfl
    · cases h
      exact .inl rfl
  | eraseConn conn =>
    rw [World.exec] at h
    split at h
    · cases h
      exact .inl rfl
    · cases h
      exact .inl (World.modify_ne _ hj _)
  | acquire | findConn | splitFriends | staleConns =>
    cases h
    exact .inl rfl
  | halt => cases h
  | _ =>
    cases h
    exact .inl (World.modify_ne w hj _)

/-- What the servers hold and the offline messages in the table are covered by what is known. -/
structure World.Accounted (P : JsonParser) (ls : List Label) (w : World) : Prop where
  linked : w.db.Linked
  servers : ∀ i, (w.servers i).Accounted (knownTo P ls i w.db)
  stored : ∀ i, ∀ m ∈ w.db.offlineMessage, StoredFor (knownTo P ls i w.db) m.1 m.2

/-- The offline messages after a statement. -/
theorem exec_stored {db db' : Database} {st : Stmt} {r : st.Ans} {k : Facts}
    (hs : ∀ m ∈ db.offlineMessage, StoredFor k m.1 m.2) (ha : MayAct k (.sql st))
    (h : db.exec st = some (r, db')) : ∀ m ∈ db'.offlineMessage, StoredFor k m.1 m.2 := by
  cases st with
  | insertOffline text =>
    obtain ⟨userid, msg, rfl, hc⟩ := ha
    simp only [Database.exec, OfflineMsgModel.insertSql, readInsert_snprintf] at h
    split at h
    · cases h
    · rename_i userid' msg' hread
      split at hread
      · cases hread
        split at h
        · cases h
          intro m hm
          rcases List.mem_append.mp hm with hm | hm
          · exact hs m hm
          · rw [List.mem_singleton.mp hm]
            exact hc
        · cases h
      · cases hread
  | deleteOffline userid =>
    cases h
    exact fun m hm => hs m (List.mem_filter.mp hm).1
  | insertFriend userid friendid =>
    cases h
    split <;> exact hs
  | _ =>
    have e : db'.offlineMessage = db.offlineMessage := by
      simp only [Database.exec] at h
      grind [Option.map_eq_some_iff]
    rw [e]
    exact hs

/-- The rows that a statement answers are known. -/
theorem exec_answer {db db' : Database} {st : Stmt} {ans : st.Ans}
    (hs : ∀ m ∈ db'.offlineMessage, StoredFor (knownTo P ls i db') m.1 m.2)
    (h : db.exec st = some (ans, db')) : AnswerOk (knownTo P ls i db') (.sql st) (some ans) := by
  cases st with
  | selectUser id =>
    cases h
    intro row hrow
    exact Learned.password (Option.some.inj hrow)
  | selectFriends userid =>
    cases h
    intro rows hrows x hx
    cases hrows
    obtain ⟨r, hr, hx⟩ := List.mem_filterMap.mp hx
    obtain ⟨u, -, rfl⟩ := Option.map_eq_some_iff.mp hx
    obtain ⟨hr, hid⟩ := List.mem_filter.mp hr
    have hid : r.1 = userid := by simpa using hid
    rw [← hid]
    exact Learned.friends hr
  | selectGroups userid =>
    cases h
    intro rows hrows x hx
    cases hrows
    obtain ⟨r, hr, hx⟩ := List.mem_filterMap.mp hx
    obtain ⟨g, -, rfl⟩ := Option.map_eq_some_iff.mp hx
    obtain ⟨hr, hid⟩ := List.mem_filter.mp hr
    have hid : r.1.2 = userid := by simpa using hid
    rw [← hid]
    exact Learned.member hr
  | selectGroupMembers groupid =>
    cases h
    intro rows hrows x hx
    cases hrows
    obtain ⟨r, hr, hx⟩ := List.mem_filterMap.mp hx
    obtain ⟨u, -, rfl⟩ := Option.map_eq_some_iff.mp hx
    obtain ⟨hr, hid⟩ := List.mem_filter.mp hr
    have hid : r.1.1 = groupid := by simpa using hid
    rw [← hid]
    exact Learned.member hr
  | selectGroupUserIds groupid userid =>
    cases h
    intro ids hids x hx
    cases hids
    obtain ⟨r, hr, rfl⟩ := List.mem_map.mp hx
    obtain ⟨hr, hid⟩ := List.mem_filter.mp hr
    simp only [Bool.and_eq_true, decide_eq_true_eq] at hid
    obtain ⟨hg, hne⟩ := hid
    rw [← hg]
    exact ⟨Learned.member hr, hne⟩
  | selectOffline userid =>
    cases h
    intro msgs hmsgs msg hmsg
    cases hmsgs
    obtain ⟨r, hr, rfl⟩ := List.mem_map.mp hmsg
    obtain ⟨hr, hid⟩ := List.mem_filter.mp hr
    have hid : r.1 = userid := by simpa using hid
    rw [← hid]
    exact hs r hr
  | _ => trivial

theorem World.Accounted.exec_servers (hw : w.Accounted P ls) (ha : MayAct (knownTo P ls i w.db) a)
    (h : World.exec i a w = some (r, w')) (j : ServerId) :
    (w'.servers j).Accounted (knownTo P ls j w.db) := by
  by_cases hj : j = i
  · subst hj
    exact (exec_server h j).accounted (hw.servers j) ha
  · rcases exec_elsewhere h hj with e | ⟨ch, message, rfl, e⟩
    · rw [e]
      exact hw.servers j
    · have hp : PushableTo (knownTo P ls i w.db) ch message := ha
      rw [e, hp.cstr_eq]
      exact (hw.servers j).push (hp.shared fun f => known_elsewhere)

/-- **The allowed actions** keep the account, and answer as the discipline says. -/
theorem keeps_accounted (P : JsonParser) (ls : List Label) (i : ServerId) :
    discipline.Keeps (fun w : World => knownTo P ls i w.db) (World.Accounted P ls) i := by
  intro a w r w' hw ha h
  change World.exec i a w = some (r, w') at h
  have hext : ∀ j, knownTo P ls j w.db ⊆ knownTo P ls j w'.db := fun j => known_extends (exec_extends h)
  have hstored : ∀ j, ∀ m ∈ w'.db.offlineMessage, StoredFor (knownTo P ls j w'.db) m.1 m.2 := by
    intro j m hm
    refine StoredFor.shared ?_ fun f hs hf => hext j (known_elsewhere (i := i) hs hf)
    rcases exec_db h with e | ⟨st, ans, rfl, hx⟩
    · rw [e] at hm
      exact hw.stored i m hm
    · exact exec_stored (hw.stored i) ha hx m hm
  have hlinked : w'.db.Linked := by
    rcases exec_db h with e | ⟨st, ans, -, hx⟩
    · rw [e]
      exact hw.linked
    · exact Database.exec_linked hw.linked hx
  have hw' : w'.Accounted P ls :=
    ⟨hlinked, fun j => (hw.exec_servers ha h j).mono (hext j), hstored⟩
  refine ⟨hw', hext i, ?_⟩
  change AnswerOk _ a r
  cases a with
  | sql st =>
    rw [World.exec] at h
    split at h
    · split at h
      · cases h
        cases st <;> trivial
      · rename_i ans db hx
        cases h
        exact exec_answer (hstored i) hx
    · cases h
      cases st <;> first | trivial | (intro x hx; cases hx)
  | findConn id =>
    cases h
    exact fun conn hc => (hw'.servers i).entries id conn hc
  | splitFriends ids =>
    cases h
    refine ⟨fun conn hc => ?_, List.filter_sublist.subset⟩
    obtain ⟨id, hid, hl⟩ := List.mem_filterMap.mp hc
    exact ⟨id, hid, (hw'.servers i).entries id conn hl⟩
  | routeGroup ids js =>
    cases h
    exact List.filter_sublist.subset
  | _ => trivial

end Exec

/-! ## The system -/

/-- The parser reads the friend states that the servers publish. -/
def JsonParser.ReadsNotices (P : JsonParser) : Prop := ∀ id state, 1 ≤ id → id ≤ maxInt →
  P.parse (friendState id state).dump = some (friendState id state)

/-- The servers, the table, and what is left of the handlers of the threads. -/
structure Sys.Accounted (P : JsonParser) (ls : List Label) (s : Sys) : Prop where
  world : s.world.Accounted P ls
  threads : ∀ t i p, s.threads t = some (i, p) → (s.world.servers i).running = true ∧
    discipline.Honest (knownTo P ls i s.world.db) p fun _ _ => True

section System

variable {P : JsonParser} {ls : List Label} {i : ServerId} {s s' : Sys}

/-- With more labels, more is known. -/
theorem World.Accounted.longer {w : World} {ls' : List Label} (h : w.Accounted P ls)
    (hk : ∀ j, knownTo P ls j w.db ⊆ knownTo P ls' j w.db) : w.Accounted P ls' :=
  ⟨h.linked, fun j => (h.servers j).mono (hk j), fun j m hm => (h.stored j m hm).mono (hk j)⟩

/-- One server changes. -/
theorem World.Accounted.modify {w : World} (h : w.Accounted P ls) {f : Server → Server}
    (hf : (f (w.servers i)).Accounted (knownTo P ls i w.db)) : (w.modify i f).Accounted P ls := by
  refine ⟨h.linked, fun j => ?_, h.stored⟩
  by_cases hj : j = i
  · subst hj
    rw [World.modify_self]
    exact hf
  · rw [World.modify_ne w hj]
    exact h.servers j

/-- The threads go on honestly when more is known. -/
theorem Sys.Accounted.threads_mono (h : s.Accounted P ls) (w : World) (ls' : List Label)
    (hrun : ∀ j, (w.servers j).running = (s.world.servers j).running)
    (hk : ∀ j, knownTo P ls j s.world.db ⊆ knownTo P ls' j w.db) :
    ∀ t i p, s.threads t = some (i, p) → (w.servers i).running = true ∧
      discipline.Honest (knownTo P ls' i w.db) p fun _ _ => True := by
  intro t i p ht
  obtain ⟨hr, hp⟩ := h.threads t i p ht
  exact ⟨(hrun i).trans hr, hp.mono (fun _ _ => trivial) (hk i)⟩

/-- A frame is handled by what it says, the message of Redis by where it comes from. -/
theorem Job.Begins.honest {w w' : World} {job : Job} {p : Serv Unit} {k : Facts} (h : job.Begins P i w p w')
    (hk : ∀ conn body js, job = .frame conn body → P.parse body = some js →
      Fact.read conn js ∈ k ∧ Fact.posted js ∈ k)
    (hnotice : ∀ id userid state, Fact.friends id userid ∈ k →
      P.parse (friendState id state).dump = some (friendState id state))
    (hposted : ∀ js, Fact.posted js ∈ k → P.parse js.dump = some js)
    (hs : (w.servers i).Accounted k) : discipline.Honest k p fun _ _ => True := by
  cases h with
  | frame => exact handleMsg_honest fun js hp => hk _ _ js rfl hp
  | close => exact clientCloseException_honest _
  | @redis ch message inbox hin =>
    refine handleRedisSubscribeMessage_honest (hnotice · ch) hposted (hs.inbox (ch, message) ?_).1
    rw [hin]
    exact List.mem_cons_self
  | check => exact checkHeartbeat_honest

theorem Job.Begins.accounted {w w' : World} {job : Job} {p : Serv Unit} (h : job.Begins P i w p w')
    (hw : w.Accounted P ls) : w'.Accounted P ls := by
  cases h with
  | frame | check => exact hw
  | close => exact hw.modify ((hw.servers i).same rfl rfl rfl rfl rfl)
  | redis hin =>
    have hs := hw.servers i
    refine hw.modify ⟨hs.entries, hs.channels, fun m hm => hs.inbox m ?_, hs.outbox⟩
    rw [hin]
    exact List.mem_cons_of_mem _ hm

/-- A frame that begins is known. -/
theorem known_frame {l : Label} {job : Job} {db : Database}
    (hl : l = .whole i job ∨ ∃ t, l = .spawn t i job) {conn : ConnId} {body : Str} {js : Json}
    (hjob : job = .frame conn body) (hp : P.parse body = some js) :
    Fact.read conn js ∈ knownTo P (ls ++ [l]) i db ∧ Fact.posted js ∈ knownTo P (ls ++ [l]) i db := by
  subst hjob
  have hread : l.reads P i = some (conn, js) := by
    rcases hl with rfl | ⟨t, rfl⟩ <;> simp [Label.reads, hp]
  have hstart : l.starts i = false := by
    rcases hl with rfl | ⟨t, rfl⟩ <;> rfl
  refine ⟨Learned.read (l := l) ?_ hread, Learned.posted (l := l) (by simp) hread⟩
  rw [sinceStart_concat, hstart]
  simp

/-- The threads of the other servers, when a server is gone. -/
theorem dropped_honest {w : World} {threads : Nat → Option (ServerId × Serv Unit)}
    (h : ∀ t j p, threads t = some (j, p) → (w.servers j).running = true ∧
      discipline.Honest (knownTo P ls j w.db) p fun _ _ => True) {t : Nat} {j : ServerId}
    {p : Serv Unit} (ht : Sys.dropThreads i threads t = some (j, p)) :
    ((w.modify i fun _ => .stopped).servers j).running = true ∧
      discipline.Honest (knownTo P ls j w.db) p fun _ _ => True := by
  obtain ⟨ht, hj⟩ := Option.filter_eq_some_iff.mp ht
  have hj : j ≠ i := by simpa using hj
  rw [World.modify_ne _ hj]
  exact h t j p ht

/-- One thread moves, begins or ends. -/
theorem threads_update {threads : Nat → Option (ServerId × Serv Unit)}
    {C : ServerId → Serv Unit → Prop} {t : Nat} {new : Option (ServerId × Serv Unit)}
    (hold : ∀ t j q, threads t = some (j, q) → C j q) (hnew : ∀ j q, new = some (j, q) → C j q) :
    ∀ t' j q, Function.update threads t new t' = some (j, q) → C j q := by
  intro t' j q hq
  by_cases he : t' = t
  · rw [he, Function.update_self] at hq
    exact hnew j q hq
  · rw [Function.update_of_ne he] at hq
    exact hold t' j q hq

theorem run_extends {α : Type} {p : Serv α} {x : α} {w w' : World} (h : p.run i w = some (x, w')) :
    w.db.Extends w'.db :=
  p.all_true.run_rel (L := chat) (R := fun w w' : World => w.db.Extends w'.db)
    (fun w => .refl w.db) (fun _ _ _ h h' => h.trans h') (fun _ _ _ _ _ he => exec_extends he) h

/-- A change of one server by which its users, messages and packets stay as they are. -/
theorem Sys.Accounted.same (hs : s.Accounted P ls) {l : Label} {f : Server → Server}
    (hl : ∀ j, l.starts j = false)
    (hf : (f (s.world.servers i)).Accounted (knownTo P ls i s.world.db))
    (hr : (f (s.world.servers i)).running = (s.world.servers i).running) :
    (⟨s.world.modify i f, s.threads⟩ : Sys).Accounted P (ls ++ [l]) :=
  ⟨(hs.world.modify hf).longer fun j => known_concat (hl j),
    hs.threads_mono _ _ (World.modify_field (·.running) hr) fun j => known_concat (hl j)⟩

/-- A server starts: it has nothing, and the others know what they knew. -/
theorem Sys.Accounted.start (hs : s.Accounted P ls) {redis : Bool}
    (hrun : (s.world.servers i).running = false) :
    (⟨s.world.modify i fun _ => .started redis, s.threads⟩ : Sys).Accounted P
      (ls ++ [.start i redis]) := by
  have hkeep : ∀ j, j ≠ i → knownTo P ls j s.world.db ⊆
      knownTo P (ls ++ [.start i redis]) j s.world.db := fun j hj =>
    known_concat (decide_eq_false fun e => hj e.symm)
  refine ⟨⟨hs.world.linked, fun j => ?_,
    fun j m hm => (hs.world.stored j m hm).shared fun _ hf => known_shared hf⟩, ?_⟩
  · by_cases hj : j = i
    · subst hj
      rw [World.modify_self]
      exact Server.accounted_fresh
    · rw [World.modify_ne _ hj]
      exact (hs.world.servers j).mono (hkeep j hj)
  · intro t j p ht
    obtain ⟨hr, hp⟩ := hs.threads t j p ht
    have hj : j ≠ i := by
      rintro rfl
      rw [hrun] at hr
      cases hr
    simp only [World.modify_ne _ hj]
    exact ⟨hr, hp.mono (fun _ _ => trivial) (hkeep j hj)⟩

/-- **A job begins**: what it knows then makes it honest. -/
theorem Sys.Accounted.begins (hP : P.ReadsNotices) (hs : s.Accounted P ls) {l : Label} {job : Job}
    (hl : l = .whole i job ∨ ∃ t, l = .spawn t i job) {p : Serv Unit} {w : World}
    (hb : job.Begins P i s.world p w) : w.Accounted P (ls ++ [l]) ∧
      discipline.Honest (knownTo P (ls ++ [l]) i w.db) p fun _ _ => True := by
  have hstart : ∀ j, l.starts j = false := by
    rcases hl with rfl | ⟨t, rfl⟩ <;> exact fun _ => rfl
  have hnotice : ∀ id userid state, Fact.friends id userid ∈ knownTo P (ls ++ [l]) i s.world.db →
      P.parse (friendState id state).dump = some (friendState id state) := fun id userid state hf =>
    have hid := friends_known hs.world.linked hf
    hP id state hid.1 hid.2
  refine ⟨(hb.accounted hs.world).longer fun j => known_concat (hstart j), ?_⟩
  refine hb.honest (fun conn body js hj hjs => known_frame hl hj hjs) ?_ (fun js => parse_posted) ?_
  · rw [hb.same.1]
    exact hnotice
  · rw [hb.same.1]
    exact (hs.world.servers i).mono (known_concat (hstart i))

/-- A job from its begin to its end. -/
theorem Sys.Accounted.whole (hP : P.ReadsNotices) (hs : s.Accounted P ls) {job : Job} {p : Serv Unit}
    {w w' : World} (hb : job.Begins P i s.world p w) (hr : p.run i w = some ((), w')) :
    (⟨w', s.threads⟩ : Sys).Accounted P (ls ++ [.whole i job]) := by
  obtain ⟨hw, hp⟩ := hs.begins hP (.inl rfl) hb
  obtain ⟨hw', -, -⟩ := hp.run (keeps_accounted P _ i) hw hr
  have hext : s.world.db.Extends w'.db := hb.same.1 ▸ run_extends hr
  refine ⟨hw', hs.threads_mono _ _ (fun j => ?_) fun j => ?_⟩
  · exact (run_running hr j).trans (hb.field (·.running) (fun _ _ => rfl) (fun _ _ => rfl) j)
  · exact (known_concat rfl).trans (known_extends hext)

/-- A thread with a job. -/
theorem Sys.Accounted.spawn (hP : P.ReadsNotices) (hs : s.Accounted P ls) {t : Nat} {job : Job}
    {p : Serv Unit} {w : World} (hb : job.Begins P i s.world p w) :
    (⟨w, Function.update s.threads t (some (i, p))⟩ : Sys).Accounted P (ls ++ [.spawn t i job]) := by
  obtain ⟨hw, hp⟩ := hs.begins hP (.inr ⟨t, rfl⟩) hb
  have hrun : ∀ j, (w.servers j).running = (s.world.servers j).running := fun j =>
    hb.field (·.running) (fun _ _ => rfl) (fun _ _ => rfl) j
  refine ⟨hw, threads_update (hs.threads_mono w _ hrun fun j => ?_) ?_⟩
  · rw [hb.same.1]
    exact known_concat rfl
  · rintro j q ⟨⟩
    exact ⟨(hrun i).trans hb.running, hp⟩

/-- An action of a thread. -/
theorem Sys.Accounted.act (hs : s.Accounted P ls) {t : Nat} {a : Act} {k : a.Res → Serv Unit}
    {r : a.Res} {w : World} (ht : s.threads t = some (i, .act a k))
    (he : World.exec i a s.world = some (r, w)) :
    (⟨w, Function.update s.threads t (some (i, k r))⟩ : Sys).Accounted P (ls ++ [.act t]) := by
  have hk : ∀ j db, knownTo P ls j db ⊆ knownTo P (ls ++ [.act t]) j db := fun _ _ => known_concat rfl
  obtain ⟨hr, hp⟩ := hs.threads t i _ ht
  obtain ⟨hw, -, hrest⟩ := (hp.mono (fun _ _ => trivial) (hk i _)).next
    (keeps_accounted P (ls ++ [.act t]) i) (hs.world.longer fun j => hk j _) he
  refine ⟨hw, threads_update (hs.threads_mono w _ (fun j => (exec_server he j).running)
    fun j => (hk j _).trans (known_extends (exec_extends he))) ?_⟩
  rintro j q ⟨⟩
  exact ⟨((exec_server he i).running).trans hr, hrest⟩

/-- A server goes down, with its threads; `w` is the world that it leaves. -/
theorem Sys.Accounted.stop (hs : s.Accounted P ls) {l : Label} {w : World}
    (hw : w.Accounted P (ls ++ [l])) (hl : ∀ j, l.starts j = false)
    (hrun : ∀ j, (w.servers j).running = (s.world.servers j).running)
    (hext : s.world.db.Extends w.db) :
    (⟨w.modify i fun _ => .stopped, Sys.dropThreads i s.threads⟩ : Sys).Accounted P (ls ++ [l]) := by
  have hothers := hs.threads_mono w (ls ++ [l]) hrun
    fun j => (known_concat (hl j)).trans (known_extends hext)
  exact ⟨hw.modify (f := fun _ => .stopped) Server.accounted_stopped,
    fun t j q hq => dropped_honest hothers hq⟩

/-- **Every step** is covered by what is known after it. -/
theorem Sys.Accounted.step (hP : P.ReadsNotices) (hs : s.Accounted P ls) {l : Label}
    (h : Sys.step P l s = some s') : s'.Accounted P (ls ++ [l]) := by
  cases Sys.steps h with
  | start hrun => exact hs.start hrun
  | connect => exact hs.same (fun _ => rfl) ((hs.world.servers _).same rfl rfl rfl rfl rfl) rfl
  | whole hb hr => exact hs.whole hP hb hr
  | spawn _ hb => exact hs.spawn hP hb
  | done =>
    refine ⟨hs.world.longer fun j => known_concat rfl, threads_update ?_ ?_⟩
    · exact hs.threads_mono _ _ (fun _ => rfl) fun j => known_concat rfl
    · rintro j q ⟨⟩
  | act ht he => exact hs.act ht he
  | tick =>
    refine ⟨⟨hs.world.linked, fun j => (hs.world.servers j).mono (known_concat rfl),
      fun j m hm => (hs.world.stored j m hm).mono (known_concat rfl)⟩, ?_⟩
    exact hs.threads_mono { s.world with now := _ } _ (fun _ => rfl) fun j => known_concat rfl
  | publishLost => exact hs.same (fun _ => rfl) ((hs.world.servers _).same rfl rfl rfl rfl rfl) rfl
  | @subscribeLost i =>
    have h := hs.world.servers i
    refine hs.same (fun _ => rfl) ⟨h.entries, fun ch hc => ?_, h.inbox, h.outbox⟩ rfl
    rcases hc with hc | hc
    · exact h.channels ch (.inl hc)
    · cases hc
  | @resubscribe i =>
    have h := hs.world.servers i
    refine hs.same (fun _ => rfl) ⟨h.entries, fun ch hc => ?_, h.inbox, h.outbox⟩ rfl
    exact h.channels ch (.inl (hc.elim id id))
  | @exit i w _ hr =>
    obtain ⟨hw, -, -⟩ := (reset_honest (k := knownTo P (ls ++ [.exit i]) i s.world.db)).run
      (keeps_accounted P _ i) (hs.world.longer fun j => known_concat rfl) hr
    exact hs.stop hw (fun _ => rfl) (fun j => run_running hr j) (run_extends hr)
  | @crash i =>
    exact hs.stop (hs.world.longer fun j => known_concat rfl) (fun _ => rfl) (fun _ => rfl) (.refl _)

theorem accounted_created {s : Sys} (h : (system P).init s) : s.Accounted P [] := by
  obtain ⟨collate, fates, now, rfl⟩ := h
  refine ⟨⟨Database.linked_created collate, fun _ => Server.accounted_stopped, fun _ m hm => ?_⟩,
    fun t i p ht => ?_⟩
  · cases hm
  · cases ht

theorem Sys.Accounted.runs (hP : P.ReadsNotices) (hs : s.Accounted P ls) {ls' : List Label}
    (hr : (system P).runs ls' s = some s') : s'.Accounted P (ls ++ ls') := by
  induction ls' generalizing s ls with
  | nil =>
    cases hr
    rwa [List.append_nil]
  | cons l ls' ih =>
    obtain ⟨s₁, hl, hr⟩ := Option.bind_eq_some_iff.mp hr
    have := ih (hs.step hP hl) hr
    rwa [List.append_assoc] at this

end System

/-! ## The servers with the parser of `json.hpp` -/

/-- The friend states are read, whatever `strtod` does. -/
theorem JsonParser.nlohmann_readsNotices (F : Nlohmann.Strtod) :
    (JsonParser.nlohmann F).ReadsNotices := by
  intro id state h₁ h₂
  refine JsonParser.nlohmann_dump (Nlohmann.valid_object ?_)
  have hstate : isUtf8 state.text = true := by cases state <;> decide
  have hid : -2 ^ 63 ≤ id ∧ id < 2 ^ 64 := by
    rw [maxInt] at h₂
    omega
  have hkeys : isUtf8 (txt "msgid") = true ∧ isUtf8 (txt "friendid") = true ∧
      isUtf8 (txt "state") = true := by decide
  have hmsgid : (-2 ^ 63 : Int) ≤ 11 ∧ (11 : Int) < 2 ^ 64 := by decide
  simp only [List.forall_mem_cons, EnMsgType.field, Nlohmann.Valid]
  exact ⟨⟨hkeys.1, hmsgid⟩, ⟨hkeys.2.1, hid⟩, ⟨hkeys.2.2, hstate⟩, by simp⟩

def originStrtod : Nlohmann.Strtod := .only Nlohmann.half (by decide)

/-- User 1 logs in on server 0, user 2 on server 1. User 2 writes to user 3, who is offline, and to
user 1. -/
def originLabels : List Label :=
  [.start 0 true, .start 1 true, .connect 0 1, .connect 1 2,
    .whole 0 (.frame 1 (ChatClient.reg (txt "ann") (txt "pw")).dump),
    .whole 0 (.frame 1 (ChatClient.reg (txt "bob") (txt "pw")).dump),
    .whole 0 (.frame 1 (ChatClient.reg (txt "cat") (txt "pw")).dump),
    .whole 0 (.frame 1 (ChatClient.login 1 (txt "pw")).dump),
    .whole 1 (.frame 2 (ChatClient.login 2 (txt "pw")).dump),
    .whole 1 (.frame 2 (ChatClient.oneChat 2 (txt "bob") 3 (txt "hi") (txt "noon")).dump),
    .whole 1 (.frame 2 (ChatClient.oneChat 2 (txt "bob") 1 (txt "hi") (txt "noon")).dump)]

theorem origin_init : (system (.nlohmann originStrtod)).init Sys.initial :=
  ⟨id, fun _ => ⟨true, 0⟩, 0, rfl⟩

theorem origin_run : ∃ s, (system (.nlohmann originStrtod)).runs originLabels Sys.initial = some s ∧
    (s.world.servers 0).userConnMap.lookup 1 = some 1 ∧ (∃ m, m ∈ (s.world.servers 0).inbox) ∧
    (∃ d, d ∈ (s.world.servers 0).outbox) ∧ ∃ m, m ∈ s.world.db.offlineMessage := by
  have h : ((system (.nlohmann originStrtod)).runs originLabels Sys.initial).map (fun s : Sys =>
      ((s.world.servers 0).userConnMap.lookup 1, (s.world.servers 0).inbox.length,
        (s.world.servers 0).outbox.length, s.world.db.offlineMessage.length)) =
      some (some 1, 1, 4, 1) := by
    decide +kernel
  obtain ⟨s, hs, hf⟩ := Option.map_eq_some_iff.mp h
  simp only [Prod.mk.injEq] at hf
  obtain ⟨hl, hi, ho, hm⟩ := hf
  exact ⟨s, hs, hl, List.exists_mem_of_length_pos (by omega),
    List.exists_mem_of_length_pos (by omega), List.exists_mem_of_length_pos (by omega)⟩

section Runs

variable {F : Nlohmann.Strtod} {ls : List Label} {i : ServerId} {s₀ s : Sys}
  (hinit : (system (.nlohmann F)).init s₀) (hr : (system (.nlohmann F)).runs ls s₀ = some s)
include hinit hr

theorem runs_accounted : s.Accounted (.nlohmann F) ls :=
  (accounted_created hinit).runs (JsonParser.nlohmann_readsNotices F) hr

/-- **Every packet that is sent** answers a request of its connection, is the acknowledgement of a
login on it, or is a chat or a friend state for a user who has logged in on it with the password. -/
theorem outbox_sendable {d : Delivery} (hd : d ∈ (s.world.servers i).outbox) :
    Sendable (knownTo (.nlohmann F) ls i s.world.db) d.conn d.js :=
  ((runs_accounted hinit hr).world.servers i).outbox d hd

omit hinit hr in
theorem outbox_sendable_run : ∃ s : Sys,
    (system (.nlohmann originStrtod)).runs originLabels Sys.initial = some s ∧
    ∃ d ∈ (s.world.servers 0).outbox,
      Sendable (knownTo (.nlohmann originStrtod) originLabels 0 s.world.db) d.conn d.js := by
  obtain ⟨s, hr, -, -, ⟨d, hd⟩, -⟩ := origin_run
  exact ⟨s, hr, d, hd, outbox_sendable origin_init hr hd⟩

/-- **Every offline message in the table** is, unchanged, a chat that a client has sent to the user
or to a group of the user. -/
theorem stored_chats {m : Int × Str} (hm : m ∈ s.world.db.offlineMessage) :
    StoredFor (knownTo (.nlohmann F) ls i s.world.db) m.1 m.2 :=
  (runs_accounted hinit hr).world.stored i m hm

omit hinit hr in
theorem stored_chats_run : ∃ s : Sys,
    (system (.nlohmann originStrtod)).runs originLabels Sys.initial = some s ∧
    ∃ m ∈ s.world.db.offlineMessage,
      StoredFor (knownTo (.nlohmann originStrtod) originLabels 0 s.world.db) m.1 m.2 := by
  obtain ⟨s, hr, -, -, -, ⟨m, hm⟩⟩ := origin_run
  exact ⟨s, hr, m, hm, stored_chats origin_init hr hm⟩

/-- **What Redis has pushed** to a server is a chat or a friend state for the user of the channel,
who has logged in on a connection of this process with the password. -/
theorem pushed_to_logged_in {m : Int × Str} (hm : m ∈ (s.world.servers i).inbox) :
    PushableTo (knownTo (.nlohmann F) ls i s.world.db) m.1 m.2 ∧
      ∃ conn, LoggedInBy (knownTo (.nlohmann F) ls i s.world.db) m.1 conn :=
  ((runs_accounted hinit hr).world.servers i).inbox m hm

omit hinit hr in
theorem pushed_to_logged_in_run : ∃ s : Sys,
    (system (.nlohmann originStrtod)).runs originLabels Sys.initial = some s ∧
    ∃ m ∈ (s.world.servers 0).inbox,
      PushableTo (knownTo (.nlohmann originStrtod) originLabels 0 s.world.db) m.1 m.2 ∧
      ∃ conn, LoggedInBy (knownTo (.nlohmann originStrtod) originLabels 0 s.world.db) m.1 conn := by
  obtain ⟨s, hr, -, ⟨m, hm⟩, -, -⟩ := origin_run
  exact ⟨s, hr, m, hm, pushed_to_logged_in origin_init hr hm⟩

/-- **A connection is entered for a user** only after a login with the user's password on it. -/
theorem entered_logged_in {userid : Int} {conn : ConnId}
    (hl : (s.world.servers i).userConnMap.lookup userid = some conn) :
    LoggedInBy (knownTo (.nlohmann F) ls i s.world.db) userid conn :=
  ((runs_accounted hinit hr).world.servers i).entries userid conn hl

omit hinit hr in
theorem entered_logged_in_run : ∃ s : Sys,
    (system (.nlohmann originStrtod)).runs originLabels Sys.initial = some s ∧
    LoggedInBy (knownTo (.nlohmann originStrtod) originLabels 0 s.world.db) 1 1 := by
  obtain ⟨s, hr, hl, -, -, -⟩ := origin_run
  exact ⟨s, hr, entered_logged_in origin_init hr hl⟩

/-- The bodies that the run takes from a connection of server `i`. -/
def bodiesOn (i : ServerId) (conn : ConnId) (ls : List Label) : List Str :=
  ls.filterMap (Label.body i conn)

omit hinit hr in
theorem sinceStart_subset (i : ServerId) (ls : List Label) : sinceStart i ls ⊆ ls := by
  induction ls using List.reverseRecOn with
  | nil => exact List.Subset.refl []
  | append_singleton ls l ih =>
    rw [sinceStart_concat]
    split
    · exact List.nil_subset _
    · exact List.append_subset.mpr ⟨List.subset_append_of_subset_left _ ih,
        List.subset_append_right _ _⟩

omit hinit hr in
/-- What is known to be read, was a body. -/
theorem read_body {P : JsonParser} {conn : ConnId} {js : Json} {db : Database}
    (h : Fact.read conn js ∈ knownTo P ls i db) : bodiesOn i conn ls ≠ [] := by
  cases h with
  | @read l _ _ hl hread =>
    obtain ⟨b, hb, -⟩ := Label.reads_body hread
    exact List.ne_nil_of_mem (List.mem_filterMap.mpr ⟨l, sinceStart_subset i ls hl, hb⟩)

/-- A connection from which no body was taken is sent nothing. -/
theorem unread_unsent {conn : ConnId} (hno : bodiesOn i conn ls = []) :
    ∀ d ∈ (s.world.servers i).outbox, d.conn ≠ conn := by
  rintro d hd rfl
  obtain ⟨js, hread⟩ := (((runs_accounted hinit hr).world.servers i).outbox d hd).read
  exact read_body hread hno

end Runs

end QtChat
