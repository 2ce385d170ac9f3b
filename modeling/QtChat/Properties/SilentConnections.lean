import QtChat.Properties.SingleSession
import QtChat.Server.Links

/-!
# The connections that the check finds silent

`checkHeartbeat` reads `_connectionLastTime`, which gets an entry with the first body in JSON and
loses it with a logout and with the close. A history notes for every connection when it was opened
or last heard, and whether an entry is due (`LastHeard`).

- `accounts`: the table has exactly the entries that are due.
- `checks_cover_iff`: every check selects all connections that have been silent for 30 seconds
  exactly if each of them is due an entry; that what the table holds is open is always so.
- `mute_connection_kept`: a connection that never says anything is never selected.
-/

namespace QtChat

open Interleave ChatService

/-! ## The history -/

/-- When the connection was opened or last sent a body in JSON, and whether it sent one and the last
was no logout that is read. -/
structure LastHeard where
  time : Int
  spoke : Bool

abbrev History := ServerId → ConnId → LastHeard

def History.note (h : History) (i : ServerId) (conn : ConnId) (e : LastHeard) : History :=
  Function.update h i (Function.update (h i) conn e)

/-- The body is a logout whose id can be read. -/
def logsOut (js : Json) : Bool :=
  match js.intAt "msgid", js.intAt "id" with
  | .ok msgid, .ok _ => msgid = 3
  | _, _ => false

/-- What a step adds to the history. -/
def Label.hears (P : JsonParser) (w : World) (h : History) : Label → History
  | .connect i conn => h.note i conn ⟨w.now, false⟩
  | .whole i (.frame conn body) => match P.parse body with
    | none => h
    | some js => h.note i conn ⟨w.now, !logsOut js⟩
  | _ => h

/-- The servers with their history. -/
def heardSystem (P : JsonParser) : Machine where
  State := Sys × History
  Label := Label
  init s := (atomicSystem P).init s.1
  step l s := ((atomicSystem P).step l s.1).map fun s' => (s', l.hears P s.1.world s.2)

/-- The connection is not closed. -/
def Sys.IsOpen (s : Sys) (i : ServerId) (c : ConnId) : Prop :=
  (s.world.servers i).conns c ≠ .disconnected

/-- More than 30 seconds since the connection was opened or heard. -/
def LongSilent (t : Sys × History) (i : ServerId) (c : ConnId) : Prop :=
  t.1.IsOpen i c ∧ t.1.world.now - (t.2 i c).time > 30

/-- A check on server `i` selects every silent connection. -/
def Covers (i : ServerId) (t : Sys × History) : Prop :=
  ∀ c, LongSilent t i c → c ∈ t.1.world.stale i

/-- What the table of server `i` holds is open. -/
def HeldOpen (i : ServerId) (t : Sys × History) : Prop :=
  ∀ c ∈ (t.1.world.servers i).connectionLastTime, t.1.IsOpen i c

/-- Every silent connection sent a body in JSON, and the last was no logout. -/
def SilentSpoke (i : ServerId) (t : Sys × History) : Prop :=
  ∀ c, LongSilent t i c → (t.2 i c).spoke = true

/-- The table has an entry where one is due. -/
def Accounts (t : Sys × History) : Prop :=
  ∀ i c time, (t.1.world.servers i).connectionLastTime.lookup c = some time ↔
    t.1.IsOpen i c ∧ (t.2 i c).spoke = true ∧ (t.2 i c).time = time

theorem mem_stale {w : World} {i : ServerId} {c : ConnId} : c ∈ w.stale i ↔
    ∃ time, (w.servers i).connectionLastTime.lookup c = some time ∧ w.now - time > 30 := by
  unfold World.stale
  constructor
  · intro h
    obtain ⟨⟨c', time⟩, he, rfl⟩ := List.mem_map.mp h
    obtain ⟨hm, ht⟩ := List.mem_filter.mp he
    exact ⟨time, AList.mem_lookup_iff.mpr hm, by simpa using ht⟩
  · rintro ⟨time, hl, ht⟩
    exact List.mem_map.mpr
      ⟨⟨c, time⟩, List.mem_filter.mpr ⟨AList.mem_lookup_iff.mp hl, by simpa using ht⟩, rfl⟩

/-! ## One step -/

section Steps

variable {P : JsonParser} {i : ServerId} {conn : ConnId} {w w' : World}

theorem History.note_self (h : History) (i : ServerId) (conn : ConnId) (e : LastHeard) :
    h.note i conn e i conn = e := by simp [note]

theorem History.note_ne (h : History) {i j : ServerId} {conn c : ConnId} (e : LastHeard)
    (hne : ¬(j = i ∧ c = conn)) : h.note i conn e j c = h j c := by
  unfold note
  by_cases hj : j = i
  · subst hj
    have hc : c ≠ conn := fun hc => hne ⟨rfl, hc⟩
    simp [hc]
  · simp [hj]

theorem noted_lookup (w : World) (i : ServerId) (conn : ConnId) (j : ServerId) (c : ConnId) :
    ((w.noted i conn).servers j).connectionLastTime.lookup c =
      if j = i ∧ c = conn then some w.now else (w.servers j).connectionLastTime.lookup c := by
  unfold World.noted
  by_cases hj : j = i
  · subst hj
    rw [World.modify_self]
    by_cases hc : c = conn
    · subst hc
      simp [AList.lookup_insert]
    · simp [hc, AList.lookup_insert_ne hc]
  · rw [World.modify_ne _ hj]
    simp [hj]

/-- A body in JSON sets the time of its connection, unless it is a logout. -/
theorem frame_times {body : Str} {js : Json} (hp : P.parse body = some js)
    (hr : (handleMsg P conn body).run i w = some ((), w')) (j : ServerId) (c : ConnId) :
    (w'.servers j).connectionLastTime.lookup c =
      if j = i ∧ c = conn then (if logsOut js = true then none else some w.now)
      else (w.servers j).connectionLastTime.lookup c := by
  rw [run_handleMsg _ _ hp] at hr
  have hnoted := noted_lookup w i conn j c
  by_cases hlogout : ∃ id, js.intAt "msgid" = .ok 3 ∧ js.intAt "id" = .ok id
  · obtain ⟨id, hm, hi⟩ := hlogout
    have hout : logsOut js = true := by simp [logsOut, hm, hi]
    rw [dispatch_loginout hm hi] at hr
    obtain ⟨hne, hself⟩ := logout_times hr
    rw [hout, if_pos rfl]
    by_cases hj : j = i
    · subst hj
      rw [hself]
      by_cases hc : c = conn
      · subst hc
        simp [AList.lookup_erase]
      · rw [AList.lookup_erase_ne hc, hnoted]
        simp [hc]
    · rw [hne j hj, hnoted]
      simp [hj]
  · have hstay : logsOut js = false := by
      unfold logsOut
      cases hm : js.intAt "msgid" with
      | error e => rfl
      | ok msgid => cases hi : js.intAt "id" with
        | error e => rfl
        | ok id =>
          simp only [decide_eq_false_iff_not]
          rintro rfl
          exact hlogout ⟨id, hm, hi⟩
    simp only [hstay, Bool.false_eq_true, if_false]
    rw [← hnoted]
    rcases request_cases conn js with ⟨id, pwd, -, -, -, hd⟩ | ⟨id, hm, hi, -⟩ | hd | hplain
    · rw [hd] at hr
      rw [run_times ((loginAs_all conn id pwd).mono fun _ => timeless_of_login) hr]
    · exact absurd ⟨id, hm, hi⟩ hlogout
    · rw [hd] at hr
      change (updateConnTime conn >>= fun _ => sendJson conn (.object [EnMsgType.heartbeatMsg.field])).run
        i (w.noted i conn) = _ at hr
      rw [Prog.run_bind, run_updateConnTime, Option.bind_some] at hr
      change (sendJson conn _).run i ((w.noted i conn).noted i conn) = _ at hr
      -- the time is noted twice
      rw [run_times (p := sendJson conn (.object [EnMsgType.heartbeatMsg.field]))
        ⟨trivial, fun _ => trivial⟩ hr, noted_lookup, hnoted]
      by_cases hjc : j = i ∧ c = conn
      · rw [if_pos hjc, if_pos hjc]
        rfl
      · rw [if_neg hjc, if_neg hjc]
    · rw [run_times (hplain.mono fun _ => timeless_of_plain) hr]

/-- Server `i` is fresh, and the others are left alone. -/
theorem accounts_fresh {s : Sys} {h : History} {s₀ : Server} {threads} (hs : Accounts (s, h))
    (hw : ∀ j, j ≠ i → w.servers j = s.world.servers j) (htable : s₀.connectionLastTime = ∅)
    (hconns : ∀ c, s₀.conns c = .disconnected) :
    Accounts (⟨w.modify i fun _ => s₀, threads⟩, h) := by
  intro j c time
  have hj := hs j c time
  unfold Sys.IsOpen at hj ⊢
  dsimp only at hj ⊢
  by_cases hji : j = i
  · subst hji
    rw [World.modify_self, htable]
    exact iff_of_false nofun fun h' => h'.1 (hconns c)
  · rw [World.modify_ne _ hji, hw j hji]
    exact hj

/-- The times and what is open are the same. -/
theorem accounts_same {s s' : Sys} {h : History} (hs : Accounts (s, h))
    (htimes : ∀ j, (s'.world.servers j).connectionLastTime = (s.world.servers j).connectionLastTime)
    (hopen : ∀ j c, (s'.world.servers j).conns c = .disconnected ↔
      (s.world.servers j).conns c = .disconnected) : Accounts (s', h) := by
  intro j c time
  have hj := hs j c time
  unfold Sys.IsOpen at hj ⊢
  dsimp only at hj ⊢
  rw [htimes, hj, ne_eq, ne_eq, hopen]

theorem frame_accounts {s : Sys} {h : History} {body : Str} {threads} (hs : Accounts (s, h))
    (hopen : s.IsOpen i conn) (hr : (handleMsg P conn body).run i s.world = some ((), w')) :
    Accounts (⟨w', threads⟩, (Label.whole i (.frame conn body)).hears P s.world h) := by
  have hconns := run_disconnected hr
  rcases handleMsg_runs i s.world hr with ⟨hp, rfl⟩ | ⟨js, hp, -⟩
  · simp only [Label.hears, hp]
    exact hs
  · simp only [Label.hears, hp]
    intro j c time
    have hj := hs j c time
    unfold Sys.IsOpen at hj hopen ⊢
    dsimp only at hj ⊢
    rw [frame_times hp hr j c, ne_eq, hconns]
    by_cases hjc : j = i ∧ c = conn
    · obtain ⟨rfl, rfl⟩ := hjc
      rw [if_pos ⟨rfl, rfl⟩, History.note_self]
      cases hout : logsOut js with
      | true => simp
      | false => simp [hopen]
    · rw [if_neg hjc, History.note_ne _ _ hjc]
      exact hj

theorem close_accounts {s : Sys} {h : History} {threads} (hs : Accounts (s, h))
    (hr : (clientCloseException conn).run i (s.world.modify i fun s =>
      { s with conns := Function.update s.conns conn .disconnected }) = some ((), w')) :
    Accounts (⟨w', threads⟩, h) := by
  obtain ⟨hne, hself⟩ := close_times hr
  have hconns := run_disconnected hr
  intro j c time
  have hj := hs j c time
  unfold Sys.IsOpen at hj ⊢
  dsimp only at hj ⊢
  rw [ne_eq, hconns]
  by_cases hji : j = i
  · subst hji
    rw [hself, World.modify_self]
    dsimp only
    by_cases hc : c = conn
    · subst hc
      simp [AList.lookup_erase]
    · rw [AList.lookup_erase_ne hc, hj, Function.update_of_ne hc]
  · rw [hne j hji, World.modify_ne _ hji]
    exact hj

theorem connect_accounts {s : Sys} {h : History} {threads} (hs : Accounts (s, h))
    (hclosed : (s.world.servers i).conns conn = .disconnected) :
    Accounts (⟨s.world.modify i fun s =>
        { s with conns := Function.update s.conns conn .connected }, threads⟩,
      h.note i conn ⟨s.world.now, false⟩) := by
  intro j c time
  have hj := hs j c time
  unfold Sys.IsOpen at hj ⊢
  dsimp only at hj ⊢
  by_cases hji : j = i
  · subst hji
    rw [World.modify_self]
    by_cases hc : c = conn
    · subst hc
      rw [History.note_self, hj]
      -- no entry is left from before
      simp [hclosed]
    · rw [History.note_ne _ _ fun hjc => hc hjc.2]
      dsimp only
      rw [Function.update_of_ne hc]
      exact hj
  · rw [World.modify_ne _ hji, History.note_ne _ _ fun hjc => hji hjc.1]
    exact hj

theorem shutdowns_timeless (conns : List ConnId) : (Prog.each shutdown conns).All Timeless :=
  Prog.All.each fun _ _ => ⟨trivial, fun _ => trivial⟩

/-- **One step.** -/
theorem step_accounts {l : Label} {t t' : Sys × History} (ht : Accounts t)
    (h : (heardSystem P).step l t = some t') : Accounts t' := by
  obtain ⟨s, h₀⟩ := t
  obtain ⟨s', hl, rfl⟩ := Option.map_eq_some_iff.mp h
  obtain ⟨hat, hl⟩ := Machine.step_of_restrict hl
  have hsame : ∀ {i : ServerId} {f : Server → Server},
      (f (s.world.servers i)).connectionLastTime = (s.world.servers i).connectionLastTime →
      (f (s.world.servers i)).conns = (s.world.servers i).conns →
      Accounts (⟨s.world.modify i f, s.threads⟩, h₀) :=
    fun ht₀ hc => accounts_same ht (World.modify_field (·.connectionLastTime) ht₀)
      fun j c => by rw [World.modify_field (·.conns) hc j]
  cases Sys.steps hl with
  | start => exact accounts_fresh ht (fun _ _ => rfl) rfl fun _ => rfl
  | connect _ hclosed => exact connect_accounts ht hclosed
  | @whole i job p w w' hb hr =>
    cases hb with
    | frame _ hopen => exact frame_accounts ht hopen hr
    | close => exact close_accounts ht hr
    | check =>
      have htimes := run_times (p := checkHeartbeat) ⟨trivial, shutdowns_timeless⟩ hr
      exact accounts_same ht htimes (run_disconnected hr)
    | @redis ch message inbox =>
      have hchat := (handleRedisSubscribeMessage_all P ch message).mono
        fun _ ha => timeless_of_plain (plain_of_chat ha)
      have hbegin : Accounts (⟨s.world.modify i fun s => { s with inbox }, s.threads⟩, h₀) :=
        hsame rfl rfl
      exact accounts_same hbegin (run_times hchat hr) (run_disconnected hr)
  | spawn => cases hat
  | done => cases hat
  | act => cases hat
  | tick => exact ht
  | publishLost => exact hsame rfl rfl
  | subscribeLost => exact hsame rfl rfl
  | resubscribe => exact hsame rfl rfl
  | @exit i w _ hr =>
    have htimes := run_times (p := reset)
      (all_ask trivial trivial trivial fun _ => trivial) hr
    have hbefore : Accounts (⟨w, s.threads⟩, h₀) := accounts_same ht htimes (run_disconnected hr)
    exact accounts_fresh hbefore (fun _ _ => rfl) rfl fun _ => rfl
  | crash => exact accounts_fresh ht (fun _ _ => rfl) rfl fun _ => rfl

end Steps

/-- **The table is the entries that are due**, in every reachable state. -/
theorem accounts {P : JsonParser} {t : Sys × History} (h : (heardSystem P).Reach t) :
    Accounts t := by
  refine h.inv (M := heardSystem P) ?_ fun l t t' ht hl => step_accounts ht hl
  rintro ⟨s, h₀⟩ ⟨collate, fates, now, rfl⟩ i c time
  exact iff_of_false nofun fun h' => h'.1 rfl

/-- With the entries that are due, a check covers the silent connections exactly if they have
spoken. -/
theorem covers_iff_spoke {t : Sys × History} (ht : Accounts t) (i : ServerId) :
    Covers i t ↔ SilentSpoke i t := by
  refine forall_congr' fun c => forall_congr' fun hc => ?_
  rw [mem_stale]
  constructor
  · rintro ⟨time, hl, -⟩
    exact ((ht i c time).mp hl).2.1
  · intro hspoke
    exact ⟨(t.2 i c).time, (ht i c _).mpr ⟨hc.1, hspoke, rfl⟩, hc.2⟩

theorem held_open {t : Sys × History} (ht : Accounts t) (i : ServerId) : HeldOpen i t := by
  intro c hc
  obtain ⟨time, hl⟩ := Option.isSome_iff_exists.mp (AList.lookup_isSome.mpr hc)
  exact ((ht i c time).mp hl).1

/-- **The checks.** In a run from the empty tables, with any failures of MySQL and Redis, every
check selects every connection that has been silent for more than 30 seconds, and all connections
held are always open, exactly if at every check each such connection has sent a body in JSON since
it was opened, and the last was no logout. -/
theorem checks_cover_iff {P : JsonParser} {ls : List Label} {t : Sys × History}
    (ht : (heardSystem P).init t) :
    ((∀ i t₁, (heardSystem P).Takes ls t (.whole i .check) t₁ → Covers i t₁) ∧
      ∀ t₁, (heardSystem P).Passes ls t t₁ → ∀ i, HeldOpen i t₁) ↔
    ∀ i t₁, (heardSystem P).Takes ls t (.whole i .check) t₁ → SilentSpoke i t₁ := by
  have hreach : (heardSystem P).Reach t := .init ht
  have hheld : ∀ t₁, (heardSystem P).Passes ls t t₁ → ∀ i, HeldOpen i t₁ :=
    fun t₁ hp => held_open (accounts (hreach.passes hp))
  rw [and_iff_left hheld]
  refine forall_congr' fun i => forall_congr' fun t₁ => forall_congr' fun htake => ?_
  exact covers_iff_spoke (accounts (hreach.takes htake)) i

/-- The first state, when nothing was heard. -/
def heardInitial : Sys × History := (Sys.initial, fun _ _ => ⟨0, false⟩)

theorem heardInitial_init (P : JsonParser) : (heardSystem P).init heardInitial :=
  ⟨id, fun _ => ⟨true, 0⟩, 0, rfl⟩

/-- Connection 1 is opened, and the check comes after 31 seconds. -/
def muteConnection : List Label := [.start 0 true, .connect 0 1, .tick 31, .whole 0 .check]

theorem checks_cover_iff_mute :
    ((∀ i t₁, (heardSystem twoLoginsParser).Takes muteConnection heardInitial (.whole i .check) t₁ →
        Covers i t₁) ∧
      ∀ t₁, (heardSystem twoLoginsParser).Passes muteConnection heardInitial t₁ → ∀ i, HeldOpen i t₁) ↔
    ∀ i t₁, (heardSystem twoLoginsParser).Takes muteConnection heardInitial (.whole i .check) t₁ →
      SilentSpoke i t₁ :=
  checks_cover_iff (heardInitial_init _)

/-- A connection that never says anything has no entry, and the check does not select it. -/
theorem mute_connection_kept : ¬∀ (P : JsonParser) (ls : List Label) (t : Sys × History),
    (heardSystem P).init t →
    (∀ i t₁, (heardSystem P).Takes ls t (.whole i .check) t₁ → Covers i t₁) ∧
      ∀ t₁, (heardSystem P).Passes ls t t₁ → ∀ i, HeldOpen i t₁ := by
  intro hall
  obtain ⟨hcovers, -⟩ := hall twoLoginsParser muteConnection heardInitial (heardInitial_init _)
  have h : ((heardSystem twoLoginsParser).runs [.start 0 true, .connect 0 1, .tick 31]
      heardInitial).map (fun t : Sys × History =>
        ((t.1.world.servers 0).conns 1, t.1.world.now - (t.2 0 1).time, t.1.world.stale 0)) =
      some (.connected, 31, []) := by
    decide +kernel
  obtain ⟨t, ht, hf⟩ := Option.map_eq_some_iff.mp h
  simp only [Prod.mk.injEq] at hf
  obtain ⟨hopen, hsilent, hstale⟩ := hf
  have htake : (heardSystem twoLoginsParser).Takes muteConnection heardInitial (.whole 0 .check) t := by
    obtain ⟨t₁, h₁, ht⟩ := Option.bind_eq_some_iff.mp ht
    obtain ⟨t₂, h₂, ht⟩ := Option.bind_eq_some_iff.mp ht
    obtain ⟨t₃, h₃, ht⟩ := Option.bind_eq_some_iff.mp ht
    cases ht
    exact .inr ⟨t₁, h₁, .inr ⟨t₂, h₂, .inr ⟨t, h₃, .inl ⟨rfl, rfl⟩⟩⟩⟩
  have hmem := hcovers 0 t htake 1 ⟨by rw [Sys.IsOpen, hopen]; decide, by rw [hsilent]; decide⟩
  rw [hstale] at hmem
  cases hmem

end QtChat
