import QtChat.Properties.SingleSession
import QtChat.Server.Links

/-!
# The connections in `_userConnMap`

Who finds a recipient in `_userConnMap` gives the packet to that connection, and Muduo drops it if
`shutdown` was called on it (`onConnection` calls it on every connection that is down).

- `EntriesOpen`: every entry is a connection that is open; `found_open`: then so is every recipient
  that is found.
- `entries_open_iff`: it holds all along a run exactly if every step keeps it (`Label.KeepsOpen`):
  the check closes no connection that has an entry, a connection that goes down has one entry at
  most, and an accepted login comes on an open connection and kicks none that is needed.
- `entry_of_silent`: the check shuts a silent connection down and leaves its entry.
-/

namespace QtChat

open Interleave ChatService

/-- Every connection in `_userConnMap` is open. -/
def Server.EntriesOpen (s : Server) : Prop :=
  ∀ id c, s.userConnMap.lookup id = some c → s.conns c = .connected

def EntriesOpen (s : Sys) : Prop := ∀ i, (s.world.servers i).EntriesOpen

/-- What a login of `id` on `conn` needs, whose row has this state: its connection is open, and the
connection that it kicks is another one, with no other entry. -/
structure Server.LoginKeepsOpen (s : Server) (conn : ConnId) (id : Int) (state : UserState) : Prop where
  opened : s.conns conn = .connected
  kicks : state = .online → ∀ old, s.userConnMap.lookup id = some old →
    old ≠ conn ∧ ∀ u, u ≠ id → s.userConnMap.lookup u ≠ some old

/-- The step keeps every entry on an open connection. -/
def Label.KeepsOpen (P : JsonParser) (l : Label) (s : Sys) : Prop :=
  match l with
  | .whole i (.frame conn body) => ∀ js id pwd, P.parse body = some js →
      js.intAt "msgid" = .ok 1 → js.intAt "id" = .ok id → js.stringAt "password" = .ok pwd →
      Accepts (s.world.lookedUp id) id pwd →
      (s.world.servers i).LoginKeepsOpen conn id (s.world.lookedUp id).state
  | .whole i (.close conn) => ∀ u v, (s.world.servers i).userConnMap.lookup u = some conn →
      (s.world.servers i).userConnMap.lookup v = some conn → u = v
  | .whole i .check => ∀ c ∈ s.world.stale i, ∀ u,
      (s.world.servers i).userConnMap.lookup u ≠ some c
  | _ => True

/-- **Recipients that are found** are open: those of `oneChat` and `handleRedisSubscribeMessage`,
those of `notifyFriendState`, and those of `groupChat`, whose packets Muduo takes. -/
theorem found_open {w w' : World} {i : ServerId} (h : (w.servers i).EntriesOpen) :
    (∀ id c, World.exec i (.findConn id) w = some (some c, w') → (w'.servers i).conns c = .connected) ∧
    (∀ ids r, World.exec i (.splitFriends ids) w = some (r, w') →
      ∀ c ∈ r.1, (w'.servers i).conns c = .connected) ∧
    (∀ ids js r, World.exec i (.routeGroup ids js) w = some (r, w') →
      ∀ d ∈ sentIn i w w', d.accepted = true) := by
  refine ⟨?_, ?_, ?_⟩
  · intro id c he
    simp only [World.exec, Option.some.injEq, Prod.mk.injEq] at he
    obtain ⟨hl, rfl⟩ := he
    exact h id c hl
  · intro ids r he c hc
    cases he
    obtain ⟨id, -, hl⟩ := List.mem_filterMap.mp hc
    exact h id c hl
  · intro ids js r he d hd
    cases he
    rw [sentIn, World.modify_self, Server.foldl_deliver, List.drop_left] at hd
    obtain ⟨c, hc, rfl⟩ := List.mem_map.mp hd
    obtain ⟨id, -, hl⟩ := List.mem_filterMap.mp hc
    exact decide_eq_true (h id c hl)

section Steps

variable {P : JsonParser} {w w' : World} {i : ServerId} {conn : ConnId}

theorem SameLinks.entriesOpen (h : SameLinks w w') (j : ServerId) :
    (w'.servers j).EntriesOpen ↔ (w.servers j).EntriesOpen := by
  unfold Server.EntriesOpen
  rw [h.entries, h.conns]

/-- The other servers are left alone. -/
theorem entriesOpen_iff_of_ne (h : ∀ j, (w.servers j).EntriesOpen)
    (hne : ∀ j, j ≠ i → ((w'.servers j).EntriesOpen ↔ (w.servers j).EntriesOpen)) :
    (∀ j, (w'.servers j).EntriesOpen) ↔ (w'.servers i).EntriesOpen := by
  refine ⟨fun h' => h' i, fun h' j => ?_⟩
  by_cases hj : j = i
  · rw [hj]
    exact h'
  · exact (hne j hj).mpr (h j)

/-- Whether a connection is open where the login entered its own. -/
theorem registered_open (w : World) (i : ServerId) (conn : ConnId) (id : Int) (state : UserState)
    (c : ConnId) : ((w.registered i conn id state).servers i).conns c = .connected ↔
      (w.servers i).conns c = .connected ∧
        (state = .online → (w.servers i).userConnMap.lookup id ≠ some c) := by
  unfold World.registered
  split
  · rename_i hs
    rw [World.modify_self]
    refine ((w.servers i).forceRelogin_open id conn c).trans (and_congr_right fun _ => ?_)
    exact ⟨fun h _ => h, fun h => h hs⟩
  · rename_i hs
    have hsub : ∀ (s : Server) ch, (s.subscribe ch).conns = s.conns := fun s ch => by
      unfold Server.subscribe
      split <;> rfl
    rw [World.modify_self, World.modify_self, hsub]
    exact ⟨fun h => ⟨h, fun e => absurd e hs⟩, fun h => h.1⟩

theorem registered_entriesOpen {id : Int} {state : UserState} (h : (w.servers i).EntriesOpen) :
    ((w.registered i conn id state).servers i).EntriesOpen ↔
      (w.servers i).LoginKeepsOpen conn id state := by
  constructor
  · intro h'
    have hconn := (registered_open w i conn id state conn).mp
      (h' id conn (by rw [registered_lookup, if_pos rfl]))
    refine ⟨hconn.1, fun hs old hl => ⟨?_, fun u hu hlu => ?_⟩⟩
    · rintro rfl
      exact hconn.2 hs hl
    · have hold := (registered_open w i conn id state old).mp
        (h' u old (by rw [registered_lookup, if_neg hu, hlu]))
      exact hold.2 hs hl
  · intro hkeep u c hl
    rw [registered_lookup] at hl
    rw [registered_open]
    by_cases hu : u = id
    · rw [if_pos hu] at hl
      obtain rfl := Option.some.inj hl
      exact ⟨hkeep.opened, fun hs hlc => (hkeep.kicks hs _ hlc).1 rfl⟩
    · rw [if_neg hu] at hl
      exact ⟨h u c hl, fun hs hlc => (hkeep.kicks hs c hlc).2 u hu hl⟩

theorem Server.entriesOpen_erase {s s' : Server} {id : Int} (h : s.EntriesOpen)
    (he : s'.userConnMap = s.userConnMap.erase id) (hc : s'.conns = s.conns) : s'.EntriesOpen := by
  intro u c hl
  rw [hc]
  by_cases hu : u = id
  · rw [hu, he, AList.lookup_erase] at hl
    cases hl
  · rw [he, AList.lookup_erase_ne hu] at hl
    exact h u c hl

/-- A login that is read. -/
theorem login_entriesOpen {id : Int} {pwd : Str} (h : ∀ j, (w.servers j).EntriesOpen)
    (hr : (loginAs conn id pwd).run i w = some ((), w')) :
    (∀ j, (w'.servers j).EntriesOpen) ↔
      (Accepts (w.lookedUp id) id pwd →
        (w.servers i).LoginKeepsOpen conn id (w.lookedUp id).state) := by
  by_cases ha : Accepts (w.lookedUp id) id pwd
  · have hlinks := login_links ha hr
    have hservers : (w.ask (.selectUser id)).2.servers = w.servers := World.ask_servers ..
    rw [entriesOpen_iff_of_ne (i := i) h fun j hj => ?_, hlinks.entriesOpen i,
      registered_entriesOpen, hservers, forall_prop_of_true ha]
    · rw [hservers]
      exact h i
    · rw [hlinks.entriesOpen j, registered_ne _ _ _ hj, hservers]
  · refine iff_of_true (fun j => ?_) fun ha' => absurd ha' ha
    exact ((refused_links ha hr).entriesOpen j).mpr (h j)

theorem frame_entriesOpen {body : Str} {s : Sys} (h : EntriesOpen s)
    (hr : (handleMsg P conn body).run i s.world = some ((), w')) :
    (∀ j, (w'.servers j).EntriesOpen) ↔ (Label.whole i (.frame conn body)).KeepsOpen P s := by
  rcases handleMsg_runs i s.world hr with ⟨hp, rfl⟩ | ⟨js, hp, hr⟩
  · exact iff_of_true h fun js id pwd hjs => by rw [hp] at hjs; cases hjs
  · have hnoted : SameLinks s.world (s.world.noted i conn) := .modify rfl rfl
    have h₀ : ∀ j, ((s.world.noted i conn).servers j).EntriesOpen :=
      fun j => (hnoted.entriesOpen j).mpr (h j)
    by_cases hlogin : ∃ id pwd, js.intAt "msgid" = .ok 1 ∧ js.intAt "id" = .ok id ∧
        js.stringAt "password" = .ok pwd
    · obtain ⟨id, pwd, hm, hi, hpw⟩ := hlogin
      rw [dispatch_login hm hi hpw] at hr
      rw [login_entriesOpen h₀ hr, World.noted, World.lookedUp_modify, World.modify_self]
      constructor
      · intro hkeep js' id' pwd' hjs hm' hi' hpw' ha
        rw [hp] at hjs
        cases hjs
        rw [hi] at hi'
        rw [hpw] at hpw'
        cases hi'
        cases hpw'
        exact ⟨(hkeep ha).opened, (hkeep ha).kicks⟩
      · intro hkeep ha
        have hk := hkeep js id pwd hp hm hi hpw ha
        exact ⟨hk.opened, hk.kicks⟩
    · have hkeep : (Label.whole i (.frame conn body)).KeepsOpen P s := by
        intro js' id pwd hjs hm hi hpw
        rw [hp] at hjs
        cases hjs
        exact absurd ⟨id, pwd, hm, hi, hpw⟩ hlogin
      refine iff_of_true (fun j => ?_) hkeep
      rcases request_cases conn js with ⟨id, pwd, hm, hi, hpw, -⟩ | ⟨id, -, -, hd⟩ | hd | hplain
      · exact absurd ⟨id, pwd, hm, hi, hpw⟩ hlogin
      · rw [hd] at hr
        rw [(logout_links hr).entriesOpen]
        by_cases hj : j = i
        · subst hj
          rw [World.modify_self]
          exact Server.entriesOpen_erase (h₀ j) rfl rfl
        · rw [World.modify_ne _ hj]
          exact h₀ j
      · rw [hd] at hr
        exact ((run_links (heartbeatOf_linkless conn) hr).entriesOpen j).mpr (h₀ j)
      · exact ((run_links (hplain.mono fun _ => linkless_of_plain) hr).entriesOpen j).mpr (h₀ j)

theorem close_entriesOpen {s : Sys} (h : EntriesOpen s)
    (hr : (clientCloseException conn).run i (s.world.modify i fun s =>
      { s with conns := Function.update s.conns conn .disconnected }) = some ((), w')) :
    (∀ j, (w'.servers j).EntriesOpen) ↔ (Label.whole i (.close conn)).KeepsOpen P s := by
  obtain ⟨hc, hne, he⟩ := close_links hr
  rw [World.modify_self] at he
  have hconns : ∀ c, (w'.servers i).conns c = .connected ↔
      (s.world.servers i).conns c = .connected ∧ c ≠ conn := by
    intro c
    rw [hc, World.modify_self]
    by_cases hcc : c = conn
    · subst hcc
      simp
    · simp [hcc]
  rw [entriesOpen_iff_of_ne (i := i) h fun j hj => ?_]
  · change _ ↔ ∀ u v, (s.world.servers i).userConnMap.lookup u = some conn → _
    have hfirst : ∀ pick, Server.firstOf { s.world.servers i with
        conns := Function.update (s.world.servers i).conns conn .disconnected } conn pick =
        (s.world.servers i).firstOf conn pick := fun _ => rfl
    rw [hfirst] at he
    cases hf : (s.world.servers i).firstOf conn ((s.world.modify i fun s =>
        { s with conns := Function.update s.conns conn .disconnected }).fates 0).pick with
    | none =>
      have hnone := Server.not_lookup_of_firstOf hf
      rw [hf] at he
      refine iff_of_true (fun u c hl => ?_) fun u v hu _ => absurd hu (hnone u)
      rw [he] at hl
      rw [hconns]
      refine ⟨h i u c hl, ?_⟩
      rintro rfl
      exact hnone u hl
    | some id =>
      have hid := Server.lookup_of_firstOf hf
      rw [hf] at he
      constructor
      · intro h'
        -- after the erase nobody has the connection
        have hunique : ∀ u, (s.world.servers i).userConnMap.lookup u = some conn → u = id := by
          intro u hu
          by_contra hne
          have hopen := h' u conn (by rw [he, AList.lookup_erase_ne hne, hu])
          exact ((hconns conn).mp hopen).2 rfl
        intro u v hu hv
        rw [hunique u hu, hunique v hv]
      · intro hunique u c hl
        rw [he] at hl
        by_cases hu : u = id
        · rw [hu, AList.lookup_erase] at hl
          cases hl
        · rw [AList.lookup_erase_ne hu] at hl
          rw [hconns]
          refine ⟨h i u c hl, ?_⟩
          rintro rfl
          exact hu (hunique u id hl hid)
  · unfold Server.EntriesOpen
    rw [hne j hj, hc j, World.modify_ne _ hj]

theorem check_entriesOpen {s : Sys} (h : EntriesOpen s)
    (hr : checkHeartbeat.run i s.world = some ((), w')) :
    (∀ j, (w'.servers j).EntriesOpen) ↔ (Label.whole i .check).KeepsOpen P s := by
  obtain ⟨he, hne, hc⟩ := check_links hr
  rw [entriesOpen_iff_of_ne (i := i) h fun j hj => ?_]
  · constructor
    · intro h' c hstale u hl
      have hopen := h' u c (by rw [he, hl])
      exact ((hc c).mp hopen).2 hstale
    · intro hkeep u c hl
      rw [he] at hl
      exact (hc c).mpr ⟨h i u c hl, fun hstale => hkeep c hstale u hl⟩
  · unfold Server.EntriesOpen
    rw [he j, hne j hj]

/-- **One step.** -/
theorem step_entriesOpen {l : Label} {s s' : Sys} (hat : l.atomic = true) (hs : EntriesOpen s)
    (h : Sys.step P l s = some s') : EntriesOpen s' ↔ l.KeepsOpen P s := by
  have hempty : ∀ {w : World} {i : ServerId} {s₀ : Server} {threads},
      (∀ j, j ≠ i → (w.servers j).EntriesOpen) → s₀.userConnMap = ∅ →
      EntriesOpen ⟨w.modify i fun _ => s₀, threads⟩ := by
    intro w i s₀ threads hw hf j
    dsimp only
    by_cases hj : j = i
    · subst hj
      rw [World.modify_self]
      intro id c hl
      rw [hf] at hl
      cases hl
    · rw [World.modify_ne _ hj]
      exact hw j hj
  have hsame : ∀ {i : ServerId} {f : Server → Server},
      (f (s.world.servers i)).userConnMap = (s.world.servers i).userConnMap →
      (f (s.world.servers i)).conns = (s.world.servers i).conns →
      EntriesOpen ⟨s.world.modify i f, s.threads⟩ :=
    fun he hc j => ((SameLinks.modify he hc).entriesOpen j).mpr (hs j)
  cases Sys.steps h with
  | start => exact iff_of_true (hempty (fun j _ => hs j) rfl) trivial
  | @connect i conn =>
    refine iff_of_true (fun j => ?_) trivial
    dsimp only
    by_cases hj : j = i
    · subst hj
      rw [World.modify_self]
      intro id c hl
      have := hs j id c hl
      simp only [Function.update_apply]
      split
      · rfl
      · exact this
    · rw [World.modify_ne _ hj]
      exact hs j
  | @whole i job p w w' hb hr =>
    cases hb with
    | frame => exact frame_entriesOpen hs hr
    | close => exact close_entriesOpen hs hr
    | check => exact check_entriesOpen hs hr
    | @redis ch message inbox =>
      refine iff_of_true (fun j => ?_) trivial
      have hlinks := run_links ((handleRedisSubscribeMessage_all P ch message).mono
        fun _ ha => linkless_of_plain (plain_of_chat ha)) hr
      have hbegin : SameLinks s.world (s.world.modify i fun s => { s with inbox }) := .modify rfl rfl
      exact ((hbegin.trans hlinks).entriesOpen j).mpr (hs j)
  | spawn => cases hat
  | done => cases hat
  | act => cases hat
  | tick => exact iff_of_true hs trivial
  | publishLost => exact iff_of_true (hsame rfl rfl) trivial
  | subscribeLost => exact iff_of_true (hsame rfl rfl) trivial
  | resubscribe => exact iff_of_true (hsame rfl rfl) trivial
  | @exit i w _ hr =>
    refine iff_of_true (hempty (fun j _ => ?_) rfl) trivial
    have hlinks := run_links (p := reset) (all_ask ⟨not_false, nofun⟩ ⟨not_false, nofun⟩ trivial
      fun _ => trivial) hr
    exact (hlinks.entriesOpen j).mpr (hs j)
  | crash => exact iff_of_true (hempty (fun j _ => hs j) rfl) trivial

end Steps

/-- **Entries on open connections.** In a run from the empty tables, with any failures of MySQL and
Redis, every entry is always on an open connection exactly if every step keeps it so. -/
theorem entries_open_iff {P : JsonParser} {ls : List Label} {s s' : Sys}
    (hs : (atomicSystem P).init s) (hr : (atomicSystem P).runs ls s = some s') :
    (∀ s₁, (atomicSystem P).Passes ls s s₁ → EntriesOpen s₁) ↔
      ∀ l s₁, (atomicSystem P).Takes ls s l s₁ → l.KeepsOpen P s₁ := by
  refine Machine.passes_iff_takes (M := atomicSystem P) (G := EntriesOpen) (fun _ hg => hg) ?_ ?_ hr
  · intro l s s' hg hl
    obtain ⟨hat, hl⟩ := Machine.step_of_restrict hl
    have hiff := step_entriesOpen hat hg hl
    exact ⟨hiff.mpr, hiff.mp⟩
  · obtain ⟨collate, fates, now, rfl⟩ := hs
    exact fun i id c hl => by cases hl

/-- User 1 registers and logs in on connection 1. -/
def oneLogin : List Label :=
  [.start 0 true, .connect 0 1,
    .whole 0 (.frame 1 (ChatClient.reg (txt "ann") (txt "pw")).dump),
    .whole 0 (.frame 1 (ChatClient.login 1 (txt "pw")).dump)]

theorem entries_open_iff_login : ∃ s', (atomicSystem twoLoginsParser).runs oneLogin Sys.initial =
      some s' ∧
    ((∀ s₁, (atomicSystem twoLoginsParser).Passes oneLogin Sys.initial s₁ → EntriesOpen s₁) ↔
      ∀ l s₁, (atomicSystem twoLoginsParser).Takes oneLogin Sys.initial l s₁ →
        l.KeepsOpen twoLoginsParser s₁) := by
  have h : ((atomicSystem twoLoginsParser).runs oneLogin Sys.initial).isSome = true := by
    decide +kernel
  obtain ⟨s', hr⟩ := Option.isSome_iff_exists.mp h
  exact ⟨s', hr, entries_open_iff ⟨id, fun _ => ⟨true, 0⟩, 0, rfl⟩ hr⟩

/-- User 1 is silent for 31 seconds, and the check shuts the connection down. -/
theorem entry_of_silent : ¬∀ (P : JsonParser) (s : Sys), (atomicSystem P).Reach s →
    EntriesOpen s := by
  intro hall
  have h : ((atomicSystem twoLoginsParser).runs (oneLogin ++ [.tick 31, .whole 0 .check])
      Sys.initial).map (fun s : Sys =>
        ((s.world.servers 0).userConnMap.lookup 1, (s.world.servers 0).conns 1)) =
      some (some 1, .disconnecting) := by
    decide +kernel
  obtain ⟨s, hs, hf⟩ := Option.map_eq_some_iff.mp h
  simp only [Prod.mk.injEq] at hf
  have hreach : (atomicSystem twoLoginsParser).Reach s :=
    Machine.Reach.runs (.init ⟨id, fun _ => ⟨true, 0⟩, 0, rfl⟩) hs
  have hopen := hall _ s hreach 0 1 1 hf.1
  rw [hf.2] at hopen
  cases hopen

end QtChat
