import QtChat.Client.Heartbeat
import QtChat.Server.System

/-!
# Heartbeats between client and server

The client stays silent at a tick if it has sent or received something in the last 15 s; the server
counts only what it receives. A client that only listens is silent at every tick.

- `Link`: a client that is logged in on a connection of a server, and the servers. What is sent
  arrives at once, and a heartbeat is answered at once. The server's clock may be ahead by any
  number of ms or behind.
- `KeptAlive`: a `checkHeartbeat` that runs now does not select the connection.
- `Heard`: at a tick at which the client stays silent, the server has heard from it in the last 15
  s.
- `kept_alive_exactly`: runs whose ticks are of `Heard` keep the connection; after any other tick 15
  s of silence lose it. `kept_alive_of_no_reads`: frames from the server are what the silence comes
  from.
-/

namespace QtChat

open Interleave HeartbeatClient ChatService

structure Link where
  client : HeartbeatClient
  world : World

inductive LinkLabel where
  | elapse (ms : Nat)
  /-- The user does something that is sent. -/
  | send
  /-- A read that completes these messages. -/
  | read (msgs : List Json)
  /-- `m_heartbeatTimer` is due. -/
  | tick
  /-- What else the servers do. -/
  | serve (j : ServerId) (a : Act)

/-- The server, the connection of the client, and how far the server's clock is ahead, in ms. -/
structure LinkParams where
  server : ServerId
  conn : ConnId
  skew : Int

namespace Link

variable (p : LinkParams)

/-- `time(NULL)` on the server. -/
def serverTime (clock : Nat) : Int := (clock + p.skew) / 1000

/-- A frame of the client: `onMessage` notes the time. What its handler does then are other actions
of the server. -/
def arrive (w : World) : Option World := (World.exec p.server (.updateConnTime p.conn) w).map (·.2)

/-- A heartbeat at the server: `onMessage` and the handler, which answers. -/
def answer (w : World) : Option World :=
  ((updateConnTime p.conn >>= fun _ => heartbeatOf p.conn).run p.server w).map (·.2)

/-- The answer to a heartbeat. -/
def pong : Json := .object [EnMsgType.heartbeatMsg.field]

/-- The action is about the time of the client's connection. -/
def touches (j : ServerId) : Act → Bool
  | .updateConnTime conn => j = p.server && conn = p.conn
  | .eraseLastTime conn => j = p.server && conn = p.conn
  | _ => false

/-- `ms` later. -/
def later (s : Link) (ms : Nat) : Link :=
  ⟨{ s.client with clock := s.client.clock + ms },
    { s.world with now := serverTime p (s.client.clock + ms) }⟩

def step : LinkLabel → Link → Option Link
  | .elapse ms, s => if s.client.mayElapse ms then some (s.later p ms) else none
  | .send, s => (arrive p s.world).map fun world => ⟨s.client.sendJson, world⟩
  | .read msgs, s =>
    if msgs.all (!isLoginAck ·) then some { s with client := s.client.onReadyRead msgs } else none
  | .tick, s => s.client.tick.bind fun client =>
    if s.client.sends then
      (answer p s.world).map fun world => ⟨client.onReadyRead [pong], world⟩
    else some { s with client }
  | .serve j a, s =>
    if touches p j a then none else (World.exec j a s.world).map fun r => { s with world := r.2 }

/-- The frame of the login arrives at the server, and its acknowledgement at the client. -/
def Started (s : Link) : Prop :=
  ∃ clock w, w.now = serverTime p clock ∧ arrive p w = some s.world ∧ s.client = .loggedIn clock

/-- The time in the entry of the connection. -/
def entry (s : Link) : Option Int := (s.world.servers p.server).connectionLastTime.lookup p.conn

end Link

/-- A logged in client and the servers. -/
def link (p : LinkParams) : Machine where
  State := Link
  Label := LinkLabel
  init := Link.Started p
  step := Link.step p

/-- A `checkHeartbeat` that runs now does not select the connection. -/
def KeptAlive (p : LinkParams) (s : Link) : Prop :=
  ∀ toClose w, World.exec p.server .staleConns s.world = some (toClose, w) → p.conn ∉ toClose

/-- When the client stays silent at a tick, its last frame is at most 15 s old. -/
def Heard (p : LinkParams) : LinkLabel → Link → Prop
  | .tick, s => s.client.sends = false → ∀ e, s.entry p = some e → s.world.now - e ≤ 15
  | _, _ => True

variable {p : LinkParams} {s s' : Link}

/-- The entry of the connection is at most 30 s old. -/
theorem keptAlive_iff : KeptAlive p s ↔ ∀ e, s.entry p = some e → s.world.now - e ≤ 30 := by
  have hmem : ∀ toClose w, World.exec p.server .staleConns s.world = some (toClose, w) →
      (p.conn ∈ toClose ↔ ∃ e, s.entry p = some e ∧ s.world.now - e > 30) := by
    intro toClose w h
    cases h
    simp only [List.mem_map, List.mem_filter, decide_eq_true_eq]
    constructor
    · rintro ⟨⟨c, e⟩, ⟨hm, hold⟩, rfl⟩
      exact ⟨e, AList.mem_lookup_iff.mpr hm, hold⟩
    · rintro ⟨e, he, hold⟩
      exact ⟨⟨p.conn, e⟩, ⟨AList.mem_lookup_iff.mp he, hold⟩, rfl⟩
  constructor
  · intro h e he
    by_contra hold
    exact h _ _ rfl ((hmem _ _ rfl).mpr ⟨e, he, by omega⟩)
  · intro h toClose w hw hc
    obtain ⟨e, he, hold⟩ := (hmem toClose w hw).mp hc
    have := h e he
    omega

/-! ## What the steps do on the server -/

/-- After a frame the entry has the time of now. -/
theorem entry_of_arrive (client : HeartbeatClient) {w w' : World} (h : Link.arrive p w = some w') :
    w'.now = w.now ∧ Link.entry p ⟨client, w'⟩ = some w.now := by
  cases h
  refine ⟨rfl, ?_⟩
  rw [Link.entry]
  simp only [World.modify_self]
  exact AList.lookup_insert _

theorem entry_of_answer (client : HeartbeatClient) {w w' : World} (h : Link.answer p w = some w') :
    w'.now = w.now ∧ Link.entry p ⟨client, w'⟩ = some w.now := by
  cases h
  refine ⟨rfl, ?_⟩
  rw [Link.entry]
  simp only [World.modify_self]
  exact AList.lookup_insert _

/-- The other actions keep the clock and the entry. -/
theorem entry_of_serve {j : ServerId} {a : Act} {r : a.Res} {w w' : World}
    (hn : Link.touches p j a = false) (h : World.exec j a w = some (r, w')) :
    w'.now = w.now ∧ (w'.servers p.server).connectionLastTime.lookup p.conn =
      (w.servers p.server).connectionLastTime.lookup p.conn := by
  refine ⟨exec_now h, ?_⟩
  have hother : ∀ f : Server → Server, j ≠ p.server →
      (w.modify j f).servers p.server = w.servers p.server := fun f hj => w.modify_ne (Ne.symm hj) f
  cases a with
  | updateConnTime conn =>
    cases h
    by_cases hj : j = p.server
    · have hc : p.conn ≠ conn := by
        intro e
        simp [Link.touches, hj, e] at hn
      rw [hj, World.modify_self]
      exact AList.lookup_insert_ne hc
    · rw [hother _ hj]
  | eraseLastTime conn =>
    cases h
    by_cases hj : j = p.server
    · have hc : p.conn ≠ conn := by
        intro e
        simp [Link.touches, hj, e] at hn
      rw [hj, World.modify_self]
      exact AList.lookup_erase_ne hc
    · rw [hother _ hj]
  | _ => rw [(exec_server h p.server).lastTime (by simp) (by simp)]

/-! ## The invariant -/

/-- The next tick comes before the entry is older than 30 s. -/
structure Fresh (p : LinkParams) (s : Link) : Prop where
  now : s.world.now = Link.serverTime p s.client.clock
  connected : s.client.connected = true
  watchdog : s.client.m_heartbeatTimeout = none
  timer : ∃ due, s.client.m_heartbeatTimer = some due ∧ s.client.clock ≤ due ∧
    due ≤ s.client.clock + 15000 ∧ ∃ e, s.entry p = some e ∧ Link.serverTime p due - e ≤ 30

theorem Fresh.keptAlive (h : Fresh p s) : KeptAlive p s := by
  obtain ⟨due, -, hle, -, e, he, hold⟩ := h.timer
  refine keptAlive_iff.mpr fun e' he' => ?_
  rw [he] at he'
  cases he'
  rw [h.now]
  unfold Link.serverTime at hold ⊢
  omega

/-- The entry is of now. -/
theorem Fresh.of_now (hnow : s.world.now = Link.serverTime p s.client.clock)
    (hc : s.client.connected = true) (hw : s.client.m_heartbeatTimeout = none) {due : Nat}
    (hdue : s.client.m_heartbeatTimer = some due) (h₁ : s.client.clock ≤ due)
    (h₂ : due ≤ s.client.clock + 15000) (he : s.entry p = some s.world.now) : Fresh p s := by
  refine ⟨hnow, hc, hw, due, hdue, h₁, h₂, _, he, ?_⟩
  rw [hnow]
  unfold Link.serverTime
  omega

theorem Fresh.started (h : s.Started p) : Fresh p s := by
  obtain ⟨clock, w, hnow, ha, hc⟩ := h
  obtain ⟨client, world⟩ := s
  cases hc
  obtain ⟨hn, he⟩ := entry_of_arrive (.loggedIn clock) ha
  exact .of_now (hn.trans hnow) rfl rfl rfl (Nat.le_add_right _ _) (Nat.le_refl _)
    (he.trans (congrArg some hn.symm))

/-- A tick at which the client sends a heartbeat. -/
theorem sent_eq {client : HeartbeatClient} (h : s.client.tick = some client) : client.onReadyRead [Link.pong] = { s.client with
      m_lastDataTime := s.client.time
      m_heartbeatTimer := some (s.client.clock + 15000)
      m_heartbeatTimeout := none } := by
  obtain ⟨-, rfl⟩ := tick_eq h
  rfl

/-- A tick at which it does not. -/
theorem silent_eq {client : HeartbeatClient} (h : s.client.tick = some client)
    (hs : s.client.sends = false) : client = { s.client with
      m_heartbeatTimer := some (s.client.clock + 15000) } := by
  obtain ⟨-, rfl⟩ := tick_eq h
  rw [hs]
  rfl

/-- **One step** of `Heard`. -/
theorem Fresh.step (l : LinkLabel) (h : Fresh p s) (hq : Heard p l s)
    (hl : Link.step p l s = some s') : Fresh p s' := by
  obtain ⟨due, hdue, h₁, h₂, e, he, hold⟩ := h.timer
  cases l with
  | elapse ms =>
    rw [Link.step] at hl
    split at hl
    · rename_i hm
      cases hl
      rw [HeartbeatClient.mayElapse, hdue] at hm
      simp only [Option.all_some, Bool.and_eq_true, decide_eq_true_eq] at hm
      have hlt : due ≤ s.client.clock + ms + 15000 := by omega
      exact ⟨rfl, h.connected, h.watchdog, due, hdue, hm.1, hlt, e, he, hold⟩
    · cases hl
  | send =>
    rw [Link.step] at hl
    obtain ⟨w, ha, rfl⟩ := Option.map_eq_some_iff.mp hl
    obtain ⟨hn, he'⟩ := entry_of_arrive s.client.sendJson ha
    exact .of_now (hn.trans h.now) h.connected h.watchdog hdue h₁ h₂
      (he'.trans (congrArg some hn.symm))
  | read msgs =>
    rw [Link.step] at hl
    split at hl
    · rename_i hno
      cases hl
      rcases onReadyRead_eq s.client hno with hr | hr
      · rw [hr]
        exact ⟨h.now, h.connected, h.watchdog, due, hdue, h₁, h₂, e, he, hold⟩
      · rw [hr]
        exact ⟨h.now, h.connected, rfl, due, hdue, h₁, h₂, e, he, hold⟩
    · cases hl
  | tick =>
    obtain ⟨client, ht, hl⟩ := Option.bind_eq_some_iff.mp hl
    have hnow : s.client.clock = due := by
      have := (tick_eq ht).1
      rw [hdue] at this
      exact (Option.some.inj this).symm
    cases hs : s.client.sends with
    | true =>
      rw [if_pos hs] at hl
      obtain ⟨w, ha, rfl⟩ := Option.map_eq_some_iff.mp hl
      obtain ⟨hn, he'⟩ := entry_of_answer (client.onReadyRead [Link.pong]) ha
      rw [sent_eq ht] at he' ⊢
      exact .of_now (hn.trans h.now) h.connected rfl rfl (Nat.le_add_right _ _) (Nat.le_refl _)
        (he'.trans (congrArg some hn.symm))
    | false =>
      rw [if_neg (by rw [hs]; decide)] at hl
      cases hl
      rw [silent_eq ht hs]
      have hrecent := hq hs e he
      refine ⟨h.now, h.connected, h.watchdog, _, rfl, Nat.le_add_right _ _, Nat.le_refl _, e, he, ?_⟩
      rw [h.now] at hrecent
      unfold Link.serverTime at hrecent ⊢
      omega
  | serve j a =>
    rw [Link.step] at hl
    split at hl
    · cases hl
    · rename_i hn
      obtain ⟨⟨r, w⟩, hx, rfl⟩ := Option.map_eq_some_iff.mp hl
      obtain ⟨hnow, hentry⟩ := entry_of_serve (by simpa using hn) hx
      exact ⟨hnow.trans h.now, h.connected, h.watchdog, due, hdue, h₁, h₂, e, hentry.trans he, hold⟩

theorem elapse_run {ms : Nat} (h : s.client.mayElapse ms = true) :
    (link p).runs [.elapse ms] s = some (s.later p ms) := by
  have hl : Link.step p (.elapse ms) s = some (s.later p ms) := by rw [Link.step, if_pos h]
  exact Machine.runs_step (M := link p) hl

/-- **A tick that is not of `Heard`**: 15 s of silence after it, a `checkHeartbeat` selects the
connection. -/
theorem lost_of_not_heard (h : Fresh p s) (hq : ¬Heard p .tick s)
    (hl : Link.step p .tick s = some s') :
    ∃ ls, ∃ s'' : Link, (link p).runs ls s' = some s'' ∧ ¬KeptAlive p s'' := by
  simp only [Heard, Classical.not_imp, not_forall] at hq
  obtain ⟨hs, e, he, hold⟩ := hq
  obtain ⟨client, ht, hl⟩ := Option.bind_eq_some_iff.mp hl
  rw [if_neg (by rw [hs]; decide)] at hl
  cases hl
  rw [silent_eq ht hs]
  let s₁ : Link :=
    ⟨{ s.client with m_heartbeatTimer := some (s.client.clock + 15000) }, s.world⟩
  have hm : s₁.client.mayElapse 15000 = true := by
    rw [HeartbeatClient.mayElapse, show s₁.client.m_heartbeatTimeout = none from h.watchdog]
    simp [s₁]
  have hrun : (link p).runs [.elapse 15000] s₁ = some (s₁.later p 15000) :=
    elapse_run hm
  refine ⟨_, _, hrun, fun hk => ?_⟩
  have hle : Link.serverTime p (s.client.clock + 15000) - e ≤ 30 := keptAlive_iff.mp hk e he
  rw [h.now] at hold
  unfold Link.serverTime at hle hold
  omega

/-- **Heartbeats and the server's check.** With no delay on the network, any skew of the clocks, and
any times of sends and of reads: in every run in which the client, when it stays silent at a tick,
was heard in the last 15 s, no `checkHeartbeat` selects its connection; after the first tick at
which it was not, 15 s of silence make one select it. -/
theorem kept_alive_exactly {p : LinkParams} {s : Link} (h : (link p).ReachBy (Heard p) s) :
    KeptAlive p s ∧ ∀ l s', Link.step p l s = some s' → ¬Heard p l s →
      ∃ ls, ∃ s'' : Link, (link p).runs ls s' = some s'' ∧ ¬KeptAlive p s'' := by
  have hstart : ∀ s : Link, s.Started p → Fresh p s := fun _ h => .started h
  have hkeep : ∀ l (s s' : Link), Fresh p s → Heard p l s → Link.step p l s = some s' →
      Fresh p s' := fun l _ _ ih hq hl => ih.step l hq hl
  have hf : Fresh p s := h.inv hstart hkeep
  refine ⟨hf.keptAlive, fun l s' hl hq => ?_⟩
  cases l with
  | tick => exact lost_of_not_heard hf hq hl
  | _ => exact absurd trivial hq

/-! ## A client that gets nothing -/

/-- The last data of the client is its own last frame. -/
def Echoed (p : LinkParams) (s : Link) : Prop :=
  ∃ t, t ≤ s.client.clock ∧ s.client.m_lastDataTime = t / 1000 ∧
    s.entry p = some (Link.serverTime p t)

/-- Then a client that stays silent was heard in the last 15 s. -/
theorem Echoed.heard (h : Echoed p s) (hf : Fresh p s) : Heard p .tick s := by
  obtain ⟨t, hle, hlast, hentry⟩ := h
  intro hs e he
  rw [hentry] at he
  cases he
  have hrecent : s.client.clock / 1000 - t / 1000 < 15 := by
    simpa [HeartbeatClient.sends, HeartbeatClient.time, hf.connected, hlast] using hs
  rw [hf.now]
  unfold Link.serverTime
  omega

theorem Echoed.step {l : LinkLabel} (h : Echoed p s) (hf : Fresh p s) (hn : ∀ msgs, l ≠ .read msgs)
    (hl : Link.step p l s = some s') : Echoed p s' := by
  obtain ⟨t, hle, hlast, hentry⟩ := h
  cases l with
  | elapse ms =>
    rw [Link.step] at hl
    split at hl
    · cases hl
      exact ⟨t, Nat.le_trans hle (Nat.le_add_right _ _), hlast, hentry⟩
    · cases hl
  | send =>
    rw [Link.step] at hl
    obtain ⟨w, ha, rfl⟩ := Option.map_eq_some_iff.mp hl
    obtain ⟨-, he⟩ := entry_of_arrive s.client.sendJson ha
    exact ⟨s.client.clock, Nat.le_refl _, rfl, he.trans (congrArg some hf.now)⟩
  | read msgs => exact absurd rfl (hn msgs)
  | tick =>
    obtain ⟨client, ht, hl⟩ := Option.bind_eq_some_iff.mp hl
    cases hs : s.client.sends with
    | true =>
      rw [if_pos hs] at hl
      obtain ⟨w, ha, rfl⟩ := Option.map_eq_some_iff.mp hl
      obtain ⟨-, he⟩ := entry_of_answer (client.onReadyRead [Link.pong]) ha
      rw [sent_eq ht] at he ⊢
      exact ⟨s.client.clock, Nat.le_refl _, rfl, he.trans (congrArg some hf.now)⟩
    | false =>
      rw [if_neg (by rw [hs]; decide)] at hl
      cases hl
      rw [silent_eq ht hs]
      exact ⟨t, hle, hlast, hentry⟩
  | serve j a =>
    rw [Link.step] at hl
    split at hl
    · cases hl
    · rename_i htouch
      obtain ⟨⟨r, w⟩, hx, rfl⟩ := Option.map_eq_some_iff.mp hl
      exact ⟨t, hle, hlast, (entry_of_serve (by simpa using htouch) hx).2.trans hentry⟩

/-- **Without frames from the server**, but the answers to its heartbeats, a client is never
selected: it is what it receives from others that keeps it silent for too long. -/
theorem kept_alive_of_no_reads
    (h : (link p).ReachBy (fun l _ => ∀ msgs : List Json, l ≠ LinkLabel.read msgs) s) :
    KeptAlive p s := by
  have hstart : ∀ s : Link, s.Started p → Fresh p s ∧ Echoed p s := by
    rintro s hs
    refine ⟨.started hs, ?_⟩
    obtain ⟨clock, w, hnow, ha, hc⟩ := hs
    obtain ⟨client, world⟩ := s
    cases hc
    obtain ⟨-, he⟩ := entry_of_arrive (.loggedIn clock) ha
    exact ⟨clock, Nat.le_refl _, rfl, he.trans (congrArg some hnow)⟩
  have hkeep : ∀ l (s s' : Link), Fresh p s ∧ Echoed p s → (∀ msgs, l ≠ .read msgs) →
      Link.step p l s = some s' → Fresh p s' ∧ Echoed p s' := by
    rintro l s s' ⟨hf, he⟩ hn hl
    have hq : Heard p l s := by
      cases l with
      | tick => exact he.heard hf
      | _ => trivial
    exact ⟨hf.step l hq hl, he.step hf hn hl⟩
  exact (h.inv hstart hkeep).1.keptAlive

/-! ## Two clients -/

/-- The parameters of the runs below: server 0, connection 7, equal clocks. -/
def linkParams : LinkParams := ⟨0, 7, 0⟩

/-- A login at 0 s. -/
def linkStart : Link :=
  ⟨.loggedIn 0, (World.created id (fun _ => ⟨true, 0⟩) 0).modify 0 fun s =>
    { s with connectionLastTime := s.connectionLastTime.insert 7 0 }⟩

theorem linkStart_started : linkStart.Started linkParams :=
  ⟨0, World.created id (fun _ => ⟨true, 0⟩) 0, rfl, rfl, rfl⟩

/-- An idle client sends a heartbeat at its first tick. -/
theorem kept_alive_idle : ∃ s : Link, s.client.m_heartbeatTimer = some 30000 ∧
    KeptAlive linkParams s := by
  have h₁ : (link linkParams).ReachBy (Heard linkParams) (linkStart.later linkParams 15000) :=
    .step (.elapse 15000) (.init linkStart_started) trivial rfl
  have htick : (Link.step linkParams .tick (linkStart.later linkParams 15000)).map
      (fun s => s.client.m_heartbeatTimer) = some (some 30000) := by
    decide
  obtain ⟨s, hs, hf⟩ := Option.map_eq_some_iff.mp htick
  have hq : Heard linkParams .tick (linkStart.later linkParams 15000) :=
    fun hs => absurd hs (by decide)
  exact ⟨s, hf, (kept_alive_exactly (.step .tick h₁ hq hs)).1⟩

/-- A client that only listens: messages at 10 and 25 s keep it silent at both ticks, and at 31 s it
is selected. -/
theorem kept_alive_listener : ¬ ∀ (p : LinkParams) (s : Link), (link p).Reach s → KeptAlive p s := by
  intro hall
  have h : ((link linkParams).runs [.elapse 10000, .read [.object [EnMsgType.oneChatMsg.field]],
      .elapse 5000, .tick, .elapse 10000, .read [.object [EnMsgType.oneChatMsg.field]],
      .elapse 5000, .tick, .elapse 1000] linkStart).map (fun s : Link =>
        (s.world.now, s.entry linkParams)) = some (31, some 0) := by
    decide
  obtain ⟨s, hs, hf⟩ := Option.map_eq_some_iff.mp h
  simp only [Prod.mk.injEq] at hf
  have hle := keptAlive_iff.mp (hall linkParams s (.runs (.init linkStart_started) hs)) 0 hf.2
  rw [hf.1] at hle
  omega

end QtChat
