import QtChat.Client.Events
import QtChat.Server.System

/-!
# One server and its Qt clients

The chat server (server 0 of the running system), any number of Qt clients, and what is under way
between them. A connection has what its client has written and the server has not read (`up`), and
what the server has sent, of which the client has read a part (`unread`). Both directions keep their
order. Frames are their JSON objects here: how they are cut from the stream is the matter of
`Framing` and `ChatClient`.

- `NetLabel`, `Net.step`: the steps; `NetLabel.byUser` are those of the users, `NetLabel.fails`
  those in which the network fails.
- `Net.Steps`: the ways the network goes on.
- `Net.wired`: every client has a connection of its own.
-/

namespace QtChat

open Interleave

/-- Clients by number. -/
abbrev ClientId := Nat

structure Net where
  sys : Sys
  clients : ClientId → QtClient
  /-- The connection of a client's socket, also while it is connecting. -/
  link : ClientId → Option ConnId
  /-- The client that a connection was made for. -/
  owner : ConnId → ClientId
  /-- The number of connections that clients have called for. -/
  made : ConnId
  /-- The server has got the connection. -/
  accepted : ConnId → Bool
  /-- What was written on a connection, and not read by the server. -/
  up : ConnId → List Json
  /-- How many of the packets of a connection its client has read. -/
  read : ConnId → Nat

inductive NetLabel where
  /-- The server process starts or looks at its heartbeats, Redis pushes or fails, time passes. -/
  | server (l : Label)
  /-- The client's user, timers, kernel or event loop. -/
  | client (k : ClientId) (e : ClientEvent)
  /-- The server gets a connection. -/
  | accept (conn : ConnId)
  /-- The client gets its connection. -/
  | connected (k : ClientId)
  /-- The client reads a packet. -/
  | read (k : ClientId)
  /-- The client finds that the server has shut the connection down. -/
  | eof (k : ClientId)
  /-- The server reads a body. -/
  | deliver (conn : ConnId)
  /-- The server finds that the client has closed the connection. -/
  | hangUp (conn : ConnId)
  /-- The server loses the connection, and what is under way to it. -/
  | drop (conn : ConnId)

/-- What happens to the server without a client. -/
def Label.own : Label → Bool
  | .start 0 _ | .whole 0 .check | .whole 0 .redis | .tick _ | .publishLost 0 | .subscribeLost 0
  | .resubscribe 0 => true
  | _ => false

theorem Label.own_cases {l : Label} (h : l.own = true) : (∃ redis, l = .start 0 redis) ∨
    l = .whole 0 .check ∨ l = .whole 0 .redis ∨ (∃ seconds, l = .tick seconds) ∨
    l = .publishLost 0 ∨ l = .subscribeLost 0 ∨ l = .resubscribe 0 := by
  unfold Label.own at h
  split at h <;> simp_all

/-- What the socket hears from the server. -/
def ClientEvent.fromServer : ClientEvent → Bool
  | .connected | .remoteClosed | .readyRead .. => true
  | _ => false

namespace NetLabel

def byUser : NetLabel → Bool
  | client _ e => e.byUser
  | _ => false

/-- The network fails. -/
def fails : NetLabel → Bool
  | client _ .failed | client _ .broke | client _ .breaks | drop _ => true
  | _ => false

end NetLabel

namespace Net

/-- The chat server. -/
def server (n : Net) : Server := n.sys.world.servers 0

/-- The packets that Muduo took for the connection. -/
def packets (n : Net) (conn : ConnId) : List Json :=
  (n.server.outbox.filter fun d => d.conn = conn ∧ d.accepted).map (·.js)

/-- Those that the client has not read. -/
def unread (n : Net) (conn : ConnId) : List Json := (n.packets conn).drop (n.read conn)

/-- What the client has written since. -/
def news (c c' : QtClient) : List Json :=
  (c'.m_socket.written.drop c.m_socket.written.length).map (·.2)

/-- The connection that the client uses after a step: a new one if the socket has called for it. -/
def linkOf (n : Net) (k : ClientId) (c' : QtClient) : Option ConnId :=
  if c'.m_socket.attempts = (n.clients k).m_socket.attempts then n.link k else some n.made

/-- Client `k` goes on to `c'`. What it writes goes to its connection, which it has until its socket
is unconnected. -/
def move (n : Net) (k : ClientId) (c' : QtClient) : Net where
  sys := n.sys
  clients := Function.update n.clients k c'
  link := Function.update n.link k (if c'.m_socket.state = .unconnected then none else n.linkOf k c')
  owner := if n.linkOf k c' = some n.made then Function.update n.owner n.made k else n.owner
  made := if n.linkOf k c' = some n.made then n.made + 1 else n.made
  accepted := n.accepted
  up := match n.linkOf k c' with
    | none => n.up
    | some conn => Function.update n.up conn (n.up conn ++ news (n.clients k) c')
  read := n.read

/-- Client `k` reads a packet. Over 1 MiB its length is bad. -/
def reading (js : Json) : ClientEvent :=
  if js.dump.length ≤ 1024 * 1024 then .readyRead [js] false else .readyRead [] true

/-- What the client's socket hears. -/
def hear (fromJson : Str → Option Json) (n : Net) (k : ClientId) (e : ClientEvent) : Option Net :=
  ((n.clients k).step fromJson e).map (n.move k)

def step (P : JsonParser) (fromJson : Str → Option Json) : NetLabel → Net → Option Net
  | .server l, n => if l.own then (Sys.step P l n.sys).map fun sys => { n with sys } else none
  | .client k e, n => if e.fromServer then none else n.hear fromJson k e
  | .accept conn, n =>
    if conn < n.made ∧ n.accepted conn = false then
      (Sys.step P (.connect 0 conn) n.sys).map fun sys =>
        { n with sys, accepted := Function.update n.accepted conn true }
    else none
  | .connected k, n => (n.link k).bind fun conn =>
      if n.accepted conn then n.hear fromJson k .connected else none
  | .read k, n => (n.link k).bind fun conn => (n.unread conn).head?.bind fun js =>
      (n.hear fromJson k (reading js)).map fun n' =>
        { n' with read := Function.update n.read conn (n.read conn + 1) }
  | .eof k, n => (n.link k).bind fun conn =>
      if n.unread conn = [] ∧ n.server.conns conn = .disconnecting then
        n.hear fromJson k .remoteClosed
      else none
  | .deliver conn, n => (n.up conn).head?.bind fun js =>
      (Sys.step P (.whole 0 (.frame conn js.dump)) n.sys).map fun sys =>
        { n with sys, up := Function.update n.up conn (n.up conn).tail }
  | .hangUp conn, n =>
    if n.link (n.owner conn) ≠ some conn ∧ n.up conn = [] then
      (Sys.step P (.whole 0 (.close conn)) n.sys).map fun sys => { n with sys }
    else none
  | .drop conn, n =>
    (Sys.step P (.whole 0 (.close conn)) n.sys).map fun sys =>
      { n with sys, up := Function.update n.up conn [] }

end Net

/-- The network as a machine. -/
def netMachine (P : JsonParser) (fromJson : Str → Option Json) : Machine where
  State := Net
  Label := NetLabel
  init n := (system P).init n.sys ∧ (∀ k, ∃ now ip port, n.clients k = .start now ip port) ∧
    (∀ k, n.link k = none) ∧ n.made = 0 ∧ (∀ conn, n.accepted conn = false) ∧
    (∀ conn, n.up conn = []) ∧ ∀ conn, n.read conn = 0
  step := Net.step P fromJson

/-- The first state, when MySQL works. -/
def Net.initial : Net where
  sys := Sys.initial
  clients _ := .start 0 (txt "::1") 6000
  link _ := none
  owner _ := 0
  made := 0
  accepted _ := false
  up _ := []
  read _ := 0

theorem Net.initial_init (P : JsonParser) (fromJson : Str → Option Json) :
    (netMachine P fromJson).init Net.initial :=
  ⟨⟨id, fun _ => ⟨true, 0⟩, 0, rfl⟩, fun _ => ⟨_, _, _, rfl⟩, fun _ => rfl, rfl, fun _ => rfl,
    fun _ => rfl, fun _ => rfl⟩

/-! ## What a step can do -/

/-- The ways the network goes on. -/
inductive Net.Steps (P : JsonParser) (fromJson : Str → Option Json) (n : Net) :
    NetLabel → Net → Prop
  | server {l : Label} {sys : Sys} : l.own = true → Sys.step P l n.sys = some sys →
      Steps P fromJson n (.server l) { n with sys }
  | client {k : ClientId} {e : ClientEvent} {c : QtClient} : e.fromServer = false →
      (n.clients k).step fromJson e = some c → Steps P fromJson n (.client k e) (n.move k c)
  | accept {conn : ConnId} {sys : Sys} : conn < n.made → n.accepted conn = false →
      Sys.step P (.connect 0 conn) n.sys = some sys →
      Steps P fromJson n (.accept conn)
        { n with sys, accepted := Function.update n.accepted conn true }
  | connected {k : ClientId} {conn : ConnId} {c : QtClient} : n.link k = some conn →
      n.accepted conn = true → (n.clients k).step fromJson .connected = some c →
      Steps P fromJson n (.connected k) (n.move k c)
  | read {k : ClientId} {conn : ConnId} {js : Json} {rest : List Json} {c : QtClient} :
      n.link k = some conn → n.unread conn = js :: rest →
      (n.clients k).step fromJson (Net.reading js) = some c → Steps P fromJson n (.read k)
        { n.move k c with read := Function.update n.read conn (n.read conn + 1) }
  | eof {k : ClientId} {conn : ConnId} {c : QtClient} : n.link k = some conn →
      n.unread conn = [] → n.server.conns conn = .disconnecting →
      (n.clients k).step fromJson .remoteClosed = some c → Steps P fromJson n (.eof k) (n.move k c)
  | deliver {conn : ConnId} {js : Json} {rest : List Json} {sys : Sys} : n.up conn = js :: rest →
      Sys.step P (.whole 0 (.frame conn js.dump)) n.sys = some sys →
      Steps P fromJson n (.deliver conn) { n with sys, up := Function.update n.up conn rest }
  | hangUp {conn : ConnId} {sys : Sys} : n.link (n.owner conn) ≠ some conn → n.up conn = [] →
      Sys.step P (.whole 0 (.close conn)) n.sys = some sys →
      Steps P fromJson n (.hangUp conn) { n with sys }
  | drop {conn : ConnId} {sys : Sys} : Sys.step P (.whole 0 (.close conn)) n.sys = some sys →
      Steps P fromJson n (.drop conn) { n with sys, up := Function.update n.up conn [] }

theorem Net.steps {P : JsonParser} {fromJson : Str → Option Json} {l : NetLabel} {n n' : Net}
    (h : n.step P fromJson l = some n') : n.Steps P fromJson l n' := by
  cases l with
  | server l =>
    obtain ⟨hl, h⟩ := Option.ite_none_right_eq_some.mp h
    obtain ⟨sys, hs, rfl⟩ := Option.map_eq_some_iff.mp h
    exact .server hl hs
  | client k e =>
    obtain ⟨he, h⟩ := Option.ite_none_left_eq_some.mp h
    obtain ⟨c, hc, rfl⟩ := Option.map_eq_some_iff.mp h
    exact .client (by simpa using he) hc
  | accept conn =>
    obtain ⟨⟨hm, ha⟩, h⟩ := Option.ite_none_right_eq_some.mp h
    obtain ⟨sys, hs, rfl⟩ := Option.map_eq_some_iff.mp h
    exact .accept hm ha hs
  | connected k =>
    obtain ⟨conn, hl, h⟩ := Option.bind_eq_some_iff.mp h
    obtain ⟨ha, h⟩ := Option.ite_none_right_eq_some.mp h
    obtain ⟨c, hc, rfl⟩ := Option.map_eq_some_iff.mp h
    exact .connected hl ha hc
  | read k =>
    obtain ⟨conn, hl, h⟩ := Option.bind_eq_some_iff.mp h
    obtain ⟨js, hj, h⟩ := Option.bind_eq_some_iff.mp h
    obtain ⟨_, hm, rfl⟩ := Option.map_eq_some_iff.mp h
    obtain ⟨c, hc, rfl⟩ := Option.map_eq_some_iff.mp hm
    exact .read hl (List.cons_head?_tail hj).symm hc
  | eof k =>
    obtain ⟨conn, hl, h⟩ := Option.bind_eq_some_iff.mp h
    obtain ⟨⟨hu, hd⟩, h⟩ := Option.ite_none_right_eq_some.mp h
    obtain ⟨c, hc, rfl⟩ := Option.map_eq_some_iff.mp h
    exact .eof hl hu hd hc
  | deliver conn =>
    obtain ⟨js, hj, h⟩ := Option.bind_eq_some_iff.mp h
    obtain ⟨sys, hs, rfl⟩ := Option.map_eq_some_iff.mp h
    exact .deliver (List.cons_head?_tail hj).symm hs
  | hangUp conn =>
    obtain ⟨⟨hl, hu⟩, h⟩ := Option.ite_none_right_eq_some.mp h
    obtain ⟨sys, hs, rfl⟩ := Option.map_eq_some_iff.mp h
    exact .hangUp hl hu hs
  | drop conn =>
    obtain ⟨sys, hs, rfl⟩ := Option.map_eq_some_iff.mp h
    exact .drop hs

/-! ## The server and the clients in a step -/

/-- What the step is for the running system, if anything. -/
def Net.sysLabel (n : Net) : NetLabel → Option Label
  | .server l => some l
  | .accept conn => some (.connect 0 conn)
  | .deliver conn => (n.up conn).head?.map fun js => .whole 0 (.frame conn js.dump)
  | .hangUp conn | .drop conn => some (.whole 0 (.close conn))
  | _ => none

theorem Net.move_clients (n : Net) (k : ClientId) (c' : QtClient) :
    (n.move k c').clients = Function.update n.clients k c' := rfl

section Step

variable {P : JsonParser} {fromJson : Str → Option Json} {l : NetLabel} {n n' : Net}

/-- The server takes the step, or is left alone. -/
theorem Net.step_sys (h : n.step P fromJson l = some n') :
    (∃ ls, n.sysLabel l = some ls ∧ Sys.step P ls n.sys = some n'.sys) ∨ n'.sys = n.sys := by
  cases Net.steps h with
  | server _ hs => exact .inl ⟨_, rfl, hs⟩
  | accept _ _ hs => exact .inl ⟨_, rfl, hs⟩
  | deliver hu hs =>
    refine .inl ⟨_, ?_, hs⟩
    rw [Net.sysLabel, hu]
    rfl
  | hangUp _ _ hs => exact .inl ⟨_, rfl, hs⟩
  | drop hs => exact .inl ⟨_, rfl, hs⟩
  | _ => exact .inr rfl

/-- A client takes the step, or is left alone. -/
theorem Net.step_client (h : n.step P fromJson l = some n') (k : ClientId) :
    (∃ e, (l.byUser = false → e.byUser = false) ∧
      (n.clients k).step fromJson e = some (n'.clients k)) ∨ n'.clients k = n.clients k := by
  have hmove : ∀ {j e c}, (l.byUser = false → e.byUser = false) →
      (n.clients j).step fromJson e = some c →
      (∃ e, (l.byUser = false → e.byUser = false) ∧
        (n.clients k).step fromJson e = some ((n.move j c).clients k)) ∨
      (n.move j c).clients k = n.clients k := by
    intro j e c he hc
    by_cases hk : k = j
    · subst hk
      refine .inl ⟨e, he, ?_⟩
      rw [hc, Net.move_clients, Function.update_self]
    · right
      rw [Net.move_clients, Function.update_of_ne hk]
  cases Net.steps h with
  | client _ hc => exact hmove id hc
  | connected _ _ hc => exact hmove (fun _ => rfl) hc
  | read _ _ hc =>
    refine hmove (fun _ => ?_) hc
    unfold Net.reading
    split <;> rfl
  | eof _ _ _ hc => exact hmove (fun _ => rfl) hc
  | _ => exact .inr rfl

theorem Net.reach_sys (h : (netMachine P fromJson).Reach n) : (system P).Reach n.sys := by
  refine h.inv (M := netMachine P fromJson) (I := fun n : Net => (system P).Reach n.sys)
    (fun n hn => .init hn.1) fun l n n' hn hs => ?_
  rcases Net.step_sys hs with ⟨ls, -, hsys⟩ | hsys
  · exact Machine.Reach.step ls hn hsys
  · rw [hsys]
    exact hn

end Step

/-! ## The connections of the clients -/

/-- Every client has its own connection, and of those that were not called for nothing is known. -/
structure Net.Wired (n : Net) : Prop where
  link : ∀ k conn, n.link k = some conn → conn < n.made ∧ n.owner conn = k
  up : ∀ conn, n.made ≤ conn → n.up conn = []
  read : ∀ conn, n.made ≤ conn → n.read conn = 0

section Wired

variable {P : JsonParser} {fromJson : Str → Option Json} {n n' : Net}

/-- The connection of a client that went on is a new one, or the one that it or another had. -/
theorem Net.link_move {k j : ClientId} {c : QtClient} {conn : ConnId}
    (hl : (n.move k c).link j = some conn) :
    (j = k ∧ conn = n.made ∧ n.linkOf k c = some n.made) ∨
      n.link j = some conn ∧ (j = k → c.m_socket.state ≠ .unconnected) := by
  change Function.update n.link k _ j = some conn at hl
  by_cases e : j = k
  · subst e
    rw [Function.update_self] at hl
    split at hl
    · cases hl
    · rename_i hstate
      unfold Net.linkOf at hl ⊢
      split at hl
      · exact .inr ⟨hl, fun _ => hstate⟩
      · cases hl
        rename_i hne
        exact .inl ⟨rfl, rfl, if_neg hne⟩
  · rw [Function.update_of_ne e] at hl
    exact .inr ⟨hl, fun h => absurd h e⟩

theorem Net.made_move (n : Net) (k : ClientId) (c : QtClient) : n.made ≤ (n.move k c).made := by
  unfold Net.move
  dsimp only
  split
  · exact Nat.le_succ _
  · exact Nat.le_refl _

theorem Net.up_move (n : Net) (k : ClientId) (c : QtClient) (conn : ConnId) :
    (n.move k c).up conn = if n.linkOf k c = some conn then
      n.up conn ++ Net.news (n.clients k) c else n.up conn := by
  unfold Net.move
  dsimp only
  cases n.linkOf k c with
  | none => rfl
  | some conn' =>
    dsimp only
    by_cases e : conn' = conn
    · subst e
      rw [Function.update_self, if_pos rfl]
    · rw [Function.update_of_ne fun h => e h.symm, if_neg fun h => e (Option.some.inj h)]

theorem Net.Wired.linkOf_lt (h : n.Wired) {k : ClientId} {c : QtClient} {conn : ConnId}
    (hl : n.linkOf k c = some conn) : conn < (n.move k c).made := by
  unfold Net.move
  dsimp only
  split
  · rename_i hnew
    rw [hnew] at hl
    cases hl
    exact Nat.lt_succ_self _
  · rename_i hold
    unfold Net.linkOf at hl hold
    split at hl
    · exact (h.link k conn hl).1
    · rename_i hne
      rw [if_neg hne] at hold
      exact absurd rfl hold

/-- A client goes on, having read so much on its connection. -/
theorem Net.Wired.move (h : n.Wired) {k : ClientId} {c : QtClient} {read : ConnId → Nat}
    (hread : ∀ conn, n.link k ≠ some conn → read conn = n.read conn) :
    Net.Wired { n.move k c with read } := by
  have hmade := n.made_move k c
  refine ⟨fun j conn hl => ?_, fun conn hc => ?_, fun conn hc => ?_⟩
  · change conn < (n.move k c).made ∧ (n.move k c).owner conn = j
    rcases Net.link_move hl with ⟨rfl, rfl, he⟩ | ⟨hl, -⟩
    · unfold Net.move
      simp [he]
    · obtain ⟨hlt, howner⟩ := h.link j conn hl
      refine ⟨Nat.lt_of_lt_of_le hlt hmade, ?_⟩
      unfold Net.move
      dsimp only
      split
      · rw [Function.update_of_ne (Nat.ne_of_lt hlt)]
        exact howner
      · exact howner
  · have hup := n.up_move k c conn
    have hne : n.linkOf k c ≠ some conn := fun hl =>
      absurd (h.linkOf_lt hl) (Nat.not_lt.mpr hc)
    rw [if_neg hne] at hup
    exact hup.trans (h.up conn (Nat.le_trans hmade hc))
  · have hlt : ∀ conn', n.link k = some conn' → conn' ≠ conn := by
      rintro conn' hl rfl
      exact absurd (h.link k _ hl).1 (Nat.not_lt.mpr (Nat.le_trans hmade hc))
    exact (hread conn fun hl => hlt conn hl rfl).trans (h.read conn (Nat.le_trans hmade hc))

theorem wired_step {l : NetLabel} (h : n.Wired) (hs : n.step P fromJson l = some n') :
    n'.Wired := by
  -- what was written on a connection is read, or lost
  have hup : ∀ {up : ConnId → List Json} {sys accepted} (conn : ConnId) (more : List Json),
      up = Function.update n.up conn more → (n.made ≤ conn → more = []) →
      Net.Wired { n with sys, accepted, up } := by
    rintro up sys accepted conn more rfl hnil
    refine ⟨h.link, fun conn' hc => ?_, h.read⟩
    change Function.update n.up conn more conn' = []
    by_cases e : conn' = conn
    · subst e
      rw [Function.update_self]
      exact hnil hc
    · rw [Function.update_of_ne e]
      exact h.up conn' hc
  cases Net.steps hs with
  | server => exact ⟨h.link, h.up, h.read⟩
  | client => exact h.move fun _ _ => rfl
  | accept => exact ⟨h.link, h.up, h.read⟩
  | connected => exact h.move fun _ _ => rfl
  | read hl => exact h.move fun conn hne => Function.update_of_ne (by rintro rfl; exact hne hl) _ _
  | eof => exact h.move fun _ _ => rfl
  | @deliver conn js rest sys hu =>
    refine hup conn rest rfl fun hc => ?_
    rw [h.up conn hc] at hu
    cases hu
  | hangUp => exact ⟨h.link, h.up, h.read⟩
  | @drop conn => exact hup conn [] rfl fun _ => rfl

theorem Net.wired (h : (netMachine P fromJson).Reach n) : n.Wired := by
  refine h.inv (M := netMachine P fromJson) (I := Net.Wired) ?_ fun l n n' hn hs => wired_step hn hs
  rintro n ⟨-, -, hlink, -, -, hup, hread⟩
  refine ⟨fun k conn hl => ?_, fun conn _ => hup conn, fun conn _ => hread conn⟩
  rw [hlink] at hl
  cases hl

end Wired

end QtChat
