import QtChat.Properties.SessionFrame
import QtChat.Server.Sessions

/-!
# A session and the other connections

A second login kicks the first connection, whose close comes later and runs the same clean-up as any
other close, with the id -1 when no entry is left for it.

- `elsewhere_keeps_session`: one event on another connection leaves the session alone.
- `kick_isolated`: so does every sequence of them.
-/

namespace QtChat

open Interleave ChatService

/-- The body is a login or a logout that names `u`. -/
def NamesUser (P : JsonParser) (u : Int) (body : Str) : Prop :=
  ∃ js, P.parse body = some js ∧ (js.intAt "msgid" = .ok 1 ∨ js.intAt "msgid" = .ok 3) ∧
    js.intAt "id" = .ok u

/-- What happens on server `i` and not on connection `c`: connections come and go, they send
anything but logins and logouts of `u`, Redis pushes messages, and the heartbeats are checked. -/
def Label.Elsewhere (P : JsonParser) (i : ServerId) (u : Int) (c : ConnId) : Label → Prop
  | .connect j conn => j = i ∧ conn ≠ c
  | .whole j (.frame conn body) => j = i ∧ conn ≠ c ∧ ¬NamesUser P u body
  | .whole j (.close conn) => j = i ∧ conn ≠ c
  | .whole j .redis => j = i
  | .whole j .check => j = i
  | .tick _ => True
  | _ => False

section Step

variable {P : JsonParser} {i : ServerId} {u : Int} {c : ConnId} {w w' : World}

theorem sameSession_modify {f : Server → Server}
    (hm : (f (w.servers i)).userConnMap.lookup u = (w.servers i).userConnMap.lookup u)
    (hl : (f (w.servers i)).live = (w.servers i).live)
    (hc : (f (w.servers i)).subscribedChannels = (w.servers i).subscribedChannels) :
    SameSession u w (w.modify i f) where
  entry j := World.modify_field (·.userConnMap.lookup u) hm j
  live j := by rw [World.modify_field (·.live) hl j]
  channel j := by rw [World.modify_field (·.subscribedChannels) hc j]
  state _ := id

/-- The close of a connection takes an entry with this connection. -/
theorem close_keeps_session {conn : ConnId} (hu : u ≠ -1)
    (hc : (w.servers i).userConnMap.lookup u ≠ some conn)
    (hr : (clientCloseException conn).run i w = some ((), w')) : SameSession u w w' := by
  obtain ⟨r, w₁, he, hr⟩ := close_runs i w hr
  rw [World.exec] at he
  cases hf : (w.servers i).firstOf conn (w.fates 0).pick with
  | none =>
    rw [hf] at he
    cases he
    -- nobody had the connection: the clean-up is for the id -1
    have hrest : SameSession u w.next w' :=
      run_session ((clientClosed_all conn {}).mono fun _ => not_touches_of_logout fun e => hu e.symm) hr
    exact ⟨hrest.entry, hrest.live, hrest.channel, hrest.state⟩
  | some id =>
    rw [hf] at he
    cases he
    have hid : id ≠ u := by
      rintro rfl
      exact hc (Server.lookup_of_firstOf hf)
    have herase : SameSession u w.next (w.next.modify i fun s =>
        { s with userConnMap := s.userConnMap.erase id }) :=
      sameSession_modify (AList.lookup_erase_ne fun e => hid e.symm) rfl rfl
    have hrest := herase.trans
      (run_session ((clientClosed_all conn { id }).mono fun _ => not_touches_of_logout hid) hr)
    exact ⟨hrest.entry, hrest.live, hrest.channel, hrest.state⟩

/-- A body that names another user, or none. -/
theorem unnamed_keeps_session {w w' : World} {body : Str} {j : ServerId} {conn : ConnId}
    (hn : ¬NamesUser P u body) (hr : (handleMsg P conn body).run j w = some ((), w')) :
    SameSession u w w' := by
  refine body_keeps_session (fun js _ hp hm hi _ _ => absurd ⟨js, hp, .inl hm, hi⟩ hn) ?_ hr
  rintro ⟨js, hp, hm, hi⟩
  exact hn ⟨js, hp, .inr hm, hi⟩

/-- **One event on another connection.** -/
theorem elsewhere_keeps_session {l : Label} {s s' : Sys} (hs : (system P).Reach s)
    (hknown : s.world.known u) (hmap : (s.world.servers i).userConnMap.lookup u = some c)
    (hl : l.Elsewhere P i u c) (h : Sys.step P l s = some s') :
    SameSession u s.world s'.world := by
  obtain ⟨row, hrow⟩ := Option.isSome_iff_exists.mp hknown
  have hu : u ≠ -1 := by have := ((reach_wf hs).user_find hrow).1; omega
  cases Sys.steps h with
  | connect =>
    dsimp only
    exact sameSession_modify rfl rfl rfl
  | @whole j job p w w' hb hr =>
    cases hb with
    | frame =>
      obtain ⟨rfl, -, hn⟩ := hl
      exact unnamed_keeps_session hn hr
    | @close conn =>
      obtain ⟨hj, hne⟩ := hl
      have hbegin : SameSession u s.world (s.world.modify j fun s =>
          { s with conns := Function.update s.conns conn .disconnected }) :=
        sameSession_modify rfl rfl rfl
      refine hbegin.trans (close_keeps_session hu ?_ hr)
      rw [hj, World.modify_self, hmap]
      exact fun e => hne (Option.some.inj e).symm
    | @redis ch message inbox =>
      have hbegin : SameSession u s.world (s.world.modify j fun s => { s with inbox }) :=
        sameSession_modify rfl rfl rfl
      exact hbegin.trans (run_session
        ((handleRedisSubscribeMessage_all P ch message).mono fun _ => not_touches_of_chat u) hr)
    | check =>
      refine run_session (Prog.All.bind (p := staleConns) ⟨id, fun _ => trivial⟩ fun toClose => ?_) hr
      exact Prog.All.each fun conn _ => ⟨id, fun _ => trivial⟩
  | tick => exact ⟨fun _ => rfl, fun _ => rfl, fun _ => rfl, fun _ => id⟩
  | _ => exact hl.elim

end Step

/-- A user whose state is the same has a row. -/
theorem SameSession.known {u : Int} {w w' : World} (h : SameSession u w w') (hk : w.known u) :
    w'.known u := by
  obtain ⟨row, hrow⟩ := Option.isSome_iff_exists.mp hk
  have hstate := h.state row.state (by rw [Database.stateOf, hrow]; rfl)
  obtain ⟨row', hrow', -⟩ := Option.map_eq_some_iff.mp hstate
  rw [World.known, hrow']
  rfl

/-- **The session of a user** with a row and connection `c`, in every reachable state: whatever
happens on other connections, the entry stays, and so do the state in the row and the
subscription. -/
theorem kick_isolated {P : JsonParser} {s s' : Sys} (hs : (system P).Reach s) {i : ServerId}
    {u : Int} {c : ConnId} (hknown : s.world.known u)
    (hmap : (s.world.servers i).userConnMap.lookup u = some c) {ls : List Label}
    (hls : ∀ l ∈ ls, l.Elsewhere P i u c) (hr : (system P).runs ls s = some s') :
    (s'.world.servers i).userConnMap.lookup u = some c ∧
      s'.world.db.stateOf u = s.world.db.stateOf u ∧
      (s'.world.servers i).live u = (s.world.servers i).live u ∧
      (s'.world.servers i).subscribedChannels u = (s.world.servers i).subscribedChannels u := by
  have hsame : SameSession u s.world s'.world := by
    induction ls generalizing s with
    | nil => cases hr; exact .refl u _
    | cons l ls ih =>
      obtain ⟨s₁, h₁, hr⟩ := Option.bind_eq_some_iff.mp hr
      have hstep := elsewhere_keeps_session hs hknown hmap (hls l (by simp)) h₁
      exact hstep.trans (ih (hs.step l h₁) (hstep.known hknown) ((hstep.entry i).trans hmap)
        (fun l' hl' => hls l' (by simp [hl'])) hr)
  obtain ⟨row, hrow⟩ := Option.isSome_iff_exists.mp hknown
  have hstate : s.world.db.stateOf u = some row.state := by rw [Database.stateOf, hrow]; rfl
  exact ⟨(hsame.entry i).trans hmap, (hsame.state _ hstate).trans hstate.symm, hsame.live i,
    hsame.channel i⟩

/-- User 1 logs in on connection 1, then on connection 2; connection 1 goes down. -/
theorem kick_isolated_close : ∃ s s', (system sessionParser).Reach s ∧
    (s.world.servers 0).userConnMap.lookup 1 = some 2 ∧ s.world.db.stateOf 1 = some .online ∧
    (system sessionParser).runs [.whole 0 (.close 1), .tick 31, .whole 0 .check] s = some s' ∧
    (s'.world.servers 0).userConnMap.lookup 1 = some 2 ∧ s'.world.db.stateOf 1 = some .online := by
  have h : ((system sessionParser).runs (sessionLabels ++
      [.whole 0 (.frame 2 (ChatClient.login 1 (txt "pw")).dump)]) Sys.initial).map
      (fun s : Sys => ((s.world.servers 0).userConnMap.lookup 1, s.world.db.stateOf 1,
        ((system sessionParser).runs [.whole 0 (.close 1), .tick 31, .whole 0 .check] s).isSome)) =
      some (some 2, some .online, true) := by decide +kernel
  obtain ⟨s, hs, hf⟩ := Option.map_eq_some_iff.mp h
  simp only [Prod.mk.injEq] at hf
  obtain ⟨hl, ho, hrun⟩ := hf
  obtain ⟨s', hr⟩ := Option.isSome_iff_exists.mp hrun
  have hls : ∀ l ∈ [Label.whole 0 (.close 1), .tick 31, .whole 0 .check],
      l.Elsewhere sessionParser 0 1 2 := by
    intro l hl
    simp only [List.mem_cons, List.not_mem_nil, or_false] at hl
    rcases hl with rfl | rfl | rfl
    · exact ⟨rfl, by decide⟩
    · trivial
    · rfl
  obtain ⟨h₁, h₂, -⟩ :=
    kick_isolated (reach_of_runs hs) (World.known_of_online ho) hl hls hr
  exact ⟨s, s', reach_of_runs hs, hl, ho, hr, h₁, h₂.trans ho⟩

end QtChat
