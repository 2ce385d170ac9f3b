import QtChat.Client.Requests
import QtChat.Server.Sessions

/-!
# One session for a user on all servers

`login` looks for an older session in its own `_userConnMap` only, whatever the row says.

- `single_session_iff`: in a run of any number of servers no user ever has entries on two of them
  exactly if every accepted login is of a user whom no other server holds (`LogsInFree`).
- `two_sessions`: a login on a second server leaves the first entry.
-/

namespace QtChat

open Interleave Presence

/-- The servers with each handler executed from its first action to its last. -/
def atomicSystem (P : JsonParser) : Machine := (system P).restrict Label.atomic

/-- At most one server has an entry for a user. -/
def SingleSession (s : Sys) : Prop := Exclusive s.world.holds

/-- The step is no login of a user whom another server holds. -/
def LogsInFree (P : JsonParser) (l : Label) (s : Sys) : Prop :=
  (l.event P s.world).Free s.world.holds

/-- What a step makes of a state with single sessions. -/
theorem singleSession_step {P : JsonParser} {l : Label} {s s' : Sys} (hat : l.atomic = true)
    (hwf : s.world.db.Wf) (hidle : s.world.Idle) (hs : SingleSession s)
    (h : Sys.step P l s = some s') : SingleSession s' ↔ LogsInFree P l s := by
  have hdoes := (step_does hat hwf hidle h).holds
  refine Iff.trans ?_ (Event.exclusive_iff hs (l.event P s.world))
  constructor
  · intro h' i j u hi hj
    exact h' i j u ((hdoes i u).mpr hi) ((hdoes j u).mpr hj)
  · intro h' i j u hi hj
    exact h' i j u ((hdoes i u).mp hi) ((hdoes j u).mp hj)

/-- **Single sessions.** In a run from the empty tables, with any failures of MySQL and Redis, every
state has at most one entry for each user exactly if no step logs in a user whom another server
holds. -/
theorem single_session_iff {P : JsonParser} {ls : List Label} {s s' : Sys}
    (hs : (atomicSystem P).init s) (hr : (atomicSystem P).runs ls s = some s') :
    (∀ s₁, (atomicSystem P).Passes ls s s₁ → SingleSession s₁) ↔
      ∀ l s₁, (atomicSystem P).Takes ls s l s₁ → LogsInFree P l s₁ := by
  refine Machine.passes_iff_takes (M := atomicSystem P)
    (G := fun s : Sys => SingleSession s ∧ s.world.Idle ∧ s.world.db.Wf) (fun s hg => hg.1) ?_ ?_ hr
  · rintro l s s' ⟨hsingle, hidle, hwf⟩ hl
    obtain ⟨hat, hl⟩ := Machine.step_of_restrict hl
    have hiff := singleSession_step hat hwf hidle hsingle hl
    exact ⟨fun hq => ⟨hiff.mpr hq, step_idle hat hwf hidle hl, step_wf hwf hl⟩, hiff.mp⟩
  · obtain ⟨collate, fates, now, rfl⟩ := hs
    have hnone := not_holds_of_stopped (w := .created collate fates now) fun _ => rfl
    exact ⟨fun i _ u h => absurd h (hnone i u), fun i u h => absurd h (hnone i u),
      Database.wf_created collate⟩

/-- User 1 logs in on server 0 and user 2 on server 1, user 1 logs out and then logs in on server 1
too, and user 2 closes the connection. -/
def movedUser : List Label :=
  [.start 0 true, .start 1 true, .connect 0 1, .connect 1 1, .connect 1 2,
    .whole 0 (.frame 1 (ChatClient.reg (txt "ann") (txt "pw")).dump),
    .whole 0 (.frame 1 (ChatClient.reg (txt "bob") (txt "pw")).dump),
    .whole 0 (.frame 1 (ChatClient.login 1 (txt "pw")).dump),
    .whole 1 (.frame 1 (ChatClient.login 2 (txt "pw")).dump),
    .whole 0 (.frame 1 (ChatClient.loginout 1).dump),
    .whole 1 (.frame 2 (ChatClient.login 1 (txt "pw")).dump),
    .whole 1 (.close 1)]

def movedUserParser : JsonParser :=
  .ofDumps [ChatClient.reg (txt "ann") (txt "pw"), ChatClient.reg (txt "bob") (txt "pw"),
    ChatClient.login 1 (txt "pw"), ChatClient.login 2 (txt "pw"), ChatClient.loginout 1]

instance (servers : List ServerId) (P : JsonParser) (l : (atomicSystem P).Label)
    (s : (atomicSystem P).State) :
    Decidable ((Label.event P (Sys.world s) l).FreeAmong servers (Sys.world s).holds) :=
  inferInstance

theorem single_session_moved : ∃ s', (atomicSystem movedUserParser).runs movedUser Sys.initial =
      some s' ∧ ¬s'.world.holds 0 1 ∧ s'.world.holds 1 1 ∧ ¬s'.world.holds 1 2 ∧
    ∀ s₁, (atomicSystem movedUserParser).Passes movedUser Sys.initial s₁ → SingleSession s₁ := by
  have h : ((atomicSystem movedUserParser).runsBy (fun (l : Label) (s : Sys) =>
      (l.event movedUserParser s.world).FreeAmong [0, 1] s.world.holds) movedUser
        Sys.initial).map (fun s : Sys => (decide (s.world.holds 0 1), decide (s.world.holds 1 1),
          decide (s.world.holds 1 2))) = some (false, true, false) := by
    decide +kernel
  obtain ⟨s', hby, hf⟩ := Option.map_eq_some_iff.mp h
  simp only [Prod.mk.injEq, decide_eq_true_eq, decide_eq_false_iff_not] at hf
  obtain ⟨h₀, h₁, h₂⟩ := hf
  obtain ⟨hr, htakes⟩ := Machine.runsBy_takes hby
  refine ⟨s', hr, h₀, h₁, h₂, (single_session_iff ⟨id, fun _ => ⟨true, 0⟩, 0, rfl⟩ hr).mpr ?_⟩
  intro l s₁ ht
  obtain ⟨pre, post, hls, hpre⟩ := Machine.takes_iff.mp ht
  have hon : ∀ l ∈ movedUser, l.WorksOn [0, 1] := by decide
  have hheld := Machine.runs_keep_of (M := atomicSystem movedUserParser) (I := Sys.HoldsOn [0, 1])
    (fun l s s' ha hi hl => by
      obtain ⟨hat, hl⟩ := Machine.step_of_restrict (M := system movedUserParser) hl
      exact hi.step hat ha hl)
    (fun l hl => hon l (by rw [hls]; exact List.mem_append_left _ hl))
    (.of_stopped (Database.wf_created id) fun _ => rfl) hpre
  exact Event.free_of_among hheld.held (htakes l s₁ ht)

/-- User 1 registers and logs in on server 0, then logs in on server 1. -/
def twoLogins : List Label :=
  [.start 0 true, .start 1 true, .connect 0 1, .connect 1 1,
    .whole 0 (.frame 1 (ChatClient.reg (txt "ann") (txt "pw")).dump),
    .whole 0 (.frame 1 (ChatClient.login 1 (txt "pw")).dump),
    .whole 1 (.frame 1 (ChatClient.login 1 (txt "pw")).dump)]

def twoLoginsParser : JsonParser :=
  .ofDumps [ChatClient.reg (txt "ann") (txt "pw"), ChatClient.login 1 (txt "pw")]

/-- The second login leaves the entry of the first. -/
theorem two_sessions : ¬∀ (P : JsonParser) (s : Sys), (atomicSystem P).Reach s → SingleSession s := by
  intro hall
  have h : ((atomicSystem twoLoginsParser).runs twoLogins Sys.initial).map (fun s : Sys =>
      (((s.world.servers 0).userConnMap.lookup 1).isSome,
        ((s.world.servers 1).userConnMap.lookup 1).isSome)) = some (true, true) := by
    decide +kernel
  obtain ⟨s, hs, hf⟩ := Option.map_eq_some_iff.mp h
  simp only [Prod.mk.injEq] at hf
  have hreach : (atomicSystem twoLoginsParser).Reach s :=
    Machine.Reach.runs (.init ⟨id, fun _ => ⟨true, 0⟩, 0, rfl⟩) hs
  have := hall _ s hreach 0 1 1 hf.1 hf.2
  cases this

end QtChat
