import QtChat.Properties.SingleSession

/-!
# The table and the servers

The row of a user says online as long as nobody writes offline into it; which server holds the user
is not looked at.

- `online_iff_held_iff`: in a run with graceful exits and a MySQL that works, the rows say who is
  held by some server exactly if every step writes the truth (`WritesTruth`): an accepted login is
  of a user with a row, a logout or close of a user whom no other server holds, an exit while no
  other server holds anybody.
- `offline_while_held`: the exit of an idle server sets the users of the others offline.
-/

namespace QtChat

open Interleave Presence

/-- Atomic handlers, and no crash. -/
def Label.graceful : Label → Bool
  | .crash _ => false
  | l => l.atomic

theorem Label.atomic_of_graceful {l : Label} (h : l.graceful = true) : l.atomic = true := by
  cases l <;> first | rfl | cases h

/-- MySQL works, all users are offline, and no server has started. -/
structure AllOffline (s : Sys) : Prop where
  works : s.world.Works
  wf : s.world.db.Wf
  offline : ∀ id, ¬s.world.online id
  stopped : ∀ i, s.world.servers i = .stopped

/-- The servers from all users offline, with graceful exits. -/
def gracefulSystem (P : JsonParser) : Machine :=
  { (system P).restrict Label.graceful with init := AllOffline }

/-- The row of a user says online exactly if a server that runs has an entry for the user. -/
def OnlineIffHeld (s : Sys) : Prop :=
  ∀ id, s.world.online id ↔ ∃ i, (s.world.servers i).running = true ∧ s.world.holds i id

/-- What the step writes into the table is true. -/
def WritesTruth (P : JsonParser) (l : Label) (s : Sys) : Prop :=
  (l.event P s.world).Faithful s.world.known s.world.holds

theorem onlineIffHeld_iff {s : Sys} (hidle : s.world.Idle) :
    OnlineIffHeld s ↔ Agree s.world.holds s.world.online := by
  have h : ∀ id, (∃ i, (s.world.servers i).running = true ∧ s.world.holds i id) ↔
      ∃ i, s.world.holds i id := by
    intro id
    constructor
    · rintro ⟨i, -, hi⟩
      exact ⟨i, hi⟩
    · rintro ⟨i, hi⟩
      exact ⟨i, hidle i id hi, hi⟩
  unfold OnlineIffHeld Agree
  simp only [h]

/-- What a step makes of a state in which the rows agree with the servers. -/
theorem onlineIffHeld_step {P : JsonParser} {l : Label} {s s' : Sys} (hat : l.atomic = true)
    (hworks : s.world.Works) (hwf : s.world.db.Wf) (hidle : s.world.Idle) (hs : OnlineIffHeld s)
    (h : Sys.step P l s = some s') : OnlineIffHeld s' ↔ WritesTruth P l s := by
  have hdoes := step_does hat hwf hidle h
  rw [onlineIffHeld_iff (step_idle hat hwf hidle h)]
  refine Iff.trans ?_ (Event.agree_iff ((onlineIffHeld_iff hidle).mp hs)
    (fun u => World.known_of_online) (l.event P s.world))
  unfold Agree
  simp only [hdoes.holds, hdoes.online hworks]

/-- **The table and the servers.** In a run from all users offline, with any other servers, logins,
logouts, closes and graceful exits, the rows agree with the entries in every state exactly if every
step writes the truth. -/
theorem online_iff_held_iff {P : JsonParser} {ls : List Label} {s s' : Sys}
    (hs : (gracefulSystem P).init s) (hr : (gracefulSystem P).runs ls s = some s') :
    (∀ s₁, (gracefulSystem P).Passes ls s s₁ → OnlineIffHeld s₁) ↔
      ∀ l s₁, (gracefulSystem P).Takes ls s l s₁ → WritesTruth P l s₁ := by
  refine Machine.passes_iff_takes (M := gracefulSystem P)
    (G := fun s : Sys => OnlineIffHeld s ∧ s.world.Works ∧ s.world.db.Wf ∧ s.world.Idle)
    (fun s hg => hg.1) ?_ ?_ hr
  · rintro l s s' ⟨hagree, hworks, hwf, hidle⟩ hl
    obtain ⟨hgraceful, hl⟩ := Machine.step_of_restrict (M := system P) hl
    have hat := Label.atomic_of_graceful hgraceful
    have hiff := onlineIffHeld_step hat hworks hwf hidle hagree hl
    exact ⟨fun hq => ⟨hiff.mpr hq, step_works hworks hl, step_wf hwf hl,
      step_idle hat hwf hidle hl⟩, hiff.mp⟩
  · have hnone := not_holds_of_stopped hs.stopped
    refine ⟨fun id => iff_of_false (hs.offline id) ?_, hs.works, hs.wf,
      fun i u h => absurd h (hnone i u)⟩
    rintro ⟨i, -, hi⟩
    exact hnone i id hi

theorem allOffline_initial : AllOffline Sys.initial where
  works _ := rfl
  wf := Database.wf_created id
  offline id h := by cases h
  stopped _ := rfl

instance (servers : List ServerId) (P : JsonParser) (l : (gracefulSystem P).Label)
    (s : (gracefulSystem P).State) : Decidable ((Label.event P (Sys.world s) l).FaithfulAmong servers
      (Sys.world s).known (Sys.world s).holds) :=
  inferInstance

/-- At the end only user 1 is online, on server 1. -/
theorem online_iff_held_moved : ∃ s', (gracefulSystem movedUserParser).runs movedUser Sys.initial =
      some s' ∧ s'.world.db.stateOf 1 = some .online ∧ s'.world.db.stateOf 2 = some .offline ∧
    ∀ s₁, (gracefulSystem movedUserParser).Passes movedUser Sys.initial s₁ → OnlineIffHeld s₁ := by
  have h : ((gracefulSystem movedUserParser).runsBy (fun (l : Label) (s : Sys) =>
      (l.event movedUserParser s.world).FaithfulAmong [0, 1] s.world.known s.world.holds) movedUser
        Sys.initial).map (fun s : Sys => (s.world.db.stateOf 1, s.world.db.stateOf 2)) =
          some (some .online, some .offline) := by
    decide +kernel
  obtain ⟨s', hby, hf⟩ := Option.map_eq_some_iff.mp h
  simp only [Prod.mk.injEq] at hf
  obtain ⟨h₁, h₂⟩ := hf
  obtain ⟨hr, htakes⟩ := Machine.runsBy_takes hby
  refine ⟨s', hr, h₁, h₂, (online_iff_held_iff allOffline_initial hr).mpr ?_⟩
  intro l s₁ ht
  obtain ⟨pre, post, hls, hpre⟩ := Machine.takes_iff.mp ht
  have hon : ∀ l ∈ movedUser, l.WorksOn [0, 1] := by decide
  have hheld := Machine.runs_keep_of (M := gracefulSystem movedUserParser) (I := Sys.HoldsOn [0, 1])
    (fun l s s' ha hi hl => by
      obtain ⟨hgraceful, hl⟩ := Machine.step_of_restrict (M := system movedUserParser) hl
      exact hi.step (Label.atomic_of_graceful hgraceful) ha hl)
    (fun l hl => hon l (by rw [hls]; exact List.mem_append_left _ hl))
    (.of_stopped (Database.wf_created id) fun _ => rfl) hpre
  exact Event.faithful_of_among hheld.held (htakes l s₁ ht)

/-- User 1 registers and logs in on server 0, then server 1 exits. -/
def exitOfOther : List Label :=
  [.start 0 true, .start 1 true, .connect 0 1,
    .whole 0 (.frame 1 (ChatClient.reg (txt "ann") (txt "pw")).dump),
    .whole 0 (.frame 1 (ChatClient.login 1 (txt "pw")).dump), .exit 1]

/-- The row says offline, and server 0 holds the user. -/
theorem offline_while_held :
    ¬∀ (P : JsonParser) (s : Sys), (gracefulSystem P).Reach s → OnlineIffHeld s := by
  intro hall
  have h : ((gracefulSystem twoLoginsParser).runs exitOfOther Sys.initial).map (fun s : Sys =>
      (s.world.db.stateOf 1, (s.world.servers 0).running,
        ((s.world.servers 0).userConnMap.lookup 1).isSome)) =
      some (some .offline, true, true) := by
    decide +kernel
  obtain ⟨s, hs, hf⟩ := Option.map_eq_some_iff.mp h
  simp only [Prod.mk.injEq] at hf
  obtain ⟨hrow, hrun, hheld⟩ := hf
  have hreach : (gracefulSystem twoLoginsParser).Reach s :=
    Machine.Reach.runs (.init allOffline_initial) hs
  have honline := (hall _ s hreach 1).mpr ⟨0, hrun, hheld⟩
  rw [World.online, hrow] at honline
  cases honline

end QtChat
