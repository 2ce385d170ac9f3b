import QtChat.Client.Heartbeat

/-!
# A server that does not answer

`sendHeartbeat` starts the 35 s watchdog again with every heartbeat, and a client that gets nothing
sends one every 15 s.

- `WatchedClient`: the client with the time of its first unanswered heartbeat.
- `Detected`: what is unanswered for more than 35 s has made `onHeartbeatTimeout` run.
- `NoSecond`: a tick sends no heartbeat while one is unanswered.
- `detected_exactly`: runs whose ticks are of `NoSecond` keep `Detected`; after any other tick 20 s
  without a frame break it.
-/

namespace QtChat

open Interleave HeartbeatClient

/-- A client and when it sent the first heartbeat after the last frame that it got. -/
structure WatchedClient where
  client : HeartbeatClient
  unanswered : Option Nat
  deriving DecidableEq

inductive ClientLabel where
  | elapse (ms : Nat)
  /-- The user does something that is sent. -/
  | send
  /-- A read that completes these messages. -/
  | read (msgs : List Json)
  /-- `m_heartbeatTimer` is due. -/
  | tick
  /-- `m_heartbeatTimeout` is due. -/
  | timeout

namespace WatchedClient

def step : ClientLabel → WatchedClient → Option WatchedClient
  | .elapse ms, s =>
    if s.client.mayElapse ms then
      some { s with client := { s.client with clock := s.client.clock + ms } }
    else none
  | .send, s => if s.client.connected then some { s with client := s.client.sendJson } else none
  | .read msgs, s =>
    if s.client.connected then
      some ⟨s.client.onReadyRead msgs, if msgs.isEmpty then s.unanswered else none⟩
    else none
  | .tick, s => s.client.tick.map fun client =>
    ⟨client, if s.client.sends then some (s.unanswered.getD s.client.clock) else s.unanswered⟩
  | .timeout, s => s.client.timeout.map fun client => { s with client }

end WatchedClient

/-- A client from its login on, while its socket is connected. -/
def watchedClient : Machine where
  State := WatchedClient
  Label := ClientLabel
  init s := ∃ clock, s = ⟨.loggedIn clock, none⟩
  step := WatchedClient.step

/-- Nothing is unanswered for more than 35 s, unless `onHeartbeatTimeout` has run. -/
def Detected (s : WatchedClient) : Prop :=
  s.client.connected = true → ∀ u, s.unanswered = some u → s.client.clock ≤ u + 35000

/-- A tick sends no heartbeat while one is unanswered. -/
def NoSecond : ClientLabel → WatchedClient → Prop
  | .tick, s => s.client.sends = true → s.unanswered = none
  | _, _ => True

/-- While a heartbeat is unanswered, the watchdog runs since it was sent. -/
def Watched (s : WatchedClient) : Prop :=
  s.client.connected = true → ∀ u, s.unanswered = some u →
    s.client.m_heartbeatTimeout = some (u + 35000) ∧ s.client.clock ≤ u + 35000 ∧
      ∃ due, s.client.m_heartbeatTimer = some due ∧ u + 15000 ≤ due

variable {s s' : WatchedClient}

theorem Watched.detected (h : Watched s) : Detected s := fun hc u hu => (h hc u hu).2.1

/-- **One step** of `NoSecond`. -/
theorem Watched.step (l : ClientLabel) (h : Watched s) (hq : NoSecond l s)
    (hl : WatchedClient.step l s = some s') : Watched s' := by
  cases l with
  | elapse ms =>
    rw [WatchedClient.step] at hl
    split at hl
    · rename_i hm
      cases hl
      intro hc u hu
      obtain ⟨hw, hle, due, hdue, hu15⟩ := h hc u hu
      refine ⟨hw, ?_, due, hdue, hu15⟩
      rw [HeartbeatClient.mayElapse, hw, hdue] at hm
      simp only [Option.all_some, Bool.and_eq_true, decide_eq_true_eq] at hm
      exact hm.2
    · cases hl
  | send =>
    rw [WatchedClient.step] at hl
    split at hl
    · cases hl
      exact h
    · cases hl
  | read msgs =>
    rw [WatchedClient.step] at hl
    split at hl
    · cases hl
      cases msgs with
      | nil => exact h
      | cons js msgs =>
        intro _ u hu
        cases hu
    · cases hl
  | tick =>
    obtain ⟨client, ht, rfl⟩ := Option.map_eq_some_iff.mp hl
    obtain ⟨hdue, rfl⟩ := tick_eq ht
    intro hc u hu
    cases hs : s.client.sends with
    | true =>
      simp only [hs, if_true, hq hs, Option.getD_none, Option.some.injEq] at hu
      subst hu
      exact ⟨rfl, Nat.le_add_right _ _, _, rfl, Nat.le_refl _⟩
    | false =>
      simp only [hs, Bool.false_eq_true, if_false] at hu
      obtain ⟨hw, hle, due, hdue', hu15⟩ := h hc u hu
      rw [hdue] at hdue'
      cases hdue'
      exact ⟨hw, hle, _, rfl, by omega⟩
  | timeout =>
    obtain ⟨client, ht, rfl⟩ := Option.map_eq_some_iff.mp hl
    unfold HeartbeatClient.timeout at ht
    split at ht
    · cases ht
      intro hc
      cases hc
    · cases ht

/-- A heartbeat is unanswered, a tick comes in 15 s, and the watchdog is due at `w`. -/
structure Waiting (s : WatchedClient) (u w : Nat) : Prop where
  connected : s.client.connected = true
  unanswered : s.unanswered = some u
  timer : s.client.m_heartbeatTimer = some (s.client.clock + 15000)
  watchdog : s.client.m_heartbeatTimeout = some w

theorem WatchedClient.runs_cons {l : ClientLabel} {ls : List ClientLabel}
    (hl : WatchedClient.step l s = some s') : watchedClient.runs (l :: ls) s = watchedClient.runs ls s' :=
  Machine.runs_step (M := watchedClient) hl

theorem elapse_eq {ms : Nat} (h : s.client.mayElapse ms = true) :
    WatchedClient.step (.elapse ms) s =
      some { s with client := { s.client with clock := s.client.clock + ms } } := by
  rw [WatchedClient.step, if_pos h]

/-- A tick makes the watchdog due later, if at all. -/
theorem Waiting.of_tick {u w : Nat} (hc : s.client.connected = true) (hu : s.unanswered = some u)
    (hw : s.client.m_heartbeatTimeout = some w) (hl : WatchedClient.step .tick s = some s') :
    s'.client.clock = s.client.clock ∧
      Waiting s' u (if s.client.sends then s.client.clock + 35000 else w) := by
  obtain ⟨client, ht, rfl⟩ := Option.map_eq_some_iff.mp hl
  obtain ⟨-, rfl⟩ := tick_eq ht
  refine ⟨rfl, hc, ?_, rfl, ?_⟩
  · cases hs : s.client.sends <;> simp [hu]
  · cases hs : s.client.sends <;> simp [hw]

/-- 15 s and a tick, without a frame. -/
theorem Waiting.next {u w : Nat} (h : Waiting s u w) (hw : s.client.clock + 35000 ≤ w) :
    ∃ s' : WatchedClient, watchedClient.runs [.elapse 15000, .tick] s = some s' ∧
      s'.client.clock = s.client.clock + 15000 ∧ ∃ w', s.client.clock + 35000 ≤ w' ∧
        Waiting s' u w' := by
  have hm : s.client.mayElapse 15000 = true := by
    rw [HeartbeatClient.mayElapse, h.timer, h.watchdog]
    simp only [Option.all_some, Bool.and_eq_true, decide_eq_true_eq]
    exact ⟨Nat.le_refl _, by omega⟩
  let s₁ : WatchedClient :=
    { s with client := { s.client with clock := s.client.clock + 15000 } }
  have hdue : s₁.client.m_heartbeatTimer = some s₁.client.clock := h.timer
  have htick : (s₁.client.tick).isSome = true := by
    rw [HeartbeatClient.tick, if_pos hdue]
    rfl
  obtain ⟨client, hclient⟩ := Option.isSome_iff_exists.mp htick
  have hl : WatchedClient.step .tick s₁ = some ⟨client, if s₁.client.sends then
      some (s₁.unanswered.getD s₁.client.clock) else s₁.unanswered⟩ := by
    rw [WatchedClient.step, hclient, Option.map_some]
  obtain ⟨hclock, hnext⟩ := Waiting.of_tick (s := s₁) (u := u) h.connected h.unanswered h.watchdog hl
  refine ⟨_, (WatchedClient.runs_cons (elapse_eq hm)).trans
    (WatchedClient.runs_cons hl), hclock, _, ?_, hnext⟩
  have hs₁ : s₁.client.clock = s.client.clock + 15000 := rfl
  split <;> omega

/-- **A second heartbeat**: the watchdog starts again, and 35 s after the first one nothing has
happened. -/
theorem undetected_of_second (h : Watched s) {u : Nat} (hu : s.unanswered = some u)
    (hs : s.client.sends = true) (hl : WatchedClient.step .tick s = some s') :
    ∃ ls, ∃ s'' : WatchedClient, watchedClient.runs ls s' = some s'' ∧ ¬Detected s'' := by
  have hc : s.client.connected = true := by
    unfold HeartbeatClient.sends at hs
    exact (Bool.and_eq_true_iff.mp hs).1
  obtain ⟨hw, -, due, hdue, hu15⟩ := h hc u hu
  have hnow : s.client.m_heartbeatTimer = some s.client.clock := by
    obtain ⟨client, ht, -⟩ := Option.map_eq_some_iff.mp hl
    exact (tick_eq ht).1
  rw [hnow] at hdue
  cases hdue
  -- the next tick, 15 s later, and then 5 s more
  obtain ⟨hclock, hwait⟩ := Waiting.of_tick hc hu hw hl
  rw [if_pos hs] at hwait
  obtain ⟨s₂, hr₂, hclock₂, w, hw₂, hwait₂⟩ := hwait.next (by omega)
  have hm : s₂.client.mayElapse 5001 = true := by
    rw [HeartbeatClient.mayElapse, hwait₂.timer, hwait₂.watchdog]
    simp only [Option.all_some, Bool.and_eq_true, decide_eq_true_eq]
    omega
  have hr₃ : watchedClient.runs [.elapse 5001] s₂ = some (WatchedClient.mk
      { s₂.client with clock := s₂.client.clock + 5001 } s₂.unanswered) :=
    WatchedClient.runs_cons (elapse_eq hm)
  refine ⟨[.elapse 15000, .tick] ++ [.elapse 5001], WatchedClient.mk
    { s₂.client with clock := s₂.client.clock + 5001 } s₂.unanswered,
    Machine.runs_trans (M := watchedClient) hr₂ hr₃, fun hd => ?_⟩
  have hle : s₂.client.clock + 5001 ≤ u + 35000 := hd hwait₂.connected u hwait₂.unanswered
  omega

/-- **The watchdog of the client.** In every run whose ticks send no second heartbeat while one is
unanswered, nothing is unanswered for more than 35 s without `onHeartbeatTimeout` having run; after
the first tick that does, some run goes on to a state in which it is so. -/
theorem detected_exactly {s : WatchedClient} (h : watchedClient.ReachBy NoSecond s) :
    Detected s ∧ ∀ l s', WatchedClient.step l s = some s' → ¬NoSecond l s →
      ∃ ls, ∃ s'' : WatchedClient, watchedClient.runs ls s' = some s'' ∧ ¬Detected s'' := by
  have hstart : ∀ s : WatchedClient, (∃ clock, s = ⟨.loggedIn clock, none⟩) → Watched s := by
    rintro s ⟨clock, rfl⟩ _ u hu
    cases hu
  have hkeep : ∀ l (s s' : WatchedClient), Watched s → NoSecond l s →
      WatchedClient.step l s = some s' → Watched s' := fun l _ _ ih hq hl => ih.step l hq hl
  have hw : Watched s := h.inv hstart hkeep
  refine ⟨hw.detected, fun l s' hl hq => ?_⟩
  cases l with
  | tick =>
    simp only [NoSecond, Classical.not_imp] at hq
    obtain ⟨u, hu⟩ := Option.ne_none_iff_exists'.mp hq.2
    exact undetected_of_second hw hu hq.1 hl
  | _ => exact absurd trivial hq

/-- The user types 10 s after the heartbeat, so the next tick sends none; it is answered later. -/
theorem detected_typing : ∃ s : WatchedClient, s.unanswered = some 15000 ∧ s.client.clock = 30000 ∧
    Detected s := by
  have h₁ : watchedClient.ReachBy NoSecond
      (⟨⟨15000, true, 0, some 15000, none⟩, none⟩ : WatchedClient) :=
    .step (.elapse 15000) (.init ⟨0, rfl⟩) trivial rfl
  have h₂ : watchedClient.ReachBy NoSecond
      (⟨⟨15000, true, 0, some 30000, some 50000⟩, some 15000⟩ : WatchedClient) :=
    .step .tick h₁ (fun _ => rfl) rfl
  have h₃ : watchedClient.ReachBy NoSecond
      (⟨⟨25000, true, 0, some 30000, some 50000⟩, some 15000⟩ : WatchedClient) :=
    .step (.elapse 10000) h₂ trivial rfl
  have h₄ : watchedClient.ReachBy NoSecond
      (⟨⟨25000, true, 25, some 30000, some 50000⟩, some 15000⟩ : WatchedClient) :=
    .step .send h₃ trivial rfl
  have h₅ : watchedClient.ReachBy NoSecond
      (⟨⟨30000, true, 25, some 30000, some 50000⟩, some 15000⟩ : WatchedClient) :=
    .step (.elapse 5000) h₄ trivial rfl
  have h₆ : watchedClient.ReachBy NoSecond
      (⟨⟨30000, true, 25, some 45000, some 50000⟩, some 15000⟩ : WatchedClient) :=
    .step .tick h₅ (fun hs => by revert hs; decide) rfl
  exact ⟨_, rfl, rfl, (detected_exactly h₆).1⟩

/-- A silent server and an idle client: the heartbeats at 15, 30 and 45 s start the watchdog again,
and at 51 s it has not run. -/
theorem undetected_idle : ¬ ∀ s, watchedClient.Reach s → Detected s := by
  intro hall
  have h : (watchedClient.runs [.elapse 15000, .tick, .elapse 15000, .tick, .elapse 15000, .tick,
      .elapse 6000] ⟨.loggedIn 0, none⟩).map (fun s : WatchedClient =>
        (s.client.connected, s.unanswered, s.client.clock)) = some (true, some 15000, 51000) := by
    decide
  obtain ⟨s, hs, hf⟩ := Option.map_eq_some_iff.mp h
  simp only [Prod.mk.injEq] at hf
  have hd := hall s (.runs (.init ⟨0, rfl⟩) hs) hf.1 15000 hf.2.1
  rw [hf.2.2] at hd
  omega

end QtChat
