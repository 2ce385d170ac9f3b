import QtChat.Redis.Subscriber

/-!
# The channels after a lost subscriber connection

`subscribe` and `unsubscribe` record a channel only if their command was written, and `resubscribe`
replays the record. A call that fails while the connection is lost is forgotten.

- `wanted`: the channels whose most recent call was `subscribe`. `Resubscribed` is what they should
  be after a `resubscribe`.
- `Agrees`: a call that fails asks for what the record says already, and no `resubscribe` comes
  between the two critical sections of a call that changes the record.
- `resubscribed_exactly`: runs with such steps keep `Resubscribed`, and after any other step a loss
  and a `resubscribe` break it.
-/

namespace QtChat

open Interleave

/-- The channel's most recent call was `subscribe`. -/
def wanted (calls : List ChannelCall) (ch : Int) : Bool :=
  ((calls.filter (·.channel = ch)).getLast?).any ChannelCall.wanted

/-- **After a `resubscribe`**, while no call is being made, the connection has the channels whose
most recent call was `subscribe`. -/
def Resubscribed (s : Subscriber) : Prop :=
  s.calling = none → s.resubscribed = true →
    ∃ c, s.context = some c ∧ ∀ ch, c.channels ch = wanted s.calls ch

/-- The call asks for what is recorded. -/
def ChannelCall.Agrees (call : ChannelCall) (s : Subscriber) : Prop :=
  inList s.subscribedChannels call.channel = call.wanted

/-- The steps that leave the record right. -/
def Agrees : SubscriberLabel → Subscriber → Prop
  | .call call, s => s.usable = false → call.Agrees s
  | .write ok, s => ∀ call pc, s.calling = some (call, pc) →
    s.usable = false ∨ ok = false → call.Agrees s
  | .resubscribe connects writes, s => ∀ call, s.calling = some (call, .written) →
    connects = true ∧ s.subscribedChannels.length ≤ writes → call.Agrees s
  | _, _ => True

theorem wanted_append (calls : List ChannelCall) (call : ChannelCall) :
    wanted (calls ++ [call]) = Function.update (wanted calls) call.channel call.wanted := by
  funext ch
  rw [wanted, List.filter_append, Function.update_apply]
  by_cases e : ch = call.channel
  · have hf : [call].filter (fun c => decide (c.channel = ch)) = [call] := by simp [e]
    rw [hf, if_pos e, List.getLast?_concat, Option.any_some]
  · have hf : [call].filter (fun c => decide (c.channel = ch)) = [] := by simp [Ne.symm e]
    rw [hf, if_neg e, List.append_nil]
    rfl

/-! ## The replay -/

namespace SubscribeContext

theorem write_ok {c c' : SubscribeContext} {call : ChannelCall} {ok : Bool}
    (h : c.write call ok = (true, c')) : c.err = false ∧ ok = true ∧
      c' = { c with channels := Function.update c.channels call.channel call.wanted } := by
  unfold write at h
  split at h
  · cases h
  · rename_i he
    split at h
    · rename_i hk
      cases h
      exact ⟨by simpa using he, hk, rfl⟩
    · cases h

theorem write_fails {c c' : SubscribeContext} {call : ChannelCall} {ok : Bool}
    (h : c.write call ok = (false, c')) :
    (c.err = true ∨ ok = false) ∧ c'.channels = c.channels := by
  unfold write at h
  split at h
  · rename_i he
    cases h
    exact ⟨.inl he, rfl⟩
  · split at h
    · cases h
    · rename_i hk
      cases h
      exact ⟨.inr (by simpa using hk), rfl⟩

/-- **A replay that succeeds** has subscribed to every channel of the list. -/
theorem replay_channels {l : List Int} {writes : Nat} {c c' : SubscribeContext}
    (h : c.replay l writes = (true, c')) (ch : Int) :
    c'.channels ch = (c.channels ch || inList l ch) := by
  induction l generalizing writes c with
  | nil =>
    cases h
    simp [inList]
  | cons d l ih =>
    rw [replay] at h
    split at h
    · rename_i c₁ hw
      obtain ⟨-, -, rfl⟩ := write_ok hw
      have hd := ih h
      rw [hd]
      simp only [Function.update_apply, ChannelCall.channel, ChannelCall.wanted, inList, List.mem_cons]
      by_cases e : ch = d
      · simp [e]
      · simp [e]
    · cases h

theorem replay_length {l : List Int} {writes : Nat} {c c' : SubscribeContext}
    (h : c.replay l writes = (true, c')) : l.length ≤ writes := by
  induction l generalizing writes c with
  | nil => exact Nat.zero_le _
  | cons ch l ih =>
    rw [replay] at h
    split at h
    · rename_i c₁ hw
      have hpos : 0 < writes := of_decide_eq_true (write_ok hw).2.1
      have := ih h
      rw [List.length_cons]
      omega
    · cases h

/-- With enough writes that work, a replay succeeds. -/
theorem replay_succeeds {l : List Int} {writes : Nat} (hw : l.length ≤ writes)
    {c : SubscribeContext} (hc : c.err = false) : ∃ c', c.replay l writes = (true, c') := by
  induction l generalizing writes c with
  | nil => exact ⟨c, rfl⟩
  | cons ch l ih =>
    rw [List.length_cons] at hw
    have hpos : decide (0 < writes) = true := decide_eq_true (by omega)
    have hwrite : c.write (.subscribe ch) (0 < writes) =
        (true, { c with channels := Function.update c.channels ch true }) := by
      rw [write, hpos, hc]
      rfl
    obtain ⟨c', h'⟩ := @ih (writes - 1) (by omega)
      { c with channels := Function.update c.channels ch true } hc
    refine ⟨c', ?_⟩
    rw [replay, hwrite]
    exact h'

end SubscribeContext

/-! ## The invariant -/

namespace Subscriber

/-- What a connection without a gap has: what is wanted, with the call that is written. -/
def effective (s : Subscriber) : Int → Bool :=
  match s.calling with
  | some (call, .written) => Function.update (wanted s.calls) call.channel call.wanted
  | _ => wanted s.calls

end Subscriber

/-- What the steps of `Agrees` keep. -/
structure Sound (s : Subscriber) : Prop where
  recorded : inList s.subscribedChannels = wanted s.calls
  live : s.resubscribed = true → ∃ c, s.context = some c ∧ c.channels = s.effective

variable {s s' : Subscriber}

theorem Sound.resubscribed (h : Sound s) : Resubscribed s := by
  intro hc hr
  obtain ⟨c, hctx, hch⟩ := h.live hr
  refine ⟨c, hctx, fun ch => ?_⟩
  rw [hch, Subscriber.effective, hc]

/-- A call that agrees with the record changes nothing that is wanted. -/
theorem Sound.wanted_same (h : Sound s) {call : ChannelCall} (ha : call.Agrees s) :
    Function.update (wanted s.calls) call.channel call.wanted = wanted s.calls := by
  have : wanted s.calls call.channel = call.wanted := by rw [← h.recorded]; exact ha
  rw [← this]
  exact Function.update_eq_self _ _

/-- A call that fails returns. -/
theorem Sound.done (h : Sound s) {call : ChannelCall} (ha : call.Agrees s) (hc : ∀ c, s.calling ≠ some (c, .written))
    {context : Option SubscribeContext}
    (hctx : ∀ c, s.context = some c → ∃ c', context = some c' ∧ c'.channels = c.channels) :
    Sound { s.done call with context := context } := by
  have hsame : wanted (s.calls ++ [call]) = wanted s.calls := by
    rw [wanted_append, h.wanted_same ha]
  refine ⟨?_, fun hr => ?_⟩
  · change inList s.subscribedChannels = wanted (s.calls ++ [call])
    rw [hsame, h.recorded]
  · obtain ⟨c, hs, hch⟩ := h.live hr
    obtain ⟨c', hc', hsame'⟩ := hctx c hs
    refine ⟨c', hc', ?_⟩
    have heff : s.effective = wanted s.calls := by
      unfold Subscriber.effective
      split
      · rename_i c₁ h₁
        exact absurd h₁ (hc c₁)
      · rfl
    rw [hsame', hch, heff]
    exact hsame.symm

/-- **A `resubscribe`** that succeeds has replayed the record. -/
theorem Sound.resubscribe (h : Sound s) (hn : s.context = none) {connects : Bool} {writes : Nat}
    (ha : Agrees (.resubscribe connects writes) s) : Sound (s.resubscribe connects writes) := by
  unfold Subscriber.resubscribe
  rw [hn, Option.none_or]
  cases connects with
  | false => exact ⟨h.recorded, h.live⟩
  | true =>
    simp only [if_true]
    cases hr : SubscribeContext.connect.replay s.subscribedChannels writes with
    | mk ok c =>
      cases ok with
      | false => exact ⟨h.recorded, fun hf => by cases hf⟩
      | true =>
        refine ⟨h.recorded, fun _ => ⟨c, rfl, ?_⟩⟩
        have hc : c.channels = wanted s.calls := by
          funext ch
          rw [SubscribeContext.replay_channels hr ch, ← h.recorded]
          rfl
        have heff : s.effective = wanted s.calls := by
          unfold Subscriber.effective
          split
          · rename_i call hcall
            exact h.wanted_same (ha call hcall ⟨rfl, SubscribeContext.replay_length hr⟩)
          · rfl
        exact hc.trans heff.symm

/-- **One step** of `Agrees` keeps the record right. -/
theorem Sound.step (l : SubscriberLabel) (h : Sound s) (hq : Agrees l s)
    (hl : Subscriber.step l s = some s') : Sound s' := by
  cases l with
  | call call =>
    rw [Subscriber.step] at hl
    split at hl
    · rename_i hcall
      split at hl
      · cases hl
        refine ⟨h.recorded, fun hr => ?_⟩
        obtain ⟨c, hs, hch⟩ := h.live hr
        refine ⟨c, hs, hch.trans ?_⟩
        rw [Subscriber.effective, hcall]
        rfl
      · rename_i hu
        cases hl
        exact h.done (hq (by simpa using hu)) (fun c => by rw [hcall]; simp)
          fun c hc => ⟨c, hc, rfl⟩
    · cases hl
  | write ok =>
    rw [Subscriber.step] at hl
    split at hl
    · rename_i call c hcall hctx
      split at hl
      · rename_i c' hw
        cases hl
        obtain ⟨-, -, rfl⟩ := SubscribeContext.write_ok hw
        refine ⟨h.recorded, fun hr => ⟨_, rfl, ?_⟩⟩
        obtain ⟨c₁, hs, hch⟩ := h.live hr
        rw [hctx] at hs
        cases hs
        have heff : s.effective = wanted s.calls := by rw [Subscriber.effective, hcall]
        change Function.update c.channels call.channel call.wanted = _
        rw [hch, heff]
        rfl
      · rename_i c' hw
        cases hl
        obtain ⟨hfail, hch⟩ := SubscribeContext.write_fails hw
        have hbad : s.usable = false ∨ ok = false := by
          rcases hfail with he | hk
          · exact .inl (by rw [Subscriber.usable, hctx, Option.any_some, he]; rfl)
          · exact .inr hk
        refine h.done (hq call _ hcall hbad) (fun c => by rw [hcall]; simp) fun c₁ hc₁ => ?_
        rw [hctx] at hc₁
        cases hc₁
        exact ⟨c', rfl, hch⟩
    · cases hl
  | record =>
    rw [Subscriber.step] at hl
    split at hl
    · rename_i call hcall
      cases hl
      have heff : s.effective = Function.update (wanted s.calls) call.channel call.wanted := by
        rw [Subscriber.effective, hcall]
      refine ⟨?_, fun hr => ?_⟩
      · change inList (call.record s.subscribedChannels) = wanted (s.calls ++ [call])
        rw [inList_record, wanted_append, h.recorded]
      · obtain ⟨c, hs, hch⟩ := h.live hr
        refine ⟨c, hs, ?_⟩
        change c.channels = wanted (s.calls ++ [call])
        rw [hch, heff, wanted_append]
    · cases hl
  | lose =>
    rw [Subscriber.step] at hl
    split at hl
    · cases hl
      exact ⟨h.recorded, fun hr => by cases hr⟩
    · cases hl
  | resubscribe connects writes =>
    rw [Subscriber.step] at hl
    split at hl
    · rename_i hn
      cases hl
      exact h.resubscribe (by simpa using hn) hq
    · cases hl

/-! ## What the other steps lead to -/

/-- A loss, if there is a connection, and a `resubscribe` that works. -/
theorem exists_resubscribe (hc : s.calling = none) : ∃ ls, ∃ s' : Subscriber, ∃ c,
    subscriber.runs ls s = some s' ∧ s'.calling = none ∧ s'.resubscribed = true ∧
      s'.context = some c ∧ c.channels = inList s.subscribedChannels ∧ s'.calls = s.calls := by
  obtain ⟨c, hr⟩ := SubscribeContext.replay_succeeds (Nat.le_refl s.subscribedChannels.length)
    (c := .connect) rfl
  have hch : c.channels = inList s.subscribedChannels := by
    funext ch
    rw [SubscribeContext.replay_channels hr ch]
    rfl
  have hres : ∀ s₁ : Subscriber, s₁.context = none → s₁.subscribedChannels = s.subscribedChannels →
      Subscriber.step (.resubscribe true s.subscribedChannels.length) s₁ =
        some { s₁ with context := some c, resubscribed := true } := by
    intro s₁ hn hl
    rw [Subscriber.step, hn, Option.isNone_none, if_pos rfl, Subscriber.resubscribe, hn, hl]
    simp only [Option.none_or, if_true, hr]
  cases hctx : s.context with
  | none =>
    exact ⟨[_], _, c, Subscriber.runs_cons (hres s hctx rfl), hc, rfl, rfl, hch, rfl⟩
  | some c₀ =>
    have hlose : Subscriber.step .lose s = some { s with context := none, resubscribed := false } := by
      rw [Subscriber.step, hctx]
      rfl
    exact ⟨[_, _], _, c, (Subscriber.runs_cons hlose).trans (Subscriber.runs_cons (hres _ rfl rfl)),
      hc, rfl, rfl, hch, rfl⟩

/-- A call that does not agree and is not recorded breaks what a `resubscribe` makes. -/
theorem broken_of_done {call : ChannelCall} (hd : ¬call.Agrees s) {s₁ : Subscriber}
    (hc : s₁.calling = none) (hcalls : s₁.calls = s.calls ++ [call])
    (hrec : s₁.subscribedChannels = s.subscribedChannels) :
    ∃ ls, ∃ s' : Subscriber, subscriber.runs ls s₁ = some s' ∧ ¬Resubscribed s' := by
  obtain ⟨ls, s', c, hr, hn, hres, hctx, hch, hsame⟩ := exists_resubscribe hc
  refine ⟨ls, s', hr, fun hgood => ?_⟩
  obtain ⟨c', hctx', hw⟩ := hgood hn hres
  rw [hctx] at hctx'
  cases hctx'
  have := hw call.channel
  rw [hch, hrec, hsame, hcalls, wanted_append, Function.update_self] at this
  exact hd this

/-- **A step that is not of `Agrees`**: what follows can break the channels. -/
theorem broken_of_not_agrees {l : SubscriberLabel} (hq : ¬Agrees l s)
    (hl : Subscriber.step l s = some s') :
    ∃ ls, ∃ s'' : Subscriber, subscriber.runs ls s' = some s'' ∧ ¬Resubscribed s'' := by
  cases l with
  | call call =>
    simp only [Agrees, Classical.not_imp] at hq
    rw [Subscriber.step] at hl
    split at hl
    · rw [if_neg (by rw [hq.1]; decide)] at hl
      cases hl
      exact broken_of_done hq.2 rfl rfl rfl
    · cases hl
  | write ok =>
    simp only [Agrees, not_forall] at hq
    obtain ⟨call, pc, hcall, hfail, hd⟩ := hq
    rw [Subscriber.step] at hl
    split at hl
    · rename_i call' c hcall' hctx
      rw [hcall] at hcall'
      cases hcall'
      split at hl
      · rename_i c' hw
        obtain ⟨he, hk, -⟩ := SubscribeContext.write_ok hw
        rcases hfail with hu | hk'
        · rw [Subscriber.usable, hctx, Option.any_some, he] at hu
          cases hu
        · rw [hk] at hk'
          cases hk'
      · cases hl
        exact broken_of_done hd rfl rfl rfl
    · cases hl
  | resubscribe connects writes =>
    simp only [Agrees, not_forall] at hq
    obtain ⟨call, hcall, ⟨rfl, hle⟩, hd⟩ := hq
    rw [Subscriber.step] at hl
    split at hl
    · rename_i hn
      have hnone : s.context = none := by simpa using hn
      obtain ⟨c, hr⟩ := SubscribeContext.replay_succeeds hle (c := .connect) rfl
      rw [Subscriber.resubscribe, hnone, Option.none_or, if_pos rfl] at hl
      simp only [hr] at hl
      cases hl
      -- the call records its channel now, after the replay
      have hstep : Subscriber.step .record { s with context := some c, resubscribed := true } =
          some { s with
            context := some c
            resubscribed := true
            subscribedChannels := call.record s.subscribedChannels
            calling := none
            calls := s.calls ++ [call] } := by
        rw [Subscriber.step, hcall]
        rfl
      refine ⟨[_], _, Subscriber.runs_cons hstep, fun hgood => ?_⟩
      obtain ⟨c', hctx', hw⟩ := hgood rfl rfl
      cases hctx'
      have := hw call.channel
      change _ = wanted (s.calls ++ [call]) call.channel at this
      rw [SubscribeContext.replay_channels hr, wanted_append, Function.update_self] at this
      exact hd this
    · cases hl
  | record => exact absurd trivial hq
  | lose => exact absurd trivial hq

/-- **The channels after a loss.** In every run of calls, losses and resubscribe attempts whose
steps are of `Agrees`, after every `resubscribe` the connection has exactly the channels whose most
recent call was `subscribe`; after the first step that is not, some losses and attempts lead to a
connection that has not. -/
theorem resubscribed_exactly {s : Subscriber} (h : subscriber.ReachBy Agrees s) :
    Resubscribed s ∧ ∀ l s', Subscriber.step l s = some s' → ¬Agrees l s →
      ∃ ls, ∃ s'' : Subscriber, subscriber.runs ls s' = some s'' ∧ ¬Resubscribed s'' := by
  have hstart : ∀ s : Subscriber, s = .start → Sound s := by
    rintro s rfl
    exact ⟨rfl, fun hr => by cases hr⟩
  have hkeep : ∀ l (s s' : Subscriber), Sound s → Agrees l s → Subscriber.step l s = some s' →
      Sound s' := fun l _ _ ih hq hl => ih.step l hq hl
  exact ⟨(h.inv hstart hkeep).resubscribed, fun l s' hl hq => broken_of_not_agrees hq hl⟩

/-- A channel that was subscribed before the loss is there again. -/
theorem resubscribed_five : ∃ s : Subscriber, s.resubscribed = true ∧ s.calls = [.subscribe 5] ∧
    Resubscribed s := by
  have h₁ : subscriber.ReachBy Agrees ⟨some .connect, [], some (.subscribe 5, .checked), [], false⟩ :=
    .step (.call (.subscribe 5)) (.init rfl) (fun hu => by cases hu) rfl
  have h₂ : subscriber.ReachBy Agrees ⟨some ⟨false, Function.update (fun _ => false) 5 true⟩, [],
      some (.subscribe 5, .written), [], false⟩ :=
    .step (.write true) h₁ (fun _ _ _ hf => by rcases hf with hf | hf <;> cases hf) rfl
  have h₃ : subscriber.ReachBy Agrees ⟨some ⟨false, Function.update (fun _ => false) 5 true⟩, [5],
      none, [.subscribe 5], false⟩ := .step .record h₂ trivial rfl
  have h₄ : subscriber.ReachBy Agrees ⟨none, [5], none, [.subscribe 5], false⟩ :=
    .step .lose h₃ trivial rfl
  have h₅ : subscriber.ReachBy Agrees ⟨some ⟨false, Function.update (fun _ => false) 5 true⟩, [5],
      none, [.subscribe 5], true⟩ :=
    .step (.resubscribe true 1) h₄ (fun _ hc => by cases hc) rfl
  exact ⟨_, rfl, rfl, (resubscribed_exactly h₅).1⟩

/-- A user who logs in while the connection is lost is not subscribed after it is back. -/
theorem resubscribed_forgets : ¬ ∀ s : Subscriber, subscriber.Reach s → Resubscribed s := by
  intro hall
  have hs : subscriber.runs [.lose, .call (.subscribe 5), .resubscribe true 0] .start =
      some ⟨some .connect, [], none, [.subscribe 5], true⟩ := rfl
  have hgood := hall _ (.runs (.init rfl) hs)
  obtain ⟨c, hc, hw⟩ := hgood rfl rfl
  cases hc
  have hfive : wanted [.subscribe 5] 5 = true := by decide
  have := hw 5
  rw [hfive] at this
  cases this

end QtChat
