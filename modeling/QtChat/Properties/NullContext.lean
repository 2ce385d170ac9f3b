import QtChat.Redis.SharedContext

/-!
# The null context

A call of `subscribe` or `unsubscribe` does not look at `_subcribe_context` again once it has the
lock. `null_given_iff`: a null pointer is given to hiredis exactly in the runs in which a call takes
the lock after the observer has freed the context and before it has connected anew. The observer and
`resubscribe` look again under the lock.
-/

namespace QtChat

open Interleave

namespace SharedContext

/-- The context is freed, told from the labels: the last of the frees and connects is a free. -/
def lostBy : Bool → SharedLabel → Bool
  | _, .free => true
  | lost, .resubscribe connects _ => lost && !connects
  | lost, _ => lost

def lostAfter (ls : List SharedLabel) : Bool := ls.foldl lostBy false

/-- Without a free the context is not lost. -/
theorem lostAfter_of_not_mem {ls : List SharedLabel} (h : SharedLabel.free ∉ ls) :
    lostAfter ls = false := by
  unfold lostAfter
  induction ls with
  | nil => rfl
  | cons l ls ih =>
    rw [List.mem_cons, not_or] at h
    have hl : lostBy false l = false := by
      cases l with
      | free => exact absurd rfl h.1
      | resubscribe connects writes => rfl
      | _ => rfl
    rw [List.foldl_cons, hl]
    exact ih h.2

variable {s s' : SharedContext} {l : SharedLabel}

theorem step_some (h : step l s = some s') : s.fault = none ∧ move l s = some s' := by
  unfold step at h
  split at h
  · exact ⟨by assumption, h⟩
  · cases h

/-- What a step does to the pointer, and when it gives a null pointer to hiredis: in the section of
a call. -/
theorem move_spec (hf : s.fault = none) (h : move l s = some s') :
    (s'.context = none ↔
      l = .free ∨ s.context = none ∧ ∀ writes, l ≠ .resubscribe true writes) ∧
    (s'.fault = some .nullGiven ↔ (∃ t ok, l = .write t ok) ∧ s.context = none) := by
  cases l with
  | begin t call =>
    simp only [move] at h
    split at h
    · cases h
      split <;> simp [setCall, hf]
    · cases h
  | readErr t =>
    simp only [move] at h
    split at h
    · split at h <;> cases h <;> simp [setCall, hf]
    · cases h
  | write t ok =>
    simp only [move] at h
    split at h
    · cases h
      unfold writeCall
      split
      · simp_all
      · split <;> simp_all [setCall]
    · cases h
  | record t =>
    simp only [move] at h
    split at h
    · cases h
      simp [setCall, hf]
    · cases h
  | look =>
    simp only [move] at h
    split at h <;> cases h
    simp [hf]
  | readFd =>
    simp only [move] at h
    split at h
    · split at h <;> cases h <;> simp_all
    · cases h
  | poll readable =>
    simp only [move] at h
    split at h <;> cases h
    simp [hf]
  | getReply ok =>
    simp only [move] at h
    split at h
    · cases h
      unfold getReply
      split
      · simp_all
      · split <;> simp_all
    · cases h
  | free =>
    simp only [move] at h
    split at h <;> cases h
    simp [hf]
  | resubscribe connects writes =>
    simp only [move] at h
    split at h
    · cases h
      unfold resubscribe
      cases hc : s.context with
      | none => cases connects <;> simp [hf]
      | some c => simp [hf]
    · cases h
  | quit =>
    simp only [move] at h
    split at h <;> cases h
    simp [hf]

/-- **The pointer by the labels**: it is null exactly behind a free that no connect has followed. -/
theorem context_none_iff {ls : List SharedLabel} (lost : Bool)
    (hs : s.context = none ↔ lost = true) (hr : sharedContext.runs ls s = some s') :
    s'.context = none ↔ ls.foldl lostBy lost = true := by
  induction ls generalizing s lost with
  | nil =>
    cases hr
    exact hs
  | cons l ls ih =>
    obtain ⟨s₁, hl, hr⟩ := Option.bind_eq_some_iff.mp hr
    refine ih _ ?_ hr
    obtain ⟨hf, hm⟩ := step_some hl
    rw [(move_spec hf hm).1, hs]
    cases l with
    | free => simp [lostBy]
    | resubscribe connects writes => cases connects <;> simp [lostBy]
    | _ => simp [lostBy]

/-- Without a context and an observer nothing happens. -/
theorem off_runs {ls : List SharedLabel} (hr : sharedContext.runs ls off = some s) :
    s = off ∧ ∀ l ∈ ls, ∃ t call, l = .begin t call := by
  induction ls with
  | nil =>
    cases hr
    exact ⟨rfl, by simp⟩
  | cons l ls ih =>
    obtain ⟨s₁, hl, hr⟩ := Option.bind_eq_some_iff.mp hr
    cases l with
    | begin t call =>
      cases hl
      obtain ⟨rfl, h⟩ := ih hr
      exact ⟨rfl, by simpa using h⟩
    | _ => cases hl

/-- **When hiredis never gets a null pointer**: no call takes the lock between the observer's free
of the context and the next connect that works. -/
theorem null_given_iff {s₀ : SharedContext} (hs : sharedContext.init s₀) {ls : List SharedLabel}
    (hr : sharedContext.runs ls s₀ = some s) :
    (∀ s₁, sharedContext.Passes ls s₀ s₁ → s₁.fault ≠ some .nullGiven) ↔
      ∀ (pre post : List SharedLabel) (t : Nat) (ok : Bool), ls = pre ++ .write t ok :: post →
        lostAfter pre = false := by
  have hfault : s₀.fault = none := by rcases hs with rfl | rfl <;> rfl
  -- one step: the property is lost exactly at the section of a call with a null pointer
  have hiff := Machine.passes_iff_takes (M := sharedContext)
    (Q := fun l s => ∀ t ok, l = SharedLabel.write t ok → s.context ≠ none)
    (G := fun s => s.fault ≠ some .nullGiven) (P := fun s => s.fault ≠ some .nullGiven)
    (fun _ h => h)
    (by
      intro l s s' _ hl
      obtain ⟨hf, hm⟩ := step_some hl
      have h := (move_spec hf hm).2
      constructor
      · rintro hq hn
        obtain ⟨⟨t, ok, rfl⟩, hc⟩ := h.mp hn
        exact hq t ok rfl hc
      · rintro hp t ok rfl hc
        exact hp (h.mpr ⟨⟨t, ok, rfl⟩, hc⟩))
    (by rw [hfault]; exact nofun) hr
  rw [hiff]
  rcases hs with rfl | rfl
  · constructor
    · rintro h pre post t ok rfl
      have happ := Machine.runs_append (M := sharedContext) pre (.write t ok :: post) start
      obtain ⟨s₁, hpre, -⟩ := Option.bind_eq_some_iff.mp (happ.symm.trans hr)
      have hc := h _ _ (Machine.takes_iff.mpr ⟨pre, post, rfl, hpre⟩) t ok rfl
      rw [Ne, context_none_iff false (by simp [start]) hpre] at hc
      exact Bool.eq_false_iff.mpr hc
    · rintro h l s₁ ht t ok rfl
      obtain ⟨pre, post, he, hpre⟩ := Machine.takes_iff.mp ht
      rw [Ne, context_none_iff false (by simp [start]) hpre]
      exact Bool.eq_false_iff.mp (h pre post t ok he)
  · -- no call gets past its first test
    have hno := (off_runs hr).2
    constructor
    · rintro - pre post t ok rfl
      obtain ⟨_, _, h⟩ := hno (.write t ok) (List.mem_append_right _ List.mem_cons_self)
      cases h
    · rintro - l s₁ ht t ok rfl
      obtain ⟨pre, post, rfl, -⟩ := Machine.takes_iff.mp ht
      obtain ⟨_, _, h⟩ := hno (.write t ok) (List.mem_append_right _ List.mem_cons_self)
      cases h

/-- A subscription with nothing in between. -/
theorem null_given_never : ∃ s, sharedContext.runs
    [.begin 0 (.subscribe 1), .readErr 0, .write 0 true, .record 0] start = some s ∧
    ∀ s₁, sharedContext.Passes [.begin 0 (.subscribe 1), .readErr 0, .write 0 true, .record 0]
      start s₁ → s₁.fault ≠ some .nullGiven := by
  have hfree : SharedLabel.free ∉
      [.begin 0 (.subscribe 1), .readErr 0, .write 0 true, .record 0] := by decide
  refine ⟨_, rfl, (null_given_iff (.inl rfl) rfl).mpr fun pre post t ok h =>
    lostAfter_of_not_mem ?_⟩
  intro hm
  exact hfree (h ▸ List.mem_append_left _ hm)

/-- A call passes its two tests, the observer's `redisGetReply` fails and it frees the context, and
the call takes the lock. -/
theorem null_given_login : ∃ s, sharedContext.runs
    [.begin 0 (.subscribe 1), .readErr 0, .look, .readFd, .poll true, .getReply false, .free,
      .write 0 true] start = some s ∧ s.fault = some .nullGiven :=
  ⟨_, rfl, rfl⟩

end SharedContext

end QtChat
