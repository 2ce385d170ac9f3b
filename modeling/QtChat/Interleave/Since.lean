import QtChat.Interleave.Machine

/-!
# What a run did before and has kept since

`Machine.Since A P`: the states that runs reach in which a step of the kind `A` was taken, and `P`
has held in every state since.

- `Reach.since`: where `P` holds, if only a step of the kind `A` can make it hold.
- `Since.inv`: what such a step brings about, and the steps that keep `P` keep.
-/

namespace Interleave.Machine

variable {M : Machine} {A : M.State → M.State → Prop} {P : M.State → Prop} {s s' : M.State}

/-- A run has taken a step of the kind `A`, and `P` has held since. -/
inductive Since (M : Machine) (A : M.State → M.State → Prop) (P : M.State → Prop) : M.State → Prop
  | start {s s' : M.State} (l : M.Label) : M.Reach s → M.step l s = some s' → A s s' → P s' →
      Since M A P s'
  | keep {s s' : M.State} (l : M.Label) : Since M A P s → M.step l s = some s' → P s' →
      Since M A P s'

theorem Since.reach (h : M.Since A P s) : M.Reach s := by
  induction h with
  | start l hs hl _ _ => exact hs.step l hl
  | keep l _ hl _ ih => exact ih.step l hl

theorem Since.holds (h : M.Since A P s) : P s := by
  cases h with
  | start _ _ _ _ hp | keep _ _ _ hp => exact hp

/-- **What is true since the step.** -/
theorem Since.inv {I : M.State → Prop}
    (hstart : ∀ l s s', M.Reach s → M.step l s = some s' → A s s' → P s' → I s')
    (hkeep : ∀ l s s', M.Since A P s → I s → M.step l s = some s' → P s' → I s')
    (h : M.Since A P s) : I s := by
  induction h with
  | start l hs hl ha hp => exact hstart l _ _ hs hl ha hp
  | keep l hs hl hp ih => exact hkeep l _ _ hs ih hl hp

/-- **There was such a step**, if `P` does not hold initially and only such steps make it hold; `G`
is what was true all along. -/
theorem Reach.since {G : M.State → Prop} {β : Type} {B : β → M.State → M.State → Prop}
    (hinit : ∀ s, M.init s → ¬ P s) (hback : ∀ l s s', M.step l s = some s' → G s' → G s)
    (hstep : ∀ l s s', M.Reach s → M.step l s = some s' → G s' → P s' → ¬ P s → ∃ b, B b s s')
    (h : M.Reach s) (hg : G s) (hp : P s) : ∃ b, M.Since (B b) P s := by
  induction h with
  | init hs => exact absurd hp (hinit _ hs)
  | @step s s' l hs hl ih =>
    by_cases hps : P s
    · obtain ⟨b, hb⟩ := ih (hback l s s' hl hg) hps
      exact ⟨b, .keep l hb hl hp⟩
    · obtain ⟨b, hb⟩ := hstep l s s' hs hl hg hp hps
      exact ⟨b, .start l hs hl hb hp⟩

end Interleave.Machine
