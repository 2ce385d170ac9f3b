import Mathlib.Order.Basic
import QtChat.Interleave.Prog

/-!
# Programs that keep to what is known

Facts are learned and never forgotten: what is known only grows (`K` with its order).

- **A discipline** (`Discipline`): the actions that are allowed when `k` is known, and the answers
  that an action can have.
- **Honest programs** (`Honest`): every action that the program performs is allowed by what is known
  when it performs it, whatever has been learned in between and whatever the answers were.
- **Runs** (`Honest.run`): if the allowed actions keep an invariant and answer as the discipline
  says (`Keeps`), so does an honest program, alone or between the actions of others
  (`Honest.next`, `Honest.mono`).
-/

namespace Interleave

/-- What programs may do and be told. -/
structure Discipline (L : Lang) (K : Type) [Preorder K] where
  may : K → L.Act → Prop
  may_mono : ∀ {k k' : K} {a : L.Act}, k ≤ k' → may k a → may k' a
  /-- The answers of an action when `k` is known after it. -/
  answers : K → (a : L.Act) → L.Res a → Prop

namespace Discipline

variable {L : Lang} {K : Type} [Preorder K] {α β : Type}

/-- The program keeps to the discipline from a moment when `k` is known, and `Q` holds of its result
and what is known then. -/
def Honest (D : Discipline L K) : K → Prog L α → (K → α → Prop) → Prop
  | k, .ret x, Q => Q k x
  | k, .act a f, Q => D.may k a ∧ ∀ k', k ≤ k' → ∀ r, D.answers k' a r → D.Honest k' (f r) Q

variable {D : Discipline L K} {k k' : K} {Q Q' : K → α → Prop} {p : Prog L α}

@[simp] theorem honest_ret (x : α) : D.Honest k (.ret x) Q = Q k x := rfl

/-- What is learned in between does no harm. -/
theorem Honest.mono (h : D.Honest k p Q) (hQ : ∀ {k₁ k₂ x}, k₁ ≤ k₂ → Q k₁ x → Q k₂ x)
    (hk : k ≤ k') : D.Honest k' p Q := by
  cases p with
  | ret x => exact hQ hk h
  | act a f => exact ⟨D.may_mono hk h.1, fun k₁ hk₁ r hr => h.2 k₁ (hk.trans hk₁) r hr⟩

theorem Honest.weaken (h : D.Honest k p Q) (hQ : ∀ k', k ≤ k' → ∀ x, Q k' x → Q' k' x) :
    D.Honest k p Q' := by
  induction p generalizing k with
  | ret x => exact hQ k le_rfl x h
  | act a f ih =>
    refine ⟨h.1, fun k₁ hk₁ r hr => ih r (h.2 k₁ hk₁ r hr) fun k₂ hk₂ => ?_⟩
    exact hQ k₂ (hk₁.trans hk₂)

theorem Honest.bind {f : α → Prog L β} {R : K → β → Prop} (h : D.Honest k p Q)
    (hf : ∀ k', k ≤ k' → ∀ x, Q k' x → D.Honest k' (f x) R) : D.Honest k (p >>= f) R := by
  induction p generalizing k with
  | ret x => exact hf k le_rfl x h
  | act a g ih =>
    refine ⟨h.1, fun k₁ hk₁ r hr => ih r (h.2 k₁ hk₁ r hr) fun k₂ hk₂ => ?_⟩
    exact hf k₂ (hk₁.trans hk₂)

theorem Honest.each {f : β → Prog L Unit} {bs : List β}
    (hf : ∀ b ∈ bs, ∀ k', k ≤ k' → D.Honest k' (f b) fun _ _ => True) :
    D.Honest k (Prog.each f bs) fun _ _ => True := by
  induction bs generalizing k with
  | nil => trivial
  | cons b bs ih =>
    rw [Prog.each_cons]
    refine (hf b List.mem_cons_self k le_rfl).bind fun k₁ hk₁ _ _ => ih fun c hc k₂ hk₂ => ?_
    exact hf c (List.mem_cons_of_mem b hc) k₂ (hk₁.trans hk₂)

/-- One allowed action. -/
theorem honest_perform {a : L.Act} (h : D.may k a) : D.Honest k (Prog.perform a) fun k' r =>
    D.answers k' a r :=
  ⟨h, fun _ _ _ hr => hr⟩

/-! ## Runs -/

/-- From a state of `I`, what an allowed action does keeps `I`, loses nothing of what is known, and
answers as the discipline says. -/
def Keeps (D : Discipline L K) (know : L.State → K) (I : L.State → Prop) (s : L.Site) : Prop :=
  ∀ a w r w', I w → D.may (know w) a → L.exec s a w = some (r, w') →
    I w' ∧ know w ≤ know w' ∧ D.answers (know w') a r

variable {know : L.State → K} {I : L.State → Prop} {s : L.Site} {w w' : L.State}

/-- The next action of an honest program, between any actions of others. -/
theorem Honest.next (hD : D.Keeps know I s) {a : L.Act} {f : L.Res a → Prog L α} {r : L.Res a}
    (hw : I w) (h : D.Honest (know w) (.act a f) Q) (he : L.exec s a w = some (r, w')) :
    I w' ∧ know w ≤ know w' ∧ D.Honest (know w') (f r) Q := by
  obtain ⟨hI, hk, hr⟩ := hD a w r w' hw h.1 he
  exact ⟨hI, hk, h.2 _ hk r hr⟩

/-- **Runs of honest programs.** -/
theorem Honest.run (hD : D.Keeps know I s) {x : α} (hw : I w) (h : D.Honest (know w) p Q)
    (hp : p.run s w = some (x, w')) : I w' ∧ know w ≤ know w' ∧ Q (know w') x := by
  induction p generalizing w with
  | ret y =>
    cases hp
    exact ⟨hw, le_rfl, h⟩
  | act a f ih =>
    rw [Prog.run_act] at hp
    obtain ⟨⟨r, w₁⟩, he, hp⟩ := Option.bind_eq_some_iff.mp hp
    obtain ⟨hI, hk, hf⟩ := h.next hD hw he
    obtain ⟨hI', hk', hx⟩ := ih r hI hf hp
    exact ⟨hI', hk.trans hk', hx⟩

end Discipline

end Interleave
