import Mathlib.Data.Option.Basic

/-!
# Machines with labelled steps

A machine has initial states and, for each label, a partial step. `Reach` are the states that its
runs reach; `Reach.inv` is the rule for an invariant of every step. `runs` computes the run of a
list of labels. `ReachBy Q` are the states that runs reach in which every step satisfies `Q`;
`runsBy` computes one of them. `passes_iff_takes` is the rule for a property that holds all along a
run exactly if the steps of the run satisfy `Q`; `runs_split` the one for its last state, when what
is lost once stays lost. `tally` adds up along a run.
-/

namespace Interleave

/-- States, and what each label does to one; `none`: the step cannot be taken. -/
structure Machine where
  State : Type
  Label : Type
  init : State → Prop
  step : Label → State → Option State

namespace Machine

variable {M : Machine}

/-- The states that a run reaches. -/
inductive Reach (M : Machine) : M.State → Prop
  | init {s : M.State} : M.init s → Reach M s
  | step {s s' : M.State} (l : M.Label) : Reach M s → M.step l s = some s' → Reach M s'

/-- The run of the labels, in order. -/
def runs (M : Machine) : List M.Label → M.State → Option M.State
  | [], s => some s
  | l :: ls, s => (M.step l s).bind (M.runs ls)

/-- The machine with the allowed steps alone. -/
def restrict (M : Machine) (allowed : M.Label → Bool) : Machine where
  State := M.State
  Label := M.Label
  init := M.init
  step l s := if allowed l then M.step l s else none

theorem step_of_restrict {allowed : M.Label → Bool} {l : M.Label} {s s' : M.State}
    (h : (M.restrict allowed).step l s = some s') : allowed l = true ∧ M.step l s = some s' := by
  change (if allowed l then M.step l s else none) = some s' at h
  split at h
  · rename_i ha
    exact ⟨ha, h⟩
  · cases h

/-- **Invariants.** What holds initially and is kept by every step holds in every reachable state.
-/
theorem Reach.inv {I : M.State → Prop} (hinit : ∀ s, M.init s → I s)
    (hstep : ∀ l s s', I s → M.step l s = some s' → I s') {s : M.State} (h : M.Reach s) : I s := by
  induction h with
  | init hs => exact hinit _ hs
  | step l _ hl ih => exact hstep l _ _ ih hl

theorem runs_step {l : M.Label} {ls : List M.Label} {s s₁ : M.State} (h : M.step l s = some s₁) :
    M.runs (l :: ls) s = M.runs ls s₁ := by
  rw [Machine.runs, h, Option.bind_some]

theorem Reach.runs {ls : List M.Label} {s s' : M.State} (h : M.Reach s)
    (hr : M.runs ls s = some s') : M.Reach s' := by
  induction ls generalizing s with
  | nil => cases hr; exact h
  | cons l ls ih =>
    obtain ⟨s₁, h₁, h₂⟩ := Option.bind_eq_some_iff.mp hr
    exact ih (h.step l h₁) h₂

/-! ## Runs with a condition on the steps -/

/-- The states that runs reach whose every step, with the state before it, satisfies `Q`. -/
inductive ReachBy (M : Machine) (Q : M.Label → M.State → Prop) : M.State → Prop
  | init {s : M.State} : M.init s → ReachBy M Q s
  | step {s s' : M.State} (l : M.Label) : ReachBy M Q s → Q l s → M.step l s = some s' →
      ReachBy M Q s'

variable {Q : M.Label → M.State → Prop}

/-- **Invariants of the steps that satisfy `Q`.** -/
theorem ReachBy.inv {I : M.State → Prop} (hinit : ∀ s, M.init s → I s)
    (hstep : ∀ l s s', I s → Q l s → M.step l s = some s' → I s') {s : M.State}
    (h : M.ReachBy Q s) : I s := by
  induction h with
  | init hs => exact hinit _ hs
  | step l _ hq hl ih => exact hstep l _ _ ih hq hl

theorem ReachBy.reach {s : M.State} (h : M.ReachBy Q s) : M.Reach s := by
  induction h with
  | init hs => exact .init hs
  | step l _ _ hl ih => exact ih.step l hl

/-- Every step satisfies what is true of all. -/
theorem Reach.reachBy {s : M.State} (h : M.Reach s) (hq : ∀ l s, Q l s) : M.ReachBy Q s := by
  induction h with
  | init hs => exact .init hs
  | step l _ hl ih => exact ih.step l (hq l _) hl

/-- The run of the labels, if its steps satisfy `Q`. -/
def runsBy (M : Machine) (Q : M.Label → M.State → Prop) [∀ l s, Decidable (Q l s)] :
    List M.Label → M.State → Option M.State
  | [], s => some s
  | l :: ls, s => if Q l s then (M.step l s).bind (M.runsBy Q ls) else none

theorem ReachBy.runs [∀ l s, Decidable (Q l s)] {ls : List M.Label} {s s' : M.State}
    (h : M.ReachBy Q s) (hr : M.runsBy Q ls s = some s') : M.ReachBy Q s' := by
  induction ls generalizing s with
  | nil =>
    cases hr
    exact h
  | cons l ls ih =>
    rw [runsBy] at hr
    split at hr
    · rename_i hq
      obtain ⟨s₁, h₁, h₂⟩ := Option.bind_eq_some_iff.mp hr
      exact ih (h.step l hq h₁) h₂
    · cases hr

/-! ## Runs of labels -/

/-- What every step of an allowed label keeps, a run of allowed labels keeps. -/
theorem runs_keep_of {I : M.State → Prop} {A : M.Label → Prop}
    (hstep : ∀ l s s', A l → I s → M.step l s = some s' → I s') {ls : List M.Label}
    (hls : ∀ l ∈ ls, A l) {s s' : M.State} (hs : I s) (hr : M.runs ls s = some s') : I s' := by
  induction ls generalizing s with
  | nil => cases hr; exact hs
  | cons l ls ih =>
    obtain ⟨s₁, h₁, h₂⟩ := Option.bind_eq_some_iff.mp hr
    exact ih (fun l hl => hls l (List.mem_cons_of_mem _ hl))
      (hstep l s s₁ (hls l List.mem_cons_self) hs h₁) h₂

/-- What every step keeps, a run keeps. -/
theorem runs_keep {I : M.State → Prop} (hstep : ∀ l s s', I s → M.step l s = some s' → I s')
    {ls : List M.Label} {s s' : M.State} (hs : I s) (hr : M.runs ls s = some s') : I s' :=
  runs_keep_of (A := fun _ => True) (fun l s s' _ => hstep l s s') (fun _ _ => trivial) hs hr

/-! ## What a run goes through -/

/-- The states that the run of the labels goes through. -/
def Passes (M : Machine) : List M.Label → M.State → M.State → Prop
  | [], s, s' => s' = s
  | l :: ls, s, s' => s' = s ∨ ∃ s₁, M.step l s = some s₁ ∧ Passes M ls s₁ s'

/-- The steps that the run of the labels takes: a label, and the state before it. -/
def Takes (M : Machine) : List M.Label → M.State → M.Label → M.State → Prop
  | [], _, _, _ => False
  | l :: ls, s, l', s' => l' = l ∧ s' = s ∨ ∃ s₁, M.step l s = some s₁ ∧ Takes M ls s₁ l' s'

/-- Where a run goes through is reachable. -/
theorem Reach.passes {ls : List M.Label} {s s' : M.State} (h : M.Reach s) (hp : M.Passes ls s s') :
    M.Reach s' := by
  induction ls generalizing s with
  | nil =>
    obtain rfl : s' = s := hp
    exact h
  | cons l ls ih =>
    rcases hp with rfl | ⟨s₁, hl, hp⟩
    · exact h
    · exact ih (h.step l hl) hp

theorem Reach.takes {ls : List M.Label} {s s' : M.State} {l : M.Label} (h : M.Reach s)
    (ht : M.Takes ls s l s') : M.Reach s' := by
  induction ls generalizing s with
  | nil => exact ht.elim
  | cons l' ls ih =>
    rcases ht with ⟨-, rfl⟩ | ⟨s₁, hl, ht⟩
    · exact h
    · exact ih (h.step l' hl) ht

/-- The steps that a run takes, by the labels before them. -/
theorem takes_iff {ls : List M.Label} {s s₁ : M.State} {l : M.Label} : M.Takes ls s l s₁ ↔
    ∃ pre post, ls = pre ++ l :: post ∧ M.runs pre s = some s₁ := by
  induction ls generalizing s with
  | nil => exact iff_of_false id (by simp)
  | cons l' ls ih =>
    constructor
    · rintro (⟨rfl, rfl⟩ | ⟨s₂, hl, ht⟩)
      · exact ⟨[], ls, rfl, rfl⟩
      · obtain ⟨pre, post, rfl, hr⟩ := ih.mp ht
        exact ⟨l' :: pre, post, rfl, by rw [runs_step hl, hr]⟩
    · rintro ⟨pre, post, he, hr⟩
      cases pre with
      | nil =>
        cases he
        cases hr
        exact .inl ⟨rfl, rfl⟩
      | cons l'' pre =>
        cases he
        obtain ⟨s₂, hl, hr⟩ := Option.bind_eq_some_iff.mp hr
        exact .inr ⟨s₂, hl, ih.mpr ⟨pre, post, rfl, hr⟩⟩

/-- What the steps that satisfy `Q` keep, a run of such steps keeps. -/
theorem runs_keep_takes {I : M.State → Prop}
    (hstep : ∀ l s s', Q l s → I s → M.step l s = some s' → I s') {ls : List M.Label}
    {s s' : M.State} (hs : I s) (hls : ∀ l s₁, M.Takes ls s l s₁ → Q l s₁)
    (hr : M.runs ls s = some s') : I s' := by
  induction ls generalizing s with
  | nil =>
    cases hr
    exact hs
  | cons l ls ih =>
    obtain ⟨s₁, h₁, hr⟩ := Option.bind_eq_some_iff.mp hr
    exact ih (hstep l s s₁ (hls l s (.inl ⟨rfl, rfl⟩)) hs h₁)
      (fun l' s₂ ht => hls l' s₂ (.inr ⟨s₁, h₁, ht⟩)) hr

/-- All steps of a run that `runsBy` computes satisfy `Q`. -/
theorem runsBy_takes [∀ l s, Decidable (Q l s)] {ls : List M.Label} {s s' : M.State}
    (hr : M.runsBy Q ls s = some s') :
    M.runs ls s = some s' ∧ ∀ l s₁, M.Takes ls s l s₁ → Q l s₁ := by
  induction ls generalizing s with
  | nil =>
    cases hr
    exact ⟨rfl, fun _ _ ht => ht.elim⟩
  | cons l ls ih =>
    rw [runsBy] at hr
    split at hr
    · rename_i hq
      obtain ⟨s₁, h₁, hr⟩ := Option.bind_eq_some_iff.mp hr
      obtain ⟨hruns, hall⟩ := ih hr
      refine ⟨(runs_step h₁).trans hruns, ?_⟩
      rintro l' s' (⟨rfl, rfl⟩ | ⟨s₂, h₂, ht⟩)
      · exact hq
      · rw [h₁] at h₂
        cases h₂
        exact hall l' s' ht
    · cases hr

/-- A step that a run takes can be taken. -/
theorem takes_step {ls : List M.Label} {s s' s₁ : M.State} {l : M.Label}
    (hr : M.runs ls s = some s') (ht : M.Takes ls s l s₁) : ∃ s₂, M.step l s₁ = some s₂ := by
  induction ls generalizing s with
  | nil => exact ht.elim
  | cons l' ls ih =>
    obtain ⟨s₂, hl, hr⟩ := Option.bind_eq_some_iff.mp hr
    rcases ht with ⟨rfl, rfl⟩ | ⟨s₃, hl', ht⟩
    · exact ⟨s₂, hl⟩
    · rw [hl] at hl'
      cases hl'
      exact ih hr ht

/-- **A property of the steps and the condition that it needs.** If the steps with the property are
those with the condition, it holds of the steps of a run exactly if they all meet the condition. -/
theorem takes_iff_of_step {R : M.Label → M.State → M.State → Prop} {ls : List M.Label}
    {s s' : M.State} (hr : M.runs ls s = some s')
    (hstep : ∀ l s₁ s₂, M.Takes ls s l s₁ → M.step l s₁ = some s₂ → (R l s₁ s₂ ↔ Q l s₁)) :
    (∀ l s₁ s₂, M.Takes ls s l s₁ → M.step l s₁ = some s₂ → R l s₁ s₂) ↔
      ∀ l s₁, M.Takes ls s l s₁ → Q l s₁ := by
  constructor
  · intro hall l s₁ ht
    obtain ⟨s₂, hl⟩ := takes_step hr ht
    exact (hstep l s₁ s₂ ht hl).mp (hall l s₁ s₂ ht hl)
  · intro hall l s₁ s₂ ht hl
    exact (hstep l s₁ s₂ ht hl).mpr (hall l s₁ ht)

/-- **A property and the condition on the steps that it needs.** If `G` makes the property `P` true,
and from a state of `G` the steps that satisfy `Q` are those that lead to `P`, and lead to `G`, then
`P` holds all along a run exactly if all its steps satisfy `Q`. -/
theorem passes_iff_takes {G P : M.State → Prop} (hG : ∀ s, G s → P s)
    (hstep : ∀ l s s', G s → M.step l s = some s' → (Q l s → G s') ∧ (P s' → Q l s))
    {ls : List M.Label} {s s' : M.State} (hs : G s) (hr : M.runs ls s = some s') :
    (∀ s₁, M.Passes ls s s₁ → P s₁) ↔ ∀ l s₁, M.Takes ls s l s₁ → Q l s₁ := by
  induction ls generalizing s with
  | nil =>
    refine iff_of_true ?_ ?_
    · rintro s₁ rfl
      exact hG _ hs
    · rintro l s₁ ⟨⟩
  | cons l ls ih =>
    obtain ⟨s₁, hl, hr⟩ := Option.bind_eq_some_iff.mp hr
    obtain ⟨hkeep, hneed⟩ := hstep l s s₁ hs hl
    constructor
    · intro hall
      have hself : M.Passes ls s₁ s₁ := by
        cases ls with
        | nil => rfl
        | cons => exact .inl rfl
      have hq : Q l s := hneed (hall s₁ (.inr ⟨s₁, hl, hself⟩))
      rintro l' s' (⟨rfl, rfl⟩ | ⟨s₂, hs₂, ht⟩)
      · exact hq
      · rw [hl] at hs₂
        cases hs₂
        exact (ih (hkeep hq) hr).mp (fun s₂ hp => hall s₂ (.inr ⟨s₁, hl, hp⟩)) l' s' ht
    · intro hall
      have hq : Q l s := hall l s (.inl ⟨rfl, rfl⟩)
      rintro s' (rfl | ⟨s₂, hs₂, hp⟩)
      · exact hG _ hs
      · rw [hl] at hs₂
        cases hs₂
        exact (ih (hkeep hq) hr).mpr (fun l' s₂ ht => hall l' s₂ (.inr ⟨s₁, hl, ht⟩)) s' hp

/-- **A property that is lost for good.** If from a state of `G` a step that satisfies `Q` leads to
`G` and any other one to `B`, and `B` is kept, then a run of allowed labels from `G` ends in `G`
with all its steps satisfying `Q`, or in `B` with one that does not. -/
theorem runs_split {G B : M.State → Prop} {A : M.Label → Prop}
    (hstep : ∀ l s s', A l → G s → M.step l s = some s' → (Q l s → G s') ∧ (¬ Q l s → B s'))
    (hkeep : ∀ l s s', A l → B s → M.step l s = some s' → B s')
    {ls : List M.Label} {s s' : M.State} (hls : ∀ l ∈ ls, A l) (hs : G s)
    (hr : M.runs ls s = some s') :
    ((∀ l s₁, M.Takes ls s l s₁ → Q l s₁) ∧ G s') ∨ ((∃ l s₁, M.Takes ls s l s₁ ∧ ¬ Q l s₁) ∧ B s') := by
  induction ls generalizing s with
  | nil =>
    cases hr
    exact .inl ⟨fun _ _ ht => ht.elim, hs⟩
  | cons l ls ih =>
    obtain ⟨s₁, hl, hr⟩ := Option.bind_eq_some_iff.mp hr
    have hrest := fun l hl => hls l (List.mem_cons_of_mem _ hl)
    obtain ⟨hgood, hbad⟩ := hstep l s s₁ (hls l List.mem_cons_self) hs hl
    by_cases hq : Q l s
    · refine (ih hrest (hgood hq) hr).imp (fun h => ⟨?_, h.2⟩) fun h => ⟨?_, h.2⟩
      · rintro l' s' (⟨rfl, rfl⟩ | ⟨s₂, hs₂, ht⟩)
        · exact hq
        · rw [hl] at hs₂
          cases hs₂
          exact h.1 l' s' ht
      · obtain ⟨l', s', ht, hn⟩ := h.1
        exact ⟨l', s', .inr ⟨s₁, hl, ht⟩, hn⟩
    · refine .inr ⟨⟨l, s, .inl ⟨rfl, rfl⟩, hq⟩, ?_⟩
      exact runs_keep_of hkeep hrest (hbad hq) hr

/-! ## Sums along a run -/

/-- The sum over the steps of the run of the labels. -/
def tally (M : Machine) (f : M.Label → M.State → Nat) : List M.Label → M.State → Nat
  | [], _ => 0
  | l :: ls, s => f l s + ((M.step l s).map (M.tally f ls)).getD 0

/-- **A balance.** What every step adds to `v` and takes from it, a run does. -/
theorem tally_balance {I : M.State → Prop} {v : M.State → Int} {f g : M.Label → M.State → Nat}
    (hstep : ∀ l s s', M.step l s = some s' → I s' → I s ∧ v s' + f l s = v s + g l s)
    {ls : List M.Label} {s s' : M.State} (hr : M.runs ls s = some s') (hI : I s') :
    I s ∧ v s' + M.tally f ls s = v s + M.tally g ls s := by
  induction ls generalizing s with
  | nil =>
    cases hr
    exact ⟨hI, rfl⟩
  | cons l ls ih =>
    obtain ⟨s₁, hl, hr⟩ := Option.bind_eq_some_iff.mp hr
    obtain ⟨hI₁, hv₁⟩ := ih hr
    obtain ⟨hI₀, hv₀⟩ := hstep l s s₁ hl hI₁
    refine ⟨hI₀, ?_⟩
    simp only [tally, hl, Option.map_some, Option.getD_some]
    omega

theorem runs_append (ls ls' : List M.Label) (s : M.State) :
    M.runs (ls ++ ls') s = (M.runs ls s).bind (M.runs ls') := by
  induction ls generalizing s with
  | nil => rfl
  | cons l ls ih =>
    simp only [List.cons_append, Machine.runs]
    cases M.step l s with
    | none => rfl
    | some s₁ => exact ih s₁

/-- One run after the other. -/
theorem runs_trans {ls ls' : List M.Label} {s s₁ s₂ : M.State} (h : M.runs ls s = some s₁)
    (h' : M.runs ls' s₁ = some s₂) : M.runs (ls ++ ls') s = some s₂ := by
  rw [runs_append, h, Option.bind_some, h']

theorem runs_single {l : M.Label} {s s' : M.State} (hl : M.step l s = some s') :
    M.runs [l] s = some s' := (runs_step hl).trans rfl

/-- A step more. -/
theorem runs_snoc {l : M.Label} {ls : List M.Label} {s s₁ s₂ : M.State}
    (h : M.runs ls s = some s₁) (hl : M.step l s₁ = some s₂) : M.runs (ls ++ [l]) s = some s₂ :=
  runs_trans h (runs_single hl)

end Machine

end Interleave
