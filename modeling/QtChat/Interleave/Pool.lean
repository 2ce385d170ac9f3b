import Mathlib.Data.List.Basic
import QtChat.Interleave.Prog

/-!
# Threads that interleave

A pool of threads, each with what is left of its program. A step performs the next action of one
thread; between the steps the environment may change the state on its own (`env`, silent: a timer,
a queue that is emptied). A run (`Run`) has the trace of the actions with their answers.

Two views of a run, which the proofs about runs use instead of the run itself:

- **A thread's own calls** (`own t tr`) are a path through its program (`Run.path`). What all paths
  of a program have in common is computed from the program: `Ends` (the complete paths) and
  `Always` (what has happened before each action).
- **The state** is what the actions of the trace, in order, make of it (`Run.evolves`), whatever
  thread they come from. `Evolves.keep` is the rule for what every one of them keeps, and
  `Evolves.split` cuts the trace at an action.

`sched` runs a given schedule, so that one run can be computed (`sched_run`).
-/

namespace Interleave

/-- A thread. -/
abbrev Tid := Nat

/-- An action with its answer. -/
structure Call (L : Lang) where
  act : L.Act
  res : L.Res act

/-- An action of a thread. -/
structure Ev (L : Lang) where
  tid : Tid
  call : Call L

/-- The threads: what is left of each one's program. -/
abbrev Pool (L : Lang) := Tid → Prog L Unit

section Runs

variable {L : Lang} (site : Tid → L.Site) (env : L.State → Option L.State)

/-- A run of the pool with its trace. -/
inductive Run : Pool L → L.State → List (Ev L) → Pool L → L.State → Prop
  | nil (P : Pool L) (w : L.State) : Run P w [] P w
  | env {P P' : Pool L} {w w₁ w' : L.State} {tr : List (Ev L)} :
      env w = some w₁ → Run P w₁ tr P' w' → Run P w tr P' w'
  | step {P P' : Pool L} {w w₁ w' : L.State} {tr : List (Ev L)} (t : Tid) {a : L.Act}
      {k : L.Res a → Prog L Unit} {r : L.Res a} :
      P t = .act a k → L.exec (site t) a w = some (r, w₁) →
      Run (Function.update P t (k r)) w₁ tr P' w' → Run P w (⟨t, ⟨a, r⟩⟩ :: tr) P' w'

/-- What the actions of a trace make of the state. -/
inductive Evolves : L.State → List (Ev L) → L.State → Prop
  | nil (w : L.State) : Evolves w [] w
  | env {w w₁ w' : L.State} {tr : List (Ev L)} :
      env w = some w₁ → Evolves w₁ tr w' → Evolves w tr w'
  | step {w w₁ w' : L.State} {e : Ev L} {tr : List (Ev L)} :
      L.exec (site e.tid) e.call.act w = some (e.call.res, w₁) → Evolves w₁ tr w' →
      Evolves w (e :: tr) w'

/-- A schedule: the next thread, or the environment. -/
def sched : List (Option Tid) → Pool L → L.State → Option (List (Ev L) × Pool L × L.State)
  | [], P, w => some ([], P, w)
  | none :: ts, P, w => match env w with
    | none => none
    | some w₁ => sched ts P w₁
  | some t :: ts, P, w => match P t with
    | .ret _ => none
    | .act a k => match L.exec (site t) a w with
      | none => none
      | some (r, w₁) => match sched ts (Function.update P t (k r)) w₁ with
        | none => none
        | some (tr, P', w') => some (⟨t, ⟨a, r⟩⟩ :: tr, P', w')

variable {site env}

theorem Run.evolves {P P' : Pool L} {w w' : L.State} {tr : List (Ev L)}
    (h : Run site env P w tr P' w') : Evolves site env w tr w' := by
  induction h with
  | nil P w => exact .nil w
  | env he _ ih => exact .env he ih
  | step t hp hx _ ih => exact .step hx ih

theorem sched_run {ts : List (Option Tid)} {P P' : Pool L} {w w' : L.State} {tr : List (Ev L)}
    (h : sched site env ts P w = some (tr, P', w')) : Run site env P w tr P' w' := by
  induction ts generalizing P w tr with
  | nil => cases h; exact .nil _ _
  | cons o ts ih =>
    cases o with
    | none =>
      simp only [sched] at h
      split at h
      · cases h
      · rename_i w₁ he; exact .env he (ih h)
    | some t =>
      simp only [sched] at h
      split at h
      · cases h
      · rename_i a k hp
        split at h
        · cases h
        · rename_i r w₁ hx
          split at h
          · cases h
          · rename_i tr' P₁ w₂ hs
            cases h
            exact .step t hp hx (ih hs)

/-! ## The state along a trace -/

theorem Evolves.split {w w' : L.State} {tr₁ tr₂ : List (Ev L)}
    (h : Evolves site env w (tr₁ ++ tr₂) w') :
    ∃ w₁, Evolves site env w tr₁ w₁ ∧ Evolves site env w₁ tr₂ w' := by
  generalize ht : tr₁ ++ tr₂ = tr at h
  induction h generalizing tr₁ with
  | nil w =>
    obtain ⟨rfl, rfl⟩ := List.append_eq_nil_iff.mp ht
    exact ⟨w, .nil w, .nil w⟩
  | env he _ ih =>
    obtain ⟨w₁, h₁, h₂⟩ := ih ht
    exact ⟨w₁, .env he h₁, h₂⟩
  | step hx hr ih =>
    cases tr₁ with
    | nil =>
      rw [List.nil_append] at ht
      subst ht
      exact ⟨_, .nil _, .step hx hr⟩
    | cons e tr₁ =>
      rw [List.cons_append] at ht
      cases ht
      obtain ⟨w₁, h₁, h₂⟩ := ih rfl
      exact ⟨w₁, .step hx h₁, h₂⟩

/-- The environment may do more. -/
theorem Evolves.mono {env' : L.State → Option L.State}
    (he : ∀ w w₁, env w = some w₁ → env' w = some w₁) {w w' : L.State} {tr : List (Ev L)} (h : Evolves site env w tr w') :
    Evolves site env' w tr w' := by
  induction h with
  | nil w => exact .nil w
  | env h _ ih => exact .env (he _ _ h) ih
  | step hx _ ih => exact .step hx ih

theorem Evolves.append {w w₁ w' : L.State} {tr₁ tr₂ : List (Ev L)}
    (h₁ : Evolves site env w tr₁ w₁) (h₂ : Evolves site env w₁ tr₂ w') :
    Evolves site env w (tr₁ ++ tr₂) w' := by
  induction h₁ with
  | nil w => exact h₂
  | env he _ ih => exact .env he (ih h₂)
  | step hx _ ih => exact .step hx (ih h₂)

/-- The first action of a trace: the environment, the action, the rest. -/
theorem Evolves.cons {w w' : L.State} {e : Ev L} {tr : List (Ev L)}
    (h : Evolves site env w (e :: tr) w') :
    ∃ w₀ w₁, Evolves site env w [] w₀ ∧
      L.exec (site e.tid) e.call.act w₀ = some (e.call.res, w₁) ∧ Evolves site env w₁ tr w' := by
  generalize ht : e :: tr = tr' at h
  induction h with
  | nil w => cases ht
  | env he _ ih =>
    obtain ⟨w₀, w₁, h₀, hx, h₁⟩ := ih ht
    exact ⟨w₀, w₁, .env he h₀, hx, h₁⟩
  | step hx hr ih =>
    cases ht
    exact ⟨_, _, .nil _, hx, hr⟩

/-- Without an environment nothing changes where there is no action. -/
theorem Evolves.eq_of_nil (henv : ∀ w, env w = none) {w w' : L.State}
    (h : Evolves site env w [] w') : w' = w := by
  cases h with
  | nil => rfl
  | env he => rw [henv] at he; cases he

/-- Without an environment the state after a part of the trace is one state. -/
theorem Evolves.after (henv : ∀ w, env w = none) {w w₁ w' : L.State} {e : Ev L}
    {tr₁ tr₂ : List (Ev L)} (h : Evolves site env w (tr₁ ++ e :: tr₂) w')
    (h₁ : Evolves site env w tr₁ w₁) :
    ∃ w₂, L.exec (site e.tid) e.call.act w₁ = some (e.call.res, w₂) ∧
      Evolves site env w₂ tr₂ w' := by
  induction h₁ with
  | nil w =>
    obtain ⟨w₀, w₂, h₀, hx, h₂⟩ := h.cons
    rw [h₀.eq_of_nil henv] at hx
    exact ⟨w₂, hx, h₂⟩
  | env he => rw [henv] at he; cases he
  | step hx _ ih =>
    obtain ⟨w₀, w₂, h₀, hx', h₂⟩ := h.cons
    rw [h₀.eq_of_nil henv, hx] at hx'
    cases hx'
    exact ih h₂

/-- **The rule for what every step keeps.** `R` relates the states before and after. -/
theorem Evolves.keep {R : L.State → L.State → Prop} (hr : ∀ w, R w w)
    (ht : ∀ w₁ w₂ w₃, R w₁ w₂ → R w₂ w₃ → R w₁ w₃) (henv : ∀ w w₁, env w = some w₁ → R w w₁)
    {w w' : L.State} {tr : List (Ev L)} (h : Evolves site env w tr w')
    (hs : ∀ e ∈ tr, ∀ w w₁, L.exec (site e.tid) e.call.act w = some (e.call.res, w₁) → R w w₁) :
    R w w' := by
  induction h with
  | nil w => exact hr w
  | env he _ ih => exact ht _ _ _ (henv _ _ he) (ih hs)
  | step hx _ ih =>
    exact ht _ _ _ (hs _ (by simp) _ _ hx) (ih fun e he => hs e (by simp [he]))

/-- What every step keeps of one state. -/
theorem Evolves.inv {I : L.State → Prop} (henv : ∀ w w₁, env w = some w₁ → I w → I w₁)
    {w w' : L.State} {tr : List (Ev L)} (h : Evolves site env w tr w')
    (hs : ∀ e ∈ tr, ∀ w w₁, L.exec (site e.tid) e.call.act w = some (e.call.res, w₁) →
      I w → I w₁) : I w → I w' :=
  h.keep (fun _ => id) (fun _ _ _ h₁ h₂ hi => h₂ (h₁ hi)) henv hs

/-- What every step keeps, and what it says of the calls made meanwhile. -/
theorem Evolves.calls {I : L.State → Prop} {A : Call L → Prop}
    (henv : ∀ w w₁, env w = some w₁ → I w → I w₁) {w w' : L.State} {tr : List (Ev L)}
    (h : Evolves site env w tr w')
    (hs : ∀ e ∈ tr, ∀ w w₁, L.exec (site e.tid) e.call.act w = some (e.call.res, w₁) →
      I w → I w₁ ∧ A e.call) (hi : I w) : I w' ∧ ∀ e ∈ tr, A e.call := by
  induction h with
  | nil w => exact ⟨hi, by simp⟩
  | env he _ ih => exact ih hs (henv _ _ he hi)
  | step hx _ ih =>
    obtain ⟨hi₁, ha⟩ := hs _ (by simp) _ _ hx hi
    obtain ⟨hi', hc⟩ := ih (fun e he => hs e (by simp [he])) hi₁
    refine ⟨hi', fun e he => ?_⟩
    rcases List.mem_cons.mp he with rfl | he
    · exact ha
    · exact hc e he

/-- Every `off` has an `on` after it. -/
def Followed (off on : Call L → Prop) : List (Ev L) → Prop
  | [] => True
  | e :: tr => (off e.call → ∃ s ∈ tr, on s.call) ∧ Followed off on tr

instance decidableFollowed (off on : Call L → Prop) [DecidablePred off] [DecidablePred on] :
    DecidablePred (Followed off on)
  | [] => inferInstanceAs (Decidable True)
  | e :: tr =>
    have := decidableFollowed off on tr
    inferInstanceAs (Decidable ((off e.call → ∃ s ∈ tr, on s.call) ∧ Followed off on tr))

/-- **The last write wins.** The calls in `on` make `f` true, those in `off` make it false, the
others leave it: it is true at the end if it was at first or some `on` was called, and every `off`
has an `on` after it. -/
theorem Evolves.last_write (I f : L.State → Prop) (off on : Call L → Prop)
    (henv : ∀ w w₁, env w = some w₁ → I w → I w₁ ∧ (f w₁ ↔ f w)) {w w' : L.State}
    {tr : List (Ev L)} (h : Evolves site env w tr w')
    (hs : ∀ e ∈ tr, ∀ w w₁, L.exec (site e.tid) e.call.act w = some (e.call.res, w₁) → I w →
      I w₁ ∧ (on e.call → f w₁) ∧ (off e.call → ¬f w₁) ∧
        (¬on e.call → ¬off e.call → (f w₁ ↔ f w))) (hi : I w) :
    f w' ↔ ((∃ e ∈ tr, on e.call) ∨ f w) ∧ Followed off on tr := by
  induction h with
  | nil w => simp [Followed]
  | env he _ ih =>
    obtain ⟨hi₁, hf⟩ := henv _ _ he hi
    rw [ih hs hi₁, hf]
  | @step w w₁ w' e tr hx _ ih =>
    obtain ⟨hi₁, hon, hoff, hkeep⟩ := hs _ (by simp) _ _ hx hi
    rw [ih (fun e he => hs e (by simp [he])) hi₁, Followed]
    by_cases h₁ : on e.call
    · have h₂ : ¬off e.call := fun h₂ => hoff h₂ (hon h₁)
      simp [h₁, h₂, hon h₁]
    · by_cases h₂ : off e.call
      · simp only [hoff h₂, or_false, h₂, forall_const, List.mem_cons, exists_eq_or_imp, h₁,
          false_or]
        exact ⟨fun h => ⟨.inl h.1, h⟩, fun h => h.2⟩
      · simp [h₁, h₂, hkeep h₁ h₂]

/-- **What is lost is made again.** The calls in `on` make `G` true. If every other call that makes
it false has a call in `on` after it, then `G` holds at the end, if it held at first or some call in
`on` was made. -/
theorem Evolves.regained (G : L.State → Prop) (on : Call L → Prop)
    (henv : ∀ w w₁, env w = some w₁ → G w → G w₁) {w w' : L.State} {tr : List (Ev L)}
    (h : Evolves site env w tr w')
    (hs : ∀ tr₁ e tr₂ w₁ w₂, tr = tr₁ ++ e :: tr₂ → Evolves site env w tr₁ w₁ →
      L.exec (site e.tid) e.call.act w₁ = some (e.call.res, w₂) →
      (on e.call → G w₂) ∧ (¬on e.call → G w₁ → G w₂ ∨ ∃ e' ∈ tr₂, on e'.call))
    (hg : G w ∨ ∃ e ∈ tr, on e.call) : G w' := by
  induction h with
  | nil w => simpa using hg
  | env he _ ih =>
    exact ih (fun tr₁ e tr₂ w₁ w₂ htr hev => hs tr₁ e tr₂ w₁ w₂ htr (.env he hev))
      (hg.imp_left (henv _ _ he))
  | @step w w₁ w' e tr hx _ ih =>
    refine ih (fun tr₁ e' tr₂ w₁ w₂ htr hev =>
      hs (e :: tr₁) e' tr₂ w₁ w₂ (by rw [htr]; rfl) (.step hx hev)) ?_
    obtain ⟨hon, hoff⟩ := hs [] e tr w w₁ rfl (.nil w) hx
    by_cases he : on e.call
    · exact .inl (hon he)
    · rcases hg with hg | ⟨e', he', hon'⟩
      · exact hoff he hg
      · rcases List.mem_cons.mp he' with rfl | he'
        · exact absurd hon' he
        · exact .inr ⟨e', he', hon'⟩

/-- **The rule for what the steps add**: `g` tells what each one appends to the list `f`. -/
theorem Evolves.adds {β : Type} {f : L.State → List β} {g : Ev L → List β}
    (henv : ∀ w w₁, env w = some w₁ → f w₁ = f w) {w w' : L.State} {tr : List (Ev L)}
    (h : Evolves site env w tr w')
    (hs : ∀ e ∈ tr, ∀ w w₁, L.exec (site e.tid) e.call.act w = some (e.call.res, w₁) →
      f w₁ = f w ++ g e) : f w' = f w ++ tr.flatMap g := by
  induction h with
  | nil w => simp
  | env he _ ih => rw [ih hs, henv _ _ he]
  | step hx _ ih =>
    rw [ih fun e he => hs e (by simp [he]), hs _ (by simp) _ _ hx, List.flatMap_cons,
      List.append_assoc]

end Runs

/-! ## The calls of one thread -/

section Paths

variable {L : Lang} {α β : Type}

/-- The calls of thread `t`, in order. -/
def own (t : Tid) (tr : List (Ev L)) : List (Call L) :=
  (tr.filter (·.tid = t)).map (·.call)

@[simp] theorem own_nil (t : Tid) : own t ([] : List (Ev L)) = [] := rfl

@[simp] theorem own_append (t : Tid) (tr₁ tr₂ : List (Ev L)) :
    own t (tr₁ ++ tr₂) = own t tr₁ ++ own t tr₂ := by simp [own]

theorem own_cons (t : Tid) (e : Ev L) (tr : List (Ev L)) :
    own t (e :: tr) = if e.tid = t then e.call :: own t tr else own t tr := by
  unfold own
  by_cases h : e.tid = t <;> simp [h]

theorem own_cons_self (t : Tid) (c : Call L) (tr : List (Ev L)) :
    own t (⟨t, c⟩ :: tr) = c :: own t tr := by simp [own_cons]

theorem mem_own {t : Tid} {c : Call L} {tr : List (Ev L)} : c ∈ own t tr ↔ ⟨t, c⟩ ∈ tr := by
  unfold own
  constructor
  · intro h
    obtain ⟨⟨t', c'⟩, he, rfl⟩ := List.mem_map.mp h
    obtain ⟨hm, ht⟩ := List.mem_filter.mp he
    simp only [decide_eq_true_eq] at ht
    subst ht
    exact hm
  · intro h
    exact List.mem_map.mpr ⟨_, List.mem_filter.mpr ⟨h, by simp⟩, rfl⟩

/-- A call of a thread cuts the trace where it stands. -/
theorem own_split {t : Tid} {c : Call L} {tr : List (Ev L)} {h₁ h₂ : List (Call L)}
    (h : own t tr = h₁ ++ c :: h₂) :
    ∃ tr₁ tr₂, tr = tr₁ ++ ⟨t, c⟩ :: tr₂ ∧ own t tr₁ = h₁ ∧ own t tr₂ = h₂ := by
  induction tr generalizing h₁ with
  | nil => simp at h
  | cons e tr ih =>
    rw [own_cons] at h
    by_cases he : e.tid = t
    · rw [if_pos he] at h
      cases h₁ with
      | nil =>
        obtain ⟨rfl, ht⟩ := List.cons.inj h
        exact ⟨[], tr, by rw [← he]; rfl, rfl, ht⟩
      | cons d h₁ =>
        obtain ⟨rfl, ht⟩ := List.cons.inj h
        obtain ⟨tr₁, tr₂, rfl, h₁', h₂'⟩ := ih ht
        exact ⟨e :: tr₁, tr₂, rfl, by rw [own_cons, if_pos he, h₁'], h₂'⟩
    · rw [if_neg he] at h
      obtain ⟨tr₁, tr₂, rfl, h₁', h₂'⟩ := ih h
      exact ⟨e :: tr₁, tr₂, rfl, by rw [own_cons, if_neg he, h₁'], h₂'⟩

/-- Where the only item with `p` stands. -/
theorem split_unique {γ : Type} {p : γ → Prop} {h₁ h₂ k₁ k₂ : List γ} {x y : γ} (hx : p x)
    (hk₁ : ∀ c ∈ k₁, ¬p c) (hk₂ : ∀ c ∈ k₂, ¬p c) (h : h₁ ++ x :: h₂ = k₁ ++ y :: k₂) :
    h₁ = k₁ ∧ x = y ∧ h₂ = k₂ := by
  induction k₁ generalizing h₁ with
  | nil =>
    cases h₁ with
    | nil =>
      obtain ⟨hxy, ht⟩ := List.cons.inj h
      exact ⟨rfl, hxy, ht⟩
    | cons a h₁ =>
      obtain ⟨-, ht⟩ := List.cons.inj h
      exact absurd hx (hk₂ x (by rw [← ht]; simp))
  | cons b k₁ ih =>
    cases h₁ with
    | nil =>
      obtain ⟨hxb, -⟩ := List.cons.inj h
      exact absurd hx (hk₁ x (by rw [hxb]; simp))
    | cons a h₁ =>
      obtain ⟨hab, ht⟩ := List.cons.inj h
      obtain ⟨h₁', hxy, h₂'⟩ := ih (fun c hc => hk₁ c (by simp [hc])) ht
      exact ⟨by rw [hab, h₁'], hxy, h₂'⟩

/-- The calls `h` lead from `p` to `q`. -/
inductive Path : Prog L α → List (Call L) → Prog L α → Prop
  | nil (p : Prog L α) : Path p [] p
  | cons {a : L.Act} {k : L.Res a → Prog L α} {r : L.Res a} {h : List (Call L)} {q : Prog L α} :
      Path (k r) h q → Path (.act a k) (⟨a, r⟩ :: h) q

theorem Run.path {site : Tid → L.Site} {env : L.State → Option L.State} {P P' : Pool L}
    {w w' : L.State} {tr : List (Ev L)} (h : Run site env P w tr P' w') (t : Tid) :
    Path (P t) (own t tr) (P' t) := by
  induction h with
  | nil P w => exact .nil _
  | env _ _ ih => exact ih
  | step u hp _ _ ih =>
    rw [own_cons]
    by_cases hu : u = t
    · subst hu
      rw [if_pos rfl, hp]
      exact .cons (by simpa using ih)
    · rw [if_neg hu]
      rwa [Function.update_of_ne (fun e => hu e.symm)] at ih

/-- A thread that does nothing has no calls. -/
theorem Path.of_ret {x : α} {q : Prog L α} {h : List (Call L)} (hp : Path (.ret x) h q) : h = [] := by
  cases hp with
  | nil => rfl

theorem Path.eq_of_ret {x : α} {q : Prog L α} {h : List (Call L)} (hp : Path (.ret x) h q) :
    q = .ret x := by
  cases hp with
  | nil => rfl

theorem Path.all {P : L.Act → Prop} {p q : Prog L α} {h : List (Call L)} (hp : Path p h q)
    (ha : p.All P) : ∀ c ∈ h, P c.act := by
  induction hp with
  | nil p => simp
  | cons _ ih =>
    intro c hc
    rcases List.mem_cons.mp hc with rfl | hc
    · exact ha.1
    · exact ih (ha.2 _) c hc

namespace Prog

variable (A : Call L → Prop)

/-- Every complete path of calls in `A` has `Q` (with the program's result). -/
def Ends : Prog L α → (List (Call L) → α → Prop) → Prop
  | .ret x, Q => Q [] x
  | .act a k, Q => ∀ r, A ⟨a, r⟩ → (k r).Ends fun h x => Q (⟨a, r⟩ :: h) x

/-- Before each action `a` that a path of calls in `A` reaches, `Φ` holds of the calls so far
(after `h`) and `a`. -/
def Always (Φ : List (Call L) → L.Act → Prop) : List (Call L) → Prog L α → Prop
  | _, .ret _ => True
  | h, .act a k => Φ h a ∧ ∀ r, A ⟨a, r⟩ → Always Φ (h ++ [⟨a, r⟩]) (k r)

variable {A}

@[simp] theorem ends_ret (x : α) (Q : List (Call L) → α → Prop) :
    (Prog.ret x).Ends A Q = Q [] x := rfl

theorem ends_act (a : L.Act) (k : L.Res a → Prog L α) (Q : List (Call L) → α → Prop) :
    (Prog.act a k).Ends A Q ↔ ∀ r, A ⟨a, r⟩ → (k r).Ends A fun h x => Q (⟨a, r⟩ :: h) x := by
  rw [Ends]

theorem ends_bind {p : Prog L α} {f : α → Prog L β} {Q : List (Call L) → β → Prop} :
    (p >>= f).Ends A Q ↔ p.Ends A fun h x => (f x).Ends A fun h' y => Q (h ++ h') y := by
  induction p generalizing Q with
  | ret x => simp
  | act a k ih =>
    simp only [act_bind, ends_act]
    exact forall_congr' fun r => imp_congr_right fun _ => by rw [ih]; simp

theorem Ends.mono {p : Prog L α} {Q Q' : List (Call L) → α → Prop} (h : p.Ends A Q)
    (hQ : ∀ h x, Q h x → Q' h x) : p.Ends A Q' := by
  induction p generalizing Q Q' with
  | ret x => exact hQ _ _ h
  | act a k ih =>
    rw [ends_act] at h ⊢
    exact fun r hr => ih r (h r hr) fun h' x => hQ _ x

/-- Every program has `Ends` of what holds of all calls. -/
theorem ends_of_all {P : L.Act → Prop} {p : Prog L α} (h : p.All P) :
    p.Ends A fun h _ => ∀ c ∈ h, P c.act := by
  induction p with
  | ret x => simp
  | act a k ih =>
    rw [ends_act]
    intro r _
    refine (ih r (h.2 r)).mono fun h' _ hh c hc => ?_
    rcases List.mem_cons.mp hc with rfl | hc
    · exact h.1
    · exact hh c hc

theorem Ends.path {p : Prog L α} {Q : List (Call L) → α → Prop} {h : List (Call L)} {x : α}
    (he : p.Ends A Q) (hp : Path p h (.ret x)) (hA : ∀ c ∈ h, A c) : Q h x := by
  generalize hq : Prog.ret x = q at hp
  induction hp generalizing Q with
  | nil p => subst hq; exact he
  | cons _ ih =>
    rw [ends_act] at he
    exact ih (he _ (hA _ (by simp))) (fun c hc => hA c (by simp [hc])) hq

theorem always_act {Φ : List (Call L) → L.Act → Prop} (h : List (Call L)) (a : L.Act)
    (k : L.Res a → Prog L α) : (Prog.act a k).Always A Φ h ↔
      Φ h a ∧ ∀ r, A ⟨a, r⟩ → (k r).Always A Φ (h ++ [⟨a, r⟩]) := by
  rw [Always]

theorem Always.bind {Φ : List (Call L) → L.Act → Prop} {p : Prog L α} {f : α → Prog L β}
    {h : List (Call L)} (hp : p.Always A Φ h)
    (hf : p.Ends A fun h' x => (f x).Always A Φ (h ++ h')) : (p >>= f).Always A Φ h := by
  induction p generalizing h with
  | ret x => simpa using hf
  | act a k ih =>
    rw [always_act] at hp
    rw [ends_act] at hf
    rw [act_bind, always_act]
    exact ⟨hp.1, fun r hr => ih r (hp.2 r hr) (by simpa using hf r hr)⟩

/-- A program whose actions all satisfy `P`, where `P` is enough for `Φ`. -/
theorem always_of_all {Φ : List (Call L) → L.Act → Prop} {P : L.Act → Prop} {p : Prog L α}
    (hp : p.All P) (hΦ : ∀ h a, P a → Φ h a) (h : List (Call L)) : p.Always A Φ h := by
  induction p generalizing h with
  | ret x => trivial
  | act a k ih =>
    rw [always_act]
    exact ⟨hΦ _ _ hp.1, fun r _ => ih r (hp.2 r) _⟩

/-- A first part of such actions, and the rest after any calls of it. -/
theorem All.always_bind {Φ : List (Call L) → L.Act → Prop} {P : L.Act → Prop} {p : Prog L α}
    {f : α → Prog L β} {h : List (Call L)} (hp : p.All P) (hΦ : ∀ h a, P a → Φ h a)
    (hf : ∀ h' x, (∀ c ∈ h', P c.act) → (f x).Always A Φ (h ++ h')) : (p >>= f).Always A Φ h :=
  (always_of_all hp hΦ h).bind ((ends_of_all hp).mono fun h' x hc => hf h' x hc)

theorem Always.path {Φ : List (Call L) → L.Act → Prop} {p q : Prog L α} {h₀ h h' : List (Call L)}
    {c : Call L} (ha : p.Always A Φ h₀) (hp : Path p (h ++ c :: h') q) (hA : ∀ c ∈ h, A c) :
    Φ (h₀ ++ h) c.act := by
  induction h generalizing p h₀ with
  | nil =>
    cases hp with
    | cons _ =>
      rw [always_act] at ha
      simpa using ha.1
  | cons d h ih =>
    cases hp with
    | cons hp =>
      rw [always_act] at ha
      have := ih (ha.2 _ (hA _ (by simp))) hp fun c hc => hA c (by simp [hc])
      simpa using this

end Prog

end Paths

end Interleave
