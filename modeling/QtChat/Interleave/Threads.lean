import QtChat.Interleave.Machine
import QtChat.Interleave.Pool

/-!
# Threads with their trace

The pool as a machine (`threads`): a state has what is left of the threads, the state they share,
and the trace so far. So a condition on the steps may be about the trace, and `Machine.ReachBy` has
the states that the runs with this condition reach.

- `Threads.Steps`: the ways a state goes on; `reach_run`: a reachable state is at the end of a
  `Run`.
- `Prog.Emits`: what every path of a program lets out, in its order.
-/

namespace Interleave

structure Threads (L : Lang) where
  pool : Pool L
  state : L.State
  past : List (Ev L)

section Machine

variable {L : Lang} (site : Tid → L.Site) (env : L.State → Option L.State)

/-- The next action of a thread, or a step of the environment. -/
def Threads.step : Option Tid → Threads L → Option (Threads L)
  | none, s => (env s.state).map fun w => { s with state := w }
  | some t, s => match s.pool t with
    | .ret _ => none
    | .act a k => (L.exec (site t) a s.state).map fun r =>
        ⟨Function.update s.pool t (k r.1), r.2, s.past ++ [⟨t, ⟨a, r.1⟩⟩]⟩

/-- The machine of a pool, from one state. -/
abbrev threads (P₀ : Pool L) (w₀ : L.State) : Machine where
  State := Threads L
  Label := Option Tid
  init s := s = ⟨P₀, w₀, []⟩
  step := Threads.step site env

/-- The ways a state goes on. -/
inductive Threads.Steps (s : Threads L) : Option Tid → Threads L → Prop
  | env {w : L.State} : env s.state = some w → Steps s none { s with state := w }
  | act {t : Tid} {a : L.Act} {k : L.Res a → Prog L Unit} {r : L.Res a} {w : L.State} :
      s.pool t = .act a k → L.exec (site t) a s.state = some (r, w) →
      Steps s (some t) ⟨Function.update s.pool t (k r), w, s.past ++ [⟨t, ⟨a, r⟩⟩]⟩

variable {site env} {P₀ : Pool L} {w₀ : L.State} {s s' : Threads L} {l : Option Tid}

theorem Threads.steps (h : s.step site env l = some s') : s.Steps site env l s' := by
  cases l with
  | none =>
    obtain ⟨w, he, rfl⟩ := Option.map_eq_some_iff.mp h
    exact .env he
  | some t =>
    rw [step] at h
    split at h
    · cases h
    · rename_i a k hp
      obtain ⟨⟨r, w⟩, hx, rfl⟩ := Option.map_eq_some_iff.mp h
      exact .act hp hx

theorem Run.append {P P₁ P₂ : Pool L} {w w₁ w₂ : L.State} {tr tr' : List (Ev L)}
    (h : Run site env P w tr P₁ w₁) (h' : Run site env P₁ w₁ tr' P₂ w₂) :
    Run site env P w (tr ++ tr') P₂ w₂ := by
  induction h with
  | nil P w => exact h'
  | env he _ ih => exact .env he (ih h')
  | step t hp hx _ ih => exact .step t hp hx (ih h')

/-- A reachable state is at the end of a run with its trace. -/
theorem reach_run (h : (threads site env P₀ w₀).Reach s) :
    Run site env P₀ w₀ s.past s.pool s.state := by
  refine h.inv (M := threads site env P₀ w₀)
    (I := fun s : Threads L => Run site env P₀ w₀ s.past s.pool s.state) ?_ ?_
  · rintro s rfl
    exact .nil _ _
  · intro l s s' hs hl
    cases Threads.steps hl with
    | env he =>
      have hrun := hs.append (.env he (.nil _ _))
      rwa [List.append_nil] at hrun
    | act hp hx => exact hs.append (.step _ hp hx (.nil _ _))

end Machine

/-! ## What a program lets out -/

namespace Prog

variable {L : Lang} {α β γ : Type}

/-- The calls of each path of the program let out, by `g`, a sublist of the items. -/
def Emits (g : Call L → List γ) : Prog L α → List γ → Prop
  | .ret _, _ => True
  | .act a k, l => ∀ r, ∃ rest, (g ⟨a, r⟩ ++ rest).Sublist l ∧ (k r).Emits g rest

variable {g : Call L → List γ}

theorem emits_act {a : L.Act} {k : L.Res a → Prog L α} {l : List γ} :
    (Prog.act a k).Emits g l ↔ ∀ r, ∃ rest, (g ⟨a, r⟩ ++ rest).Sublist l ∧ (k r).Emits g rest := by
  rw [Emits]

theorem Emits.mono {p : Prog L α} {l l' : List γ} (h : p.Emits g l) (hl : l.Sublist l') :
    p.Emits g l' := by
  cases p with
  | ret x => trivial
  | act a k =>
    rw [emits_act] at h ⊢
    intro r
    obtain ⟨rest, hs, hk⟩ := h r
    exact ⟨rest, hs.trans hl, hk⟩

/-- One program after the other. -/
theorem Emits.bind {p : Prog L α} {f : α → Prog L β} {l l' : List γ} (hp : p.Emits g l)
    (hf : ∀ x, (f x).Emits g l') : (p >>= f).Emits g (l ++ l') := by
  induction p generalizing l with
  | ret x => exact (hf x).mono (List.sublist_append_right l l')
  | act a k ih =>
    rw [emits_act] at hp
    rw [act_bind, emits_act]
    intro r
    obtain ⟨rest, hs, hk⟩ := hp r
    refine ⟨rest ++ l', ?_, ih r hk⟩
    rw [← List.append_assoc]
    exact hs.append_right l'

theorem Emits.each {f : β → Prog L Unit} {y : β → γ} {bs : List β}
    (hf : ∀ b ∈ bs, (f b).Emits g [y b]) : (Prog.each f bs).Emits g (bs.map y) := by
  induction bs with
  | nil => trivial
  | cons b bs ih =>
    rw [each_cons]
    exact Emits.bind (hf b (by simp)) fun _ => ih fun b hb => hf b (by simp [hb])

/-- A program of actions that let nothing out. -/
theorem All.emits {Q : L.Act → Prop} {p : Prog L α} (h : p.All Q)
    (hQ : ∀ a r, Q a → g ⟨a, r⟩ = []) (l : List γ) : p.Emits g l := by
  induction p generalizing l with
  | ret x => trivial
  | act a k ih =>
    rw [emits_act]
    refine fun r => ⟨l, ?_, ih r (h.2 r) l⟩
    rw [hQ a r h.1, List.nil_append]

/-- What the calls of a path have let out. -/
theorem Emits.path {p q : Prog L α} {l : List γ} {h : List (Call L)} (he : p.Emits g l)
    (hp : Path p h q) : (h.flatMap g).Sublist l := by
  induction hp generalizing l with
  | nil p => exact List.nil_sublist l
  | @cons a k r h q _ ih =>
    rw [emits_act] at he
    obtain ⟨rest, hs, hk⟩ := he r
    rw [List.flatMap_cons]
    exact ((ih hk).append_left _).trans hs

end Prog

end Interleave
