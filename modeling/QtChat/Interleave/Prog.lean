import Mathlib.Logic.Function.Basic

/-!
# Programs of atomic actions

A program is a tree: it ends with a result, or it performs one atomic action and goes on with the
answer. The actions, their answers and what they do to the state are a **language** (`Lang`); a
program may run at one of several **sites** (a process, a node), and a site's actions may change
the shared state. Nothing here knows a particular language.

- **Sequential runs** (`Prog.run`): the program alone, from a state. `exec` may answer `none`: the
  program cannot go on (the process is gone, or its behaviour is undefined).
- **Weakest preconditions** (`Prog.wp`). `wp H` is `H` where the program halts: `wp True` is partial
  correctness (`wp_true_iff`), `wp False` says in addition that the run gets to its end.
- **Frames** (`Prog.All`): every action of the program, whatever the answers, satisfies a
  predicate. `All.wp` turns what one such action keeps into what the whole run keeps.
-/

namespace Interleave

/-- A language of atomic actions. -/
structure Lang where
  Act : Type
  Res : Act → Type
  Site : Type
  State : Type
  /-- One action at a site: its answer and the state after it; `none`: no way to go on. -/
  exec : Site → (a : Act) → State → Option (Res a × State)

/-- A program with a result in `α`. -/
inductive Prog (L : Lang) (α : Type) where
  | ret (x : α)
  | act (a : L.Act) (k : L.Res a → Prog L α)

namespace Prog

variable {L : Lang} {α β : Type}

/-- One action. -/
def perform (a : L.Act) : Prog L (L.Res a) := .act a .ret

/-- `p`, then `f` with its result. -/
def bind : Prog L α → (α → Prog L β) → Prog L β
  | .ret x, f => f x
  | .act a k, f => .act a fun r => (k r).bind f

instance : Monad (Prog L) where
  pure := .ret
  bind := Prog.bind

@[simp] theorem pure_eq (x : α) : (pure x : Prog L α) = .ret x := rfl

@[simp] theorem ret_bind (x : α) (f : α → Prog L β) : (Prog.ret x >>= f) = f x := rfl

@[simp] theorem act_bind (a : L.Act) (k : L.Res a → Prog L α) (f : α → Prog L β) :
    (Prog.act a k >>= f) = .act a fun r => k r >>= f := rfl

theorem bind_ret (p : Prog L α) : (p >>= Prog.ret) = p := by
  induction p with
  | ret x => rfl
  | act a k ih => rw [act_bind]; congr 1; funext r; exact ih r

theorem bind_assoc {γ : Type} (p : Prog L α) (f : α → Prog L β) (g : β → Prog L γ) :
    ((p >>= f) >>= g) = (p >>= fun x => f x >>= g) := by
  induction p with
  | ret x => rfl
  | act a k ih => simp only [act_bind]; congr 1; funext r; exact ih r

instance : LawfulMonad (Prog L) :=
  LawfulMonad.mk' _ (fun p => bind_ret p) (fun _ _ => rfl) bind_assoc

/-- `f` of every item of the list, in order. -/
def each (f : β → Prog L Unit) : List β → Prog L Unit
  | [] => .ret ()
  | b :: bs => f b >>= fun _ => each f bs

@[simp] theorem each_nil (f : β → Prog L Unit) : each f [] = .ret () := rfl

@[simp] theorem each_cons (f : β → Prog L Unit) (b : β) (bs : List β) :
    each f (b :: bs) = (f b >>= fun _ => each f bs) := rfl

/-- Nothing is left of the program. -/
def isRet : Prog L α → Bool
  | .ret _ => true
  | .act .. => false

theorem eq_ret_of_isRet {p : Prog L Unit} (h : p.isRet = true) : p = .ret () := by
  cases p with
  | ret x => rfl
  | act a k => cases h

/-! ## Sequential runs -/

/-- The run of the program alone at site `s`. -/
def run (s : L.Site) : Prog L α → L.State → Option (α × L.State)
  | .ret x, w => some (x, w)
  | .act a k, w => match L.exec s a w with
    | none => none
    | some (r, w') => (k r).run s w'

@[simp] theorem run_ret (s : L.Site) (x : α) (w : L.State) :
    (Prog.ret x : Prog L α).run s w = some (x, w) := rfl

theorem run_act (s : L.Site) (a : L.Act) (k : L.Res a → Prog L α) (w : L.State) :
    (Prog.act a k).run s w = (L.exec s a w).bind fun r => (k r.1).run s r.2 := by
  rw [run]
  cases L.exec s a w <;> rfl

theorem run_bind (s : L.Site) (p : Prog L α) (f : α → Prog L β) (w : L.State) :
    (p >>= f).run s w = (p.run s w).bind fun r => (f r.1).run s r.2 := by
  induction p generalizing w with
  | ret x => rfl
  | act a k ih =>
    simp only [act_bind, run]
    cases L.exec s a w with
    | none => rfl
    | some r => exact ih r.1 r.2

theorem run_perform (s : L.Site) (a : L.Act) (w : L.State) :
    (perform a).run s w = L.exec s a w := by
  rw [perform, run_act]
  cases L.exec s a w <;> rfl

/-- A run of two programs is a run of the first, then one of the second. -/
theorem run_bind_eq_some {s : L.Site} {p : Prog L α} {f : α → Prog L β} {w : L.State}
    {r : β × L.State} : (p >>= f).run s w = some r ↔
      ∃ x w₁, p.run s w = some (x, w₁) ∧ (f x).run s w₁ = some r := by
  rw [run_bind, Option.bind_eq_some_iff]
  constructor
  · rintro ⟨⟨x, w₁⟩, hp, hf⟩
    exact ⟨x, w₁, hp, hf⟩
  · rintro ⟨x, w₁, hp, hf⟩
    exact ⟨(x, w₁), hp, hf⟩

/-! ## Weakest preconditions -/

/-- `Q` holds of the result and the state at the end of the run; `H` if the run halts before. -/
def wp (H : Prop) (s : L.Site) : Prog L α → (α → L.State → Prop) → L.State → Prop
  | .ret x, Q, w => Q x w
  | .act a k, Q, w => match L.exec s a w with
    | none => H
    | some (r, w') => (k r).wp H s Q w'

variable {H : Prop} {s : L.Site} {w : L.State} {Q Q' : α → L.State → Prop}

@[simp] theorem wp_ret (x : α) : (Prog.ret x).wp H s Q w = Q x w := rfl

theorem wp_act (a : L.Act) (k : L.Res a → Prog L α) :
    (Prog.act a k).wp H s Q w = match L.exec s a w with
      | none => H
      | some (r, w') => (k r).wp H s Q w' := by
  rw [wp]

theorem wp_mono {p : Prog L α} (h : p.wp H s Q w) (hQ : ∀ x w', Q x w' → Q' x w') :
    p.wp H s Q' w := by
  induction p generalizing w with
  | ret x => exact hQ _ _ h
  | act a k ih =>
    simp only [wp_act] at h ⊢
    cases he : L.exec s a w with
    | none => rw [he] at h; exact h
    | some r => rw [he] at h; exact ih r.1 h

theorem wp_true_iff {p : Prog L α} :
    p.wp True s Q w ↔ ∀ x w', p.run s w = some (x, w') → Q x w' := by
  induction p generalizing w with
  | ret x =>
    refine ⟨fun h _ _ e => ?_, fun h => h _ _ rfl⟩
    cases e; exact h
  | act a k ih =>
    simp only [wp_act, run]
    cases L.exec s a w with
    | none => simp
    | some r => exact ih r.1

/-! ## All actions of a program -/

/-- Every action that the program can perform satisfies `P`. -/
def All (P : L.Act → Prop) : Prog L α → Prop
  | .ret _ => True
  | .act a k => P a ∧ ∀ r, (k r).All P

variable {P P' : L.Act → Prop}

@[simp] theorem all_ret (x : α) : (Prog.ret x : Prog L α).All P := trivial

@[simp] theorem all_act (a : L.Act) (k : L.Res a → Prog L α) :
    (Prog.act a k).All P ↔ P a ∧ ∀ r, (k r).All P := Iff.rfl

theorem All.bind {p : Prog L α} {f : α → Prog L β} (hp : p.All P) (hf : ∀ x, (f x).All P) :
    (p >>= f).All P := by
  induction p with
  | ret x => exact hf x
  | act a k ih => exact ⟨hp.1, fun r => ih r (hp.2 r)⟩

theorem All.each {f : β → Prog L Unit} {bs : List β} (hf : ∀ b ∈ bs, (f b).All P) :
    (each f bs).All P := by
  induction bs with
  | nil => exact all_ret _
  | cons b bs ih =>
    rw [each_cons]
    exact All.bind (hf b (by simp)) fun _ => ih fun c hc => hf c (by simp [hc])

theorem all_true (p : Prog L α) : p.All fun _ => True := by
  induction p with
  | ret x => trivial
  | act a k ih => exact ⟨trivial, ih⟩

theorem All.mono {p : Prog L α} (h : p.All P) (hP : ∀ a, P a → P' a) : p.All P' := by
  induction p with
  | ret x => trivial
  | act a k ih => exact ⟨hP _ h.1, fun r => ih r (h.2 r)⟩

/-- **The frame rule.** What every `P` action keeps, a program of `P` actions keeps. -/
theorem All.wp {p : Prog L α} (h : p.All P) {R : L.State → L.State → Prop} (hr : ∀ w, R w w)
    (ht : ∀ w₁ w₂ w₃, R w₁ w₂ → R w₂ w₃ → R w₁ w₃)
    (hs : ∀ a w r w', P a → L.exec s a w = some (r, w') → R w w') :
    p.wp True s (fun _ w' => R w w') w := by
  induction p generalizing w with
  | ret x => exact hr w
  | act a k ih =>
    simp only [wp_act]
    cases he : L.exec s a w with
    | none => trivial
    | some r =>
      exact wp_mono (ih r.1 (h.2 r.1)) fun _ w' => ht _ _ _ (hs a w r.1 r.2 h.1 he)

/-- A program of actions that can always be performed gets to its end. -/
theorem All.run {p : Prog L α} (h : p.All P)
    (hs : ∀ a w, P a → (L.exec s a w).isSome) (w : L.State) :
    ∃ x w', p.run s w = some (x, w') := by
  induction p generalizing w with
  | ret x => exact ⟨x, w, rfl⟩
  | act a k ih =>
    obtain ⟨r, hr⟩ := Option.isSome_iff_exists.mp (hs a w h.1)
    obtain ⟨x, w', hx⟩ := ih r.1 (h.2 r.1) r.2
    exact ⟨x, w', by rw [Prog.run, hr]; exact hx⟩

/-- The frame rule for a run. -/
theorem All.run_rel {p : Prog L α} (h : p.All P) {R : L.State → L.State → Prop} (hr : ∀ w, R w w)
    (ht : ∀ w₁ w₂ w₃, R w₁ w₂ → R w₂ w₃ → R w₁ w₃)
    (hs : ∀ a w r w', P a → L.exec s a w = some (r, w') → R w w') {w w' : L.State} {x : α}
    (hp : p.run s w = some (x, w')) : R w w' :=
  wp_true_iff.mp (h.wp hr ht hs) x w' hp

/-- What every action keeps, a run keeps. -/
theorem run_keep {I : L.State → Prop}
    (hs : ∀ a w r w', I w → L.exec s a w = some (r, w') → I w') {p : Prog L α} {w w' : L.State}
    {x : α} (hw : I w) (hp : p.run s w = some (x, w')) : I w' := by
  induction p generalizing w with
  | ret x => cases hp; exact hw
  | act a k ih =>
    rw [run_act] at hp
    obtain ⟨⟨r, w₁⟩, he, hp⟩ := Option.bind_eq_some_iff.mp hp
    exact ih r (hs a w r w₁ hw he) hp

end Prog

end Interleave
