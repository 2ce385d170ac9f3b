import QtChat.Interleave.Pool

/-!
# Programs that may throw

A program in `ExceptT` may end in an exception after any of its actions. `Mirrors A Q p q`: as long
as the answers are in `A`, the program `p` throws nothing, performs the actions of the program `q`,
and ends with the same result, which satisfies `Q`. The rules follow the program (`Mirrors.bind`,
`Mirrors.lift`, `Mirrors.bind_ok`, `Mirrors.each`).

`Prog.trace` is the run of a program with its calls; `Mirrors.trace` is what agreement says of one.
-/

namespace Interleave

variable {L : Lang} {ε α β : Type}

namespace Prog

/-- The run of the program alone, with its calls. -/
def trace (s : L.Site) : Prog L α → L.State → Option (List (Call L) × α × L.State)
  | .ret x, w => some ([], x, w)
  | .act a k, w => match L.exec s a w with
    | none => none
    | some (r, w') => ((k r).trace s w').map fun t => (⟨a, r⟩ :: t.1, t.2)

/-- The first call of a trace. -/
theorem trace_act {s : L.Site} {a : L.Act} {k : L.Res a → Prog L α} {w w' : L.State} {x : α}
    {h : List (Call L)} (ht : (Prog.act a k).trace s w = some (h, x, w')) :
    ∃ r w₁ h', L.exec s a w = some (r, w₁) ∧ (k r).trace s w₁ = some (h', x, w') ∧
      h = ⟨a, r⟩ :: h' := by
  rw [trace] at ht
  cases he : L.exec s a w with
  | none =>
    rw [he] at ht
    cases ht
  | some r =>
    rw [he] at ht
    obtain ⟨⟨h', x', w''⟩, hk, heq⟩ := Option.map_eq_some_iff.mp ht
    cases heq
    exact ⟨r.1, r.2, h', rfl, hk, rfl⟩

/-- A run of two programs is a run of the first, then one of the second. -/
theorem trace_bind {s : L.Site} {p : Prog L α} {f : α → Prog L β} {w w' : L.State} {y : β}
    {h : List (Call L)} (ht : (p >>= f).trace s w = some (h, y, w')) :
    ∃ h₁ x w₁ h₂, p.trace s w = some (h₁, x, w₁) ∧ (f x).trace s w₁ = some (h₂, y, w') ∧
      h = h₁ ++ h₂ := by
  induction p generalizing w h with
  | ret x => exact ⟨[], x, w, h, rfl, ht, rfl⟩
  | act a k ih =>
    rw [act_bind] at ht
    obtain ⟨r, w₁, h', he, hk, rfl⟩ := trace_act ht
    obtain ⟨h₁, x, w₂, h₂, hp, hf, rfl⟩ := ih r hk
    refine ⟨⟨a, r⟩ :: h₁, x, w₂, h₂, ?_, hf, rfl⟩
    rw [trace, he]
    simp only [hp, Option.map_some]

/-- The state at the end is what the calls make of the first one. -/
theorem trace_evolves {s : L.Site} {p : Prog L α} {w w' : L.State} {x : α} {h : List (Call L)}
    (ht : p.trace s w = some (h, x, w')) :
    Evolves (fun _ => s) (fun _ => none) w (h.map (Ev.mk 0)) w' := by
  induction p generalizing w h with
  | ret y =>
    cases ht
    exact .nil _
  | act a k ih =>
    obtain ⟨r, w₁, h', he, hk, rfl⟩ := trace_act ht
    exact .step he (ih r hk)

/-- What all complete paths have, a run has. -/
theorem Ends.trace {A : Call L → Prop} {p : Prog L α} {Q : List (Call L) → α → Prop} {s : L.Site}
    {w w' : L.State} {x : α} {h : List (Call L)} (he : p.Ends A Q)
    (ht : p.trace s w = some (h, x, w')) (hA : ∀ c ∈ h, A c) : Q h x := by
  induction p generalizing w h Q with
  | ret y =>
    cases ht
    exact he
  | act a k ih =>
    rw [ends_act] at he
    obtain ⟨r, w₁, h', -, hk, rfl⟩ := trace_act ht
    have hrest := ih r (he r (hA _ (by simp))) hk fun c hc => hA c (by simp [hc])
    exact hrest

end Prog

/-- `p` throws nothing and does what `q` does. -/
inductive Mirrors (A : Call L → Prop) (Q : α → Prop) : Prog L (Except ε α) → Prog L α → Prop
  | ret {x : α} : Q x → Mirrors A Q (.ret (.ok x)) (.ret x)
  | act (a : L.Act) {k : L.Res a → Prog L (Except ε α)} {k' : L.Res a → Prog L α} :
      (∀ r, A ⟨a, r⟩ → Mirrors A Q (k r) (k' r)) → Mirrors A Q (.act a k) (.act a k')

namespace Mirrors

variable {A : Call L → Prop} {Q : α → Prop} {R : β → Prop}

theorem mono {p : Prog L (Except ε α)} {q : Prog L α} {Q' : α → Prop} (h : Mirrors A Q p q)
    (hQ : ∀ x, Q x → Q' x) : Mirrors A Q' p q := by
  induction h with
  | ret hx => exact .ret (hQ _ hx)
  | act a _ ih => exact .act a ih

theorem bind {p : ExceptT ε (Prog L) α} {q : Prog L α} {f : α → ExceptT ε (Prog L) β}
    {g : α → Prog L β} (h : Mirrors A Q p.run q) (hf : ∀ x, Q x → Mirrors A R (f x).run (g x)) :
    Mirrors A R (p >>= f).run (q >>= g) := by
  obtain ⟨t, ht⟩ : ∃ t, p.run = t := ⟨_, rfl⟩
  change Mirrors A R (p.run >>= ExceptT.bindCont f) (q >>= g)
  rw [ht] at h ⊢
  clear ht
  induction h with
  | ret hx => exact hf _ hx
  | act a _ ih => exact .act a ih

/-- A program without exceptions. -/
theorem lift {q : Prog L α} (h : q.Ends A fun _ x => Q x) :
    Mirrors A Q (liftM q : ExceptT ε (Prog L) α).run q := by
  change Mirrors A Q (q >>= fun x => .ret (.ok x)) q
  induction q with
  | ret x => exact .ret h
  | act a k ih => exact .act a fun r hr => ih r ((Prog.ends_act a k _).mp h r hr)

theorem lift_any (q : Prog L α) :
    Mirrors A (fun _ => True) (liftM q : ExceptT ε (Prog L) α).run q :=
  lift ((Prog.ends_of_all q.all_true).mono fun _ _ _ => trivial)

/-- A value that was read without an exception. -/
theorem bind_ok {v : Except ε α} {x : α} {f : α → ExceptT ε (Prog L) β} {q : Prog L β}
    (hv : v = .ok x) (h : Mirrors A R (f x).run q) :
    Mirrors A R ((liftM v : ExceptT ε (Prog L) α) >>= f).run q := by
  subst hv
  exact h

theorem each {f : α → ExceptT ε (Prog L) PUnit} {g : α → Prog L Unit}
    (h : ∀ x, Mirrors A (fun _ => True) (f x).run (g x)) (xs : List α) :
    Mirrors A (fun _ => True) (xs.forM f).run (Prog.each g xs) := by
  induction xs with
  | nil => exact .ret trivial
  | cons x xs ih => exact (h x).bind fun _ _ => ih

/-- **A run** whose answers are in `A`. -/
theorem trace {p : Prog L (Except ε α)} {q : Prog L α} {s : L.Site} {w w' : L.State}
    {o : Except ε α} {h : List (Call L)} (hp : Mirrors A Q p q)
    (ht : p.trace s w = some (h, o, w')) (hA : ∀ c ∈ h, A c) :
    ∃ x, o = .ok x ∧ Q x ∧ q.trace s w = some (h, x, w') := by
  induction hp generalizing w h with
  | ret hx =>
    cases ht
    exact ⟨_, rfl, hx, rfl⟩
  | act a _ ih =>
    obtain ⟨r, w₁, h', he, hk, rfl⟩ := Prog.trace_act ht
    obtain ⟨x, hx, hq, hk'⟩ := ih r (hA _ (by simp)) hk fun c hc => hA c (by simp [hc])
    refine ⟨x, hx, hq, ?_⟩
    rw [Prog.trace, he]
    simp only [hk', Option.map_some]

/-- The same, with a fixed result. -/
theorem trace_return {p : ExceptT ε (Prog L) α} {q : Prog L α} {y : β} {s : L.Site}
    {w w' : L.State} {o : Except ε β} {h : List (Call L)} (hp : Mirrors A Q p.run q)
    (ht : (p >>= fun _ => pure y).run.trace s w = some (h, o, w')) (hA : ∀ c ∈ h, A c) :
    o = .ok y ∧ ∃ x, q.trace s w = some (h, x, w') := by
  have hall : Mirrors A (· = y) (p >>= fun _ => pure y).run (q >>= fun _ => .ret y) :=
    hp.bind fun _ _ => .ret rfl
  obtain ⟨_, rfl, rfl, hq⟩ := hall.trace ht hA
  obtain ⟨h₁, x, w₁, h₂, hs, hrest, rfl⟩ := Prog.trace_bind hq
  cases hrest
  refine ⟨rfl, x, ?_⟩
  rw [List.append_nil]
  exact hs

end Mirrors

end Interleave
