import QtChat.Interleave.Prog

/-!
# Programs of calls

A program over one language may be the text of a program over another one, each of whose actions is
a procedure. Replacing every call by its body (`Prog.inline`) does not change the runs
(`run_inline`), if a call does what its body does (`Lang.calls`).

`Prog.collect` is what the actions of a run yield, in order. What every action does with what it
yields, a run does with all of it (`run_collect`).
-/

namespace Interleave

/-- The language of calls of procedures with these bodies. -/
@[reducible] def Lang.calls (L : Lang) (Call : Type) (Res : Call → Type)
    (body : (c : Call) → Prog L (Res c)) : Lang where
  Act := Call
  Res := Res
  Site := L.Site
  State := L.State
  exec s c w := (body c).run s w

namespace Prog

variable {L M : Lang} {α β γ : Type}

/-! ## Inlining -/

/-- Every action replaced by a program. -/
def inline (body : (a : M.Act) → Prog L (M.Res a)) : Prog M α → Prog L α
  | .ret x => .ret x
  | .act a k => body a >>= fun r => (k r).inline body

section Inline

variable (body : (a : M.Act) → Prog L (M.Res a))

@[simp] theorem inline_ret (x : α) : (Prog.ret x : Prog M α).inline body = .ret x := rfl

@[simp] theorem inline_perform (a : M.Act) : (perform a).inline body = body a := bind_ret (body a)

theorem inline_bind (p : Prog M α) (f : α → Prog M β) :
    (p >>= f).inline body = p.inline body >>= fun x => (f x).inline body := by
  induction p with
  | ret x => rfl
  | act a k ih =>
    rw [act_bind, inline, inline, bind_assoc]
    congr 1
    funext r
    exact ih r

theorem inline_each (f : β → Prog M Unit) (bs : List β) :
    (each f bs).inline body = each (fun b => (f b).inline body) bs := by
  induction bs with
  | nil => rfl
  | cons b bs ih => rw [each_cons, each_cons, inline_bind, ih]

end Inline

/-- **Inlining keeps the runs.** -/
theorem run_inline {Call : Type} {Res : Call → Type} {body : (c : Call) → Prog L (Res c)}
    (p : Prog (L.calls Call Res body) α) (s : L.Site) (w : L.State) :
    (p.inline body).run s w = p.run (L := L.calls Call Res body) s w := by
  induction p generalizing w with
  | ret x => rfl
  | act c k ih =>
    rw [inline, run_bind, run_act]
    exact congrArg _ (funext fun r => ih r.1 r.2)

/-! ## What a run yields -/

/-- What the actions of the run yield, in order. -/
def collect (y : L.Site → L.Act → L.State → List γ) (s : L.Site) : Prog L α → L.State → List γ
  | .ret _, _ => []
  | .act a k, w => y s a w ++ match L.exec s a w with
    | none => []
    | some (r, w') => (k r).collect y s w'

section Collect

variable (y : L.Site → L.Act → L.State → List γ) (s : L.Site) (w : L.State)

@[simp] theorem collect_ret (x : α) : (Prog.ret x : Prog L α).collect y s w = [] := rfl

@[simp] theorem collect_perform (a : L.Act) : (perform a).collect y s w = y s a w := by
  rw [perform, collect]
  cases L.exec s a w <;> simp

/-- What a program yields and, from the state it leaves, the next one. -/
theorem collect_bind {p : Prog L α} (f : α → Prog L β) {x : α} {w' : L.State}
    (h : p.run s w = some (x, w')) :
    (p >>= f).collect y s w = p.collect y s w ++ (f x).collect y s w' := by
  induction p generalizing w with
  | ret z =>
    cases h
    rfl
  | act a k ih =>
    rw [run_act] at h
    obtain ⟨⟨r, w₁⟩, he, h⟩ := Option.bind_eq_some_iff.mp h
    rw [act_bind, collect, collect, he, List.append_assoc]
    exact congrArg _ (ih r w₁ h)

/-- **What a run does with what it yields**, if every action does it and it goes on from one action
to the next. -/
theorem run_collect {R : List γ → L.State → L.State → Prop} (hnil : ∀ w, R [] w w)
    (htrans : ∀ ys zs w w₁ w₂, R ys w w₁ → R zs w₁ w₂ → R (ys ++ zs) w w₂)
    (hact : ∀ a w r w', L.exec s a w = some (r, w') → R (y s a w) w w')
    {p : Prog L α} {x : α} {w' : L.State} (h : p.run s w = some (x, w')) :
    R (p.collect y s w) w w' := by
  induction p generalizing w with
  | ret z =>
    cases h
    exact hnil _
  | act a k ih =>
    rw [run_act] at h
    obtain ⟨⟨r, w₁⟩, he, h⟩ := Option.bind_eq_some_iff.mp h
    rw [collect, he]
    exact htrans _ _ _ _ _ (hact a w r w₁ he) (ih r w₁ h)

end Collect

end Prog

end Interleave
