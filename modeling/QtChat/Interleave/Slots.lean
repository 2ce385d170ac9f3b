import Mathlib.Data.List.Basic
import Mathlib.Data.List.Count
import Mathlib.Data.List.Perm.Subperm

/-!
# Lists whose items change one at a time

The threads of a program, or the objects they own, as a list: item `t` changes (`List.set`) or goes
(`List.eraseIdx`). `exists_slot` cuts the list at the item, so that what the list has in total
before and after differs by that item alone: `countP_set`, `length_filterMap_set`,
`count_filterMap_set`.
-/

namespace Interleave

variable {α β : Type}

/-- Item `t` of a list with what stands before and after it. -/
theorem exists_slot {l : List α} {t : Nat} {a : α} (h : l[t]? = some a) :
    ∃ l₁ l₂, l = l₁ ++ a :: l₂ ∧ (∀ b, l.set t b = l₁ ++ b :: l₂) ∧ l.eraseIdx t = l₁ ++ l₂ := by
  obtain ⟨ht, rfl⟩ := List.getElem?_eq_some_iff.mp h
  refine ⟨l.take t, l.drop (t + 1), ?_, fun b => ?_, ?_⟩
  · rw [List.getElem_cons_drop, List.take_append_drop]
  · rw [List.set_eq_take_append_cons_drop, if_pos ht]
  · rw [List.eraseIdx_eq_take_drop_succ]

variable {l : List α} {t : Nat} {a : α} (p : α → Bool)

/-- **How a number changes when one item does.** -/
theorem countP_set (h : l[t]? = some a) (b : α) :
    (l.set t b).countP p + (if p a then 1 else 0) = l.countP p + if p b then 1 else 0 := by
  obtain ⟨l₁, l₂, hl, hs, -⟩ := exists_slot h
  rw [hs, hl, List.countP_append, List.countP_append, List.countP_cons, List.countP_cons]
  omega

/-- The number does not change if the items are alike. -/
theorem countP_set_same (h : l[t]? = some a) {b : α} (e : p b = p a) :
    (l.set t b).countP p = l.countP p := by
  have := countP_set p h b
  rw [e] at this
  omega

variable (f : α → Option β)

theorem filterMap_set_same (h : l[t]? = some a) {b : α} (e : f b = f a) :
    (l.set t b).filterMap f = l.filterMap f := by
  obtain ⟨l₁, l₂, hl, hs, -⟩ := exists_slot h
  rw [hs, hl, List.filterMap_append, List.filterMap_append, List.filterMap_cons,
    List.filterMap_cons, e]

/-- An item without a value may as well be gone. -/
theorem filterMap_eraseIdx (h : l[t]? = some a) {b : α} (e : f b = none) :
    (l.eraseIdx t).filterMap f = (l.set t b).filterMap f := by
  obtain ⟨l₁, l₂, -, hs, he⟩ := exists_slot h
  rw [he, hs, List.filterMap_append, List.filterMap_append, List.filterMap_cons_none e]

theorem length_filterMap_set (h : l[t]? = some a) (b : α) :
    ((l.set t b).filterMap f).length + (if (f a).isSome then 1 else 0) =
      (l.filterMap f).length + if (f b).isSome then 1 else 0 := by
  rw [List.length_filterMap_eq_countP, List.length_filterMap_eq_countP]
  exact countP_set (fun x => (f x).isSome) h b

/-- How often `c` comes up among the values of the items. -/
theorem count_filterMap_set [DecidableEq β] (h : l[t]? = some a) (b : α) (c : β) :
    ((l.set t b).filterMap f).count c + (if f a = some c then 1 else 0) =
      (l.filterMap f).count c + if f b = some c then 1 else 0 := by
  have hc : ∀ x : α, ∀ l' : List α, ((x :: l').filterMap f).count c =
      (l'.filterMap f).count c + if f x = some c then 1 else 0 := by
    intro x l'
    cases hx : f x with
    | none => rw [List.filterMap_cons_none hx, if_neg (by simp)]; omega
    | some d =>
      rw [List.filterMap_cons_some hx, List.count_cons]
      simp
  obtain ⟨l₁, l₂, hl, hs, -⟩ := exists_slot h
  rw [hs, hl, List.filterMap_append, List.filterMap_append, List.count_append, List.count_append,
    hc, hc]
  omega

/-- Different items that have the property are at most as many as have it. -/
theorem length_le_countP {ts : List Nat} (hn : ts.Nodup)
    (h : ∀ t ∈ ts, ∃ a, l[t]? = some a ∧ p a = true) : ts.length ≤ l.countP p := by
  have hsub : ts.Subperm (List.range l.length) := hn.subperm fun t ht => by
    obtain ⟨a, ha, -⟩ := h t ht
    exact List.mem_range.mpr (List.getElem?_eq_some_iff.mp ha).1
  have hall : ∀ t ∈ ts, (l[t]?).any p = true := fun t ht => by
    obtain ⟨a, ha, hp⟩ := h t ht
    rw [ha]
    exact hp
  have hsome : (List.range l.length).map (fun t => l[t]?) = l.map some := by
    refine List.ext_getElem (by simp) fun t h₁ h₂ => ?_
    simp
  calc ts.length = ts.countP fun t => (l[t]?).any p := (List.countP_eq_length.mpr hall).symm
    _ ≤ (List.range l.length).countP fun t => (l[t]?).any p := hsub.countP_le _
    _ = ((List.range l.length).map fun t => l[t]?).countP fun a => a.any p := by
      rw [List.countP_map]
      rfl
    _ = l.countP p := by
      rw [hsome, List.countP_map]
      rfl

end Interleave
