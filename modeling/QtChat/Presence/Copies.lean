import Mathlib.Data.List.Basic

/-!
# Copies kept up to date by notes

A copy of some values is loaded and then told what changes, each key by itself. `copyOf` is the copy
after some notes; before the first `load` there is none.

- `Tells R c`: every pair of the copy satisfies `R`. `Tells.load`, `Tells.set` and `Tells.add` say
  what a note needs for this.
- `Tells.sets`: the new value of a key, told any number of times.
-/

namespace Presence

/-- What the holder of a copy is told: values of keys, a new value of a key, a key more. -/
inductive Note (K V : Type) where
  | load (pairs : List (K × V))
  | set (k : K) (v : V)
  | add (k : K) (v : V)

variable {K V : Type} [DecidableEq K]

/-- A copy after a note. A second `load` adds what it has. -/
def Note.apply : Note K V → Option (List (K × V)) → Option (List (K × V))
  | load pairs, c => some (c.getD [] ++ pairs)
  | set k v, c => c.map fun l => l.map fun p => if p.1 = k then (k, v) else p
  | add k v, c => c.map fun l => l ++ [(k, v)]

/-- The copy after these notes. -/
def copyOf (notes : List (Note K V)) : Option (List (K × V)) :=
  notes.foldl (fun c n => n.apply c) none

@[simp] theorem copyOf_nil : copyOf ([] : List (Note K V)) = none := rfl

theorem copyOf_concat (notes : List (Note K V)) (n : Note K V) :
    copyOf (notes ++ [n]) = n.apply (copyOf notes) := by
  rw [copyOf, List.foldl_append]
  rfl

/-- Notes take no copy away. -/
theorem copyOf_append {notes : List (Note K V)} (h : copyOf notes ≠ none) (more : List (Note K V)) :
    copyOf (notes ++ more) ≠ none := by
  induction more generalizing notes with
  | nil => rwa [List.append_nil]
  | cons n more ih =>
    rw [List.append_cons]
    refine ih ?_
    obtain ⟨c, hc⟩ := Option.ne_none_iff_exists'.mp h
    rw [copyOf_concat, hc]
    cases n <;> exact Option.some_ne_none _

/-- After a `load` there is a copy. -/
theorem copyOf_load (notes : List (Note K V)) (pairs : List (K × V)) (more : List (Note K V)) :
    copyOf (notes ++ .load pairs :: more) ≠ none := by
  rw [List.append_cons]
  refine copyOf_append ?_ more
  rw [copyOf_concat]
  exact Option.some_ne_none _

/-- Every pair of the copy satisfies `R`. -/
def Tells (R : K × V → Prop) (c : Option (List (K × V))) : Prop := ∀ l, c = some l → ∀ p ∈ l, R p

section Tells

variable {R R' : K × V → Prop} {c : Option (List (K × V))} {k : K} {v : V}

omit [DecidableEq K] in
theorem tells_none (R : K × V → Prop) : Tells R none := fun _ h => nomatch h

omit [DecidableEq K] in
theorem Tells.mono (h : Tells R c) (hR : ∀ p, R p → R' p) : Tells R' c :=
  fun l hl p hp => hR p (h l hl p hp)

theorem Tells.load {pairs : List (K × V)} (h : Tells R c) (hp : ∀ p ∈ pairs, R p) :
    Tells R ((Note.load pairs).apply c) := by
  intro l hl p hm
  cases hl
  rcases List.mem_append.mp hm with hm | hm
  · cases c with
    | none => cases hm
    | some l => exact h l rfl p hm
  · exact hp p hm

/-- After a new value of `k` the pairs of the other keys stay. -/
theorem Tells.set (h : Tells R c) (hne : ∀ p, p.1 ≠ k → R p → R' p)
    (hk : ∀ v', R (k, v') → R' (k, v)) : Tells R' ((Note.set k v).apply c) := by
  intro l hl p hm
  obtain ⟨l₀, rfl, rfl⟩ := Option.map_eq_some_iff.mp hl
  obtain ⟨q, hq, rfl⟩ := List.mem_map.mp hm
  have hR := h l₀ rfl q hq
  split
  · rename_i e
    refine hk q.2 ?_
    rw [← e]
    exact hR
  · rename_i e
    exact hne q e hR

theorem Tells.add (h : Tells R c) (hp : c ≠ none → R (k, v)) :
    Tells R ((Note.add k v).apply c) := by
  intro l hl p hm
  obtain ⟨l₀, rfl, rfl⟩ := Option.map_eq_some_iff.mp hl
  rcases List.mem_append.mp hm with hm | hm
  · exact h l₀ rfl p hm
  · rw [List.mem_singleton.mp hm]
    exact hp nofun

/-- **A new value of `k`, told to a copy.** Told once or more, it makes `R` of the other keys into
`R'` of all; not told, there must be nothing to tell. -/
theorem Tells.sets {notes : List (Note K V)} {m : Nat} (h : Tells R (copyOf notes))
    (hne : ∀ p, p.1 ≠ k → R p → R' p) (hk : ∀ v', R (k, v') → R' (k, v))
    (hback : ∀ v', R' (k, v') → R (k, v')) (hnone : m = 0 → ∀ v', R (k, v') → R' (k, v')) :
    Tells R' (copyOf (notes ++ List.replicate m (.set k v))) := by
  induction m with
  | zero =>
    rw [List.replicate_zero, List.append_nil]
    refine h.mono fun p hp => ?_
    by_cases e : p.1 = k
    · subst e
      exact hnone rfl p.2 hp
    · exact hne p e hp
  | succ m ih =>
    rw [List.replicate_succ', ← List.append_assoc, copyOf_concat]
    rcases Nat.eq_zero_or_pos m with rfl | hm
    · rw [List.replicate_zero, List.append_nil]
      exact h.set hne hk
    · exact (ih fun e => absurd e (Nat.ne_of_gt hm)).set (fun _ _ => id)
        fun v' hv => hk v' (hback v' hv)

end Tells

end Presence
