import Mathlib.Data.List.Nodup

/-!
# Tables with a primary key

A table is a list of rows, each a key and the other columns; two rows never have the same key. The
operations are the ones of SQL: `find` (`SELECT … WHERE key = k`), `update` (`UPDATE … WHERE
key = k`), `updateAll` (`UPDATE`), `insert` (which fails on a duplicate key). `find_*` says what a
`find` gives after each of them.
-/

namespace Relational

/-- A table with keys in `K` and the other columns in `V`. -/
structure Table (K V : Type) where
  rows : List (K × V)
  keys_nodup : (rows.map Prod.fst).Nodup

namespace Table

variable {K V : Type}

def empty : Table K V := ⟨[], List.nodup_nil⟩

theorem keys_map (f : K × V → V) (rows : List (K × V)) :
    (rows.map fun r => (r.1, f r)).map Prod.fst = rows.map Prod.fst := by
  rw [List.map_map]; rfl

/-- Every row with its columns changed. -/
def updateAll (f : V → V) (t : Table K V) : Table K V :=
  ⟨t.rows.map fun r => (r.1, f r.2), by rw [keys_map fun r => f r.2]; exact t.keys_nodup⟩

variable [DecidableEq K]

/-- The row with key `k`. -/
def find (k : K) (t : Table K V) : Option V := (t.rows.find? fun r => r.1 = k).map Prod.snd

/-- The row with key `k` with its columns changed. -/
def update (k : K) (f : V → V) (t : Table K V) : Table K V :=
  ⟨t.rows.map fun r => (r.1, if r.1 = k then f r.2 else r.2), by
    rw [keys_map fun r => if r.1 = k then f r.2 else r.2]; exact t.keys_nodup⟩

/-- A new row; `none` if the key is taken. -/
def insert (k : K) (v : V) (t : Table K V) : Option (Table K V) :=
  if h : ∃ r ∈ t.rows, r.1 = k then none
  else some ⟨t.rows ++ [(k, v)], by
    rw [List.map_append, List.nodup_append]
    refine ⟨t.keys_nodup, List.nodup_singleton _, fun a ha b hb e => ?_⟩
    simp only [List.map_cons, List.map_nil, List.mem_singleton] at hb
    obtain ⟨r, hr, rfl⟩ := List.mem_map.mp ha
    exact h ⟨r, hr, e.trans hb⟩⟩

variable {t t' : Table K V} {k k' : K} {v : V}

theorem find_eq_none : t.find k = none ↔ ∀ r ∈ t.rows, r.1 ≠ k := by
  simp [find]

theorem find_eq_some : t.find k = some v ↔ (k, v) ∈ t.rows := by
  constructor
  · intro h
    obtain ⟨⟨k', v'⟩, h', rfl⟩ := Option.map_eq_some_iff.mp h
    have hk : k' = k := by simpa using List.find?_some h'
    subst hk
    exact List.mem_of_find?_eq_some h'
  · intro h
    cases hf : t.find k with
    | none => exact absurd rfl (find_eq_none.mp hf _ h)
    | some v' =>
      obtain ⟨⟨k', v''⟩, h', rfl⟩ := Option.map_eq_some_iff.mp hf
      have hk : k' = k := by simpa using List.find?_some h'
      subst hk
      have := List.inj_on_of_nodup_map t.keys_nodup h (List.mem_of_find?_eq_some h') rfl
      cases this
      rfl

theorem find_updateAll (f : V → V) (t : Table K V) (k : K) :
    (t.updateAll f).find k = (t.find k).map f := by
  simp only [find, updateAll, List.find?_map, Option.map_map]
  rfl

theorem find_update (k : K) (f : V → V) (t : Table K V) (k' : K) :
    (t.update k f).find k' = if k' = k then (t.find k).map f else t.find k' := by
  simp only [find, update, List.find?_map, Option.map_map]
  have hc : ((fun r : K × V => decide (r.1 = k')) ∘ fun r : K × V =>
      (r.1, if r.1 = k then f r.2 else r.2)) = fun r => decide (r.1 = k') := rfl
  rw [hc]
  cases hf : t.rows.find? (fun r => decide (r.1 = k')) with
  | none =>
    split
    · rename_i h; subst h; simp [hf]
    · rfl
  | some r =>
    have hr : r.1 = k' := by simpa using List.find?_some hf
    split
    · rename_i h; subst h; simp [hf, hr]
    · rename_i h; simp [hr, h]

theorem find_update_ne (f : V → V) (h : k' ≠ k) : (t.update k f).find k' = t.find k' := by
  rw [find_update, if_neg h]

theorem find_insert (h : t.insert k v = some t') (k' : K) :
    t'.find k' = if k' = k then some v else t.find k' := by
  unfold insert at h
  split at h
  · cases h
  · rename_i hk
    cases h
    simp only [find, List.find?_append]
    by_cases e : k' = k
    · subst e
      have : t.rows.find? (fun r => decide (r.1 = k')) = none := by
        simpa using fun a b hm e => hk ⟨(a, b), hm, e⟩
      simp [this]
    · have : decide (k = k') = false := by simpa using fun h => e h.symm
      simp [e, this]

theorem insert_eq_none : t.insert k v = none ↔ (t.find k).isSome := by
  rw [Option.isSome_iff_ne_none, ne_eq, find_eq_none]
  unfold insert
  split
  · rename_i h
    obtain ⟨r, hr, hk⟩ := h
    exact iff_of_true rfl fun hn => hn r hr hk
  · rename_i h
    exact iff_of_false (by simp) (not_not_intro fun r hr hk => h ⟨r, hr, hk⟩)

end Table

end Relational
