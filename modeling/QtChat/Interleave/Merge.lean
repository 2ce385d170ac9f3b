import Mathlib.Data.List.Basic

/-!
# Three ways to one place

Items are sent in some order. Some arrive, some are held back and come at once (`flush`), and some
wait in a queue behind those. `InSequence` says that nothing is out of order yet: the items that
arrived and those held back can be put together so that, with the queue behind, all are as they were
sent. What is sent next keeps it whatever way it takes, but for an item that arrives or is held back
while the queue is not empty (`arrive`, `hold`).
-/

namespace Interleave

variable {α : Type}

/-- The items with this mark. -/
def marked (b : Bool) (T : List (Bool × α)) : List α := (T.filter (·.1 = b)).map Prod.snd

/-- What arrived and what is held back, put together in some way, and then the queue are in this
order. -/
def InSequence (arrived held queue order : List α) : Prop :=
  ∃ T : List (Bool × α), marked true T = arrived ∧ marked false T = held ∧
    (T.map Prod.snd ++ queue).Sublist order

theorem marked_append (b : Bool) (T T' : List (Bool × α)) :
    marked b (T ++ T') = marked b T ++ marked b T' := by
  rw [marked, List.filter_append, List.map_append]
  rfl

/-- A list with one mark. -/
theorem marked_map (b c : Bool) (xs : List α) :
    marked b (xs.map fun x => (c, x)) = if c = b then xs else [] := by
  induction xs with
  | nil => split <;> rfl
  | cons x xs ih =>
    unfold marked at ih ⊢
    rw [List.map_cons, List.filter_cons]
    by_cases h : c = b
    · simpa [h] using ih
    · simp [h]

theorem map_snd_mark (c : Bool) (xs : List α) : (xs.map fun x => (c, x)).map Prod.snd = xs := by
  rw [List.map_map]
  exact List.map_id' xs

theorem mem_of_marked {b : Bool} {T : List (Bool × α)} {x : α} (h : x ∈ marked b T) :
    x ∈ T.map Prod.snd := by
  obtain ⟨e, he, rfl⟩ := List.mem_map.mp h
  exact List.mem_map_of_mem (List.mem_of_mem_filter he)

/-- If nothing held back was sent before what arrived, one comes after the other. -/
theorem map_snd_eq {T : List (Bool × α)}
    (h : ∀ u ∈ marked false T, ∀ r ∈ marked true T, ¬[u, r].Sublist (T.map Prod.snd)) :
    T.map Prod.snd = marked true T ++ marked false T := by
  induction T with
  | nil => rfl
  | cons e T ih =>
    obtain ⟨b, x⟩ := e
    cases b with
    | true =>
      have hrest := ih fun u hu r hr hs => h u hu r (List.mem_cons_of_mem x hr) (hs.cons x)
      change x :: T.map Prod.snd = x :: (marked true T ++ marked false T)
      rw [hrest]
    | false =>
      -- whatever arrived comes after `x`
      have hnone : marked true T = [] := by
        refine List.eq_nil_iff_forall_not_mem.mpr fun r hr => ?_
        exact h x List.mem_cons_self r hr
          ((List.singleton_sublist.mpr (mem_of_marked hr)).cons_cons x)
      have hrest := ih fun u _ r hr => by
        rw [hnone] at hr
        cases hr
      change x :: T.map Prod.snd = marked true T ++ x :: marked false T
      rw [hrest, hnone]
      rfl

namespace InSequence

variable {R U W W' O O' xs ys : List α}

theorem init (U W : List α) : InSequence [] U W (U ++ W) := by
  refine ⟨U.map fun x => (false, x), ?_, ?_, ?_⟩
  · rw [marked_map]
    rfl
  · rw [marked_map]
    rfl
  · rw [map_snd_mark]

theorem mono (h : InSequence R U W O) (hw : W'.Sublist W) (ho : O.Sublist O') :
    InSequence R U W' O' := by
  obtain ⟨T, hr, hu, hs⟩ := h
  exact ⟨T, hr, hu, ((hw.append_left _).trans hs).trans ho⟩

/-- The first items of the queue arrive. -/
theorem hand (h : InSequence R U (xs ++ W) O) : InSequence (R ++ xs) U W O := by
  obtain ⟨T, rfl, rfl, hs⟩ := h
  refine ⟨T ++ xs.map fun x => (true, x), ?_, ?_, ?_⟩
  · rw [marked_append, marked_map]
    rfl
  · rw [marked_append, marked_map]
    exact List.append_nil _
  · rw [List.map_append, map_snd_mark, List.append_assoc]
    exact hs

/-- Some of the first items of the queue are held back. -/
theorem putBack (h : InSequence R U (xs ++ W) O) (hy : ys.Sublist xs) :
    InSequence R (U ++ ys) W O := by
  obtain ⟨T, rfl, rfl, hs⟩ := h
  refine ⟨T ++ ys.map fun x => (false, x), ?_, ?_, ?_⟩
  · rw [marked_append, marked_map]
    exact List.append_nil _
  · rw [marked_append, marked_map]
    rfl
  · rw [List.map_append, map_snd_mark, List.append_assoc]
    exact ((hy.append_right W).append_left _).trans hs

/-- More is sent into the queue. -/
theorem enqueue (h : InSequence R U W O) (hy : ys.Sublist xs) :
    InSequence R U (W ++ ys) (O ++ xs) := by
  obtain ⟨T, hr, hu, hs⟩ := h
  refine ⟨T, hr, hu, ?_⟩
  rw [← List.append_assoc]
  exact hs.append hy

/-- More is sent and arrives, with the queue empty. -/
theorem arrive (h : InSequence R U [] O) (xs : List α) : InSequence (R ++ xs) U [] (O ++ xs) := by
  have hq : InSequence R U (xs ++ []) (O ++ xs) := by
    rw [List.append_nil]
    exact h.enqueue (.refl xs)
  exact hq.hand

/-- More is sent and held back, with the queue empty. -/
theorem hold (h : InSequence R U [] O) (hy : ys.Sublist xs) :
    InSequence R (U ++ ys) [] (O ++ xs) := by
  have hq : InSequence R U (xs ++ []) (O ++ xs) := by
    rw [List.append_nil]
    exact h.enqueue (.refl xs)
  exact hq.putBack hy

/-- What was held back never arrives. -/
theorem discard (h : InSequence R U W O) : InSequence R [] W O := by
  obtain ⟨T, rfl, -, hs⟩ := h
  refine ⟨(marked true T).map fun x => (true, x), ?_, ?_, ?_⟩
  · rw [marked_map]
    rfl
  · rw [marked_map]
    rfl
  · rw [map_snd_mark]
    exact ((List.filter_sublist.map Prod.snd).append_right W).trans hs

/-- **What was held back arrives** in order, if none of it was sent before what has arrived. -/
theorem flush (h : InSequence R U W O) (hu : ∀ u ∈ U, ∀ r ∈ R, ¬[u, r].Sublist O) :
    InSequence (R ++ U) [] W O := by
  obtain ⟨T, rfl, rfl, hs⟩ := h
  have heq := map_snd_eq fun u hm r hr hs' =>
    hu u hm r hr ((hs'.trans (List.sublist_append_left _ W)).trans hs)
  rw [heq] at hs
  refine ⟨(marked true T ++ marked false T).map fun x => (true, x), ?_, ?_, ?_⟩
  · rw [marked_map]
    rfl
  · rw [marked_map]
    rfl
  · rw [map_snd_mark]
    exact hs

/-- **What has arrived** is as it was sent. -/
theorem sublist (h : InSequence R U W O) : R.Sublist O := by
  obtain ⟨T, rfl, -, hs⟩ := h
  exact ((List.filter_sublist.map Prod.snd).trans (List.sublist_append_left _ W)).trans hs

end InSequence

end Interleave
