import Mathlib.Tactic.ByContra

/-!
# Users on several servers and one table

Several servers hold users, and one table says who is online. An event is what a step of such a
system does to both (`Event.holds`, `Event.online`).

- `Exclusive`: no user is held by two servers; kept exactly by the events that are `Free`.
- `Agree`: the table says that a user is online exactly if a server holds the user; kept exactly by
  the events that are `Faithful`.
-/

namespace Presence

variable {S U : Type}

/-- What a step does to the sessions. -/
inductive Event (S U : Type) where
  | none
  /-- The server holds the user, and writes online into the user's row. -/
  | login (i : S) (u : U)
  /-- The server does not hold the user, and writes offline into the user's row. -/
  | logout (i : S) (u : U)
  /-- The server holds nobody, and writes offline into all rows. -/
  | exit (i : S)
  /-- The server holds nobody, and writes nothing. -/
  | crash (i : S)

/-- No user is held by two servers. -/
def Exclusive (H : S → U → Prop) : Prop := ∀ i j u, H i u → H j u → i = j

/-- The table says who is held. -/
def Agree (H : S → U → Prop) (O : U → Prop) : Prop := ∀ u, O u ↔ ∃ i, H i u

namespace Event

/-- Who is held after the event. -/
def holds (H : S → U → Prop) : Event S U → S → U → Prop
  | .none, j, v => H j v
  | .login i u, j, v => (j = i ∧ v = u) ∨ H j v
  | .logout i u, j, v => H j v ∧ ¬(j = i ∧ v = u)
  | .exit i, j, v => H j v ∧ j ≠ i
  | .crash i, j, v => H j v ∧ j ≠ i

/-- Who is online in the table after the event; `K` are the users who have a row. -/
def online (K O : U → Prop) : Event S U → U → Prop
  | .none, v => O v
  | .login _ u, v => O v ∨ (v = u ∧ K u)
  | .logout _ u, v => O v ∧ v ≠ u
  | .exit _, _ => False
  | .crash _, v => O v

/-- A login of a user whom no other server holds. -/
def Free (H : S → U → Prop) : Event S U → Prop
  | .login i u => ∀ j, H j u → j = i
  | _ => True

/-- What is written into the table is true. -/
def Faithful (K : U → Prop) (H : S → U → Prop) : Event S U → Prop
  | .none => True
  | .login _ u => K u
  | .logout i u => ∀ j, H j u → j = i
  | .exit i => ∀ j u, H j u → j = i
  | .crash i => ∀ u, H i u → ∃ j, j ≠ i ∧ H j u

/-- `Free`, asked of these servers alone. -/
def FreeAmong (servers : List S) (H : S → U → Prop) : Event S U → Prop
  | .login i u => ∀ j ∈ servers, H j u → j = i
  | _ => True

/-- `Faithful` for a login or a logout, asked of these servers alone. -/
def FaithfulAmong (servers : List S) (K : U → Prop) (H : S → U → Prop) : Event S U → Prop
  | .none => True
  | .login _ u => K u
  | .logout i u => ∀ j ∈ servers, H j u → j = i
  | .exit _ => False
  | .crash _ => False

variable {H : S → U → Prop} {K O : U → Prop}

instance (servers : List S) [DecidableEq S] [∀ j u, Decidable (H j u)] (e : Event S U) :
    Decidable (e.FreeAmong servers H) := by
  unfold FreeAmong; split <;> infer_instance

instance (servers : List S) [DecidableEq S] [∀ j u, Decidable (H j u)] [∀ u, Decidable (K u)]
    (e : Event S U) : Decidable (e.FaithfulAmong servers K H) := by
  unfold FaithfulAmong; split <;> infer_instance

/-- Servers that hold nobody need not be asked. -/
theorem free_of_among {servers : List S} (hall : ∀ j u, H j u → j ∈ servers) {e : Event S U}
    (h : e.FreeAmong servers H) : e.Free H := by
  cases e with
  | login i u => exact fun j hj => h j (hall j u hj) hj
  | _ => trivial

theorem faithful_of_among {servers : List S} (hall : ∀ j u, H j u → j ∈ servers) {e : Event S U}
    (h : e.FaithfulAmong servers K H) : e.Faithful K H := by
  cases e with
  | none => trivial
  | login i u => exact h
  | logout i u => exact fun j hj => h j (hall j u hj) hj
  | exit => exact h.elim
  | crash => exact h.elim

theorem holds_congr {H' : S → U → Prop} (h : ∀ i u, H i u ↔ H' i u) (e : Event S U) (i : S) (u : U) :
    e.holds H i u ↔ e.holds H' i u := by
  cases e <;> simp only [holds, h]

theorem online_congr {K' O' : U → Prop} (hK : ∀ u, K u ↔ K' u) (hO : ∀ u, O u ↔ O' u)
    (e : Event S U) (u : U) : e.online K O u ↔ e.online K' O' u := by
  cases e <;> simp only [online, hK, hO]

/-- Only a login makes a server hold a user. -/
theorem held_before {e : Event S U} {i : S} {u : U} (h : e.holds H i u) :
    H i u ∨ e = .login i u := by
  cases e with
  | none => exact .inl h
  | login j v =>
    rcases h with ⟨rfl, rfl⟩ | h
    · exact .inr rfl
    · exact .inl h
  | logout => exact .inl h.1
  | exit => exact .inl h.1
  | crash => exact .inl h.1

/-- **Exclusive sessions** are kept exactly by the logins that are free. -/
theorem exclusive_iff (h : Exclusive H) (e : Event S U) : Exclusive (e.holds H) ↔ e.Free H := by
  cases e with
  | none => exact iff_of_true h trivial
  | login i u =>
    constructor
    · intro h' j hj
      exact h' j i u (.inr hj) (.inl ⟨rfl, rfl⟩)
    · rintro hfree j k v (⟨hj, hv⟩ | hj) (⟨hk, hv'⟩ | hk)
      · exact hj.trans hk.symm
      · exact hj.trans (hfree k (hv ▸ hk)).symm
      · exact (hfree j (hv' ▸ hj)).trans hk.symm
      · exact h j k v hj hk
  | logout i u => exact iff_of_true (fun j k v hj hk => h j k v hj.1 hk.1) trivial
  | exit i => exact iff_of_true (fun j k v hj hk => h j k v hj.1 hk.1) trivial
  | crash i => exact iff_of_true (fun j k v hj hk => h j k v hj.1 hk.1) trivial

/-- **Agreement** is kept exactly by the events that write the truth. -/
theorem agree_iff (h : Agree H O) (hK : ∀ u, O u → K u) (e : Event S U) :
    Agree (e.holds H) (e.online K O) ↔ e.Faithful K H := by
  cases e with
  | none => exact iff_of_true h trivial
  | login i u =>
    constructor
    · intro h'
      rcases (h' u).mpr ⟨i, .inl ⟨rfl, rfl⟩⟩ with ho | ⟨-, hk⟩
      · exact hK u ho
      · exact hk
    · intro hk v
      constructor
      · rintro (ho | ⟨rfl, -⟩)
        · obtain ⟨j, hj⟩ := (h v).mp ho
          exact ⟨j, .inr hj⟩
        · exact ⟨i, .inl ⟨rfl, rfl⟩⟩
      · rintro ⟨j, ⟨rfl, rfl⟩ | hj⟩
        · exact .inr ⟨rfl, hk⟩
        · exact .inl ((h v).mpr ⟨j, hj⟩)
  | logout i u =>
    constructor
    · intro h' j hj
      by_contra hne
      exact ((h' u).mpr ⟨j, hj, fun e => hne e.1⟩).2 rfl
    · intro halone v
      constructor
      · rintro ⟨ho, hv⟩
        obtain ⟨j, hj⟩ := (h v).mp ho
        exact ⟨j, hj, fun e => hv e.2⟩
      · rintro ⟨j, hj, hne⟩
        refine ⟨(h v).mpr ⟨j, hj⟩, ?_⟩
        rintro rfl
        exact hne ⟨halone j hj, rfl⟩
  | exit i =>
    constructor
    · intro h' j u hj
      by_contra hne
      exact (h' u).mpr ⟨j, hj, hne⟩
    · intro halone u
      refine iff_of_false id ?_
      rintro ⟨j, hj, hne⟩
      exact hne (halone j u hj)
  | crash i =>
    constructor
    · intro h' u hu
      obtain ⟨j, hj, hne⟩ := (h' u).mp ((h u).mpr ⟨i, hu⟩)
      exact ⟨j, hne, hj⟩
    · intro hother u
      constructor
      · intro ho
        obtain ⟨j, hj⟩ := (h u).mp ho
        by_cases hji : j = i
        · subst hji
          obtain ⟨k, hk, hku⟩ := hother u hj
          exact ⟨k, hku, hk⟩
        · exact ⟨j, hj, hji⟩
      · rintro ⟨j, hj, -⟩
        exact (h u).mpr ⟨j, hj⟩

end Event

end Presence
