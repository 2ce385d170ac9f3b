import QtChat.Server.System

/-!
# What the tables satisfy

`Database.Wf`: the ids are positive `INT`s and the names fit their columns. Every statement keeps it
(`exec_wf`), so it holds in every reachable state (`reach_wf`).
-/

namespace QtChat

open Interleave

/-- Positive ids, and names that fit. -/
structure Database.Wf (db : Database) : Prop where
  nextUser : 1 ≤ db.nextUser
  nextGroup : 1 ≤ db.nextGroup
  user : ∀ r ∈ db.user.rows, (1 ≤ r.1 ∧ r.1 ≤ maxInt) ∧ r.2.name.length ≤ 200
  group : ∀ r ∈ db.allGroup.rows,
    (1 ≤ r.1 ∧ r.1 ≤ maxInt) ∧ r.2.groupname.length ≤ 200 ∧ r.2.groupdesc.length ≤ 800

theorem length_of_fitsVarchar {n : Nat} {s : Str} (h : fitsVarchar n s = true) :
    s.length ≤ 4 * n := by
  simp only [fitsVarchar, Bool.and_eq_true, decide_eq_true_eq] at h
  exact h.2

namespace Database

theorem wf_created (collate : Str → Str) : (created collate).Wf where
  nextUser := Int.le_refl 1
  nextGroup := Int.le_refl 1
  user := by simp [created, Relational.Table.empty]
  group := by simp [created, Relational.Table.empty]

theorem Wf.user_find {db : Database} (h : db.Wf) {k : Int} {row : UserRow}
    (hf : db.user.find k = some row) : (1 ≤ k ∧ k ≤ maxInt) ∧ row.name.length ≤ 200 :=
  h.user _ (Relational.Table.find_eq_some.mp hf)

theorem Wf.group_find {db : Database} (h : db.Wf) {k : Int} {row : GroupRow}
    (hf : db.allGroup.find k = some row) :
    (1 ≤ k ∧ k ≤ maxInt) ∧ row.groupname.length ≤ 200 ∧ row.groupdesc.length ≤ 800 :=
  h.group _ (Relational.Table.find_eq_some.mp hf)

/-- No row has the id of the default object. -/
theorem Wf.ne_of_stateOf {db : Database} (h : db.Wf) {u : Int} {state : UserState}
    (hs : db.stateOf u = some state) : u ≠ -1 := by
  obtain ⟨row, hrow, -⟩ := Option.map_eq_some_iff.mp hs
  have := (h.user_find hrow).1
  omega

theorem rows_insert {K V : Type} [DecidableEq K] {t t' : Relational.Table K V} {k : K} {v : V}
    (h : t.insert k v = some t') : t'.rows = t.rows ++ [(k, v)] := by
  unfold Relational.Table.insert at h
  split at h <;> cases h
  rfl

theorem exec_wf {db db' : Database} {st : Stmt} {r : st.Ans} (hw : db.Wf)
    (h : db.exec st = some (r, db')) : db'.Wf := by
  cases st with
  | insertUser name password state =>
    simp only [exec] at h
    split at h
    · rename_i hc
      simp only [Bool.and_eq_true, decide_eq_true_eq] at hc
      obtain ⟨t, ht, he⟩ := Option.map_eq_some_iff.mp h
      cases he
      refine ⟨?_, hw.nextGroup, fun r hr => ?_, hw.group⟩
      · have := hw.nextUser
        simp only
        omega
      · rw [rows_insert ht] at hr
        rcases List.mem_append.mp hr with hr | hr
        · exact hw.user r hr
        · rw [List.mem_singleton.mp hr]
          exact ⟨⟨hw.nextUser, hc.2⟩, length_of_fitsVarchar hc.1.1.1⟩
    · cases h
  | updateState id state =>
    cases h
    refine ⟨hw.nextUser, hw.nextGroup, fun r hr => ?_, hw.group⟩
    obtain ⟨r', hr', rfl⟩ := List.mem_map.mp hr
    have := hw.user r' hr'
    simp only
    split <;> exact this
  | updateName id name =>
    simp only [exec] at h
    split at h
    · cases h; exact hw
    · split at h
      · rename_i hc
        simp only [Bool.and_eq_true] at hc
        cases h
        refine ⟨hw.nextUser, hw.nextGroup, fun r hr => ?_, hw.group⟩
        obtain ⟨r', hr', rfl⟩ := List.mem_map.mp hr
        have := hw.user r' hr'
        simp only
        split
        · exact ⟨this.1, length_of_fitsVarchar hc.1⟩
        · exact this
      · cases h
  | resetState =>
    cases h
    refine ⟨hw.nextUser, hw.nextGroup, fun r hr => ?_, hw.group⟩
    obtain ⟨r', hr', rfl⟩ := List.mem_map.mp hr
    exact hw.user r' hr'
  | insertFriend userid friendid =>
    simp only [exec] at h
    cases h
    split <;> exact ⟨hw.nextUser, hw.nextGroup, hw.user, hw.group⟩
  | insertGroup name desc =>
    simp only [exec] at h
    split at h
    · rename_i hc
      simp only [Bool.and_eq_true, decide_eq_true_eq] at hc
      obtain ⟨t, ht, he⟩ := Option.map_eq_some_iff.mp h
      cases he
      refine ⟨hw.nextUser, ?_, hw.user, fun r hr => ?_⟩
      · have := hw.nextGroup
        simp only
        omega
      · rw [rows_insert ht] at hr
        rcases List.mem_append.mp hr with hr | hr
        · exact hw.group r hr
        · rw [List.mem_singleton.mp hr]
          exact ⟨⟨hw.nextGroup, hc.2⟩, length_of_fitsVarchar hc.1.1, length_of_fitsVarchar hc.1.2⟩
    · cases h
  | insertGroupUser groupid userid role =>
    simp only [exec] at h
    split at h
    · obtain ⟨t, ht, he⟩ := Option.map_eq_some_iff.mp h
      cases he
      exact ⟨hw.nextUser, hw.nextGroup, hw.user, hw.group⟩
    · cases h
  | insertOffline sql =>
    simp only [exec] at h
    split at h
    · cases h
    · split at h
      · cases h; exact ⟨hw.nextUser, hw.nextGroup, hw.user, hw.group⟩
      · cases h
  | deleteOffline userid => cases h; exact ⟨hw.nextUser, hw.nextGroup, hw.user, hw.group⟩
  | _ => cases h; exact hw

end Database

theorem reach_wf {P : JsonParser} {s : Sys} (h : (system P).Reach s) : s.world.db.Wf :=
  reach_db Database.wf_created (fun _ _ _ _ hw he => Database.exec_wf hw he) h

end QtChat
