import QtChat.Properties.PoolInvariant

/-!
# Loans

What a step of the pool does to `_borrowedConns` and to the connections that objects hold (`Loans`):
nothing, one connection lent and recorded, or one record erased (`Moves.loans`).
-/

namespace QtChat

open Interleave

namespace PoolSys

variable {s s' : PoolSys}

/-- What a step does to the records and to what objects hold. -/
inductive Loans (s s' : PoolSys) : Prop
  | same : s'.held = s.held → s'.pool.borrowedConns = s.pool.borrowedConns → Loans s s'
  | lent (conn : RawConn) : s'.objects = s.objects ++ [⟨conn, false⟩] →
      s'.pool.borrowedConns = s.pool.borrowedConns.insert conn s.now → Loans s s'
  | returned (conn : RawConn) : (∀ c ∈ s'.held, c ∈ s.held) →
      s'.pool.borrowedConns = s.pool.borrowedConns.erase conn → Loans s s'

/-- The loop lends a connection or leaves the records as they are. -/
theorem loop_loans {t : Nat} {probe : ConnEntry → Probe} {p : DbPool} {s₀ : PoolSys}
    (ho : s₀.objects = s.objects) (hn : s₀.now = s.now)
    (hp : p.borrowedConns = s.pool.borrowedConns) : s.Loans (s₀.loop t probe p) := by
  have hheld : s₀.held = s.held := by unfold held; rw [ho]
  refine loop_cases (fun _ entry _ _ => ?_) (fun _ _ _ conn _ _ => ?_) (fun _ => ?_) fun _ => ?_
  · refine .lent entry.conn (congrArg (· ++ [_]) ho) ?_
    change p.borrowedConns.insert entry.conn s₀.now = _
    rw [hp, hn]
  · refine .lent conn (congrArg (· ++ [_]) ho) ?_
    change p.borrowedConns.insert conn s₀.now = _
    rw [hp, hn]
  · exact .same hheld hp
  · exact .same hheld hp

theorem returned_loans {k : Nat} {obj : PooledMySQL} {objects : List PooledMySQL}
    (hk : s.objects[k]? = some obj)
    (ho : objects = s.objects.set k { obj with released := true } ∨ objects = s.objects.eraseIdx k)
    (threads : List Thread) : s.Loans { s with
      pool := s.pool.returnConnection obj.conn s.now
      threads := threads
      objects := objects } := by
  refine .returned obj.conn (fun c hc => ?_) ?_
  · have hmem : c ∈ objects.filterMap PooledMySQL.holds := hc
    rw [held_without hk ho, ← filterMap_eraseIdx _ hk rfl] at hmem
    exact ((List.eraseIdx_sublist _ _).filterMap _).subset hmem
  · change (s.pool.returnConnection obj.conn s.now).borrowedConns = _
    unfold DbPool.returnConnection
    dsimp only
    split <;> rfl

/-- **What a step does to the loans**, until `shutdown`. -/
theorem Moves.loans {l : PoolLabel} (h : s.Moves l s') (hd : s'.pool.isShutdown = false) :
    s.Loans s' := by
  cases h with
  | stay | spawn | connect | spurious | timeout | giveUp => exact .same rfl rfl
  | run => exact loop_loans rfl rfl rfl
  | lend => exact .lent _ rfl rfl
  | back => exact loop_loans rfl rfl rfl
  | giveBack hk _ ho => exact returned_loans hk ho _
  | giveBackLate hk _ ho => exact returned_loans hk ho _
  | @drop k obj hk hr =>
    refine .same ?_ rfl
    have hnone : obj.holds = none := by simp [PooledMySQL.holds, hr]
    change (s.objects.eraseIdx k).filterMap PooledMySQL.holds = _
    rw [filterMap_eraseIdx _ hk hnone, filterMap_set_same _ hk rfl]
    rfl
  | shutdown hn =>
    change (s.pool.shutdown).isShutdown = false at hd
    rw [DbPool.shutdown, if_neg (by rw [hn]; decide)] at hd
    cases hd

/-- `acquire` returns the connection when the clock shows `t`. -/
def LentAt (conn : RawConn) (t : Int) (s s' : PoolSys) : Prop :=
  s.now = t ∧ s'.objects = s.objects ++ [⟨conn, false⟩]

theorem held_append {conn : RawConn} (h : s'.objects = s.objects ++ [⟨conn, false⟩]) :
    s'.held = s.held ++ [conn] := by
  unfold held
  rw [h, List.filterMap_append]
  rfl

/-- What is lent is not held by another object. -/
theorem notMem_held_of_lent (h : PoolInv s') {conn : RawConn}
    (ho : s'.objects = s.objects ++ [⟨conn, false⟩]) : conn ∉ s.held := by
  intro hmem
  have honce := h.once conn
  have hpos := List.count_pos_iff.mpr hmem
  rw [places, held_append ho, List.count_append, List.count_singleton_self] at honce
  omega

/-- A connection that is held before and after a step keeps its record. -/
theorem Loans.lookup_eq (h : s.Loans s') (hi : PoolInv s') {c : RawConn} (hc : c ∈ s.held)
    (hc' : c ∈ s'.held) : s'.pool.borrowedConns.lookup c = s.pool.borrowedConns.lookup c := by
  cases h with
  | same _ hb => rw [hb]
  | lent conn ho hb =>
    have hne : c ≠ conn := fun he => notMem_held_of_lent hi ho (he ▸ hc)
    rw [hb, AList.lookup_insert_ne hne]
  | returned conn _ hb =>
    have hmem : c ∈ s'.pool.borrowedConns := (hi.borrowed c).mpr hc'
    have hne : c ≠ conn := by
      rintro rfl
      rw [hb] at hmem
      exact (AList.mem_erase.mp hmem).1 rfl
    rw [hb, AList.lookup_erase_ne hne]

/-- A connection that was not held before a step is lent by it, and recorded. -/
theorem Loans.lentAt (h : s.Loans s') {c : RawConn} (hc : c ∉ s.held) (hc' : c ∈ s'.held) :
    LentAt c s.now s s' := by
  cases h with
  | same hh _ => rw [hh] at hc'; exact absurd hc' hc
  | lent conn ho hb =>
    rw [held_append ho, List.mem_append, List.mem_singleton] at hc'
    obtain rfl := hc'.resolve_left hc
    exact ⟨rfl, ho⟩
  | returned conn hh _ => exact absurd (hh c hc') hc

theorem Loans.lookup_lent (h : s.Loans s') {c : RawConn} (hc : c ∉ s.held) (hc' : c ∈ s'.held) :
    s'.pool.borrowedConns.lookup c = some s.now := by
  cases h with
  | same hh _ => rw [hh] at hc'; exact absurd hc' hc
  | lent conn ho hb =>
    rw [held_append ho, List.mem_append, List.mem_singleton] at hc'
    obtain rfl := hc'.resolve_left hc
    rw [hb, AList.lookup_insert]
  | returned conn hh _ => exact absurd (hh c hc') hc

end PoolSys

end QtChat
