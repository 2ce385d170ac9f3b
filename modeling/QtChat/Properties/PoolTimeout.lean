import QtChat.Properties.PoolInvariant
import QtChat.Properties.PoolWakeup

/-!
# A null pointer from the pool

A waiter past its deadline returns without a look at the pool, which other threads may have had in
between. `active_step` says how every step changes `_activeCount`, by the slots that it gives back
and takes, so the slots that are free when the waiter has the lock again are those that were free
when its wait timed out, and those given back since, less those taken since.
-/

namespace QtChat

open Interleave

namespace PoolSys

/-- There is no idle connection and no room for another one. -/
def Full (s : PoolSys) : Prop := s.pool.idleConns = [] ∧ s.pool.maxPoolSize ≤ s.pool.activeCount

instance (s : PoolSys) : Decidable s.Full := inferInstanceAs (Decidable (_ ∧ _))

/-- The loop on `pool` takes a connection or reserves a slot. -/
def takesBy (s : PoolSys) (probe : ConnEntry → Probe) (pool : DbPool) : Nat :=
  if (DbPool.acquireLoop s.now probe pool.idleConns pool).1 = .wait then 0 else 1

/-- The slots that the step gives back: a connection returns, or `createConnection` has failed. -/
def gives : PoolLabel → PoolSys → Nat
  | .release k _, s | .destroy k _, s =>
    if (s.objects[k]?.map (·.released)) = some false then 1 else 0
  | .relock t _, s => if s.threads[t]? = some (.connected none) then 1 else 0
  | _, _ => 0

/-- The slots that the step takes. -/
def takes : PoolLabel → PoolSys → Nat
  | .acquire _ probe, s | .wake _ probe, s => s.takesBy probe s.pool
  | .relock t probe, s =>
    if s.threads[t]? = some (.connected none) then
      s.takesBy probe { s.pool with activeCount := s.pool.activeCount - 1 }
    else 0
  | _, _ => 0

variable {s s' s₁ s₂ : PoolSys} {t : Nat} {probe : ConnEntry → Probe}

/-- What the loop does to the counter. -/
theorem loop_active (s : PoolSys) (t : Nat) (probe : ConnEntry → Probe) (p : DbPool) :
    (s.loop t probe p).pool.activeCount = p.activeCount + s.takesBy probe p ∧
      (s.loop t probe p).pool.maxPoolSize = p.maxPoolSize := by
  unfold loop takesBy
  have h := acquireLoop_result s.now probe p
  generalize DbPool.acquireLoop s.now probe p.idleConns p = r at h
  cases h with
  | wait => exact ⟨(Int.add_zero _).symm, rfl⟩
  | _ => exact ⟨rfl, rfl⟩

theorem giveBack_active {conn : RawConn} {waiter : Option Nat} (hd : s.pool.isShutdown = false)
    (h : s.giveBack conn waiter = some s') :
    s'.pool.activeCount = s.pool.activeCount - 1 ∧ s'.pool.maxPoolSize = s.pool.maxPoolSize := by
  unfold giveBack at h
  rw [if_neg (by rw [hd]; decide)] at h
  obtain ⟨-, h⟩ := Option.ite_none_right_eq_some.mp h
  cases h
  simp [DbPool.returnConnection, hd]

/-- **Every step** changes the counter by what it gives back and what it takes. -/
theorem active_step {l : PoolLabel} (h : PoolSys.step l s = some s') (hd : s.pool.isShutdown = false) :
    s'.pool.maxPoolSize = s.pool.maxPoolSize ∧
      s'.pool.activeCount + gives l s = s.pool.activeCount + takes l s := by
  have hloop : ∀ p : DbPool, p.maxPoolSize = s.pool.maxPoolSize → ∀ t probe,
      (s.loop t probe p).pool.maxPoolSize = s.pool.maxPoolSize ∧
        (s.loop t probe p).pool.activeCount = p.activeCount + s.takesBy probe p := by
    intro p hp t probe
    obtain ⟨ha, hm⟩ := loop_active s t probe p
    exact ⟨hm.trans hp, ha⟩
  cases l with
  | acquire t probe =>
    obtain ⟨-, h⟩ := Option.ite_none_right_eq_some.mp h
    cases h
    obtain ⟨hm, ha⟩ := hloop s.pool rfl t probe
    exact ⟨hm, (Int.add_zero _).trans ha⟩
  | wake t probe =>
    obtain ⟨-, h⟩ := Option.ite_none_right_eq_some.mp h
    cases h
    obtain ⟨hm, ha⟩ := hloop s.pool rfl t probe
    exact ⟨hm, (Int.add_zero _).trans ha⟩
  | relock t probe =>
    rw [step] at h
    split at h
    · rename_i conn ht
      cases h
      simp only [gives, takes, ht, Option.some.injEq, Thread.connected.injEq, reduceCtorEq, if_false]
      exact ⟨rfl, rfl⟩
    · rename_i ht
      obtain ⟨-, h⟩ := Option.ite_none_right_eq_some.mp h
      cases h
      obtain ⟨hm, ha⟩ := hloop { s.pool with activeCount := s.pool.activeCount - 1 } rfl t probe
      refine ⟨hm, ?_⟩
      rw [ha]
      simp only [gives, takes, ht, if_true]
      omega
    · cases h
  | release k waiter | destroy k waiter =>
    rw [step] at h
    split at h
    · cases h
    · rename_i obj hk
      split at h
      · rename_i hr
        cases h
        simp [gives, takes, hk, hr]
      · rename_i hr
        obtain ⟨s₁, hb, rfl⟩ := Option.map_eq_some_iff.mp h
        obtain ⟨ha, hm⟩ := giveBack_active hd hb
        refine ⟨hm, ?_⟩
        simp only [gives, takes, hk, Option.map_some, Bool.eq_false_iff.mpr hr, if_true, ha]
        omega
  | shutdown =>
    rw [step, if_neg (by rw [hd]; decide)] at h
    cases h
    rw [DbPool.shutdown, if_neg (by rw [hd]; decide)]
    exact ⟨rfl, rfl⟩
  | spawn | tick =>
    cases h
    exact ⟨rfl, rfl⟩
  | connect | spurious | timeout | giveUp =>
    obtain ⟨-, h⟩ := Option.ite_none_right_eq_some.mp h
    cases h
    exact ⟨rfl, rfl⟩

/-- **Every run** changes the free slots by those given back and those taken. -/
theorem free_runs {ls : List PoolLabel} (hr : poolMachine.runs ls s = some s')
    (hd : s'.pool.isShutdown = false) :
    s'.free + poolMachine.tally takes ls s = s.free + poolMachine.tally gives ls s := by
  refine (Machine.tally_balance (M := poolMachine) (v := PoolSys.free)
    (I := fun s : PoolSys => s.pool.isShutdown = false) (fun l s₁ s₂ hl hd₂ => ?_) hr hd).2
  have hd₁ := (moves_of_step hl).open_before hd₂
  obtain ⟨hm, ha⟩ := active_step hl hd₁
  refine ⟨hd₁, ?_⟩
  unfold free
  omega

end PoolSys

/-- A pool is full if no slot is free. -/
theorem PoolInv.full_iff {s : PoolSys} (h : PoolInv s) : s.Full ↔ s.free = 0 := by
  have hroom := h.room
  have hnat : (0 : Int) ≤ s.pool.idleConns.length := Int.natCast_nonneg _
  unfold PoolSys.Full PoolSys.free
  rw [← List.length_eq_zero_iff]
  omega

/-- **Null pointers.** In every interleaving before `shutdown`, when a thread whose wait has timed
out has the lock again and returns a null pointer, there is no idle connection and no room for one
exactly if the slots that were free at the time-out, and those given back since, have all been taken
since. -/
theorem null_when_full_iff {s s₁ s₂ s₃ : PoolSys} {t : Nat} {ls : List PoolLabel}
    (h : poolMachine.Reach s) (ht : PoolSys.step (.timeout t) s = some s₁)
    (hr : poolMachine.runs ls s₁ = some s₂) (hg : PoolSys.step (.giveUp t) s₂ = some s₃)
    (hd : s₂.pool.isShutdown = false) :
    s₃.Full ↔ s.free + poolMachine.tally PoolSys.gives ls s₁ =
      poolMachine.tally PoolSys.takes ls s₁ := by
  have hreach : poolMachine.Reach s₂ := (h.step (M := poolMachine) (.timeout t) ht).runs hr
  have hfree : s₁.free = s.free := by
    obtain ⟨-, ht⟩ := Option.ite_none_right_eq_some.mp ht
    cases ht
    rfl
  have hfull : s₃.Full ↔ s₂.Full := by
    obtain ⟨-, hg⟩ := Option.ite_none_right_eq_some.mp hg
    cases hg
    exact Iff.rfl
  have hbalance := PoolSys.free_runs hr hd
  rw [hfree] at hbalance
  rw [hfull, (poolInv_reach hreach hd).full_iff]
  omega

theorem PoolSys.alone_started : PoolSys.alone.Started :=
  ⟨1, 1, [some ⟨7, 0⟩], ⟨[⟨7, 0⟩], ∅, 0, 1, false⟩, 0, rfl, by decide, rfl, rfl⟩

/-- The connection stays with its holder: the waiter rightly returns a null pointer. -/
theorem null_when_full_two : ∃ s s₁ s₂ : PoolSys, poolMachine.Reach s ∧
    (s₂.Full ↔ s.free + poolMachine.tally PoolSys.gives [.tick 1] s₁ =
      poolMachine.tally PoolSys.takes [.tick 1] s₁) := by
  have h : (poolMachine.runs [.spawn, .spawn, .acquire 0 fun _ => .alive,
      .acquire 1 fun _ => .alive] PoolSys.alone).map (fun s : PoolSys =>
        (s.pool.isShutdown, s.threads[1]?)) = some (false, some .waiting) := by
    decide
  obtain ⟨s, hs, hf⟩ := Option.map_eq_some_iff.mp h
  simp only [Prod.mk.injEq] at hf
  obtain ⟨hd, ht⟩ := hf
  have hlt : 1 < s.threads.length := (List.getElem?_eq_some_iff.mp ht).1
  have hout : PoolSys.step (.timeout 1) s =
      some { s with threads := s.threads.set 1 .timedOut } := by
    rw [PoolSys.step, if_pos ((Option.any_eq_true _ _).mpr ⟨_, ht, rfl⟩)]
  have hup : PoolSys.step (.giveUp 1) { s with threads := s.threads.set 1 .timedOut, now := s.now + 1 } =
      some { s with threads := (s.threads.set 1 .timedOut).set 1 .outside
                    now := s.now + 1, returns := s.returns ++ [none] } := by
    rw [PoolSys.step, if_pos (List.getElem?_set_self hlt)]
  have hreach : poolMachine.Reach s := .runs (.init PoolSys.alone_started) hs
  exact ⟨s, _, _, hreach, null_when_full_iff hreach hout rfl hup hd⟩

/-- A null pointer beside an idle connection: it came back after the time-out and before the waiter
had the lock. -/
theorem null_beside_idle : ¬ ∀ (s s' : PoolSys) (t : Nat), poolMachine.Reach s →
    s.pool.isShutdown = false → PoolSys.step (.giveUp t) s = some s' → s.Full := by
  intro hall
  have h : (poolMachine.runs [.spawn, .spawn, .acquire 0 fun _ => .alive,
      .acquire 1 fun _ => .alive, .timeout 1, .release 0 none] PoolSys.alone).map
        (fun s : PoolSys => (s.pool.isShutdown, (PoolSys.step (.giveUp 1) s).isSome,
          decide s.Full)) = some (false, true, false) := by
    decide
  obtain ⟨s, hs, hf⟩ := Option.map_eq_some_iff.mp h
  simp only [Prod.mk.injEq] at hf
  obtain ⟨s', hs'⟩ := Option.isSome_iff_exists.mp hf.2.1
  exact of_decide_eq_false hf.2.2
    (hall s s' 1 (.runs (.init PoolSys.alone_started) hs) hf.1 hs')

end QtChat
