import QtChat.Db.DbPool

/-!
# What the steps of the pool do

- `acquireLoop_result`: a run of the loop has one of four ends, whatever stale entries were dropped
  before; `loop_cases` is the rule for a thread that runs it. `loop_back` makes the way back after a
  failed `createConnection` the slot's return and then a run of the loop.
- `moves_of_step`: every step is a move of one kind (`Moves`), with what guards it. The invariants
  of the pool are proved over the moves.
-/

namespace QtChat

open Interleave

/-- The ends of the loop on a pool, with what the pool is then. -/
inductive LoopResult (now : Int) (probe : ConnEntry → Probe) (pool : DbPool) :
    LoopEnd × DbPool → Prop
  | idle (dropped : List ConnEntry) (entry : ConnEntry) (rest : List ConnEntry) :
      pool.idleConns = dropped ++ entry :: rest →
      LoopResult now probe pool (.idle entry.conn, DbPool.borrow
        { pool with idleConns := rest, activeCount := pool.activeCount + 1 } entry.conn now)
  | rebuilt (dropped : List ConnEntry) (entry : ConnEntry) (rest : List ConnEntry) (conn : RawConn) :
      pool.idleConns = dropped ++ entry :: rest → probe entry = .rebuilt conn →
      LoopResult now probe pool (.rebuilt conn, DbPool.borrow
        { pool with idleConns := rest, activeCount := pool.activeCount + 1 } conn now)
  | connect : pool.activeCount < pool.maxPoolSize → LoopResult now probe pool
      (.connect, { pool with idleConns := [], activeCount := pool.activeCount + 1 })
  | wait : pool.maxPoolSize ≤ pool.activeCount →
      LoopResult now probe pool (.wait, { pool with idleConns := [] })

/-- More entries may have been dropped before. -/
theorem LoopResult.drop {now : Int} {probe : ConnEntry → Probe} {pool : DbPool} {entry : ConnEntry}
    {idle : List ConnEntry} {r : LoopEnd × DbPool} (hp : pool.idleConns = entry :: idle)
    (h : LoopResult now probe { pool with idleConns := idle } r) : LoopResult now probe pool r := by
  cases h with
  | idle dropped e rest he => exact .idle (entry :: dropped) e rest (by rw [hp]; exact congrArg _ he)
  | rebuilt dropped e rest conn he hr =>
    exact .rebuilt (entry :: dropped) e rest conn (by rw [hp]; exact congrArg _ he) hr
  | connect h => exact .connect h
  | wait h => exact .wait h

/-- **The loop** ends in one of the four ways. -/
theorem acquireLoop_result (now : Int) (probe : ConnEntry → Probe) (pool : DbPool) :
    LoopResult now probe pool (DbPool.acquireLoop now probe pool.idleConns pool) := by
  generalize hp : pool.idleConns = idle
  induction idle generalizing pool with
  | nil =>
    cases pool
    cases hp
    rw [DbPool.acquireLoop]
    split
    · rename_i h
      exact .connect h
    · rename_i h
      exact .wait (Int.not_lt.mp h)
  | cons entry idle ih =>
    rw [DbPool.acquireLoop]
    dsimp only
    split
    · split
      · exact .idle [] entry idle hp
      · rename_i conn hr
        exact .rebuilt [] entry idle conn hp hr
      · refine LoopResult.drop hp ?_
        have hc : pool.activeCount + 1 - 1 = pool.activeCount := by omega
        rw [hc]
        exact ih _ rfl
    · exact .idle [] entry idle hp

namespace PoolSys

variable {s s' : PoolSys} {t : Nat} {probe : ConnEntry → Probe}

/-- **A thread that runs the loop**: one of the four ends, and what it makes of the system. -/
theorem loop_cases {p : DbPool} {C : PoolSys → Prop}
    (hidle : ∀ dropped entry rest, p.idleConns = dropped ++ entry :: rest → C (s.lend t (DbPool.borrow
      { p with idleConns := rest, activeCount := p.activeCount + 1 } entry.conn s.now) entry.conn))
    (hrebuilt : ∀ dropped entry rest conn, p.idleConns = dropped ++ entry :: rest →
      probe entry = .rebuilt conn → C { s.lend t (DbPool.borrow
        { p with idleConns := rest, activeCount := p.activeCount + 1 } conn s.now) conn with
          opened := s.opened + 1 })
    (hconnect : p.activeCount < p.maxPoolSize → C { s with
      pool := { p with idleConns := [], activeCount := p.activeCount + 1 }
      threads := s.threads.set t .connecting })
    (hwait : p.maxPoolSize ≤ p.activeCount → C { s with
      pool := { p with idleConns := [] }, threads := s.threads.set t .waiting }) :
    C (s.loop t probe p) := by
  unfold loop
  have h := acquireLoop_result s.now probe p
  generalize DbPool.acquireLoop s.now probe p.idleConns p = r at h
  cases h with
  | idle dropped entry rest he => exact hidle dropped entry rest he
  | rebuilt dropped entry rest conn he hr => exact hrebuilt dropped entry rest conn he hr
  | connect h => exact hconnect h
  | wait h => exact hwait h

/-- The pool and the threads without the slot that thread `t` had reserved. -/
def unreserve (s : PoolSys) (t : Nat) : PoolSys :=
  { s with pool := { s.pool with activeCount := s.pool.activeCount - 1 }
           threads := s.threads.set t .outside }

/-- After a failed `createConnection` the slot is given back and the loop run. -/
theorem loop_back :
    s.loop t probe { s.pool with activeCount := s.pool.activeCount - 1 } =
      (s.unreserve t).loop t probe (s.unreserve t).pool := by
  unfold loop unreserve lend
  simp only [List.set_set]

/-- What the step of a label does to the system. -/
inductive Moves (s : PoolSys) (l : PoolLabel) : PoolSys → Prop
  | stay (now : Int) : Moves s l { s with now := now }
  | spawn : Moves s l { s with threads := s.threads ++ [.outside] }
  /-- `createConnection` has returned. -/
  | connect {t : Nat} {conn : Option RawConn} : s.threads[t]? = some .connecting →
      (∀ c ∈ s.live, conn ≠ some c) → Moves s l { s with
        threads := s.threads.set t (.connected conn)
        opened := s.opened + if conn.isSome then 1 else 0 }
  /-- A waiter is blocked no more, without a notification. -/
  | spurious {t : Nat} : s.threads[t]? = some .waiting →
      Moves s l { s with threads := s.threads.set t .woken }
  | timeout {t : Nat} {a : Thread} : l = .timeout t → s.threads[t]? = some a → a.inWait = true →
      Moves s l { s with threads := s.threads.set t .timedOut }
  | giveUp {t : Nat} : s.threads[t]? = some .timedOut →
      Moves s l { s with threads := s.threads.set t .outside, returns := s.returns ++ [none] }
  /-- The loop, run by a thread that comes in or was woken. -/
  | run {t : Nat} {a : Thread} {probe : ConnEntry → Probe} : s.threads[t]? = some a →
      a = .outside ∨ a = .notified ∨ a = .woken → s.FreshProbe probe →
      Moves s l (s.loop t probe s.pool)
  | lend {t : Nat} {conn : RawConn} : s.threads[t]? = some (.connected (some conn)) →
      Moves s l (s.lend t (s.pool.borrow conn s.now) conn)
  /-- The loop, run by a thread that could not connect. -/
  | back {t : Nat} {probe : ConnEntry → Probe} : s.threads[t]? = some (.connected none) →
      s.FreshProbe probe → Moves s l ((s.unreserve t).loop t probe (s.unreserve t).pool)
  | giveBack {k : Nat} {obj : PooledMySQL} {waiter : Option Nat} {objects : List PooledMySQL} :
      s.objects[k]? = some obj → obj.released = false →
      objects = s.objects.set k { obj with released := true } ∨ objects = s.objects.eraseIdx k →
      s.pool.isShutdown = false → s.Notifies waiter → Moves s l { s with
        pool := s.pool.returnConnection obj.conn s.now
        threads := notifyOne s.threads waiter
        objects := objects }
  | giveBackLate {k : Nat} {obj : PooledMySQL} {objects : List PooledMySQL} :
      s.objects[k]? = some obj → obj.released = false →
      objects = s.objects.set k { obj with released := true } ∨ objects = s.objects.eraseIdx k →
      s.pool.isShutdown = true → Moves s l { s with
        pool := s.pool.returnConnection obj.conn s.now
        objects := objects }
  | drop {k : Nat} {obj : PooledMySQL} : s.objects[k]? = some obj → obj.released = true →
      Moves s l { s with objects := s.objects.eraseIdx k }
  | shutdown : s.pool.isShutdown = false →
      Moves s l { s with pool := s.pool.shutdown, threads := notifyAll s.threads }

/-- What the return of a connection does. -/
theorem moves_giveBack {l : PoolLabel} {k : Nat} {obj : PooledMySQL} {waiter : Option Nat}
    {objects : List PooledMySQL} {s₁ : PoolSys} (hk : s.objects[k]? = some obj)
    (hr : obj.released = false)
    (ho : objects = s.objects.set k { obj with released := true } ∨ objects = s.objects.eraseIdx k)
    (h : s.giveBack obj.conn waiter = some s₁) : s.Moves l { s₁ with objects := objects } := by
  unfold PoolSys.giveBack at h
  split at h
  · rename_i hd
    split at h
    · cases h; exact .giveBackLate hk hr ho hd
    · cases h
  · rename_i hd
    split at h
    · rename_i hn
      cases h; exact .giveBack hk hr ho (by simpa using hd) hn
    · cases h

/-- **Every step** is one of these. -/
theorem moves_of_step {l : PoolLabel} (h : PoolSys.step l s = some s') : s.Moves l s' := by
  cases l with
  | spawn => cases h; exact .spawn
  | tick seconds => cases h; exact .stay _
  | acquire t probe =>
    rw [step] at h
    split at h
    · rename_i hc
      cases h; exact .run hc.1 (.inl rfl) hc.2
    · cases h
  | connect t conn =>
    rw [step] at h
    split at h
    · rename_i hc
      cases h; exact .connect hc.1 hc.2
    · cases h
  | relock t probe =>
    rw [step] at h
    split at h
    · rename_i conn ht
      cases h; exact .lend ht
    · rename_i ht
      split at h
      · rename_i hf
        cases h
        rw [loop_back]
        exact .back ht hf
      · cases h
    · cases h
  | spurious t =>
    rw [step] at h
    split at h
    · rename_i ht
      cases h; exact .spurious ht
    · cases h
  | timeout t =>
    rw [step] at h
    split at h
    · rename_i ht
      obtain ⟨a, ha, hw⟩ := (Option.any_eq_true _ _).mp ht
      cases h; exact .timeout rfl ha hw
    · cases h
  | wake t probe =>
    rw [step] at h
    split at h
    · rename_i hc
      cases h
      rcases hc.1 with ht | ht
      · exact .run ht (.inr (.inl rfl)) hc.2
      · exact .run ht (.inr (.inr rfl)) hc.2
    · cases h
  | giveUp t =>
    rw [step] at h
    split at h
    · rename_i ht
      cases h; exact .giveUp ht
    · cases h
  | release k waiter =>
    rw [step] at h
    split at h
    · cases h
    · rename_i obj hk
      split at h
      · cases h; exact .stay s.now
      · rename_i hr
        obtain ⟨s₁, hb, rfl⟩ := Option.map_eq_some_iff.mp h
        exact moves_giveBack hk (by simpa using hr) (.inl rfl) hb
  | destroy k waiter =>
    rw [step] at h
    split at h
    · cases h
    · rename_i obj hk
      split at h
      · rename_i hr
        cases h; exact .drop hk hr
      · rename_i hr
        obtain ⟨s₁, hb, rfl⟩ := Option.map_eq_some_iff.mp h
        exact moves_giveBack hk (by simpa using hr) (.inr rfl) hb
  | shutdown =>
    rw [step] at h
    split at h
    · cases h; exact .stay s.now
    · rename_i hd
      cases h; exact .shutdown (by simpa using hd)

theorem returnConnection_isShutdown (pool : DbPool) (conn : RawConn) (now : Int) :
    (pool.returnConnection conn now).isShutdown = pool.isShutdown := by
  unfold DbPool.returnConnection
  dsimp only
  split <;> rfl

/-- **A shut down pool stays so.** -/
theorem Moves.isShutdown {l : PoolLabel} (h : s.Moves l s') (hd : s.pool.isShutdown = true) :
    s'.pool.isShutdown = true := by
  have hloop : ∀ (s : PoolSys) t probe p, p.isShutdown = true →
      (s.loop t probe p).pool.isShutdown = true := fun s t probe p hp =>
    loop_cases (C := fun s' => s'.pool.isShutdown = true) (fun _ _ _ _ => hp)
      (fun _ _ _ _ _ _ => hp) (fun _ => hp) fun _ => hp
  cases h with
  | run => exact hloop s _ _ _ hd
  | back => exact hloop _ _ _ _ hd
  | giveBack _ _ _ hn => rw [hd] at hn; cases hn
  | giveBackLate => exact (returnConnection_isShutdown _ _ _).trans hd
  | shutdown hn => rw [hd] at hn; cases hn
  | _ => exact hd

/-- A pool that is not shut down was not before. -/
theorem Moves.open_before {l : PoolLabel} (h : s.Moves l s') (hd : s'.pool.isShutdown = false) :
    s.pool.isShutdown = false := by
  cases hb : s.pool.isShutdown with
  | false => rfl
  | true => rw [h.isShutdown hb] at hd; cases hd

/-- **Invariants until `shutdown`**: what a started pool has and what the moves of a pool that is
not shut down keep, where the steps satisfy `Q`. -/
theorem inv_until_shutdown {I : PoolSys → Prop} {Q : PoolLabel → PoolSys → Prop}
    (hinit : ∀ s : PoolSys, s.Started → I s)
    (hmove : ∀ l (s s' : PoolSys), I s → Q l s → s.Moves l s' → s.pool.isShutdown = false →
      s'.pool.isShutdown = false → I s')
    (h : poolMachine.ReachBy Q s) (hd : s.pool.isShutdown = false) : I s := by
  refine h.inv (I := fun s : PoolSys => s.pool.isShutdown = false → I s) (fun s hs _ => hinit s hs)
    (fun l s₁ s₂ ih hq hl hd₂ => ?_) hd
  have hm := moves_of_step hl
  have hd₁ := hm.open_before hd₂
  exact hmove l s₁ s₂ (ih hd₁) hq hm hd₁ hd₂

end PoolSys

end QtChat
