import QtChat.Db.PoolMoves

/-!
# No lost wakeup in the pool

A thread is blocked in `wait_until` only while the free slots are at most as many as the notified
threads that have not run. A failed `createConnection` frees a slot and notifies nobody; the thread
then runs the loop itself, with the lock held all the while, so the slot is taken again or another
one has taken it before (`NoLostWakeup.loop` with `freed`). A notified thread may still be told a
timeout, and its notification is then lost; the runs here are those in which that does not happen
(`HeedsNotify`).
-/

namespace QtChat

open Interleave

/-- The notified threads that have not run yet. -/
def PoolSys.notified (s : PoolSys) : Nat := s.threads.countP (· = .notified)

/-- The slots that nobody has. -/
def PoolSys.free (s : PoolSys) : Int := s.pool.maxPoolSize - s.pool.activeCount

/-- If some thread is blocked, every free slot has a notified thread that will see it. -/
def NoLostWakeup (s : PoolSys) : Prop := .waiting ∈ s.threads → s.free ≤ s.notified

/-- A notified waiter is not told a timeout. -/
def HeedsNotify : PoolLabel → PoolSys → Prop
  | .timeout t, s => s.threads[t]? ≠ some .notified
  | _, _ => True

instance decidableHeedsNotify (l : PoolLabel) (s : PoolSys) : Decidable (HeedsNotify l s) := by
  unfold HeedsNotify; split <;> infer_instance

instance (l : poolMachine.Label) (s : poolMachine.State) : Decidable (HeedsNotify l s) :=
  decidableHeedsNotify l s

variable {s : PoolSys} {t : Nat} {a b : Thread}

/-- How the number of notified threads changes with thread `t`. -/
theorem notified_set (ht : s.threads[t]? = some a) (b : Thread) :
    (s.threads.set t b).countP (· = .notified) + (if a = .notified then 1 else 0) =
      s.notified + if b = .notified then 1 else 0 := by
  have h := countP_set (fun th => decide (th = .notified)) ht b
  simpa only [decide_eq_true_eq, PoolSys.notified] using h

/-- A thread that is blocked after thread `t` has moved was blocked before. -/
theorem waiting_of_set (h : .waiting ∈ s.threads.set t b) (hb : b ≠ .waiting) :
    .waiting ∈ s.threads := by
  rcases List.mem_or_eq_of_mem_set h with h | h
  · exact h
  · exact absurd h.symm hb

/-- Nothing is lost if the notified threads are no fewer, up to slots taken since. -/
theorem NoLostWakeup.of_le {s' : PoolSys} (h : NoLostWakeup s)
    (hw : .waiting ∈ s'.threads → .waiting ∈ s.threads)
    (hle : s'.free + s.notified ≤ s.free + s'.notified) : NoLostWakeup s' := by
  intro hm
  have := h (hw hm)
  omega

/-- Nothing is lost while no slot is free. -/
theorem NoLostWakeup.of_full (h : s.pool.maxPoolSize ≤ s.pool.activeCount) : NoLostWakeup s := by
  intro _
  have : (0 : Int) ≤ s.notified := Int.natCast_nonneg _
  unfold PoolSys.free
  omega

/-- A thread that is not blocked moves on and takes no slot. -/
theorem NoLostWakeup.set (h : NoLostWakeup s) (ht : s.threads[t]? = some a) (ha : a ≠ .notified)
    (hb : b ≠ .waiting) (returns : List (Option RawConn)) (opened : Nat) : NoLostWakeup
      { s with threads := s.threads.set t b, returns := returns, opened := opened } := by
  refine h.of_le (fun hm => waiting_of_set hm hb) ?_
  have hn := notified_set ht b
  rw [if_neg ha] at hn
  change s.free + s.notified ≤ s.free + ((s.threads.set t b).countP (· = .notified) : Nat)
  omega

/-- **The loop** takes a slot or finds none. `freed` is the slot of a thread that comes back without
a connection; a thread that was notified has none. -/
theorem NoLostWakeup.loop (h : NoLostWakeup s) (ht : s.threads[t]? = some a) (s₁ : PoolSys)
    (freed : Int) (hs : s₁.threads = s.threads ∨ s₁.threads = s.threads.set t .outside)
    (hmax : s₁.pool.maxPoolSize = s.pool.maxPoolSize)
    (hact : s₁.pool.activeCount = s.pool.activeCount - freed)
    (hfreed : freed + (if a = .notified then 1 else 0) ≤ 1) (probe : ConnEntry → Probe) :
    NoLostWakeup (s₁.loop t probe s₁.pool) := by
  have hset : ∀ b : Thread, s₁.threads.set t b = s.threads.set t b := by
    intro b
    rcases hs with hs | hs
    · rw [hs]
    · rw [hs, List.set_set]
  have htake : ∀ (b : Thread) (s₂ : PoolSys), b ≠ .waiting → s₂.threads = s₁.threads.set t b →
      s₂.pool.maxPoolSize = s₁.pool.maxPoolSize →
      s₂.pool.activeCount = s₁.pool.activeCount + 1 → NoLostWakeup s₂ := by
    intro b s₂ hb ht₂ hm₂ ha₂
    rw [hset] at ht₂
    refine h.of_le (fun hm => waiting_of_set (ht₂ ▸ hm) hb) ?_
    have hn := notified_set ht b
    have hle : s₂.notified + (if a = .notified then 1 else 0) ≥ s.notified := by
      rw [PoolSys.notified, ht₂]
      omega
    have hnat : (s.notified : Int) + freed ≤ s₂.notified + 1 := by
      by_cases e : a = .notified
      · rw [if_pos e] at hfreed hle
        omega
      · rw [if_neg e] at hfreed hle
        omega
    unfold PoolSys.free
    omega
  refine PoolSys.loop_cases (fun dropped entry rest _ => ?_) (fun dropped entry rest conn _ _ => ?_)
    (fun _ => ?_) fun hle => ?_
  · exact htake .outside _ (by decide) rfl rfl rfl
  · exact htake .outside _ (by decide) rfl rfl rfl
  · exact htake .connecting _ (by decide) rfl rfl rfl
  · exact .of_full hle

/-- A connection comes back: its slot is free, and a blocked thread is notified if there is one. -/
theorem NoLostWakeup.giveBack (h : NoLostWakeup s) {waiter : Option Nat} (hn : s.Notifies waiter)
    (hd : s.pool.isShutdown = false) (conn : RawConn) (objects : List PooledMySQL) : NoLostWakeup
      { s with pool := s.pool.returnConnection conn s.now
               threads := PoolSys.notifyOne s.threads waiter
               objects := objects } := by
  cases waiter with
  | none => exact fun hm => absurd hm hn
  | some w =>
    have hpool : s.pool.returnConnection conn s.now = { s.pool with
        borrowedConns := s.pool.borrowedConns.erase conn
        idleConns := s.pool.idleConns ++ [⟨conn, s.now⟩]
        activeCount := s.pool.activeCount - 1 } := by
      simp [DbPool.returnConnection, hd]
    rw [hpool]
    refine h.of_le (fun hm => waiting_of_set hm (by decide)) ?_
    have hc : (s.threads.set w .notified).countP (· = .notified) + 0 = s.notified + 1 :=
      notified_set hn .notified
    change s.pool.maxPoolSize - (s.pool.activeCount - 1) + s.notified ≤
      s.pool.maxPoolSize - s.pool.activeCount +
        ((s.threads.set w .notified).countP (· = .notified) : Nat)
    omega

/-- **Every move but `shutdown`** keeps it. -/
theorem NoLostWakeup.moves {s' : PoolSys} {l : PoolLabel} (h : NoLostWakeup s)
    (hq : HeedsNotify l s) (hm : s.Moves l s')
    (hs : s.pool.isShutdown = false) (hd : s'.pool.isShutdown = false) : NoLostWakeup s' := by
  cases hm with
  | stay now => exact h
  | spawn =>
    refine h.of_le (fun hm => ?_) ?_
    · rcases List.mem_append.mp hm with hm | hm
      · exact hm
      · cases List.mem_singleton.mp hm
    · have hn : (s.threads ++ [Thread.outside]).countP (· = .notified) = s.notified := by
        rw [List.countP_append]
        rfl
      change s.free + s.notified ≤ s.free +
        ((s.threads ++ [Thread.outside]).countP (· = .notified) : Nat)
      omega
  | connect ht => exact h.set ht (by decide) (by simp) _ _
  | spurious ht => exact h.set ht (by decide) (by decide) _ _
  | timeout hl ht _ =>
    subst hl
    exact h.set ht (fun he => hq (he ▸ ht)) (by decide) _ _
  | giveUp ht => exact h.set ht (by decide) (by decide) _ _
  | run ht ha hf =>
    refine h.loop ht s 0 (.inl rfl) rfl (Int.sub_zero _).symm ?_ _
    split <;> decide
  | @lend t conn ht => exact h.set ht (by simp) (by decide) (s.returns ++ [some conn]) s.opened
  | @back t probe ht hf =>
    exact h.loop ht (s.unreserve t) 1 (.inr rfl) rfl rfl (by simp) probe
  | giveBack hk hr ho _ hn => exact h.giveBack hn hs _ _
  | giveBackLate _ _ _ hn => rw [hs] at hn; cases hn
  | drop hk hr => exact h
  | shutdown =>
    rw [show (DbPool.shutdown s.pool).isShutdown = true by simp [DbPool.shutdown, hs]] at hd
    cases hd

/-- **No lost wakeup.** Before `shutdown`, in every interleaving of any threads in which no notified
waiter is told a timeout, with spurious wakeups, deadlines, threads that come in first, and failing
pings and connects: if some thread is blocked in `wait_until`, the free slots are at most as many as
the notified threads that have not run. -/
theorem pool_no_lost_wakeup {s : PoolSys} (h : poolMachine.ReachBy HeedsNotify s)
    (hd : s.pool.isShutdown = false) (hw : .waiting ∈ s.threads) :
    s.pool.maxPoolSize - s.pool.activeCount ≤ s.threads.countP (· = .notified) := by
  have hinit : ∀ s : PoolSys, s.Started → NoLostWakeup s := by
    rintro s ⟨_, _, _, _, _, _, _, _, rfl⟩ hm
    exact absurd hm List.not_mem_nil
  exact PoolSys.inv_until_shutdown hinit (fun _ _ _ ih hq hm hs hd => ih.moves hq hm hs hd) h hd hw

/-- The pool of one connection that may not grow. -/
def PoolSys.alone : PoolSys where
  pool := ⟨[⟨7, 0⟩], ∅, 0, 1, false⟩
  threads := []
  objects := []
  now := 0
  returns := []
  opened := 0

/-- Three threads wait for the connection of a fourth; one of them reaches its deadline, the
connection comes back, and one of the two others is woken. -/
theorem pool_no_lost_wakeup_two : ∃ s : PoolSys, .waiting ∈ s.threads ∧
    s.pool.maxPoolSize - s.pool.activeCount = 1 ∧
    s.pool.maxPoolSize - s.pool.activeCount ≤ s.threads.countP (· = .notified) := by
  have h : (poolMachine.runsBy HeedsNotify [.spawn, .spawn, .spawn, .spawn,
      .acquire 0 fun _ => .alive, .acquire 1 fun _ => .alive, .acquire 2 fun _ => .alive,
      .acquire 3 fun _ => .alive, .timeout 3, .release 0 (some 1)]
        PoolSys.alone).map (fun s : PoolSys => (s.pool.isShutdown, s.threads,
          s.pool.maxPoolSize - s.pool.activeCount)) =
        some (false, [.outside, .notified, .waiting, .timedOut], 1) := by
    decide
  obtain ⟨s, hs, hf⟩ := Option.map_eq_some_iff.mp h
  simp only [Prod.mk.injEq] at hf
  have hstart : PoolSys.alone.Started :=
    ⟨1, 1, [some ⟨7, 0⟩], ⟨[⟨7, 0⟩], ∅, 0, 1, false⟩, 0, rfl, by decide, rfl, rfl⟩
  have hw : .waiting ∈ s.threads := by
    rw [hf.2.1]
    decide
  exact ⟨s, hw, hf.2.2, pool_no_lost_wakeup (.runs (.init hstart) hs) hf.1 hw⟩

/-- A notification that goes to a thread at its deadline: the other one sleeps beside a free slot. -/
example : (poolMachine.runs [.spawn, .spawn, .spawn, .acquire 0 fun _ => .alive,
    .acquire 1 fun _ => .alive, .acquire 2 fun _ => .alive, .release 0 (some 1), .timeout 1]
      PoolSys.alone).map (fun s : PoolSys => (s.threads, s.free, s.notified)) =
        some ([.outside, .timedOut, .waiting], 1, 0) := by decide

end QtChat
