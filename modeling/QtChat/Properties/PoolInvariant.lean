import QtChat.Db.PoolMoves

/-!
# What the pool's counters say

`_activeCount` is adjusted at five places, with the lock dropped in between. `PoolInv` is kept by
every step until `shutdown`; beside `PoolOk` it says that no connection with which a thread is back
from `createConnection` is idle or held. `pool_invariant` is the result.
-/

namespace QtChat

open Interleave

/-- The pool's counters and containers agree. -/
structure PoolOk (s : PoolSys) : Prop where
  room : (s.pool.idleConns.length : Int) + s.pool.activeCount ≤ s.pool.maxPoolSize
  count : s.pool.activeCount = s.held.length + s.reserved
  apart : (s.pool.idleConns.map (·.conn) ++ s.held).Nodup
  borrowed : ∀ c, c ∈ s.pool.borrowedConns ↔ c ∈ s.held

/-- How often a connection is idle, held, or brought back. -/
def PoolSys.places (s : PoolSys) (c : RawConn) : Nat :=
  (s.pool.idleConns.map (·.conn)).count c + s.held.count c + (s.threads.filterMap Thread.conn).count c

/-- What every step keeps. -/
structure PoolInv (s : PoolSys) : Prop where
  room : (s.pool.idleConns.length : Int) + s.pool.activeCount ≤ s.pool.maxPoolSize
  count : s.pool.activeCount = s.held.length + s.reserved
  once : ∀ c, s.places c ≤ 1
  borrowed : ∀ c, c ∈ s.pool.borrowedConns ↔ c ∈ s.held

theorem PoolInv.ok {s : PoolSys} (h : PoolInv s) : PoolOk s := by
  refine ⟨h.room, h.count, ?_, h.borrowed⟩
  rw [List.nodup_iff_count_le_one]
  intro c
  have := h.once c
  rw [PoolSys.places] at this
  rw [List.count_append]
  omega

/-- A connection that is not there any more is at no place. -/
theorem PoolSys.places_of_fresh {s : PoolSys} {c : RawConn} (h : c ∉ s.live) : s.places c = 0 := by
  simp only [live, List.mem_append, not_or] at h
  have hh : c ∉ s.held := by
    intro hm
    obtain ⟨obj, ho, hc⟩ := List.mem_filterMap.mp hm
    unfold PooledMySQL.holds at hc
    split at hc
    · cases hc
    · cases hc
      exact h.1.2 (List.mem_map.mpr ⟨obj, ho, rfl⟩)
  rw [places, List.count_eq_zero.mpr h.1.1, List.count_eq_zero.mpr hh, List.count_eq_zero.mpr h.2]

section Steps

variable {s : PoolSys} {t : Nat} {a b : Thread}

@[simp] theorem held_lend (pool : DbPool) (conn : RawConn) :
    (s.lend t pool conn).held = s.held ++ [conn] := by
  simp [PoolSys.held, PoolSys.lend, PooledMySQL.holds]

theorem reserved_set (ht : s.threads[t]? = some a) :
    (s.threads.set t b).countP Thread.reserved + (if a.reserved then 1 else 0) =
      s.reserved + if b.reserved then 1 else 0 :=
  countP_set Thread.reserved ht b

/-- `acquire` returns the connection `conn`: it was idle or new, and is counted now. -/
theorem PoolInv.lend (h : PoolInv s) (ht : s.threads[t]? = some a) {pool : DbPool} {conn : RawConn}
    (hroom : (pool.idleConns.length : Int) + pool.activeCount ≤ pool.maxPoolSize)
    (hcount : pool.activeCount + (if a.reserved then 1 else 0) = s.pool.activeCount + 1)
    (honce : ∀ c, (pool.idleConns.map (·.conn)).count c + (if conn = c then 1 else 0) +
      s.held.count c + (s.threads.filterMap Thread.conn).count c ≤
        1 + if a.conn = some c then 1 else 0)
    (hb : ∀ c, c ∈ pool.borrowedConns ↔ c = conn ∨ c ∈ s.pool.borrowedConns) :
    PoolInv (s.lend t pool conn) where
  room := hroom
  count := by
    have h₁ := h.count
    have h₂ : (s.threads.set t .outside).countP Thread.reserved +
        (if a.reserved then 1 else 0) = s.reserved + 0 := reserved_set ht
    have h₃ : (s.lend t pool conn).reserved = (s.threads.set t .outside).countP Thread.reserved := rfl
    have h₄ : (s.lend t pool conn).pool.activeCount = pool.activeCount := rfl
    rw [held_lend, List.length_append, List.length_singleton, h₃, h₄]
    cases hr : a.reserved <;> simp only [hr, if_true, Bool.false_eq_true, if_false] at hcount h₂ <;>
      omega
  once := fun c => by
    have h₁ := honce c
    have h₂ : ((s.threads.set t .outside).filterMap Thread.conn).count c +
        (if a.conn = some c then 1 else 0) = (s.threads.filterMap Thread.conn).count c + 0 :=
      count_filterMap_set Thread.conn ht .outside c
    have h₃ : (s.lend t pool conn).places c = (pool.idleConns.map (·.conn)).count c +
        (s.held ++ [conn]).count c + ((s.threads.set t .outside).filterMap Thread.conn).count c := by
      rw [PoolSys.places, held_lend]
      rfl
    have h₄ : [conn].count c = if conn = c then 1 else 0 := by simp [List.count_singleton]
    rw [h₃, List.count_append, h₄]
    omega
  borrowed := fun c => by
    have h₁ : (s.lend t pool conn).pool.borrowedConns = pool.borrowedConns := rfl
    rw [held_lend, h₁, hb c, h.borrowed c, List.mem_append, List.mem_singleton, or_comm]

/-- Threads that move without a slot and without a connection do not matter. -/
theorem PoolInv.move {s' : PoolSys} (h : PoolInv s) (hp : s'.pool = s.pool) (ho : s'.held = s.held)
    (hr : s'.reserved = s.reserved)
    (hc : s'.threads.filterMap Thread.conn = s.threads.filterMap Thread.conn) : PoolInv s' where
  room := by rw [hp]; exact h.room
  count := by rw [hp, ho, hr]; exact h.count
  once := fun c => by
    have := h.once c
    rw [PoolSys.places] at this ⊢
    rwa [hp, ho, hc]
  borrowed := fun c => by rw [hp, ho]; exact h.borrowed c

theorem PoolInv.set (h : PoolInv s) (ht : s.threads[t]? = some a) (b : Thread)
    (hr : b.reserved = a.reserved) (hc : b.conn = a.conn) (returns : List (Option RawConn)) :
    PoolInv { s with threads := s.threads.set t b, returns := returns } :=
  h.move rfl rfl (countP_set_same Thread.reserved ht hr) (filterMap_set_same Thread.conn ht hc)

theorem count_idle {idle dropped rest : List ConnEntry} {entry : ConnEntry}
    (h : idle = dropped ++ entry :: rest) (c : RawConn) :
    (rest.map (·.conn)).count c + (if entry.conn = c then 1 else 0) ≤ (idle.map (·.conn)).count c := by
  rw [h, List.map_append, List.count_append, List.map_cons, List.count_cons]
  simp only [beq_iff_eq]
  omega

/-- **The loop**, run by a thread without a slot. -/
theorem PoolInv.loop (h : PoolInv s) (ht : s.threads[t]? = some a) (ha : a.reserved = false)
    {probe : ConnEntry → Probe} (hf : s.FreshProbe probe) : PoolInv (s.loop t probe s.pool) := by
  have hac : a.conn = none := by cases a <;> first | rfl | cases ha
  have hroom := h.room
  have hres : ∀ b : Thread, (s.threads.set t b).countP Thread.reserved + 0 =
      s.reserved + if b.reserved then 1 else 0 := by
    intro b
    have := reserved_set (b := b) ht
    rwa [ha] at this
  have hconn : ∀ b : Thread, b.conn = none →
      (s.threads.set t b).filterMap Thread.conn = s.threads.filterMap Thread.conn := fun b hb =>
    filterMap_set_same Thread.conn ht (hb.trans hac.symm)
  refine PoolSys.loop_cases (fun dropped entry rest he => ?_) (fun dropped entry rest conn he hr => ?_)
    (fun hlt => ?_) fun hle => ?_
  · have hlen := congrArg List.length he
    rw [List.length_append, List.length_cons] at hlen
    refine h.lend ht ?_ ?_ (fun c => ?_) fun c => AList.mem_insert _
    · change (rest.length : Int) + (s.pool.activeCount + 1) ≤ s.pool.maxPoolSize
      omega
    · rw [ha]
      exact Int.add_zero _
    · have h₁ := h.once c
      have h₂ := count_idle he c
      rw [PoolSys.places] at h₁
      rw [hac]
      change (rest.map (·.conn)).count c + _ + _ + _ ≤ 1 + 0
      omega
  · have hlen := congrArg List.length he
    rw [List.length_append, List.length_cons] at hlen
    have hnew : conn ∉ s.live := fun hl => hf entry (by rw [he]; simp) conn hl hr
    have hl : PoolInv (s.lend t (DbPool.borrow
        { s.pool with idleConns := rest, activeCount := s.pool.activeCount + 1 } conn s.now) conn) := by
      refine h.lend ht ?_ ?_ (fun c => ?_) fun c => AList.mem_insert _
      · change (rest.length : Int) + (s.pool.activeCount + 1) ≤ s.pool.maxPoolSize
        omega
      · rw [ha]
        exact Int.add_zero _
      · have h₁ := h.once c
        have h₂ := count_idle he c
        have h₃ := PoolSys.places_of_fresh hnew
        rw [PoolSys.places] at h₁ h₃
        rw [hac]
        change (rest.map (·.conn)).count c + _ + _ + _ ≤ 1 + 0
        by_cases e : conn = c
        · subst e
          rw [if_pos rfl]
          omega
        · rw [if_neg e]
          omega
    exact hl.move rfl rfl rfl rfl
  · have hcount := h.count
    refine ⟨?_, ?_, fun c => ?_, h.borrowed⟩
    · change (0 : Int) + (s.pool.activeCount + 1) ≤ s.pool.maxPoolSize
      omega
    · have h₁ : (s.threads.set t .connecting).countP Thread.reserved + 0 = s.reserved + 1 := hres _
      change s.pool.activeCount + 1 =
        s.held.length + ((s.threads.set t .connecting).countP Thread.reserved : Nat)
      omega
    · have h₁ := h.once c
      rw [PoolSys.places] at h₁
      change 0 + s.held.count c + ((s.threads.set t .connecting).filterMap Thread.conn).count c ≤ 1
      rw [hconn _ rfl]
      omega
  · have hcount := h.count
    refine ⟨?_, ?_, fun c => ?_, h.borrowed⟩
    · change (0 : Int) + s.pool.activeCount ≤ s.pool.maxPoolSize
      omega
    · have h₁ : (s.threads.set t .waiting).countP Thread.reserved + 0 = s.reserved + 0 := hres _
      change s.pool.activeCount =
        s.held.length + ((s.threads.set t .waiting).countP Thread.reserved : Nat)
      omega
    · have h₁ := h.once c
      rw [PoolSys.places] at h₁
      change 0 + s.held.count c + ((s.threads.set t .waiting).filterMap Thread.conn).count c ≤ 1
      rw [hconn _ rfl]
      omega

/-- The slot of a thread that could not connect is given back. -/
theorem PoolInv.unreserve (h : PoolInv s) (ht : s.threads[t]? = some (.connected none)) :
    PoolInv (s.unreserve t) where
  room := by
    have := h.room
    change (s.pool.idleConns.length : Int) + (s.pool.activeCount - 1) ≤ s.pool.maxPoolSize
    omega
  count := by
    have h₁ := h.count
    have h₂ : (s.threads.set t .outside).countP Thread.reserved + 1 = s.reserved + 0 :=
      reserved_set ht
    change s.pool.activeCount - 1 =
      s.held.length + ((s.threads.set t .outside).countP Thread.reserved : Nat)
    omega
  once := fun c => by
    have := h.once c
    have hc : (s.threads.set t .outside).filterMap Thread.conn = s.threads.filterMap Thread.conn :=
      filterMap_set_same Thread.conn ht rfl
    rw [PoolSys.places] at this ⊢
    change (s.pool.idleConns.map (·.conn)).count c + s.held.count c +
      ((s.threads.set t .outside).filterMap Thread.conn).count c ≤ 1
    rwa [hc]
  borrowed := h.borrowed

/-- `notify_one` changes no slot and no connection. -/
theorem notifyOne_same {waiter : Option Nat} (h : s.Notifies waiter) :
    (PoolSys.notifyOne s.threads waiter).countP Thread.reserved = s.reserved ∧
      (PoolSys.notifyOne s.threads waiter).filterMap Thread.conn =
        s.threads.filterMap Thread.conn := by
  cases waiter with
  | none => exact ⟨rfl, rfl⟩
  | some w => exact ⟨countP_set_same Thread.reserved h rfl, filterMap_set_same Thread.conn h rfl⟩

/-- The objects without one that is released or gone. -/
theorem held_without {k : Nat} {obj : PooledMySQL} {objects : List PooledMySQL}
    (hk : s.objects[k]? = some obj)
    (ho : objects = s.objects.set k { obj with released := true } ∨ objects = s.objects.eraseIdx k) :
    objects.filterMap PooledMySQL.holds =
      (s.objects.set k { obj with released := true }).filterMap PooledMySQL.holds := by
  rcases ho with rfl | rfl
  · rfl
  · exact filterMap_eraseIdx _ hk rfl

/-- A connection is given back. -/
theorem PoolInv.giveBack (h : PoolInv s) {k : Nat} {obj : PooledMySQL} {waiter : Option Nat}
    {objects : List PooledMySQL} (hk : s.objects[k]? = some obj) (hr : obj.released = false)
    (ho : objects = s.objects.set k { obj with released := true } ∨ objects = s.objects.eraseIdx k)
    (hd : s.pool.isShutdown = false) (hn : s.Notifies waiter) : PoolInv { s with
      pool := s.pool.returnConnection obj.conn s.now
      threads := PoolSys.notifyOne s.threads waiter
      objects := objects } := by
  have hh : obj.holds = some obj.conn := by simp [PooledMySQL.holds, hr]
  have hpool : s.pool.returnConnection obj.conn s.now = { s.pool with
      borrowedConns := s.pool.borrowedConns.erase obj.conn
      idleConns := s.pool.idleConns ++ [⟨obj.conn, s.now⟩]
      activeCount := s.pool.activeCount - 1 } := by
    simp [DbPool.returnConnection, hd]
  have hheld := held_without hk ho
  obtain ⟨h₁, h₂⟩ := notifyOne_same hn
  have hcount : ∀ c, (objects.filterMap PooledMySQL.holds).count c +
      (if obj.conn = c then 1 else 0) = s.held.count c := by
    intro c
    have := count_filterMap_set PooledMySQL.holds hk { obj with released := true } c
    simp only [hh, Option.some.injEq] at this
    rw [hheld]
    exact this
  have hlen : (objects.filterMap PooledMySQL.holds).length + 1 = s.held.length := by
    have := length_filterMap_set PooledMySQL.holds hk { obj with released := true }
    rw [hh] at this
    rw [hheld]
    exact this
  rw [hpool]
  refine ⟨?_, ?_, fun c => ?_, fun c => ?_⟩
  · have := h.room
    rw [List.length_append, List.length_singleton]
    push_cast
    change _ + (s.pool.activeCount - 1) ≤ s.pool.maxPoolSize
    omega
  · have := h.count
    change s.pool.activeCount - 1 = ((objects.filterMap PooledMySQL.holds).length : Int) +
      ((PoolSys.notifyOne s.threads waiter).countP Thread.reserved : Nat)
    rw [h₁]
    omega
  · have := h.once c
    have hc := hcount c
    have h₃ : ((s.pool.idleConns ++ [ConnEntry.mk obj.conn s.now]).map (·.conn)).count c =
        (s.pool.idleConns.map (·.conn)).count c + if obj.conn = c then 1 else 0 := by
      rw [List.map_append, List.count_append]
      simp [List.count_singleton]
    rw [PoolSys.places] at this ⊢
    change ((s.pool.idleConns ++ [ConnEntry.mk obj.conn s.now]).map (·.conn)).count c +
      (objects.filterMap PooledMySQL.holds).count c +
      ((PoolSys.notifyOne s.threads waiter).filterMap Thread.conn).count c ≤ 1
    rw [h₂, h₃]
    omega
  · have := h.once c
    have hc := hcount c
    rw [PoolSys.places] at this
    change c ∈ s.pool.borrowedConns.erase obj.conn ↔ c ∈ objects.filterMap PooledMySQL.holds
    rw [AList.mem_erase, h.borrowed c, ← List.count_pos_iff, ← List.count_pos_iff]
    by_cases e : obj.conn = c
    · rw [if_pos e] at hc
      exact iff_of_false (fun hn => hn.1 e.symm) (by omega)
    · rw [if_neg e] at hc
      rw [Nat.add_zero] at hc
      rw [hc]
      exact ⟨fun hn => hn.2, fun hn => ⟨fun e' => e e'.symm, hn⟩⟩

end Steps

/-- **Every move but `shutdown`** keeps the invariant. -/
theorem PoolInv.moves {s s' : PoolSys} {l : PoolLabel} (h : PoolInv s) (hm : s.Moves l s')
    (hs : s.pool.isShutdown = false) (hd : s'.pool.isShutdown = false) : PoolInv s' := by
  cases hm with
  | stay now => exact h.move rfl rfl rfl rfl
  | spawn =>
    refine h.move rfl rfl ?_ ?_
    · change (s.threads ++ [Thread.outside]).countP Thread.reserved = s.threads.countP Thread.reserved
      rw [List.countP_append]
      rfl
    · rw [List.filterMap_append]
      exact List.append_nil _
  | @connect t conn ht hnew =>
    have h₁ : (s.threads.set t (.connected conn)).countP Thread.reserved = s.reserved :=
      countP_set_same Thread.reserved ht rfl
    refine ⟨h.room, ?_, fun c => ?_, h.borrowed⟩
    · have := h.count
      change s.pool.activeCount =
        s.held.length + ((s.threads.set t (.connected conn)).countP Thread.reserved : Nat)
      rwa [h₁]
    · have h₂ : ((s.threads.set t (.connected conn)).filterMap Thread.conn).count c + 0 =
          (s.threads.filterMap Thread.conn).count c + if conn = some c then 1 else 0 :=
        count_filterMap_set Thread.conn ht (.connected conn) c
      have h₃ := h.once c
      rw [PoolSys.places] at h₃ ⊢
      change (s.pool.idleConns.map (·.conn)).count c + s.held.count c +
        ((s.threads.set t (.connected conn)).filterMap Thread.conn).count c ≤ 1
      by_cases e : conn = some c
      · have h₄ := PoolSys.places_of_fresh fun hl => hnew c hl e
        rw [PoolSys.places] at h₄
        rw [if_pos e] at h₂
        omega
      · rw [if_neg e] at h₂
        omega
  | spurious ht => exact h.set ht .woken rfl rfl s.returns
  | @timeout t a _ ht ha =>
    cases a with
    | waiting | notified | woken => exact h.set ht .timedOut rfl rfl s.returns
    | _ => cases ha
  | giveUp ht => exact h.set ht .outside rfl rfl _
  | run ht ha hf =>
    refine h.loop ht ?_ hf
    rcases ha with rfl | rfl | rfl <;> rfl
  | @lend t conn ht =>
    refine h.lend ht h.room (by rfl) (fun c => ?_) fun c => AList.mem_insert _
    have h₁ := h.once c
    rw [PoolSys.places] at h₁
    change (s.pool.idleConns.map (·.conn)).count c + _ + _ + _ ≤
      1 + if some conn = some c then 1 else 0
    simp only [Option.some.injEq]
    omega
  | @back t probe ht hf =>
    have hlt : t < s.threads.length := (List.getElem?_eq_some_iff.mp ht).1
    have hconn : (s.threads.set t .outside).filterMap Thread.conn = s.threads.filterMap Thread.conn :=
      filterMap_set_same Thread.conn ht rfl
    have hlive : (s.unreserve t).live = s.live := congrArg (_ ++ ·) hconn
    have hfree : (s.unreserve t).FreshProbe probe := by
      unfold PoolSys.FreshProbe
      rw [hlive]
      exact hf
    exact (h.unreserve ht).loop (a := .outside) (by simp [PoolSys.unreserve, hlt]) rfl hfree
  | giveBack hk hr ho _ hn => exact h.giveBack hk hr ho hs hn
  | giveBackLate _ _ _ hn => rw [hs] at hn; cases hn
  | @drop k obj hk hr =>
    have hh : obj.holds = none := by simp [PooledMySQL.holds, hr]
    refine h.move rfl ?_ rfl rfl
    have h₁ := filterMap_eraseIdx PooledMySQL.holds hk hh
    have h₂ : (s.objects.set k obj).filterMap PooledMySQL.holds = s.held :=
      filterMap_set_same PooledMySQL.holds hk rfl
    exact h₁.trans h₂
  | shutdown =>
    rw [show (DbPool.shutdown s.pool).isShutdown = true by simp [DbPool.shutdown, hs]] at hd
    cases hd

theorem PoolInv.started {s : PoolSys} (h : s.Started) : PoolInv s := by
  obtain ⟨poolSize, maxPoolSize, created, pool, now, hlen, hnd, hi, rfl⟩ := h
  unfold DbPool.init at hi
  split at hi
  · cases hi
  · rename_i hsize
    split at hi
    · cases hi
    · cases hi
      refine ⟨?_, rfl, fun c => ?_, fun c => ?_⟩
      · have := List.length_filterMap_le id created
        change ((created.filterMap id).length : Int) + 0 ≤ maxPoolSize
        omega
      · have := List.nodup_iff_count_le_one.mp hnd c
        exact this
      · exact iff_of_false (AList.notMem_empty c) (List.not_mem_nil)

/-- The invariant holds until `shutdown`. -/
theorem poolInv_reach {s : PoolSys} (h : poolMachine.Reach s) (hd : s.pool.isShutdown = false) :
    PoolInv s :=
  PoolSys.inv_until_shutdown (fun _ hs => .started hs)
    (fun _ _ _ ih _ hm hs hd => ih.moves hm hs hd) (h.reachBy fun _ _ => trivial) hd

/-- **The pool until `shutdown`.** After a successful `init`, in every interleaving of any threads
and whatever `mysql_ping` and `createConnection` give: the idle connections and `_activeCount` are
at most `_maxPoolSize`, `_activeCount` is the number of held connections and of reserved slots, no
connection is idle and held or held twice, and `_borrowedConns` has the held ones. -/
theorem pool_invariant {s : PoolSys} (h : poolMachine.Reach s) (hd : s.pool.isShutdown = false) :
    PoolOk s := by
  exact (poolInv_reach h hd).ok

/-- A pool of one connection that may grow to two. -/
def PoolSys.single : PoolSys where
  pool := ⟨[⟨7, 0⟩], ∅, 0, 2, false⟩
  threads := []
  objects := []
  now := 0
  returns := []
  opened := 0

theorem PoolSys.single_started : single.Started :=
  ⟨1, 2, [some ⟨7, 0⟩], ⟨[⟨7, 0⟩], ∅, 0, 2, false⟩, 0, rfl, by decide, rfl, rfl⟩

/-- One thread has the idle connection, another one is connecting. -/
theorem pool_invariant_two : ∃ s : PoolSys, PoolOk s ∧ s.pool.activeCount = 2 ∧
    s.held = [7] ∧ s.reserved = 1 := by
  have h : (poolMachine.runs [.spawn, .spawn, .acquire 0 fun _ => .alive,
      .acquire 1 fun _ => .alive] PoolSys.single).map (fun s : PoolSys =>
        (s.pool.isShutdown, s.pool.activeCount, s.held, s.reserved)) = some (false, 2, [7], 1) := by
    decide
  obtain ⟨s, hs, hf⟩ := Option.map_eq_some_iff.mp h
  simp only [Prod.mk.injEq] at hf
  exact ⟨s, pool_invariant (.runs (.init PoolSys.single_started) hs) hf.1, hf.2⟩

end QtChat
