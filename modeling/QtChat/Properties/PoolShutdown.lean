import Mathlib.Data.Fintype.EquivFin
import QtChat.Properties.PoolInvariant

/-!
# The pool after `shutdown`

`shutdown` says that it makes every waiter return a null pointer, and `returnConnection` looks at
`_shutdown`; `acquire` never does. It goes on as before: with the queue empty it connects anew while
`_activeCount` is below `_maxPoolSize`.

- `PoolClosed`: no connection is opened, lent or queued since `shutdown`, and every thread that is
  in `acquire` gets a null pointer.
- `Idle`: with every slot held by an object, and none reserved, no thread ever gets past the test of
  `_activeCount`, for a connection that comes back after `shutdown` does not free its slot.
- `Lends`: otherwise some run gets a connection (`lends_of_reserved`, `lends_of_free`).
- `pool_shutdown_iff` puts the two together.
-/

namespace QtChat

open Interleave

/-- `s'` since `shutdown`, which left `s`. -/
structure PoolClosed (s s' : PoolSys) : Prop where
  opened : s'.opened = s.opened
  returns : ∃ n, s'.returns = s.returns ++ List.replicate n none
  idle : s'.pool.idleConns = []
  borrowed : s'.pool.borrowedConns = ∅
  /-- Whoever is in `acquire` returns a null pointer at its deadline. -/
  answered : ∀ t th, s'.threads[t]? = some th → th ≠ .outside → ∃ ls, ∃ s'' : PoolSys,
    poolMachine.runs ls s' = some s'' ∧ s''.threads = s'.threads.set t .outside ∧
      s''.returns = s'.returns ++ [none]

namespace PoolSys

variable {s s' s₁ : PoolSys} {t : Nat} {a : Thread} {probe : ConnEntry → Probe}

/-- The loop on an empty queue with every slot taken. -/
theorem loop_full {p : DbPool} (hi : p.idleConns = []) (hf : p.maxPoolSize ≤ p.activeCount) :
    s.loop t probe p = { s with pool := p, threads := s.threads.set t .waiting } := by
  unfold loop
  rw [hi, DbPool.acquireLoop, if_neg (by omega)]

/-- The loop on an empty queue with a slot free. -/
theorem loop_grow {p : DbPool} (hi : p.idleConns = []) (hf : p.activeCount < p.maxPoolSize) :
    s.loop t probe p = { s with
      pool := { p with activeCount := p.activeCount + 1 }
      threads := s.threads.set t .connecting } := by
  obtain ⟨idle, borrowed, active, max, down⟩ := p
  cases hi
  unfold loop
  rw [DbPool.acquireLoop, if_pos hf]

theorem runs_cons {l : PoolLabel} {ls : List PoolLabel} (hl : PoolSys.step l s = some s₁) :
    poolMachine.runs (l :: ls) s = poolMachine.runs ls s₁ :=
  Machine.runs_step (M := poolMachine) hl

theorem freshProbe_dead : s.FreshProbe fun _ => .dead := by
  intro entry _ c _ h
  cases h

/-- Some run lends a connection before anything else is returned. -/
def Lends (s : PoolSys) : Prop :=
  ∃ ls, ∃ s' : PoolSys, ∃ conn,
    poolMachine.runs ls s = some s' ∧ s'.returns = s.returns ++ [some conn]

theorem Lends.of_step {l : PoolLabel} (hl : PoolSys.step l s = some s₁)
    (hr : s₁.returns = s.returns) (h : s₁.Lends) : s.Lends := by
  obtain ⟨ls, s', conn, hs, hc⟩ := h
  exact ⟨l :: ls, s', conn, (runs_cons hl).trans hs, hr ▸ hc⟩

/-- A thread that is back with a connection lends it. -/
theorem lends_of_connected {conn : RawConn} (ht : s.threads[t]? = some (.connected (some conn))) :
    s.Lends := by
  have hl : PoolSys.step (.relock t fun _ => .dead) s =
      some (s.lend t (s.pool.borrow conn s.now) conn) := by
    rw [step, ht]
  exact ⟨[_], _, conn, runs_cons hl, rfl⟩

/-- A thread that is connecting may come back with a connection. -/
theorem lends_of_connecting (ht : s.threads[t]? = some .connecting) : s.Lends := by
  obtain ⟨c, hc⟩ := Infinite.exists_notMem_finset s.live.toFinset
  have hfresh : ∀ x ∈ s.live, some c ≠ some x := by
    intro x hx he
    cases he
    exact hc (List.mem_toFinset.mpr hx)
  have hlt : t < s.threads.length := (List.getElem?_eq_some_iff.mp ht).1
  have hl : PoolSys.step (.connect t (some c)) s = some { s with
      threads := s.threads.set t (.connected (some c)), opened := s.opened + 1 } := by
    rw [step, if_pos ⟨ht, hfresh⟩]
    rfl
  have ht' : (s.threads.set t (.connected (some c)))[t]? = some (.connected (some c)) :=
    List.getElem?_set_self hlt
  exact .of_step hl rfl (lends_of_connected ht')

/-- A thread that runs the loop on an empty queue with a slot free connects. -/
theorem lends_of_loop (hlt : t < s.threads.length) {p : DbPool} (hi : p.idleConns = [])
    (hf : p.activeCount < p.maxPoolSize) {l : PoolLabel}
    (hl : PoolSys.step l s = some (s.loop t probe p)) : s.Lends := by
  rw [loop_grow hi hf] at hl
  have ht : (s.threads.set t .connecting)[t]? = some .connecting := List.getElem?_set_self hlt
  exact .of_step hl rfl (lends_of_connecting ht)

/-- **A slot is reserved**: its thread gets a connection, now or at its next try. -/
theorem lends_of_reserved (hr : s.reserved ≠ 0) (hi : s.pool.idleConns = [])
    (hle : s.pool.activeCount ≤ s.pool.maxPoolSize) : s.Lends := by
  obtain ⟨th, hm, hth⟩ := List.countP_pos_iff.mp (Nat.pos_of_ne_zero hr)
  obtain ⟨t, hlt, ht⟩ := List.mem_iff_getElem.mp hm
  have ht' : s.threads[t]? = some th := by rw [List.getElem?_eq_getElem hlt, ht]
  cases th with
  | connecting => exact lends_of_connecting ht'
  | connected conn =>
    cases conn with
    | some conn => exact lends_of_connected ht'
    | none =>
      have hl : PoolSys.step (.relock t fun _ => .dead) s = some (s.loop t (fun _ => .dead)
          { s.pool with activeCount := s.pool.activeCount - 1 }) := by
        rw [step, ht']
        exact if_pos freshProbe_dead
      have hf : s.pool.activeCount - 1 < s.pool.maxPoolSize := by omega
      exact lends_of_loop (p := { s.pool with activeCount := s.pool.activeCount - 1 }) hlt hi hf hl
  | _ => cases hth

/-- **A slot is free**: the next caller connects. -/
theorem lends_of_free (hi : s.pool.idleConns = [])
    (hf : s.pool.activeCount < s.pool.maxPoolSize) : s.Lends := by
  refine Lends.of_step (l := .spawn) rfl rfl ?_
  have ht : (s.threads ++ [Thread.outside])[s.threads.length]? = some .outside := by simp
  have hlt : s.threads.length < (s.threads ++ [Thread.outside]).length := by simp
  have hl : ∀ s₁ : PoolSys, s₁.threads[s.threads.length]? = some .outside →
      PoolSys.step (.acquire s.threads.length fun _ => .dead) s₁ =
        some (s₁.loop s.threads.length (fun _ => .dead) s₁.pool) := by
    intro s₁ ht₁
    rw [step, if_pos ⟨ht₁, freshProbe_dead⟩]
  exact lends_of_loop hlt hi hf (hl _ ht)

/-- Every slot is held, and the pool is shut down and empty. -/
structure Idle (s : PoolSys) : Prop where
  isShutdown : s.pool.isShutdown = true
  idle : s.pool.idleConns = []
  borrowed : s.pool.borrowedConns = ∅
  full : s.pool.maxPoolSize ≤ s.pool.activeCount
  reserved : s.reserved = 0

/-- No thread is connecting or back from it. -/
theorem Idle.not_reserved (h : s.Idle) (ht : s.threads[t]? = some a) : a.reserved = false := by
  have := List.countP_eq_zero.mp h.reserved a (List.mem_of_getElem? ht)
  simpa using this

/-- The threads move, none of them to a slot. -/
theorem Idle.set (h : s.Idle) (ht : s.threads[t]? = some a) {b : Thread} (hb : b.reserved = false)
    (returns : List (Option RawConn)) :
    Idle { s with threads := s.threads.set t b, returns := returns } :=
  ⟨h.isShutdown, h.idle, h.borrowed, h.full, by
    have := countP_set_same Thread.reserved ht (hb.trans (h.not_reserved ht).symm)
    exact this.trans h.reserved⟩

/-- **Every move of such a pool** keeps it so; nothing is opened and only null pointers are
returned. -/
theorem Idle.moves {l : PoolLabel} (h : s.Idle) (hm : s.Moves l s') :
    s'.Idle ∧ s'.opened = s.opened ∧ (s'.returns = s.returns ∨ s'.returns = s.returns ++ [none]) := by
  cases hm with
  | stay now => exact ⟨⟨h.isShutdown, h.idle, h.borrowed, h.full, h.reserved⟩, rfl, .inl rfl⟩
  | spawn =>
    refine ⟨⟨h.isShutdown, h.idle, h.borrowed, h.full, ?_⟩, rfl, .inl rfl⟩
    change (s.threads ++ [Thread.outside]).countP Thread.reserved = 0
    rw [List.countP_append]
    exact h.reserved
  | connect ht => cases h.not_reserved ht
  | spurious ht => exact ⟨h.set ht rfl s.returns, rfl, .inl rfl⟩
  | timeout _ ht => exact ⟨h.set ht rfl s.returns, rfl, .inl rfl⟩
  | giveUp ht => exact ⟨h.set ht rfl _, rfl, .inr rfl⟩
  | run ht ha hf =>
    rw [loop_full h.idle h.full]
    exact ⟨h.set ht rfl s.returns, rfl, .inl rfl⟩
  | lend ht => cases h.not_reserved ht
  | back ht => cases h.not_reserved ht
  | giveBack _ _ _ hn => rw [h.isShutdown] at hn; cases hn
  | @giveBackLate k obj objects hk hr ho hn =>
    have hpool : s.pool.returnConnection obj.conn s.now =
        { s.pool with borrowedConns := s.pool.borrowedConns.erase obj.conn } := by
      simp [DbPool.returnConnection, hn]
    have he : s.pool.borrowedConns.erase obj.conn = ∅ := by
      rw [h.borrowed]
      rfl
    rw [hpool]
    exact ⟨⟨h.isShutdown, h.idle, he, h.full, h.reserved⟩, rfl, .inl rfl⟩
  | drop => exact ⟨⟨h.isShutdown, h.idle, h.borrowed, h.full, h.reserved⟩, rfl, .inl rfl⟩
  | shutdown hn => rw [h.isShutdown] at hn; cases hn

/-- **Every run of such a pool** opens nothing and returns null pointers only. -/
theorem Idle.runs (h : s.Idle) {ls : List PoolLabel} (hr : poolMachine.runs ls s = some s') :
    s'.Idle ∧ s'.opened = s.opened ∧ ∃ n, s'.returns = s.returns ++ List.replicate n none := by
  refine Machine.runs_keep (M := poolMachine) (I := fun s' : PoolSys => s'.Idle ∧
    s'.opened = s.opened ∧ ∃ n, s'.returns = s.returns ++ List.replicate n none) ?_
    ⟨h, rfl, 0, (List.append_nil _).symm⟩ hr
  rintro l s₁ s₂ ⟨hi, ho, n, hn⟩ hl
  obtain ⟨hi₂, ho₂, hr₂⟩ := hi.moves (moves_of_step hl)
  refine ⟨hi₂, ho₂.trans ho, ?_⟩
  rcases hr₂ with hr₂ | hr₂
  · exact ⟨n, hr₂.trans hn⟩
  · exact ⟨n + 1, by rw [hr₂, hn, List.append_assoc, List.replicate_succ']⟩

/-- A thread past its deadline returns a null pointer. -/
theorem runs_giveUp (ht : s.threads[t]? = some .timedOut) : poolMachine.runs [.giveUp t] s =
    some { s with threads := s.threads.set t .outside, returns := s.returns ++ [none] } := by
  have hl : PoolSys.step (.giveUp t) s =
      some { s with threads := s.threads.set t .outside, returns := s.returns ++ [none] } := by
    rw [step, if_pos ht]
  exact runs_cons hl

/-- So does one in `wait_until` at its deadline. -/
theorem runs_timeout (ht : s.threads[t]? = some a) (ha : a.inWait = true) :
    poolMachine.runs [.timeout t, .giveUp t] s =
      some { s with threads := s.threads.set t .outside, returns := s.returns ++ [none] } := by
  have hlt : t < s.threads.length := (List.getElem?_eq_some_iff.mp ht).1
  have hl : PoolSys.step (.timeout t) s = some { s with threads := s.threads.set t .timedOut } := by
    rw [step, if_pos ((Option.any_eq_true _ _).mpr ⟨a, ht, ha⟩)]
  refine (runs_cons hl).trans ?_
  refine (runs_giveUp (List.getElem?_set_self hlt)).trans ?_
  rw [List.set_set]

theorem Idle.answered (h : s.Idle) (ht : s.threads[t]? = some a) (ha : a ≠ .outside) :
    ∃ ls, ∃ s' : PoolSys, poolMachine.runs ls s = some s' ∧
      s'.threads = s.threads.set t .outside ∧ s'.returns = s.returns ++ [none] := by
  cases a with
  | outside => exact absurd rfl ha
  | connecting => cases h.not_reserved ht
  | connected conn => cases h.not_reserved ht
  | waiting | notified | woken => exact ⟨_, _, runs_timeout ht rfl, rfl, rfl⟩
  | timedOut => exact ⟨_, _, runs_giveUp ht, rfl, rfl⟩

/-- `notify_all` changes no slot. -/
theorem reserved_notifyAll (threads : List Thread) :
    (notifyAll threads).countP Thread.reserved = threads.countP Thread.reserved := by
  rw [notifyAll, List.countP_map]
  refine List.countP_congr fun th _ => ?_
  cases th <;> exact Iff.rfl

end PoolSys

/-- **The pool after `shutdown`.** Exactly if every slot is held by an object and no thread is
connecting when `shutdown` runs, no run after it opens, lends or queues a connection, and every
waiter and every later caller gets a null pointer. -/
theorem pool_shutdown_iff {s s₁ : PoolSys} (h : poolMachine.Reach s)
    (hd : s.pool.isShutdown = false) (hs : PoolSys.step .shutdown s = some s₁) :
    (∀ ls s', poolMachine.runs ls s₁ = some s' → PoolClosed s₁ s') ↔
      s.pool.maxPoolSize ≤ s.pool.activeCount ∧ s.reserved = 0 := by
  have hinv := poolInv_reach h hd
  have hle : s.pool.activeCount ≤ s.pool.maxPoolSize := by
    have := hinv.room
    omega
  rw [PoolSys.step, if_neg (by rw [hd]; decide), DbPool.shutdown, if_neg (by rw [hd]; decide)] at hs
  cases hs
  have hreserved := PoolSys.reserved_notifyAll s.threads
  constructor
  · intro hall
    have hno : ∀ s₁ : PoolSys, (∀ ls s', poolMachine.runs ls s₁ = some s' → PoolClosed s₁ s') →
        ¬ s₁.Lends := by
      rintro s₁ hall ⟨ls, s', conn, hr, hc⟩
      obtain ⟨n, hn⟩ := (hall ls s' hr).returns
      rw [hc] at hn
      have hmem : some conn ∈ List.replicate n (none : Option RawConn) := by
        rw [← List.append_cancel_left hn]
        exact List.mem_singleton.mpr rfl
      cases List.eq_of_mem_replicate hmem
    have hnot := hno _ hall
    refine ⟨?_, ?_⟩
    · by_contra hlt
      exact hnot (PoolSys.lends_of_free rfl (Int.not_le.mp hlt))
    · by_contra hne
      exact hnot (PoolSys.lends_of_reserved (fun h₀ => hne (hreserved.symm.trans h₀)) rfl hle)
  · rintro ⟨hfull, hzero⟩ ls s' hr
    have hidle : PoolSys.Idle
        { s with pool := ⟨[], ∅, s.pool.activeCount, s.pool.maxPoolSize, true⟩
                 threads := PoolSys.notifyAll s.threads } :=
      ⟨rfl, rfl, rfl, hfull, hreserved.trans hzero⟩
    obtain ⟨hi, ho, hn⟩ := hidle.runs hr
    exact ⟨ho, hn, hi.idle, hi.borrowed, fun t th ht hth => hi.answered ht hth⟩

/-- A pool with one of its two slots held: after `shutdown` the next caller gets a connection. -/
theorem pool_shutdown_two : ∃ s s₁ : PoolSys, poolMachine.Reach s ∧
    PoolSys.step .shutdown s = some s₁ ∧
    ((∀ ls s', poolMachine.runs ls s₁ = some s' → PoolClosed s₁ s') ↔
      s.pool.maxPoolSize ≤ s.pool.activeCount ∧ s.reserved = 0) :=
  ⟨_, _, .init PoolSys.single_started, rfl,
    pool_shutdown_iff (.init PoolSys.single_started) rfl rfl⟩

/-- What `shutdown` promises fails for a pool with a free slot: a later caller connects, and is lent
the connection. -/
theorem pool_shutdown_lends : ¬ ∀ (s s₁ s' : PoolSys) (ls : List PoolLabel), poolMachine.Reach s →
    s.pool.isShutdown = false → PoolSys.step .shutdown s = some s₁ →
      poolMachine.runs ls s₁ = some s' → PoolClosed s₁ s' := by
  intro hall
  have h : ((PoolSys.step .shutdown PoolSys.single).bind (poolMachine.runs [.spawn,
      .acquire 0 fun _ => .alive, .connect 0 (some 8), .relock 0 fun _ => .alive])).map
        (fun s : PoolSys => (s.opened, s.returns)) = some (1, [some 8]) := by
    decide
  obtain ⟨s', hs', hf⟩ := Option.map_eq_some_iff.mp h
  obtain ⟨s₁, hs₁, hr⟩ := Option.bind_eq_some_iff.mp hs'
  have hclosed := hall _ s₁ s' _ (.init PoolSys.single_started) rfl hs₁ hr
  have hopened : s'.opened = s₁.opened := hclosed.opened
  cases hs₁
  rw [show s'.opened = 1 from congrArg Prod.fst hf] at hopened
  cases hopened

end QtChat
