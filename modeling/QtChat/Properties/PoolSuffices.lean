import QtChat.Properties.PoolLoans
import QtChat.Properties.PoolShutdown

/-!
# How many threads the pool suffices for

A method of the model classes gets one connection and gives it back at its end, so a thread that
calls `acquire` has no connection (`Workers`). Then the slots that are taken are those of other
threads: with at most `_maxPoolSize` threads `acquire` never waits, whatever `mysql_ping` and
`createConnection` give, and with more it may return a null pointer (`pool_suffices_iff`).
-/

namespace QtChat

open Interleave

/-- The pool, and the thread that got a connection last. -/
structure Workers where
  sys : PoolSys
  owner : RawConn → Nat

/-- The thread that runs the loop of `acquire` or returns from it. -/
def PoolLabel.thread : PoolLabel → Option Nat
  | .acquire t _ | .relock t _ | .wake t _ => some t
  | _ => none

namespace Workers

/-- A thread that calls `acquire` has no connection, and there are at most `n` threads. -/
def Allowed (n : Nat) (w : Workers) : PoolLabel → Prop
  | .spawn => w.sys.threads.length < n
  | .acquire t _ => ∀ c ∈ w.sys.held, w.owner c ≠ t
  | _ => True

instance (n : Nat) (w : Workers) (l : PoolLabel) : Decidable (w.Allowed n l) := by
  unfold Allowed; split <;> infer_instance

/-- The connections that a step lends are the thread's. -/
def own (w : Workers) (l : PoolLabel) (sys : PoolSys) (c : RawConn) : Nat :=
  match l.thread with
  | some t => if c ∈ sys.held ∧ c ∉ w.sys.held then t else w.owner c
  | none => w.owner c

def step (n : Nat) (l : PoolLabel) (w : Workers) : Option Workers :=
  if w.Allowed n l then (PoolSys.step l w.sys).map fun sys => ⟨sys, w.own l sys⟩ else none

end Workers

/-- At most `n` threads that run methods of the model classes. -/
def workerMachine (n : Nat) : Machine where
  State := Workers
  Label := PoolLabel
  init w := w.sys.Started
  step := Workers.step n

theorem PoolSys.Moves.maxPoolSize {s s' : PoolSys} {l : PoolLabel} (h : s.Moves l s') :
    s'.pool.maxPoolSize = s.pool.maxPoolSize := by
  have hloop : ∀ (s₀ : PoolSys) t probe p, (s₀.loop t probe p).pool.maxPoolSize = p.maxPoolSize :=
    fun s₀ t probe p => PoolSys.loop_cases (C := fun s' => s'.pool.maxPoolSize = p.maxPoolSize)
      (fun _ _ _ _ => rfl) (fun _ _ _ _ _ _ => rfl) (fun _ => rfl) fun _ => rfl
  have hback : ∀ conn now, (s.pool.returnConnection conn now).maxPoolSize = s.pool.maxPoolSize := by
    intro conn now
    unfold DbPool.returnConnection
    dsimp only
    split <;> rfl
  cases h with
  | run => exact hloop _ _ _ _
  | back => exact hloop _ _ _ _
  | giveBack => exact hback _ _
  | giveBackLate => exact hback _ _
  | shutdown hn =>
    change s.pool.shutdown.maxPoolSize = _
    unfold DbPool.shutdown
    split <;> rfl
  | _ => rfl

namespace Workers

variable {n : Nat} {w w' : Workers} {l : PoolLabel} {t : Nat} {a b : Thread} {probe : ConnEntry → Probe}

theorem step_spec (h : w.step n l = some w') :
    w.Allowed n l ∧ PoolSys.step l w.sys = some w'.sys ∧ w'.owner = w.own l w'.sys := by
  unfold step at h
  obtain ⟨ha, h⟩ := Option.ite_none_right_eq_some.mp h
  obtain ⟨sys, hsys, rfl⟩ := Option.map_eq_some_iff.mp h
  exact ⟨ha, hsys, rfl⟩

theorem step_of (ha : w.Allowed n l) {sys : PoolSys} (hs : PoolSys.step l w.sys = some sys) :
    (workerMachine n).step l w = some ⟨sys, w.own l sys⟩ := by
  change w.step n l = _
  rw [step, if_pos ha, hs]
  rfl

/-- Who has a connection keeps it. -/
theorem own_held (l : PoolLabel) (sys : PoolSys) {c : RawConn} (hc : c ∈ w.sys.held) :
    w.own l sys c = w.owner c := by
  unfold own
  split
  · exact if_neg fun hn => hn.2 hc
  · rfl

theorem reach_sys (h : (workerMachine n).Reach w) : poolMachine.Reach w.sys :=
  h.inv (I := fun w : Workers => poolMachine.Reach w.sys) (fun _ hs => .init hs)
    fun l _ _ ih hl => ih.step l (step_spec hl).2.1

/-- A thread has one connection at most, and none while it is in `acquire`; nobody waits, and nobody
got a null pointer. -/
structure Served (n : Nat) (w : Workers) : Prop where
  few : w.sys.threads.length ≤ n
  once : (w.sys.held.map w.owner).Nodup
  away : ∀ c ∈ w.sys.held, w.sys.threads[w.owner c]? = some .outside
  calm : ∀ th ∈ w.sys.threads, th = .outside ∨ th.reserved = true
  answered : none ∉ w.sys.returns

/-- Thread `t` has no connection. -/
def Free (w : Workers) (t : Nat) : Prop := ∀ c ∈ w.sys.held, w.owner c ≠ t

/-- Whoever is in `acquire` has no connection. -/
theorem Served.free (h : Served n w) (ht : w.sys.threads[t]? = some a) (ha : a ≠ .outside) :
    w.Free t := by
  rintro c hc rfl
  rw [h.away c hc] at ht
  cases ht
  exact ha rfl

theorem outside_add_reserved (s : PoolSys) :
    s.threads.countP (· = .outside) + s.reserved ≤ s.threads.length := by
  have hle : s.reserved ≤ s.threads.countP fun th => ¬decide (th = .outside) = true := by
    refine List.countP_mono_left fun th _ hth => ?_
    cases th <;> first | rfl | cases hth
  have := s.threads.length_eq_countP_add_countP fun th => decide (th = .outside)
  omega

/-- The slots that are taken are those of different threads. -/
theorem Served.slots_le (h : Served n w) : w.sys.held.length + w.sys.reserved ≤ n := by
  have hheld : (w.sys.held.map w.owner).length ≤ w.sys.threads.countP (· = .outside) :=
    length_le_countP _ h.once fun t ht => by
      obtain ⟨c, hc, rfl⟩ := List.mem_map.mp ht
      exact ⟨_, h.away c hc, rfl⟩
  have := outside_add_reserved w.sys
  have := h.few
  rw [List.length_map] at hheld
  omega

/-- A thread that comes in leaves a slot to itself. -/
theorem Served.slots_lt (h : Served n w) (ht : w.sys.threads[t]? = some .outside)
    (hf : w.Free t) : w.sys.held.length + w.sys.reserved < n := by
  have hnd : (t :: w.sys.held.map w.owner).Nodup := by
    refine List.nodup_cons.mpr ⟨fun hm => ?_, h.once⟩
    obtain ⟨c, hc, he⟩ := List.mem_map.mp hm
    exact hf c hc he
  have hheld : (t :: w.sys.held.map w.owner).length ≤ w.sys.threads.countP (· = .outside) :=
    length_le_countP _ hnd fun t' ht' => by
      rcases List.mem_cons.mp ht' with rfl | hm
      · exact ⟨_, ht, rfl⟩
      · obtain ⟨c, hc, rfl⟩ := List.mem_map.mp hm
        exact ⟨_, h.away c hc, rfl⟩
  have := outside_add_reserved w.sys
  have := h.few
  rw [List.length_cons, List.length_map] at hheld
  omega

/-- A step that lends nothing. -/
theorem Served.keep (h : Served n w) {sys : PoolSys} {owner : RawConn → Nat}
    (hheld : sys.held.Sublist w.sys.held) (hown : ∀ c ∈ w.sys.held, owner c = w.owner c)
    (hfew : sys.threads.length ≤ n)
    (haway : ∀ c ∈ w.sys.held, sys.threads[w.owner c]? = some .outside)
    (hcalm : ∀ th ∈ sys.threads, th = .outside ∨ th.reserved = true)
    (hret : sys.returns = w.sys.returns) : Served n ⟨sys, owner⟩ where
  few := hfew
  once := by
    have hmap : sys.held.map owner = sys.held.map w.owner :=
      List.map_congr_left fun c hc => hown c (hheld.subset hc)
    change (sys.held.map owner).Nodup
    rw [hmap]
    exact h.once.sublist (hheld.map _)
  away := fun c hc => by
    change sys.threads[owner c]? = _
    rw [hown c (hheld.subset hc)]
    exact haway c (hheld.subset hc)
  calm := hcalm
  answered := by
    change none ∉ sys.returns
    rw [hret]
    exact h.answered

/-- A thread without a connection moves. -/
theorem Served.set (h : Served n w) (hf : w.Free t) (hb : b = .outside ∨ b.reserved = true)
    (pool : DbPool) (opened : Nat) {owner : RawConn → Nat}
    (hown : ∀ c ∈ w.sys.held, owner c = w.owner c) : Served n ⟨{ w.sys with
      pool := pool, threads := w.sys.threads.set t b, opened := opened }, owner⟩ := by
  refine h.keep (List.Sublist.refl _) hown ?_ (fun c hc => ?_) (fun th hth => ?_) rfl
  · rw [List.length_set]
    exact h.few
  · rw [List.getElem?_set_ne fun he => hf c hc he.symm]
    exact h.away c hc
  · rcases List.mem_or_eq_of_mem_set hth with hm | rfl
    · exact h.calm th hm
    · exact hb

/-- A thread without a connection gets one. -/
theorem Served.lend (h : Served n w) (ht : t < w.sys.threads.length) (hf : w.Free t) {pool : DbPool}
    {conn : RawConn} (opened : Nat) (hnew : conn ∉ w.sys.held) {owner : RawConn → Nat}
    (hown : ∀ c ∈ w.sys.held, owner c = w.owner c) (hconn : owner conn = t) :
    Served n ⟨{ w.sys.lend t pool conn with opened := opened }, owner⟩ := by
  have hs := h.set (b := .outside) hf (.inl rfl) w.sys.pool w.sys.opened hown
  have hheld : ({ w.sys.lend t pool conn with opened := opened } : PoolSys).held =
      w.sys.held ++ [conn] := held_lend (t := t) pool conn
  refine ⟨hs.few, ?_, fun c hc => ?_, hs.calm, fun hm => ?_⟩
  · change (List.map owner (PoolSys.held _)).Nodup
    rw [hheld, List.map_append, List.map_singleton, hconn]
    refine List.Nodup.append hs.once (List.nodup_singleton t) ?_
    rw [List.disjoint_singleton]
    intro hm
    obtain ⟨c, hc, he⟩ := List.mem_map.mp hm
    exact hf c hc (hown c hc ▸ he)
  · change (w.sys.threads.set t .outside)[owner c]? = some .outside
    have hc' : c ∈ w.sys.held ++ [conn] := hheld ▸ hc
    rcases List.mem_append.mp hc' with hc' | hc'
    · exact hs.away c hc'
    · obtain rfl := List.mem_singleton.mp hc'
      rw [hconn, List.getElem?_set_self ht]
  · rcases List.mem_append.mp hm with hm | hm
    · exact h.answered hm
    · cases List.mem_singleton.mp hm

/-- **The loop**, run by a thread without a connection with a slot free: the thread does not wait. -/
theorem Served.loop (h : Served n w) (ht : t < w.sys.threads.length) (hf : w.Free t)
    (hroom : w.sys.pool.activeCount < w.sys.pool.maxPoolSize)
    (hi : PoolInv (w.sys.loop t probe w.sys.pool)) :
    Served n ⟨w.sys.loop t probe w.sys.pool, fun c =>
      if c ∈ (w.sys.loop t probe w.sys.pool).held ∧ c ∉ w.sys.held then t else w.owner c⟩ := by
  have hown : ∀ (sys : PoolSys), ∀ c ∈ w.sys.held,
      (if c ∈ sys.held ∧ c ∉ w.sys.held then t else w.owner c) = w.owner c :=
    fun sys c hc => if_neg fun hn => hn.2 hc
  have hlend : ∀ (pool : DbPool) (conn : RawConn) (opened : Nat),
      PoolInv { w.sys.lend t pool conn with opened := opened } →
      Served n ⟨{ w.sys.lend t pool conn with opened := opened }, fun c =>
        if c ∈ ({ w.sys.lend t pool conn with opened := opened } : PoolSys).held ∧
          c ∉ w.sys.held then t else w.owner c⟩ := by
    intro pool conn opened hi
    have hnew : conn ∉ w.sys.held := PoolSys.notMem_held_of_lent hi rfl
    have hheld : ({ w.sys.lend t pool conn with opened := opened } : PoolSys).held =
        w.sys.held ++ [conn] := held_lend (t := t) pool conn
    refine h.lend ht hf opened hnew (hown _) (if_pos ⟨?_, hnew⟩)
    rw [hheld]
    exact List.mem_append_right _ List.mem_cons_self
  revert hi
  refine PoolSys.loop_cases (C := fun sys => PoolInv sys → Served n ⟨sys, fun c =>
    if c ∈ sys.held ∧ c ∉ w.sys.held then t else w.owner c⟩) (fun _ entry _ _ => ?_)
    (fun _ _ _ conn _ _ => ?_) (fun _ _ => ?_) fun hfull _ => ?_
  · exact hlend _ entry.conn w.sys.opened
  · exact hlend _ conn (w.sys.opened + 1)
  · exact h.set hf (.inr rfl) _ w.sys.opened (hown _)
  · omega

/-- Nobody is in `wait_until` or has a timeout. -/
theorem Served.not_waiting (h : Served n w) (ht : w.sys.threads[t]? = some a) :
    a.inWait = false ∧ a ≠ .timedOut := by
  rcases h.calm a (List.mem_of_getElem? ht) with rfl | hr
  · exact ⟨rfl, by decide⟩
  · cases a with
    | outside | connecting | connected => exact ⟨rfl, by simp⟩
    | _ => cases hr

/-- A new thread. -/
theorem Served.spawn (h : Served n w) (hlt : w.sys.threads.length < n) :
    Served n ⟨{ w.sys with threads := w.sys.threads ++ [.outside] }, w.owner⟩ := by
  refine h.keep (List.Sublist.refl _) (fun _ _ => rfl) ?_ (fun c hc => ?_) (fun th hth => ?_) rfl
  · rw [List.length_append, List.length_singleton]
    exact hlt
  · have hlt := (List.getElem?_eq_some_iff.mp (h.away c hc)).1
    rw [List.getElem?_append_left hlt]
    exact h.away c hc
  · rcases List.mem_append.mp hth with hm | hm
    · exact h.calm th hm
    · exact .inl (List.mem_singleton.mp hm)

/-- A connection comes back; there is nobody to wake. -/
theorem Served.giveBack (h : Served n w) (hd : w.sys.pool.isShutdown = false) {k : Nat}
    {obj : PooledMySQL} {waiter : Option Nat} {objects : List PooledMySQL} {sys : PoolSys}
    (hk : w.sys.objects[k]? = some obj)
    (ho : objects = w.sys.objects.set k { obj with released := true } ∨
      objects = w.sys.objects.eraseIdx k)
    (hb : w.sys.giveBack obj.conn waiter = some sys) :
    Served n ⟨{ sys with objects := objects }, w.owner⟩ := by
  have hheld : (objects.filterMap PooledMySQL.holds).Sublist w.sys.held := by
    rw [held_without hk ho, ← filterMap_eraseIdx _ hk rfl]
    exact (List.eraseIdx_sublist _ _).filterMap _
  rw [PoolSys.giveBack, if_neg (by rw [hd]; decide)] at hb
  obtain ⟨hnot, hb⟩ := Option.ite_none_right_eq_some.mp hb
  cases hb
  cases waiter with
  | some t => cases (h.not_waiting hnot).1
  | none => exact h.keep hheld (fun _ _ => rfl) h.few h.away h.calm rfl

/-- A thread is back from `createConnection`: it lends its connection, or gives up its slot and runs
the loop. -/
theorem Served.relock (h : Served n w) (hi : PoolInv w.sys) {sys : PoolSys} (hi' : PoolInv sys)
    (hn : n ≤ w.sys.pool.maxPoolSize) (hl : PoolSys.step (.relock t probe) w.sys = some sys) :
    Served n ⟨sys, w.own (.relock t probe) sys⟩ := by
  rw [PoolSys.step] at hl
  split at hl
  · rename_i conn ht
    cases hl
    have hnew : conn ∉ w.sys.held := PoolSys.notMem_held_of_lent hi' rfl
    refine h.lend (List.getElem?_eq_some_iff.mp ht).1 (h.free ht (by simp)) _ hnew
      (fun c hc => own_held _ _ hc) (if_pos ⟨?_, hnew⟩)
    rw [held_lend]
    exact List.mem_append_right _ List.mem_cons_self
  · rename_i ht
    obtain ⟨-, hl⟩ := Option.ite_none_right_eq_some.mp hl
    cases hl
    have hf := h.free ht (by simp)
    have hlt := (List.getElem?_eq_some_iff.mp ht).1
    have hu : Served n ⟨w.sys.unreserve t, w.owner⟩ :=
      h.set hf (.inl rfl) _ w.sys.opened fun _ _ => rfl
    have hlt' : t < (w.sys.unreserve t).threads.length := by
      change t < (w.sys.threads.set t .outside).length
      rwa [List.length_set]
    have hroom : (w.sys.unreserve t).pool.activeCount < (w.sys.unreserve t).pool.maxPoolSize := by
      have hcount := hi.count
      have hle := h.slots_le
      change w.sys.pool.activeCount - 1 < w.sys.pool.maxPoolSize
      omega
    unfold own
    rw [PoolSys.loop_back] at hi' ⊢
    exact hu.loop hlt' hf hroom hi'
  · cases hl

/-- **Every step** of workers, if the pool has as many slots as there are threads. -/
theorem Served.step (h : Served n w) (hi : PoolInv w.sys) (hi' : PoolInv w'.sys)
    (hn : n ≤ w.sys.pool.maxPoolSize) (hs : w.step n l = some w')
    (hd : w.sys.pool.isShutdown = false) (hd' : w'.sys.pool.isShutdown = false) : Served n w' := by
  obtain ⟨hallow, hl, hown⟩ := step_spec hs
  obtain ⟨sys', owner'⟩ := w'
  dsimp only at hl hown hi' hd'
  subst hown
  cases l with
  | spawn =>
    cases hl
    exact h.spawn hallow
  | acquire t probe =>
    obtain ⟨⟨ht, -⟩, hl⟩ := Option.ite_none_right_eq_some.mp hl
    cases hl
    refine h.loop (List.getElem?_eq_some_iff.mp ht).1 hallow ?_ hi'
    have hcount := hi.count
    have hlt := h.slots_lt ht hallow
    omega
  | connect t conn =>
    obtain ⟨⟨ht, -⟩, hl⟩ := Option.ite_none_right_eq_some.mp hl
    cases hl
    exact h.set (h.free ht (by decide)) (.inr rfl) w.sys.pool _ fun _ _ => rfl
  | relock t probe => exact h.relock hi hi' hn hl
  | spurious t => cases (h.not_waiting (Option.ite_none_right_eq_some.mp hl).1).1
  | timeout t =>
    obtain ⟨a, ht, ha⟩ := (Option.any_eq_true _ _).mp (Option.ite_none_right_eq_some.mp hl).1
    rw [(h.not_waiting ht).1] at ha
    cases ha
  | wake t probe =>
    rcases (Option.ite_none_right_eq_some.mp hl).1.1 with ht | ht <;> cases (h.not_waiting ht).1
  | giveUp t => exact absurd rfl (h.not_waiting (Option.ite_none_right_eq_some.mp hl).1).2
  | release k waiter =>
    rw [PoolSys.step] at hl
    split at hl
    · cases hl
    · rename_i obj hk
      split at hl
      · cases hl
        exact h
      · obtain ⟨sys, hb, rfl⟩ := Option.map_eq_some_iff.mp hl
        exact h.giveBack hd hk (.inl rfl) hb
  | destroy k waiter =>
    rw [PoolSys.step] at hl
    split at hl
    · cases hl
    · rename_i obj hk
      split at hl
      · cases hl
        exact h.keep ((List.eraseIdx_sublist _ _).filterMap _) (fun _ _ => rfl) h.few h.away h.calm rfl
      · obtain ⟨sys, hb, rfl⟩ := Option.map_eq_some_iff.mp hl
        exact h.giveBack hd hk (.inr rfl) hb
  | shutdown =>
    rw [PoolSys.step, if_neg (by rw [hd]; decide)] at hl
    cases hl
    change w.sys.pool.shutdown.isShutdown = false at hd'
    rw [DbPool.shutdown, if_neg (by rw [hd]; decide)] at hd'
    cases hd'
  | tick seconds =>
    cases hl
    exact h.keep (List.Sublist.refl _) (fun _ _ => rfl) h.few h.away h.calm rfl

/-! ## More threads than slots -/

/-- All threads are outside of `acquire`, and `k` of them, the first ones, have a connection. -/
structure Filled (m k : Nat) (w : Workers) : Prop where
  inv : PoolInv w.sys
  isShutdown : w.sys.pool.isShutdown = false
  threads : w.sys.threads = List.replicate m .outside
  held : w.sys.held.length = k
  owner : ∀ c ∈ w.sys.held, w.owner c < k

theorem Filled.active {m k : Nat} (h : Filled m k w) : w.sys.pool.activeCount = k := by
  have hr : w.sys.reserved = 0 := by
    unfold PoolSys.reserved
    rw [h.threads, List.countP_replicate]
    rfl
  rw [h.inv.count, h.held, hr]
  omega

theorem Filled.outside {m k : Nat} (h : Filled m k w) (hk : k < m) :
    w.sys.threads[k]? = some .outside := by
  rw [h.threads, List.getElem?_replicate, if_pos hk]

/-- Nobody has called `acquire` yet. -/
theorem spawned (hw : w.sys.Started) (m : Nat) (hm : m ≤ n) :
    ∃ ls, ∃ w' : Workers, (workerMachine n).runs ls w = some w' ∧ Filled m 0 w' ∧
      w'.sys.pool = w.sys.pool := by
  have hd : w.sys.pool.isShutdown = false := by
    obtain ⟨_, _, _, _, _, -, -, hp, hs⟩ := hw
    rw [DbPool.init] at hp
    split_ifs at hp
    cases hp
    rw [hs]
  have hheld : w.sys.held = [] ∧ w.sys.threads = [] := by
    obtain ⟨_, _, _, _, _, -, -, -, hs⟩ := hw
    rw [hs]
    exact ⟨rfl, rfl⟩
  induction m with
  | zero =>
    refine ⟨[], w, rfl, ⟨.started hw, hd, hheld.2, ?_, ?_⟩, rfl⟩
    · rw [hheld.1]; rfl
    · rw [hheld.1]
      exact fun _ hc => (List.not_mem_nil hc).elim
  | succ m ih =>
    obtain ⟨ls, w', hr, hf, hp⟩ := ih (by omega)
    have hallow : w'.Allowed n .spawn := by
      change w'.sys.threads.length < n
      rw [hf.threads, List.length_replicate]
      omega
    refine ⟨ls ++ [.spawn], ⟨{ w'.sys with threads := w'.sys.threads ++ [.outside] }, w'.owner⟩,
      Machine.runs_snoc hr (step_of hallow rfl), ?_, hp⟩
    refine ⟨?_, hf.isShutdown, ?_, hf.held, hf.owner⟩
    · refine hf.inv.move rfl rfl ?_ ?_
      · change (w'.sys.threads ++ [Thread.outside]).countP Thread.reserved = _
        rw [List.countP_append]
        rfl
      · change (w'.sys.threads ++ [Thread.outside]).filterMap Thread.conn = _
        rw [List.filterMap_append]
        exact List.append_nil _
    · change w'.sys.threads ++ [Thread.outside] = _
      rw [hf.threads, List.replicate_succ']

/-- Thread `t` has got the connection. -/
structure Got (w : Workers) (t : Nat) (conn : RawConn) (w' : Workers) : Prop where
  inv : PoolInv w'.sys
  isShutdown : w'.sys.pool.isShutdown = w.sys.pool.isShutdown
  maxPoolSize : w'.sys.pool.maxPoolSize = w.sys.pool.maxPoolSize
  threads : w'.sys.threads = w.sys.threads.set t .outside
  held : w'.sys.held = w.sys.held ++ [conn]
  owner : ∀ c ∈ w.sys.held, w'.owner c = w.owner c
  owner_conn : w'.owner conn = t

theorem Got.lend {pool : DbPool} {conn : RawConn} (hl : l.thread = some t)
    (hi : PoolInv (w.sys.lend t pool conn)) (hd : pool.isShutdown = w.sys.pool.isShutdown)
    (hm : pool.maxPoolSize = w.sys.pool.maxPoolSize) :
    Got w t conn ⟨w.sys.lend t pool conn, w.own l (w.sys.lend t pool conn)⟩ := by
  have hnew : conn ∉ w.sys.held := PoolSys.notMem_held_of_lent hi rfl
  have hheld : (w.sys.lend t pool conn).held = w.sys.held ++ [conn] := held_lend pool conn
  have hown : w.own l (w.sys.lend t pool conn) = fun c =>
      if c ∈ (w.sys.lend t pool conn).held ∧ c ∉ w.sys.held then t else w.owner c := by
    funext c
    rw [own, hl]
  refine ⟨hi, hd, hm, rfl, hheld, fun c hc => own_held l _ hc, ?_⟩
  · rw [hown]
    refine if_pos ⟨?_, hnew⟩
    rw [hheld]
    exact List.mem_append_right _ List.mem_cons_self

/-- A thread that is connecting may get a connection. -/
theorem connects (hi : PoolInv w.sys) (hd : w.sys.pool.isShutdown = false)
    (ht : w.sys.threads[t]? = some .connecting) : ∃ ls, ∃ w' : Workers, ∃ conn,
      (workerMachine n).runs ls w = some w' ∧ Got w t conn w' := by
  obtain ⟨c, hc⟩ := Infinite.exists_notMem_finset w.sys.live.toFinset
  have hfresh : ∀ x ∈ w.sys.live, some c ≠ some x := by
    intro x hx he
    cases he
    exact hc (List.mem_toFinset.mpr hx)
  have hlt : t < w.sys.threads.length := (List.getElem?_eq_some_iff.mp ht).1
  have hconnect : PoolSys.step (.connect t (some c)) w.sys = some { w.sys with
      threads := w.sys.threads.set t (.connected (some c)), opened := w.sys.opened + 1 } := by
    rw [PoolSys.step, if_pos ⟨ht, hfresh⟩]
    rfl
  generalize hs₁ : ({ w.sys with threads := w.sys.threads.set t (.connected (some c))
                                 opened := w.sys.opened + 1 } : PoolSys) = s₁ at hconnect
  have ht₁ : s₁.threads[t]? = some (.connected (some c)) := by
    rw [← hs₁]
    exact List.getElem?_set_self hlt
  have hrelock : PoolSys.step (.relock t fun _ => .dead) s₁ =
      some (s₁.lend t (s₁.pool.borrow c s₁.now) c) := by
    rw [PoolSys.step, ht₁]
  have hi₁ : PoolInv s₁ := hi.moves (PoolSys.moves_of_step hconnect) hd (by rw [← hs₁]; exact hd)
  have hi₂ : PoolInv (s₁.lend t (s₁.pool.borrow c s₁.now) c) :=
    hi₁.moves (PoolSys.moves_of_step hrelock) (by rw [← hs₁]; exact hd) (by rw [← hs₁]; exact hd)
  have h₁ := step_of (n := n) (w := w) (l := .connect t (some c)) trivial hconnect
  have h₂ := step_of (n := n) (w := ⟨s₁, w.owner⟩) (l := .relock t fun _ => .dead) trivial hrelock
  have hgot := Got.lend (w := ⟨s₁, w.owner⟩) (l := .relock t fun _ => .dead) rfl hi₂ rfl rfl
  refine ⟨_, _, c, Machine.runs_trans (Machine.runs_single h₁) (Machine.runs_single h₂), ?_⟩
  obtain ⟨g₁, g₂, g₃, g₄, g₅, g₆, g₇⟩ := hgot
  subst hs₁
  refine ⟨g₁, g₂, g₃, ?_, g₅, g₆, g₇⟩
  rw [g₄]
  exact List.set_set ..

/-- The first thread without a connection gets one. -/
theorem Filled.next {m k : Nat} (h : Filled m k w) (hk : k < m)
    (hroom : (k : Int) < w.sys.pool.maxPoolSize) : ∃ ls, ∃ w' : Workers,
      (workerMachine n).runs ls w = some w' ∧ Filled m (k + 1) w' ∧
        w'.sys.pool.maxPoolSize = w.sys.pool.maxPoolSize := by
  have ht := h.outside hk
  have hf : w.Free k := fun c hc he => Nat.ne_of_lt (h.owner c hc) he
  have hactive := h.active
  have hfill : ∀ (w' : Workers) (conn : RawConn), Got w k conn w' → Filled m (k + 1) w' := by
    intro w' conn hg
    refine ⟨hg.inv, hg.isShutdown.trans h.isShutdown, ?_, ?_, fun c hc => ?_⟩
    · rw [hg.threads, h.threads]
      exact List.set_replicate_self
    · rw [hg.held, List.length_append, h.held, List.length_singleton]
    · rw [hg.held] at hc
      rcases List.mem_append.mp hc with hc | hc
      · rw [hg.owner c hc]
        exact Nat.lt_succ_of_lt (h.owner c hc)
      · rw [List.mem_singleton.mp hc, hg.owner_conn]
        exact Nat.lt_succ_self k
  have hfresh : w.sys.FreshProbe fun _ => .alive := by
    rintro entry - c - hc
    cases hc
  have hi : PoolInv (w.sys.loop k (fun _ => .alive) w.sys.pool) := h.inv.loop ht rfl hfresh
  have hstep : (workerMachine n).step (.acquire k fun _ => .alive) w =
      some ⟨w.sys.loop k (fun _ => .alive) w.sys.pool,
        w.own (.acquire k fun _ => .alive) (w.sys.loop k (fun _ => .alive) w.sys.pool)⟩ := by
    refine step_of (n := n) (l := .acquire k fun _ => .alive) hf ?_
    rw [PoolSys.step, if_pos ⟨ht, hfresh⟩]
  revert hi hstep
  refine PoolSys.loop_cases (C := fun sys => PoolInv sys →
    (workerMachine n).step (.acquire k fun _ => .alive) w =
      some ⟨sys, w.own (.acquire k fun _ => .alive) sys⟩ → _) ?_ ?_ ?_ ?_
  · intro dropped entry rest he hi hstep
    have hg := Got.lend (l := .acquire k fun _ => .alive) rfl hi rfl rfl
    exact ⟨_, _, Machine.runs_single hstep, hfill _ _ hg, hg.maxPoolSize⟩
  · intro dropped entry rest conn he hr
    cases hr
  · intro hlt hi hstep
    have ht' : (w.sys.threads.set k .connecting)[k]? = some .connecting :=
      List.getElem?_set_self (List.getElem?_eq_some_iff.mp ht).1
    obtain ⟨o, hown, ho⟩ : ∃ o : RawConn → Nat, (∀ c ∈ w.sys.held, o c = w.owner c) ∧
        (workerMachine n).step (.acquire k fun _ => .alive) w = some ⟨{ w.sys with
          pool := { w.sys.pool with idleConns := [], activeCount := w.sys.pool.activeCount + 1 }
          threads := w.sys.threads.set k .connecting }, o⟩ :=
      ⟨_, fun c hc => own_held _ _ hc, hstep⟩
    obtain ⟨ls, w', conn, hr, hg⟩ := connects (n := n) (w := ⟨_, o⟩) hi h.isShutdown ht'
    refine ⟨_, w', Machine.runs_trans (Machine.runs_single ho) hr, hfill w' conn ?_, hg.maxPoolSize⟩
    exact ⟨hg.inv, hg.isShutdown, hg.maxPoolSize, hg.threads.trans (List.set_set ..), hg.held,
      fun c hc => (hg.owner c hc).trans (hown c hc), hg.owner_conn⟩
  · intro hfull
    omega

/-- **One thread too many**: with every slot lent, the next caller waits until its deadline. -/
theorem Filled.null {m k : Nat} (h : Filled m k w) (hk : k < m)
    (hfull : w.sys.pool.maxPoolSize = k) : ∃ ls, ∃ w' : Workers,
      (workerMachine n).runs ls w = some w' ∧ w'.sys.pool.isShutdown = false ∧
        none ∈ w'.sys.returns := by
  have ht := h.outside hk
  have hlt := (List.getElem?_eq_some_iff.mp ht).1
  have hactive := h.active
  have hidle : w.sys.pool.idleConns = [] := by
    have := h.inv.room
    exact List.eq_nil_of_length_eq_zero (by omega)
  have hf : w.Free k := fun c hc he => Nat.ne_of_lt (h.owner c hc) he
  have hacquire : PoolSys.step (.acquire k fun _ => .dead) w.sys =
      some { w.sys with threads := w.sys.threads.set k .waiting } := by
    rw [PoolSys.step, if_pos ⟨ht, PoolSys.freshProbe_dead⟩, PoolSys.loop_full hidle (by omega)]
  have hwaiting : (w.sys.threads.set k .waiting)[k]? = some .waiting := List.getElem?_set_self hlt
  have htimeout : PoolSys.step (.timeout k) { w.sys with threads := w.sys.threads.set k .waiting } =
      some { w.sys with threads := (w.sys.threads.set k .waiting).set k .timedOut } := by
    rw [PoolSys.step, if_pos ((Option.any_eq_true _ _).mpr ⟨_, hwaiting, rfl⟩)]
  have hlate : ((w.sys.threads.set k .waiting).set k .timedOut)[k]? = some .timedOut := by
    refine List.getElem?_set_self ?_
    rwa [List.length_set]
  have hgiveUp : PoolSys.step (.giveUp k)
      { w.sys with threads := (w.sys.threads.set k .waiting).set k .timedOut } = some { w.sys with
        threads := ((w.sys.threads.set k .waiting).set k .timedOut).set k .outside
        returns := w.sys.returns ++ [none] } := by
    rw [PoolSys.step, if_pos hlate]
  obtain ⟨o₁, h₁⟩ : ∃ o, (workerMachine n).step (.acquire k fun _ => .dead) w = some ⟨_, o⟩ :=
    ⟨_, step_of (l := .acquire k fun _ => .dead) hf hacquire⟩
  obtain ⟨o₂, h₂⟩ : ∃ o, (workerMachine n).step (.timeout k) ⟨_, o₁⟩ = some ⟨_, o⟩ :=
    ⟨_, step_of (w := ⟨_, o₁⟩) (l := .timeout k) trivial htimeout⟩
  have h₃ := step_of (n := n) (w := ⟨_, o₂⟩) (l := .giveUp k) trivial hgiveUp
  exact ⟨_, _, Machine.runs_snoc (Machine.runs_snoc (Machine.runs_single h₁) h₂) h₃, h.isShutdown,
    List.mem_append_right _ List.mem_cons_self⟩

theorem filled (hw : w.sys.Started) {m k : Nat} (hm : m ≤ n) (hk : k ≤ m)
    (hroom : (k : Int) ≤ w.sys.pool.maxPoolSize) : ∃ ls, ∃ w' : Workers,
      (workerMachine n).runs ls w = some w' ∧ Filled m k w' ∧
        w'.sys.pool.maxPoolSize = w.sys.pool.maxPoolSize := by
  induction k with
  | zero =>
    obtain ⟨ls, w', hr, hf, hp⟩ := spawned hw m hm
    exact ⟨ls, w', hr, hf, by rw [hp]⟩
  | succ k ih =>
    obtain ⟨ls, w₁, hr, hf, hp⟩ := ih (by omega) (by omega)
    obtain ⟨ls', w₂, hr', hf', hp'⟩ := hf.next (n := n) (by omega) (by rw [hp]; omega)
    exact ⟨_, w₂, Machine.runs_trans hr hr', hf', hp'.trans hp⟩

/-- What holds in every state of workers that the pool suffices for. -/
theorem served (hw : w.sys.Started) (hn : n ≤ w.sys.pool.maxPoolSize) {ls : List PoolLabel}
    (hr : (workerMachine n).runs ls w = some w') (hd : w'.sys.pool.isShutdown = false) :
    Served n w' := by
  have hempty : w.sys.held = [] ∧ w.sys.threads = [] ∧ w.sys.returns = [] := by
    obtain ⟨_, _, _, _, _, -, -, -, hs⟩ := hw
    rw [hs]
    exact ⟨rfl, rfl, rfl⟩
  obtain ⟨hheld, hthreads, hreturns⟩ := hempty
  have hstart : Served n w := by
    refine ⟨?_, ?_, ?_, ?_, ?_⟩
    · rw [hthreads]
      exact Nat.zero_le n
    · rw [hheld]
      exact List.nodup_nil
    · rw [hheld]
      exact fun _ hc => (List.not_mem_nil hc).elim
    · rw [hthreads]
      exact fun _ hc => (List.not_mem_nil hc).elim
    · rw [hreturns]
      exact List.not_mem_nil
  have hall : (workerMachine n).Reach w' ∧ w'.sys.pool.maxPoolSize = w.sys.pool.maxPoolSize ∧
      (w'.sys.pool.isShutdown = false → Served n w') := by
    refine Machine.runs_keep (M := workerMachine n) (I := fun w₁ : Workers =>
      (workerMachine n).Reach w₁ ∧ w₁.sys.pool.maxPoolSize = w.sys.pool.maxPoolSize ∧
        (w₁.sys.pool.isShutdown = false → Served n w₁)) ?_ ⟨.init hw, rfl, fun _ => hstart⟩ hr
    rintro l w₁ w₂ ⟨hreach, hmax, ih⟩ hl
    have hm := PoolSys.moves_of_step (step_spec hl).2.1
    have hreach₂ := hreach.step l hl
    refine ⟨hreach₂, hm.maxPoolSize.trans hmax, fun hd₂ => ?_⟩
    have hd₁ := hm.open_before hd₂
    exact (ih hd₁).step (poolInv_reach (reach_sys hreach) hd₁)
      (poolInv_reach (reach_sys hreach₂) hd₂) (by rw [hmax]; exact hn) hl hd₁ hd₂
  exact hall.2.2 hd

end Workers

/-- **How many threads the pool suffices for.** Threads that run methods of the model classes never
wait for a connection and never get a null pointer before `shutdown`, whatever `mysql_ping` and
`createConnection` give, exactly if there can be at most `_maxPoolSize` of them. -/
theorem pool_suffices_iff {n : Nat} {w : Workers} (hw : w.sys.Started) :
    (∀ ls w', (workerMachine n).runs ls w = some w' → w'.sys.pool.isShutdown = false →
      .waiting ∉ w'.sys.threads ∧ none ∉ w'.sys.returns) ↔ n ≤ w.sys.pool.maxPoolSize := by
  constructor
  · intro hall
    by_contra hlt
    have hpos : 0 < w.sys.pool.maxPoolSize := by
      obtain ⟨_, _, _, _, _, -, -, hp, hs⟩ := hw
      rw [DbPool.init] at hp
      split_ifs at hp
      cases hp
      rw [hs]
      dsimp only
      omega
    obtain ⟨k, hk⟩ := Int.eq_ofNat_of_zero_le (Int.le_of_lt hpos)
    obtain ⟨ls, w₁, hr, hf, hmax⟩ := Workers.filled (n := n) (m := k + 1) (k := k) hw (by omega)
      (by omega) (by omega)
    obtain ⟨ls', w₂, hr', hd, hnull⟩ := hf.null (n := n) (by omega) (by rw [hmax, hk])
    exact (hall _ w₂ (Machine.runs_trans hr hr') hd).2 hnull
  · intro hn ls w' hr hd
    have hs := Workers.served hw hn hr hd
    refine ⟨fun hm => ?_, hs.answered⟩
    rcases hs.calm _ hm with he | he <;> cases he

/-- A pool that may grow to two connections suffices for two threads, and not for three. -/
theorem pool_suffices_two :
    ((∀ ls w', (workerMachine 2).runs ls ⟨PoolSys.single, fun _ => 0⟩ = some w' →
      w'.sys.pool.isShutdown = false → .waiting ∉ w'.sys.threads ∧ none ∉ w'.sys.returns) ↔
        (2 : Int) ≤ 2) ∧
    ((∀ ls w', (workerMachine 3).runs ls ⟨PoolSys.single, fun _ => 0⟩ = some w' →
      w'.sys.pool.isShutdown = false → .waiting ∉ w'.sys.threads ∧ none ∉ w'.sys.returns) ↔
        (3 : Int) ≤ 2) :=
  ⟨pool_suffices_iff (n := 2) (w := ⟨PoolSys.single, fun _ => 0⟩) PoolSys.single_started,
    pool_suffices_iff (n := 3) (w := ⟨PoolSys.single, fun _ => 0⟩) PoolSys.single_started⟩

end QtChat
