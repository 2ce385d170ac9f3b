import QtChat.Interleave.Since
import QtChat.Properties.PoolLoans

/-!
# The scan for leaked connections

`checkStaleConnections` goes through `_borrowedConns`, which `acquire` writes at three places and
`returnConnection` erases from. In every state these are the connections that are lent, each with the
time when `acquire` returned it (`held_since`, `since_lookup`), so the scan reports how long they have
been lent: `stale_scan_exact`.
-/

namespace QtChat

open Interleave

/-- A line of the log about a connection that was held for so many seconds. -/
inductive LeakLog where
  /-- `LOGE("conn %p held %lds, likely leaked", …)`. -/
  | likelyLeaked (conn : RawConn) (holdTime : Int)
  /-- `LOGW("conn %p held %lds, possible slow query", …)`. -/
  | possibleSlowQuery (conn : RawConn) (holdTime : Int)
  deriving DecidableEq

namespace DbPool

/-- `LEAK_WARN_THRESHOLD`. -/
def leakWarnThreshold : Int := 1

/-- `LEAK_ERROR_THRESHOLD`. -/
def leakErrorThreshold : Int := 5

/-- What is logged about a connection, if anything. -/
def leakLog (conn : RawConn) (holdTime : Int) : Option LeakLog :=
  if holdTime > leakErrorThreshold then some (.likelyLeaked conn holdTime)
  else if holdTime > leakWarnThreshold then some (.possibleSlowQuery conn holdTime)
  else none

/-- What `checkStaleConnections` logs. -/
def checkStaleConnections (pool : DbPool) (now : Int) : List LeakLog :=
  pool.borrowedConns.entries.filterMap fun it => leakLog it.1 (now - it.2)

end DbPool

def LeakLog.conn : LeakLog → RawConn
  | .likelyLeaked conn _ | .possibleSlowQuery conn _ => conn

namespace DbPool

theorem leakLog_conn {conn : RawConn} {holdTime : Int} {m : LeakLog}
    (h : leakLog conn holdTime = some m) : m.conn = conn := by
  unfold leakLog at h
  split_ifs at h <;> cases h <;> rfl

/-- The scan goes by the records. -/
theorem mem_checkStaleConnections {pool : DbPool} {now : Int} {m : LeakLog} :
    m ∈ pool.checkStaleConnections now ↔
      ∃ conn since, pool.borrowedConns.lookup conn = some since ∧
        leakLog conn (now - since) = some m := by
  unfold checkStaleConnections
  rw [List.mem_filterMap]
  constructor
  · rintro ⟨⟨conn, since⟩, hmem, hm⟩
    exact ⟨conn, since, AList.mem_lookup_iff.mpr hmem, hm⟩
  · rintro ⟨conn, since, hl, hm⟩
    exact ⟨⟨conn, since⟩, AList.mem_lookup_iff.mp hl, hm⟩

/-- No connection comes up twice in a scan. -/
theorem checkStaleConnections_nodup (pool : DbPool) (now : Int) :
    ((pool.checkStaleConnections now).map LeakLog.conn).Nodup := by
  have hkeys : pool.borrowedConns.entries.keys.Nodup := pool.borrowedConns.nodupKeys
  refine List.Nodup.sublist ?_ hkeys
  unfold checkStaleConnections List.keys
  generalize pool.borrowedConns.entries = entries
  induction entries with
  | nil => exact .slnil
  | cons it entries ih =>
    rw [List.filterMap_cons]
    cases hm : leakLog it.1 (now - it.2) with
    | none => exact ih.cons _
    | some m =>
      rw [List.map_cons, List.map_cons, leakLog_conn hm]
      exact ih.cons_cons _

end DbPool

/-- The record of a connection is the time when `acquire` returned it. -/
theorem since_lookup {c : RawConn} {t : Int} {s : PoolSys}
    (h : poolMachine.Since (PoolSys.LentAt c t) (fun s : PoolSys => c ∈ s.held) s)
    (hd : s.pool.isShutdown = false) : s.pool.borrowedConns.lookup c = some t := by
  refine h.inv (I := fun s : PoolSys => s.pool.isShutdown = false →
    s.pool.borrowedConns.lookup c = some t) ?_ ?_ hd
  · intro l s s' hs hl ha hc' hd'
    have hi := poolInv_reach (hs.step l hl) hd'
    have hc := PoolSys.notMem_held_of_lent hi ha.2
    rw [((PoolSys.moves_of_step hl).loans hd').lookup_lent hc hc', ha.1]
  · intro l s s' hs ih hl hc' hd'
    have hm := PoolSys.moves_of_step hl
    have hi := poolInv_reach (hs.reach.step l hl) hd'
    rw [(hm.loans hd').lookup_eq hi hs.holds hc', ih (hm.open_before hd')]

/-- A connection that is held was lent at some time. -/
theorem held_since {c : RawConn} {s : PoolSys} (h : poolMachine.Reach s)
    (hd : s.pool.isShutdown = false) (hc : c ∈ s.held) : ∃ t,
      poolMachine.Since (PoolSys.LentAt c t) (fun s : PoolSys => c ∈ s.held) s := by
  refine h.since (G := fun s : PoolSys => s.pool.isShutdown = false) ?_ ?_ ?_ hd hc
  · rintro s ⟨_, _, _, _, _, _, _, _, rfl⟩ hc
    exact List.not_mem_nil hc
  · intro l s s' hl hd'
    exact (PoolSys.moves_of_step hl).open_before hd'
  · intro l s s' _ hl hd' hc' hc
    exact ⟨s.now, ((PoolSys.moves_of_step hl).loans hd').lentAt hc hc'⟩

/-- **The scan until `shutdown`.** In every interleaving of any threads, `checkStaleConnections` logs
for each connection that is lent, with the time since `acquire` returned it, what its thresholds say,
and nothing else; no connection comes up twice. -/
theorem stale_scan_exact {s : PoolSys} (h : poolMachine.Reach s) (hd : s.pool.isShutdown = false) :
    ((s.pool.checkStaleConnections s.now).map LeakLog.conn).Nodup ∧
      ∀ m, m ∈ s.pool.checkStaleConnections s.now ↔ ∃ conn t,
        poolMachine.Since (PoolSys.LentAt conn t) (fun s : PoolSys => conn ∈ s.held) s ∧
          DbPool.leakLog conn (s.now - t) = some m := by
  refine ⟨DbPool.checkStaleConnections_nodup _ _, fun m => ?_⟩
  rw [DbPool.mem_checkStaleConnections]
  constructor
  · rintro ⟨conn, since, hl, hm⟩
    have hmem : conn ∈ s.pool.borrowedConns := by
      rw [← AList.lookup_isSome, hl]
      rfl
    obtain ⟨t, ht⟩ := held_since h hd (((poolInv_reach h hd).borrowed conn).mp hmem)
    have ht' := since_lookup ht hd
    rw [hl] at ht'
    cases ht'
    exact ⟨conn, since, ht, hm⟩
  · rintro ⟨conn, t, ht, hm⟩
    exact ⟨conn, t, since_lookup ht hd, hm⟩

/-- A connection that is held for six seconds. -/
theorem stale_scan_exact_seven : ∃ s : PoolSys,
    (((s.pool.checkStaleConnections s.now).map LeakLog.conn).Nodup ∧
      ∀ m, m ∈ s.pool.checkStaleConnections s.now ↔ ∃ conn t,
        poolMachine.Since (PoolSys.LentAt conn t) (fun s : PoolSys => conn ∈ s.held) s ∧
          DbPool.leakLog conn (s.now - t) = some m) ∧
      s.pool.checkStaleConnections s.now = [.likelyLeaked 7 6] := by
  have h : (poolMachine.runs [.spawn, .tick 1, .acquire 0 fun _ => .alive, .tick 6]
      PoolSys.single).map (fun s : PoolSys => (s.pool.isShutdown,
        s.pool.checkStaleConnections s.now)) = some (false, [.likelyLeaked 7 6]) := by
    decide
  obtain ⟨s, hs, hf⟩ := Option.map_eq_some_iff.mp h
  simp only [Prod.mk.injEq] at hf
  exact ⟨s, stale_scan_exact (.runs (.init PoolSys.single_started) hs) hf.1, hf.2⟩

end QtChat
