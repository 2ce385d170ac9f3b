import Mathlib.Data.List.AList
import QtChat.Interleave.Machine
import QtChat.Interleave.Slots

/-!
# The connection pool

`DbPool` and `PooledMySQL` (`dbpool.cpp`, `pooledmysql.hpp`), for any number of threads.

- **The critical sections.** What `acquire` does with the lock, from the top of its loop to where it
  returns, unlocks to connect or waits, is `acquireLoop`; `returnConnection`, `shutdown` and `init`
  hold the lock throughout.
- **The threads.** `acquire` gives the lock up at two places, so a thread is outside of `acquire`,
  connecting, back from `createConnection`, in `wait_until`, or woken (`Thread`). The steps
  (`PoolSys.step`) are the critical sections and what happens between them; the labels say which
  thread moves and what `mysql_ping`, `createConnection`, `notify_one` and the clock decide.

A connection is known by its raw pointer. A new one has a pointer that no connection has that is
still there.
-/

namespace QtChat

open Interleave

/-- A `MYSQL *`. -/
abbrev RawConn := Nat

/-- `DbPool::ConnEntry`. -/
structure ConnEntry where
  conn : RawConn
  lastUsedTime : Int
  deriving DecidableEq

structure DbPool where
  /-- `_idleConns`, the front first. -/
  idleConns : List ConnEntry
  /-- `_borrowedConns`. -/
  borrowedConns : AList fun _ : RawConn => Int
  /-- `_activeCount`. -/
  activeCount : Int
  /-- `_maxPoolSize`. -/
  maxPoolSize : Int
  /-- `_shutdown`. -/
  isShutdown : Bool

/-- What comes of an entry that was idle for too long. -/
inductive Probe where
  /-- `mysql_ping` succeeds. -/
  | alive
  /-- It fails and `createConnection` gives a new connection. -/
  | rebuilt (conn : RawConn)
  /-- Both fail. -/
  | dead
  deriving DecidableEq

/-- Where the loop of `acquire` gives the lock up. -/
inductive LoopEnd where
  /-- It returns an idle connection. -/
  | idle (conn : RawConn)
  /-- It returns a connection made in the place of a dead one. -/
  | rebuilt (conn : RawConn)
  /-- A slot is reserved, to connect without the lock. -/
  | connect
  /-- `wait_until`. -/
  | wait
  deriving DecidableEq

namespace DbPool

/-- `IDLE_PING_THRESHOLD`. -/
def idlePingThreshold : Int := 30

/-- `init`, with what each call of `createConnection` gives and its time. -/
def init (poolSize maxPoolSize : Int) (created : List (Option ConnEntry)) : Option DbPool :=
  if poolSize ≤ 0 ∨ maxPoolSize < poolSize then none
  else if (created.filterMap id).isEmpty then none
  else some {
    idleConns := created.filterMap id
    borrowedConns := ∅
    activeCount := 0
    maxPoolSize := maxPoolSize
    isShutdown := false }

/-- `_borrowedConns[conn] = now`. -/
def borrow (pool : DbPool) (conn : RawConn) (now : Int) : DbPool :=
  { pool with borrowedConns := pool.borrowedConns.insert conn now }

/-- The loop of `acquire` from its top, the idle connections being those of the list. -/
def acquireLoop (now : Int) (probe : ConnEntry → Probe) : List ConnEntry → DbPool → LoopEnd × DbPool
  | entry :: idle, pool =>
    let taken := { pool with idleConns := idle, activeCount := pool.activeCount + 1 }
    if now - entry.lastUsedTime > idlePingThreshold then
      match probe entry with
      | .alive => (.idle entry.conn, taken.borrow entry.conn now)
      | .rebuilt conn => (.rebuilt conn, taken.borrow conn now)
      | .dead =>
        acquireLoop now probe idle { taken with activeCount := taken.activeCount - 1 }
    else (.idle entry.conn, taken.borrow entry.conn now)
  | [], pool =>
    if pool.activeCount < pool.maxPoolSize then
      (.connect, { pool with activeCount := pool.activeCount + 1 })
    else (.wait, pool)

/-- `returnConnection`, without its `notify_one`. -/
def returnConnection (pool : DbPool) (conn : RawConn) (now : Int) : DbPool :=
  let pool := { pool with borrowedConns := pool.borrowedConns.erase conn }
  if pool.isShutdown then pool
  else { pool with idleConns := pool.idleConns ++ [⟨conn, now⟩]
                   activeCount := pool.activeCount - 1 }

/-- `shutdown`, without its `notify_all`. -/
def shutdown (pool : DbPool) : DbPool :=
  if pool.isShutdown then pool
  else { pool with isShutdown := true, idleConns := [], borrowedConns := ∅ }

end DbPool

/-- A `PooledMySQL`. -/
structure PooledMySQL where
  conn : RawConn
  released : Bool
  deriving DecidableEq

/-- Where a thread is in `acquire`. -/
inductive Thread where
  | outside
  /-- In `createConnection`, with a slot reserved and without the lock. -/
  | connecting
  /-- Back from `createConnection`, before it has the lock again. -/
  | connected (conn : Option RawConn)
  /-- Blocked in `wait_until`. -/
  | waiting
  /-- Woken by a notification; it has not run. -/
  | notified
  /-- Woken without one; it has not run. -/
  | woken
  /-- `wait_until` tells it a timeout; it has not run. -/
  | timedOut
  deriving DecidableEq

/-- The thread has a slot reserved. -/
def Thread.reserved : Thread → Bool
  | .connecting => true
  | .connected _ => true
  | _ => false

/-- The thread has not returned from `wait_until`. -/
def Thread.inWait : Thread → Bool
  | .waiting | .notified | .woken => true
  | _ => false

/-- The connection that the thread is back with. -/
def Thread.conn : Thread → Option RawConn
  | .connected conn => conn
  | _ => none

/-- The connection that the object holds. -/
def PooledMySQL.holds (obj : PooledMySQL) : Option RawConn :=
  if obj.released then none else some obj.conn

/-- The pool, the threads and the objects that they got. `returns` is what the calls of `acquire`
have returned (`none`: a null pointer), `opened` how many connections they have opened. -/
structure PoolSys where
  pool : DbPool
  threads : List Thread
  objects : List PooledMySQL
  now : Int
  returns : List (Option RawConn)
  opened : Nat

inductive PoolLabel where
  /-- A new thread. -/
  | spawn
  /-- The thread calls `acquire`. -/
  | acquire (t : Nat) (probe : ConnEntry → Probe)
  /-- `createConnection` returns. -/
  | connect (t : Nat) (conn : Option RawConn)
  /-- The thread takes the lock again after it has connected. -/
  | relock (t : Nat) (probe : ConnEntry → Probe)
  /-- A waiter wakes up without a notification. -/
  | spurious (t : Nat)
  /-- The deadline has passed, and `wait_until` tells a timeout, also where it was woken before. -/
  | timeout (t : Nat)
  /-- A woken thread takes the lock and runs the loop again. -/
  | wake (t : Nat) (probe : ConnEntry → Probe)
  /-- A thread with a timeout takes the lock and returns. -/
  | giveUp (t : Nat)
  /-- `release` of an object, and the waiter that `notify_one` wakes. -/
  | release (k : Nat) (waiter : Option Nat)
  /-- The destructor of an object. -/
  | destroy (k : Nat) (waiter : Option Nat)
  | shutdown
  | tick (seconds : Nat)

namespace PoolSys

/-- The connections that objects hold. -/
def held (s : PoolSys) : List RawConn := s.objects.filterMap PooledMySQL.holds

/-- The slots that are reserved by threads without the lock. -/
def reserved (s : PoolSys) : Nat := s.threads.countP Thread.reserved

/-- The connections that are still there. -/
def live (s : PoolSys) : List RawConn :=
  s.pool.idleConns.map (·.conn) ++ s.objects.map (·.conn) ++ s.threads.filterMap Thread.conn

/-- The new connections of a probe are new. -/
def FreshProbe (s : PoolSys) (probe : ConnEntry → Probe) : Prop :=
  ∀ entry ∈ s.pool.idleConns, ∀ c ∈ s.live, probe entry ≠ .rebuilt c

instance (s : PoolSys) (probe : ConnEntry → Probe) : Decidable (s.FreshProbe probe) :=
  inferInstanceAs (Decidable (∀ entry ∈ s.pool.idleConns, ∀ c ∈ s.live, probe entry ≠ .rebuilt c))

/-- `acquire` returns a connection. -/
def lend (s : PoolSys) (t : Nat) (pool : DbPool) (conn : RawConn) : PoolSys :=
  { s with
    pool := pool
    threads := s.threads.set t .outside
    objects := s.objects ++ [⟨conn, false⟩]
    returns := s.returns ++ [some conn] }

/-- Thread `t` runs the loop of `acquire` on `pool`. -/
def loop (s : PoolSys) (t : Nat) (probe : ConnEntry → Probe) (pool : DbPool) : PoolSys :=
  match DbPool.acquireLoop s.now probe pool.idleConns pool with
  | (.idle conn, pool) => s.lend t pool conn
  | (.rebuilt conn, pool) => { s.lend t pool conn with opened := s.opened + 1 }
  | (.connect, pool) => { s with pool := pool, threads := s.threads.set t .connecting }
  | (.wait, pool) => { s with pool := pool, threads := s.threads.set t .waiting }

/-- Whom `notify_one` can wake: a thread that is blocked, if there is one. -/
def Notifies (s : PoolSys) : Option Nat → Prop
  | some t => s.threads[t]? = some .waiting
  | none => .waiting ∉ s.threads

instance (s : PoolSys) (waiter : Option Nat) : Decidable (s.Notifies waiter) := by
  unfold Notifies; split <;> infer_instance

/-- `notify_one`. -/
def notifyOne (threads : List Thread) : Option Nat → List Thread
  | some t => threads.set t .notified
  | none => threads

/-- `notify_all`. -/
def notifyAll (threads : List Thread) : List Thread :=
  threads.map fun th => if th = .waiting then .notified else th

/-- `returnConnection`; with the pool shut down it notifies nobody. -/
def giveBack (s : PoolSys) (conn : RawConn) (waiter : Option Nat) : Option PoolSys :=
  if s.pool.isShutdown then
    if waiter = none then some { s with pool := s.pool.returnConnection conn s.now } else none
  else if s.Notifies waiter then
    some { s with pool := s.pool.returnConnection conn s.now
                  threads := notifyOne s.threads waiter }
  else none

def step : PoolLabel → PoolSys → Option PoolSys
  | .spawn, s => some { s with threads := s.threads ++ [.outside] }
  | .acquire t probe, s =>
    if s.threads[t]? = some .outside ∧ s.FreshProbe probe then some (s.loop t probe s.pool) else none
  | .connect t conn, s =>
    if s.threads[t]? = some .connecting ∧ (∀ c ∈ s.live, conn ≠ some c) then
      some { s with threads := s.threads.set t (.connected conn)
                    opened := s.opened + if conn.isSome then 1 else 0 }
    else none
  | .relock t probe, s =>
    match s.threads[t]? with
    | some (.connected (some conn)) => some (s.lend t (s.pool.borrow conn s.now) conn)
    | some (.connected none) =>
      if s.FreshProbe probe then
        some (s.loop t probe { s.pool with activeCount := s.pool.activeCount - 1 })
      else none
    | _ => none
  | .spurious t, s =>
    if s.threads[t]? = some .waiting then some { s with threads := s.threads.set t .woken } else none
  | .timeout t, s =>
    if s.threads[t]?.any Thread.inWait then some { s with threads := s.threads.set t .timedOut }
    else none
  | .wake t probe, s =>
    if (s.threads[t]? = some .notified ∨ s.threads[t]? = some .woken) ∧ s.FreshProbe probe then
      some (s.loop t probe s.pool)
    else none
  | .giveUp t, s =>
    if s.threads[t]? = some .timedOut then
      some { s with threads := s.threads.set t .outside, returns := s.returns ++ [none] }
    else none
  | .release k waiter, s =>
    match s.objects[k]? with
    | none => none
    | some obj =>
      if obj.released then some s
      else (s.giveBack obj.conn waiter).map fun s' =>
        { s' with objects := s.objects.set k { obj with released := true } }
  | .destroy k waiter, s =>
    match s.objects[k]? with
    | none => none
    | some obj =>
      if obj.released then some { s with objects := s.objects.eraseIdx k }
      else (s.giveBack obj.conn waiter).map fun s' => { s' with objects := s.objects.eraseIdx k }
  | .shutdown, s =>
    if s.pool.isShutdown then some s
    else some { s with pool := s.pool.shutdown, threads := notifyAll s.threads }
  | .tick seconds, s => some { s with now := s.now + seconds }

end PoolSys

/-- The pool after a successful `init`. -/
def PoolSys.Started (s : PoolSys) : Prop :=
  ∃ poolSize maxPoolSize created pool now, created.length = poolSize.toNat ∧
    ((created.filterMap id).map ConnEntry.conn).Nodup ∧
    DbPool.init poolSize maxPoolSize created = some pool ∧ s = ⟨pool, [], [], now, [], 0⟩

/-- The pool and its threads as a machine. -/
def poolMachine : Machine where
  State := PoolSys
  Label := PoolLabel
  init := PoolSys.Started
  step := PoolSys.step

end QtChat
