import QtChat.Db.DbPool

/-!
# One call of `acquire`, with the clock

The loop of `PooledMySQL::acquire` (`dbpool.cpp`), one iteration after the other.

- `DbPool.pass`: an iteration up to where it returns, gives the lock up or comes to the `continue`
  behind a failed rebuild. `acquireLoop_pass`: these are the passes that `acquireLoop` runs through.
- `Turn`: what happens during an iteration, which is how `mysql_ping` and `createConnection` go,
  what the other threads do to the pool while the lock is given up, and how long it all takes.
- `PooledMySQL.acquire`: the call after so many iterations.
-/

namespace QtChat

namespace DbPool

/-- One pass of the loop; no end: it comes to the `continue` with the lock held. -/
def pass (now : Int) (probe : ConnEntry → Probe) (pool : DbPool) : Option LoopEnd × DbPool :=
  match pool.idleConns with
  | entry :: idle =>
    let taken := { pool with idleConns := idle, activeCount := pool.activeCount + 1 }
    if now - entry.lastUsedTime > idlePingThreshold then
      match probe entry with
      | .alive => (some (.idle entry.conn), taken.borrow entry.conn now)
      | .rebuilt conn => (some (.rebuilt conn), taken.borrow conn now)
      | .dead => (none, { taken with activeCount := taken.activeCount - 1 })
    else (some (.idle entry.conn), taken.borrow entry.conn now)
  | [] =>
    if pool.activeCount < pool.maxPoolSize then
      (some .connect, { pool with activeCount := pool.activeCount + 1 })
    else (some .wait, pool)

/-- The loop of `acquireLoop` is one pass, and the loop again after a `continue`. -/
theorem acquireLoop_pass (now : Int) (probe : ConnEntry → Probe) (pool : DbPool) :
    acquireLoop now probe pool.idleConns pool = match pool.pass now probe with
      | (some e, p) => (e, p)
      | (none, p) => acquireLoop now probe p.idleConns p := by
  obtain ⟨idle, borrowed, active, max, down⟩ := pool
  unfold pass
  cases idle with
  | nil =>
    rw [acquireLoop]
    dsimp only
    split <;> rfl
  | cons entry idle =>
    rw [acquireLoop]
    dsimp only
    split
    · cases probe entry <;> rfl
    · rfl

end DbPool

/-- What happens during an iteration. -/
structure Turn where
  /-- `time(nullptr)`. -/
  now : Int
  probe : ConnEntry → Probe
  /-- What `createConnection` gives without the lock. -/
  connect : Option RawConn
  /-- What the other threads do while the lock is given up. -/
  others : DbPool → DbPool
  /-- The ticks of `steady_clock` until the iteration is over, with the lock held again. -/
  lasts : Nat
  lasts_pos : 0 < lasts

/-- A call of `acquire`: at the top of its loop, with the time on `steady_clock`, or over. -/
inductive AcquireCall where
  | running (pool : DbPool) (clock : Int)
  | returned (conn : Option RawConn) (pool : DbPool)

/-- An iteration. `wait_until` tells a timeout if the deadline has passed when it returns. -/
def Turn.run (turn : Turn) (deadline : Int) (pool : DbPool) (clock : Int) : AcquireCall :=
  match pool.pass turn.now turn.probe with
  | (some (.idle conn), p) | (some (.rebuilt conn), p) => .returned (some conn) p
  | (none, p) => .running p (clock + turn.lasts)
  | (some .connect, p) =>
    let p := turn.others p
    match turn.connect with
    | some conn => .returned (some conn) (p.borrow conn turn.now)
    | none => .running { p with activeCount := p.activeCount - 1 } (clock + turn.lasts)
  | (some .wait, p) =>
    if deadline ≤ clock + turn.lasts then .returned none (turn.others p)
    else .running (turn.others p) (clock + turn.lasts)

namespace PooledMySQL

/-- The ticks of `steady_clock`, which counts nanoseconds, in a millisecond. -/
def ticksPerMs : Int := 1000000

/-- `acquire(timeoutMs)`, called at time 0, after so many iterations. It gets the lock at time
`locked` and finds the pool. -/
def acquire (timeoutMs : Int) (turns : Nat → Turn) (locked : Nat) (pool : DbPool) :
    Nat → AcquireCall
  | 0 => .running pool locked
  | n + 1 =>
    match acquire timeoutMs turns locked pool n with
    | .running p clock => (turns n).run (timeoutMs * ticksPerMs) p clock
    | call => call

variable {timeoutMs : Int} {turns : Nat → Turn} {locked : Nat} {pool p : DbPool} {n : Nat} {clock : Int}

theorem acquire_succ (h : acquire timeoutMs turns locked pool n = .running p clock) :
    acquire timeoutMs turns locked pool (n + 1) =
      (turns n).run (timeoutMs * ticksPerMs) p clock := by
  rw [acquire, h]

end PooledMySQL

/-- An iteration that does not return ends at its time. -/
theorem Turn.run_clock {turn : Turn} {deadline clock clock' : Int} {pool pool' : DbPool}
    (h : turn.run deadline pool clock = .running pool' clock') : clock' = clock + turn.lasts := by
  unfold Turn.run at h
  split at h
  · cases h
  · cases h
  · cases h
    rfl
  · dsimp only at h
    split at h <;> cases h
    rfl
  · split at h <;> cases h
    rfl

end QtChat
