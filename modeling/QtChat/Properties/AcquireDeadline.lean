import QtChat.Db.Acquire

/-!
# The deadline of `acquire`

The loop has four ways to go on, and only the one through `wait_until` looks at the deadline. So a
call keeps to it exactly if every attempt to connect that fails has failed before the deadline; an
attempt that fails later, with or without the lock, is followed by a further iteration, and by one
after the other while the attempts fail.
-/

namespace QtChat

/-- An attempt to connect fails: to rebuild an idle connection, or to add one. -/
def Turn.Fails (turn : Turn) (pool : DbPool) : Prop :=
  match pool.idleConns with
  | entry :: _ =>
    turn.now - entry.lastUsedTime > DbPool.idlePingThreshold ∧ turn.probe entry = .dead
  | [] => pool.activeCount < pool.maxPoolSize ∧ turn.connect = none

/-- After a failed attempt the loop goes on, whatever the time is. -/
theorem Turn.run_of_fails {turn : Turn} {pool : DbPool} (h : turn.Fails pool) (deadline clock : Int) :
    ∃ pool', turn.run deadline pool clock = .running pool' (clock + turn.lasts) := by
  unfold Turn.Fails at h
  unfold Turn.run DbPool.pass
  cases hp : pool.idleConns with
  | nil =>
    rw [hp] at h
    simp only [if_pos h.1, h.2]
    exact ⟨_, rfl⟩
  | cons entry idle =>
    rw [hp] at h
    simp only [if_pos h.1, h.2]
    exact ⟨_, rfl⟩

/-- Any other iteration in which the deadline passes returns. -/
theorem Turn.run_of_late {turn : Turn} {pool : DbPool} {deadline clock : Int} (h : ¬ turn.Fails pool)
    (hlate : deadline ≤ clock + turn.lasts) :
    ∃ conn pool', turn.run deadline pool clock = .returned conn pool' := by
  unfold Turn.Fails at h
  unfold Turn.run DbPool.pass
  cases hp : pool.idleConns with
  | nil =>
    rw [hp] at h
    by_cases hroom : pool.activeCount < pool.maxPoolSize
    · cases hc : turn.connect with
      | none => exact absurd ⟨hroom, hc⟩ h
      | some conn =>
        simp only [if_pos hroom]
        exact ⟨_, _, rfl⟩
    · simp only [if_neg hroom, if_pos hlate]
      exact ⟨_, _, rfl⟩
  | cons entry idle =>
    rw [hp] at h
    by_cases hstale : turn.now - entry.lastUsedTime > DbPool.idlePingThreshold
    · cases hprobe : turn.probe entry with
      | alive =>
        simp only [if_pos hstale, hprobe]
        exact ⟨_, _, rfl⟩
      | rebuilt conn =>
        simp only [if_pos hstale, hprobe]
        exact ⟨_, _, rfl⟩
      | dead => exact absurd ⟨hstale, hprobe⟩ h
    · simp only [if_neg hstale]
      exact ⟨_, _, rfl⟩

namespace PooledMySQL

variable {timeoutMs : Int} {turns : Nat → Turn} {locked : Nat} {pool : DbPool}

/-- The call returns, and the iteration in which the deadline passes is the last: what it returns
then is the connection of that iteration, or a null pointer. -/
structure Timely (timeoutMs : Int) (turns : Nat → Turn) (locked : Nat) (pool : DbPool) : Prop where
  returns : ∃ n conn p, acquire timeoutMs turns locked pool n = .returned conn p
  stops : ∀ n p clock, acquire timeoutMs turns locked pool n = .running p clock →
    timeoutMs * ticksPerMs ≤ clock + (turns n).lasts →
    ∃ conn p', acquire timeoutMs turns locked pool (n + 1) = .returned conn p'

/-- Every iteration takes its time. -/
theorem le_clock {n : Nat} {p : DbPool} {clock : Int}
    (h : acquire timeoutMs turns locked pool n = .running p clock) : (n : Int) ≤ clock := by
  induction n generalizing p clock with
  | zero =>
    cases h
    exact Int.natCast_nonneg locked
  | succ n ih =>
    cases hn : acquire timeoutMs turns locked pool n with
    | returned conn p' =>
      rw [acquire, hn] at h
      cases h
    | running p' clock' =>
      rw [acquire_succ hn] at h
      have hpos := (turns n).lasts_pos
      have hle := ih hn
      rw [Turn.run_clock h]
      omega

/-- A call that stops in time returns. -/
theorem returns_of_stops (h : ∀ n p clock, acquire timeoutMs turns locked pool n = .running p clock →
      timeoutMs * ticksPerMs ≤ clock + (turns n).lasts →
      ∃ conn p', acquire timeoutMs turns locked pool (n + 1) = .returned conn p') :
    ∃ n conn p, acquire timeoutMs turns locked pool n = .returned conn p := by
  cases hn : acquire timeoutMs turns locked pool (timeoutMs * ticksPerMs).toNat with
  | returned conn p => exact ⟨_, conn, p, hn⟩
  | running p clock =>
    have hle := le_clock hn
    exact ⟨_, h _ p clock hn (by omega)⟩

end PooledMySQL

/-- **The deadline of `acquire`.** For every pool, every timeout and whatever `mysql_ping`,
`createConnection` and the other threads do, a call returns and starts no iteration past its
deadline exactly if all its attempts to connect that fail have failed before the deadline. -/
theorem acquire_timely_iff (timeoutMs : Int) (turns : Nat → Turn) (locked : Nat) (pool : DbPool) :
    PooledMySQL.Timely timeoutMs turns locked pool ↔ ∀ n p clock,
      PooledMySQL.acquire timeoutMs turns locked pool n = .running p clock → (turns n).Fails p →
        clock + (turns n).lasts < timeoutMs * PooledMySQL.ticksPerMs := by
  constructor
  · intro h n p clock hn hf
    by_contra hlate
    obtain ⟨p', hrun⟩ := Turn.run_of_fails hf (timeoutMs * PooledMySQL.ticksPerMs) clock
    obtain ⟨conn, p'', hret⟩ := h.stops n p clock hn (Int.not_lt.mp hlate)
    rw [PooledMySQL.acquire_succ hn, hrun] at hret
    cases hret
  · intro h
    have hstops : ∀ n p clock, PooledMySQL.acquire timeoutMs turns locked pool n = .running p clock →
        timeoutMs * PooledMySQL.ticksPerMs ≤ clock + (turns n).lasts →
        ∃ conn p', PooledMySQL.acquire timeoutMs turns locked pool (n + 1) = .returned conn p' := by
      intro n p clock hn hlate
      have hnot : ¬ (turns n).Fails p := fun hf => Int.not_lt.mpr hlate (h n p clock hn hf)
      rw [PooledMySQL.acquire_succ hn]
      exact Turn.run_of_late hnot hlate
    exact ⟨PooledMySQL.returns_of_stops hstops, hstops⟩

/-- MySQL refuses every connection. -/
def Turn.refused : Turn := ⟨0, fun _ => .dead, none, id, 1, Nat.one_pos⟩

/-- With no connection and room for one, the call that MySQL refuses never ends. -/
theorem PooledMySQL.acquire_refused (n : Nat) :
    acquire 3000 (fun _ => .refused) 0 ⟨[], ∅, 0, 1, false⟩ n = .running ⟨[], ∅, 0, 1, false⟩ n := by
  induction n with
  | zero => rfl
  | succ n ih =>
    rw [acquire_succ ih]
    rfl

/-- While MySQL is down, a call does not return at all. -/
theorem acquire_untimely : ¬ ∀ (timeoutMs : Int) (turns : Nat → Turn) (locked : Nat) (pool : DbPool),
    PooledMySQL.Timely timeoutMs turns locked pool := by
  intro hall
  obtain ⟨n, conn, p, h⟩ := (hall 3000 (fun _ => .refused) 0 ⟨[], ∅, 0, 1, false⟩).returns
  rw [PooledMySQL.acquire_refused] at h
  cases h

end QtChat
