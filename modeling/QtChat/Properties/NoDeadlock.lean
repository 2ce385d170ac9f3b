import QtChat.Server.Locks

/-!
# No deadlock among the locks of the server

I/O threads, the observer of the Redis connection, the main thread with its timers and the writer of
the log, in any number and interleaved in any way (`server`). `server_no_deadlock`: in no reachable
state is there a set of threads of which each waits for a lock that one of them holds.
`server_goes_on`: as long as a thread waits for a lock, some thread can go on.
-/

namespace QtChat.Locking

open Interleave

variable {role : Nat → Role} {s : Locks Lock}

theorem orderly_of_reach (h : (server role).Reach s) : s.Orderly rank :=
  Locks.orderly_of_reach (fun t => thread_orderly (role t)) h

/-- **No deadlock.** -/
theorem server_no_deadlock (h : (server role).Reach s) (W : Set Nat) : ¬ s.Deadlock W :=
  (orderly_of_reach h).not_deadlock W

/-- Both threads handle a message: thread `1` has the lock of the connections, for which thread `0`
waits. -/
theorem server_no_deadlock_two : ∃ s : Locks Lock, (server fun _ => .io).Reach s ∧
    s.Waits 0 .connMutex 1 ∧ ¬ s.Deadlock {0, 1} := by
  obtain ⟨s, hs, hw⟩ : ∃ s : Locks Lock,
      (server fun _ => .io).runs (List.replicate 22 (1, false) ++ List.replicate 21 (0, false))
        ⟨fun _ => ⟨Role.io.code, []⟩, fun _ => none⟩ = some s ∧ s.Waits 0 .connMutex 1 :=
    ⟨_, rfl, rfl, rfl⟩
  have hreach : (server fun _ => .io).Reach s := (Machine.Reach.init rfl).runs hs
  exact ⟨s, hreach, hw, server_no_deadlock hreach {0, 1}⟩

/-- **Some thread can go on** while a thread waits for a lock. -/
theorem server_goes_on (h : (server role).Reach s) {t u : Nat} {m : Lock} (hw : s.Waits t m u) :
    ∃ l s', (server role).step l s = some s' :=
  (orderly_of_reach h).exists_step hw

end QtChat.Locking
