import QtChat.Log.AsyncLog

/-!
# The end of the log

`uninit` sets `m_bExit` and notifies without the mutex. If the writer has read the flag and is not
yet blocked when the notification comes, the notification is lost; at any other point the writer
sees the flag when it tests the queue the next time (`Leaves`).
-/

namespace QtChat

open Interleave

namespace LogSys

/-- The writer waits for a notification that has been given. -/
structure Stuck (s : LogSys) : Prop where
  exit : s.m_bExit = true
  empty : s.m_listLinesToWrite = []
  blocked : s.writer = .waiting
  spent : s.uninit = .notified

/-- The writer has the mutex only while the queue is empty, and `uninit` goes on with the flag set.
-/
structure LockOk (s : LogSys) : Prop where
  checked : s.writer = .checked → s.m_listLinesToWrite = []
  exiting : s.uninit ≠ .before → s.m_bExit = true

/-- The flag is set, and the writer will read it before it waits. -/
structure Leaves (s : LogSys) : Prop where
  exit : s.m_bExit = true
  checked : s.writer ≠ .checked
  waiting : s.writer ≠ .waiting

variable {cfg : LogConfig} {l : LogLabel} {s s' : LogSys}

theorem wake_checked {w : Writer} : wake w = .checked ↔ w = .checked := by
  cases w <;> simp [wake]

theorem wake_waiting (w : Writer) : wake w ≠ .waiting := by
  cases w <;> simp [wake]

/-- What `roll`, `test` and `fwrite` make of the writer. -/
theorem roll_writer (cfg : LogConfig) (s : LogSys) (ok : Bool) :
    ((s.roll cfg ok).writer = .lock ∨ (s.roll cfg ok).writer = .finished) ∧
      (s.roll cfg ok).m_bExit = s.m_bExit ∧ (s.roll cfg ok).uninit = s.uninit := by
  unfold roll
  split
  · split
    · exact ⟨.inl rfl, rfl, rfl⟩
    · exact ⟨.inr rfl, rfl, rfl⟩
  · exact ⟨.inl rfl, rfl, rfl⟩

theorem test_writer (cfg : LogConfig) (s : LogSys) :
    ((s.test cfg).writer = .checked → (s.test cfg).m_listLinesToWrite = [] ∧ s.m_bExit = false) ∧
      (s.test cfg).writer ≠ .waiting ∧
      (s.test cfg).m_bExit = s.m_bExit ∧ (s.test cfg).uninit = s.uninit := by
  unfold test
  split
  · rename_i hq
    refine ⟨fun h => ⟨hq, ?_⟩, ?_, rfl, rfl⟩
    · dsimp only at h
      split at h
      · cases h
      · rename_i he
        exact Bool.eq_false_iff.mpr he
    · dsimp only
      split <;> simp
  · refine ⟨fun h => ?_, ?_, rfl, rfl⟩
    · dsimp only at h
      split at h <;> cases h
    · dsimp only
      split <;> simp

theorem fwrite_writer (s : LogSys) (strLine strLocal : Str) (n : Nat) :
    (s.fwrite strLine strLocal n).writer ≠ .checked ∧
      (s.fwrite strLine strLocal n).writer ≠ .waiting ∧
      (s.fwrite strLine strLocal n).m_bExit = s.m_bExit ∧
      (s.fwrite strLine strLocal n).uninit = s.uninit := by
  unfold fwrite
  split_ifs <;> exact ⟨nofun, nofun, rfl, rfl⟩

/-- **Every step** keeps what the mutex and the flag are for. -/
theorem LockOk.step (h : s.LockOk) (hs : step cfg l s = some s') : s'.LockOk := by
  cases l with
  | output c =>
    obtain ⟨hc, hs⟩ := Option.ite_none_left_eq_some.mp hs
    cases hs
    rw [not_or] at hc
    cases cfg.line c with
    | none => exact h
    | some strLine => exact ⟨fun hw => absurd (wake_checked.mp hw) hc.2, h.exiting⟩
  | outputBinary dump =>
    obtain ⟨hc, hs⟩ := Option.ite_none_left_eq_some.mp hs
    cases hs
    exact ⟨fun hw => absurd (wake_checked.mp hw) hc, h.exiting⟩
  | roll ok =>
    obtain ⟨-, hs⟩ := Option.ite_none_right_eq_some.mp hs
    cases hs
    obtain ⟨hw, he, hu⟩ := roll_writer cfg s ok
    refine ⟨fun hc => ?_, fun hb => he.trans (h.exiting fun e => hb (hu.trans e))⟩
    rw [hc] at hw
    rcases hw with hw | hw <;> cases hw
  | test =>
    obtain ⟨-, hs⟩ := Option.ite_none_right_eq_some.mp hs
    cases hs
    obtain ⟨hw, -, he, hu⟩ := test_writer cfg s
    exact ⟨fun hc => (hw hc).1, fun hb => he.trans (h.exiting fun e => hb (hu.trans e))⟩
  | wait =>
    obtain ⟨-, hs⟩ := Option.ite_none_right_eq_some.mp hs
    cases hs
    exact ⟨nofun, h.exiting⟩
  | spurious =>
    obtain ⟨-, hs⟩ := Option.ite_none_right_eq_some.mp hs
    cases hs
    exact ⟨nofun, h.exiting⟩
  | fwrite n =>
    rw [LogSys.step] at hs
    split at hs
    · rename_i strLine strLocal hw
      obtain ⟨-, hs⟩ := Option.ite_none_right_eq_some.mp hs
      rw [← Option.some.inj hs]
      obtain ⟨hc, -, he, hu⟩ := fwrite_writer s strLine strLocal n
      exact ⟨fun h => absurd h hc, fun hb => he.trans (h.exiting fun e => hb (hu.trans e))⟩
    · cases hs
  | setExit =>
    obtain ⟨-, hs⟩ := Option.ite_none_right_eq_some.mp hs
    cases hs
    exact ⟨h.checked, fun _ => rfl⟩
  | notify =>
    obtain ⟨hu, hs⟩ := Option.ite_none_right_eq_some.mp hs
    cases hs
    exact ⟨fun hw => h.checked (wake_checked.mp hw), fun _ => h.exiting (by rw [hu]; decide)⟩
  | join =>
    obtain ⟨hu, hs⟩ := Option.ite_none_right_eq_some.mp hs
    cases hs
    exact ⟨h.checked, fun _ => h.exiting (by rw [hu.1]; decide)⟩
  | tick seconds =>
    cases hs
    exact ⟨h.checked, h.exiting⟩

theorem lockOk_reach (h : (logMachine cfg).Reach s) : s.LockOk := by
  refine h.inv (M := logMachine cfg) (I := LockOk) ?_ fun l s s' h hs => h.step hs
  rintro s ⟨now, rfl⟩
  exact ⟨nofun, fun h => absurd rfl h⟩

/-- **Every step** after the flag was set in time. -/
theorem Leaves.step (h : s.Leaves) (hs : step cfg l s = some s') : s'.Leaves := by
  cases l with
  | output c =>
    obtain ⟨-, hs⟩ := Option.ite_none_left_eq_some.mp hs
    cases hs
    cases cfg.line c with
    | none => exact h
    | some strLine => exact ⟨h.exit, fun hw => h.checked (wake_checked.mp hw), wake_waiting _⟩
  | outputBinary dump =>
    obtain ⟨-, hs⟩ := Option.ite_none_left_eq_some.mp hs
    cases hs
    exact ⟨h.exit, fun hw => h.checked (wake_checked.mp hw), wake_waiting _⟩
  | roll ok =>
    obtain ⟨-, hs⟩ := Option.ite_none_right_eq_some.mp hs
    cases hs
    obtain ⟨hw, he, -⟩ := roll_writer cfg s ok
    refine ⟨he.trans h.exit, fun hc => ?_, fun hc => ?_⟩
    all_goals
      rw [hc] at hw
      rcases hw with hw | hw <;> cases hw
  | test =>
    obtain ⟨-, hs⟩ := Option.ite_none_right_eq_some.mp hs
    cases hs
    obtain ⟨hc, hw, he, -⟩ := test_writer cfg s
    refine ⟨he.trans h.exit, fun hc' => ?_, hw⟩
    have := (hc hc').2
    rw [h.exit] at this
    cases this
  | wait =>
    obtain ⟨hc, -⟩ := Option.ite_none_right_eq_some.mp hs
    exact absurd hc h.checked
  | spurious =>
    obtain ⟨hw, -⟩ := Option.ite_none_right_eq_some.mp hs
    exact absurd hw h.waiting
  | fwrite n =>
    rw [LogSys.step] at hs
    split at hs
    · rename_i strLine strLocal hw
      obtain ⟨-, hs⟩ := Option.ite_none_right_eq_some.mp hs
      rw [← Option.some.inj hs]
      obtain ⟨hc, hw, he, -⟩ := fwrite_writer s strLine strLocal n
      exact ⟨he.trans h.exit, hc, hw⟩
    · cases hs
  | setExit =>
    obtain ⟨-, hs⟩ := Option.ite_none_right_eq_some.mp hs
    cases hs
    exact ⟨rfl, h.checked, h.waiting⟩
  | notify =>
    obtain ⟨-, hs⟩ := Option.ite_none_right_eq_some.mp hs
    cases hs
    exact ⟨h.exit, fun hw => h.checked (wake_checked.mp hw), wake_waiting _⟩
  | join =>
    obtain ⟨-, hs⟩ := Option.ite_none_right_eq_some.mp hs
    cases hs
    exact ⟨h.exit, h.checked, h.waiting⟩
  | tick seconds =>
    cases hs
    exact ⟨h.exit, h.checked, h.waiting⟩

end LogSys

/-- **The end of the log.** From the notification of `uninit` on, in every interleaving with the
writer and with threads that log, the writer is never blocked with an empty queue and that
notification spent, exactly if at the notification it is not between its test of `m_bExit` and its
wait. -/
theorem log_shutdown_iff {cfg : LogConfig} {s s' : LogSys} (h : (logMachine cfg).Reach s)
    (hn : LogSys.step cfg .notify s = some s') :
    (∀ (ls : List LogLabel) (s'' : LogSys), (logMachine cfg).runs ls s' = some s'' → ¬ s''.Stuck) ↔
      s.writer ≠ .checked := by
  have hok := LogSys.lockOk_reach h
  obtain ⟨hu, hn⟩ := Option.ite_none_right_eq_some.mp hn
  cases hn
  have hexit : s.m_bExit = true := hok.exiting (by rw [hu]; decide)
  constructor
  · intro hnever hc
    refine hnever [.wait] { s with writer := .waiting, uninit := .notified } ?_
      ⟨hexit, hok.checked hc, rfl, rfl⟩
    have hw : LogSys.wake s.writer = .checked := LogSys.wake_checked.mpr hc
    have hstep : LogSys.step cfg .wait
        { s with writer := LogSys.wake s.writer, uninit := .notified } =
          some { s with writer := .waiting, uninit := .notified } := if_pos hw
    exact Machine.runs_step (M := logMachine cfg) hstep
  · intro hc ls s'' hr hstuck
    have hleaves : LogSys.Leaves { s with writer := LogSys.wake s.writer, uninit := .notified } :=
      ⟨hexit, fun hw => hc (LogSys.wake_checked.mp hw), LogSys.wake_waiting _⟩
    have hend := Machine.runs_keep (M := logMachine cfg) (I := LogSys.Leaves)
      (fun l s s' h hs => h.step hs) hleaves hr
    exact hend.waiting hstuck.blocked

/-- A log in the file `chat`, rolled at 10 MiB; the time is printed as its number. -/
def LogConfig.chat : LogConfig := ⟨txt "chat", txt "00042", 10 * 1024 * 1024, .info, false, fun now =>
  decimal now⟩

/-- The writer is blocked when `uninit` notifies. -/
theorem log_shutdown_waiting : ∃ s s' : LogSys, s.writer = .waiting ∧
    ((∀ (ls : List LogLabel) (s'' : LogSys), (logMachine .chat).runs ls s' = some s'' → ¬ s''.Stuck) ↔
      s.writer ≠ .checked) := by
  have h : ((logMachine .chat).runs [.roll true, .test, .wait, .setExit] (.started 0)).map
      (fun s : LogSys => (s.writer, s.uninit)) = some (.waiting, .exiting) := by
    decide
  obtain ⟨s, hr, hf⟩ := Option.map_eq_some_iff.mp h
  simp only [Prod.mk.injEq] at hf
  have hn : LogSys.step .chat .notify s =
      some { s with writer := LogSys.wake s.writer, uninit := .notified } := if_pos hf.2
  exact ⟨s, _, hf.1, log_shutdown_iff (.runs (.init ⟨0, rfl⟩) hr) hn⟩

/-- The writer finds the queue empty and the flag not set; `uninit` sets it and notifies nobody; the
writer goes to wait. -/
theorem log_shutdown_stuck :
    ¬∀ (cfg : LogConfig) (s : LogSys), (logMachine cfg).Reach s → ¬ s.Stuck := by
  intro hall
  have h : ((logMachine .chat).runs [.roll true, .test, .setExit, .notify, .wait] (.started 0)).map
      (fun s : LogSys => (s.m_bExit, s.m_listLinesToWrite, s.writer, s.uninit)) =
        some (true, [], .waiting, .notified) := by
    decide
  obtain ⟨s, hr, hf⟩ := Option.map_eq_some_iff.mp h
  simp only [Prod.mk.injEq] at hf
  exact hall _ s (.runs (.init ⟨0, rfl⟩) hr) ⟨hf.1, hf.2.1, hf.2.2.1, hf.2.2.2⟩

end QtChat
