import Mathlib.Data.Set.Finite.Lemmas
import QtChat.Interleave.Machine

/-!
# Threads that take locks

What matters of a program for its locks: its sections under locks, its loops and branches, and how
each piece of code ends (`Exit`). Nothing is said about data: a branch goes either way. The locks
are not recursive.

- **Code** (`Code`). `locked m c` is `c` in a scope that holds `m`; the scope gives `m` back however
  `c` ends. `unlocked m c` gives `m` back for the time of `c` (a wait for a condition).
- **Threads** (`Thread`). The code that runs and the stack of what is around it. `Thread.next` is
  the next step with what it does to the locks (`Effect`).
- **The system** (`locking`). Any interleaving of the threads. A thread that needs a lock which is
  held cannot step: it waits (`Locks.Waits`).
- **Lock order** (`Code.Orderly`). The locks are ranked, and each one is taken while all locks held
  rank below it (`Above`). The predicate follows the code, so a function has one lemma on it.
- **No deadlock** (`not_deadlock`). If the code of every thread is orderly, then in no reachable
  state threads wait for each other: the lock that a thread waits for ranks below the lock that its
  holder waits for (`waits_rank`).
-/

namespace Interleave

/-- How a piece of code ends: at its end, or by `return`, `break`, `continue` or an exception. -/
inductive Exit where
  | next
  | ret
  | brk
  | cont
  | throw
  deriving DecidableEq

/-- Code with locks in `L`. -/
inductive Code (L : Type) where
  /-- Ends as `e`. -/
  | exit (e : Exit)
  | seq (c d : Code L)
  | either (c d : Code L)
  /-- `c` again and again, until a `break`, a `return` or an exception. -/
  | loop (c : Code L)
  /-- The body of a function: a `return` in `c` ends `c` alone. -/
  | call (c : Code L)
  /-- `d` handles the exceptions of `c`. -/
  | attempt (c d : Code L)
  /-- `c`, and `d` at the end of the scope, however `c` ends. -/
  | ensure (c d : Code L)
  | locked (m : L) (c : Code L)
  | unlocked (m : L) (c : Code L)
  /-- The process dies. -/
  | abort

namespace Code

variable {L : Type}

/-- Code that takes no lock. -/
def skip : Code L := .exit .next

/-- One after the other. -/
def block : List (Code L) → Code L
  | [] => skip
  | c :: cs => .seq c (block cs)

/-- `c` or nothing. -/
def maybe (c : Code L) : Code L := .either c skip

/-- One of the list; nothing, if the list is empty. -/
def oneOf : List (Code L) → Code L
  | [] => skip
  | [c] => c
  | c :: cs => .either c (oneOf cs)

/-- A loop with a condition. -/
def loopWhile (c : Code L) : Code L := .loop (.seq (maybe (.exit .brk)) c)

end Code

/-- What is around the code that runs. -/
inductive Frame (L : Type) where
  | seq (d : Code L)
  | loop (c : Code L)
  | call
  | attempt (d : Code L)
  | ensure (d : Code L)
  /-- Around the end of a scope whose body ended as `e`. -/
  | ending (e : Exit)
  | locked (m : L)
  | unlocked (m : L)

/-- What a step does to the locks. -/
inductive Effect (L : Type) where
  | none
  | acquire (m : L)
  | release (m : L)
  | abort

/-- A thread. -/
structure Thread (L : Type) where
  code : Code L
  stack : List (Frame L)

namespace Thread

variable {L : Type}

/-- The code in the frame has ended as `e`. -/
def leave (e : Exit) (K : List (Frame L)) : Frame L → Effect L × Thread L
  | .seq d => (.none, if e = .next then ⟨d, K⟩ else ⟨.exit e, K⟩)
  | .loop c => match e with
    | .next | .cont => (.none, ⟨.loop c, K⟩)
    | .brk => (.none, ⟨.exit .next, K⟩)
    | .ret | .throw => (.none, ⟨.exit e, K⟩)
  | .call => (.none, ⟨.exit (if e = .ret then .next else e), K⟩)
  | .attempt d => (.none, if e = .throw then ⟨d, K⟩ else ⟨.exit e, K⟩)
  | .ensure d => (.none, ⟨d, .ending e :: K⟩)
  | .ending e' => (.none, ⟨.exit (if e = .next then e' else e), K⟩)
  | .locked m => (.release m, ⟨.exit e, K⟩)
  | .unlocked m => (.acquire m, ⟨.exit e, K⟩)

/-- The next step; `b` is the branch taken. An exception that nothing handles ends the process. -/
def next (b : Bool) : Thread L → Option (Effect L × Thread L)
  | ⟨.exit e, []⟩ => if e = .throw then some (.abort, ⟨.exit e, []⟩) else none
  | ⟨.exit e, F :: K⟩ => some (leave e K F)
  | ⟨.seq c d, K⟩ => some (.none, ⟨c, .seq d :: K⟩)
  | ⟨.either c d, K⟩ => some (.none, ⟨if b then c else d, K⟩)
  | ⟨.loop c, K⟩ => some (.none, ⟨c, .loop c :: K⟩)
  | ⟨.call c, K⟩ => some (.none, ⟨c, .call :: K⟩)
  | ⟨.attempt c d, K⟩ => some (.none, ⟨c, .attempt d :: K⟩)
  | ⟨.ensure c d, K⟩ => some (.none, ⟨c, .ensure d :: K⟩)
  | ⟨.locked m c, K⟩ => some (.acquire m, ⟨c, .locked m :: K⟩)
  | ⟨.unlocked m c, K⟩ => some (.release m, ⟨c, .unlocked m :: K⟩)
  | ⟨.abort, K⟩ => some (.abort, ⟨.abort, K⟩)

/-- The lock that the next step takes. -/
def wants : Thread L → Option L
  | ⟨.locked m _, _⟩ => some m
  | ⟨.exit _, .unlocked m :: _⟩ => some m
  | _ => none

/-- `wants` is the lock that the next step takes, on either branch. -/
theorem wants_iff {T : Thread L} {m : L} (b : Bool) :
    T.wants = some m ↔ ∃ T', T.next b = some (.acquire m, T') := by
  obtain ⟨code, K⟩ := T
  cases code with
  | exit e =>
    cases K with
    | nil => cases e <;> simp [wants, next]
    | cons F K =>
      cases F with
      | loop c => cases e <;> simp [wants, next, leave]
      | _ => simp [wants, next, leave]
  | _ => simp [wants, next]

/-- The locks that the scopes around the code hold, the newest first. -/
def locksOf : List (Frame L) → List L
  | [] => []
  | .locked m :: K => m :: locksOf K
  | .unlocked _ :: K => (locksOf K).tail
  | _ :: K => locksOf K

/-- The locks of the thread. -/
def held (T : Thread L) : List L := locksOf T.stack

/-- A thread that has a lock has a next step. -/
theorem next_isSome {T : Thread L} (b : Bool) {m : L} (h : m ∈ T.held) : (T.next b).isSome := by
  obtain ⟨code, K⟩ := T
  cases code with
  | exit e =>
    cases K with
    | nil => cases h
    | cons F K => rfl
  | _ => rfl

end Thread

/-- The threads, and who holds each lock. -/
structure Locks (L : Type) where
  thread : Nat → Thread L
  holder : L → Option Nat

namespace Locks

variable {L : Type} [DecidableEq L]

/-- After the end of the process. -/
def ended : Locks L := ⟨fun _ => ⟨.exit .next, []⟩, fun _ => none⟩

/-- The next step of thread `l.1`; a lock is taken only when it is free. -/
def step (l : Nat × Bool) (s : Locks L) : Option (Locks L) :=
  match (s.thread l.1).next l.2 with
  | none => none
  | some (.none, T) => some { s with thread := Function.update s.thread l.1 T }
  | some (.acquire m, T) =>
    if s.holder m = none then
      some ⟨Function.update s.thread l.1 T, Function.update s.holder m (some l.1)⟩
    else none
  | some (.release m, T) =>
    some ⟨Function.update s.thread l.1 T, Function.update s.holder m none⟩
  | some (.abort, _) => some ended

/-- Thread `t` waits for the lock `m`, which thread `u` holds. -/
def Waits (s : Locks L) (t : Nat) (m : L) (u : Nat) : Prop :=
  (s.thread t).wants = some m ∧ s.holder m = some u

/-- Each thread of `W` waits for a lock that a thread of `W` holds. -/
def Deadlock (s : Locks L) (W : Set Nat) : Prop :=
  W.Nonempty ∧ ∀ t ∈ W, ∃ m, ∃ u ∈ W, s.Waits t m u

end Locks

/-- Any interleaving of the threads, which start with their code and no lock. -/
def locking {L : Type} [DecidableEq L] (start : Nat → Code L) : Machine where
  State := Locks L
  Label := Nat × Bool
  init s := s = ⟨fun t => ⟨start t, []⟩, fun _ => none⟩
  step := Locks.step

/-! ## Lock order -/

section Order

variable {L : Type} (rank : L → Nat)

/-- All locks held rank below `m`. -/
def Above (held : List L) (m : L) : Prop := ∀ h ∈ held, rank h < rank m

/-- The code takes its locks in the order of their ranks, if it starts with the locks `held`. What
is given back for a time is the newest lock. -/
def Code.Orderly : List L → Code L → Prop
  | _, .exit _ => True
  | held, .seq c d => c.Orderly held ∧ d.Orderly held
  | held, .either c d => c.Orderly held ∧ d.Orderly held
  | held, .loop c => c.Orderly held
  | held, .call c => c.Orderly held
  | held, .attempt c d => c.Orderly held ∧ d.Orderly held
  | held, .ensure c d => c.Orderly held ∧ d.Orderly held
  | held, .locked m c => Above rank held m ∧ c.Orderly (m :: held)
  | held, .unlocked m c => ∃ rest, held = m :: rest ∧ c.Orderly rest
  | _, .abort => True

/-- The same for what is still to come in a frame. -/
def Frame.Orderly (held : List L) : Frame L → Prop
  | .seq d => d.Orderly rank held
  | .loop c => c.Orderly rank held
  | .attempt d => d.Orderly rank held
  | .ensure d => d.Orderly rank held
  | .locked m => Above rank held m
  | .unlocked m => ∃ rest, held = m :: rest
  | .call => True
  | .ending _ => True

/-- The same for a stack. -/
def StackOrderly : List (Frame L) → Prop
  | [] => True
  | F :: K => F.Orderly rank (Thread.locksOf K) ∧ StackOrderly K

/-- The same for a thread. -/
structure Thread.Orderly (T : Thread L) : Prop where
  code : T.code.Orderly rank T.held
  stack : StackOrderly rank T.stack

/-- What the effect makes of a thread's locks. -/
def Effect.Moves (before after : List L) : Effect L → Prop
  | .none => after = before
  | .acquire m => Above rank before m ∧ after = m :: before
  | .release m => before = m :: after
  | .abort => True

/-- The threads are orderly, and `holder` names the thread that has the lock. -/
structure Locks.Orderly (s : Locks L) : Prop where
  thread (t : Nat) : (s.thread t).Orderly rank
  holder (m : L) (t : Nat) : s.holder m = some t ↔ m ∈ (s.thread t).held

variable {rank}

/-! ### Code -/

namespace Code

variable {held : List L}

@[simp] theorem orderly_exit (e : Exit) : (exit e : Code L).Orderly rank held := trivial

@[simp] theorem orderly_skip : (skip : Code L).Orderly rank held := trivial

@[simp] theorem orderly_abort : (abort : Code L).Orderly rank held := trivial

@[simp] theorem orderly_seq {c d : Code L} :
    (seq c d).Orderly rank held ↔ c.Orderly rank held ∧ d.Orderly rank held := Iff.rfl

@[simp] theorem orderly_either {c d : Code L} :
    (either c d).Orderly rank held ↔ c.Orderly rank held ∧ d.Orderly rank held := Iff.rfl

@[simp] theorem orderly_loop {c : Code L} : (loop c).Orderly rank held ↔ c.Orderly rank held :=
  Iff.rfl

@[simp] theorem orderly_call {c : Code L} : (call c).Orderly rank held ↔ c.Orderly rank held :=
  Iff.rfl

@[simp] theorem orderly_attempt {c d : Code L} :
    (attempt c d).Orderly rank held ↔ c.Orderly rank held ∧ d.Orderly rank held := Iff.rfl

@[simp] theorem orderly_ensure {c d : Code L} :
    (ensure c d).Orderly rank held ↔ c.Orderly rank held ∧ d.Orderly rank held := Iff.rfl

@[simp] theorem orderly_locked {m : L} {c : Code L} :
    (locked m c).Orderly rank held ↔ Above rank held m ∧ c.Orderly rank (m :: held) := Iff.rfl

@[simp] theorem orderly_unlocked {m : L} {c : Code L} :
    (unlocked m c).Orderly rank (m :: held) ↔ c.Orderly rank held := by
  constructor
  · rintro ⟨rest, heq, h⟩
    obtain ⟨-, rfl⟩ := List.cons.inj heq
    exact h
  · intro h
    exact ⟨held, rfl, h⟩

@[simp] theorem orderly_maybe {c : Code L} :
    (maybe c).Orderly rank held ↔ c.Orderly rank held := by
  simp [maybe]

@[simp] theorem orderly_loopWhile {c : Code L} :
    (loopWhile c).Orderly rank held ↔ c.Orderly rank held := by
  simp [loopWhile]

/-- Of a list, each. -/
@[simp] theorem orderly_block {cs : List (Code L)} :
    (block cs).Orderly rank held ↔ ∀ c ∈ cs, c.Orderly rank held := by
  induction cs with
  | nil => simp [block]
  | cons c cs ih => simp [block, ih]

@[simp] theorem orderly_oneOf {cs : List (Code L)} :
    (oneOf cs).Orderly rank held ↔ ∀ c ∈ cs, c.Orderly rank held := by
  induction cs with
  | nil => simp [oneOf]
  | cons c cs ih =>
    cases cs with
    | nil => simp [oneOf]
    | cons d ds =>
      rw [List.forall_mem_cons, ← ih]
      exact Iff.rfl

end Code

namespace Above

variable {held : List L} {m m' : L}

@[simp] theorem nil : Above rank [] m := fun _ h => (List.not_mem_nil h).elim

@[simp] theorem cons_iff : Above rank (m :: held) m' ↔ rank m < rank m' ∧ Above rank held m' :=
  List.forall_mem_cons

theorem mono (h : Above rank held m) (hr : rank m ≤ rank m') : Above rank held m' :=
  fun k hk => (h k hk).trans_le hr

end Above

/-! ### Threads -/

theorem StackOrderly.sorted {K : List (Frame L)} (h : StackOrderly rank K) :
    (Thread.locksOf K).Pairwise fun m m' => rank m' < rank m := by
  induction K with
  | nil => exact .nil
  | cons F K ih =>
    have hK := ih h.2
    cases F with
    | locked m => exact List.pairwise_cons.mpr ⟨h.1, hK⟩
    | unlocked m => exact hK.tail
    | seq | loop | call | attempt | ensure | ending => exact hK

/-- A lock is not held twice. -/
theorem Thread.Orderly.not_mem {T : Thread L} (h : T.Orderly rank) {m : L} {rest : List L}
    (heq : T.held = m :: rest) : m ∉ rest := by
  have hs := h.stack.sorted
  rw [Thread.held] at heq
  rw [heq] at hs
  intro hm
  exact lt_irrefl _ ((List.pairwise_cons.mp hs).1 m hm)

/-- The end of what is in a frame. -/
theorem Thread.leave_orderly {e : Exit} {F : Frame L} {K : List (Frame L)}
    (h : (⟨.exit e, F :: K⟩ : Thread L).Orderly rank) :
    (leave e K F).2.Orderly rank ∧
      (leave e K F).1.Moves rank (locksOf (F :: K)) (leave e K F).2.held := by
  obtain ⟨-, hF, hK⟩ := h
  have hdone (e : Exit) : (⟨.exit e, K⟩ : Thread L).Orderly rank := ⟨trivial, hK⟩
  cases F with
  | seq d =>
    rw [leave]
    split
    · exact ⟨⟨hF, hK⟩, rfl⟩
    · exact ⟨hdone e, rfl⟩
  | loop c =>
    cases e with
    | next | cont => exact ⟨⟨hF, hK⟩, rfl⟩
    | brk | ret | throw => exact ⟨hdone _, rfl⟩
  | call => exact ⟨hdone _, rfl⟩
  | attempt d =>
    rw [leave]
    split
    · exact ⟨⟨hF, hK⟩, rfl⟩
    · exact ⟨hdone e, rfl⟩
  | ensure d => exact ⟨⟨hF, trivial, hK⟩, rfl⟩
  | ending e' => exact ⟨hdone _, rfl⟩
  | locked m => exact ⟨hdone e, rfl⟩
  | unlocked m =>
    obtain ⟨rest, hrest⟩ := hF
    have habove := hK.sorted
    rw [hrest] at habove
    refine ⟨hdone e, ?_, ?_⟩
    · rw [locksOf, hrest]
      exact (List.pairwise_cons.mp habove).1
    · change locksOf K = m :: (locksOf K).tail
      rw [hrest, List.tail_cons]

/-- **A step of a thread**: it stays orderly, and a lock that it takes ranks above those it has. -/
theorem Thread.next_orderly {T T' : Thread L} {b : Bool} {eff : Effect L} (h : T.Orderly rank)
    (hn : T.next b = some (eff, T')) : T'.Orderly rank ∧ eff.Moves rank T.held T'.held := by
  obtain ⟨code, K⟩ := T
  obtain ⟨hc, hK⟩ := h
  cases code with
  | exit e =>
    cases K with
    | nil =>
      rw [next] at hn
      split at hn
      · cases hn
        exact ⟨⟨hc, hK⟩, trivial⟩
      · cases hn
    | cons F K =>
      obtain ⟨rfl, rfl⟩ := Prod.mk.inj (Option.some.inj hn)
      exact leave_orderly ⟨hc, hK⟩
  | seq c d =>
    cases hn
    exact ⟨⟨hc.1, hc.2, hK⟩, rfl⟩
  | either c d =>
    cases hn
    refine ⟨⟨?_, hK⟩, rfl⟩
    cases b
    · exact hc.2
    · exact hc.1
  | loop c =>
    cases hn
    exact ⟨⟨hc, hc, hK⟩, rfl⟩
  | call c =>
    cases hn
    exact ⟨⟨hc, trivial, hK⟩, rfl⟩
  | attempt c d =>
    cases hn
    exact ⟨⟨hc.1, hc.2, hK⟩, rfl⟩
  | ensure c d =>
    cases hn
    exact ⟨⟨hc.1, hc.2, hK⟩, rfl⟩
  | locked m c =>
    cases hn
    exact ⟨⟨hc.2, hc.1, hK⟩, hc.1, rfl⟩
  | unlocked m c =>
    cases hn
    obtain ⟨rest, hrest, hc⟩ := hc
    have hheld : locksOf (.unlocked m :: K) = rest := by
      change locksOf K = m :: rest at hrest
      rw [locksOf, hrest, List.tail_cons]
    refine ⟨⟨?_, ⟨rest, hrest⟩, hK⟩, ?_⟩
    · rw [held, hheld]
      exact hc
    · rw [Effect.Moves, held, held, hheld]
      exact hrest
  | abort =>
    cases hn
    exact ⟨⟨hc, hK⟩, trivial⟩

/-- The lock that a thread wants ranks above those it has. -/
theorem Thread.Orderly.wants_above {T : Thread L} (h : T.Orderly rank) {m : L}
    (hw : T.wants = some m) : Above rank T.held m := by
  obtain ⟨T', hn⟩ := (wants_iff true).mp hw
  exact (next_orderly h hn).2.1

/-! ### The system -/

namespace Locks

variable {s s' : Locks L}

theorem orderly_init {start : Nat → Code L} (h : ∀ t, (start t).Orderly rank []) :
    Orderly rank ⟨fun t => ⟨start t, []⟩, fun _ => none⟩ where
  thread t := ⟨h t, trivial⟩
  holder m t := by simp [Thread.held, Thread.locksOf]

theorem orderly_ended : Orderly rank (ended : Locks L) :=
  orderly_init fun _ => Code.orderly_exit _

variable [DecidableEq L]

omit [DecidableEq L] in
/-- Where the threads and the holders have changed. -/
theorem Orderly.update (h : s.Orderly rank) {t : Nat} {T : Thread L} {holder : L → Option Nat}
    (hT : T.Orderly rank) (hmine : ∀ m, holder m = some t ↔ m ∈ T.held)
    (hothers : ∀ m u, u ≠ t → (holder m = some u ↔ s.holder m = some u)) :
    Orderly rank ⟨Function.update s.thread t T, holder⟩ := by
  constructor
  · intro u
    by_cases hu : u = t
    · subst hu
      simpa using hT
    · simpa [hu] using h.thread u
  · intro m u
    by_cases hu : u = t
    · subst hu
      simpa using hmine m
    · simpa [hu] using (hothers m u hu).trans (h.holder m u)

/-- **Every step** keeps the threads orderly. -/
theorem Orderly.step {l : Nat × Bool} (h : s.Orderly rank) (hs : Locks.step l s = some s') :
    s'.Orderly rank := by
  obtain ⟨t, b⟩ := l
  unfold Locks.step at hs
  cases hn : (s.thread t).next b with
  | none =>
    rw [hn] at hs
    cases hs
  | some r =>
    obtain ⟨eff, T⟩ := r
    obtain ⟨hT, hmoves⟩ := Thread.next_orderly (h.thread t) hn
    rw [hn] at hs
    cases eff with
    | none =>
      cases hs
      refine h.update hT (fun m => ?_) fun _ _ _ => Iff.rfl
      rw [show T.held = (s.thread t).held from hmoves]
      exact h.holder m t
    | acquire m =>
      obtain ⟨-, hheld⟩ := hmoves
      simp only at hs
      split at hs
      · rename_i hfree
        cases hs
        refine h.update hT (fun k => ?_) fun k u hu => ?_
        · by_cases hk : k = m
          · simp [hk, hheld]
          · simp [hk, hheld, h.holder k t]
        · by_cases hk : k = m
          · simp [hk, hfree, hu.symm]
          · simp [hk]
      · cases hs
    | release m =>
      cases hs
      have hheld : (s.thread t).held = m :: T.held := hmoves
      have hmine : s.holder m = some t := (h.holder m t).mpr (by simp [hheld])
      refine h.update hT (fun k => ?_) fun k u hu => ?_
      · by_cases hk : k = m
        · simp [hk, (h.thread t).not_mem hheld]
        · simp [hk, h.holder k t, hheld]
      · by_cases hk : k = m
        · simp [hk, hmine, hu.symm]
        · simp [hk]
    | abort =>
      cases hs
      exact orderly_ended

/-- **Every reachable state** of orderly code. -/
theorem orderly_of_reach {start : Nat → Code L} (h : ∀ t, (start t).Orderly rank [])
    (hs : (locking start).Reach s) : s.Orderly rank := by
  refine hs.inv (I := Locks.Orderly rank) ?_ fun l _ _ hI hl => Orderly.step hI hl
  rintro _ rfl
  exact orderly_init h

omit [DecidableEq L] in
/-- Who waits for a thread that waits waits for a lock of lower rank. -/
theorem Orderly.waits_rank (h : s.Orderly rank) {t u v : Nat} {m m' : L} (hw : s.Waits t m u)
    (hw' : s.Waits u m' v) : rank m < rank m' :=
  (h.thread u).wants_above hw'.1 m ((h.holder m u).mp hw.2)

omit [DecidableEq L] in
/-- Among some of the waits there is one for a thread that has none of them. -/
theorem Orderly.exists_last_wait [Finite L] (h : s.Orderly rank) {P : Nat → L → Nat → Prop}
    (hP : ∀ t m u, P t m u → s.Waits t m u) {t u : Nat} {m : L} (hp : P t m u) :
    ∃ t m u, P t m u ∧ ∀ m' v, ¬ P u m' v := by
  have hne : {m | ∃ t u, P t m u}.Nonempty := ⟨m, t, u, hp⟩
  obtain ⟨m, ⟨t, u, hp⟩, hmax⟩ := Set.exists_max_image _ rank (Set.toFinite _) hne
  refine ⟨t, m, u, hp, fun m' v hp' => ?_⟩
  have hle : rank m' ≤ rank m := hmax m' ⟨u, v, hp'⟩
  have hlt : rank m < rank m' := h.waits_rank (hP t m u hp) (hP u m' v hp')
  omega

omit [DecidableEq L] in
/-- **No deadlock** among orderly threads. -/
theorem Orderly.not_deadlock [Finite L] (h : s.Orderly rank) (W : Set Nat) : ¬ s.Deadlock W := by
  rintro ⟨⟨t, ht⟩, hW⟩
  obtain ⟨m, u, hu, hw⟩ := hW t ht
  obtain ⟨-, -, u, ⟨hu, -⟩, hlast⟩ := h.exists_last_wait
    (P := fun t m u => u ∈ W ∧ s.Waits t m u) (fun _ _ _ hp => hp.2) ⟨hu, hw⟩
  obtain ⟨m', v, hv, hw'⟩ := hW u hu
  exact hlast m' v ⟨hv, hw'⟩

/-- **A thread that can go on**, whenever one waits. -/
theorem Orderly.exists_step [Finite L] (h : s.Orderly rank) {t u : Nat} {m : L}
    (hw : s.Waits t m u) : ∃ l s', Locks.step l s = some s' := by
  obtain ⟨t, m, u, hw, hlast⟩ := h.exists_last_wait (P := s.Waits) (fun _ _ _ hp => hp) hw
  have hheld : m ∈ (s.thread u).held := (h.holder m u).mp hw.2
  obtain ⟨⟨eff, T⟩, hn⟩ := Option.isSome_iff_exists.mp (Thread.next_isSome true hheld)
  refine ⟨(u, true), ?_⟩
  unfold Locks.step
  rw [hn]
  cases eff with
  | none | release | abort => exact ⟨_, rfl⟩
  | acquire m' =>
    have hfree : s.holder m' = none := by
      rw [Option.eq_none_iff_forall_ne_some]
      intro v hv
      exact hlast m' v ⟨(Thread.wants_iff true).mpr ⟨T, hn⟩, hv⟩
    exact ⟨_, if_pos hfree⟩

end Locks

end Order

end Interleave
