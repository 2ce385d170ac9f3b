import QtChat.Interleave.Machine
import QtChat.Server.Frames

/-!
# The running system

Chat servers that start, get connections and frames, exit or die, with one MySQL and one Redis. A
handler is a job of a thread: it may run alone from its first action to its last (`whole`), or be
spawned and interleave with all others action by action (`spawn`, `act`). What clients, the network
and Redis do is the choice of labels.

The observer thread exists only if both Redis connections were made at the start; only the
subscriber connection is ever made again (`resubscribe`).
-/

namespace QtChat

open Interleave ChatService

/-- What a thread of a server has to do. -/
inductive Job where
  /-- A body that `onMessage` found in the buffer of the connection. -/
  | frame (conn : ConnId) (body : Str)
  /-- The connection is down. -/
  | close (conn : ConnId)
  /-- The next message that Redis has pushed. -/
  | redis
  /-- The timer of `startHeartbeatCheck`. -/
  | check
  deriving DecidableEq

/-- The program of a job on server `i`, and the world when it begins. -/
def Job.begin (P : JsonParser) (i : ServerId) (w : World) : Job → Option (Serv Unit × World)
  | .frame conn body =>
    if (w.servers i).running ∧ (w.servers i).conns conn ≠ .disconnected ∧ body ≠ [] ∧
        body.length ≤ 1024 * 1024 then
      some (handleMsg P conn body, w)
    else none
  | .close conn =>
    if (w.servers i).running ∧ (w.servers i).conns conn ≠ .disconnected then
      some (clientCloseException conn,
        w.modify i fun s => { s with conns := Function.update s.conns conn .disconnected })
    else none
  | .redis =>
    match (w.servers i).inbox with
    | [] => none
    | (ch, message) :: inbox =>
      if (w.servers i).running ∧ (w.servers i).observer then
        some (handleRedisSubscribeMessage P ch message, w.modify i fun s => { s with inbox })
      else none
  | .check => if (w.servers i).running then some (checkHeartbeat, w) else none

/-- A server process that starts; `redis`: whether it gets its two connections to Redis. -/
def Server.started (redis : Bool) : Server :=
  { Server.stopped with running := true, publishContext := redis, subscribeContext := redis,
                        observer := redis }

/-- The worlds and the threads that are in the middle of a job. -/
structure Sys where
  world : World
  threads : Nat → Option (ServerId × Serv Unit)

inductive Label where
  | start (i : ServerId) (redis : Bool)
  | connect (i : ServerId) (conn : ConnId)
  /-- The job from its begin to its end. -/
  | whole (i : ServerId) (job : Job)
  | spawn (t : Nat) (i : ServerId) (job : Job)
  /-- The next action of the thread. -/
  | act (t : Nat)
  | tick (seconds : Nat)
  | publishLost (i : ServerId)
  | subscribeLost (i : ServerId)
  | resubscribe (i : ServerId)
  /-- The server leaves its event loop and resets the states. -/
  | exit (i : ServerId)
  | crash (i : ServerId)
  deriving DecidableEq

namespace Sys

/-- The threads without those of server `i`. -/
def dropThreads (i : ServerId) (threads : Nat → Option (ServerId × Serv Unit)) :
    Nat → Option (ServerId × Serv Unit) :=
  fun t => (threads t).filter fun r => r.1 ≠ i

def step (P : JsonParser) : Label → Sys → Option Sys
  | .start i redis, s =>
    if (s.world.servers i).running then none
    else some { s with world := s.world.modify i fun _ => .started redis }
  | .connect i conn, s =>
    if (s.world.servers i).running ∧ (s.world.servers i).conns conn = .disconnected then
      some { s with world := s.world.modify i fun s =>
        { s with conns := Function.update s.conns conn .connected } }
    else none
  | .whole i job, s => (job.begin P i s.world).bind fun r =>
      (r.1.run i r.2).map fun r => { s with world := r.2 }
  | .spawn t i job, s =>
    if (s.threads t).isSome then none
    else (job.begin P i s.world).map fun r => ⟨r.2, Function.update s.threads t (some (i, r.1))⟩
  | .act t, s =>
    match s.threads t with
    | none => none
    | some (_, .ret _) => some { s with threads := Function.update s.threads t none }
    | some (i, .act a k) => (World.exec i a s.world).map fun r =>
        ⟨r.2, Function.update s.threads t (some (i, k r.1))⟩
  | .tick seconds, s => some { s with world := { s.world with now := s.world.now + seconds } }
  | .publishLost i, s =>
    some { s with world := s.world.modify i fun s => { s with publishContext := false } }
  | .subscribeLost i, s => some { s with world := s.world.modify i fun s =>
      { s with subscribeContext := false, live := fun _ => false } }
  | .resubscribe i, s =>
    if (s.world.servers i).observer ∧ ¬(s.world.servers i).subscribeContext then
      some { s with world := s.world.modify i fun s =>
        { s with subscribeContext := true, live := s.subscribedChannels } }
    else none
  | .exit i, s =>
    if (s.world.servers i).running then
      (reset.run i s.world).map fun r =>
        ⟨r.2.modify i fun _ => .stopped, dropThreads i s.threads⟩
    else none
  | .crash i, s => some ⟨s.world.modify i fun _ => .stopped, dropThreads i s.threads⟩

end Sys

/-- The world before the first server starts. -/
def World.created (collate : Str → Str) (fates : Nat → Fate) (now : Int) : World where
  db := .created collate
  servers _ := .stopped
  fates := fates
  now := now

/-- The system as a machine. -/
def system (P : JsonParser) : Machine where
  State := Sys
  Label := Label
  init s := ∃ collate fates now, s = ⟨.created collate fates now, fun _ => none⟩
  step := Sys.step P

/-- The first state, when MySQL works. -/
def Sys.initial : Sys := ⟨.created id (fun _ => ⟨true, 0⟩) 0, fun _ => none⟩

/-- The states of a run from the first state. -/
theorem reach_of_runs {P : JsonParser} {ls : List Label} {s : Sys}
    (h : (system P).runs ls Sys.initial = some s) : (system P).Reach s :=
  Machine.Reach.runs (.init ⟨id, fun _ => ⟨true, 0⟩, 0, rfl⟩) h

/-! ## What a step can do -/

/-- The ways a job begins. -/
inductive Job.Begins (P : JsonParser) (i : ServerId) (w : World) : Job → Serv Unit → World → Prop
  | frame {conn : ConnId} {body : Str} : (w.servers i).running = true →
      (w.servers i).conns conn ≠ .disconnected → body ≠ [] → body.length ≤ 1024 * 1024 →
      Begins P i w (.frame conn body) (handleMsg P conn body) w
  | close {conn : ConnId} : (w.servers i).running = true →
      (w.servers i).conns conn ≠ .disconnected →
      Begins P i w (.close conn) (clientCloseException conn)
        (w.modify i fun s => { s with conns := Function.update s.conns conn .disconnected })
  | redis {ch : Int} {message : Str} {inbox : List (Int × Str)} :
      (w.servers i).inbox = (ch, message) :: inbox → (w.servers i).running = true →
      (w.servers i).observer = true →
      Begins P i w .redis (handleRedisSubscribeMessage P ch message)
        (w.modify i fun s => { s with inbox })
  | check : (w.servers i).running = true → Begins P i w .check checkHeartbeat w

theorem Job.begins {P : JsonParser} {i : ServerId} {w w' : World} {job : Job} {p : Serv Unit}
    (h : job.begin P i w = some (p, w')) : job.Begins P i w p w' := by
  cases job with
  | frame conn body =>
    rw [begin] at h
    split at h
    · rename_i hc
      cases h
      exact .frame hc.1 hc.2.1 hc.2.2.1 hc.2.2.2
    · cases h
  | close conn =>
    rw [begin] at h
    split at h
    · rename_i hc
      cases h
      exact .close hc.1 hc.2
    · cases h
  | redis =>
    rw [begin] at h
    split at h
    · cases h
    · rename_i hin
      split at h
      · rename_i hc
        cases h
        exact .redis hin hc.1 hc.2
      · cases h
  | check =>
    rw [begin] at h
    split at h
    · rename_i hc
      cases h
      exact .check hc
    · cases h

/-- The ways the system goes on from a state. -/
inductive Sys.Steps (P : JsonParser) (s : Sys) : Label → Sys → Prop
  | start {i : ServerId} {redis : Bool} : (s.world.servers i).running = false →
      Steps P s (.start i redis)
        ⟨s.world.modify i fun _ => .started redis, s.threads⟩
  | connect {i : ServerId} {conn : ConnId} : (s.world.servers i).running = true →
      (s.world.servers i).conns conn = .disconnected → Steps P s (.connect i conn)
        ⟨s.world.modify i fun s => { s with conns := Function.update s.conns conn .connected },
          s.threads⟩
  | whole {i : ServerId} {job : Job} {p : Serv Unit} {w w' : World} :
      job.Begins P i s.world p w → p.run i w = some ((), w') →
      Steps P s (.whole i job) ⟨w', s.threads⟩
  | spawn {t : Nat} {i : ServerId} {job : Job} {p : Serv Unit} {w : World} :
      s.threads t = none → job.Begins P i s.world p w →
      Steps P s (.spawn t i job) ⟨w, Function.update s.threads t (some (i, p))⟩
  /-- The thread is at its end. -/
  | done {t : Nat} {i : ServerId} {x : Unit} : s.threads t = some (i, .ret x) →
      Steps P s (.act t) ⟨s.world, Function.update s.threads t none⟩
  | act {t : Nat} {i : ServerId} {a : Act} {k : a.Res → Serv Unit} {r : a.Res} {w : World} :
      s.threads t = some (i, .act a k) → World.exec i a s.world = some (r, w) →
      Steps P s (.act t) ⟨w, Function.update s.threads t (some (i, k r))⟩
  | tick {seconds : Nat} : Steps P s (.tick seconds)
      ⟨{ s.world with now := s.world.now + seconds }, s.threads⟩
  | publishLost {i : ServerId} : Steps P s (.publishLost i)
      ⟨s.world.modify i fun s => { s with publishContext := false }, s.threads⟩
  | subscribeLost {i : ServerId} : Steps P s (.subscribeLost i)
      ⟨s.world.modify i fun s => { s with subscribeContext := false, live := fun _ => false },
        s.threads⟩
  | resubscribe {i : ServerId} : (s.world.servers i).observer = true →
      (s.world.servers i).subscribeContext = false → Steps P s (.resubscribe i)
        ⟨s.world.modify i fun s => { s with subscribeContext := true, live := s.subscribedChannels },
          s.threads⟩
  | exit {i : ServerId} {w : World} : (s.world.servers i).running = true →
      reset.run i s.world = some ((), w) →
      Steps P s (.exit i) ⟨w.modify i fun _ => .stopped, Sys.dropThreads i s.threads⟩
  | crash {i : ServerId} : Steps P s (.crash i)
      ⟨s.world.modify i fun _ => .stopped, Sys.dropThreads i s.threads⟩

/-- **Every step** is one of these. -/
theorem Sys.steps {P : JsonParser} {l : Label} {s s' : Sys} (h : Sys.step P l s = some s') :
    s.Steps P l s' := by
  cases l with
  | start i redis =>
    rw [step] at h
    split at h
    · cases h
    · rename_i hc
      cases h
      exact .start (by simpa using hc)
  | connect i conn =>
    rw [step] at h
    split at h
    · rename_i hc
      cases h
      exact .connect hc.1 hc.2
    · cases h
  | whole i job =>
    obtain ⟨⟨p, w⟩, hb, h⟩ := Option.bind_eq_some_iff.mp h
    obtain ⟨⟨⟨⟩, w'⟩, hr, rfl⟩ := Option.map_eq_some_iff.mp h
    exact .whole (Job.begins hb) hr
  | spawn t i job =>
    rw [step] at h
    split at h
    · cases h
    · rename_i ht
      obtain ⟨⟨p, w⟩, hb, rfl⟩ := Option.map_eq_some_iff.mp h
      exact .spawn (by simpa using ht) (Job.begins hb)
  | act t =>
    rw [step] at h
    split at h
    · cases h
    · rename_i ht
      cases h
      exact .done ht
    · rename_i ht
      obtain ⟨⟨r, w⟩, he, rfl⟩ := Option.map_eq_some_iff.mp h
      exact .act ht he
  | tick seconds => cases h; exact .tick
  | publishLost i => cases h; exact .publishLost
  | subscribeLost i => cases h; exact .subscribeLost
  | resubscribe i =>
    rw [step] at h
    split at h
    · rename_i hc
      cases h
      exact .resubscribe hc.1 (by simpa using hc.2)
    · cases h
  | exit i =>
    rw [step] at h
    split at h
    · rename_i hc
      obtain ⟨⟨⟨⟩, w⟩, hr, rfl⟩ := Option.map_eq_some_iff.mp h
      exact .exit hc hr
    · cases h
  | crash i => cases h; exact .crash

/-- A begin takes a connection or a message from its server and leaves the rest. -/
theorem Job.Begins.same {P : JsonParser} {i : ServerId} {w w' : World} {job : Job} {p : Serv Unit}
    (h : job.Begins P i w p w') : w'.db = w.db ∧ w'.fates = w.fates := by
  cases h <;> exact ⟨rfl, rfl⟩

theorem Job.Begins.running {P : JsonParser} {i : ServerId} {w w' : World} {job : Job}
    {p : Serv Unit} (h : job.Begins P i w p w') : (w.servers i).running = true := by
  cases h <;> assumption

/-- A field of the servers that is neither the connections nor the inbox. -/
theorem Job.Begins.field {P : JsonParser} {i : ServerId} {w w' : World} {job : Job} {p : Serv Unit}
    (h : job.Begins P i w p w') {β : Type} (g : Server → β)
    (hconns : ∀ s conns, g { s with conns } = g s) (hinbox : ∀ s inbox, g { s with inbox } = g s)
    (j : ServerId) : g (w'.servers j) = g (w.servers j) := by
  cases h with
  | close => exact World.modify_field g (hconns _ _) j
  | redis => exact World.modify_field g (hinbox _ _) j
  | _ => rfl

/-! ## What every step keeps -/

section Keep

variable {P : JsonParser} {K : World → Prop}
  (hexec : ∀ i a w r w', K w → World.exec i a w = some (r, w') → K w')
  (hrest : ∀ w w' : World, w'.db = w.db → w'.fates = w.fates → K w → K w')
include hexec

theorem run_keep {i : ServerId} {p : Serv Unit} {w w' : World} {x : Unit} (hw : K w)
    (h : p.run i w = some (x, w')) : K w' :=
  Prog.run_keep (I := K) (fun a w r w' => hexec i a w r w') hw h

include hrest

/-- What every action keeps and does not depend on the servers, every step keeps. -/
theorem step_keep {l : Label} {s s' : Sys} (hs : K s.world) (h : Sys.step P l s = some s') :
    K s'.world := by
  cases Sys.steps h with
  | whole hb hr => exact run_keep hexec (hrest _ _ hb.same.1 hb.same.2 hs) hr
  | spawn _ hb => exact hrest _ _ hb.same.1 hb.same.2 hs
  | done => exact hs
  | act _ he => exact hexec _ _ _ _ _ hs he
  | @exit i w _ hr => exact hrest w _ rfl rfl (run_keep hexec hs hr)
  | _ => exact hrest s.world _ rfl rfl hs

end Keep

/-- **What the tables satisfy after `CREATE TABLE` and every statement keeps**, they satisfy in
every reachable state. -/
theorem reach_db {P : JsonParser} {J : Database → Prop} (hinit : ∀ collate, J (.created collate))
    (hexec : ∀ db st r db', J db → Database.exec db st = some (r, db') → J db') {s : Sys}
    (h : (system P).Reach s) : J s.world.db := by
  refine h.inv (I := fun s : Sys => J s.world.db) ?_ fun l s s' hs hl =>
    step_keep (K := fun w => J w.db) (fun i a w r w' hw he => ?_)
      (fun w w' hd _ hw => by rw [hd]; exact hw) hs hl
  · rintro s ⟨collate, fates, now, rfl⟩
    exact hinit collate
  · rcases exec_db he with e | ⟨st, ans, rfl, hx⟩
    · rw [e]; exact hw
    · exact hexec _ _ _ _ hw hx

/-- A run from the first state in which MySQL works leaves it working. -/
theorem works_of_runs {P : JsonParser} {ls : List Label} {s : Sys}
    (h : (system P).runs ls Sys.initial = some s) : s.world.Works := by
  refine Machine.runs_keep (M := system P) (I := fun s : Sys => s.world.Works)
    (fun l s s' hs hl => step_keep (K := World.Works) (fun i a w r w' hw he => exec_works hw he)
      (fun w w' _ hf hw => by unfold World.Works; rw [hf]; exact hw) hs hl) ?_ h
  exact fun _ => rfl

end QtChat
