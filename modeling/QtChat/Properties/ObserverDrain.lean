import QtChat.Redis.Observer

/-!
# What the observer thread leaves in the reader

`observer_channel_message` takes one reply for each return of `poll`, and `redisGetReply` may have
read many. No reply is lost or passed on twice (`PassesOn.order`), but those behind the first stay
in the reader until the socket is readable again.

- `PassesOn`: every message is passed on once and in order, and nothing is left when the thread
  waits.
- `AtMostOne`: a step that reads the socket finds at most one complete reply.
- `observer_passes_on_iff`: the one holds all along a run exactly if the other does.
-/

namespace QtChat

open Framing Interleave

variable (H : Hiredis)

/-- The calls of the handler that a stream stands for. -/
def notifyCallsOf (stream : Str) : List (Int × Str) := (Observer.start stream).pending H

/-- The observer keeps up with the `stream`. -/
structure PassesOn (stream : Str) (s : Observer) : Prop where
  /-- What was passed on, and what is to come, are the messages in order and once each. -/
  order : s.notified ++ s.pending H = notifyCallsOf H stream
  /-- In `poll` with nothing on the socket, no complete reply is in the reader. -/
  drained : s.pc = .poll → s.socket = [] → ∀ body rest, H.resp.front s.reader ≠ .frame body rest
  /-- When all has arrived and the thread waits, all was passed on. -/
  every : s.pc = .poll → s.socket = [] → s.incoming = [] → s.notified = notifyCallsOf H stream

/-- A step that reads the socket has at most one complete reply in the reader then. -/
def AtMostOne : ObserverLabel → Observer → Prop
  | .readable, s => (H.resp.drain (s.reader ++ s.socket)).1.length ≤ 1
  | .resume, s => (H.resp.drain (s.reader ++ s.socket)).1.length ≤ 1
  | _, _ => True

/-- What holds as long as the observer keeps up. -/
structure KeepsUp (stream : Str) (s : Observer) : Prop where
  order : s.notified ++ s.pending H = notifyCallsOf H stream
  drained : s.pc ≠ .freed → ∀ body rest, H.resp.front s.reader ≠ .frame body rest

variable {H} {stream : Str} {s s' : Observer}

theorem KeepsUp.passesOn (h : KeepsUp H stream s) : PassesOn H stream s where
  order := h.order
  drained := fun hp _ => h.drained (by rw [hp]; decide)
  every := fun hp hs hi => by
    have hd : (H.resp.drain s.reader).1 = [] :=
      Decoder.drain_nil (h.drained (by rw [hp]; decide))
    have hpend : s.pending H = [] := by
      rw [Observer.pending, hs, hi, List.append_nil, List.append_nil, hd]
      rfl
    have := h.order
    rwa [hpend, List.append_nil] at this

theorem KeepsUp.start : KeepsUp H stream (.start stream) := by
  refine ⟨rfl, fun _ body rest hf => ?_⟩
  change H.resp.front [] = _ at hf
  rw [H.resp.nil] at hf
  cases hf

/-- A reply that is handled leaves the list of those to come. -/
theorem pending_handle {body rest : Str} (hf : H.resp.front s.reader = .frame body rest)
    (h : s.handle H body rest = some s') :
    s'.notified ++ s'.pending H = s.notified ++ s.pending H ∧ s'.pc = .poll ∧ s'.reader = rest ∧
      s'.socket = s.socket := by
  have hd : s.pending H = (notifyCall (H.reply body)).toList ++
      ((H.resp.drain (rest ++ s.socket ++ s.incoming)).1.map H.reply).filterMap notifyCall := by
    rw [Observer.pending, List.append_assoc, Decoder.drain_append hf, ← List.append_assoc,
      List.map_cons]
    cases hm : notifyCall (H.reply body) with
    | none => rw [List.filterMap_cons_none hm]; rfl
    | some m => rw [List.filterMap_cons_some hm]; rfl
  unfold Observer.handle at h
  split at h
  · rename_i hu
    cases h
    refine ⟨?_, rfl, rfl, rfl⟩
    rw [hd, notifyCall, hu]
    rfl
  · rename_i channel message hu
    cases h
    refine ⟨?_, rfl, rfl, rfl⟩
    rw [hd, notifyCall, hu, Option.toList_some, List.append_assoc]
    rfl
  · cases h

/-- **The reply that is taken** is the last one in the reader exactly if there was at most one. -/
theorem takeReply_keeps (hs : s.socket = []) (ho : s.notified ++ s.pending H = notifyCallsOf H stream)
    (h : s.takeReply H = some s') :
    ((H.resp.drain s.reader).1.length ≤ 1 → KeepsUp H stream s') ∧
      (PassesOn H stream s' → (H.resp.drain s.reader).1.length ≤ 1) := by
  unfold Observer.takeReply at h
  split at h
  · rename_i body rest hf
    obtain ⟨hpend, hpc, hrest, hsocket⟩ := pending_handle hf h
    have hlen : (H.resp.drain s.reader).1.length = (H.resp.drain rest).1.length + 1 := by
      rw [H.resp.drain_frame hf, List.length_cons]
    constructor
    · intro hle
      refine ⟨hpend.trans ho, fun _ b r hb => ?_⟩
      rw [hrest] at hb
      rw [H.resp.drain_frame hb, List.length_cons] at hlen
      omega
    · intro hp
      have hd := hp.drained hpc (hsocket.trans hs)
      rw [hrest] at hd
      rw [hlen, Decoder.drain_nil hd]
      exact Nat.le_refl 1
  · rename_i hf
    cases h
    have hzero : (H.resp.drain s.reader).1.length = 0 := by rw [H.resp.drain_bad hf]; rfl
    exact ⟨fun _ => ⟨ho, fun hn => absurd rfl hn⟩, fun _ => by omega⟩
  · rename_i hf
    cases h
    have hzero : (H.resp.drain s.reader).1.length = 0 := by rw [H.resp.drain_more hf]; rfl
    refine ⟨fun _ => ⟨ho, fun _ body rest hb => ?_⟩, fun _ => by omega⟩
    change H.resp.front s.reader = _ at hb
    rw [hf] at hb
    cases hb

/-- A read of the socket. -/
theorem bufferRead_keeps (h : KeepsUp H stream s) (ht : s.bufferRead.takeReply H = some s') :
    ((H.resp.drain (s.reader ++ s.socket)).1.length ≤ 1 → KeepsUp H stream s') ∧
      (PassesOn H stream s' → (H.resp.drain (s.reader ++ s.socket)).1.length ≤ 1) := by
  have ho : s.bufferRead.notified ++ s.bufferRead.pending H = notifyCallsOf H stream := by
    have hsame : s.bufferRead.pending H = s.pending H := by
      simp only [Observer.pending, Observer.bufferRead, List.append_nil]
    rw [hsame]
    exact h.order
  exact takeReply_keeps rfl ho ht

/-- **One step** keeps up exactly if it finds at most one reply. -/
theorem step_keeps (l : ObserverLabel) (h : KeepsUp H stream s) (hl : s.step H l = some s') :
    (AtMostOne H l s → KeepsUp H stream s') ∧ (PassesOn H stream s' → AtMostOne H l s) := by
  cases l with
  | arrive n =>
    rw [Observer.step] at hl
    split at hl
    · cases hl
      refine ⟨fun _ => ⟨?_, h.drained⟩, fun _ => trivial⟩
      have hsame : s.reader ++ (s.socket ++ s.incoming.take n) ++ s.incoming.drop n =
          s.reader ++ s.socket ++ s.incoming := by
        rw [List.append_assoc, List.append_assoc, List.append_assoc, List.take_append_drop]
      have ho := h.order
      rw [Observer.pending] at ho ⊢
      change s.notified ++ ((H.resp.drain (s.reader ++ (s.socket ++ s.incoming.take n) ++
        s.incoming.drop n)).1.map H.reply).filterMap notifyCall = _
      rw [hsame]
      exact ho
    · cases hl
  | timeout =>
    rw [Observer.step] at hl
    split at hl
    · cases hl
      exact ⟨fun _ => h, fun _ => trivial⟩
    · cases hl
  | readable =>
    rw [Observer.step] at hl
    split at hl
    · rename_i hc
      rw [Observer.redisGetReply] at hl
      split at hl
      · exact bufferRead_keeps h hl
      · rename_i hnot
        -- no reply is left in the reader, so there are bytes that are none
        have hbad : H.resp.front s.reader = .bad := by
          cases hf : H.resp.front s.reader with
          | more => exact absurd hf hnot
          | bad => rfl
          | frame body rest => exact absurd hf (h.drained (by rw [hc.1]; decide) body rest)
        have hzero : (H.resp.drain (s.reader ++ s.socket)).1.length = 0 := by
          rw [H.resp.drain_bad (H.resp.bad_append hbad _)]
          rfl
        rw [Observer.takeReply, hbad] at hl
        cases hl
        refine ⟨fun _ => ⟨h.order, fun hn => absurd rfl hn⟩, fun _ => ?_⟩
        change (H.resp.drain (s.reader ++ s.socket)).1.length ≤ 1
        omega
    · cases hl
  | resume =>
    rw [Observer.step] at hl
    split at hl
    · exact bufferRead_keeps h hl
    · cases hl

/-- **The observer and the way replies are packed.** For every stream of Redis and every cut of it
into segments: all along a run every message is passed on once and in order, with none left in the
reader while the thread waits, exactly if no read of the socket finds more than one reply. -/
theorem observer_passes_on_iff (H : Hiredis) (stream : Str) (ls : List ObserverLabel) (s : Observer)
    (hr : (observer H stream).runs ls (.start stream) = some s) :
    (∀ s', (observer H stream).Passes ls (.start stream) s' → PassesOn H stream s') ↔
      ∀ l s', (observer H stream).Takes ls (.start stream) l s' → AtMostOne H l s' :=
  Machine.passes_iff_takes (M := observer H stream) (G := KeepsUp H stream)
    (P := PassesOn H stream) (Q := AtMostOne H) (fun _ h => h.passesOn)
    (fun l _ _ h hl => step_keeps l h hl) .start hr

/-- Two pushes on channel 5, as Redis writes them. -/
def pushA : Str := txt "*3\r\n$7\r\nmessage\r\n$1\r\n5\r\n$1\r\na\r\n"
def pushB : Str := txt "*3\r\n$7\r\nmessage\r\n$1\r\n5\r\n$1\r\nb\r\n"

/-- The reply that such a push is parsed to. -/
def pushReply (message : Str) : RedisReply :=
  .mk .array none [some (.mk .string (some (txt "message")) []),
    some (.mk .string (some (txt "5")) []), some (.mk .string (some message) [])]

def hiredisOfPushes : Hiredis where
  resp := .ofWords [pushA, pushB] (by decide) (by decide)
  reply body := pushReply (if body = pushA then txt "a" else txt "b")

example : upshot (pushReply (txt "a")) = .notify 5 (txt "a") := by decide

/-- One push after the other is passed on. -/
theorem observer_passes_on_two : ∃ s : Observer, s.notified = [(5, txt "a"), (5, txt "b")] ∧
    ((∀ s', (observer hiredisOfPushes (pushA ++ pushB)).Passes
        [.arrive pushA.length, .readable, .arrive pushB.length, .readable]
        (.start (pushA ++ pushB)) s' → PassesOn hiredisOfPushes (pushA ++ pushB) s') ↔
      ∀ l s', (observer hiredisOfPushes (pushA ++ pushB)).Takes
        [.arrive pushA.length, .readable, .arrive pushB.length, .readable]
        (.start (pushA ++ pushB)) l s' → AtMostOne hiredisOfPushes l s') := by
  have h : ((observer hiredisOfPushes (pushA ++ pushB)).runs
      [.arrive pushA.length, .readable, .arrive pushB.length, .readable]
      (.start (pushA ++ pushB))).map Observer.notified = some [(5, txt "a"), (5, txt "b")] := by
    decide
  obtain ⟨s, hs, hf⟩ := Option.map_eq_some_iff.mp h
  exact ⟨s, hf, observer_passes_on_iff hiredisOfPushes (pushA ++ pushB) _ s hs⟩

/-- Both pushes in one segment: the second one stays in the reader. -/
theorem observer_leaves_one : ¬ ∀ (H : Hiredis) (stream : Str) (ls : List ObserverLabel)
    (s : Observer), (observer H stream).runs ls (.start stream) = some s → PassesOn H stream s := by
  intro hall
  have h : ((observer hiredisOfPushes (pushA ++ pushB)).runs
      [.arrive (pushA ++ pushB).length, .readable] (.start (pushA ++ pushB))).map
        (fun s : Observer => (s.pc, s.socket, s.reader)) = some (.poll, [], pushB) := by
    decide
  obtain ⟨s, hs, hf⟩ := Option.map_eq_some_iff.mp h
  simp only [Prod.mk.injEq] at hf
  have hone : hiredisOfPushes.resp.front pushB = .frame pushB [] := by decide
  refine (hall hiredisOfPushes (pushA ++ pushB) _ s hs).drained hf.1 hf.2.1 pushB [] ?_
  rw [hf.2.2]
  exact hone

end QtChat
