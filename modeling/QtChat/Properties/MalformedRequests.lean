import QtChat.Client.Requests
import QtChat.Server.Frames
import QtChat.Server.System
import QtChat.Server.Throwing
import QtChat.Properties.LoginSound

/-!
# Malformed requests

A body that is not JSON, whose fields are missing or have the wrong types, changes nothing but the
time of its connection.

- `onBody_trace`: with its exceptions the handling of a body does what `handleMsg` says.
- `malformed_harmless`: what is left behind when it does not get to its end.
-/

namespace QtChat

open Interleave ChatService Throwing

/-- The parser refuses strings that are not UTF-8. -/
def JsonParser.Strict (P : JsonParser) : Prop := ∀ b js, P.parse b = some js → js.utf8 = true

/-- The tables, and on every server the entries, the subscriptions and what Redis has pushed. -/
structure Unharmed (w w' : World) : Prop where
  db : w'.db = w.db
  entries : ∀ j, (w'.servers j).userConnMap = (w.servers j).userConnMap
  channels : ∀ j, (w'.servers j).subscribedChannels = (w.servers j).subscribedChannels
  live : ∀ j, (w'.servers j).live = (w.servers j).live
  inbox : ∀ j, (w'.servers j).inbox = (w.servers j).inbox

theorem Unharmed.refl (w : World) : Unharmed w w :=
  ⟨rfl, fun _ => rfl, fun _ => rfl, fun _ => rfl, fun _ => rfl⟩

theorem unharmed_noted (w : World) (i : ServerId) (conn : ConnId) : Unharmed w (w.noted i conn) where
  db := rfl
  entries := World.modify_field (·.userConnMap) rfl
  channels := World.modify_field (·.subscribedChannels) rfl
  live := World.modify_field (·.live) rfl
  inbox := World.modify_field (·.inbox) rfl

/-- A packet on a connection leaves the rest alone. -/
theorem Unharmed.send {w w' : World} (h : Unharmed w w') (i : ServerId) (conn : ConnId) (js : Json) :
    Unharmed w (w'.modify i (·.deliver conn js)) where
  db := h.db
  entries j := (World.modify_field (·.userConnMap) rfl j).trans (h.entries j)
  channels j := (World.modify_field (·.subscribedChannels) rfl j).trans (h.channels j)
  live j := (World.modify_field (·.live) rfl j).trans (h.live j)
  inbox j := (World.modify_field (·.inbox) rfl j).trans (h.inbox j)

section Trace

variable {P : JsonParser} (hP : P.Strict) {i : ServerId} {conn : ConnId} {msg : Str} {w w' : World}
  {o : Outcome} {h : List (Call chat)} (ht : (onBody P conn msg).trace i w = some (h, o, w'))
  (hA : ∀ c ∈ h, Utf8Answer c)
include hP ht hA

/-- How the handling of a body can end. -/
theorem onBody_cases :
    (P.parse msg = none ∧ h = [] ∧ w' = w ∧ o = .parseError) ∨
    ∃ js h', P.parse msg = some js ∧ h = ⟨.updateConnTime conn, ()⟩ :: h' ∧
      ((∃ e, ChatService.dispatch conn js = .error e ∧ h' = [] ∧ w' = w.noted i conn) ∨
      ∃ q, ChatService.dispatch conn js = .ok q ∧ q.trace i (w.noted i conn) = some (h', (), w') ∧
        (o = .handled ∨ h' = [] ∨ ∃ js, IsRefusal js ∧ h' = [⟨.send conn js, ()⟩])) := by
  rw [onBody] at ht
  cases hp : P.parse msg with
  | none =>
    rw [hp] at ht
    cases ht
    exact .inl ⟨rfl, rfl, rfl, rfl⟩
  | some js =>
    rw [hp] at ht
    obtain ⟨r₀, w₀, h', he, ht, rfl⟩ := Prog.trace_act ht
    cases he
    refine .inr ⟨js, h', rfl, rfl, ?_⟩
    change ((Throwing.dispatch conn js).run >>= _).trace i (w.noted i conn) = _ at ht
    obtain ⟨h₁, r, w₁, h₂, hd, ho, rfl⟩ := Prog.trace_bind ht
    have hres : h₂ = [] ∧ w' = w₁ ∧ ∀ o', r = .ok o' → o = o' := by
      cases r with
      | error e =>
        cases ho
        exact ⟨rfl, rfl, fun o' h => by cases h⟩
      | ok o' =>
        cases ho
        exact ⟨rfl, rfl, fun o' h => by cases h; rfl⟩
    obtain ⟨rfl, rfl, hres⟩ := hres
    rw [List.append_nil] at hA ⊢
    rcases (dispatch_meets (hP _ _ hp)).trace hd fun c hc => hA c (by simp [hc]) with
      ⟨e, he, -, hh, hw⟩ | ⟨q, hq, htr, hend⟩
    · exact .inl ⟨e, he, hh, hw⟩
    · refine .inr ⟨q, hq, htr, ?_⟩
      rcases hend with hend | ⟨-, hend⟩
      · exact .inl (hres _ hend)
      · exact .inr hend

/-- **With its exceptions** the handling of a body does what `handleMsg` says. -/
theorem onBody_trace : (handleMsg P conn msg).trace i w = some (h, (), w') := by
  rw [handleMsg]
  rcases onBody_cases hP ht hA with ⟨hp, rfl, rfl, -⟩ | ⟨js, h', hp, rfl, hend⟩
  · rw [hp]
    rfl
  · have hrun : (Request.run (ChatService.dispatch conn js)).trace i (w.noted i conn) =
        some (h', (), w') := by
      rcases hend with ⟨e, he, rfl, rfl⟩ | ⟨q, hq, htr, -⟩
      · rw [he]
        rfl
      · rw [hq]
        exact htr
    rw [hp]
    change Option.map _ ((Request.run (ChatService.dispatch conn js)).trace i (w.noted i conn)) = _
    rw [hrun]
    rfl

/-- **Malformed requests.** If the handling of a body ends in an exception or at a missing field,
then the tables, the entries, the subscriptions and what Redis has pushed are unchanged, nothing was
published, and at most one packet was sent: a refusal on the same connection. -/
theorem malformed_harmless (ho : o ≠ .handled) :
    Unharmed w w' ∧ (∀ c ∈ h, ∀ ch message, c.act ≠ .publish ch message) ∧
    ((∀ j, (w'.servers j).outbox = (w.servers j).outbox) ∨
      ∃ d : Delivery, d.conn = conn ∧ IsRefusal d.js ∧
        (w'.servers i).outbox = (w.servers i).outbox ++ [d] ∧
        ∀ j, j ≠ i → (w'.servers j).outbox = (w.servers j).outbox) := by
  have hnoted : ∀ j, ((w.noted i conn).servers j).outbox = (w.servers j).outbox :=
    World.modify_field (·.outbox) rfl
  have hquiet : w' = w.noted i conn → Unharmed w w' ∧
      ∀ j, (w'.servers j).outbox = (w.servers j).outbox := by
    rintro rfl
    exact ⟨unharmed_noted w i conn, hnoted⟩
  rcases onBody_cases hP ht hA with ⟨-, rfl, rfl, -⟩ | ⟨js, h', -, rfl, hend⟩
  · exact ⟨.refl w', by simp, .inl fun _ => rfl⟩
  · rcases hend with ⟨e, -, rfl, hw⟩ | ⟨q, -, htr, hend⟩
    · refine ⟨(hquiet hw).1, fun c hc => ?_, .inl (hquiet hw).2⟩
      rw [List.mem_singleton.mp hc]
      exact fun _ _ => nofun
    · rcases hend with rfl | rfl | ⟨ack, hack, rfl⟩
      · exact absurd rfl ho
      · -- no packet
        have hw : w' = w.noted i conn := (Prog.trace_evolves htr).eq_of_nil fun _ => rfl
        refine ⟨(hquiet hw).1, fun c hc => ?_, .inl (hquiet hw).2⟩
        rw [List.mem_singleton.mp hc]
        exact fun _ _ => nofun
      · obtain ⟨w₀, w₁, h₀, he, h₁⟩ := (Prog.trace_evolves htr).cons
        cases h₀.eq_of_nil fun _ => rfl
        cases he
        cases h₁.eq_of_nil fun _ => rfl
        refine ⟨(unharmed_noted w i conn).send i conn ack, ?_, .inr ⟨⟨conn, ack,
          ((w.noted i conn).servers i).conns conn = .connected⟩, rfl, hack, ?_, ?_⟩⟩
        · intro c hc ch message
          simp only [List.mem_cons, List.not_mem_nil, or_false] at hc
          rcases hc with rfl | rfl <;> nofun
        · rw [World.modify_self]
          exact congrArg (· ++ _) (hnoted i)
        · intro j hj
          rw [World.modify_ne _ hj]
          exact hnoted j

end Trace

/-- A login without its fields. -/
def bareLogin : Json := .object [EnMsgType.loginMsg.field]

/-- A message whose recipient is a string. -/
def mistypedChat : Json :=
  .object [EnMsgType.oneChatMsg.field, ("id", .int 1), ("toid", .str (txt "2")), ("msg", .str [])]

def malformedParser : JsonParser :=
  .ofDumps [ChatClient.reg (txt "ann") (txt "pw"), ChatClient.reg (txt "bob") (txt "pw"),
    ChatClient.login 1 (txt "pw"), ChatClient.login 2 (txt "pw"), bareLogin, mistypedChat]

/-- Two users register and log in. -/
def twoOnline : List Label :=
  [.start 0 true, .connect 0 1, .connect 0 2,
    .whole 0 (.frame 1 (ChatClient.reg (txt "ann") (txt "pw")).dump),
    .whole 0 (.frame 1 (ChatClient.reg (txt "bob") (txt "pw")).dump),
    .whole 0 (.frame 1 (ChatClient.login 1 (txt "pw")).dump),
    .whole 0 (.frame 2 (ChatClient.login 2 (txt "pw")).dump)]

/-- The first of them sends the message, which ends in an exception, and the login, which is refused.
-/
theorem malformed_harmless_online : ∃ (s : Sys) (e : JsonError) (w₁ w₂ : World),
    (system malformedParser).runs twoOnline Sys.initial = some s ∧
    ((s.world.servers 0).userConnMap.lookup 1 = some 1 ∧
      (s.world.servers 0).userConnMap.lookup 2 = some 2) ∧
    ((onBody malformedParser 1 mistypedChat.dump).trace (0 : ServerId) s.world =
        some ([⟨.updateConnTime 1, ()⟩], .exception e, w₁) ∧ Unharmed s.world w₁) ∧
    ((onBody malformedParser 1 bareLogin.dump).trace (0 : ServerId) s.world =
        some ([⟨.updateConnTime 1, ()⟩, ⟨.send 1 (loginError "invalid fields"), ()⟩], .missing, w₂) ∧
      Unharmed s.world w₂) := by
  have hstrict : malformedParser.Strict := by
    intro b js hp
    have hm : js ∈ _ := List.mem_of_find?_eq_some hp
    simp only [List.mem_cons, List.not_mem_nil, or_false] at hm
    rcases hm with rfl | rfl | rfl | rfl | rfl | rfl
    all_goals decide
  have h : ((system malformedParser).runs twoOnline Sys.initial).map (fun s : Sys =>
      ((s.world.servers 0).userConnMap.lookup 1, (s.world.servers 0).userConnMap.lookup 2)) =
      some (some 1, some 2) := by
    decide +kernel
  obtain ⟨s, hs, hf⟩ := Option.map_eq_some_iff.mp h
  have hchat : (onBody malformedParser 1 mistypedChat.dump).trace (0 : ServerId) s.world =
    some ([⟨.updateConnTime 1, ()⟩], .exception _, s.world.noted 0 1) := rfl
  have hlogin : (onBody malformedParser 1 bareLogin.dump).trace (0 : ServerId) s.world =
      some ([⟨.updateConnTime 1, ()⟩, ⟨.send 1 (loginError "invalid fields"), ()⟩], .missing,
        (s.world.noted 0 1).modify 0 (·.deliver 1 (loginError "invalid fields"))) := rfl
  refine ⟨s, _, _, _, hs, Prod.mk.inj hf, ⟨hchat, (malformed_harmless hstrict hchat ?_ nofun).1⟩,
    hlogin, (malformed_harmless hstrict hlogin ?_ nofun).1⟩
  · intro c hc
    rw [List.mem_singleton.mp hc]
    trivial
  · intro c hc
    simp only [List.mem_cons, List.not_mem_nil, or_false] at hc
    rcases hc with rfl | rfl <;> trivial

end QtChat
