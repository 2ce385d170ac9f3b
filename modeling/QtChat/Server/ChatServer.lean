import QtChat.Server.ChatService
import QtChat.Wire.Packet

/-!
# ChatServer: the receive loop

`ChatServer::onMessage` on the buffer of a connection, and the bytes that `ChatService::sendJson`
writes. The loop is written for any effect of handling a body: with `ChatService.handleMsg` it is
the server, with a list that is appended to it tells which bodies are dispatched.

`receive_eq`: fed with chunks, the loop handles the bodies that the decoder of the format
(`packets.feed`) finds in them, one by one, in order.
-/

namespace QtChat

open Framing

/-- `htonl` and `ntohl`, which do the same. -/
def htonl : Endian → UInt32 → UInt32
  | .little, n => byteSwap n
  | .big, n => n

def ntohl (e : Endian) (n : UInt32) : UInt32 := htonl e n

theorem store_htonl (e : Endian) (n : UInt32) : e.store (htonl e n) = Endian.store .big n := by
  cases e
  · exact store_byteSwap n
  · rfl

theorem ntohl_load (e : Endian) {s : Str} (h : 4 ≤ s.length) :
    ntohl e (e.load s) = Endian.load .big s := by
  cases e
  · exact byteSwap_load h
  · rfl

/-- The packet that `ChatService::sendJson` makes of a body. -/
def ChatService.packetOf (e : Endian) (body : Str) : Str :=
  e.store (htonl e (.ofNat body.length)) ++ body

theorem ChatService.packetOf_eq (e : Endian) : ChatService.packetOf e = packet := by
  funext body
  rw [packetOf, store_htonl, packet]

namespace ChatServer

variable {m : Type → Type} [Monad m]

/-- `ChatServer::onMessage`: what it leaves in the buffer. -/
def onMessage (e : Endian) (handle : Str → m Unit) (buffer : Str) : m Str :=
  if 4 ≤ buffer.length then
    if ntohl e (e.load buffer) > 1024 * 1024 ∨ ntohl e (e.load buffer) = 0 then pure []
    else if buffer.length < (4 + ntohl e (e.load buffer)).toNat then pure buffer
    else do
      handle ((buffer.drop 4).take (ntohl e (e.load buffer)).toNat)
      onMessage e handle ((buffer.drop 4).drop (ntohl e (e.load buffer)).toNat)
  else pure buffer
termination_by buffer.length
decreasing_by simp only [List.length_drop]; omega

/-- The chunks that arrive on a connection, one call of `onMessage` each. -/
def receive (e : Endian) (handle : Str → m Unit) : Str → List Str → m Str
  | buffer, [] => pure buffer
  | buffer, chunk :: chunks => do
    let buffer ← onMessage e handle (buffer ++ chunk)
    receive e handle buffer chunks

variable [LawfulMonad m] (e : Endian) (handle : Str → m Unit)

/-- One call handles what the decoder takes from the buffer. -/
theorem onMessage_eq (buffer : Str) : onMessage e handle buffer =
    (packets.drain buffer).1.forM handle >>= fun _ => pure (packets.drain buffer).2 := by
  induction hn : buffer.length using Nat.strongRecOn generalizing buffer with
  | ind n ih =>
    have hf : packets.front buffer = packetFront buffer := rfl
    rw [onMessage]
    split
    · rename_i h4
      rw [packetFront, if_neg (by omega), ← ntohl_load e h4] at hf
      split
      · rename_i hb
        rw [if_pos (badLength_iff.mp hb)] at hf
        simp [packets.drain_bad hf]
      · rename_i hb
        rw [badLength_iff] at hb
        rw [if_neg hb] at hf
        rw [toNat_four_add (by omega)]
        split
        · rename_i hl
          rw [if_pos hl] at hf
          simp [packets.drain_more hf]
        · rename_i hl
          rw [if_neg hl, ← List.drop_drop] at hf
          rw [packets.drain_frame hf, ih _ (by rw [← hn]; exact packets.rest_length hf) _ rfl]
          simp [List.forM_cons]
    · rename_i h4
      rw [packetFront, if_pos (by omega)] at hf
      simp [packets.drain_more hf]

/-- The calls for all chunks handle what the decoder takes from them. -/
theorem receive_eq (buffer : Str) (chunks : List Str) : receive e handle buffer chunks =
    (packets.feed buffer chunks).1.forM handle >>= fun _ =>
      pure (packets.feed buffer chunks).2 := by
  induction chunks generalizing buffer with
  | nil => simp [receive, Decoder.feed]
  | cons chunk chunks ih =>
    rw [receive, onMessage_eq]
    simp [ih, Decoder.feed, List.forM_append]

/-- A body that is valid JSON is noted. -/
def record (P : JsonParser) (b : Str) : StateM (List Str) Unit :=
  if (P.parse b).isSome then modify (· ++ [b]) else pure ()

/-- The bodies that the server dispatches for these chunks. -/
def dispatched (P : JsonParser) (e : Endian) (chunks : List Str) : List Str :=
  ((receive e (record P) [] chunks).run []).2

theorem run_forM_record (P : JsonParser) (bodies seen : List Str) :
    ((bodies.forM (record P)).run seen).2 = seen ++ bodies.filter fun b => (P.parse b).isSome := by
  induction bodies generalizing seen with
  | nil => exact (List.append_nil seen).symm
  | cons b bodies ih =>
    have hc : ((b :: bodies).forM (record P)).run seen =
        (bodies.forM (record P)).run ((record P b).run seen).2 := rfl
    rw [hc, ih]
    cases h : (P.parse b).isSome with
    | false =>
      have hr : (record P b).run seen = ((), seen) := by simp only [record, h]; rfl
      simp [hr, h]
    | true =>
      have hr : (record P b).run seen = ((), seen ++ [b]) := by simp only [record, h]; rfl
      simp [hr, h]

theorem dispatched_eq (P : JsonParser) (e : Endian) (chunks : List Str) :
    dispatched P e chunks = (packets.feed [] chunks).1.filter fun b => (P.parse b).isSome := by
  rw [dispatched, receive_eq]
  exact run_forM_record P (packets.feed [] chunks).1 []

end ChatServer

end QtChat
