import QtChat.Client.ChatClient
import QtChat.Server.ChatServer

/-!
# Framing between client and server

What the two receive loops make of a stream of packets that TCP cuts anywhere.

- `framing_round_trip`: the packets of either sender come out of either loop as their bodies, in
  order, whatever the cuts.
- `dispatched_invariant_iff`: at a bad header the server throws its buffer away and goes on, so what
  it dispatches after it depends on the cuts, unless no packet stands behind the header.
-/

namespace QtChat

open Framing ChatService

/-- A stream of packets, and an empty buffer: the bodies, and nothing left. -/
theorem feed_packets {bodies chunks : List Str}
    (hb : ∀ b ∈ bodies, 1 ≤ b.length ∧ b.length ≤ 1024 * 1024)
    (hs : chunks.flatten = (bodies.map packet).flatten) :
    packets.feed [] chunks = (bodies, []) := by
  refine Decoder.feed_more rfl ?_ rfl
  rw [List.nil_append, hs]
  exact frames_packets fun b h => ⟨List.ne_nil_of_length_pos (hb b h).1, (hb b h).2⟩

/-- Bodies framed by either sender and cut into any chunks: the server's loop handles exactly them,
the client's loop gives exactly those that are JSON to `handleMessage`. A body that is no JSON does
nothing at the server, one whose handler throws does what was done before the exception. -/
theorem framing_round_trip {bodies chunks : List Str} {e : Endian}
    (hb : ∀ b ∈ bodies, 1 ≤ b.length ∧ b.length ≤ 1024 * 1024)
    (hs : chunks.flatten = (bodies.map (ChatService.packetOf e)).flatten ∨
      chunks.flatten = (bodies.map (ChatClient.packetOf e)).flatten) (e' : Endian) :
    (∀ (m : Type → Type) [Monad m] [LawfulMonad m] (handle : Str → m Unit),
      ChatServer.receive e' handle [] chunks = bodies.forM handle >>= fun _ => pure []) ∧
    (∀ P conn b, (P.parse b = none → handleMsg P conn b = .ret ()) ∧
      ∀ js err, P.parse b = some js → dispatch conn js = .error err →
        handleMsg P conn b = updateConnTime conn) ∧
    ∀ fromJson (c : ChatClient), c.m_recvBuf = [] → ChatClient.receive e' fromJson c chunks =
      { c with handled := c.handled ++ (bodies.filterMap fromJson).map ChatClient.object } := by
  have hs' : chunks.flatten = (bodies.map packet).flatten := by
    rcases hs with hs | hs
    · rw [hs, ChatService.packetOf_eq]
    · rw [hs, ChatClient.packetOf_eq]
  refine ⟨fun m _ _ handle => ?_, fun P conn b => ⟨fun h => ?_, fun js err hj he => ?_⟩,
    fun fromJson c hc => ?_⟩
  · rw [ChatServer.receive_eq, feed_packets hb hs']
  · rw [handleMsg, h]
  · rw [handleMsg, hj]
    simp only [he]
    exact Interleave.Prog.bind_ret _
  · have hf : packets.Frames (c.m_recvBuf ++ chunks.flatten) bodies [] := by
      rw [hc, List.nil_append, hs']
      exact frames_packets fun b h => ⟨List.ne_nil_of_length_pos (hb b h).1, (hb b h).2⟩
    rw [ChatClient.receive_frames e' fromJson (by rw [hc]; rfl) hf rfl]
    unfold ChatClient.handleAll
    rw [← hc]

/-- Two packets in two chunks, cut inside the first length, for a server and a client. -/
theorem framing_round_trip_two :
    ChatServer.receive .little (handleMsg (.ofDumps []) 0) []
      [[0, 0, 0], [2, 123, 125, 0, 0, 0, 1, 120]] =
        ([txt "\x7b\x7d", txt "x"].forM (handleMsg (.ofDumps []) 0) >>= fun _ => pure []) :=
  (@framing_round_trip [txt "\x7b\x7d", txt "x"]
    [[0, 0, 0], [2, 123, 125, 0, 0, 0, 1, 120]] .little
    (by decide) (.inl (by decide)) .little).1 _ _

/-- **What the cuts of a stream can change.** All cuts dispatch the same bodies exactly if behind
the first bad header of the stream no packet stands whose body is JSON. -/
theorem dispatched_invariant_iff (P : JsonParser) (e : Endian) (stream : Str) :
    (∀ chunks chunks' : List Str, chunks.flatten = stream → chunks'.flatten = stream →
      ChatServer.dispatched P e chunks = ChatServer.dispatched P e chunks') ↔
    ∀ bodies rest, packets.Frames stream bodies rest → packets.front rest = .bad →
      ∀ k, 4 ≤ k → ∀ body more, packets.front (rest.drop k) = .frame body more →
        P.parse body = none := by
  simp only [ChatServer.dispatched_eq]
  refine (packets.cut_invariant_iff (fun b => (P.parse b).isSome) stream).trans ?_
  simp only [Decoder.NoneFrom, Option.isSome_eq_false_iff, Option.isNone_iff_eq_none]
  rfl

/-- A heartbeat behind a length of 0: dispatched if the length arrives alone, lost if not. -/
theorem dispatched_cut : ¬∀ (P : JsonParser) (e : Endian) (stream : Str)
    (chunks chunks' : List Str), chunks.flatten = stream → chunks'.flatten = stream →
      ChatServer.dispatched P e chunks = ChatServer.dispatched P e chunks' := by
  intro h
  have hbad : packets.front [0, 0, 0, 0] = .bad := by decide
  have hone : packets.front (packet (txt "\x7b\"msgid\":13\x7d")) =
      .frame (txt "\x7b\"msgid\":13\x7d") [] := by
    decide
  have := h (.ofDumps [.object [EnMsgType.heartbeatMsg.field]]) .little
    ([0, 0, 0, 0] ++ packet (txt "\x7b\"msgid\":13\x7d"))
    [[0, 0, 0, 0] ++ packet (txt "\x7b\"msgid\":13\x7d")]
    [[0, 0, 0, 0], packet (txt "\x7b\"msgid\":13\x7d")] rfl rfl
  rw [ChatServer.dispatched_eq, ChatServer.dispatched_eq] at this
  simp only [Decoder.feed, List.nil_append, packets.drain_bad (packets.bad_append hbad _),
    packets.drain_bad hbad, packets.drain_frame hone, packets.drain_more packets.nil,
    List.append_nil] at this
  revert this
  decide

end QtChat
