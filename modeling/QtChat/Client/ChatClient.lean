import QtChat.Server.Json
import QtChat.Wire.Packet

/-!
# ChatClient: the Qt client's receive loop

`ChatClient::onReadyRead`, and the bytes that `ChatClient::sendJson` writes. The state is the
receive buffer, whether the socket was aborted, and the objects given to `handleMessage` so far,
which does not touch the other two. `QJsonDocument::fromJson` is a parameter.
-/

namespace QtChat

open Framing

/-- `qToBigEndian<uint32_t>` and `qFromBigEndian<uint32_t>`, which do the same. -/
def qToBigEndian : Endian → UInt32 → UInt32
  | .little, n => byteSwap n
  | .big, n => n

def qFromBigEndian (e : Endian) (n : UInt32) : UInt32 := qToBigEndian e n

theorem store_qToBigEndian (e : Endian) (n : UInt32) :
    e.store (qToBigEndian e n) = Endian.store .big n := by
  cases e
  · exact store_byteSwap n
  · rfl

theorem qFromBigEndian_load (e : Endian) {s : Str} (h : 4 ≤ s.length) :
    qFromBigEndian e (e.load s) = Endian.load .big s := by
  cases e
  · exact byteSwap_load h
  · rfl

/-! ## Values in Qt -/

/-- `js[key]` of a `QJsonObject`; a missing member is undefined, which reads like null. -/
def Json.value (js : Json) (key : String) : Json := (js.get? key).getD .null

/-- An `int` has the value. -/
def fitsInt (z : Int) : Bool := -2 ^ 31 ≤ z && z < 2 ^ 31

/-- `QJsonValue::toInt()`: 0 for what is no `int`. -/
def Json.qtInt : Json → Int
  | .int z => if fitsInt z then z else 0
  | .float d => if fitsInt d.trunc ∧ d.text = decimal d.trunc ++ txt ".0" then d.trunc else 0
  | _ => 0

/-- `QJsonValue::toString()`. -/
def Json.qtString : Json → Str
  | .str s => s
  | _ => []

/-- `QJsonValue::toArray()`. -/
def Json.qtArray : Json → List Json
  | .arr xs => xs
  | _ => []

example : (Json.float ⟨txt "6.0", 6, by decide, by decide⟩).qtInt = 6 := by decide

/-! ## The receive loop -/

structure ChatClient where
  m_recvBuf : Str
  /-- `m_socket->abort()` was called. -/
  aborted : Bool
  /-- The calls of `handleMessage`. -/
  handled : List Json

namespace ChatClient

/-- The packet that `ChatClient::sendJson` makes of a body. -/
def packetOf (e : Endian) (body : Str) : Str :=
  e.store (qToBigEndian e (.ofNat body.length)) ++ body

theorem packetOf_eq (e : Endian) : packetOf e = packet := by
  funext body
  rw [packetOf, store_qToBigEndian, packet]

/-- `QJsonDocument::object`: the empty object for an array. -/
def object : Json → Json
  | .obj m => .obj m
  | _ => .obj []

def handleMessage (c : ChatClient) (obj : Json) : ChatClient :=
  { c with handled := c.handled ++ [obj] }

@[simp] theorem handleMessage_recvBuf (c : ChatClient) (obj : Json) :
    (c.handleMessage obj).m_recvBuf = c.m_recvBuf := rfl

/-- One body. -/
def handleBytes (fromJson : Str → Option Json) (c : ChatClient) (jsonBytes : Str) : ChatClient :=
  match fromJson jsonBytes with
  | none => c
  | some doc => c.handleMessage (object doc)

@[simp] theorem handleBytes_recvBuf (fromJson : Str → Option Json) (c : ChatClient) (b : Str) :
    (c.handleBytes fromJson b).m_recvBuf = c.m_recvBuf := by
  unfold handleBytes
  split <;> rfl

/-- The loop of `onReadyRead`. -/
def readLoop (e : Endian) (fromJson : Str → Option Json) (c : ChatClient) : ChatClient :=
  if 4 ≤ c.m_recvBuf.length then
    if _hb : qFromBigEndian e (e.load c.m_recvBuf) = 0 ∨
        qFromBigEndian e (e.load c.m_recvBuf) > 1024 * 1024 then
      { c with m_recvBuf := [], aborted := true }
    else if c.m_recvBuf.length < (4 + qFromBigEndian e (e.load c.m_recvBuf)).toNat then c
    else
      readLoop e fromJson (handleBytes fromJson
        { c with
          m_recvBuf := c.m_recvBuf.drop (4 + qFromBigEndian e (e.load c.m_recvBuf)).toNat }
        ((c.m_recvBuf.drop 4).take (qFromBigEndian e (e.load c.m_recvBuf)).toNat))
  else c
termination_by c.m_recvBuf.length
decreasing_by
  rw [or_comm, badLength_iff] at _hb
  rw [handleBytes_recvBuf, List.length_drop, toNat_four_add (by omega)]
  omega

/-- `ChatClient::onReadyRead`, `chunk` being what `readAll` gives. -/
def onReadyRead (e : Endian) (fromJson : Str → Option Json) (c : ChatClient) (chunk : Str) :
    ChatClient :=
  readLoop e fromJson { c with m_recvBuf := c.m_recvBuf ++ chunk }

/-- The chunks that arrive on the socket, one call of `onReadyRead` each. -/
def receive (e : Endian) (fromJson : Str → Option Json) (c : ChatClient) (chunks : List Str) :
    ChatClient :=
  chunks.foldl (onReadyRead e fromJson) c

/-- The client after these bodies. -/
def handleAll (fromJson : Str → Option Json) (c : ChatClient) (bodies : List Str) : ChatClient :=
  { c with handled := c.handled ++ (bodies.filterMap fromJson).map object }

theorem handleAll_cons (fromJson : Str → Option Json) (c : ChatClient) (b : Str)
    (bodies : List Str) :
    handleAll fromJson c (b :: bodies) = handleAll fromJson (c.handleBytes fromJson b) bodies := by
  unfold handleAll handleBytes
  cases h : fromJson b <;> simp [h, handleMessage]

theorem handleAll_append (fromJson : Str → Option Json) (c : ChatClient) (bs cs : List Str) :
    handleAll fromJson c (bs ++ cs) = handleAll fromJson (handleAll fromJson c bs) cs := by
  simp [handleAll]

variable (e : Endian) (fromJson : Str → Option Json)

theorem readLoop_more {c : ChatClient} (h : packets.front c.m_recvBuf = .more) :
    readLoop e fromJson c = c := by
  change packetFront c.m_recvBuf = .more at h
  rw [readLoop]
  split
  · rename_i h4
    rw [packetFront, if_neg (by omega), ← qFromBigEndian_load e h4] at h
    split
    · rename_i hb
      rw [if_pos (badLength_iff.mp hb.symm)] at h
      cases h
    · rename_i hb
      rw [or_comm, badLength_iff] at hb
      rw [if_neg hb] at h
      rw [if_pos]
      split at h
      · rename_i hl; rw [toNat_four_add (by omega)]; exact hl
      · cases h
  · rfl

theorem readLoop_bad {c : ChatClient} (h : packets.front c.m_recvBuf = .bad) :
    readLoop e fromJson c = { c with m_recvBuf := [], aborted := true } := by
  obtain ⟨h4, hb⟩ := packetFront_bad.mp h
  rw [← qFromBigEndian_load e h4, ← badLength_iff, or_comm] at hb
  rw [readLoop, if_pos h4, dif_pos hb]

theorem readLoop_frame {c : ChatClient} {b rest : Str}
    (h : packets.front c.m_recvBuf = .frame b rest) : readLoop e fromJson c =
      readLoop e fromJson (handleBytes fromJson { c with m_recvBuf := rest } b) := by
  obtain ⟨hl, hn, hne, hm, hd⟩ := packetFront_frame.mp h
  have hpos := List.length_pos_iff.mpr hne
  have h4 : 4 ≤ c.m_recvBuf.length := by omega
  rw [← qFromBigEndian_load e h4] at hn
  have hb : ¬(qFromBigEndian e (e.load c.m_recvBuf) = 0 ∨
      qFromBigEndian e (e.load c.m_recvBuf) > 1024 * 1024) := by
    rw [or_comm, badLength_iff]; omega
  rw [readLoop, if_pos h4, dif_neg hb, toNat_four_add (by omega), hn, if_neg (by omega),
    ← List.drop_drop, hd, List.take_left, List.drop_left]

/-- Packets at the front of the buffer are handled first. -/
theorem readLoop_handleAll {c : ChatClient} {bodies : List Str} {t : Str}
    (h : packets.Frames c.m_recvBuf bodies t) : readLoop e fromJson c =
      readLoop e fromJson (handleAll fromJson { c with m_recvBuf := t } bodies) := by
  generalize hs : c.m_recvBuf = s at h
  induction h generalizing c with
  | nil s =>
    subst hs
    simp [handleAll]
  | cons hf _ ih =>
    subst hs
    rw [readLoop_frame e fromJson hf, handleAll_cons, ih (handleBytes_recvBuf _ _ _)]
    congr 2
    unfold handleBytes
    split <;> rfl

/-- Packets at the front of the buffer, then part of one: the packets are handled. -/
theorem readLoop_frames {c : ChatClient} {bodies : List Str} {t : Str}
    (h : packets.Frames c.m_recvBuf bodies t) (ht : packets.front t = .more) :
    readLoop e fromJson c = handleAll fromJson { c with m_recvBuf := t } bodies := by
  rw [readLoop_handleAll e fromJson h, readLoop_more e fromJson (by exact ht)]

/-- Packets, then a bad header: the packets are handled, and the connection is aborted. -/
theorem readLoop_frames_bad {c : ChatClient} {bodies : List Str} {t : Str}
    (h : packets.Frames c.m_recvBuf bodies t) (ht : packets.front t = .bad) : readLoop e fromJson c =
      handleAll fromJson { c with m_recvBuf := [], aborted := true } bodies := by
  rw [readLoop_handleAll e fromJson h, readLoop_bad e fromJson (by exact ht)]
  rfl

/-- Chunks without a bad header: their packets are handled, whatever the cuts. -/
theorem receive_frames {c : ChatClient} {chunks bodies : List Str} {t : Str}
    (hc : packets.front c.m_recvBuf = .more)
    (h : packets.Frames (c.m_recvBuf ++ chunks.flatten) bodies t) (ht : packets.front t = .more) :
    receive e fromJson c chunks = handleAll fromJson { c with m_recvBuf := t } bodies := by
  induction chunks generalizing c bodies with
  | nil =>
    simp only [List.flatten_nil, List.append_nil] at h
    rw [← readLoop_frames e fromJson h ht, readLoop_more e fromJson hc]
    rfl
  | cons chunk chunks ih =>
    rw [List.flatten_cons, ← List.append_assoc] at h
    obtain ⟨bs₁, bs₂, u, rfl, hu, huf, h₂⟩ := h.chunk ht
    rw [receive, List.foldl_cons, onReadyRead, readLoop_frames e fromJson (by exact hu) huf]
    rw [handleAll_append]
    exact ih huf h₂

end ChatClient

end QtChat
