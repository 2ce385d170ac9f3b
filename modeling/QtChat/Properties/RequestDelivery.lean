import QtChat.Client.Requests
import QtChat.Properties.JsonRoundTrip
import QtChat.Server.Width
import QtChat.Wire.Framing

/-!
# From the fields of a request to its handler

A request of the Qt client goes through four hands: the object of its fields, the dump, the packet,
and TCP, which cuts the stream anywhere. On the other side `onMessage` and `json::parse` undo them.

`requests_served`: the server runs, for each request in turn, the body of the handler with the fields
that the client's method was given.
-/

namespace QtChat

open Interleave ChatService

namespace ClientRequest

/-- What a request asks the server for. -/
def asks (conn : ConnId) : ClientRequest → Serv Unit
  | login id pwd => loginAs conn id pwd
  | reg name pwd => regAs conn name pwd
  | oneChat m_myId m_myName toid msg time =>
    oneChatTo toid (ChatClient.oneChat m_myId m_myName toid msg time)
  | addFriend m_myId friendid => addFriendAs conn m_myId friendid
  | createGroup m_myId name desc => createGroupAs conn m_myId name desc
  | addGroup m_myId groupid => addGroupAs conn m_myId groupid
  | groupChat m_myId m_myName groupid msg time =>
    groupChatFrom m_myId groupid (ChatClient.groupChat m_myId m_myName groupid msg time)
  | updateName id newName => updateNameAs conn id newName
  | loginout m_myId => loginoutAs conn m_myId
  | sendHeartbeat => heartbeatOf conn

/-- A request that is served: its connection is noted, then its handler runs. -/
def served (conn : ConnId) (r : ClientRequest) : Serv Unit := do
  updateConnTime conn
  r.asks conn

/-- The ids that it names. -/
def ints : ClientRequest → List Int
  | login id _ | updateName id _ => [id]
  | reg .. | sendHeartbeat => []
  | oneChat m_myId _ id .. | groupChat m_myId _ id .. | addFriend m_myId id | addGroup m_myId id =>
    [m_myId, id]
  | createGroup m_myId .. | loginout m_myId => [m_myId]

def strs : ClientRequest → List Str
  | login _ pwd => [pwd]
  | reg name pwd => [name, pwd]
  | oneChat _ m_myName _ msg time | groupChat _ m_myName _ msg time => [m_myName, msg, time]
  | createGroup _ name desc => [name, desc]
  | updateName _ newName => [newName]
  | addFriend .. | addGroup .. | loginout .. | sendHeartbeat => []

/-- The ids are of type `int`, and the strings come from a `QString`. -/
structure Typed (r : ClientRequest) : Prop where
  ints : ∀ z ∈ r.ints, -2 ^ 31 ≤ z ∧ z < 2 ^ 31
  strs : ∀ s ∈ r.strs, isUtf8 s = true

variable {r : ClientRequest}

/-- The object is one that the parser reads. -/
theorem Typed.valid {F : Nlohmann.Strtod} (h : r.Typed) : Nlohmann.Valid F r.json := by
  have hint : ∀ z : Int, -2 ^ 31 ≤ z ∧ z < 2 ^ 31 → -2 ^ 63 ≤ z ∧ z < 2 ^ 64 := by omega
  have hi : ∀ z ∈ r.ints, Nlohmann.Valid F (.int z) := fun z hz => by
    rw [Nlohmann.Valid]
    exact hint z (h.ints z hz)
  have hs : ∀ s ∈ r.strs, Nlohmann.Valid F (.str s) := fun s hs => by
    rw [Nlohmann.Valid]
    exact h.strs s hs
  have hm : ∀ m : EnMsgType, Nlohmann.Valid F (.int m.toInt) := fun m => by
    rw [Nlohmann.Valid]
    cases m <;> decide
  have hkeys : ∀ k ∈ ["msgid", "id", "name", "password", "toid", "msg", "time", "friendid",
      "groupname", "groupdesc", "groupid"], isUtf8 (txt k) = true := by
    decide
  cases r <;> refine Nlohmann.valid_object ?_ <;>
    simp only [List.forall_mem_cons, ClientRequest.ints, ClientRequest.strs, EnMsgType.field]
      at hi hs hkeys ⊢ <;>
    simp [hi, hs, hm, hkeys]

theorem Typed.toInt32 {z : Int} (h : r.Typed) (hz : z ∈ r.ints) : toInt32 z = z := by
  obtain ⟨h₁, h₂⟩ := h.ints z hz
  rw [QtChat.toInt32, Int.bmod_eq_of_le] <;> omega

/-- The handler is found, and the fields are read. -/
theorem Typed.dispatch (h : r.Typed) (conn : ConnId) :
    ChatService.dispatch conn r.json = .ok (r.asks conn) := by
  have hi : ∀ z ∈ r.ints, QtChat.toInt32 z = z := fun z => h.toInt32
  cases r with
  | login id pwd =>
    change Except.ok (loginAs conn (QtChat.toInt32 id) pwd) = _
    rw [hi id (by simp [ClientRequest.ints]), asks]
  | reg name pwd => rfl
  | oneChat m_myId m_myName toid msg time =>
    change Except.ok (oneChatTo (QtChat.toInt32 toid) _) = _
    rw [hi toid (by simp [ClientRequest.ints]), asks]
    rfl
  | addFriend m_myId friendid =>
    change Except.ok (addFriendAs conn (QtChat.toInt32 m_myId) (QtChat.toInt32 friendid)) = _
    rw [hi m_myId (by simp [ClientRequest.ints]), hi friendid (by simp [ClientRequest.ints]), asks]
  | createGroup m_myId name desc =>
    change Except.ok (createGroupAs conn (QtChat.toInt32 m_myId) name desc) = _
    rw [hi m_myId (by simp [ClientRequest.ints]), asks]
  | addGroup m_myId groupid =>
    change Except.ok (addGroupAs conn (QtChat.toInt32 m_myId) (QtChat.toInt32 groupid)) = _
    rw [hi m_myId (by simp [ClientRequest.ints]), hi groupid (by simp [ClientRequest.ints]), asks]
  | groupChat m_myId m_myName groupid msg time =>
    change Except.ok (groupChatFrom (QtChat.toInt32 m_myId) (QtChat.toInt32 groupid) _) = _
    rw [hi m_myId (by simp [ClientRequest.ints]), hi groupid (by simp [ClientRequest.ints]), asks]
    rfl
  | updateName id newName =>
    change Except.ok (updateNameAs conn (QtChat.toInt32 id) newName) = _
    rw [hi id (by simp [ClientRequest.ints]), asks]
  | loginout m_myId =>
    change Except.ok (loginoutAs conn (QtChat.toInt32 m_myId)) = _
    rw [hi m_myId (by simp [ClientRequest.ints]), asks]
  | sendHeartbeat => rfl

/-- One body. -/
theorem Typed.handleMsg {F : Nlohmann.Strtod} (h : r.Typed) (conn : ConnId) :
    ChatService.handleMsg (.nlohmann F) conn r.json.dump = r.served conn := by
  rw [ChatService.handleMsg, JsonParser.nlohmann_dump h.valid]
  simp only [h.dispatch conn]
  rfl

end ClientRequest

/-- **The requests of a Qt client are served as they were made**: however TCP cuts the stream of
their packets, `onMessage` runs for each of them in turn the body of its handler, with the fields that
the client was given, and nothing is left in the buffer. -/
theorem requests_served {F : Nlohmann.Strtod} {reqs : List ClientRequest} {chunks : List Str}
    {e : Endian} (ht : ∀ r ∈ reqs, r.Typed) (hl : ∀ r ∈ reqs, r.json.dump.length ≤ 1024 * 1024)
    (hs : chunks.flatten = (reqs.map fun r => ChatClient.packetOf e r.json.dump).flatten)
    (e' : Endian) (conn : ConnId) :
    ChatServer.receive e' (handleMsg (.nlohmann F) conn) [] chunks =
      reqs.forM (ClientRequest.served conn) >>= fun _ => pure [] := by
  have hpackets : chunks.flatten = ((reqs.map fun r => r.json.dump).map packet).flatten := by
    rw [hs, List.map_map, ChatClient.packetOf_eq]
    rfl
  have hbodies : ∀ b ∈ reqs.map fun r => r.json.dump, 1 ≤ b.length ∧ b.length ≤ 1024 * 1024 := by
    intro b hb
    obtain ⟨r, hr, rfl⟩ := List.mem_map.mp hb
    exact ⟨List.length_pos_iff.mpr (Json.dump_ne_nil r.json), hl r hr⟩
  have hforM : ∀ l : List ClientRequest, (∀ r ∈ l, r.Typed) →
      (l.map fun r => r.json.dump).forM (handleMsg (.nlohmann F) conn) =
        l.forM (ClientRequest.served conn) := by
    intro l hl
    induction l with
    | nil => rfl
    | cons r l ih =>
      rw [List.map_cons, List.forM, List.forM, (hl r List.mem_cons_self).handleMsg conn,
        ih fun r' hr' => hl r' (List.mem_cons_of_mem _ hr')]
  rw [ChatServer.receive_eq, feed_packets hbodies hpackets, hforM reqs ht]

/-- A login and a chat, in two chunks. -/
theorem requests_served_ann :
    ChatServer.receive .little (handleMsg (.nlohmann (.only Nlohmann.half (by decide))) 1) []
      [packet (ChatClient.login 1 (txt "pw")).dump ++
        (packet (ChatClient.oneChat 1 (txt "ann") 2 (txt "hi") (txt "noon")).dump).take 3,
        (packet (ChatClient.oneChat 1 (txt "ann") 2 (txt "hi") (txt "noon")).dump).drop 3] =
    [ClientRequest.login 1 (txt "pw"), .oneChat 1 (txt "ann") 2 (txt "hi") (txt "noon")].forM
      (ClientRequest.served 1) >>= fun _ => pure [] := by
  refine requests_served (e := .little) ?_ ?_ ?_ .little 1
  · intro r hr
    simp only [List.mem_cons, List.not_mem_nil, or_false] at hr
    rcases hr with rfl | rfl <;> exact ⟨by decide, by decide⟩
  · decide +kernel
  · rw [ChatClient.packetOf_eq]
    simp [ClientRequest.json]

end QtChat
