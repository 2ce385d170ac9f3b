import QtChat.Properties.LoginHandover
import QtChat.Properties.OfflineDelivery
import QtChat.Properties.PacketOrigins
import QtChat.Properties.RequestDelivery

/-!
# What is shown was typed

A chat goes from the window of one client through `ChatClient::sendJson`, a server, maybe Redis and
another server or the table of offline messages, and `ChatClient::handleMessage` into the window of
another client.

- `handleMessage_calls`: what a message makes a window append to its histories (`shownCalls`).
- `main_calls`: what a client shows comes from bodies of the packets that were sent to it, however
  few of their bytes have come and however TCP cuts them.
- `Sendable.shown`: what the servers send makes a client show what was typed in another one.
- `shown_was_typed` puts them together for every run of the servers.
-/

namespace QtChat

open Interleave Framing ChatService

/-! ## The windows -/

section Windows

variable {fromJson : Str → Option Json}

/-- What a message makes a window append, at once or when the main window is made. -/
def shownCalls (fromJson : Str → Option Json) (js : Json) : List HistoryCall :=
  (chatCall js).toList ++
    if js.isMsg .loginMsgAck then offlineCalls fromJson (js.value "offlinemsg").qtArray else []

/-- What the window has appended to its histories. A dialog has the offline messages that the main
window will append. -/
def Window.calls (fromJson : Str → Option Json) : Window → List HistoryCall
  | .dialog d => offlineCalls fromJson d.m_offlineMsgs
  | .widget w => w.appended

/-- What the signals that reach the histories carry. -/
theorem Signal.ofMessage_payload {js : Json} {sig : Signal} (h : Signal.ofMessage js = some sig) :
    match sig with
    | .loginSuccess _ _ _ _ offlineMsgs =>
      js.isMsg .loginMsgAck = true ∧ offlineMsgs = (js.value "offlinemsg").qtArray
    | .receivedChatMsg fromid name msg time =>
      chatCall js = some ⟨fromid, false, ⟨false, name, time, msg⟩⟩
    | .receivedGroupMsg groupid _ name msg time =>
      chatCall js = some ⟨groupid, true, ⟨false, name, time, msg⟩⟩
    | _ => True := by
  unfold Signal.ofMessage at h
  rcases ite_eq_iff.mp h with ⟨hack, h⟩ | ⟨-, h⟩
  · split_ifs at h <;> cases h
    · exact ⟨hack, rfl⟩
    · trivial
  rcases ite_eq_iff.mp h with ⟨-, h⟩ | ⟨-, h⟩
  · split_ifs at h <;> cases h <;> trivial
  rcases ite_eq_iff.mp h with ⟨hone, h⟩ | ⟨hone, h⟩
  · cases h
    exact if_pos hone
  rcases ite_eq_iff.mp h with ⟨hgroup, h⟩ | ⟨-, h⟩
  · cases h
    exact (if_neg hone).trans (if_pos hgroup)
  -- the signals of the other messages
  split_ifs at h <;> cases h <;> trivial

theorem handleMessage_calls (win : Window) (js : Json) {call : HistoryCall}
    (hc : call ∈ (win.handleMessage fromJson js).calls fromJson) :
    call ∈ win.calls fromJson ∨ call ∈ shownCalls fromJson js := by
  unfold shownCalls
  cases hs : Signal.ofMessage js with
  | none =>
    refine .inl ?_
    cases win <;> rwa [Window.handleMessage, hs] at hc
  | some sig =>
    have hsig := Signal.ofMessage_payload hs
    cases win with
    | dialog d =>
      rw [Window.handleMessage, hs] at hc
      cases sig with
      | loginSuccess id name friends groups offlineMsgs =>
        obtain ⟨hack, rfl⟩ := hsig
        rw [if_pos hack]
        exact .inr (List.mem_append_right _ hc)
      | _ => exact .inl hc
    | widget w =>
      rw [Window.handleMessage, hs] at hc
      cases sig with
      | loginSuccess id name friends groups offlineMsgs =>
        obtain ⟨hack, rfl⟩ := hsig
        have happ := (Widget.foldl_mergeOne w (((js.value "offlinemsg").qtArray).map
          (Widget.offlineObj fromJson))).2.1
        change call ∈ (List.foldl Widget.mergeOne w _).appended at hc
        rw [happ] at hc
        rw [if_pos hack]
        exact (List.mem_append.mp hc).imp_right (List.mem_append_right _)
      | receivedChatMsg fromid name msg time =>
        change call ∈ (w.onChatMsg fromid name msg time).appended at hc
        rw [Widget.onChatMsg, Widget.appendToHistory_appended] at hc
        rw [hsig]
        exact (List.mem_append.mp hc).imp_right (List.mem_append_left _)
      | receivedGroupMsg groupid fromid name msg time =>
        change call ∈ (w.onGroupMsg groupid fromid name msg time).appended at hc
        rw [Widget.onGroupMsg] at hc
        split at hc
        · exact .inl hc
        · rw [Widget.appendToHistory_appended] at hc
          rw [hsig]
          exact (List.mem_append.mp hc).imp_right (List.mem_append_left _)
      | _ => exact .inl hc

theorem handleAll_calls (win : Window) (objs : List Json) {call : HistoryCall}
    (hc : call ∈ (objs.foldl (Window.handleMessage fromJson) win).calls fromJson) :
    call ∈ win.calls fromJson ∨ ∃ js ∈ objs, call ∈ shownCalls fromJson js := by
  induction objs generalizing win with
  | nil => exact .inl hc
  | cons js objs ih =>
    rcases ih (win.handleMessage fromJson js) hc with hc | ⟨js', hjs', hc⟩
    · exact (handleMessage_calls win js hc).imp_right fun hc => ⟨js, List.mem_cons_self, hc⟩
    · exact .inr ⟨js', List.mem_cons_of_mem _ hjs', hc⟩

/-- The main window appends what the dialog hands over. -/
theorem build_calls (m : Main) :
    (Main.build fromJson m).window.calls fromJson = m.window.calls fromJson := by
  obtain ⟨client, window⟩ := m
  cases window with
  | widget w => rfl
  | dialog d =>
    rw [Main.build]
    dsimp only
    split
    · exact (Widget.new_spec fromJson d.m_userId d.m_offlineMsgs).2.1
    · rfl

theorem build_client (m : Main) : (Main.build fromJson m).client = m.client := by
  unfold Main.build
  split
  · split <;> rfl
  · rfl

/-- The dialog gets the first reads. -/
theorem exec_reads (e : Endian) (fromJson : Str → Option Json) (late : Nat) (m : Main)
    (chunks : List Str) : ∃ first rest,
    chunks = first ++ rest ∧
      Main.exec e fromJson late m chunks = (first.foldl (Main.read e fromJson) m, rest) := by
  induction chunks generalizing m with
  | nil => exact ⟨[], [], rfl, rfl⟩
  | cons chunk chunks ih =>
    rw [Main.exec]
    split
    · exact ⟨_, _, (List.take_append_drop late _).symm, rfl⟩
    · obtain ⟨first, rest, hsplit, hexec⟩ := ih (m.read e fromJson chunk)
      exact ⟨chunk :: first, rest, congrArg (chunk :: ·) hsplit, hexec⟩

/-- **What a client shows** comes from bodies of the packets whose stream it reads. -/
theorem main_calls (e : Endian) (late : Nat) {bodies chunks : List Str}
    (hlen : ∀ b ∈ bodies, b.length < 2 ^ 32)
    (hs : chunks.flatten <+: (bodies.map packet).flatten) {call : HistoryCall}
    (hc : call ∈ (Main.main e fromJson late chunks).window.calls fromJson) :
    ∃ js ∈ objects fromJson bodies, call ∈ shownCalls fromJson js := by
  obtain ⟨left, hleft⟩ := hs
  obtain ⟨first, rest, rfl, hexec⟩ := exec_reads e fromJson late Main.start chunks
  rw [Main.main, hexec] at hc
  rw [List.flatten_append, List.append_assoc] at hleft
  have hfront : ∀ b r, packets.front ((refused bodies).map packet).flatten ≠ .frame b r := by
    intro b r hf
    rcases front_refused hlen with h | h <;> rw [hf] at h <;> cases h
  have hstart : Progress Main.start.client (first.flatten ++ (rest.flatten ++ left)) (taken bodies)
      ((refused bodies).map packet).flatten := by
    rw [hleft]
    exact ⟨fun _ => ⟨rfl, frames_taken bodies⟩, fun h => by cases h⟩
  obtain ⟨bs, todo, htaken, h₁, hw₁⟩ := hstart.reads e fromJson hfront
  have hbuilt : Progress (Main.build fromJson (first.foldl (Main.read e fromJson) Main.start)).client
      (rest.flatten ++ left) todo ((refused bodies).map packet).flatten := by
    rwa [build_client]
  obtain ⟨bs', todo', rfl, -, hw₂⟩ := hbuilt.reads e fromJson hfront
  dsimp only at hc
  rw [hw₂] at hc
  have hsub : ∀ js ∈ objects fromJson bs ++ objects fromJson bs', js ∈ objects fromJson bodies := by
    intro js hjs
    rw [← taken_append_refused bodies, htaken, objects_append, objects_append, objects_append]
    simp only [List.mem_append] at hjs ⊢
    tauto
  rcases handleAll_calls _ _ hc with hc | ⟨js, hjs, hc⟩
  · rw [build_calls, hw₁] at hc
    rcases handleAll_calls _ _ hc with hc | ⟨js, hjs, hc⟩
    · exact (List.not_mem_nil hc).elim
    · exact ⟨js, hsub js (List.mem_append_left _ hjs), hc⟩
  · exact ⟨js, hsub js (List.mem_append_right _ hjs), hc⟩

end Windows

/-! ## What the servers send -/

/-- The request is a chat for the user, and the call shows what was typed. -/
inductive ShownAs (k : Facts) (userid : Int) : ClientRequest → HistoryCall → Prop
  | oneChat {m_myId : Int} {m_myName msg time : Str} :
      ShownAs k userid (.oneChat m_myId m_myName userid msg time)
        ⟨m_myId, false, ⟨false, m_myName, time, msg⟩⟩
  | groupChat {m_myId groupid : Int} {m_myName msg time : Str} :
      .member groupid userid ∈ k → userid ≠ m_myId →
      ShownAs k userid (.groupChat m_myId m_myName groupid msg time)
        ⟨groupid, true, ⟨false, m_myName, time, msg⟩⟩

/-- A request of some client that the call shows to a user who has logged in on the connection. -/
def WasTyped (k : Facts) (conn : ConnId) (call : HistoryCall) : Prop :=
  ∃ r userid, ClientRequest.Typed r ∧ .posted r.json ∈ k ∧ LoggedInBy k userid conn ∧
    ShownAs k userid r call

theorem ClientRequest.Typed.fitsInt {r : ClientRequest} (h : r.Typed) {z : Int} (hz : z ∈ r.ints) :
    QtChat.fitsInt z = true := by
  simpa [QtChat.fitsInt] using h.ints z hz

/-- A chat for a user shows what was typed. -/
theorem ClientRequest.Typed.shownAs {r : ClientRequest} (h : r.Typed) {k : Facts} {userid : Int}
    (hc : ChatFor k userid r.json) :
    ∃ call, chatCall (ChatClient.object r.json) = some call ∧ ShownAs k userid r call := by
  have hqt : ∀ z ∈ r.ints, (Json.int z).qtInt = z := fun z hz => by
    rw [Json.qtInt, if_pos (h.fitsInt hz)]
  obtain ⟨-, hchat⟩ := hc
  cases r with
  | oneChat m_myId m_myName toid msg time =>
    have hcall : chatCall (ChatClient.object (ChatClient.oneChat m_myId m_myName toid msg time)) =
        some ⟨(Json.int m_myId).qtInt, false, ⟨false, m_myName, time, msg⟩⟩ := rfl
    rw [hqt m_myId (by simp [ClientRequest.ints])] at hcall
    rcases hchat with ⟨-, htoid⟩ | ⟨hm, -⟩
    · change Except.ok (QtChat.toInt32 toid) = _ at htoid
      rw [h.toInt32 (by simp [ClientRequest.ints])] at htoid
      cases htoid
      exact ⟨_, hcall, .oneChat⟩
    · cases hm
  | groupChat m_myId m_myName groupid msg time =>
    have hcall : chatCall (ChatClient.object (ChatClient.groupChat m_myId m_myName groupid msg time)) =
        some ⟨(Json.int groupid).qtInt, true, ⟨false, m_myName, time, msg⟩⟩ := rfl
    rw [hqt groupid (by simp [ClientRequest.ints])] at hcall
    rcases hchat with ⟨hm, -⟩ | ⟨-, g, fromid, hg, hi, hmem, hne⟩
    · cases hm
    · change Except.ok (QtChat.toInt32 groupid) = _ at hg
      change Except.ok (QtChat.toInt32 m_myId) = _ at hi
      rw [h.toInt32 (by simp [ClientRequest.ints])] at hg hi
      cases hg
      cases hi
      exact ⟨_, hcall, .groupChat hmem hne⟩
  | _ => rcases hchat with ⟨hm, -⟩ | ⟨hm, -⟩ <;> cases hm

/-- The offline messages of an acknowledgement, as the client finds them. -/
theorem loginResponse_offlinemsg (user : User) (vec : List Str) (userVec : List User)
    (groupVec : List Group) :
    ((loginResponse user vec userVec groupVec).value "offlinemsg").qtArray = vec.map .str := by
  cases vec <;> cases userVec <;> cases groupVec <;> rfl

/-- A message with an id that is no chat's. -/
theorem chatCall_none {js : Json} {m : EnMsgType} (h : js.isMsg m = true) (h₁ : m ≠ .oneChatMsg)
    (h₂ : m ≠ .groupChatMsg) : chatCall js = none := by
  rw [chatCall, Json.isMsg_ne h h₁.symm, Json.isMsg_ne h h₂.symm]
  rfl

variable {fromJson : Str → Option Json}

/-- **What a packet shows** was typed. -/
theorem Sendable.shown {k : Facts} {conn : ConnId} {js : Json} (h : Sendable k conn js)
    (hposted : ∀ js, .posted js ∈ k → ∃ r : ClientRequest, r.Typed ∧ js = r.json)
    (hread : ∀ r : ClientRequest, r.Typed → fromJson r.json.dump = some r.json)
    {call : HistoryCall} (hc : call ∈ shownCalls fromJson (ChatClient.object js)) :
    WasTyped k conn call := by
  have hchat : ∀ userid js, ChatFor k userid js → LoggedInBy k userid conn →
      call ∈ (chatCall (ChatClient.object js)).toList → WasTyped k conn call := by
    intro userid js hjs hl hcall
    obtain ⟨r, hr, rfl⟩ := hposted js hjs.1
    obtain ⟨call', hcall', hshown⟩ := hr.shownAs hjs
    rw [hcall', Option.toList_some, List.mem_singleton] at hcall
    exact ⟨r, userid, hr, hjs.1, hl, hcall ▸ hshown⟩
  cases h with
  | @answer request _ m a hrd hm ha hmsgid hno =>
    have hobj : ChatClient.object js = js := by
      cases js <;> first | rfl | cases hmsgid
    have hmsg : js.isMsg a = true := by
      rw [Json.isMsg, Json.value, hmsgid]
      cases a <;> rfl
    have hnone : chatCall js = none :=
      chatCall_none hmsg (by cases m <;> cases ha <;> decide) (by cases m <;> cases ha <;> decide)
    have hoffline : (js.value "offlinemsg").qtArray = [] := by
      rw [Json.value, hno.1]
      rfl
    rw [hobj, shownCalls, hnone, hoffline] at hc
    split at hc <;> exact (List.not_mem_nil hc).elim
  | @accepted user vec userVec groupVec hl hv hf hg =>
    have hmsg : (loginResponse user vec userVec groupVec).isMsg .loginMsgAck = true := by
      cases vec <;> cases userVec <;> cases groupVec <;> rfl
    have hobj : ChatClient.object (loginResponse user vec userVec groupVec) =
        loginResponse user vec userVec groupVec := rfl
    rw [hobj, shownCalls, chatCall_none hmsg (by decide) (by decide), if_pos hmsg,
      loginResponse_offlinemsg, offlineCalls, List.map_map] at hc
    obtain ⟨obj, hobj, hcall⟩ := List.mem_filterMap.mp hc
    obtain ⟨msg, hmem, rfl⟩ := List.mem_map.mp hobj
    obtain ⟨js, rfl, hcf⟩ := hv msg hmem
    obtain ⟨r, hr, rfl⟩ := hposted js hcf.1
    refine hchat user.id r.json hcf hl ?_
    have hoff : Widget.offlineObj fromJson (.str r.json.dump) = ChatClient.object r.json := by
      change ((fromJson r.json.dump).map ChatClient.object).getD (.obj []) = _
      rw [hread r hr]
      rfl
    rw [← hoff]
    exact Option.mem_toList.mpr hcall
  | @chat userid _ hl hcf =>
    obtain ⟨r, hr, rfl⟩ := hposted js hcf.1
    have hack : (ChatClient.object r.json).isMsg .loginMsgAck = false := by
      cases r <;> rfl
    rw [shownCalls, hack, if_neg (by decide), List.append_nil] at hc
    exact hchat userid r.json hcf hl hc
  | notice hl hn =>
    obtain ⟨id, state, rfl, -⟩ := hn
    exact (List.not_mem_nil hc).elim

/-! ## Runs -/

/-- Every body that a run takes is a request that a Qt client can make. -/
def TypedBodies (ls : List Label) : Prop :=
  ∀ l ∈ ls, ∀ i conn body, l.body i conn = some body →
    ∃ r : ClientRequest, r.Typed ∧ body = r.json.dump

theorem TypedBodies.posted {F : Nlohmann.Strtod} {ls : List Label} (h : TypedBodies ls)
    {i : ServerId} {db : Database} {js : Json} (hk : .posted js ∈ knownTo (.nlohmann F) ls i db) :
    ∃ r : ClientRequest, r.Typed ∧ js = r.json := by
  cases hk with
  | @posted l j conn _ hl hr =>
    obtain ⟨body, hbody, hparse⟩ := Label.reads_body hr
    obtain ⟨r, hrt, rfl⟩ := h l hl j conn body hbody
    rw [JsonParser.nlohmann_dump hrt.valid] at hparse
    exact ⟨r, hrt, (Option.some.inj hparse).symm⟩

/-- Bob writes to ann before she logs in, and again when she is there. -/
def shownLabels : List Label :=
  [.start 0 true, .connect 0 1, .connect 0 2,
    .whole 0 (.frame 1 (ChatClient.reg (txt "ann") (txt "pw")).dump),
    .whole 0 (.frame 2 (ChatClient.reg (txt "bob") (txt "pw")).dump),
    .whole 0 (.frame 2 (ChatClient.oneChat 2 (txt "bob") 1 (txt "hi") (txt "noon")).dump),
    .whole 0 (.frame 1 (ChatClient.login 1 (txt "pw")).dump),
    .whole 0 (.frame 2 (ChatClient.oneChat 2 (txt "bob") 1 (txt "ann?") (txt "one")).dump)]

/-- The packets for ann. -/
def toAnn (s : Sys) : List Delivery := (s.world.servers 0).outbox.filter fun d => d.conn = 1

section Runs

variable {F : Nlohmann.Strtod} {s₀ s : Sys} {ls : List Label} {i : ServerId} {conn : ConnId}

/-- **What a Qt client shows was typed in a Qt client.** The clients of the servers are Qt clients,
and this one has read some of the packets that a server sent to it, in any pieces. Each chat in its
histories is a chat that a client sent to a user who logged in on this connection, or to a group of
that user, with the name, the time and the text as they were typed.

The user of the client writes nothing here: what one sends goes into the histories too. A login with
the id -1 and no password counts as one (`LoggedInBy`), as it does for the server. The bodies are those
whose length fits the header. -/
theorem shown_was_typed (hinit : (system (.nlohmann F)).init s₀)
    (hr : (system (.nlohmann F)).runs ls s₀ = some s) (hbodies : TypedBodies ls)
    {sent : List Delivery} (hsent : ∀ d ∈ sent, d ∈ (s.world.servers i).outbox ∧ d.conn = conn)
    (hlen : ∀ d ∈ sent, d.js.dump.length < 2 ^ 32)
    (hpacket : ∀ d ∈ sent, fromJson d.js.dump = some d.js)
    (hrequest : ∀ r : ClientRequest, r.Typed → fromJson r.json.dump = some r.json)
    {chunks : List Str} {e : Endian}
    (hs : chunks.flatten <+: (sent.map fun d => packetOf e d.js.dump).flatten)
    (e' : Endian) (late : Nat) {call : HistoryCall}
    (hc : call ∈ (Main.main e' fromJson late chunks).window.calls fromJson) :
    WasTyped (knownTo (.nlohmann F) ls i s.world.db) conn call := by
  have hmap : sent.map (fun d => packetOf e d.js.dump) =
      (sent.map fun d => d.js.dump).map packet := by
    rw [packetOf_eq, List.map_map]
    rfl
  rw [hmap] at hs
  have hlen' : ∀ b ∈ sent.map (fun d => d.js.dump), b.length < 2 ^ 32 := by
    intro b hb
    obtain ⟨d, hd, rfl⟩ := List.mem_map.mp hb
    exact hlen d hd
  obtain ⟨js, hjs, hcall⟩ := main_calls e' late hlen' hs hc
  obtain ⟨js', hjs', rfl⟩ := List.mem_map.mp hjs
  obtain ⟨body, hbody, hread⟩ := List.mem_filterMap.mp hjs'
  obtain ⟨d, hd, rfl⟩ := List.mem_map.mp hbody
  cases (hpacket d hd).symm.trans hread
  obtain ⟨hout, rfl⟩ := hsent d hd
  exact (((runs_accounted hinit hr).world.servers i).outbox d hout).shown
    (fun _ => hbodies.posted) hrequest hcall

/-- Ann's client shows the first from her acknowledgement. -/
theorem shown_was_typed_ann : ∃ s : Sys,
    (system (.nlohmann originStrtod)).runs shownLabels Sys.initial = some s ∧
    WasTyped (knownTo (.nlohmann originStrtod) shownLabels 0 s.world.db) 1
      ⟨2, false, ⟨false, txt "bob", txt "noon", txt "hi"⟩⟩ := by
  have h : ((system (.nlohmann originStrtod)).runs shownLabels Sys.initial).map (fun s : Sys =>
      decide ((∀ d ∈ toAnn s, d.js.dump.length < 2 ^ 32 ∧ Nlohmann.Valid originStrtod d.js) ∧
        ⟨2, false, ⟨false, txt "bob", txt "noon", txt "hi"⟩⟩ ∈
          (Main.main .little (JsonParser.nlohmann originStrtod).parse 0
            ((toAnn s).map fun d => packetOf .little d.js.dump)).window.calls
            (JsonParser.nlohmann originStrtod).parse)) = some true := by
    decide +kernel
  obtain ⟨s, hs, hf⟩ := Option.map_eq_some_iff.mp h
  obtain ⟨hd, hc⟩ := of_decide_eq_true hf
  refine ⟨s, hs, shown_was_typed origin_init hs ?_ ?_ (fun d hd' => (hd d hd').1)
    (fun d hd' => JsonParser.nlohmann_dump (hd d hd').2)
    (fun r hr => JsonParser.nlohmann_dump hr.valid) (List.prefix_refl _) .little 0 hc⟩
  · intro l hl i conn body hb
    simp only [shownLabels, List.mem_cons, List.not_mem_nil, or_false] at hl
    rcases hl with rfl | rfl | rfl | rfl | rfl | rfl | rfl | rfl <;>
      simp only [Label.body, Option.ite_none_right_eq_some, Option.some.injEq, reduceCtorEq] at hb
    all_goals obtain ⟨-, rfl⟩ := hb
    · exact ⟨.reg (txt "ann") (txt "pw"), ⟨by decide, by decide⟩, rfl⟩
    · exact ⟨.reg (txt "bob") (txt "pw"), ⟨by decide, by decide⟩, rfl⟩
    · exact ⟨.oneChat 2 (txt "bob") 1 (txt "hi") (txt "noon"), ⟨by decide, by decide⟩, rfl⟩
    · exact ⟨.login 1 (txt "pw"), ⟨by decide, by decide⟩, rfl⟩
    · exact ⟨.oneChat 2 (txt "bob") 1 (txt "ann?") (txt "one"), ⟨by decide, by decide⟩, rfl⟩
  · intro d hd'
    obtain ⟨hmem, hconn⟩ := List.mem_filter.mp hd'
    exact ⟨hmem, of_decide_eq_true hconn⟩

end Runs

end QtChat
