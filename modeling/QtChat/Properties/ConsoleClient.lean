import Mathlib.Data.List.Chain
import QtChat.Client.Console
import QtChat.Properties.PacketOrigins
import QtChat.Server.ChatServer
import QtChat.Wire.Framing

/-!
# The console client and the server

The console client sends its requests without a length, with a NUL behind each, and takes what it
receives for JSON from the first byte on. The server does neither.

- `console_unheard`: whatever is typed and however the bytes are cut, `onMessage` hands no body on.
- `packet_ends_console`: the first bytes of a packet end the client.
- `console_gets_no_packet`: no stream of packets logs it in, if the first is shorter than 16 MiB.
- `console_locked_out`: so a client never logs in, in any run of it and of the servers.
-/

namespace QtChat

open Interleave Framing

/-! ## The bytes of the requests -/

/-- Two bytes that do not begin a good length. -/
def NoLength (a b : UInt8) : Prop := a ≠ 0 ∨ 0x10 < b

theorem load_big (a b c d : UInt8) (s : Str) : (Endian.load .big (a :: b :: c :: d :: s)).toNat =
    16777216 * a.toNat + 65536 * b.toNat + 256 * c.toNat + d.toNat := by
  have ha := a.toNat_lt
  have hb := b.toNat_lt
  have hc := c.toNat_lt
  have hd := d.toNat_lt
  simp only [Endian.load, List.take_succ_cons, List.take_zero, List.reverse_cons, List.reverse_nil,
    List.nil_append, List.cons_append, ofBytes, UInt32.toNat_ofNat']
  rw [Nat.mod_eq_of_lt (by omega)]
  omega

/-- Four bytes of such a stream are a bad length. -/
theorem front_unframed {s : Str} (h : s.IsChain NoLength) :
    packetFront s = if s.length < 4 then .more else .bad := by
  split
  · rw [packetFront, if_pos ‹_›]
  · rename_i hl
    obtain ⟨a, b, c, d, t, rfl⟩ : ∃ a b c d t, s = a :: b :: c :: d :: t := by
      rcases s with _ | ⟨a, _ | ⟨b, _ | ⟨c, _ | ⟨d, t⟩⟩⟩⟩
      · exact absurd (by simp) hl
      · exact absurd (by simp) hl
      · exact absurd (by simp) hl
      · exact absurd (by simp) hl
      · exact ⟨a, b, c, d, t, rfl⟩
    rw [packetFront_bad]
    refine ⟨by simp, .inl ?_⟩
    rw [load_big, maxBody]
    obtain ⟨hab, -⟩ := List.isChain_cons_cons.mp h
    rcases hab with ha | hb
    · have ha : a.toNat ≠ 0 := fun e => ha (UInt8.toNat_inj.mp e)
      omega
    · have hb : 0x10 < b.toNat := UInt8.lt_iff_toNat_lt.mp hb
      omega

/-- No frame is found, wherever the stream is cut. -/
theorem feed_unframed {buf : Str} {cs : List Str} (hb : buf.length < 4)
    (h : (buf ++ cs.flatten).IsChain NoLength) :
    ∃ rest, rest.length < 4 ∧ packets.feed buf cs = ([], rest) := by
  induction cs generalizing buf with
  | nil => exact ⟨buf, hb, rfl⟩
  | cons c cs ih =>
    rw [List.flatten_cons, ← List.append_assoc] at h
    obtain ⟨hc, hcs, -⟩ := List.isChain_append.mp h
    have hfront : packets.front (buf ++ c) = _ := front_unframed hc
    by_cases hl : (buf ++ c).length < 4
    · rw [if_pos hl] at hfront
      obtain ⟨rest, hrest, hfeed⟩ := ih hl h
      refine ⟨rest, hrest, ?_⟩
      rw [Decoder.feed, packets.drain_more hfront, hfeed]
      rfl
    · rw [if_neg hl] at hfront
      obtain ⟨rest, hrest, hfeed⟩ := ih (List.length_nil.trans_lt (by decide)) hcs
      refine ⟨rest, hrest, ?_⟩
      rw [Decoder.feed, packets.drain_bad hfront, hfeed]
      rfl

namespace Console

/-- What `send` is given for a request. -/
def wire (r : ClientRequest) : Str := r.json.dump ++ [0]

theorem dump_json (r : ClientRequest) : ∃ s, r.json.dump = 123 :: s := by
  cases r <;> exact ⟨_, by rw [ClientRequest.json]; rfl⟩

theorem isChain_wires (reqs : List ClientRequest) :
    ((reqs.map wire).flatten).IsChain NoLength := by
  have hwire : ∀ r, (wire r).IsChain NoLength := by
    intro r
    have hnul : ∀ b ∈ r.json.dump, b ≠ 0 := fun b hb e => Json.no_nul_dump _ (e ▸ hb)
    rw [wire, List.isChain_append]
    refine ⟨?_, List.isChain_singleton _, fun x hx y _ => .inl ?_⟩
    · generalize r.json.dump = s at hnul
      induction s with
      | nil => exact .nil
      | cons a s ih =>
        rw [List.isChain_cons]
        exact ⟨fun _ _ => .inl (hnul a List.mem_cons_self),
          ih fun b hb => hnul b (List.mem_cons_of_mem _ hb)⟩
    · exact hnul x (List.mem_of_getLast? hx)
  induction reqs with
  | nil => exact .nil
  | cons r reqs ih =>
    rw [List.map_cons, List.flatten_cons, List.isChain_append]
    refine ⟨hwire r, ih, fun x _ y hy => .inr ?_⟩
    -- what follows is the brace of the next object
    cases reqs with
    | nil => simp at hy
    | cons r' reqs =>
      obtain ⟨s, hs⟩ := dump_json r'
      simp only [List.map_cons, List.flatten_cons, wire, hs, List.cons_append, List.head?_cons,
        Option.mem_some_iff] at hy
      rw [← hy]
      decide

/-! ## What the threads do -/

section Steps

variable {P : JsonParser} {ok : Bool} {now : Str} {c c' : Console}

/-- A command sends requests, and may end the main menu. -/
def Commanded (c c' : Console) : Prop := ∃ (reqs : List ClientRequest) (running : Bool),
  c' = { c with sent := c.sent ++ (reqs.map wire).flatten, isMainMenuRunning := running }

theorem Commanded.refl (c : Console) : Commanded c c :=
  ⟨[], c.isMainMenuRunning, by simp⟩

theorem send_commanded {r : ClientRequest} (h : c.send ok r = some c') : Commanded c c' := by
  rw [send, Json.dumpStrict] at h
  split at h
  · cases h
  · rename_i request hr
    split at hr <;> cases hr
    cases ok <;> cases h
    · exact .refl c
    · exact ⟨[r], c.isMainMenuRunning, by simp [wire]⟩

/-- A handler that needs a `:` in what it is given. -/
theorem split_commanded {str : Str} {f : Str → Str → Option Console}
    (h : (match split str with | none => some c | some (a, b) => f a b) = some c')
    (hf : ∀ a b, f a b = some c' → Commanded c c') : Commanded c c' := by
  split at h
  · cases h
    exact .refl c
  · exact hf _ _ h

theorem loginout_commanded (h : loginout ok c = some c') : Commanded c c' := by
  unfold loginout at h
  obtain ⟨c₁, hs, h⟩ := Option.bind_eq_some_iff.mp h
  obtain ⟨reqs, running, rfl⟩ := send_commanded hs
  split at h <;> cases h
  · exact ⟨reqs, false, rfl⟩
  · exact ⟨reqs, running, rfl⟩

theorem commandHandler_commanded {command str : Str}
    {handle : Bool → Str → Str → Console → Option Console}
    (hh : commandHandler command = some handle) (h : handle ok now str c = some c') :
    Commanded c c' := by
  unfold commandHandler at hh
  split at hh
  · cases hh
    cases h
    exact .refl c
  split at hh
  · cases hh
    exact split_commanded h fun _ _ h => send_commanded h
  split at hh
  · cases hh
    exact send_commanded h
  split at hh
  · cases hh
    exact split_commanded h fun _ _ h => send_commanded h
  split at hh
  · cases hh
    exact send_commanded h
  split at hh
  · cases hh
    exact split_commanded h fun _ _ h => send_commanded h
  split at hh
  · cases hh
    exact loginout_commanded h
  · cases hh

theorem runCommand_commanded {buf : Str} (h : c.runCommand ok now buf = some c') :
    Commanded c c' := by
  rw [runCommand] at h
  split at h
  · cases h
    exact .refl c
  · simp only at h
    split at h
    · cases h
      exact .refl c
    · rename_i handle hh
      exact commandHandler_commanded hh h

/-- The receiving thread leaves the main thread alone. -/
structure Heard (c c' : Console) : Prop where
  cin : c'.cin = c.cin
  place : c'.place = c.place
  isMainMenuRunning : c'.isMainMenuRunning = c.isMainMenuRunning
  sent : c'.sent = c.sent

theorem doLoginResponse_heard {js : Json} (h : doLoginResponse P js c = some c') : Heard c c' := by
  obtain ⟨errno, -, h⟩ := Option.bind_eq_some_iff.mp h
  split at h
  · cases h
    exact ⟨rfl, rfl, rfl, rfl⟩
  · obtain ⟨id, -, h⟩ := Option.bind_eq_some_iff.mp h
    obtain ⟨name, -, h⟩ := Option.bind_eq_some_iff.mp h
    obtain ⟨friends, -, h⟩ := Option.bind_eq_some_iff.mp h
    obtain ⟨groups, -, h⟩ := Option.bind_eq_some_iff.mp h
    obtain ⟨lines, -, h⟩ := Option.bind_eq_some_iff.mp h
    cases h
    exact ⟨rfl, rfl, rfl, rfl⟩

theorem readTask_heard {received : Str} (h : c.readTask P received = some c') : Heard c c' := by
  obtain ⟨js, -, h⟩ := Option.bind_eq_some_iff.mp h
  obtain ⟨msgtype, -, h⟩ := Option.bind_eq_some_iff.mp h
  have hline : ∀ {line : Option Str}, (line >>= fun line =>
      some { c with cout := c.cout ++ [line] }) = some c' → Heard c c' := by
    intro line h
    obtain ⟨l, -, h⟩ := Option.bind_eq_some_iff.mp h
    cases h
    exact ⟨rfl, rfl, rfl, rfl⟩
  split at h
  · exact hline h
  split at h
  · exact hline h
  split at h
  · obtain ⟨c₁, hl, h⟩ := Option.bind_eq_some_iff.mp h
    cases h
    have hheard := doLoginResponse_heard hl
    exact ⟨hheard.cin, hheard.place, hheard.isMainMenuRunning, hheard.sent⟩
  split at h
  · obtain ⟨u, -, h⟩ := Option.bind_eq_some_iff.mp h
    cases h
    exact ⟨rfl, rfl, rfl, rfl⟩
  · cases h
    exact ⟨rfl, rfl, rfl, rfl⟩

/-- A turn of the menu may send a request and wait. -/
structure Turned (c c' : Console) : Prop where
  sends : ∃ reqs : List ClientRequest, c'.sent = c.sent ++ (reqs.map wire).flatten
  rwsem : c'.rwsem = c.rwsem
  cout : c'.cout = c.cout
  success : c'.g_isLoginSuccess = true → c.g_isLoginSuccess = true
  place : c'.place = c.place ∨ c'.place = .loginSent ∨ c'.place = .regSent

theorem menuTurn_turned (h : c.menuTurn ok = some c') : Turned c c' := by
  rw [menuTurn] at h
  simp only at h
  split at h
  · obtain ⟨c₁, hs, h⟩ := Option.bind_eq_some_iff.mp h
    cases h
    obtain ⟨reqs, running, rfl⟩ := send_commanded hs
    exact ⟨⟨reqs, rfl⟩, rfl, rfl, (fun h => by cases h), .inr (.inl rfl)⟩
  · obtain ⟨c₁, hs, h⟩ := Option.bind_eq_some_iff.mp h
    cases h
    obtain ⟨reqs, running, rfl⟩ := send_commanded hs
    exact ⟨⟨reqs, rfl⟩, rfl, rfl, id, .inr (.inr rfl)⟩
  · cases h
  · cases h
    exact ⟨⟨[], by simp⟩, rfl, rfl, id, .inl rfl⟩

theorem terminate_sends (c : Console) :
    ∃ reqs : List ClientRequest, c.terminate.sent = c.sent ++ (reqs.map wire).flatten :=
  ⟨[], by simp [terminate]⟩

/-- **A step** sends whole requests. -/
theorem step_sends {l : Label} (h : step P l c = some c') :
    ∃ reqs : List ClientRequest, c'.sent = c.sent ++ (reqs.map wire).flatten := by
  have hnone : ∃ reqs : List ClientRequest, c.sent = c.sent ++ (reqs.map wire).flatten :=
    ⟨[], by simp⟩
  cases l with
  | turn ok now =>
    rw [step] at h
    split at h
    · cases h
      cases hm : c.menuTurn ok with
      | none => exact terminate_sends c
      | some c₁ => exact (menuTurn_turned hm).sends
    · cases h
      cases hm : c.mainMenuTurn ok now with
      | none => exact terminate_sends c
      | some c₁ =>
        rw [mainMenuTurn] at hm
        split at hm
        · obtain ⟨reqs, running, rfl⟩ := runCommand_commanded hm
          exact ⟨reqs, rfl⟩
        · cases hm
          exact hnone
    · cases h
  | wake =>
    rw [step, wake] at h
    split at h
    · split at h <;> cases h <;> exact hnone
    · cases h
      exact hnone
    · cases h
  | recv received =>
    rw [step] at h
    split at h
    · cases h
      cases hm : c.readTask P received with
      | none => exact terminate_sends c
      | some c₁ => exact ⟨[], by simp [(readTask_heard hm).sent]⟩
    · cases h
  | hangUp =>
    rw [step] at h
    split at h <;> cases h
    exact terminate_sends c

/-- All that was sent are requests with a NUL behind each. -/
theorem sent_wires (h : (program P).Reach c) :
    ∃ reqs : List ClientRequest, c.sent = (reqs.map wire).flatten := by
  refine h.inv (I := fun c : Console => ∃ reqs : List ClientRequest,
    c.sent = (reqs.map wire).flatten) ?_ ?_
  · rintro _ ⟨rest, rfl⟩
    exact ⟨[], rfl⟩
  · rintro l c c' ⟨reqs, hc⟩ hs
    obtain ⟨more, hm⟩ := step_sends hs
    exact ⟨reqs ++ more, by rw [hm, hc, List.map_append, List.flatten_append]⟩

end Steps

/-- The decoder finds nothing in what was sent. -/
theorem feed_sent {P : JsonParser} {c : Console} (h : (program P).Reach c) {chunks : List Str}
    (hs : chunks.flatten <+: c.sent) :
    ∃ rest : Str, rest.length < 4 ∧ packets.feed [] chunks = ([], rest) := by
  obtain ⟨reqs, hc⟩ := sent_wires h
  rw [hc] at hs
  obtain ⟨more, hmore⟩ := hs
  have hchain := isChain_wires reqs
  rw [← hmore] at hchain
  refine feed_unframed (by simp) ?_
  rw [List.nil_append]
  exact hchain.left_of_append

/-- The bodies that `onMessage` hands on for the chunks. -/
def handedOn (e : Endian) (chunks : List Str) : List Str :=
  ((ChatServer.receive e (fun b => modify (· ++ [b]) : Str → StateM (List Str) Unit) []
    chunks).run []).2

theorem handedOn_sent {P : JsonParser} {c : Console} (h : (program P).Reach c) {chunks : List Str}
    (hs : chunks.flatten <+: c.sent) (e : Endian) : handedOn e chunks = [] := by
  obtain ⟨rest, -, hfeed⟩ := feed_sent h hs
  rw [handedOn, ChatServer.receive_eq, hfeed]
  rfl

/-- **The server hears nothing**: whatever was typed and received, and however TCP has cut what was
sent so far, `onMessage` hands no body on, and keeps less than a length. -/
theorem console_unheard {P : JsonParser} {c : Console} (h : (program P).Reach c)
    {chunks : List Str} (hs : chunks.flatten <+: c.sent) (e : Endian) {m : Type → Type} [Monad m]
    [LawfulMonad m] (handle : Str → m Unit) :
    ∃ rest : Str, rest.length < 4 ∧ ChatServer.receive e handle [] chunks = pure rest := by
  obtain ⟨rest, hrest, hfeed⟩ := feed_sent h hs
  refine ⟨rest, hrest, ?_⟩
  rw [ChatServer.receive_eq, hfeed]
  simp

/-- User ann registers. -/
def annTypes : Console := { cin := { rest := txt "2\nann\npw\n" } }

theorem ann_turn (P : JsonParser) : ∃ c, (program P).runs [.turn true []] annTypes = some c ∧
    c.sent = wire (.reg (txt "ann") (txt "pw")) :=
  ⟨_, rfl, rfl⟩

theorem console_unheard_ann : ∃ c : Console, c.sent = wire (.reg (txt "ann") (txt "pw")) ∧
    ∃ rest : Str, rest.length < 4 ∧ ChatServer.receive .little
      (fun b => modify (· ++ [b]) : Str → StateM (List Str) Unit) [] [c.sent.take 3, c.sent.drop 3] =
        pure rest := by
  obtain ⟨c, hr, hc⟩ := ann_turn (.nlohmann originStrtod)
  have hreach : (program (.nlohmann originStrtod)).Reach c := Machine.Reach.runs (.init ⟨_, rfl⟩) hr
  have hs : [c.sent.take 3, c.sent.drop 3].flatten <+: c.sent := by simp [List.take_append_drop]
  exact ⟨c, hc, console_unheard hreach hs .little _⟩

/-! ## What the server sends -/

/-- Not a word from the server has been taken in. -/
structure Untouched (c : Console) : Prop where
  rwsem : c.rwsem = 0
  success : c.g_isLoginSuccess = false
  cout : c.cout = []
  place : c.place ≠ .mainMenu

/-- The bytes that a run has received. -/
def received (ls : List Label) : Str :=
  ls.flatMap fun l => match l with
    | .recv s => s
    | _ => []

section Packets

variable {F : Nlohmann.Strtod} {c c' : Console} {ls : List Label}

/-- A length begins with a NUL, at which `json::parse` sees the end of the input. -/
theorem parse_nul (s : Str) : (JsonParser.nlohmann F).parse (0 :: s) = none := by
  have hskip : Nlohmann.skipBom (0 :: s) = some (0 :: s) := rfl
  have hscan : Nlohmann.scan (0 :: s) = (.endOfInput, s) := rfl
  have hparse : Nlohmann.parse F (0 :: s) = .error .unexpectedToken := by
    rw [Nlohmann.parse, hskip]
    simp only [hscan]
    rfl
  change (Nlohmann.parse F (0 :: s)).toOption = none
  rw [hparse]
  rfl

theorem terminate_untouched (h : Untouched c) : Untouched c.terminate :=
  ⟨h.rwsem, h.success, h.cout, by simp [terminate]⟩

/-- **The first byte of a packet** ends the process. -/
theorem packet_ends_console {s : Str} (hs : s.head? = some 0)
    (h : step (.nlohmann F) (.recv s) c = some c') : c' = c.terminate := by
  cases s with
  | nil => cases hs
  | cons b s =>
    cases hs
    rw [step] at h
    split at h
    · cases h
      have hread : c.readTask (.nlohmann F) (0 :: s) = none := by
        rw [readTask, List.cons_append, parse_nul]
        rfl
      rw [hread]
      rfl
    · cases h

theorem no_step_ended (P : JsonParser) (hc : c.place = .ended) (l : Label) : step P l c = none := by
  cases l with
  | turn ok now => rw [step, hc]
  | wake => rw [step, wake, hc]
  | recv s => rw [step, if_neg fun h => h.1 hc]
  | hangUp => rw [step, if_neg fun h => h hc]

/-- Without the server the client gets no further than to its first wait. -/
theorem step_untouched {P : JsonParser} {l : Label} (hl : ∀ s, l ≠ .recv s) (hu : Untouched c)
    (h : step P l c = some c') : Untouched c' := by
  cases l with
  | turn ok now =>
    rw [step] at h
    split at h
    · rename_i hp
      cases h
      cases hm : c.menuTurn ok with
      | none => exact terminate_untouched hu
      | some c₁ =>
        have ht := menuTurn_turned hm
        refine ⟨ht.rwsem.trans hu.rwsem, ?_, ht.cout.trans hu.cout, ?_⟩
        · rw [← Bool.not_eq_true]
          intro hs
          have := ht.success hs
          rw [hu.success] at this
          cases this
        · rcases ht.place with hp' | hp' | hp' <;> simp [hp', hp]
    · exact absurd ‹c.place = .mainMenu› hu.place
    · cases h
  | wake =>
    rw [step, wake, hu.rwsem] at h
    split at h <;> simp_all
  | recv s => exact absurd rfl (hl s)
  | hangUp =>
    rw [step] at h
    split at h <;> cases h
    exact terminate_untouched hu

/-- A run that has received nothing but the front of a stream of packets. -/
theorem runs_untouched {stream : Str} (hs : stream = [] ∨ stream.head? = some 0)
    (hu : Untouched c) (hr : (program (.nlohmann F)).runs ls c = some c')
    (hin : received ls <+: stream) : Untouched c' := by
  induction ls generalizing c with
  | nil =>
    cases hr
    exact hu
  | cons l ls ih =>
    obtain ⟨c₁, hl, hrest⟩ := Option.bind_eq_some_iff.mp hr
    have hl : step (.nlohmann F) l c = some c₁ := hl
    by_cases hrecv : ∃ s, l = .recv s
    · obtain ⟨s, rfl⟩ := hrecv
      have hpre : s ++ received ls <+: stream := hin
      have hhead : s.head? = some 0 := by
        obtain ⟨b, s', rfl⟩ : ∃ b s', s = b :: s' := by
          rw [step] at hl
          split at hl
          · exact List.exists_cons_of_length_pos (by omega)
          · cases hl
        obtain ⟨more, rfl⟩ := hpre
        rcases hs with hs | hs
        · cases hs
        · exact hs
      obtain rfl : c₁ = c.terminate := packet_ends_console hhead hl
      -- nothing happens after it
      cases ls with
      | nil =>
        cases hrest
        exact terminate_untouched hu
      | cons l' ls =>
        obtain ⟨c₂, hl', -⟩ := Option.bind_eq_some_iff.mp hrest
        have hl' : step (.nlohmann F) l' c.terminate = some c₂ := hl'
        rw [no_step_ended _ rfl l'] at hl'
        cases hl'
    · have hnot : ∀ s, l ≠ .recv s := fun s e => hrecv ⟨s, e⟩
      refine ih (step_untouched hnot hu hl) hrest ?_
      cases l with
      | recv s => exact absurd rfl (hnot s)
      | _ => exact hin

/-- **Packets are not understood**: a client that receives the front of a stream of packets, of which
the first has a body of less than 16 MiB and the others any, never logs in and shows nothing. The
length of such a body begins with a NUL. -/
theorem console_gets_no_packet {bodies : List Str} {rest : Str} {e : Endian}
    (hb : ∀ b ∈ bodies.head?, b.length < 2 ^ 24)
    (hin : received ls <+: (bodies.map (ChatService.packetOf e)).flatten)
    (hr : (program (.nlohmann F)).runs ls ({ cin := { rest } } : Console) = some c) :
    Untouched c := by
  refine runs_untouched ?_ ⟨rfl, rfl, rfl, by simp⟩ hr hin
  rw [ChatService.packetOf_eq]
  cases bodies with
  | nil => exact .inl rfl
  | cons b bs =>
    right
    have hl := hb b rfl
    rw [List.map_cons, List.flatten_cons, packet, Endian.store, bytesOf]
    have hhead : (UInt32.ofNat b.length >>> 24).toUInt8 = 0 := by
      apply UInt8.toNat_inj.mp
      simp only [UInt32.toNat_toUInt8, UInt32.toNat_shiftRight, UInt32.toNat_ofNat',
        Nat.shiftRight_eq_div_pow]
      simp
      omega
    simp [hhead]

/-- The answer to a registration. -/
def regAck : Json := .object [EnMsgType.regMsgAck.field, ("errno", .int 0), ("id", .int 1)]

theorem console_gets_no_packet_ann : ∃ c : Console, (program (.nlohmann originStrtod)).runs
      [.turn true [], .recv (ChatService.packetOf .little regAck.dump)] annTypes = some c ∧
    Untouched c := by
  have hr : ∃ c, (program (.nlohmann originStrtod)).runs
      [.turn true [], .recv (ChatService.packetOf .little regAck.dump)] annTypes = some c :=
    Option.isSome_iff_exists.mp (by decide +kernel)
  obtain ⟨c, hr⟩ := hr
  have hb : ∀ b ∈ [regAck.dump].head?, b.length < 2 ^ 24 := by
    intro b hb
    cases hb
    decide +kernel
  exact ⟨c, hr, console_gets_no_packet (e := .little) hb List.prefix_rfl hr⟩

/-- **A console client is locked out**, whatever else the servers do, and whatever is typed: for the
connection that it has, if the server takes from it what `onMessage` hands on, and the client receives
what the server sends, then nothing is taken, nothing is sent, and the client never logs in. -/
theorem console_locked_out {ls' : List QtChat.Label} {s₀ s : Sys} {i : ServerId} {conn : ConnId}
    {rest : Str} {chunks : List Str} {e : Endian} (hinit : (system (.nlohmann F)).init s₀)
    (hs : (system (.nlohmann F)).runs ls' s₀ = some s)
    (hr : (program (.nlohmann F)).runs ls ({ cin := { rest } } : Console) = some c)
    (hup : chunks.flatten <+: c.sent) (htaken : bodiesOn i conn ls' = handedOn e chunks)
    (hdown : received ls <+: (((s.world.servers i).outbox.filter fun d => d.conn = conn).map
      fun d => ChatService.packetOf e d.js.dump).flatten) :
    bodiesOn i conn ls' = [] ∧ (∀ d ∈ (s.world.servers i).outbox, d.conn ≠ conn) ∧
      received ls = [] ∧ Untouched c := by
  have hreach : (program (.nlohmann F)).Reach c := Machine.Reach.runs (.init ⟨rest, rfl⟩) hr
  have hnone : bodiesOn i conn ls' = [] := htaken.trans (handedOn_sent hreach hup e)
  have hquiet := unread_unsent hinit hs hnone
  have hsilent : ((s.world.servers i).outbox.filter fun d => d.conn = conn) = [] := by
    rw [List.filter_eq_nil_iff]
    intro d hd
    simpa using hquiet d hd
  rw [hsilent] at hdown
  have hreceived : received ls = [] := List.prefix_nil.mp hdown
  exact ⟨hnone, hquiet, hreceived, runs_untouched (.inl rfl) ⟨rfl, rfl, rfl, by simp⟩ hr
    (List.prefix_nil.mpr hreceived)⟩

theorem console_locked_out_ann : ∃ (s : Sys) (c : Console),
    (system (.nlohmann originStrtod)).runs [.start 0 true, .connect 0 1] Sys.initial = some s ∧
    c.sent = wire (.reg (txt "ann") (txt "pw")) ∧
    bodiesOn 0 1 [.start 0 true, .connect 0 1] = [] ∧
      (∀ d ∈ (s.world.servers 0).outbox, d.conn ≠ 1) ∧
      received [.turn true []] = [] ∧ Untouched c := by
  have hs : ((system (.nlohmann originStrtod)).runs [.start 0 true, .connect 0 1]
      Sys.initial).isSome = true := by decide +kernel
  obtain ⟨s, hs⟩ := Option.isSome_iff_exists.mp hs
  obtain ⟨c, hr, hc⟩ := ann_turn (.nlohmann originStrtod)
  have hreach : (program (.nlohmann originStrtod)).Reach c := Machine.Reach.runs (.init ⟨_, rfl⟩) hr
  have hup : [c.sent].flatten <+: c.sent := by simp
  exact ⟨s, c, hs, hc, console_locked_out origin_init hs hr hup
    (handedOn_sent hreach hup .little).symm List.nil_prefix⟩

end Packets

end Console

end QtChat
