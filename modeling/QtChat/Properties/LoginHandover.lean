import QtChat.Client.Histories
import QtChat.Server.ChatServer

/-!
# From the login dialog to the Widget

The server routes to a connection before it acknowledges the login, and the slots for chat messages
are the Widget's, which is built after the dialog has returned.

- `LoginStream`: the frames of a connection with one successful login.
- `taken`: the frames that the read loop takes, up to one of a length that it refuses.
- `dialogReads`: the reads that come while the dialog is there.
- `main_history`: the Widget has appended the chat messages that came after these reads.
- `no_loss_exactly`: so no chat message is lost exactly if none was complete by then.
-/

namespace QtChat

open Framing

/-! ## Frames and reads -/

/-- The read loop takes a frame with this body. -/
def fits (body : Str) : Bool := 1 ≤ body.length && body.length ≤ 1024 * 1024

/-- The frames before the first one that the read loop refuses. -/
def taken (bodies : List Str) : List Str := bodies.takeWhile fits

/-- That frame, and those after it. -/
def refused (bodies : List Str) : List Str := bodies.dropWhile fits

/-- The bytes of the frames. -/
def wireLength (bodies : List Str) : Nat := (bodies.map (4 + ·.length)).sum

/-- The frames that are complete within the first `n` bytes. -/
def complete : List Str → Nat → List Str
  | [], _ => []
  | b :: bs, n => if 4 + b.length ≤ n then b :: complete bs (n - (4 + b.length)) else []

/-- The reads until `need` bytes have come, and `late` more. -/
def dialogReads (late : Nat) : Nat → List Str → List Str
  | _, [] => []
  | need, c :: cs =>
    if need = 0 then (c :: cs).take late else c :: dialogReads late (need - c.length) cs

/-- The messages of the frames that are JSON. -/
def objects (fromJson : Str → Option Json) (bodies : List Str) : List Json :=
  (bodies.filterMap fromJson).map ChatClient.object

/-- The calls of `appendToHistory` for the chat messages of the frames. -/
def chatCalls (fromJson : Str → Option Json) (bodies : List Str) : List HistoryCall :=
  (objects fromJson bodies).filterMap chatCall

theorem objects_append (fromJson : Str → Option Json) (bs cs : List Str) :
    objects fromJson (bs ++ cs) = objects fromJson bs ++ objects fromJson cs := by
  simp [objects]

theorem chatCalls_append (fromJson : Str → Option Json) (bs cs : List Str) :
    chatCalls fromJson (bs ++ cs) = chatCalls fromJson bs ++ chatCalls fromJson cs := by
  simp [chatCalls, objects_append]

theorem wireLength_append (bs cs : List Str) :
    wireLength (bs ++ cs) = wireLength bs + wireLength cs := by
  simp [wireLength]

theorem wireLength_cons (b : Str) (bs : List Str) :
    wireLength (b :: bs) = 4 + b.length + wireLength bs := by
  simp [wireLength]

theorem taken_append_refused (bodies : List Str) : taken bodies ++ refused bodies = bodies :=
  List.takeWhile_append_dropWhile

/-- What is complete is known from the bytes on both sides of it. -/
theorem complete_eq {done todo : List Str} {n : Nat} (h : wireLength done ≤ n)
    (hn : ∀ b ∈ todo.head?, n < wireLength done + (4 + b.length)) :
    complete (done ++ todo) n = done := by
  induction done generalizing n with
  | nil =>
    cases todo with
    | nil => rfl
    | cons b bs =>
      have := hn b rfl
      rw [List.nil_append, complete, if_neg]
      simp only [wireLength, List.map_nil, List.sum_nil] at this
      omega
  | cons b bs ih =>
    rw [wireLength_cons] at h hn
    rw [List.cons_append, complete, if_pos (by omega), ih (by omega)]
    intro c hc
    have := hn c hc
    omega

/-- The dialog gets the bytes that it needs, or all. -/
theorem dialogReads_enough (late need : Nat) (cs : List Str) :
    need ≤ (dialogReads late need cs).flatten.length ∨ dialogReads late need cs = cs := by
  induction cs generalizing need with
  | nil => exact .inr rfl
  | cons c cs ih =>
    rw [dialogReads]
    split
    · exact .inl (by omega)
    · rcases ih (need - c.length) with h | h
      · left
        rw [List.flatten_cons, List.length_append]
        omega
      · exact .inr (by rw [h])

theorem dialogReads_append_drop (late need : Nat) (cs : List Str) :
    dialogReads late need cs ++ cs.drop (dialogReads late need cs).length = cs := by
  induction cs generalizing need with
  | nil => rfl
  | cons c cs ih =>
    rw [dialogReads]
    split
    · have h := List.take_append_drop late (c :: cs)
      by_cases hl : late ≤ (c :: cs).length
      · rwa [List.length_take, Nat.min_eq_left hl]
      · rw [List.take_of_length_le (by omega), List.drop_length, List.append_nil]
    · rw [List.cons_append, List.length_cons, List.drop_succ_cons, ih]

/-! ## The stream of a login -/

/-- The frames of a connection with one successful login: `ack`, for the user `me`. -/
structure LoginStream (fromJson : Str → Option Json) (bodies pre : List Str) (ack : Str)
    (post : List Str) (me : Int) (offlineMsgs : List Json) : Prop where
  frames : bodies = pre ++ ack :: post
  /-- The acknowledgement. -/
  success : ∃ doc name friends groups, fromJson ack = some doc ∧
    Signal.ofMessage (ChatClient.object doc) =
      some (.loginSuccess me name friends groups offlineMsgs)
  /-- No other one, and the chat messages come from other users. -/
  others : ∀ js ∈ objects fromJson (pre ++ post), FromOthers me js
  /-- The length is a `uint32_t`. -/
  length : ∀ b ∈ bodies, b.length < 2 ^ 32

/-- The Widget is there, these are the calls of `appendToHistory`, and each history holds the newest
500 messages of its calls. -/
def HasHistory (m : Main) (calls : List HistoryCall) : Prop :=
  ∃ w, m.window = .widget w ∧ w.appended = calls ∧ w.Kept

/-- Behind the frames that are taken stands nothing, or a header that no frame has. -/
theorem front_refused {bodies : List Str} (h : ∀ b ∈ bodies, b.length < 2 ^ 32) :
    packets.front ((refused bodies).map packet).flatten = .more ∨
      packets.front ((refused bodies).map packet).flatten = .bad := by
  cases hr : refused bodies with
  | nil => exact .inl rfl
  | cons b bs =>
    right
    replace hr : bodies.dropWhile fits = b :: bs := hr
    have hmem : b ∈ bodies := (List.dropWhile_sublist fits).subset (by rw [hr]; simp)
    have hfit : fits b = false := by simpa [hr] using List.head?_dropWhile_not fits bodies
    have hl : (UInt32.ofNat b.length).toNat = b.length := by
      rw [UInt32.toNat_ofNat', Nat.mod_eq_of_lt (h b hmem)]
    change packetFront ((b :: bs).map packet).flatten = .bad
    rw [packetFront_bad, List.map_cons, List.flatten_cons, packet, List.append_assoc,
      Endian.load_store, hl]
    simp only [fits, Bool.and_eq_false_iff, decide_eq_false_iff_not] at hfit
    refine ⟨by simp, ?_⟩
    simp only [maxBody]
    omega

theorem frames_taken (bodies : List Str) : packets.Frames (bodies.map packet).flatten (taken bodies)
    ((refused bodies).map packet).flatten := by
  have hfits : ∀ b ∈ taken bodies, b ≠ [] ∧ b.length ≤ maxBody := by
    intro b hb
    have hfit := List.mem_takeWhile_imp hb
    simp only [fits, Bool.and_eq_true, decide_eq_true_eq] at hfit
    exact ⟨List.ne_nil_of_length_pos hfit.1, hfit.2⟩
  have hf := (frames_packets hfits).append ((refused bodies).map packet).flatten
  rwa [List.nil_append, ← List.flatten_append, ← List.map_append, taken_append_refused] at hf

/-! ## The reads -/

/-- What is left of the stream: the frames `todo`, then `t`, `rest` being still to be read. -/
structure Progress (c : ChatClient) (rest : Str) (todo : List Str) (t : Str) : Prop where
  run : c.aborted = false →
    packets.front c.m_recvBuf = .more ∧ packets.Frames (c.m_recvBuf ++ rest) todo t
  stop : c.aborted = true → todo = [] ∧ rest.length ≤ t.length

section

variable {e : Endian} {fromJson : Str → Option Json} {late : Nat} {t : Str}

theorem frames_length {s : Str} {bs : List Str} (h : packets.Frames s bs t) :
    s.length = wireLength bs + t.length := by
  induction h with
  | nil s => simp [wireLength]
  | cons hf _ ih =>
    obtain ⟨hl, -, -, -, hd⟩ := packetFront_frame.mp hf
    have := congrArg List.length hd
    rw [List.length_drop, List.length_append] at this
    rw [wireLength_cons]
    omega

/-- A buffer with the beginning of a frame is shorter than the frame. -/
theorem length_of_more {u rest b r : Str} (hu : packets.front u = .more)
    (h : packets.front (u ++ rest) = .frame b r) : u.length < 4 + b.length := by
  by_contra hlt
  rw [Nat.not_lt] at hlt
  obtain ⟨-, hn, hne, hm, hd⟩ := packetFront_frame.mp h
  have hload : Endian.load .big (u ++ rest) = Endian.load .big u := by
    have := Endian.load_take .big (Nat.le_refl 4) (s := u) (by omega) (u.drop 4 ++ rest)
    rwa [← List.append_assoc, List.take_append_drop] at this
  have : packets.front u = .frame b (u.drop (4 + b.length)) := by
    refine packetFront_frame.mpr ⟨hlt, by rw [← hload, hn], hne, hm, ?_⟩
    have htake := congrArg (List.take b.length) hd
    rw [List.take_left, List.drop_append_of_le_length (by omega),
      List.take_append_of_le_length (by rw [List.length_drop]; omega)] at htake
    rw [← List.drop_drop]
    conv_lhs => rw [← List.take_append_drop b.length (u.drop 4), htake]
  rw [hu] at this
  cases this

/-- The bytes still to be read, between those of the frames. -/
theorem Progress.bounds {c : ChatClient} {rest : Str} {todo : List Str}
    (h : Progress c rest todo t) : rest.length ≤ wireLength todo + t.length ∧
      ∀ b ∈ todo.head?, wireLength todo + t.length < rest.length + (4 + b.length) := by
  cases ha : c.aborted with
  | true =>
    obtain ⟨rfl, hl⟩ := h.stop ha
    exact ⟨by omega, by simp⟩
  | false =>
    obtain ⟨hbuf, hf⟩ := h.run ha
    have hl := frames_length hf
    rw [List.length_append] at hl
    refine ⟨by omega, fun b hb => ?_⟩
    cases hf with
    | nil => simp at hb
    | cons hfront _ =>
      cases hb
      have := length_of_more hbuf hfront
      omega

theorem handleAll_handled (fromJson : Str → Option Json) (c : ChatClient) (bs : List Str) :
    (ChatClient.handleAll fromJson c bs).handled.drop c.handled.length = objects fromJson bs := by
  simp [ChatClient.handleAll, objects]

/-- One read: some of the frames go to the slots. -/
theorem Progress.read (e : Endian) (fromJson : Str → Option Json) {m : Main} {chunk rest : Str}
    {todo : List Str} (h : Progress m.client (chunk ++ rest) todo t) (ht : ∀ b r, packets.front t ≠ .frame b r) :
    ∃ bs todo', todo = bs ++ todo' ∧ Progress (m.read e fromJson chunk).client rest todo' t ∧
      (m.read e fromJson chunk).window =
        (objects fromJson bs).foldl (Window.handleMessage fromJson) m.window := by
  unfold Main.read
  cases ha : m.client.aborted with
  | true =>
    obtain ⟨rfl, hl⟩ := h.stop ha
    rw [List.length_append] at hl
    exact ⟨[], [], rfl, ⟨by simp [ha], fun _ => ⟨rfl, by omega⟩⟩, rfl⟩
  | false =>
    obtain ⟨-, hf⟩ := h.run ha
    rw [← List.append_assoc] at hf
    obtain ⟨bs, todo', u, rfl, hu, hf', huf | ⟨huf, rfl, rfl⟩⟩ := hf.front_part ht
    · have hread : m.client.onReadyRead e fromJson chunk =
          ChatClient.handleAll fromJson { m.client with m_recvBuf := u } bs :=
        ChatClient.readLoop_frames e fromJson hu huf
      refine ⟨bs, todo', rfl, ?_, ?_⟩
      · simp only [Bool.false_eq_true, if_false, hread]
        exact ⟨fun _ => ⟨huf, hf'⟩, fun h' => by simp [ChatClient.handleAll, ha] at h'⟩
      · simp only [Bool.false_eq_true, if_false, hread]
        rw [← handleAll_handled fromJson { m.client with m_recvBuf := u }]
    · have hread : m.client.onReadyRead e fromJson chunk =
          ChatClient.handleAll fromJson { m.client with m_recvBuf := [], aborted := true } bs :=
        ChatClient.readLoop_frames_bad e fromJson hu huf
      refine ⟨bs, [], rfl, ?_, ?_⟩
      · simp only [Bool.false_eq_true, if_false, hread]
        refine ⟨fun h' => by simp [ChatClient.handleAll] at h', fun _ => ⟨rfl, ?_⟩⟩
        rw [List.length_append]
        omega
      · simp only [Bool.false_eq_true, if_false, hread]
        rw [← handleAll_handled fromJson { m.client with m_recvBuf := [], aborted := true }]

/-- Any reads. -/
theorem Progress.reads (e : Endian) (fromJson : Str → Option Json) {m : Main}
    {chunks : List Str} {rest : Str} {todo : List Str} (h : Progress m.client (chunks.flatten ++ rest) todo t)
    (ht : ∀ b r, packets.front t ≠ .frame b r) :
    ∃ bs todo', todo = bs ++ todo' ∧
      Progress (chunks.foldl (Main.read e fromJson) m).client rest todo' t ∧
      (chunks.foldl (Main.read e fromJson) m).window =
        (objects fromJson bs).foldl (Window.handleMessage fromJson) m.window := by
  induction chunks generalizing m todo with
  | nil => exact ⟨[], todo, rfl, h, rfl⟩
  | cons chunk chunks ih =>
    rw [List.flatten_cons, List.append_assoc] at h
    obtain ⟨bs, todo₁, rfl, h₁, hw₁⟩ := h.read e fromJson ht
    obtain ⟨bs', todo₂, rfl, h₂, hw₂⟩ := ih h₁
    refine ⟨bs ++ bs', todo₂, (List.append_assoc ..).symm, h₂, ?_⟩
    rw [List.foldl_cons, hw₂, hw₁, objects_append, List.foldl_append]

/-- When all is read, all frames have been taken. -/
theorem Progress.all {c : ChatClient} {todo : List Str} (h : Progress c [] todo t) : todo = [] := by
  cases todo with
  | nil => rfl
  | cons b bs =>
    have := h.bounds.2 b rfl
    rw [wireLength_cons, List.length_nil] at this
    omega

/-- What has been read tells which frames have been taken. -/
theorem Progress.complete {c : ChatClient} {rest : Str} {todo : List Str}
    (h : Progress c rest todo t) (done : List Str) :
    complete (done ++ todo) (wireLength (done ++ todo) + t.length - rest.length) = done := by
  obtain ⟨h₁, h₂⟩ := h.bounds
  rw [wireLength_append]
  refine complete_eq (by omega) fun b hb => ?_
  have := h₂ b hb
  omega

/-! ## The dialog -/

variable {bodies pre post post' : List Str} {ack : Str} {me : Int} {offlineMsgs : List Json}

/-- Some frames of a login stream end before its acknowledgement, or behind it. -/
theorem split_at_ack {done todo : List Str} (h : done ++ todo = pre ++ ack :: post') :
    (∃ b xs ys, pre = done ++ ys ∧ pre ++ [ack] = done ++ b :: xs ∧ todo = b :: xs ++ post') ∨
      ∃ xs, done = pre ++ ack :: xs ∧ post' = xs ++ todo := by
  rw [← List.singleton_append, ← List.append_assoc, List.append_eq_append_iff] at h
  rcases h with ⟨a, ha, ht⟩ | ⟨c, hc, hp⟩
  · cases a with
    | nil => exact .inr ⟨[], by simpa using ha.symm, by simpa using ht.symm⟩
    | cons b xs =>
      have hdrop := congrArg List.dropLast ha
      rw [List.dropLast_concat, List.dropLast_append_of_ne_nil (by simp)] at hdrop
      exact .inl ⟨b, xs, _, hdrop, ha, ht⟩
  · exact .inr ⟨c, by simpa using hc, hp⟩

/-- Before the acknowledgement the dialog is not accepted. -/
theorem LoginStream.before (h : LoginStream fromJson bodies pre ack post me offlineMsgs)
    {done xs : List Str} (hpre : pre = done ++ xs) :
    ∃ d, (objects fromJson done).foldl (Window.handleMessage fromJson) (.dialog .loggingIn) =
      .dialog d ∧ d.accepted = false := by
  have hno : ∀ js ∈ objects fromJson done, js.isMsg .loginMsgAck = false := by
    intro js hjs
    refine (h.others js ?_).noAck
    rw [hpre, objects_append, objects_append]
    simp [hjs]
  obtain ⟨d, hd, ha, -, -⟩ := handleAll_dialog fromJson .loggingIn hno
  exact ⟨d, hd, ha⟩

/-- Behind it the dialog has what the Widget is built from. -/
theorem LoginStream.behind (h : LoginStream fromJson bodies pre ack post me offlineMsgs)
    {xs ys : List Str} (hpost : post = xs ++ ys) :
    ∃ d, (objects fromJson (pre ++ ack :: xs)).foldl (Window.handleMessage fromJson)
      (.dialog .loggingIn) = .dialog d ∧ d.accepted = true ∧ d.m_userId = me ∧
        d.m_offlineMsgs = offlineMsgs := by
  obtain ⟨doc, name, friends, groups, hdoc, hsig⟩ := h.success
  obtain ⟨d, hd, -⟩ := h.before (List.append_nil pre).symm
  have hno : ∀ js ∈ objects fromJson xs, js.isMsg .loginMsgAck = false := by
    intro js hjs
    refine (h.others js ?_).noAck
    rw [hpost, objects_append, objects_append]
    simp [hjs]
  obtain ⟨d', hd', ha, hu, ho⟩ := handleAll_dialog fromJson
    (d.onLoginSuccess me name friends groups offlineMsgs) hno
  refine ⟨d', ?_, ha, hu, ho⟩
  have hobj : objects fromJson (ack :: xs) = ChatClient.object doc :: objects fromJson xs := by
    simp [objects, hdoc]
  rw [objects_append, List.foldl_append, hd, hobj, List.foldl_cons, ← hd']
  simp [Window.handleMessage, hsig, LoginDialog.slot]

/-- The bytes read so far tell whether the dialog is accepted. -/
theorem accepted_iff (h : LoginStream fromJson bodies pre ack post me offlineMsgs)
    (hpost : pre ++ ack :: post' <+: bodies) {m : Main} {rest : Str} {done todo : List Str}
    (hsplit : done ++ todo = pre ++ ack :: post') (hp : Progress m.client rest todo t)
    (hw : m.window =
      (objects fromJson done).foldl (Window.handleMessage fromJson) (.dialog .loggingIn)) :
    m.accepted = true ↔ wireLength (pre ++ [ack]) -
      (wireLength (pre ++ ack :: post') + t.length - rest.length) = 0 := by
  obtain ⟨h₁, h₂⟩ := hp.bounds
  have hlen := congrArg wireLength hsplit
  rw [wireLength_append] at hlen
  rw [← hlen]
  rcases split_at_ack hsplit with ⟨b, xs, ys, hys, hpre, rfl⟩ | ⟨xs, rfl, rfl⟩
  · -- the next frame is not complete, and it is the acknowledgement or stands before it
    obtain ⟨d, hd, ha⟩ := h.before hys
    have hacc : m.accepted = false := by rw [Main.accepted, hw, hd]; exact ha
    have hb := h₂ b rfl
    rw [hacc, hpre, wireLength_append, wireLength_cons]
    simp only [Bool.false_eq_true, false_iff]
    omega
  · obtain ⟨ys, hys⟩ := hpost
    have hx : post = xs ++ (todo ++ ys) := by
      have := h.frames
      rw [← hys] at this
      simpa using this.symm
    obtain ⟨d, hd, ha, -, -⟩ := h.behind hx
    have hacc : m.accepted = true := by rw [Main.accepted, hw, hd]; exact ha
    rw [hacc, wireLength_append pre, wireLength_append pre, wireLength_cons, wireLength_cons]
    simp only [true_iff]
    have : wireLength ([] : List Str) = 0 := rfl
    omega

/-- The dialog's reads, when its acknowledgement is taken. -/
theorem exec_eq (h : LoginStream fromJson bodies pre ack post me offlineMsgs)
    (hpost : pre ++ ack :: post' <+: bodies) (ht : ∀ b r, packets.front t ≠ .frame b r)
    {chunks : List Str} {m : Main} {done todo : List Str}
    (hsplit : done ++ todo = pre ++ ack :: post') (hp : Progress m.client chunks.flatten todo t)
    (hw : m.window =
      (objects fromJson done).foldl (Window.handleMessage fromJson) (.dialog .loggingIn))
    {need : Nat} (hneed : need = wireLength (pre ++ [ack]) -
      (wireLength (pre ++ ack :: post') + t.length - chunks.flatten.length)) :
    m.exec e fromJson late chunks = ((dialogReads late need chunks).foldl (Main.read e fromJson) m,
      chunks.drop (dialogReads late need chunks).length) := by
  induction chunks generalizing m done todo need with
  | nil => rfl
  | cons chunk chunks ih =>
    have hacc := accepted_iff h hpost hsplit hp hw
    rw [← hneed] at hacc
    rw [Main.exec, dialogReads]
    by_cases hz : need = 0
    · rw [if_pos (hacc.mpr hz), if_pos hz, List.length_take, Prod.mk.injEq]
      refine ⟨rfl, ?_⟩
      rcases Nat.le_total late (chunk :: chunks).length with hl | hl
      · rw [Nat.min_eq_left hl]
      · rw [Nat.min_eq_right hl, List.drop_length, List.drop_eq_nil_of_le hl]
    · rw [if_neg (fun ha => hz (hacc.mp ha)), if_neg hz]
      have hlen := hp.bounds.1
      have hall := congrArg wireLength hsplit
      rw [wireLength_append] at hall
      rw [List.flatten_cons] at hp
      obtain ⟨bs, todo', rfl, hp', hw'⟩ := hp.read e fromJson ht
      have hsplit' : done ++ bs ++ todo' = pre ++ ack :: post' := by rw [List.append_assoc, hsplit]
      refine ih hsplit' hp' ?_ ?_
      · rw [hw', hw, objects_append, List.foldl_append]
      · rw [hneed]
        rw [List.flatten_cons, List.length_append] at hlen ⊢
        omega

/-- When it is not, the dialog stays. -/
theorem exec_unaccepted (e : Endian) (late : Nat) (h : LoginStream fromJson bodies pre ack post me offlineMsgs)
    (ht : ∀ b r, packets.front t ≠ .frame b r) {chunks : List Str} {m : Main}
    {done todo xs : List Str} (hpre : pre = done ++ todo ++ xs)
    (hp : Progress m.client chunks.flatten todo t)
    (hw : m.window =
      (objects fromJson done).foldl (Window.handleMessage fromJson) (.dialog .loggingIn)) :
    ∃ m' d, m.exec e fromJson late chunks = (m', []) ∧ m'.window = .dialog d ∧
      d.accepted = false := by
  rw [List.append_assoc] at hpre
  induction chunks generalizing m done todo with
  | nil =>
    obtain ⟨d, hd, ha⟩ := h.before hpre
    exact ⟨m, d, rfl, hw.trans hd, ha⟩
  | cons chunk chunks ih =>
    obtain ⟨d, hd, ha⟩ := h.before hpre
    have hacc : ¬m.accepted = true := by rw [Main.accepted, hw, hd]; simp [ha]
    rw [Main.exec, if_neg hacc]
    rw [List.flatten_cons] at hp
    obtain ⟨bs, todo', rfl, hp', hw'⟩ := hp.read e fromJson ht
    have hpre' : pre = done ++ bs ++ (todo' ++ xs) := by simpa using hpre
    refine ih hpre' hp' ?_
    rw [hw', hw, objects_append, List.foldl_append]

end

/-! ## The whole connection -/

section

variable (e : Endian) {fromJson : Str → Option Json} (late : Nat) {bodies pre post : List Str}
  {ack : Str} {me : Int} {offlineMsgs : List Json} {chunks : List Str}

/-- The frames that are complete when the Widget is built. -/
def beforeWidget (late : Nat) (bodies pre : List Str) (ack : Str) (chunks : List Str) : List Str :=
  complete (taken bodies) (dialogReads late (wireLength (pre ++ [ack])) chunks).flatten.length

theorem LoginStream.progress (h : LoginStream fromJson bodies pre ack post me offlineMsgs)
    (hs : chunks.flatten = (bodies.map packet).flatten) :
    Progress Main.start.client chunks.flatten (taken bodies) ((refused bodies).map packet).flatten ∧
      ∀ b r, packets.front ((refused bodies).map packet).flatten ≠ .frame b r := by
  refine ⟨⟨fun _ => ⟨rfl, ?_⟩, fun h => by cases h⟩, fun b r hf => ?_⟩
  · rw [hs]
    exact frames_taken bodies
  · rcases front_refused h.length with h | h <;> rw [hf] at h <;> cases h

/-- What `exec` leaves, when the acknowledgement is taken. -/
theorem exec_accepted (h : LoginStream fromJson bodies pre ack post me offlineMsgs)
    (hs : chunks.flatten = (bodies.map packet).flatten) (hack : pre ++ [ack] <+: taken bodies) :
    ∃ m rest todo, Main.start.exec e fromJson late chunks = (m, rest) ∧
      taken bodies = beforeWidget late bodies pre ack chunks ++ todo ∧
      Progress m.client rest.flatten todo ((refused bodies).map packet).flatten ∧
      m.window = (objects fromJson (beforeWidget late bodies pre ack chunks)).foldl
        (Window.handleMessage fromJson) (.dialog .loggingIn) ∧ m.accepted = true := by
  obtain ⟨hp, ht⟩ := h.progress hs
  obtain ⟨post', hpost⟩ := hack
  rw [List.append_assoc, List.singleton_append] at hpost
  have hpre : pre ++ ack :: post' <+: bodies := by
    rw [hpost]
    exact List.takeWhile_prefix fits
  have htotal := frames_length (frames_taken bodies)
  rw [← hs] at htotal
  generalize hreads : dialogReads late (wireLength (pre ++ [ack])) chunks = reads
  have hexec : Main.start.exec e fromJson late chunks =
      (reads.foldl (Main.read e fromJson) Main.start, chunks.drop reads.length) := by
    have hsplit : [] ++ taken bodies = pre ++ ack :: post' := hpost.symm
    rw [← hreads]
    exact exec_eq h hpre ht hsplit hp rfl (by rw [hpost]; omega)
  have hflat : reads.flatten ++ (chunks.drop reads.length).flatten = chunks.flatten := by
    rw [← List.flatten_append, ← hreads, dialogReads_append_drop]
  rw [← hflat] at hp
  obtain ⟨done, todo, hdone, hp₁, hw₁⟩ := hp.reads e fromJson ht
  have hlen := congrArg List.length hflat
  rw [List.length_append] at hlen
  have hbefore : beforeWidget late bodies pre ack chunks = done := by
    have := hp₁.complete done
    rw [← hdone] at this
    rw [beforeWidget, hreads]
    convert this using 2
    omega
  refine ⟨_, _, todo, hexec, by rw [hbefore, hdone], hp₁, by rw [hbefore, hw₁]; rfl, ?_⟩
  rw [accepted_iff h hpre (hdone.symm.trans hpost.symm) hp₁ hw₁, hpost]
  rcases dialogReads_enough late (wireLength (pre ++ [ack])) chunks with hn | hn
  · rw [hreads] at hn
    omega
  · -- all has been read
    rw [hreads] at hn
    subst hn
    have := congrArg wireLength hpost
    rw [List.append_cons, wireLength_append] at this
    rw [List.drop_length, List.flatten_nil, List.length_nil]
    omega

/-- **The histories of a login.** The acknowledgement being taken, the Widget has appended the
offline messages and the chat messages that were not complete when it was built. -/
theorem main_history (h : LoginStream fromJson bodies pre ack post me offlineMsgs)
    (hs : chunks.flatten = (bodies.map packet).flatten) (hack : pre ++ [ack] <+: taken bodies) :
    ∃ todo, taken bodies = beforeWidget late bodies pre ack chunks ++ todo ∧
      HasHistory (Main.main e fromJson late chunks)
        (offlineCalls fromJson offlineMsgs ++ chatCalls fromJson todo) := by
  obtain ⟨m, rest, todo, hexec, hsplit, hp, hw, hacc⟩ :=
    exec_accepted e late h hs hack
  refine ⟨todo, hsplit, ?_⟩
  generalize beforeWidget late bodies pre ack chunks = done at hsplit hw
  -- the frames behind the acknowledgement
  obtain ⟨post', hpost⟩ := hack
  rw [List.append_assoc, List.singleton_append, hsplit] at hpost
  have hbodies := taken_append_refused bodies
  rcases split_at_ack hpost.symm with ⟨b, xs, ys, hys, -, -⟩ | ⟨xs, rfl, rfl⟩
  · obtain ⟨d, hd, ha⟩ := h.before hys
    rw [Main.accepted, hw, hd] at hacc
    exact absurd (ha.symm.trans hacc) (by simp)
  have hx : post = xs ++ (todo ++ refused bodies) := by
    rw [hsplit] at hbodies
    simpa using h.frames.symm.trans hbodies.symm
  obtain ⟨d, hd, ha, hu, ho⟩ := h.behind hx
  obtain ⟨hid, happ, hkept⟩ := Widget.new_spec fromJson me offlineMsgs
  have hbuild : m.build fromJson = ⟨m.client, .widget (.new fromJson me offlineMsgs)⟩ := by
    rw [Main.build, hw, hd]
    simp [ha, hu, ho]
  -- the Widget gets all the rest
  obtain ⟨-, ht⟩ := h.progress hs
  have hp' : Progress (m.build fromJson).client (rest.flatten ++ []) todo
      ((refused bodies).map packet).flatten := by
    rw [hbuild, List.append_nil]
    exact hp
  obtain ⟨bs, todo', rfl, hp₁, hw₁⟩ := hp'.reads e fromJson ht
  obtain rfl := hp₁.all
  have hothers : ∀ js ∈ objects fromJson bs,
      FromOthers (Widget.new fromJson me offlineMsgs).m_myId js := by
    intro js hjs
    rw [hid]
    refine h.others js ?_
    rw [hx, objects_append, objects_append, objects_append, objects_append]
    simp [hjs]
  obtain ⟨w, hw₂, -, happ₂, hk₂⟩ := handleAll_widget fromJson hothers
  refine ⟨w, ?_, ?_, hk₂ hkept⟩
  · rw [Main.main, hexec, hw₁, hbuild]
    exact hw₂
  · rw [happ₂, happ, List.append_nil]
    rfl

/-- Without the acknowledgement there is no Widget. -/
theorem no_history (h : LoginStream fromJson bodies pre ack post me offlineMsgs)
    (hs : chunks.flatten = (bodies.map packet).flatten) (hack : ¬pre ++ [ack] <+: taken bodies)
    (calls : List HistoryCall) : ¬HasHistory (Main.main e fromJson late chunks) calls := by
  obtain ⟨hp, ht⟩ := h.progress hs
  have hbodies := taken_append_refused bodies
  rw [h.frames] at hbodies
  rcases split_at_ack hbodies with ⟨b, xs, ys, hys, -, -⟩ | ⟨xs, htaken, -⟩
  · rw [← h.frames] at hys
    have hys₀ : pre = [] ++ taken bodies ++ ys := hys
    obtain ⟨m, d, hexec, hw, ha⟩ :=
      exec_unaccepted e late h ht hys₀ hp rfl
    rintro ⟨w, hwidget, -⟩
    rw [Main.main, hexec] at hwidget
    simp only [List.foldl_nil, Main.build, hw, ha, Bool.false_eq_true, if_false] at hwidget
    cases hwidget
  · exact absurd ⟨xs, by rw [h.frames, htaken]; simp⟩ hack

/-- **No chat message is lost exactly if none was complete when the Widget was built**, the frames
that matter being of a length that the read loop takes. -/
theorem no_loss_exactly (e' : Endian) (h : LoginStream fromJson bodies pre ack post me offlineMsgs)
    (hs : chunks.flatten = (bodies.map (ChatService.packetOf e')).flatten) :
    HasHistory (Main.main e fromJson late chunks)
        (offlineCalls fromJson offlineMsgs ++ chatCalls fromJson bodies) ↔
      pre ++ [ack] <+: taken bodies ∧ chatCalls fromJson (refused bodies) = [] ∧
        chatCalls fromJson (beforeWidget late bodies pre ack chunks) = [] := by
  rw [ChatService.packetOf_eq] at hs
  by_cases hack : pre ++ [ack] <+: taken bodies
  · obtain ⟨todo, hsplit, w, hw, happ, hk⟩ := main_history e late h hs hack
    have hall : chatCalls fromJson bodies =
        chatCalls fromJson (beforeWidget late bodies pre ack chunks) ++
          (chatCalls fromJson todo ++ chatCalls fromJson (refused bodies)) := by
      rw [← chatCalls_append, ← chatCalls_append, ← List.append_assoc, ← hsplit,
        taken_append_refused]
    simp only [hack, true_and]
    constructor
    · rintro ⟨w', hw', happ', -⟩
      rw [hw] at hw'
      cases hw'
      have hlen := congrArg List.length (List.append_cancel_left (happ.symm.trans happ'))
      rw [hall, List.length_append, List.length_append] at hlen
      exact ⟨List.length_eq_zero_iff.mp (by omega), List.length_eq_zero_iff.mp (by omega)⟩
    · rintro ⟨hr, hb⟩
      refine ⟨w, hw, ?_, hk⟩
      rw [happ, hall, hr, hb, List.nil_append, List.append_nil]
  · simp only [hack, false_and, iff_false]
    exact no_history e late h hs hack _

end

/-- An acknowledgement, and a message that is routed to the connection. -/
def welcome : Json :=
  .object [EnMsgType.loginMsgAck.field, ("errno", .int 0), ("id", .int 1), ("name", .str (txt "b"))]

def greeting : Json :=
  .object [EnMsgType.oneChatMsg.field, ("id", .int 2), ("msg", .str (txt "hi"))]

/-- Both parse. -/
def readTwo (s : Str) : Option Json :=
  if s = welcome.dump then some welcome else if s = greeting.dump then some greeting else none

theorem welcome_greeting : LoginStream readTwo [welcome.dump, greeting.dump] [] welcome.dump
    [greeting.dump] 1 [] where
  frames := rfl
  success := ⟨welcome, txt "b", [], [], if_pos rfl, rfl⟩
  others := by
    have hne : ¬greeting.dump = welcome.dump := by decide
    have h : objects readTwo ([] ++ [greeting.dump]) = [greeting] := by
      simp only [objects, List.nil_append, List.filterMap_cons, readTwo, if_neg hne, if_true]
      rfl
    rw [h]
    intro js hjs
    obtain rfl := List.mem_singleton.mp hjs
    exact ⟨by decide, fun _ => by decide⟩
  length := by decide

/-- The message in a read of its own. -/
theorem no_loss_two_reads : HasHistory
    (Main.main .little readTwo 0 [packet welcome.dump, packet greeting.dump])
    (offlineCalls readTwo [] ++ chatCalls readTwo [welcome.dump, greeting.dump]) :=
  (no_loss_exactly .little 0 .little welcome_greeting (by decide)).mpr
    ⟨by decide, by decide, by decide⟩

/-- The message in the read of the acknowledgement. -/
theorem lost_in_one_read : ¬∀ (e e' : Endian) (fromJson : Str → Option Json) (late : Nat)
    (bodies pre : List Str) (ack : Str) (post : List Str) (me : Int) (offlineMsgs : List Json)
    (chunks : List Str), LoginStream fromJson bodies pre ack post me offlineMsgs →
      chunks.flatten = (bodies.map (ChatService.packetOf e')).flatten →
        HasHistory (Main.main e fromJson late chunks)
          (offlineCalls fromJson offlineMsgs ++ chatCalls fromJson bodies) := by
  intro h
  obtain ⟨w, hw, happ, -⟩ := h .little .little readTwo 0 _ _ _ _ _ _
    [packet welcome.dump ++ packet greeting.dump] welcome_greeting (by decide)
  have hs : [packet welcome.dump ++ packet greeting.dump].flatten =
      ([welcome.dump, greeting.dump].map packet).flatten := by decide
  obtain ⟨todo, htodo, w', hw', happ', -⟩ :=
    main_history .little 0 welcome_greeting hs (by decide)
  have hall : beforeWidget 0 [welcome.dump, greeting.dump] [] welcome.dump
      [packet welcome.dump ++ packet greeting.dump] = [welcome.dump, greeting.dump] := by decide
  have hnone : todo = [] := by
    have hlen := congrArg List.length htodo
    have htaken : (taken [welcome.dump, greeting.dump]).length = 2 := by decide
    rw [hall, List.length_append, htaken] at hlen
    simpa using hlen
  subst hnone
  rw [hw] at hw'
  cases hw'
  have hlen := congrArg List.length (happ.symm.trans happ')
  revert hlen
  decide

end QtChat
