import QtChat.Client.Windows

/-!
# The message histories of the Widget

- `Kept`: every history holds the newest 500 of the messages that were appended to it.
- `chatCall`: the call of `appendToHistory` that a chat message makes.
- `handleAll_widget`: what messages from other users make of the Widget.
-/

namespace QtChat

/-- The last 500. -/
def newest (hist : List ChatMsg) : List ChatMsg := hist.drop (hist.length - 500)

/-- The messages that the calls append to one history. -/
def msgsOf (calls : List HistoryCall) (isGroup : Bool) (id : Int) : List ChatMsg :=
  (calls.filter fun c => c.isGroup = isGroup ∧ c.targetId = id).map (·.cm)

/-- The call that a chat message makes. -/
def chatCall (js : Json) : Option HistoryCall :=
  if js.isMsg .oneChatMsg then
    some ⟨(js.value "id").qtInt, false,
      ⟨false, (js.value "name").qtString, (js.value "time").qtString, (js.value "msg").qtString⟩⟩
  else if js.isMsg .groupChatMsg then
    some ⟨(js.value "groupid").qtInt, true,
      ⟨false, (js.value "name").qtString, (js.value "time").qtString, (js.value "msg").qtString⟩⟩
  else none

/-- The calls for the offline messages of an acknowledgement. -/
def offlineCalls (fromJson : Str → Option Json) (offlineMsgs : List Json) : List HistoryCall :=
  (offlineMsgs.map (Widget.offlineObj fromJson)).filterMap chatCall

theorem Json.isMsg_inj {js : Json} {m m' : EnMsgType} (h : js.isMsg m = true)
    (h' : js.isMsg m' = true) : m = m' := by
  simp only [isMsg, decide_eq_true_eq] at h h'
  rw [h] at h'
  revert h'
  cases m <;> cases m' <;> simp [EnMsgType.toInt]

theorem Json.isMsg_ne {js : Json} {m m' : EnMsgType} (h : js.isMsg m = true) (hm : m' ≠ m) :
    js.isMsg m' = false := by
  by_contra h'
  rw [Bool.not_eq_false] at h'
  exact hm (isMsg_inj h' h)

namespace Widget

/-- Every history is the newest messages that were appended to it. -/
structure Kept (w : Widget) : Prop where
  friend : ∀ id, w.m_friendMsgHistory id = newest (msgsOf w.appended false id)
  group : ∀ id, w.m_groupMsgHistory id = newest (msgsOf w.appended true id)

/-- A bounded queue holds the last elements that were put in. -/
theorem bounded_push {α : Type} (n : Nat) (xs : List α) (x : α) :
    (if (xs.drop (xs.length - n) ++ [x]).length > n then (xs.drop (xs.length - n) ++ [x]).tail
      else xs.drop (xs.length - n) ++ [x]) = (xs ++ [x]).drop ((xs ++ [x]).length - n) := by
  rw [List.length_append, List.length_append, List.length_drop, List.length_singleton]
  split
  · rename_i h
    rw [← List.drop_one, ← List.drop_append_of_le_length (by omega), List.drop_drop]
    congr 1
    omega
  · rename_i h
    rw [show xs.length - n = 0 by omega, show xs.length + 1 - n = 0 by omega]
    rfl

/-- A push onto the newest messages gives the newest messages. -/
theorem push_newest (hist : List ChatMsg) (cm : ChatMsg) :
    push (newest hist) cm = newest (hist ++ [cm]) :=
  bounded_push 500 hist cm

@[simp] theorem appendToHistory_appended (w : Widget) (id : Int) (g : Bool) (cm : ChatMsg) :
    (w.appendToHistory id g cm).appended = w.appended ++ [⟨id, g, cm⟩] := by
  unfold appendToHistory
  split <;> rfl

@[simp] theorem appendToHistory_myId (w : Widget) (id : Int) (g : Bool) (cm : ChatMsg) :
    (w.appendToHistory id g cm).m_myId = w.m_myId := by
  unfold appendToHistory
  split <;> rfl

theorem msgsOf_append (calls : List HistoryCall) (c : HistoryCall) (g : Bool) (id : Int) :
    msgsOf (calls ++ [c]) g id =
      msgsOf calls g id ++ if c.isGroup = g ∧ c.targetId = id then [c.cm] else [] := by
  unfold msgsOf
  rw [List.filter_append, List.map_append]
  by_cases h : c.isGroup = g ∧ c.targetId = id <;> simp [h]

theorem Kept.appendToHistory {w : Widget} (h : w.Kept) (id : Int) (g : Bool) (cm : ChatMsg) :
    (w.appendToHistory id g cm).Kept := by
  constructor
  · intro i
    rw [appendToHistory_appended, msgsOf_append]
    cases g with
    | true => simpa [Widget.appendToHistory] using h.friend i
    | false =>
      by_cases hi : i = id
      · subst hi
        simp [Widget.appendToHistory, h.friend, push_newest]
      · simpa [Widget.appendToHistory, hi, Ne.symm hi] using h.friend i
  · intro i
    rw [appendToHistory_appended, msgsOf_append]
    cases g with
    | false => simpa [Widget.appendToHistory] using h.group i
    | true =>
      by_cases hi : i = id
      · subst hi
        simp [Widget.appendToHistory, h.group, push_newest]
      · simpa [Widget.appendToHistory, hi, Ne.symm hi] using h.group i

/-! ## Offline messages -/

theorem mergeOne_spec (w : Widget) (obj : Json) :
    (w.mergeOne obj).m_myId = w.m_myId ∧
      (w.mergeOne obj).appended = w.appended ++ (chatCall obj).toList ∧
      (w.Kept → (w.mergeOne obj).Kept) := by
  unfold mergeOne chatCall
  split
  · exact ⟨by simp, by simp, fun h => h.appendToHistory _ _ _⟩
  · split
    · exact ⟨by simp, by simp, fun h => h.appendToHistory _ _ _⟩
    · exact ⟨rfl, by simp, id⟩

theorem foldl_mergeOne (w : Widget) (objs : List Json) :
    (objs.foldl mergeOne w).m_myId = w.m_myId ∧
      (objs.foldl mergeOne w).appended = w.appended ++ objs.filterMap chatCall ∧
      (w.Kept → (objs.foldl mergeOne w).Kept) := by
  induction objs generalizing w with
  | nil => exact ⟨rfl, by simp, id⟩
  | cons obj objs ih =>
    obtain ⟨h₁, h₂, h₃⟩ := mergeOne_spec w obj
    obtain ⟨i₁, i₂, i₃⟩ := ih (w.mergeOne obj)
    refine ⟨i₁.trans h₁, ?_, fun h => i₃ (h₃ h)⟩
    rw [List.foldl_cons, i₂, h₂, List.append_assoc]
    cases hc : chatCall obj <;> simp [hc]

/-- The Widget that the dialog's data makes. -/
theorem new_spec (fromJson : Str → Option Json) (myId : Int) (offlineMsgs : List Json) :
    (new fromJson myId offlineMsgs).m_myId = myId ∧
      (new fromJson myId offlineMsgs).appended = offlineCalls fromJson offlineMsgs ∧
      (new fromJson myId offlineMsgs).Kept := by
  obtain ⟨h₁, h₂, h₃⟩ := foldl_mergeOne ⟨myId, fun _ => [], fun _ => [], []⟩
    (offlineMsgs.map (offlineObj fromJson))
  exact ⟨h₁, h₂, h₃ ⟨fun _ => by simp [newest, msgsOf], fun _ => by simp [newest, msgsOf]⟩⟩

end Widget

/-! ## Chat messages -/

/-- The message is no login acknowledgement, and a chat message comes from someone else. -/
structure FromOthers (me : Int) (js : Json) : Prop where
  noAck : js.isMsg .loginMsgAck = false
  other : (chatCall js).isSome → (js.value "id").qtInt ≠ me

/-- The signals that reach the histories come from their messages only. -/
theorem Signal.ofMessage_kind {js : Json} {sig : Signal} (h : Signal.ofMessage js = some sig) :
    match sig with
    | .loginSuccess .. => js.isMsg .loginMsgAck = true
    | .receivedChatMsg .. => js.isMsg .oneChatMsg = true
    | .receivedGroupMsg .. => js.isMsg .groupChatMsg = true
    | _ => True := by
  unfold Signal.ofMessage at h
  rcases ite_eq_iff.mp h with ⟨hack, h⟩ | ⟨-, h⟩
  · split_ifs at h <;> cases h
    · exact hack
    · trivial
  rcases ite_eq_iff.mp h with ⟨-, h⟩ | ⟨-, h⟩
  · split_ifs at h <;> cases h <;> trivial
  rcases ite_eq_iff.mp h with ⟨hone, h⟩ | ⟨-, h⟩
  · cases h
    exact hone
  rcases ite_eq_iff.mp h with ⟨hgroup, h⟩ | ⟨-, h⟩
  · cases h
    exact hgroup
  -- the signals of the other messages
  split_ifs at h <;> cases h <;> trivial

theorem handle_widget (fromJson : Str → Option Json) {w : Widget} {js : Json}
    (h : FromOthers w.m_myId js) :
    ∃ w', Window.handleMessage fromJson (.widget w) js = .widget w' ∧ w'.m_myId = w.m_myId ∧
      w'.appended = w.appended ++ (chatCall js).toList ∧ (w.Kept → w'.Kept) := by
  have hack := h.noAck
  by_cases hone : js.isMsg .oneChatMsg = true
  · have hreg : js.isMsg .regMsgAck = false := Json.isMsg_ne hone (by decide)
    refine ⟨_, rfl, ?_⟩
    simp only [Signal.ofMessage, chatCall, hack, hone, hreg, Bool.false_eq_true, if_false, if_true,
      Option.map_some, Option.getD_some, Widget.slot, Widget.onChatMsg]
    exact ⟨by simp, by simp, fun hk => hk.appendToHistory _ _ _⟩
  · by_cases hgroup : js.isMsg .groupChatMsg = true
    · have hreg : js.isMsg .regMsgAck = false := Json.isMsg_ne hgroup (by decide)
      have hfrom := h.other (by simp [chatCall, hone, hgroup])
      refine ⟨_, rfl, ?_⟩
      simp only [Signal.ofMessage, chatCall, hack, hone, hgroup, hreg, Bool.false_eq_true, if_false,
        if_true, Option.map_some, Option.getD_some, Widget.slot, Widget.onGroupMsg, if_neg hfrom]
      exact ⟨by simp, by simp, fun hk => hk.appendToHistory _ _ _⟩
    · refine ⟨w, ?_, rfl, by simp [chatCall, hone, hgroup], id⟩
      -- the other messages make a signal that leaves the Widget, or none
      rw [Window.handleMessage]
      cases hs : Signal.ofMessage js with
      | none => rfl
      | some sig =>
        have hkind := Signal.ofMessage_kind hs
        cases sig with
        | loginSuccess => exact absurd hkind (by simp [hack])
        | receivedChatMsg => exact absurd hkind hone
        | receivedGroupMsg => exact absurd hkind hgroup
        | _ => rfl

theorem handleAll_widget (fromJson : Str → Option Json) {w : Widget} {objs : List Json}
    (h : ∀ js ∈ objs, FromOthers w.m_myId js) :
    ∃ w', objs.foldl (Window.handleMessage fromJson) (.widget w) = .widget w' ∧
      w'.m_myId = w.m_myId ∧ w'.appended = w.appended ++ objs.filterMap chatCall ∧
      (w.Kept → w'.Kept) := by
  induction objs generalizing w with
  | nil => exact ⟨w, rfl, rfl, by simp, id⟩
  | cons js objs ih =>
    obtain ⟨w₁, hw₁, hid, happ, hk⟩ := handle_widget fromJson (h js (by simp))
    obtain ⟨w₂, hw₂, hid₂, happ₂, hk₂⟩ := ih (w := w₁) fun js' hjs' => by
      rw [hid]
      exact h js' (by simp [hjs'])
    refine ⟨w₂, by rw [List.foldl_cons, hw₁, hw₂], hid₂.trans hid, ?_, fun h => hk₂ (hk h)⟩
    rw [happ₂, happ, List.append_assoc]
    cases hc : chatCall js <;> simp [hc]

/-- The dialog and messages that acknowledge no login: what it hands over stays. -/
theorem handle_dialog (fromJson : Str → Option Json) (d : LoginDialog) {js : Json}
    (h : js.isMsg .loginMsgAck = false) :
    ∃ d', Window.handleMessage fromJson (.dialog d) js = .dialog d' ∧ d'.accepted = d.accepted ∧
      d'.m_userId = d.m_userId ∧ d'.m_offlineMsgs = d.m_offlineMsgs := by
  rw [Window.handleMessage]
  cases hs : Signal.ofMessage js with
  | none => exact ⟨d, rfl, rfl, rfl, rfl⟩
  | some sig =>
    have hkind := Signal.ofMessage_kind hs
    cases sig with
    | loginSuccess => exact absurd hkind (by simp [h])
    | _ => exact ⟨_, rfl, rfl, rfl, rfl⟩

theorem handleAll_dialog (fromJson : Str → Option Json) (d : LoginDialog) {objs : List Json}
    (h : ∀ js ∈ objs, js.isMsg .loginMsgAck = false) :
    ∃ d', objs.foldl (Window.handleMessage fromJson) (.dialog d) = .dialog d' ∧
      d'.accepted = d.accepted ∧ d'.m_userId = d.m_userId ∧
      d'.m_offlineMsgs = d.m_offlineMsgs := by
  induction objs generalizing d with
  | nil => exact ⟨d, rfl, rfl, rfl, rfl⟩
  | cons js objs ih =>
    obtain ⟨d₁, hd₁, ha₁, hu₁, ho₁⟩ := handle_dialog fromJson d (h js (by simp))
    obtain ⟨d₂, hd₂, ha₂, hu₂, ho₂⟩ := ih d₁ fun js' hjs' => h js' (by simp [hjs'])
    exact ⟨d₂, by rw [List.foldl_cons, hd₁, hd₂], ha₂.trans ha₁, hu₂.trans hu₁, ho₂.trans ho₁⟩

end QtChat
