import Mathlib.Data.List.Infix
import QtChat.Client.Conversations

/-!
# The open conversation

What is open is shown and counted apart from the histories. Every event appends the same messages to
a history and, if the conversation is open, to the bubbles, so the history, which alone is cut at
500, stays the end of what is shown (`Follows.step`). The counters agree on what is open but for the
batch of a re-login, which counts every message of it.
-/

namespace QtChat

open Interleave

/-- The newest of more messages are the end of the newest before and the messages since. -/
theorem newest_append_suffix (xs ys : List ChatMsg) : newest (xs ++ ys) <:+ newest xs ++ ys := by
  unfold newest
  rw [← List.drop_append_of_le_length (Nat.sub_le _ _), List.length_append]
  exact List.drop_suffix_drop_left _ (by omega)

theorem msgsOf_concat (calls calls' : List HistoryCall) (g : Bool) (id : Int) :
    msgsOf (calls ++ calls') g id = msgsOf calls g id ++ msgsOf calls' g id := by
  unfold msgsOf
  rw [List.filter_append, List.map_append]

theorem msgsOf_single (c : HistoryCall) (g : Bool) (id : Int) :
    msgsOf [c] g id = if c.isGroup = g ∧ c.targetId = id then [c.cm] else [] :=
  Widget.msgsOf_append [] c g id

namespace ChatWidget

variable {fromJson : Str → Option Json} {w w' : ChatWidget}

/-! ## What the functions leave alone -/

/-- The conversation that is open is the same. -/
def SameOpen (w w' : ChatWidget) : Prop :=
  w'.m_currentTargetId = w.m_currentTargetId ∧ w'.m_currentIsGroup = w.m_currentIsGroup

theorem setUnread_same (w : ChatWidget) (g : Bool) (id : Int) (n : Nat) :
    w.SameOpen (w.setUnread g id n) ∧ (w.setUnread g id n).bubbles = w.bubbles ∧
      (w.setUnread g id n).m_online = w.m_online := by
  unfold setUnread SameOpen
  split <;> exact ⟨⟨rfl, rfl⟩, rfl, rfl⟩

theorem mergeOne_same (w : ChatWidget) (obj : Json) :
    w.SameOpen (w.mergeOne obj) ∧ (w.mergeOne obj).bubbles = w.bubbles := by
  unfold mergeOne countUnread
  split_ifs
  · obtain ⟨hs, hb, -⟩ := setUnread_same (w.appendToHistory (obj.value "id").qtInt false _) false
      (obj.value "id").qtInt _
    exact ⟨hs, hb⟩
  · obtain ⟨hs, hb, -⟩ := setUnread_same (w.appendToHistory (obj.value "groupid").qtInt true _) true
      (obj.value "groupid").qtInt _
    exact ⟨hs, hb⟩
  · exact ⟨⟨rfl, rfl⟩, rfl⟩

theorem mergeAll_same (w : ChatWidget) (objs : List Json) :
    w.SameOpen (objs.foldl mergeOne w) ∧ (objs.foldl mergeOne w).bubbles = w.bubbles := by
  induction objs generalizing w with
  | nil => exact ⟨⟨rfl, rfl⟩, rfl⟩
  | cons obj objs ih =>
    obtain ⟨⟨h₁, h₂⟩, h₃⟩ := mergeOne_same w obj
    obtain ⟨⟨i₁, i₂⟩, i₃⟩ := ih (w.mergeOne obj)
    exact ⟨⟨i₁.trans h₁, i₂.trans h₂⟩, i₃.trans h₃⟩

theorem addAll_spec (w : ChatWidget) (hist : List ChatMsg) :
    (hist.foldl addMessage w).toWidget = w.toWidget ∧ w.SameOpen (hist.foldl addMessage w) ∧
      (hist.foldl addMessage w).unread = w.unread ∧
      (hist.foldl addMessage w).bubbles = w.bubbles ++ hist.map .of := by
  induction hist generalizing w with
  | nil => exact ⟨rfl, ⟨rfl, rfl⟩, rfl, (List.append_nil _).symm⟩
  | cons cm hist ih =>
    obtain ⟨h₁, ⟨h₂, h₃⟩, h₄, h₅⟩ := ih (w.addMessage cm)
    refine ⟨h₁, ⟨h₂, h₃⟩, h₄, ?_⟩
    rw [List.foldl_cons, h₅, List.map_cons, addMessage, List.append_assoc]
    rfl

/-! ## The replay of a batch -/

/-- The replay goes by the message ids of the calls, if every entry is a chat message. -/
theorem replayOne_eq (w : ChatWidget) {obj : Json} {c : HistoryCall} (h : chatCall obj = some c) :
    w.replayOne obj =
      if c.isGroup = w.m_currentIsGroup ∧ c.targetId = w.m_currentTargetId then w.addMessage c.cm
      else w := by
  unfold chatCall at h
  unfold replayOne
  by_cases hone : obj.isMsg .oneChatMsg = true
  · rw [if_pos hone] at h
    cases h
    have hgroup : obj.isMsg .groupChatMsg = false := Json.isMsg_ne hone (by decide)
    simp only [hgroup, Bool.false_eq_true, if_false]
  · rw [if_neg hone] at h
    obtain ⟨hgroup, h⟩ := Option.ite_none_right_eq_some.mp h
    cases h
    simp only [hgroup, if_true]

/-- **The replay** shows the batch's messages of the open conversation. -/
theorem replayAll_spec (w : ChatWidget) {objs : List Json} (h : ∀ obj ∈ objs, (chatCall obj).isSome) :
    w.SameOpen (objs.foldl replayOne w) ∧ (objs.foldl replayOne w).bubbles = w.bubbles ++
      (msgsOf (objs.filterMap chatCall) w.m_currentIsGroup w.m_currentTargetId).map .of := by
  induction objs generalizing w with
  | nil => exact ⟨⟨rfl, rfl⟩, (List.append_nil _).symm⟩
  | cons obj objs ih =>
    obtain ⟨c, hc⟩ := Option.isSome_iff_exists.mp (h obj List.mem_cons_self)
    have hall := fun o ho => h o (List.mem_cons_of_mem _ ho)
    rw [List.foldl_cons, replayOne_eq w hc, List.filterMap_cons_some hc,
      ← List.singleton_append, msgsOf_concat, msgsOf_single]
    split
    · obtain ⟨hs, hb⟩ := ih (w.addMessage c.cm) hall
      refine ⟨hs, hb.trans ?_⟩
      simp only [addMessage, List.map_append, List.map_cons, List.map_nil, List.append_assoc]
    · obtain ⟨hs, hb⟩ := ih w hall
      exact ⟨hs, hb⟩

/-! ## The histories and the bubbles -/

/-- The end of what is shown is the history of the open conversation. -/
def Shows (w : ChatWidget) : Prop := w.m_currentTargetId ≠ -1 →
  (w.history w.m_currentIsGroup w.m_currentTargetId).map .of <:+ w.bubbles

/-- Every history is the newest of its messages, and that of the open conversation is shown. -/
structure Follows (w : ChatWidget) (calls : List HistoryCall) : Prop where
  kept : w.toWidget.Kept
  appended : w.appended = calls
  shows : w.Shows

theorem history_kept (h : w.toWidget.Kept) (g : Bool) (id : Int) :
    w.history g id = newest (msgsOf w.appended g id) := by
  cases g with
  | false => exact h.friend id
  | true => exact h.group id

/-- More messages are appended, and those of the open conversation shown. -/
theorem Follows.more {calls more : List HistoryCall} (h : w.Follows calls) (hk : w'.toWidget.Kept)
    (ha : w'.appended = w.appended ++ more) (ho : w.SameOpen w')
    (hb : w.m_currentTargetId ≠ -1 → w'.bubbles = w.bubbles ++
      (msgsOf more w.m_currentIsGroup w.m_currentTargetId).map .of) :
    w'.Follows (calls ++ more) := by
  refine ⟨hk, by rw [ha, h.appended], fun hopen => ?_⟩
  rw [ho.1] at hopen
  have hshown := h.shows hopen
  rw [history_kept h.kept] at hshown
  rw [ho.1, ho.2, history_kept hk, ha, msgsOf_concat, hb hopen]
  have hcut := (newest_append_suffix (msgsOf w.appended w.m_currentIsGroup w.m_currentTargetId)
    (msgsOf more w.m_currentIsGroup w.m_currentTargetId)).map Bubble.of
  rw [List.map_append] at hcut
  obtain ⟨older, ho⟩ := hshown
  rw [← ho, List.append_assoc]
  exact hcut.trans (List.suffix_append older _)

/-! ## Every event -/

/-- Every entry of a batch is a chat message. -/
def BatchOfChats (fromJson : Str → Option Json) : WidgetEvent → Prop
  | .signal (.loginSuccess _ _ _ _ offlineMsgs) =>
    ∀ m ∈ offlineMsgs, (chatCall (Widget.offlineObj fromJson m)).isSome
  | _ => True

theorem incoming_spec (w : ChatWidget) (id : Int) (g : Bool) (cm : ChatMsg) :
    w.SameOpen (w.incoming id g cm) ∧ (w.incoming id g cm).bubbles = w.bubbles ++
      (msgsOf [⟨id, g, cm⟩] w.m_currentIsGroup w.m_currentTargetId).map .of := by
  rw [msgsOf_single]
  unfold incoming
  by_cases h : id = w.m_currentTargetId ∧ g = w.m_currentIsGroup
  · rw [if_pos h, if_pos ⟨h.2, h.1⟩]
    exact ⟨⟨rfl, rfl⟩, rfl⟩
  · rw [if_neg h, if_neg fun h' => h ⟨h'.2, h'.1⟩]
    obtain ⟨hs, hb, -⟩ := setUnread_same (w.appendToHistory id g cm) g id
      ((w.appendToHistory id g cm).unread g id + 1)
    exact ⟨hs, hb.trans (List.append_nil _).symm⟩

/-- A message comes in. -/
theorem Follows.incoming {calls : List HistoryCall} (h : w.Follows calls) (id : Int) (g : Bool)
    (cm : ChatMsg) : (w.incoming id g cm).Follows (calls ++ [⟨id, g, cm⟩]) := by
  obtain ⟨hs, hb⟩ := incoming_spec w id g cm
  refine h.more ?_ ?_ hs fun _ => hb
  · rw [incoming_toWidget]
    exact h.kept.appendToHistory id g cm
  · rw [incoming_toWidget]
    exact Widget.appendToHistory_appended _ _ _ _

theorem Follows.send {calls : List HistoryCall} (h : w.Follows calls) (text time : Str) :
    (w.onSendClicked text time).Follows (calls ++ w.messages fromJson (.send text time)) := by
  unfold onSendClicked messages
  dsimp only
  split
  · rw [List.append_nil]
    exact h
  · refine h.more (h.kept.appendToHistory _ _ _) (Widget.appendToHistory_appended _ _ _ _) ⟨rfl, rfl⟩
      fun _ => ?_
    rw [msgsOf_single, if_pos ⟨rfl, rfl⟩]
    rfl

/-- A re-login merges its batch and replays it. -/
theorem Follows.login {calls : List HistoryCall} (h : w.Follows calls) {offlineMsgs : List Json}
    (hall : ∀ m ∈ offlineMsgs, (chatCall (Widget.offlineObj fromJson m)).isSome) :
    (w.onLoginSuccess fromJson offlineMsgs).Follows
      (calls ++ offlineCalls fromJson offlineMsgs) := by
  have hobjs : ∀ obj ∈ offlineMsgs.map (Widget.offlineObj fromJson), (chatCall obj).isSome := by
    intro obj ho
    obtain ⟨m, hm, rfl⟩ := List.mem_map.mp ho
    exact hall m hm
  obtain ⟨⟨ht, hg⟩, hb⟩ := mergeAll_same (w.setStatus true)
    (offlineMsgs.map (Widget.offlineObj fromJson))
  have hkept : (w.onLoginSuccess fromJson offlineMsgs).toWidget.Kept := by
    rw [onLoginSuccess_toWidget]
    exact (Widget.foldl_mergeOne w.toWidget _).2.2 h.kept
  have happ : (w.onLoginSuccess fromJson offlineMsgs).appended =
      w.appended ++ offlineCalls fromJson offlineMsgs := by
    rw [onLoginSuccess_toWidget]
    exact (Widget.foldl_mergeOne w.toWidget _).2.1
  unfold onLoginSuccess at hkept happ ⊢
  dsimp only at hkept happ ⊢
  split at hkept
  · rename_i hopen
    rw [if_pos hopen] at happ ⊢
    obtain ⟨⟨hrt, hrg⟩, hrb⟩ := replayAll_spec ((offlineMsgs.map
      (Widget.offlineObj fromJson)).foldl mergeOne (w.setStatus true)) hobjs
    refine h.more hkept happ ⟨hrt.trans ht, hrg.trans hg⟩ fun _ => ?_
    rw [hrb, hb, ht, hg]
    rfl
  · rename_i hclosed
    rw [if_neg hclosed] at happ ⊢
    refine h.more hkept happ ⟨ht, hg⟩ fun hopen => ?_
    exact absurd (ht.symm.trans (Decidable.not_not.mp hclosed)) hopen

theorem history_congr (h : w'.toWidget = w.toWidget) : w'.history = w.history := by
  unfold history
  rw [h]

/-- A switch opens the conversation, shows its history and counts nothing of it as unread. -/
theorem switchToTarget_spec (w : ChatWidget) (id : Int) (g : Bool) :
    (w.switchToTarget id g).toWidget = w.toWidget ∧
      (w.switchToTarget id g).m_currentTargetId = id ∧
      (w.switchToTarget id g).m_currentIsGroup = g ∧
      (w.switchToTarget id g).bubbles = (w.history g id).map .of ∧
      (w.switchToTarget id g).unread g id = 0 := by
  unfold switchToTarget rebuildChatFromHistory
  dsimp only
  set w₁ : ChatWidget := { w with m_currentTargetId := id, m_currentIsGroup := g }
  obtain ⟨⟨ht, hg⟩, -, -⟩ := setUnread_same w₁ g id 0
  have htw : (w₁.setUnread g id 0).toWidget = w.toWidget := setUnread_toWidget w₁ g id 0
  obtain ⟨h₁, ⟨h₂, h₃⟩, h₄, h₅⟩ := addAll_spec { w₁.setUnread g id 0 with bubbles := [] }
    (({ w₁.setUnread g id 0 with bubbles := [] } : ChatWidget).history g id)
  have hhist : ({ w₁.setUnread g id 0 with bubbles := [] } : ChatWidget).history = w.history :=
    history_congr htw
  refine ⟨h₁.trans htw, h₂.trans ht, h₃.trans hg, ?_, ?_⟩
  · rw [h₅, hhist]
    rfl
  · rw [h₄]
    unfold unread setUnread
    cases g <;> simp

/-- The conversation that is switched to is shown as it is. -/
theorem Follows.click {calls : List HistoryCall} (h : w.Follows calls) (item : TreeItem) :
    (w.onTreeItemClicked item).Follows calls := by
  unfold onTreeItemClicked
  split
  · exact h
  · obtain ⟨htw, ht, hg, hb, -⟩ := switchToTarget_spec w item.id (item.type = 2)
    refine ⟨by rw [htw]; exact h.kept, by rw [htw]; exact h.appended, fun _ => ?_⟩
    rw [ht, hg, hb, history_congr htw]

/-- **Every event** appends its messages and shows those of the open conversation. -/
theorem Follows.step {calls : List HistoryCall} (h : w.Follows calls) {e : WidgetEvent}
    (he : BatchOfChats fromJson e) :
    (w.step fromJson e).Follows (calls ++ w.messages fromJson e) := by
  cases e with
  | send text time => exact h.send text time
  | click item =>
    have hclick := h.click item
    rwa [← List.append_nil calls] at hclick
  | disconnected =>
    have hoff : (w.setStatus false).Follows calls := ⟨h.kept, h.appended, h.shows⟩
    rwa [← List.append_nil calls] at hoff
  | signal sig =>
    cases sig with
    | receivedChatMsg fromid name msg time => exact h.incoming _ _ _
    | receivedGroupMsg groupid fromid name msg time =>
      unfold ChatWidget.step slot onGroupMsg messages
      dsimp only
      split
      · rw [List.append_nil]
        exact h
      · exact h.incoming _ _ _
    | loginSuccess id name friends groups offlineMsgs => exact h.login he
    | _ => rwa [← List.append_nil calls] at h

/-- **Every run.** -/
theorem Follows.runs {calls : List HistoryCall} (h : w.Follows calls) {es : List WidgetEvent}
    (hes : ∀ e ∈ es, BatchOfChats fromJson e) (hr : (widgetMachine fromJson).runs es w = some w') :
    w'.Follows (calls ++ w.allMessages fromJson es) := by
  induction es generalizing w calls with
  | nil =>
    cases hr
    rw [allMessages, List.append_nil]
    exact h
  | cons e es ih =>
    have hnext := ih (h.step (hes e List.mem_cons_self))
      (fun e he => hes e (List.mem_cons_of_mem _ he)) hr
    rwa [List.append_assoc] at hnext

theorem Follows.new (fromJson : Str → Option Json) (myId : Int) (offlineMsgs : List Json) :
    (new fromJson myId offlineMsgs).Follows (offlineCalls fromJson offlineMsgs) := by
  obtain ⟨-, happ, hkept⟩ := Widget.new_spec fromJson myId offlineMsgs
  have htw : (ChatWidget.new fromJson myId offlineMsgs).toWidget = .new fromJson myId offlineMsgs :=
    new_toWidget myId offlineMsgs
  refine ⟨by rw [htw]; exact hkept, by rw [htw]; exact happ, fun hopen => ?_⟩
  exact absurd (mergeAll_same _ _).1.1 hopen

/-! ## The unread messages -/

/-- Nothing of the open conversation is unread. -/
def OpenRead (w : ChatWidget) : Prop :=
  w.m_currentTargetId ≠ -1 → w.unread w.m_currentIsGroup w.m_currentTargetId = 0

/-- No entry of a batch is of the open conversation. -/
def NoneOfOpen (fromJson : Str → Option Json) : WidgetEvent → ChatWidget → Prop
  | .signal (.loginSuccess _ _ _ _ offlineMsgs), w => w.m_currentTargetId ≠ -1 →
    msgsOf (offlineCalls fromJson offlineMsgs) w.m_currentIsGroup w.m_currentTargetId = []
  | _, _ => True

theorem countUnread_unread (w : ChatWidget) (g : Bool) (id : Int) (g' : Bool) (id' : Int) :
    (w.countUnread g id).unread g' id' =
      w.unread g' id' + if g = g' ∧ id = id' then 1 else 0 := by
  unfold countUnread setUnread unread
  by_cases hid : id' = id
  · subst hid
    cases g <;> cases g' <;> simp
  · cases g <;> cases g' <;> simp [hid, Ne.symm hid]

/-- A batch counts every message of it. -/
theorem mergeAll_unread (w : ChatWidget) (objs : List Json) (g : Bool) (id : Int) :
    (objs.foldl mergeOne w).unread g id =
      w.unread g id + (msgsOf (objs.filterMap chatCall) g id).length := by
  induction objs generalizing w with
  | nil => rfl
  | cons obj objs ih =>
    have hone : (w.mergeOne obj).unread g id =
        w.unread g id + (msgsOf (chatCall obj).toList g id).length := by
      unfold mergeOne chatCall
      split_ifs
      · rw [countUnread_unread, Option.toList_some, msgsOf_single]
        dsimp only
        split <;> rfl
      · rw [countUnread_unread, Option.toList_some, msgsOf_single]
        dsimp only
        split <;> rfl
      · rfl
    have hcalls : (obj :: objs).filterMap chatCall =
        (chatCall obj).toList ++ objs.filterMap chatCall := by
      cases hc : chatCall obj <;> simp [hc]
    rw [List.foldl_cons, ih, hone, hcalls, msgsOf_concat, List.length_append, Nat.add_assoc]

theorem replayAll_unread (w : ChatWidget) (objs : List Json) :
    w.SameOpen (objs.foldl replayOne w) ∧ (objs.foldl replayOne w).unread = w.unread := by
  induction objs generalizing w with
  | nil => exact ⟨⟨rfl, rfl⟩, rfl⟩
  | cons obj objs ih =>
    rw [List.foldl_cons]
    by_cases h : w.replayOne obj = w
    · rw [h]
      exact ih w
    · have hadd : ∃ cm, w.replayOne obj = w.addMessage cm := by
        unfold replayOne at h ⊢
        dsimp only at h ⊢
        split_ifs at h ⊢ <;> first | exact absurd rfl h | exact ⟨_, rfl⟩
      obtain ⟨cm, hcm⟩ := hadd
      rw [hcm]
      exact ih (w.addMessage cm)

/-- A re-login counts the messages of its batch, also those of the open conversation. -/
theorem login_unread (w : ChatWidget) (offlineMsgs : List Json) :
    w.SameOpen (w.onLoginSuccess fromJson offlineMsgs) ∧ ∀ g id,
      (w.onLoginSuccess fromJson offlineMsgs).unread g id =
        w.unread g id + (msgsOf (offlineCalls fromJson offlineMsgs) g id).length := by
  obtain ⟨⟨ht, hg⟩, -⟩ := mergeAll_same (w.setStatus true)
    (offlineMsgs.map (Widget.offlineObj fromJson))
  have hunread := mergeAll_unread (w.setStatus true) (offlineMsgs.map (Widget.offlineObj fromJson))
  unfold onLoginSuccess
  dsimp only
  split
  · obtain ⟨⟨hrt, hrg⟩, hru⟩ := replayAll_unread ((offlineMsgs.map
      (Widget.offlineObj fromJson)).foldl mergeOne (w.setStatus true))
      (offlineMsgs.map (Widget.offlineObj fromJson))
    exact ⟨⟨hrt.trans ht, hrg.trans hg⟩, fun g id => by rw [hru]; exact hunread g id⟩
  · exact ⟨⟨ht, hg⟩, hunread⟩

/-- A message that comes in counts if its conversation is not open. -/
theorem incoming_openRead (h : w.OpenRead) (id : Int) (g : Bool) (cm : ChatMsg) :
    (w.incoming id g cm).OpenRead := by
  obtain ⟨⟨ht, hg⟩, -⟩ := incoming_spec w id g cm
  intro hopen
  rw [ht] at hopen ⊢
  rw [hg]
  unfold incoming
  split
  · exact h hopen
  · rename_i hne
    rw [countUnread_unread, if_neg fun e => hne ⟨e.2, e.1⟩]
    exact h hopen

/-- **Every event** but a re-login with a message of the open conversation keeps it read. -/
theorem OpenRead.step (h : w.OpenRead) (e : WidgetEvent) :
    (NoneOfOpen fromJson e w → (w.step fromJson e).OpenRead) ∧
      ((w.step fromJson e).OpenRead → NoneOfOpen fromJson e w) := by
  cases e with
  | send text time =>
    refine ⟨fun _ => ?_, fun _ => trivial⟩
    unfold ChatWidget.step onSendClicked
    dsimp only
    split
    · exact h
    · exact h
  | click item =>
    refine ⟨fun _ => ?_, fun _ => trivial⟩
    unfold ChatWidget.step onTreeItemClicked
    dsimp only
    split
    · exact h
    · obtain ⟨-, ht, hg, -, hu⟩ := switchToTarget_spec w item.id (item.type = 2)
      intro _
      rw [ht, hg]
      exact hu
  | disconnected => exact ⟨fun _ => h, fun _ => trivial⟩
  | signal sig =>
    cases sig with
    | receivedChatMsg => exact ⟨fun _ => incoming_openRead h _ _ _, fun _ => trivial⟩
    | receivedGroupMsg =>
      refine ⟨fun _ => ?_, fun _ => trivial⟩
      unfold ChatWidget.step slot onGroupMsg
      dsimp only
      split
      · exact h
      · exact incoming_openRead h _ _ _
    | loginSuccess id name friends groups offlineMsgs =>
      obtain ⟨⟨ht, hg⟩, hu⟩ : w.SameOpen (w.onLoginSuccess fromJson offlineMsgs) ∧ _ :=
        login_unread w offlineMsgs
      have hiff : (w.onLoginSuccess fromJson offlineMsgs).OpenRead ↔
          (w.m_currentTargetId ≠ -1 → msgsOf (offlineCalls fromJson offlineMsgs)
            w.m_currentIsGroup w.m_currentTargetId = []) := by
        unfold OpenRead
        rw [ht, hg, hu]
        refine imp_congr_right fun hopen => ?_
        rw [h hopen, Nat.zero_add, List.length_eq_zero_iff]
      exact ⟨hiff.mpr, hiff.mp⟩
    | _ => exact ⟨fun _ => h, fun _ => trivial⟩

end ChatWidget

open ChatWidget

/-- **Unread messages.** In every run of the Widget the counter of the open conversation is 0 all
the time exactly if no re-login comes with an offline message of the conversation that is open then.
-/
theorem open_unread_iff {fromJson : Str → Option Json} {myId : Int} {offlineMsgs : List Json}
    {es : List WidgetEvent} {w : ChatWidget}
    (hr : (widgetMachine fromJson).runs es (.new fromJson myId offlineMsgs) = some w) :
    (∀ w₁ : ChatWidget, (widgetMachine fromJson).Passes es (.new fromJson myId offlineMsgs) w₁ →
      w₁.m_currentTargetId ≠ -1 → w₁.unread w₁.m_currentIsGroup w₁.m_currentTargetId = 0) ↔
    ∀ (e : WidgetEvent) (w₁ : ChatWidget),
      (widgetMachine fromJson).Takes es (.new fromJson myId offlineMsgs) e w₁ →
        NoneOfOpen fromJson e w₁ := by
  have hnew : (ChatWidget.new fromJson myId offlineMsgs).OpenRead := fun hopen =>
    absurd (mergeAll_same _ _).1.1 hopen
  refine Machine.passes_iff_takes (M := widgetMachine fromJson) (G := OpenRead) (fun _ h => h)
    (fun e w₁ w₂ h hs => ?_) hnew hr
  cases hs
  exact h.step e

/-- A chat message from user 7, as an offline message is stored. -/
def chatOf7 : Json := .object [("msgid", .int EnMsgType.oneChatMsg.toInt), ("id", .int 7),
  ("name", .str (txt "bob")), ("time", .str (txt "now")), ("msg", .str (txt "hi"))]

/-- The events of a re-login with one offline message, with the conversation of user 7 open. -/
def reloginEvents : List WidgetEvent := [.click (.friend 7 (txt "bob") (txt "online")), .disconnected,
  .signal (.loginSuccess 1 (txt "ann") [] [] [.str (txt "m")])]

/-- The conversation of user 8 is open, a message of it comes, and a re-login brings one of user 7. -/
def otherEvents : List WidgetEvent := [.click (.friend 8 (txt "eve") (txt "online")),
  .signal (.receivedChatMsg 8 (txt "eve") (txt "hi") (txt "now")), .disconnected,
  .signal (.loginSuccess 1 (txt "ann") [] [] [.str (txt "m")])]

theorem open_unread_iff_other : ∃ w, (widgetMachine fun _ => some chatOf7).runs otherEvents
      (.new (fun _ => some chatOf7) 1 []) = some w ∧
    w.m_currentTargetId = 8 ∧ w.unread false 7 = 1 ∧
    ∀ w₁ : ChatWidget, (widgetMachine fun _ => some chatOf7).Passes otherEvents
      (.new (fun _ => some chatOf7) 1 []) w₁ → w₁.m_currentTargetId ≠ -1 →
        w₁.unread w₁.m_currentIsGroup w₁.m_currentTargetId = 0 := by
  refine ⟨_, rfl, by decide, by decide, (open_unread_iff rfl).mpr ?_⟩
  rintro e w₁ (⟨rfl, rfl⟩ | ⟨s₁, h₁, ⟨rfl, rfl⟩ | ⟨s₂, h₂, ⟨rfl, rfl⟩ | ⟨s₃, h₃,
    ⟨rfl, rfl⟩ | ⟨_, _, ⟨⟩⟩⟩⟩⟩)
  · trivial
  · trivial
  · trivial
  · -- the message of user 7 is none of the open conversation
    cases h₁
    cases h₂
    cases h₃
    intro _
    rfl

/-- A re-login with an offline message of the open conversation: it is shown, and counted as unread.
-/
theorem open_unread_counted : ¬∀ (fromJson : Str → Option Json) (w : ChatWidget),
    (widgetMachine fromJson).Reach w → w.m_currentTargetId ≠ -1 →
      w.unread w.m_currentIsGroup w.m_currentTargetId = 0 := by
  intro hall
  have h : ((widgetMachine fun _ => some chatOf7).runs reloginEvents
      (.new (fun _ => some chatOf7) 1 [])).map (fun w : ChatWidget => (w.m_currentTargetId,
        w.unread w.m_currentIsGroup w.m_currentTargetId)) = some (7, 1) := by
    decide
  obtain ⟨w, hr, hf⟩ := Option.map_eq_some_iff.mp h
  simp only [Prod.mk.injEq] at hf
  have hzero := hall _ w (.runs (.init ⟨1, [], rfl⟩) hr) (by rw [hf.1]; decide)
  rw [hf.2] at hzero
  cases hzero

/-- **What is shown.** In every run of the Widget whose re-logins have batches of chat messages
alone: every history is the last 500 of the messages that were sent or accepted for its
conversation, those of a friend and a group with the same id apart; and if a conversation is open,
the last bubbles are its history. -/
theorem open_conversation_shown {fromJson : Str → Option Json} {myId : Int} {offlineMsgs : List Json}
    {es : List WidgetEvent} {w : ChatWidget} (hes : ∀ e ∈ es, BatchOfChats fromJson e)
    (hr : (widgetMachine fromJson).runs es (.new fromJson myId offlineMsgs) = some w) :
    (∀ isGroup id, w.history isGroup id = newest (msgsOf (offlineCalls fromJson offlineMsgs ++
      (ChatWidget.new fromJson myId offlineMsgs).allMessages fromJson es) isGroup id)) ∧
    (w.m_currentTargetId ≠ -1 →
      (w.history w.m_currentIsGroup w.m_currentTargetId).map Bubble.of <:+ w.bubbles) := by
  have hfollows := (Follows.new fromJson myId offlineMsgs).runs hes hr
  refine ⟨fun isGroup id => ?_, hfollows.shows⟩
  rw [history_kept hfollows.kept, hfollows.appended]

/-- The user opens the conversation with user 7, writes, and is answered; the connection breaks, and
the re-login brings one message more. -/
theorem open_conversation_shown_four : ∃ w, (widgetMachine fun _ => some chatOf7).runs
      ([.click (.friend 7 (txt "bob") (txt "online")), .send (txt "hi") (txt "now"),
        .signal (.receivedChatMsg 7 (txt "bob") (txt "hey") (txt "now"))] ++ reloginEvents)
      (.new (fun _ => some chatOf7) 1 []) = some w ∧ w.bubbles.length = 3 ∧
    (w.history w.m_currentIsGroup w.m_currentTargetId).map Bubble.of <:+ w.bubbles := by
  have hes : ∀ e ∈ ([.click (.friend 7 (txt "bob") (txt "online")), .send (txt "hi") (txt "now"),
      .signal (.receivedChatMsg 7 (txt "bob") (txt "hey") (txt "now"))] ++ reloginEvents :
        List WidgetEvent), BatchOfChats (fun _ => some chatOf7) e := by
    intro e he
    simp only [reloginEvents, List.cons_append, List.nil_append, List.mem_cons, List.not_mem_nil,
      or_false] at he
    rcases he with rfl | rfl | rfl | rfl | rfl | rfl
    all_goals first | trivial | skip
    intro m _
    rfl
  refine ⟨_, rfl, by decide, (open_conversation_shown hes rfl).2 (by decide)⟩

end QtChat
