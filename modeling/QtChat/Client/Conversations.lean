import QtChat.Client.FriendTree
import QtChat.Client.Histories
import QtChat.Interleave.Machine

/-!
# The conversations of the Widget

The open conversation of `Widget` (`widget.cpp`), the bubbles that show it, and the counters of
unread messages, beside the histories of `Widget`. A target id of -1 means that no conversation is
open.

- `ChatWidget`: the functions have the names of the source; `incoming` is what `onChatMsg` and
  `onGroupMsg` share.
- `WidgetEvent`, `ChatWidget.step`: what the user and the signals do; `widgetMachine`: the runs.
- `slot_toWidget`, `new_toWidget`: a `Widget` is what of it the messages reach.
-/

namespace QtChat

open Interleave

/-- What `addMessage` adds to the layout. -/
structure Bubble where
  isRight : Bool
  header : Option Str
  text : Str
  deriving DecidableEq

/-- The bubble of a message: a message of others without a name has no header. -/
def Bubble.of (cm : ChatMsg) : Bubble where
  isRight := cm.isRight
  header :=
    if !cm.isRight && cm.name ≠ [] then some (cm.name ++ txt "  " ++ cm.time)
    else if cm.isRight then some cm.time
    else none
  text := cm.text

structure ChatWidget extends Widget where
  /-- A missing key counts 0, also after `remove`. -/
  m_unreadFriend : Int → Nat
  m_unreadGroup : Int → Nat
  m_currentTargetId : Int
  m_currentIsGroup : Bool
  m_online : Bool
  /-- `m_chatLayout`. -/
  bubbles : List Bubble

namespace ChatWidget

/-- The history of a conversation. -/
def history (w : ChatWidget) (isGroup : Bool) (id : Int) : List ChatMsg :=
  if isGroup then w.m_groupMsgHistory id else w.m_friendMsgHistory id

/-- The unread messages of a conversation. -/
def unread (w : ChatWidget) (isGroup : Bool) (id : Int) : Nat :=
  if isGroup then w.m_unreadGroup id else w.m_unreadFriend id

def appendToHistory (w : ChatWidget) (targetId : Int) (isGroup : Bool) (cm : ChatMsg) : ChatWidget :=
  { w with toWidget := w.toWidget.appendToHistory targetId isGroup cm }

def addMessage (w : ChatWidget) (cm : ChatMsg) : ChatWidget :=
  { w with bubbles := w.bubbles ++ [.of cm] }

/-- The counter of a conversation set to a value. -/
def setUnread (w : ChatWidget) (isGroup : Bool) (id : Int) (n : Nat) : ChatWidget :=
  if isGroup then { w with m_unreadGroup := Function.update w.m_unreadGroup id n }
  else { w with m_unreadFriend := Function.update w.m_unreadFriend id n }

/-- `m_unread…[id] = m_unread….value(id, 0) + 1`. -/
def countUnread (w : ChatWidget) (isGroup : Bool) (id : Int) : ChatWidget :=
  w.setUnread isGroup id (w.unread isGroup id + 1)

def setStatus (w : ChatWidget) (online : Bool) : ChatWidget := { w with m_online := online }

/-! ## The slots -/

/-- `onSendClicked`; `text` is the input, trimmed. -/
def onSendClicked (w : ChatWidget) (text time : Str) : ChatWidget :=
  if w.m_currentTargetId = -1 ∨ w.m_online = false ∨ text = [] then w
  else (w.addMessage ⟨true, [], time, text⟩).appendToHistory w.m_currentTargetId w.m_currentIsGroup
    ⟨true, [], time, text⟩

/-- A message of a conversation comes in. -/
def incoming (w : ChatWidget) (id : Int) (isGroup : Bool) (cm : ChatMsg) : ChatWidget :=
  if id = w.m_currentTargetId ∧ isGroup = w.m_currentIsGroup then
    (w.appendToHistory id isGroup cm).addMessage cm
  else (w.appendToHistory id isGroup cm).countUnread isGroup id

def onChatMsg (w : ChatWidget) (fromid : Int) (name msg time : Str) : ChatWidget :=
  w.incoming fromid false ⟨false, name, time, msg⟩

def onGroupMsg (w : ChatWidget) (groupid fromid : Int) (name msg time : Str) : ChatWidget :=
  if fromid = w.m_myId then w else w.incoming groupid true ⟨false, name, time, msg⟩

/-- One turn of the loop over the offline messages. -/
def mergeOne (w : ChatWidget) (obj : Json) : ChatWidget :=
  if obj.isMsg .oneChatMsg then
    (w.appendToHistory (obj.value "id").qtInt false ⟨false, (obj.value "name").qtString,
      (obj.value "time").qtString, (obj.value "msg").qtString⟩).countUnread false
        (obj.value "id").qtInt
  else if obj.isMsg .groupChatMsg then
    (w.appendToHistory (obj.value "groupid").qtInt true ⟨false, (obj.value "name").qtString,
      (obj.value "time").qtString, (obj.value "msg").qtString⟩).countUnread true
        (obj.value "groupid").qtInt
  else w

/-- One turn of the loop that replays them into the open conversation. -/
def replayOne (w : ChatWidget) (obj : Json) : ChatWidget :=
  let isGroup := obj.isMsg .groupChatMsg
  let matchId := if isGroup then (obj.value "groupid").qtInt else (obj.value "id").qtInt
  if isGroup = w.m_currentIsGroup ∧ matchId = w.m_currentTargetId then
    w.addMessage ⟨false, (obj.value "name").qtString, (obj.value "time").qtString,
      (obj.value "msg").qtString⟩
  else w

/-- The slot of `loginSuccess`. -/
def onLoginSuccess (fromJson : Str → Option Json) (w : ChatWidget) (offlineMsgs : List Json) :
    ChatWidget :=
  let objs := offlineMsgs.map (Widget.offlineObj fromJson)
  let w := objs.foldl mergeOne (w.setStatus true)
  if w.m_currentTargetId ≠ -1 then objs.foldl replayOne w else w

/-- The constructor. -/
def new (fromJson : Str → Option Json) (myId : Int) (offlineMsgs : List Json) : ChatWidget :=
  (offlineMsgs.map (Widget.offlineObj fromJson)).foldl mergeOne
    { m_myId := myId, m_friendMsgHistory := fun _ => [], m_groupMsgHistory := fun _ => []
      appended := [], m_unreadFriend := fun _ => 0, m_unreadGroup := fun _ => 0
      m_currentTargetId := -1, m_currentIsGroup := false, m_online := true, bubbles := [] }

def rebuildChatFromHistory (w : ChatWidget) (targetId : Int) (isGroup : Bool) : ChatWidget :=
  (w.history isGroup targetId).foldl addMessage w

def switchToTarget (w : ChatWidget) (targetId : Int) (isGroup : Bool) : ChatWidget :=
  let w := { w with m_currentTargetId := targetId, m_currentIsGroup := isGroup }
  let w := w.setUnread isGroup targetId 0
  { w with bubbles := [] }.rebuildChatFromHistory targetId isGroup

def onTreeItemClicked (w : ChatWidget) (item : TreeItem) : ChatWidget :=
  if item.type = 0 then w else w.switchToTarget item.id (item.type = 2)

/-- The signals that reach the conversations. -/
def slot (fromJson : Str → Option Json) (w : ChatWidget) : Signal → ChatWidget
  | .receivedChatMsg fromid name msg time => w.onChatMsg fromid name msg time
  | .receivedGroupMsg groupid fromid name msg time => w.onGroupMsg groupid fromid name msg time
  | .loginSuccess _ _ _ _ offlineMsgs => w.onLoginSuccess fromJson offlineMsgs
  | _ => w

end ChatWidget

inductive WidgetEvent where
  | send (text time : Str)
  | click (item : TreeItem)
  | signal (sig : Signal)
  | disconnected

namespace ChatWidget

def step (fromJson : Str → Option Json) (w : ChatWidget) : WidgetEvent → ChatWidget
  | .send text time => w.onSendClicked text time
  | .click item => w.onTreeItemClicked item
  | .signal sig => w.slot fromJson sig
  | .disconnected => w.setStatus false

/-- The messages that an event sends or accepts, each with its conversation. -/
def messages (fromJson : Str → Option Json) (w : ChatWidget) : WidgetEvent → List HistoryCall
  | .send text time =>
    if w.m_currentTargetId = -1 ∨ w.m_online = false ∨ text = [] then []
    else [⟨w.m_currentTargetId, w.m_currentIsGroup, ⟨true, [], time, text⟩⟩]
  | .signal (.receivedChatMsg fromid name msg time) => [⟨fromid, false, ⟨false, name, time, msg⟩⟩]
  | .signal (.receivedGroupMsg groupid fromid name msg time) =>
    if fromid = w.m_myId then [] else [⟨groupid, true, ⟨false, name, time, msg⟩⟩]
  | .signal (.loginSuccess _ _ _ _ offlineMsgs) => offlineCalls fromJson offlineMsgs
  | _ => []

/-- Those of a run. -/
def allMessages (fromJson : Str → Option Json) : List WidgetEvent → ChatWidget → List HistoryCall
  | [], _ => []
  | e :: es, w => w.messages fromJson e ++ allMessages fromJson es (w.step fromJson e)

end ChatWidget

/-- The Widget's conversations as a machine. -/
def widgetMachine (fromJson : Str → Option Json) : Machine where
  State := ChatWidget
  Label := WidgetEvent
  init w := ∃ myId offlineMsgs, w = .new fromJson myId offlineMsgs
  step e w := some (w.step fromJson e)

namespace ChatWidget

variable {fromJson : Str → Option Json} {w w' : ChatWidget}

/-! ## What of it is a `Widget` -/

@[simp] theorem appendToHistory_toWidget (w : ChatWidget) (id : Int) (g : Bool) (cm : ChatMsg) :
    (w.appendToHistory id g cm).toWidget = w.toWidget.appendToHistory id g cm := rfl

@[simp] theorem addMessage_toWidget (w : ChatWidget) (cm : ChatMsg) :
    (w.addMessage cm).toWidget = w.toWidget := rfl

@[simp] theorem setUnread_toWidget (w : ChatWidget) (g : Bool) (id : Int) (n : Nat) :
    (w.setUnread g id n).toWidget = w.toWidget := by
  unfold setUnread
  split <;> rfl

@[simp] theorem countUnread_toWidget (w : ChatWidget) (g : Bool) (id : Int) :
    (w.countUnread g id).toWidget = w.toWidget := setUnread_toWidget w g id _

@[simp] theorem incoming_toWidget (w : ChatWidget) (id : Int) (g : Bool) (cm : ChatMsg) :
    (w.incoming id g cm).toWidget = w.toWidget.appendToHistory id g cm := by
  unfold incoming
  split <;> simp

theorem mergeOne_toWidget (w : ChatWidget) (obj : Json) :
    (w.mergeOne obj).toWidget = w.toWidget.mergeOne obj := by
  unfold mergeOne Widget.mergeOne
  split_ifs <;> simp

theorem mergeAll_toWidget (w : ChatWidget) (objs : List Json) :
    (objs.foldl mergeOne w).toWidget = objs.foldl Widget.mergeOne w.toWidget := by
  induction objs generalizing w with
  | nil => rfl
  | cons obj objs ih => rw [List.foldl_cons, ih, mergeOne_toWidget, List.foldl_cons]

theorem replayAll_toWidget (w : ChatWidget) (objs : List Json) :
    (objs.foldl replayOne w).toWidget = w.toWidget := by
  induction objs generalizing w with
  | nil => rfl
  | cons obj objs ih =>
    rw [List.foldl_cons, ih]
    unfold replayOne
    dsimp only
    split_ifs <;> rfl

theorem onLoginSuccess_toWidget (w : ChatWidget) (offlineMsgs : List Json) :
    (w.onLoginSuccess fromJson offlineMsgs).toWidget =
      w.toWidget.mergeOffline fromJson offlineMsgs := by
  unfold onLoginSuccess
  dsimp only
  split
  · rw [replayAll_toWidget, mergeAll_toWidget]
    rfl
  · rw [mergeAll_toWidget]
    rfl

/-- The constructor makes the `Widget`. -/
theorem new_toWidget (myId : Int) (offlineMsgs : List Json) :
    (new fromJson myId offlineMsgs).toWidget = .new fromJson myId offlineMsgs :=
  mergeAll_toWidget _ _

/-- **A signal** does to it what it does to the `Widget`. -/
theorem slot_toWidget (w : ChatWidget) (sig : Signal) :
    (w.slot fromJson sig).toWidget = w.toWidget.slot fromJson sig := by
  cases sig with
  | receivedChatMsg => exact incoming_toWidget _ _ _ _
  | receivedGroupMsg =>
    unfold slot onGroupMsg Widget.slot Widget.onGroupMsg
    dsimp only
    split
    · rfl
    · exact incoming_toWidget _ _ _ _
  | loginSuccess => exact onLoginSuccess_toWidget w _
  | _ => rfl

end ChatWidget

end QtChat
