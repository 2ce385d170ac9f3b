import QtChat.Client.Conversations

/-!
# The badges in the tree

An item of `m_friendTree` carries the number that `BadgeDelegate` paints beside its text, as its
`Qt::UserRole + 2` (`widget.h`, `widget.cpp`). The slots write it when they change the counter of
unread messages, to the first item with the id; a new item has none.

- `BadgeItem`, `badgeText`: an item as the badges see it, and what is painted.
- `BadgeWidget`: the conversations, the tree, and the badges; `badgeMachine`: the runs.
- `step_toChatWidget`: beside the badges and the tree it is what it was.
-/

namespace QtChat

open Interleave

/-- What of an item the badges use. -/
structure BadgeItem where
  /-- `Qt::UserRole + 1`. -/
  id : Int
  /-- `Qt::UserRole + 2`; 0 where it is not set. -/
  badge : Nat
  deriving DecidableEq

/-- The text that `BadgeDelegate::paint` draws for a count; none for 0. -/
def badgeText (count : Nat) : Option Str :=
  if count = 0 then none else if count > 99 then some (txt "99+") else some (decimal count)

namespace BadgeItem

/-- The first item with the id is set. -/
def setFirst (id : Int) (count : Nat) : List BadgeItem → List BadgeItem
  | [] => []
  | item :: items =>
    if item.id = id then { item with badge := count } :: items else item :: setFirst id count items

/-- The loop over a map of counters. A key that no item has changes nothing, and a counter that is 0
has no key. -/
def setAll (counters : Int → Nat) (items : List BadgeItem) : List BadgeItem :=
  items.foldl (fun its item =>
    if counters item.id = 0 then its else setFirst item.id (counters item.id) its) items

/-- The items of a tree that was just loaded. -/
def loaded (items : List TreeItem) : List BadgeItem := items.map fun item => ⟨item.id, 0⟩

end BadgeItem

structure BadgeWidget extends ChatWidget where
  tree : FriendTree
  /-- The items under `Friends`. -/
  friendItems : List BadgeItem
  /-- The items under `Groups`. -/
  groupItems : List BadgeItem

namespace BadgeWidget

/-- The items of a root. -/
def items (w : BadgeWidget) (isGroup : Bool) : List BadgeItem :=
  if isGroup then w.groupItems else w.friendItems

def updateFriendBadge (w : BadgeWidget) (friendId : Int) : BadgeWidget :=
  { w with friendItems := BadgeItem.setFirst friendId (w.m_unreadFriend friendId) w.friendItems }

def updateGroupBadge (w : BadgeWidget) (groupId : Int) : BadgeWidget :=
  { w with groupItems := BadgeItem.setFirst groupId (w.m_unreadGroup groupId) w.groupItems }

/-- The badge of a conversation. -/
def updateBadge (w : BadgeWidget) (isGroup : Bool) (id : Int) : BadgeWidget :=
  if isGroup then w.updateGroupBadge id else w.updateFriendBadge id

/-- The loops over `m_unreadFriend` and `m_unreadGroup`. -/
def updateBadges (w : BadgeWidget) : BadgeWidget :=
  { w with friendItems := BadgeItem.setAll w.m_unreadFriend w.friendItems
           groupItems := BadgeItem.setAll w.m_unreadGroup w.groupItems }

/-- The constructor: the offline messages are counted before the tree is loaded. -/
def new (fromJson : Str → Option Json) (myId : Int) (friends groups offlineMsgs : List Json) :
    BadgeWidget :=
  updateBadges {
    toChatWidget := .new fromJson myId offlineMsgs
    tree := .load fromJson friends groups
    friendItems := BadgeItem.loaded (FriendTree.loadFriends fromJson friends)
    groupItems := BadgeItem.loaded (FriendTree.loadGroups fromJson groups) }

/-! ## The slots -/

/-- A message of a conversation comes in. -/
def incoming (w : BadgeWidget) (id : Int) (isGroup : Bool) (cm : ChatMsg) : BadgeWidget :=
  let w' := { w with toChatWidget := w.toChatWidget.incoming id isGroup cm }
  if id = w.m_currentTargetId ∧ isGroup = w.m_currentIsGroup then w' else w'.updateBadge isGroup id

def onChatMsg (w : BadgeWidget) (fromid : Int) (name msg time : Str) : BadgeWidget :=
  w.incoming fromid false ⟨false, name, time, msg⟩

def onGroupMsg (w : BadgeWidget) (groupid fromid : Int) (name msg time : Str) : BadgeWidget :=
  if fromid = w.m_myId then w else w.incoming groupid true ⟨false, name, time, msg⟩

/-- The slot of `loginSuccess`; what is replayed after the loops leaves the badges alone. -/
def onLoginSuccess (fromJson : Str → Option Json) (w : BadgeWidget) (offlineMsgs : List Json) :
    BadgeWidget :=
  updateBadges { w with toChatWidget := w.toChatWidget.onLoginSuccess fromJson offlineMsgs }

def onTreeItemClicked (w : BadgeWidget) (item : TreeItem) : BadgeWidget :=
  if item.type = 0 then w
  else { w with toChatWidget := w.toChatWidget.switchToTarget item.id (item.type = 2) }.updateBadge
    (item.type = 2) item.id

def onFriendStateChanged (w : BadgeWidget) (friendid : Int) (state : Str) : BadgeWidget :=
  { w with tree := w.tree.onFriendStateChanged friendid state }

def onFriendAdded (w : BadgeWidget) (friendId : Int) (name state : Str) : BadgeWidget :=
  { w with tree := w.tree.onFriendAdded friendId name state
           friendItems := w.friendItems ++ [⟨friendId, 0⟩] }

def onGroupCreated (w : BadgeWidget) (groupId : Int) (groupName : Str) : BadgeWidget :=
  { w with tree := w.tree.onGroupCreated groupId groupName
           groupItems := w.groupItems ++ [⟨groupId, 0⟩] }

def onGroupJoined (w : BadgeWidget) (groupId : Int) (groupName : Str) : BadgeWidget :=
  w.onGroupCreated groupId groupName

/-- The signals that reach the conversations or the tree. -/
def slot (fromJson : Str → Option Json) (w : BadgeWidget) : Signal → BadgeWidget
  | .receivedChatMsg fromid name msg time => w.onChatMsg fromid name msg time
  | .receivedGroupMsg groupid fromid name msg time => w.onGroupMsg groupid fromid name msg time
  | .loginSuccess _ _ _ _ offlineMsgs => w.onLoginSuccess fromJson offlineMsgs
  | .friendStateChanged friendid state => w.onFriendStateChanged friendid state
  | .friendAdded friendId name state => w.onFriendAdded friendId name state
  | .groupCreated groupId groupName => w.onGroupCreated groupId groupName
  | .groupJoined groupId groupName => w.onGroupJoined groupId groupName
  | _ => w

def step (fromJson : Str → Option Json) (w : BadgeWidget) : WidgetEvent → BadgeWidget
  | .send text time => { w with toChatWidget := w.toChatWidget.onSendClicked text time }
  | .click item => w.onTreeItemClicked item
  | .signal sig => w.slot fromJson sig
  | .disconnected => { w with toChatWidget := w.toChatWidget.setStatus false }

end BadgeWidget

/-- The Widget with its tree and badges as a machine. -/
def badgeMachine (fromJson : Str → Option Json) : Machine where
  State := BadgeWidget
  Label := WidgetEvent
  init w := ∃ myId friends groups offlineMsgs, w = .new fromJson myId friends groups offlineMsgs
  step e w := some (w.step fromJson e)

namespace BadgeItem

variable {id : Int} {count : Nat} {items : List BadgeItem}

@[simp] theorem setFirst_ids (id : Int) (count : Nat) (items : List BadgeItem) :
    (setFirst id count items).map (·.id) = items.map (·.id) := by
  induction items with
  | nil => rfl
  | cons item items ih =>
    rw [setFirst]
    split
    · rfl
    · rw [List.map_cons, ih, List.map_cons]

/-- The first item with an id after one was set. -/
theorem find?_setFirst (id' : Int) :
    (setFirst id count items).find? (·.id = id') =
      (items.find? (·.id = id')).map fun item =>
        if id' = id then { item with badge := count } else item := by
  induction items with
  | nil => rfl
  | cons item items ih =>
    rw [setFirst]
    by_cases hid : item.id = id
    · rw [if_pos hid, List.find?_cons, List.find?_cons]
      by_cases hid' : item.id = id'
      · simp [hid', ← hid]
      · have hne : id' ≠ id := fun he => hid' (hid.trans he.symm)
        simp [hid', hne]
    · rw [if_neg hid, List.find?_cons, List.find?_cons]
      by_cases hid' : item.id = id'
      · have hne : id' ≠ id := fun he => hid (hid'.trans he)
        simp [hid', hne]
      · simp only [hid', decide_false]
        exact ih

/-- The loop over the ids of some items. -/
theorem foldl_setFirst (counters : Int → Nat) (its items : List BadgeItem) (id : Int) :
    ((its.foldl (fun items item =>
        if counters item.id = 0 then items else setFirst item.id (counters item.id) items) items).map
          (·.id) = items.map (·.id)) ∧
      (its.foldl (fun items item =>
        if counters item.id = 0 then items else setFirst item.id (counters item.id) items) items).find?
          (·.id = id) = (items.find? (·.id = id)).map fun item =>
            if (∃ it ∈ its, it.id = id) ∧ counters id ≠ 0 then { item with badge := counters id }
            else item := by
  induction its generalizing items with
  | nil => simp
  | cons it its ih =>
    rw [List.foldl_cons]
    obtain ⟨hids, hfind⟩ := ih (if counters it.id = 0 then items
      else setFirst it.id (counters it.id) items)
    constructor
    · rw [hids]
      split
      · rfl
      · exact setFirst_ids _ _ _
    · rw [hfind]
      by_cases h0 : counters it.id = 0
      · rw [if_pos h0]
        congr 1
        funext item
        by_cases hid : it.id = id
        · subst hid
          simp [h0]
        · simp [hid]
      · rw [if_neg h0, find?_setFirst, Option.map_map]
        congr 1
        funext item
        by_cases hid : it.id = id
        · subst hid
          simp [h0]
        · simp [hid, Ne.symm hid]

@[simp] theorem setAll_ids (counters : Int → Nat) (items : List BadgeItem) :
    (setAll counters items).map (·.id) = items.map (·.id) := (foldl_setFirst counters items items 0).1

/-- **The loop over the counters** sets the first item of each id that has one. -/
theorem find?_setAll (counters : Int → Nat) (items : List BadgeItem) (id : Int) :
    (setAll counters items).find? (·.id = id) = (items.find? (·.id = id)).map fun item =>
      if counters id = 0 then item else { item with badge := counters id } := by
  rw [setAll, (foldl_setFirst counters items items id).2]
  cases hf : items.find? (·.id = id) with
  | none => rfl
  | some item =>
    have hex : ∃ it ∈ items, it.id = id :=
      ⟨item, List.mem_of_find?_eq_some hf, by simpa using List.find?_some hf⟩
    by_cases h0 : counters id = 0 <;> simp [hex, h0]

end BadgeItem

namespace BadgeWidget

variable {fromJson : Str → Option Json}

@[simp] theorem updateBadge_toChatWidget (w : BadgeWidget) (g : Bool) (id : Int) :
    (w.updateBadge g id).toChatWidget = w.toChatWidget := by
  unfold updateBadge
  split <;> rfl

@[simp] theorem updateBadge_tree (w : BadgeWidget) (g : Bool) (id : Int) :
    (w.updateBadge g id).tree = w.tree := by
  unfold updateBadge
  split <;> rfl

/-- The conversations go their way without the badges. -/
theorem step_toChatWidget (w : BadgeWidget) (e : WidgetEvent) :
    (w.step fromJson e).toChatWidget = w.toChatWidget.step fromJson e := by
  have hin : ∀ id g cm, (w.incoming id g cm).toChatWidget = w.toChatWidget.incoming id g cm := by
    intro id g cm
    unfold incoming
    dsimp only
    split <;> simp
  cases e with
  | send => rfl
  | disconnected => rfl
  | click item =>
    unfold step onTreeItemClicked ChatWidget.step ChatWidget.onTreeItemClicked
    dsimp only
    split <;> simp
  | signal sig =>
    cases sig with
    | receivedChatMsg => exact hin _ _ _
    | receivedGroupMsg =>
      unfold step slot onGroupMsg ChatWidget.step ChatWidget.slot ChatWidget.onGroupMsg
      dsimp only
      split
      · rfl
      · exact hin _ _ _
    | _ => rfl

end BadgeWidget

end QtChat
