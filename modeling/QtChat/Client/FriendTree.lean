import QtChat.Client.Windows

/-!
# The tree of the main window

The items under the roots `Friends` and `Groups` of `m_friendTree` (`widget.cpp`), the first root
first: what the constructor loads, and what the slots for friends and groups change.
-/

namespace QtChat

/-- A colour of an item: `#4ade80`, `#888` and `#fbbf24`. -/
inductive Foreground where
  | green
  | grey
  | amber
  deriving DecidableEq

/-- A `QTreeWidgetItem` below a root. -/
structure TreeItem where
  text : Str
  /-- `Qt::UserRole`: 1 for a friend, 2 for a group. -/
  type : Int
  /-- `Qt::UserRole + 1`. -/
  id : Int
  foreground : Foreground
  bold : Bool
  deriving DecidableEq

namespace TreeItem

/-- `QString("%1 [%2]").arg(name, state)`. -/
def label (name state : Str) : Str := name ++ txt " [" ++ state ++ txt "]"

/-- `text.section(" [", 0, 0)`: what stands before the first `" ["`. -/
def sectionName : Str → Str
  | [] => []
  | b :: s => if (txt " [").isPrefixOf (b :: s) then [] else b :: sectionName s

/-- The look of a friend in the state. -/
def paint (item : TreeItem) (name state : Str) : TreeItem :=
  { item with
    text := label name state
    foreground := if state = txt "online" then .green else .grey
    bold := state = txt "online" }

/-- The item that `loadFriends` and `onFriendAdded` make. -/
def friend (id : Int) (name state : Str) : TreeItem :=
  (⟨[], 1, id, .grey, false⟩ : TreeItem).paint name state

/-- The item that `loadGroups` and `onGroupCreated` make. -/
def group (id : Int) (name : Str) : TreeItem := ⟨name, 2, id, .amber, false⟩

/-- The item after a notification. -/
def setState (item : TreeItem) (state : Str) : TreeItem := item.paint (sectionName item.text) state

/-- The name that `onTreeItemClicked` gives to `switchToTarget`. -/
def displayName (item : TreeItem) : Str :=
  if item.type = 2 then item.text else sectionName item.text

end TreeItem

/-- The children of the two roots. -/
structure FriendTree where
  friends : List TreeItem
  groups : List TreeItem
  deriving DecidableEq

namespace FriendTree

/-- The object in a string of the acknowledgement's lists. -/
def listed (fromJson : Str → Option Json) (f : Json) : Json := Widget.offlineObj fromJson f

/-- `loadFriends`. -/
def loadFriends (fromJson : Str → Option Json) (friends : List Json) : List TreeItem :=
  friends.map fun f => .friend ((listed fromJson f).value "id").qtInt
    ((listed fromJson f).value "name").qtString ((listed fromJson f).value "state").qtString

/-- `loadGroups`. -/
def loadGroups (fromJson : Str → Option Json) (groups : List Json) : List TreeItem :=
  groups.map fun g => .group ((listed fromJson g).value "id").qtInt
    ((listed fromJson g).value "groupname").qtString

/-- The tree that the constructor of `Widget` loads. -/
def load (fromJson : Str → Option Json) (friends groups : List Json) : FriendTree :=
  ⟨loadFriends fromJson friends, loadGroups fromJson groups⟩

/-- The first child with the id is set; none if there is no such child. -/
def setFirst (friendid : Int) (state : Str) : List TreeItem → Option (List TreeItem)
  | [] => none
  | item :: items =>
    if item.id = friendid then some (item.setState state :: items)
    else (setFirst friendid state items).map (item :: ·)

/-- `onFriendStateChanged`: the loop over the roots returns at the first child with the id. -/
def onFriendStateChanged (t : FriendTree) (friendid : Int) (state : Str) : FriendTree :=
  match setFirst friendid state t.friends with
  | some friends => { t with friends }
  | none => match setFirst friendid state t.groups with
    | some groups => { t with groups }
    | none => t

def onFriendAdded (t : FriendTree) (friendId : Int) (name state : Str) : FriendTree :=
  { t with friends := t.friends ++ [.friend friendId name state] }

def onGroupCreated (t : FriendTree) (groupId : Int) (groupName : Str) : FriendTree :=
  { t with groups := t.groups ++ [.group groupId groupName] }

def onGroupJoined (t : FriendTree) (groupId : Int) (groupName : Str) : FriendTree :=
  t.onGroupCreated groupId groupName

end FriendTree

example : (TreeItem.friend 7 (txt "a [b]") (txt "offline")).setState (txt "online") =
    ⟨txt "a [online]", 1, 7, .green, true⟩ := by decide

end QtChat
