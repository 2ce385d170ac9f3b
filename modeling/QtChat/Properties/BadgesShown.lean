import QtChat.Client.Badges
import QtChat.Properties.OpenConversation

/-!
# What the badges show

A badge is a copy of a counter: the slots that change the counter write it, in the first item of the
conversation. A message of somebody who is not in the tree is counted without an item, and the item
that a later `onFriendAdded` or `onGroupCreated` makes has no badge until the counter changes again.
`badges_shown_iff`: there is no other way for a badge to be wrong.
-/

namespace QtChat

open Interleave

theorem FriendTree.setFirst_ids {id : Int} {state : Str} {items items' : List TreeItem}
    (h : setFirst id state items = some items') : items'.map (·.id) = items.map (·.id) := by
  induction items generalizing items' with
  | nil => cases h
  | cons item items ih =>
    rw [setFirst] at h
    split at h
    · cases h
      rfl
    · obtain ⟨its, hits, rfl⟩ := Option.map_eq_some_iff.mp h
      rw [List.map_cons, ih hits, List.map_cons]

namespace BadgeWidget

variable {fromJson : Str → Option Json} {w : BadgeWidget}

/-- The items are those of the tree. -/
structure Aligned (w : BadgeWidget) : Prop where
  friends : w.friendItems.map (·.id) = w.tree.friends.map (·.id)
  groups : w.groupItems.map (·.id) = w.tree.groups.map (·.id)

/-- The first item of every conversation has its counter. -/
def Exact (w : BadgeWidget) : Prop := ∀ g id item,
  (w.items g).find? (·.id = id) = some item → item.badge = w.unread g id

/-- What is painted beside the first item of a conversation is its number of unread messages. -/
def Shown (w : BadgeWidget) : Prop := ∀ g id item,
  (w.items g).find? (·.id = id) = some item → badgeText item.badge = badgeText (w.unread g id)

/-- The item that an event adds: the root, and the id. -/
def added : WidgetEvent → Option (Bool × Int)
  | .signal (.friendAdded friendId _ _) => some (false, friendId)
  | .signal (.groupCreated groupId _) | .signal (.groupJoined groupId _) => some (true, groupId)
  | _ => none

/-- A conversation that gets its first item has no unread messages. -/
def AddedRead (e : WidgetEvent) (w : BadgeWidget) : Prop := ∀ g id, added e = some (g, id) →
  (∃ item ∈ w.items g, item.id = id) ∨ w.unread g id = 0

/-! ## The items of the tree -/

@[simp] theorem updateBadge_ids (w : BadgeWidget) (g g' : Bool) (id : Int) :
    ((w.updateBadge g id).items g').map (·.id) = (w.items g').map (·.id) := by
  cases g <;> cases g' <;> simp [updateBadge, updateFriendBadge, updateGroupBadge, items]

theorem Aligned.of_ids {w w' : BadgeWidget} (h : w.Aligned)
    (hids : ∀ g, (w'.items g).map (·.id) = (w.items g).map (·.id))
    (hf : w'.tree.friends.map (·.id) = w.tree.friends.map (·.id))
    (hg : w'.tree.groups.map (·.id) = w.tree.groups.map (·.id)) : w'.Aligned :=
  ⟨(hids false).trans (h.friends.trans hf.symm), (hids true).trans (h.groups.trans hg.symm)⟩

theorem Aligned.updateBadge (h : w.Aligned) (g : Bool) (id : Int) : (w.updateBadge g id).Aligned :=
  h.of_ids (fun g' => updateBadge_ids w g g' id) (by rw [updateBadge_tree]) (by rw [updateBadge_tree])

theorem Aligned.updateBadges (h : w.Aligned) : w.updateBadges.Aligned :=
  ⟨(BadgeItem.setAll_ids _ _).trans h.friends, (BadgeItem.setAll_ids _ _).trans h.groups⟩

theorem Aligned.incoming (h : w.Aligned) (id : Int) (g : Bool) (cm : ChatMsg) :
    (w.incoming id g cm).Aligned := by
  have hw : ({ w with toChatWidget := w.toChatWidget.incoming id g cm } : BadgeWidget).Aligned :=
    ⟨h.friends, h.groups⟩
  unfold BadgeWidget.incoming
  dsimp only
  split
  · exact hw
  · exact hw.updateBadge g id

theorem Aligned.onFriendStateChanged (h : w.Aligned) (friendid : Int) (state : Str) :
    (w.onFriendStateChanged friendid state).Aligned := by
  refine h.of_ids (fun _ => rfl) ?_ ?_ <;>
    unfold BadgeWidget.onFriendStateChanged FriendTree.onFriendStateChanged <;> dsimp only <;> split
  · rename_i hs
    exact FriendTree.setFirst_ids hs
  · split <;> rfl
  · rfl
  · split
    · rename_i hs
      exact FriendTree.setFirst_ids hs
    · rfl

theorem Aligned.step (h : w.Aligned) (e : WidgetEvent) : (w.step fromJson e).Aligned := by
  cases e with
  | send => exact ⟨h.friends, h.groups⟩
  | disconnected => exact ⟨h.friends, h.groups⟩
  | click item =>
    unfold BadgeWidget.step onTreeItemClicked
    dsimp only
    split
    · exact h
    · refine Aligned.updateBadge ?_ _ _
      exact ⟨h.friends, h.groups⟩
  | signal sig =>
    cases sig with
    | receivedChatMsg => exact h.incoming _ _ _
    | receivedGroupMsg =>
      unfold BadgeWidget.step slot onGroupMsg
      dsimp only
      split
      · exact h
      · exact h.incoming _ _ _
    | loginSuccess => exact Aligned.updateBadges ⟨h.friends, h.groups⟩
    | friendStateChanged => exact h.onFriendStateChanged _ _
    | friendAdded friendId name state =>
      refine ⟨?_, h.groups⟩
      change (w.friendItems ++ [_]).map _ = (w.tree.friends ++ [_]).map _
      rw [List.map_append, List.map_append, h.friends]
      rfl
    | groupCreated groupId groupName | groupJoined groupId groupName =>
      refine ⟨h.friends, ?_⟩
      change (w.groupItems ++ [_]).map _ = (w.tree.groups ++ [_]).map _
      rw [List.map_append, List.map_append, h.groups]
      rfl
    | _ => exact h

theorem aligned_new (myId : Int) (friends groups offlineMsgs : List Json) :
    (new fromJson myId friends groups offlineMsgs).Aligned := by
  refine Aligned.updateBadges ⟨?_, ?_⟩
  · change (BadgeItem.loaded _).map _ = _
    rw [BadgeItem.loaded, List.map_map]
    rfl
  · change (BadgeItem.loaded _).map _ = _
    rw [BadgeItem.loaded, List.map_map]
    rfl

/-! ## The badges -/

theorem badgeText_eq_none {n : Nat} : badgeText n = none ↔ n = 0 := by
  unfold badgeText
  split_ifs with h0 <;> simp [h0]

theorem updateBadge_items (w : BadgeWidget) (g : Bool) (id : Int) (g' : Bool) :
    (w.updateBadge g id).items g' =
      if g' = g then BadgeItem.setFirst id (w.unread g id) (w.items g) else w.items g' := by
  cases g <;> cases g' <;>
    simp [updateBadge, updateFriendBadge, updateGroupBadge, items, ChatWidget.unread]

/-- The badge of a conversation is brought up to date, and the other ones are. -/
theorem exact_updateBadge {g : Bool} {id : Int} (h : ∀ g' id' item, ¬(g' = g ∧ id' = id) →
    (w.items g').find? (·.id = id') = some item → item.badge = w.unread g' id') :
    (w.updateBadge g id).Exact := by
  intro g' id' item hf
  rw [updateBadge_toChatWidget]
  rw [updateBadge_items] at hf
  by_cases hg : g' = g
  · subst hg
    rw [if_pos rfl, BadgeItem.find?_setFirst] at hf
    obtain ⟨item', hf', rfl⟩ := Option.map_eq_some_iff.mp hf
    by_cases hid : id' = id
    · rw [if_pos hid, hid]
    · rw [if_neg hid]
      exact h g' id' item' (fun he => hid he.2) hf'
  · rw [if_neg hg] at hf
    exact h g' id' item (fun he => hg he.1) hf

/-- The batch of a re-login brings all badges up to date: a counter that is still 0 was 0. -/
theorem exact_updateBadges {unread : Bool → Int → Nat}
    (h : ∀ g id item, (w.items g).find? (·.id = id) = some item → item.badge = unread g id)
    (hle : ∀ g id, unread g id ≤ w.unread g id) : w.updateBadges.Exact := by
  intro g id item hf
  have hitems : w.updateBadges.items g = BadgeItem.setAll (w.unread g) (w.items g) := by
    cases g <;> rfl
  have hunread : w.updateBadges.unread g id = w.unread g id := rfl
  rw [hitems, BadgeItem.find?_setAll] at hf
  obtain ⟨item', hf', rfl⟩ := Option.map_eq_some_iff.mp hf
  rw [hunread]
  split
  · rename_i h0
    have := hle g id
    rw [h g id item' hf']
    omega
  · rfl

theorem Exact.incoming (h : w.Exact) (id : Int) (g : Bool) (cm : ChatMsg) :
    (w.incoming id g cm).Exact := by
  unfold BadgeWidget.incoming ChatWidget.incoming
  dsimp only
  split
  · exact h
  · refine exact_updateBadge fun g' id' item hne hf => ?_
    have hunread : (((w.appendToHistory id g cm).countUnread g id).unread g' id') = w.unread g' id' := by
      rw [ChatWidget.countUnread_unread, if_neg fun he => hne ⟨he.1.symm, he.2.symm⟩]
      rfl
    exact (h g' id' item hf).trans hunread.symm

/-- A switch clears the counter of its conversation alone. -/
theorem switchToTarget_unread (w : ChatWidget) (id : Int) (g : Bool) {g' : Bool} {id' : Int}
    (hne : ¬(g' = g ∧ id' = id)) : (w.switchToTarget id g).unread g' id' = w.unread g' id' := by
  unfold ChatWidget.switchToTarget ChatWidget.rebuildChatFromHistory
  dsimp only
  rw [(ChatWidget.addAll_spec _ _).2.2.1]
  by_cases hid : id' = id
  · cases g <;> cases g' <;> first
      | exact absurd ⟨rfl, hid⟩ hne
      | rfl
  · cases g <;> cases g' <;> simp [ChatWidget.unread, ChatWidget.setUnread, hid]

theorem Exact.click (h : w.Exact) (item : TreeItem) : (w.onTreeItemClicked item).Exact := by
  unfold onTreeItemClicked
  split
  · exact h
  · refine exact_updateBadge fun g' id' item' hne hf => ?_
    exact (h g' id' item' hf).trans (switchToTarget_unread _ _ _ hne).symm

/-- An item is added to a root. -/
theorem exact_added {w' : BadgeWidget} {g : Bool} {id : Int} (h : w.Exact)
    (hchat : w'.toChatWidget = w.toChatWidget) (hg : w'.items g = w.items g ++ [⟨id, 0⟩])
    (hother : w'.items (!g) = w.items (!g)) :
    ((∃ item ∈ w.items g, item.id = id) ∨ w.unread g id = 0 → w'.Exact) ∧
      (w'.Shown → (∃ item ∈ w.items g, item.id = id) ∨ w.unread g id = 0) := by
  have hunread : w'.unread = w.unread := congrArg ChatWidget.unread hchat
  have hfind : ∀ id', (w'.items g).find? (·.id = id') = ((w.items g).find? (·.id = id')).or
      (if id = id' then some ⟨id, 0⟩ else none) := by
    intro id'
    rw [hg, List.find?_append]
    by_cases he : id = id' <;> simp [he]
  constructor
  · rintro hread g' id' item hf
    rw [hunread]
    by_cases hg' : g' = g
    · subst hg'
      rw [hfind] at hf
      cases hold : (w.items g').find? (·.id = id') with
      | some item' =>
        rw [hold, Option.some_or] at hf
        cases hf
        exact h g' id' item hold
      | none =>
        rw [hold, Option.none_or] at hf
        obtain ⟨he, hnew⟩ := Option.ite_none_right_eq_some.mp hf
        cases hnew
        subst he
        rcases hread with ⟨it, hit, hid⟩ | hread
        · exact absurd hid (by simpa using List.find?_eq_none.mp hold it hit)
        · exact hread.symm
    · have hnot : g' = !g := by cases g <;> cases g' <;> first | rfl | exact absurd rfl hg'
      rw [hnot, hother] at hf
      rw [hnot]
      exact h _ id' item hf
  · intro hs
    cases hold : (w.items g).find? (·.id = id) with
    | some item =>
      exact .inl ⟨item, List.mem_of_find?_eq_some hold, by simpa using List.find?_some hold⟩
    | none =>
      have hnew : (w'.items g).find? (·.id = id) = some ⟨id, 0⟩ := by
        rw [hfind, hold, Option.none_or, if_pos rfl]
      have htext := hs g id _ hnew
      rw [hunread] at htext
      exact .inr (badgeText_eq_none.mp (htext.symm.trans rfl))

/-- **Every step** keeps the badges exact but for one that adds an item. -/
theorem Exact.step (h : w.Exact) (e : WidgetEvent) :
    (AddedRead e w → (w.step fromJson e).Exact) ∧ ((w.step fromJson e).Shown → AddedRead e w) := by
  have hkeep : added e = none → (w.step fromJson e).Exact →
      (AddedRead e w → (w.step fromJson e).Exact) ∧ ((w.step fromJson e).Shown → AddedRead e w) := by
    intro hno hex
    refine ⟨fun _ => hex, fun _ g id ha => ?_⟩
    rw [hno] at ha
    cases ha
  have hadd : ∀ g id, added e = some (g, id) →
      ((∃ item ∈ w.items g, item.id = id) ∨ w.unread g id = 0 → (w.step fromJson e).Exact) ∧
        ((w.step fromJson e).Shown → (∃ item ∈ w.items g, item.id = id) ∨ w.unread g id = 0) →
      (AddedRead e w → (w.step fromJson e).Exact) ∧ ((w.step fromJson e).Shown → AddedRead e w) := by
    rintro g id ha ⟨h₁, h₂⟩
    refine ⟨fun hr => h₁ (hr g id ha), fun hs g' id' ha' => ?_⟩
    rw [ha] at ha'
    cases ha'
    exact h₂ hs
  cases e with
  | send text time =>
    refine hkeep rfl fun g id item hf => (h g id item hf).trans ?_
    unfold BadgeWidget.step ChatWidget.onSendClicked
    dsimp only
    split <;> rfl
  | disconnected => exact hkeep rfl h
  | click item => exact hkeep rfl (h.click item)
  | signal sig =>
    cases sig with
    | receivedChatMsg => exact hkeep rfl (h.incoming _ _ _)
    | receivedGroupMsg =>
      refine hkeep rfl ?_
      unfold BadgeWidget.step slot onGroupMsg
      dsimp only
      split
      · exact h
      · exact h.incoming _ _ _
    | loginSuccess id name friends groups offlineMsgs =>
      have hle : ∀ g id,
          w.unread g id ≤ (w.toChatWidget.onLoginSuccess fromJson offlineMsgs).unread g id := by
        intro g id
        rw [(ChatWidget.login_unread w.toChatWidget offlineMsgs).2]
        exact Nat.le_add_right _ _
      exact hkeep rfl (exact_updateBadges h hle)
    | friendAdded friendId name state =>
      exact hadd false friendId rfl (exact_added h rfl rfl rfl)
    | groupCreated groupId groupName | groupJoined groupId groupName =>
      exact hadd true groupId rfl (exact_added h rfl rfl rfl)
    | _ => exact hkeep rfl h

theorem exact_new (myId : Int) (friends groups offlineMsgs : List Json) :
    (new fromJson myId friends groups offlineMsgs).Exact := by
  -- the items of a tree that was just loaded have no badge
  have hle : ∀ g id, 0 ≤ (ChatWidget.new fromJson myId offlineMsgs).unread g id :=
    fun _ _ => Nat.zero_le _
  refine exact_updateBadges (fun g id item hf => ?_) hle
  have hmem := List.mem_of_find?_eq_some hf
  cases g <;> obtain ⟨x, -, rfl⟩ := List.mem_map.mp hmem <;> rfl

end BadgeWidget

/-- **What the badges show.** In every run of the Widget, over every sequence of messages, batches,
clicks, notifications and new items: all along the run the first item of every conversation shows its
number of unread messages (none for 0, `99+` above 99) exactly if every first item of a conversation
that the run adds is added while nothing of the conversation is unread. -/
theorem badges_shown_iff (fromJson : Str → Option Json) (myId : Int)
    (friends groups offlineMsgs : List Json) (es : List WidgetEvent) :
    (∀ w, (badgeMachine fromJson).Passes es (.new fromJson myId friends groups offlineMsgs) w →
      BadgeWidget.Aligned w ∧ BadgeWidget.Shown w) ↔
    ∀ e w, (badgeMachine fromJson).Takes es (.new fromJson myId friends groups offlineMsgs) e w →
      BadgeWidget.AddedRead e w := by
  have hrun : ∀ (es : List WidgetEvent) (w : BadgeWidget),
      ∃ w', (badgeMachine fromJson).runs es w = some w' := by
    intro es
    induction es with
    | nil => exact fun w => ⟨w, rfl⟩
    | cons e es ih => exact fun w => ih (w.step fromJson e)
  obtain ⟨w', hr⟩ := hrun es (.new fromJson myId friends groups offlineMsgs)
  refine Machine.passes_iff_takes (M := badgeMachine fromJson)
    (G := fun w : BadgeWidget => w.Aligned ∧ w.Exact)
    (P := fun w : BadgeWidget => w.Aligned ∧ w.Shown) ?_ ?_
    ⟨BadgeWidget.aligned_new _ _ _ _, BadgeWidget.exact_new _ _ _ _⟩ hr
  · rintro w ⟨ha, he⟩
    exact ⟨ha, fun g id item hf => by rw [he g id item hf]⟩
  · rintro e w w₁ ⟨ha, he⟩ hl
    cases hl
    have hstep : (BadgeWidget.AddedRead e w → (w.step fromJson e).Exact) ∧
        ((w.step fromJson e).Shown → BadgeWidget.AddedRead e w) := he.step e
    obtain ⟨h₁, h₂⟩ := hstep
    exact ⟨fun hq => ⟨ha.step e, h₁ hq⟩, fun hp => h₂ hp.2⟩

end QtChat
