import QtChat.Client.FriendTree

/-!
# Notifications in the tree

`onFriendStateChanged` looks for the id below both roots, and keeps the name of a friend only in the
text of its item.

- `only_friend_iff`: which notifications leave the groups alone. A friend that is not in the tree is
  looked for among the groups, whose ids are other numbers.
- `keeps_name_iff`: which names survive a notification and a click. The item has `name [state]`, and
  the name is what stands before the first `" ["`.
-/

namespace QtChat

/-! ## The item that is found -/

namespace FriendTree

theorem setFirst_append {id : Int} {state : Str} {pre post : List TreeItem} {item : TreeItem}
    (hpre : ∀ x ∈ pre, x.id ≠ id) (hi : item.id = id) :
    setFirst id state (pre ++ item :: post) = some (pre ++ item.setState state :: post) := by
  induction pre with
  | nil => simp [setFirst, hi]
  | cons x pre ih =>
    rw [List.cons_append, setFirst, if_neg (hpre x (by simp)),
      ih fun y hy => hpre y (by simp [hy])]
    rfl

theorem setFirst_none {id : Int} {state : Str} {items : List TreeItem}
    (h : ∀ x ∈ items, x.id ≠ id) : setFirst id state items = none := by
  induction items with
  | nil => rfl
  | cons x items ih =>
    rw [setFirst, if_neg (h x (by simp)), ih fun y hy => h y (by simp [hy])]
    rfl

/-- No item has the id, or there is a first one. -/
theorem first_cases (id : Int) (items : List TreeItem) :
    (∀ x ∈ items, x.id ≠ id) ∨
      ∃ pre item post, items = pre ++ item :: post ∧ (∀ x ∈ pre, x.id ≠ id) ∧ item.id = id := by
  induction items with
  | nil => exact .inl (by simp)
  | cons x items ih =>
    by_cases hx : x.id = id
    · exact .inr ⟨[], x, items, rfl, by simp, hx⟩
    · rcases ih with h | ⟨pre, item, post, rfl, hpre, hi⟩
      · exact .inl (by simpa [hx] using h)
      · exact .inr ⟨x :: pre, item, post, rfl, by simpa [hx] using hpre, hi⟩

variable {t : FriendTree} {id : Int}

theorem onFriendStateChanged_friend {pre post : List TreeItem} {item : TreeItem}
    (ht : t.friends = pre ++ item :: post) (hpre : ∀ x ∈ pre, x.id ≠ id) (hi : item.id = id)
    (state : Str) :
    t.onFriendStateChanged id state = { t with friends := pre ++ item.setState state :: post } := by
  rw [onFriendStateChanged, ht, setFirst_append hpre hi]

theorem onFriendStateChanged_group {pre post : List TreeItem} {item : TreeItem}
    (hf : ∀ x ∈ t.friends, x.id ≠ id) (ht : t.groups = pre ++ item :: post)
    (hpre : ∀ x ∈ pre, x.id ≠ id) (hi : item.id = id) (state : Str) :
    t.onFriendStateChanged id state = { t with groups := pre ++ item.setState state :: post } := by
  rw [onFriendStateChanged, setFirst_none hf, ht, setFirst_append hpre hi]

theorem onFriendStateChanged_none (hf : ∀ x ∈ t.friends, x.id ≠ id)
    (hg : ∀ x ∈ t.groups, x.id ≠ id) (state : Str) : t.onFriendStateChanged id state = t := by
  rw [onFriendStateChanged, setFirst_none hf, setFirst_none hg]

end FriendTree

/-! ## Only the friend -/

/-- Between two trees only items of friends with the id differ. -/
def FriendTree.OnlyFriend (id : Int) (t t' : FriendTree) : Prop :=
  List.Forall₂ (fun item item' : TreeItem => item.id ≠ id → item' = item) t.friends t'.friends ∧
    t'.groups = t.groups

/-- The item looks as a notification with the state leaves it. -/
def TreeItem.Shows (item : TreeItem) (state : Str) : Prop :=
  item.text = label (sectionName item.text) state ∧
    item.foreground = (if state = txt "online" then .green else .grey) ∧
    item.bold = decide (state = txt "online")

theorem TreeItem.setState_eq_iff (item : TreeItem) (state : Str) :
    item.setState state = item ↔ item.Shows state := by
  obtain ⟨text, type, id, foreground, bold⟩ := item
  simp only [setState, paint, Shows, TreeItem.mk.injEq, true_and]
  constructor
  · rintro ⟨h1, h2, h3⟩
    exact ⟨h1.symm, h2.symm, h3.symm⟩
  · rintro ⟨h1, h2, h3⟩
    exact ⟨h1.symm, h2.symm, h3.symm⟩

namespace FriendTree

theorem forall₂_refl {id : Int} (items : List TreeItem) :
    List.Forall₂ (fun item item' : TreeItem => item.id ≠ id → item' = item) items items := by
  rw [List.forall₂_same]
  exact fun _ _ _ => rfl

/-- A notification for a friend in the tree. -/
theorem onlyFriend_friend {t : FriendTree} {id : Int} {pre post : List TreeItem} {item : TreeItem}
    (ht : t.friends = pre ++ item :: post) (hi : item.id = id) (new : TreeItem) :
    OnlyFriend id t { t with friends := pre ++ new :: post } := by
  refine ⟨?_, rfl⟩
  rw [ht]
  exact List.rel_append (forall₂_refl pre) (.cons (fun h => absurd hi h) (forall₂_refl post))

/-- **When a notification changes only the friend**: the friend is in the tree, or no group has the
number of the friend, or the first that has it already looks like a friend in that state. -/
theorem only_friend_iff (t : FriendTree) (friendid : Int) (state : Str) :
    OnlyFriend friendid t (t.onFriendStateChanged friendid state) ↔
      (∃ item ∈ t.friends, item.id = friendid) ∨
        ∀ item, t.groups.find? (fun item => item.id = friendid) = some item → item.Shows state := by
  rcases first_cases friendid t.friends with hf | ⟨pre, item, post, ht, hpre, hi⟩
  · have hno : ¬ ∃ item ∈ t.friends, item.id = friendid := fun ⟨x, hx, hid⟩ => hf x hx hid
    rcases first_cases friendid t.groups with hg | ⟨pre, item, post, ht, hpre, hi⟩
    · -- nobody has the number
      rw [onFriendStateChanged_none hf hg]
      have hfind : t.groups.find? (fun item => item.id = friendid) = none := by
        simpa [List.find?_eq_none] using hg
      rw [hfind]
      exact iff_of_true ⟨forall₂_refl _, rfl⟩ (.inr fun _ h => nomatch h)
    · -- a group has it
      have hfind : t.groups.find? (fun item => item.id = friendid) = some item := by
        rw [ht, List.find?_append, List.find?_eq_none.mpr (by simpa using hpre)]
        simp [hi]
      rw [onFriendStateChanged_group hf ht hpre hi, hfind]
      simp only [hno, false_or, Option.some.injEq, forall_eq']
      rw [← TreeItem.setState_eq_iff]
      constructor
      · rintro ⟨-, h⟩
        rw [ht, List.append_cancel_left_eq, List.cons.injEq] at h
        exact h.1
      · intro h
        refine ⟨forall₂_refl _, ?_⟩
        rw [ht, h]
  · rw [onFriendStateChanged_friend ht hpre hi]
    exact iff_of_true (onlyFriend_friend ht hi _) (.inl ⟨item, by simp [ht], hi⟩)

/-- The friend 7 is not in the tree, a group has the number 7. -/
theorem only_friend_fails :
    ¬ OnlyFriend 7 ⟨[.friend 3 (txt "Ann") (txt "online")], [.group 7 (txt "Chess")]⟩
      (onFriendStateChanged ⟨[.friend 3 (txt "Ann") (txt "online")], [.group 7 (txt "Chess")]⟩
        7 (txt "online")) := by
  rintro ⟨-, h⟩
  exact absurd h (by decide)

end FriendTree

/-! ## The name -/

namespace TreeItem

theorem sectionName_cons (b : UInt8) (s : Str) :
    sectionName (b :: s) = if (txt " [").isPrefixOf (b :: s) then [] else b :: sectionName s :=
  rfl

/-- The name in a label is what stands before the first `" ["` of the name itself. -/
theorem sectionName_label (name state : Str) : sectionName (label name state) = sectionName name := by
  have hsep : txt " [" = [32, 91] := by decide
  induction name with
  | nil => simp [label, hsep, sectionName]
  | cons b name ih =>
    have hl : label (b :: name) state = b :: label name state := rfl
    -- a blank at the end of the name and the label's own `" ["` make no separator
    have hp : (txt " [").isPrefixOf (b :: label name state) = (txt " [").isPrefixOf (b :: name) := by
      cases name with
      | nil => simp [label, hsep, List.isPrefixOf]
      | cons c name => simp [label, hsep, List.isPrefixOf]
    rw [hl, sectionName_cons, sectionName_cons, hp, ih]

theorem isPrefix_sectionName (s : Str) : sectionName s <+: s := by
  induction s with
  | nil => exact List.prefix_refl _
  | cons b s ih =>
    rw [sectionName_cons]
    split
    · exact List.nil_prefix
    · exact (List.prefix_cons_inj b).mpr ih

theorem sectionName_eq_iff (name : Str) : sectionName name = name ↔ ¬ txt " [" <:+: name := by
  induction name with
  | nil => exact iff_of_true rfl (by decide)
  | cons b name ih =>
    rw [sectionName_cons, List.infix_cons_iff, ← List.isPrefixOf_iff_prefix]
    split
    · rename_i h
      simp [h]
    · rename_i h
      simp [h, ih]

theorem sectionName_idem (name : Str) : sectionName (sectionName name) = sectionName name := by
  induction name with
  | nil => rfl
  | cons b name ih =>
    rw [sectionName_cons]
    split
    · rfl
    · rename_i h
      rw [sectionName_cons, ih, if_neg]
      intro hp
      rw [List.isPrefixOf_iff_prefix] at h hp
      exact h (hp.trans ((List.prefix_cons_inj b).mpr (isPrefix_sectionName name)))

theorem label_inj_right {name state state' : Str} :
    label name state = label name state' ↔ state = state' := by
  simp [label]

@[simp] theorem friend_id (id : Int) (name state : Str) : (friend id name state).id = id := rfl

theorem setState_friend (id : Int) (name state state' : Str) :
    (friend id name state).setState state' = friend id (sectionName name) state' := by
  change (friend id name state).paint (sectionName (label name state)) state' = _
  rw [sectionName_label]
  rfl

theorem displayName_friend (id : Int) (name state : Str) :
    (friend id name state).displayName = sectionName name := by
  change sectionName (label name state) = _
  exact sectionName_label name state

end TreeItem

namespace FriendTree

/-- The tree after the notifications for a friend. -/
def onStates (id : Int) (t : FriendTree) (states : List Str) : FriendTree :=
  states.foldl (fun t state => t.onFriendStateChanged id state) t

/-- `loadFriends` or `onFriendAdded` makes the item at the position, in a tree that is then used. -/
inductive Makes (fromJson : Str → Option Json) (id : Int) (name state : Str) :
    FriendTree → Nat → Prop
  | load {friends : List Json} (groups : List Json) {f : Json} {k : Nat}
      (hf : friends[k]? = some f) (hid : ((listed fromJson f).value "id").qtInt = id)
      (hname : ((listed fromJson f).value "name").qtString = name)
      (hstate : ((listed fromJson f).value "state").qtString = state) :
      Makes fromJson id name state (load fromJson friends groups) k
  | add (t : FriendTree) :
      Makes fromJson id name state (t.onFriendAdded id name state) t.friends.length

theorem Makes.item {fromJson : Str → Option Json} {id : Int} {name state : Str} {t : FriendTree}
    {k : Nat} (h : Makes fromJson id name state t k) :
    t.friends[k]? = some (.friend id name state) := by
  cases h with
  | load groups hf hid hname hstate => simp [FriendTree.load, loadFriends, hf, hid, hname, hstate]
  | add t => simp [onFriendAdded]

theorem onStates_cons (id : Int) (t : FriendTree) (state : Str) (states : List Str) :
    t.onStates id (state :: states) = (t.onFriendStateChanged id state).onStates id states :=
  rfl

/-- Notifications for the first friend with the id: the name is cut once and the state is the last
one. -/
theorem onStates_first {id : Int} {pre post : List TreeItem} (hpre : ∀ x ∈ pre, x.id ≠ id)
    (states : List Str) {t : FriendTree} {name state : Str}
    (ht : t.friends = pre ++ .friend id name state :: post) :
    (t.onStates id states).friends = pre ++ .friend id
      (if states = [] then name else TreeItem.sectionName name) (states.getLastD state) :: post := by
  induction states generalizing t name state with
  | nil => exact ht
  | cons s states ih =>
    rw [onStates_cons, onFriendStateChanged_friend ht hpre rfl, TreeItem.setState_friend,
      ih (t := { t with friends := pre ++ .friend id (TreeItem.sectionName name) s :: post }) rfl,
      TreeItem.sectionName_idem, ite_self, if_neg (List.cons_ne_nil s states), List.getLastD_cons]

/-- Notifications leave an item alone that has another with its id before it. -/
theorem onStates_later {id : Int} {k : Nat} (states : List Str) {t : FriendTree}
    (hk : ∃ x ∈ t.friends.take k, x.id = id) :
    (t.onStates id states).friends[k]? = t.friends[k]? := by
  induction states generalizing t with
  | nil => rfl
  | cons s states ih =>
    rcases first_cases id t.friends with hf | ⟨pre, item, post, ht, hpre, hi⟩
    · obtain ⟨x, hx, hid⟩ := hk
      exact absurd hid (hf x (List.mem_of_mem_take hx))
    · have hlen : pre.length < k := by
        obtain ⟨x, hx, hid⟩ := hk
        by_contra hle
        rw [ht, List.take_append_of_le_length (by omega)] at hx
        exact hpre x (List.mem_of_mem_take hx) hid
      have hk' : k - pre.length = (k - pre.length - 1) + 1 := by omega
      rw [onStates_cons, onFriendStateChanged_friend ht hpre hi, ih]
      · rw [ht, List.getElem?_append_right (by omega), List.getElem?_append_right (by omega), hk']
        rfl
      · refine ⟨item.setState s, ?_, hi⟩
        rw [List.take_append, show (item.setState s :: post).take (k - pre.length) =
          item.setState s :: post.take (k - pre.length - 1) by rw [hk']; rfl]
        simp

/-- The item at the position shows the name with the state, and a click hands the name on. -/
def KeepsName (t : FriendTree) (k : Nat) (name state : Str) : Prop :=
  ∃ item, t.friends[k]? = some item ∧ item.text = TreeItem.label name state ∧
    item.displayName = name

/-- **Which names a friend keeps**: those without `" ["`, if its item is the first with its id (or
the last notification brings the state that the item began with). -/
theorem keeps_name_iff {fromJson : Str → Option Json} {id : Int} {name state : Str}
    {t : FriendTree} {k : Nat} (h : Makes fromJson id name state t k) (states : List Str) :
    KeepsName (t.onStates id states) k name (states.getLastD state) ↔
      ¬ txt " [" <:+: name ∧
        ((∀ item ∈ t.friends.take k, item.id ≠ id) ∨ states.getLastD state = state) := by
  have hk := h.item
  rw [← TreeItem.sectionName_eq_iff]
  by_cases hpre : ∀ item ∈ t.friends.take k, item.id ≠ id
  · -- the notifications reach the item
    obtain ⟨hlt, hget⟩ := List.getElem?_eq_some_iff.mp hk
    have ht : t.friends = t.friends.take k ++ .friend id name state :: t.friends.drop (k + 1) := by
      rw [← hget, List.getElem_cons_drop, List.take_append_drop]
    have hlen : (t.friends.take k).length = k := by
      rw [List.length_take]
      omega
    have hitem : (t.onStates id states).friends[k]? = some (.friend id
        (if states = [] then name else TreeItem.sectionName name) (states.getLastD state)) := by
      rw [onStates_first hpre states ht, List.getElem?_append_right (by omega)]
      simp [hlen]
    simp only [KeepsName, hitem, Option.some.injEq, exists_eq_left', TreeItem.displayName_friend]
    constructor
    · rintro ⟨-, hd⟩
      refine ⟨?_, .inl hpre⟩
      split at hd
      · exact hd
      · rwa [TreeItem.sectionName_idem] at hd
    · rintro ⟨hn, -⟩
      simp only [hn, ite_self, and_true]
      rfl
  · -- an item before it takes them
    have hitem : (t.onStates id states).friends[k]? = some (.friend id name state) := by
      rw [onStates_later states (by simpa using hpre), hk]
    simp only [KeepsName, hitem, Option.some.injEq, exists_eq_left', TreeItem.displayName_friend]
    have htext : (TreeItem.friend id name state).text = TreeItem.label name state := rfl
    rw [htext, TreeItem.label_inj_right, and_comm]
    simp only [hpre, false_or, eq_comm]

/-- A friend whose name the notification keeps. -/
theorem keeps_name_bob : ∃ t : FriendTree,
    KeepsName (t.onStates 7 [txt "online", txt "offline"]) 0 (txt "Bob") (txt "offline") :=
  have made : Makes (fun _ => none) 7 (txt "Bob") (txt "offline") (onFriendAdded ⟨[], []⟩ 7
      (txt "Bob") (txt "offline")) 0 := .add ⟨[], []⟩
  ⟨_, (keeps_name_iff made [txt "online", txt "offline"]).mpr (by decide)⟩

/-- The friend `a [b] c` comes online. -/
theorem keeps_name_fails :
    ¬ KeepsName ((onFriendAdded ⟨[], []⟩ 7 (txt "a [b] c") (txt "offline")).onStates 7
      [txt "online"]) 0 (txt "a [b] c") (txt "online") := by
  rintro ⟨item, hi, ht, -⟩
  cases hi
  exact absurd ht (by decide)

end FriendTree

end QtChat
