import QtChat.Client.Views
import QtChat.Properties.DisplacedLogin
import QtChat.Properties.FriendJobs
import QtChat.Properties.TreeStates

/-!
# The states that trees of friends show

The window of a client follows the copy that the packets make which it has read: every item below
`Friends` shows a state that the copy has for its id (`Shown.Follows`). What was told is up to date
on the server's side, and with no packet under way the client has read all of it.

- `NetLabel.KeepsUp`: what a step needs, a condition on the state before it.
- `InTouch`: the invariant of the network, the server's and the clients'. `inTouch_step` is every
  step.
- `friends_shown`: what the items show in a quiet state. `friends_stale`: a client that logs in
  again by itself keeps the tree that it has.
-/

namespace QtChat

open Interleave ChatService Presence

/-! ## The items of the window -/

/-- The item shows the state. -/
def TreeItem.InState (item : TreeItem) (state : Str) : Prop :=
  txt " [" ++ state ++ txt "]" <:+ item.text ∧
    item.foreground = (if state = txt "online" then .green else .grey) ∧
      item.bold = decide (state = txt "online")

instance (item : TreeItem) (state : Str) : Decidable (item.InState state) :=
  inferInstanceAs (Decidable (_ ∧ _ ∧ _))

/-- The items below `Friends` in the tree of the main window. -/
def Shown.treeFriends : Shown → List TreeItem
  | widget w => w.m_friendTree.friends
  | _ => []

/-- The items below `Friends`: those of the tree, or those that it will have when `main` builds the
main window from the dialog. -/
def Shown.friends (fromJson : Str → Option Json) : Shown → List TreeItem
  | dialog d => if d.accepted then FriendTree.loadFriends fromJson d.m_friends else []
  | widget w => w.m_friendTree.friends
  | none => []

/-- Every item shows a state that the pairs have for it. -/
def Covered (pairs : List (Int × Str)) (items : List TreeItem) : Prop :=
  ∀ item ∈ items, ∃ state, item.InState state ∧ (item.id, state) ∈ pairs

/-- What a window needs to change as the copy does: when a login is accepted once more it shows what
the login loads, it shows a friend once, and the dialog shows a new state already. -/
def Shown.TakesNote (fromJson : Str → Option Json) : Shown → Note Int Str → Prop
  | widget w, .load pairs => ∀ item ∈ w.m_friendTree.friends,
      ∃ p ∈ pairs, p.1 = item.id ∧ item.InState p.2
  | widget w, .set id _ => (w.m_friendTree.friends.filter fun item => item.id = id).length ≤ 1
  | dialog d, .set id state => ∀ item ∈ friends fromJson (.dialog d),
      item.id = id → item.InState state
  | _, _ => True

instance (fromJson : Str → Option Json) : ∀ s n, Decidable (Shown.TakesNote fromJson s n)
  | .widget w, .load pairs => inferInstanceAs (Decidable (∀ item ∈ w.m_friendTree.friends,
      ∃ p ∈ pairs, p.1 = item.id ∧ item.InState p.2))
  | .widget _, .set _ _ => inferInstanceAs (Decidable (_ ≤ 1))
  | .dialog d, .set id state => inferInstanceAs (Decidable
      (∀ item ∈ Shown.friends fromJson (.dialog d), item.id = id → item.InState state))
  | .widget _, .add .. => .isTrue trivial
  | .dialog _, .load _ => .isTrue trivial
  | .dialog _, .add .. => .isTrue trivial
  | .none, _ => .isTrue trivial

section Tree

variable {fromJson : Str → Option Json} {pairs : List (Int × Str)} {items : List TreeItem}

theorem TreeItem.inState_paint (item : TreeItem) (name state : Str) :
    (item.paint name state).InState state :=
  ⟨⟨name, by simp [paint, label]⟩, rfl, rfl⟩

theorem Shown.mem_friends {s : Shown} {item : TreeItem} (h : item ∈ s.treeFriends) :
    item ∈ s.friends fromJson := by
  cases s with
  | widget w => exact h
  | _ => cases h

theorem friends_blind (fromJson : Str → Option Json) :
    Shown.Blind fromJson (Shown.friends fromJson) where
  status online s := by cases s <;> rfl
  close s := by cases s <;> rfl
  switch s := by cases s <;> rfl
  retry d r p i := rfl
  waiting d hd := if_neg (by rw [hd]; decide)
  built d hd := (if_pos hd).symm

theorem covered_load (friends : List Json) :
    Covered (friends.map (listedState fromJson)) (FriendTree.loadFriends fromJson friends) := by
  intro item hm
  obtain ⟨f, hf, rfl⟩ := List.mem_map.mp hm
  exact ⟨_, TreeItem.inState_paint _ _ _, List.mem_map_of_mem hf⟩

theorem Covered.mono {pairs' : List (Int × Str)} (h : Covered pairs items)
    (hp : ∀ p ∈ pairs, p ∈ pairs') : Covered pairs' items := by
  intro item hm
  obtain ⟨state, hs, hmem⟩ := h item hm
  exact ⟨state, hs, hp _ hmem⟩

/-- The pairs after a new value of `id`. -/
def setPairs (id : Int) (state : Str) (pairs : List (Int × Str)) : List (Int × Str) :=
  pairs.map fun p => if p.1 = id then (id, state) else p

theorem mem_setPairs_ne {id : Int} {state : Str} {p : Int × Str} (hp : p ∈ pairs) (hid : p.1 ≠ id) :
    p ∈ setPairs id state pairs :=
  List.mem_map.mpr ⟨p, hp, if_neg hid⟩

theorem mem_setPairs_self {id : Int} {state v : Str} (hp : (id, v) ∈ pairs) :
    (id, state) ∈ setPairs id state pairs :=
  List.mem_map.mpr ⟨_, hp, if_pos rfl⟩

/-- Items that show the new state already. -/
theorem Covered.set {id : Int} {state : Str} (h : Covered pairs items)
    (hid : ∀ item ∈ items, item.id = id → item.InState state) :
    Covered (setPairs id state pairs) items := by
  intro item hm
  obtain ⟨v, hv, hmem⟩ := h item hm
  by_cases e : item.id = id
  · refine ⟨state, hid item hm e, ?_⟩
    rw [e] at hmem ⊢
    exact mem_setPairs_self hmem
  · exact ⟨v, hv, mem_setPairs_ne hmem e⟩

/-- The tree changes one item, which is the only one with the id. -/
theorem Covered.onFriendStateChanged {id : Int} {state : Str} {t : FriendTree}
    (h : Covered pairs t.friends)
    (hone : (t.friends.filter fun item => item.id = id).length ≤ 1) :
    Covered (setPairs id state pairs) (t.onFriendStateChanged id state).friends := by
  rcases FriendTree.first_cases id t.friends with hno | ⟨pre, item, post, ht, hpre, hi⟩
  · have hsame : (t.onFriendStateChanged id state).friends = t.friends := by
      unfold FriendTree.onFriendStateChanged
      rw [FriendTree.setFirst_none hno]
      dsimp only
      split <;> rfl
    rw [hsame]
    exact h.set fun item hm e => absurd e (hno item hm)
  · rw [FriendTree.onFriendStateChanged_friend ht hpre hi]
    rw [ht] at h
    have hpost : ∀ x ∈ post, x.id ≠ id := by
      intro x hx e
      have hpos : 0 < (post.filter fun item => item.id = id).length :=
        List.length_pos_of_mem (List.mem_filter.mpr ⟨hx, by simp [e]⟩)
      rw [ht, List.filter_append, List.filter_cons_of_pos (by simp [hi]), List.length_append,
        List.length_cons] at hone
      omega
    have hrest : ∀ x ∈ pre ++ item :: post, x.id ≠ id →
        ∃ v, x.InState v ∧ (x.id, v) ∈ setPairs id state pairs := by
      intro x hx e
      obtain ⟨v, hv, hmem⟩ := h x hx
      exact ⟨v, hv, mem_setPairs_ne hmem e⟩
    intro x hx
    rcases List.mem_append.mp hx with hx | hx
    · exact hrest x (List.mem_append_left _ hx) (hpre x hx)
    · rcases List.mem_cons.mp hx with rfl | hx
      · obtain ⟨v, -, hmem⟩ := h item (by simp)
        refine ⟨state, TreeItem.inState_paint _ _ _, ?_⟩
        change (item.id, state) ∈ _
        rw [hi] at hmem ⊢
        exact mem_setPairs_self hmem
      · exact hrest x (by simp [hx]) (hpost x hx)

/-! ## Messages -/

/-- The window and the copy of the packets that were read. -/
def Shown.Follows (fromJson : Str → Option Json) (s : Shown) (packets : List Json) : Prop :=
  ∀ pairs, told fromJson packets = some pairs → Covered pairs (s.friends fromJson)

section Messages

variable {packets : List Json} {js : Json} {sig : Signal}

theorem told_signal (hs : Signal.ofMessage js = some sig) : told fromJson (packets ++ [js]) =
    match sig.note fromJson with
    | none => told fromJson packets
    | some n => n.apply (told fromJson packets) := by
  rw [told_concat, toldOf, hs]
  rfl

/-- The dialog takes a login, and hears no other packet about friends. -/
theorem dialog_follows {d : Dialog} (hs : Signal.ofMessage js = some sig)
    (h : (Shown.dialog d).Follows fromJson packets)
    (hk : ∀ note ∈ sig.note fromJson, (Shown.dialog d).TakesNote fromJson note) :
    (Shown.dialog (d.hear sig)).Follows fromJson (packets ++ [js]) := by
  unfold Shown.Follows
  rw [told_signal hs]
  cases sig with
  | loginSuccess id name friends groups offlineMsgs =>
    intro pairs hp
    cases hp
    have hload : Covered (friends.map (listedState fromJson))
        (FriendTree.loadFriends fromJson friends) := covered_load friends
    exact hload.mono fun p hp => List.mem_append_right _ hp
  | friendStateChanged id state =>
    intro pairs hp
    obtain ⟨l, hl, rfl⟩ := Option.map_eq_some_iff.mp hp
    exact (h l hl).set (hk _ rfl)
  | friendAdded id name state =>
    intro pairs hp
    obtain ⟨l, hl, rfl⟩ := Option.map_eq_some_iff.mp hp
    exact (h l hl).mono fun p hp => List.mem_append_left _ hp
  | _ => exact h

/-- The main window takes new states and new friends, and hears of no friend in a login. -/
theorem widget_follows {w : MainWindow} (hs : Signal.ofMessage js = some sig)
    (h : (Shown.widget w).Follows fromJson packets)
    (hk : ∀ note ∈ sig.note fromJson, (Shown.widget w).TakesNote fromJson note) :
    (Shown.widget (w.hear sig)).Follows fromJson (packets ++ [js]) := by
  unfold Shown.Follows
  rw [told_signal hs]
  cases sig with
  | loginSuccess id name friends groups offlineMsgs =>
    intro pairs hp item hm
    cases hp
    obtain ⟨p, hp, hid, hstate⟩ := hk _ rfl item hm
    refine ⟨p.2, hstate, List.mem_append_right _ ?_⟩
    rw [← hid]
    exact hp
  | friendStateChanged id state =>
    intro pairs hp
    obtain ⟨l, hl, rfl⟩ := Option.map_eq_some_iff.mp hp
    exact (h l hl).onFriendStateChanged (hk _ rfl)
  | friendAdded id name state =>
    intro pairs hp item hm
    obtain ⟨l, hl, rfl⟩ := Option.map_eq_some_iff.mp hp
    rcases List.mem_append.mp hm with hm | hm
    · obtain ⟨v, hv, hmem⟩ := h l hl item hm
      exact ⟨v, hv, List.mem_append_left _ hmem⟩
    · obtain rfl := List.mem_singleton.mp hm
      refine ⟨state, TreeItem.inState_paint _ _ _, ?_⟩
      exact List.mem_append_right _ (List.mem_singleton.mpr rfl)
  | nameUpdated id newName =>
    have hsame : (w.hear (.nameUpdated id newName)).m_friendTree = w.m_friendTree := by
      unfold MainWindow.hear
      dsimp only
      split <;> rfl
    change ∀ pairs, told fromJson packets = some pairs →
      Covered pairs (w.hear (.nameUpdated id newName)).m_friendTree.friends
    rw [hsame]
    exact h
  | _ => exact h

/-- **A packet** that the window takes as the copy does. -/
theorem handleMessage_follows {c : QtClient} (h : c.window.Follows fromJson packets)
    (hk : ∀ note ∈ toldOf fromJson js, c.window.TakesNote fromJson note) :
    (c.handleMessage js).window.Follows fromJson (packets ++ [js]) := by
  rw [QtClient.handleMessage_window]
  rw [toldOf] at hk
  cases hs : Signal.ofMessage js with
  | none =>
    unfold Shown.Follows
    rw [told_concat, toldOf, hs]
    exact h
  | some sig =>
    rw [hs] at hk
    rw [Option.map_some, Option.getD_some]
    cases hw : c.window with
    | none =>
      intro pairs _ item hm
      cases hm
    | dialog d =>
      rw [hw] at h hk
      exact dialog_follows hs h hk
    | widget w =>
      rw [hw] at h hk
      exact widget_follows hs h hk

end Messages

end Tree

/-! ## The clients in the network -/

/-- What a step needs. -/
def NetLabel.KeepsUp (P : JsonParser) (fromJson : Str → Option Json) (n : Net) : NetLabel → Prop
  | .server l => l = .whole 0 .redis → Job.KeepsUp P fromJson n.sys.world .redis
  | .deliver conn => ∀ js ∈ (n.up conn).head?,
      Job.KeepsUp P fromJson n.sys.world (.frame conn js.dump)
  | .read k => ∀ conn ∈ n.link k, ∀ js ∈ (n.unread conn).head?, ∀ note ∈ toldOf fromJson js,
      (n.clients k).window.TakesNote fromJson note
  | _ => True

instance (P : JsonParser) (fromJson : Str → Option Json) (n : Net) :
    ∀ l, Decidable (NetLabel.KeepsUp P fromJson n l)
  | .server l => inferInstanceAs (Decidable (l = .whole 0 .redis → _))
  | .deliver conn => inferInstanceAs (Decidable (∀ js ∈ (n.up conn).head?, _))
  | .read k => inferInstanceAs (Decidable (∀ conn ∈ n.link k, ∀ js ∈ (n.unread conn).head?,
      ∀ note ∈ toldOf fromJson js, _))
  | .client .. => .isTrue trivial
  | .accept _ => .isTrue trivial
  | .connected _ => .isTrue trivial
  | .eof _ => .isTrue trivial
  | .hangUp _ => .isTrue trivial
  | .drop _ => .isTrue trivial

/-- Of every connection the client shows what it was told. -/
structure InTouch (fromJson : Str → Option Json) (n : Net) : Prop where
  served : Served fromJson n.accepted n.sys.world
  wired : n.Wired
  read_le : ∀ conn, n.read conn ≤ (n.packets conn).length
  follows : ∀ k conn, n.link k = some conn →
    (n.clients k).window.Follows fromJson ((n.packets conn).take (n.read conn))

section Network

variable {P : JsonParser} {fromJson : Str → Option Json} {n n' : Net}

/-- The server goes on, and the clients are as they were. -/
theorem InTouch.server (h : InTouch fromJson n)
    (hserved : Served fromJson n'.accepted n'.sys.world)
    (hkept : KeepsPackets n.sys.world n'.sys.world) (hwired : n'.Wired)
    (hclients : n'.clients = n.clients) (hlink : n'.link = n.link) (hread : n'.read = n.read) :
    InTouch fromJson n' := by
  have hpackets : ∀ conn, ∃ more, n'.packets conn = n.packets conn ++ more := hkept
  refine ⟨hserved, hwired, fun conn => ?_, fun k conn hl => ?_⟩
  · obtain ⟨more, hm⟩ := hpackets conn
    rw [hread, hm, List.length_append]
    exact (h.read_le conn).trans (Nat.le_add_right ..)
  · obtain ⟨more, hm⟩ := hpackets conn
    rw [hlink] at hl
    rw [hclients, hread, hm, List.take_append_of_le_length (h.read_le conn)]
    exact h.follows k conn hl

theorem follows_nil {s : Shown} : s.Follows fromJson [] := fun _ hp => nomatch hp

/-- A window that shows what another did, or nothing. -/
theorem follows_of_view {s s' : Shown} {packets : List Json} (h : s.Follows fromJson packets)
    (hs : s'.friends fromJson = s.friends fromJson ∨
      s'.friends fromJson = Shown.friends fromJson .none) : s'.Follows fromJson packets := by
  intro pairs hp
  rcases hs with e | e
  · rw [e]
    exact h pairs hp
  · rw [e]
    exact fun item hm => nomatch hm

/-- **A client goes on**, having read so much on its connection. -/
theorem InTouch.move (h : InTouch fromJson n) {k : ClientId} {c : QtClient} {read : ConnId → Nat}
    (hread : ∀ conn, n.link k ≠ some conn → read conn = n.read conn)
    (hle : ∀ conn, read conn ≤ (n.packets conn).length)
    (hfollows : ∀ conn, n.link k = some conn → c.m_socket.state ≠ .unconnected →
      c.window.Follows fromJson ((n.packets conn).take (read conn))) :
    InTouch fromJson { n.move k c with read } := by
  refine ⟨h.served, h.wired.move hread, hle, fun j conn hl => ?_⟩
  change Shown.Follows fromJson (Function.update n.clients k c j).window
    ((n.packets conn).take (read conn))
  rcases Net.link_move hl with ⟨rfl, rfl, -⟩ | ⟨hlink, hstate⟩
  · -- nothing was read on the new connection
    have hne : n.link j ≠ some n.made := fun hl =>
      absurd (h.wired.link j _ hl).1 (Nat.lt_irrefl _)
    rw [hread _ hne, h.wired.read _ (Nat.le_refl _), List.take_zero]
    exact follows_nil
  · by_cases e : j = k
    · subst e
      rw [Function.update_self]
      exact hfollows conn hlink (hstate rfl)
    · have hne : n.link k ≠ some conn := fun hk =>
        e ((h.wired.link j conn hlink).2.symm.trans (h.wired.link k conn hk).2)
      rw [Function.update_of_ne e, hread conn hne]
      exact h.follows j conn hlink

/-- An event that reads nothing. -/
theorem InTouch.event (h : InTouch fromJson n) {k : ClientId} {e : ClientEvent} {c : QtClient}
    (he : ∀ msgs bad, e ≠ .readyRead msgs bad) (hc : (n.clients k).step fromJson e = some c) :
    InTouch fromJson (n.move k c) :=
  h.move (fun _ _ => rfl) h.read_le fun conn hl _ =>
    follows_of_view (h.follows k conn hl)
      ((QtClient.step_view (friends_blind fromJson) hc he).imp (congrArg Prod.snd) id)

theorem packets_unread {conn : ConnId} {js : Json} {rest : List Json}
    (hu : n.unread conn = js :: rest) : n.read conn < (n.packets conn).length ∧
      (n.packets conn).take (n.read conn + 1) = (n.packets conn).take (n.read conn) ++ [js] := by
  have hlt : n.read conn < (n.packets conn).length := by
    by_contra hge
    unfold Net.unread at hu
    rw [List.drop_eq_nil_of_le (by omega)] at hu
    cases hu
  refine ⟨hlt, ?_⟩
  unfold Net.unread at hu
  rw [List.drop_eq_getElem_cons hlt] at hu
  rw [List.take_succ_eq_append_getElem hlt, (List.cons.inj hu).1]

/-- The client reads a packet, or finds it too long and leaves. -/
theorem readyRead_follows {c c' : QtClient} {packets : List Json} {js : Json}
    (h : c.window.Follows fromJson packets)
    (hk : ∀ note ∈ toldOf fromJson js, c.window.TakesNote fromJson note)
    (hs : c.step fromJson (Net.reading js) = some c') (hl : c'.m_socket.state ≠ .unconnected) :
    c'.window.Follows fromJson (packets ++ [js]) := by
  unfold Net.reading at hs
  split at hs
  · cases QtClient.steps hs with
    | readyRead => exact handleMessage_follows (c := { c with m_lastDataTime := c.now }) h hk
  · cases QtClient.steps hs with
    | readyRead => exact absurd (QtClient.abort_state _) hl

/-- **Every step** that keeps up. -/
theorem inTouch_step {l : NetLabel} (hreads : ReadsFriends fromJson n.sys.world.db)
    (hkeeps : l.KeepsUp P fromJson n) (h : InTouch fromJson n)
    (hstep : n.step P fromJson l = some n') : InTouch fromJson n' := by
  have hwired := wired_step h.wired hstep
  cases Net.steps hstep with
  | @server l sys hown hs =>
    obtain ⟨hserved, hkept⟩ := own_served hown hreads hkeeps h.served hs
    exact h.server hserved hkept hwired rfl rfl rfl
  | client he hc =>
    refine h.event ?_ hc
    rintro msgs bad rfl
    cases he
  | accept _ hnew hs =>
    obtain ⟨hserved, hkept⟩ := connect_served hnew h.served hs
    exact h.server hserved hkept hwired rfl rfl rfl
  | connected _ _ hc => exact h.event (by rintro msgs bad ⟨⟩) hc
  | eof _ _ _ hc => exact h.event (by rintro msgs bad ⟨⟩) hc
  | @read k conn js rest c hl hu hc =>
    obtain ⟨hlt, htake⟩ := packets_unread hu
    refine h.move (fun conn' hne => ?_) (fun conn' => ?_) fun conn' hl' hstate => ?_
    · exact Function.update_of_ne (by rintro rfl; exact hne hl) _ _
    · by_cases e : conn' = conn
      · subst e
        rw [Function.update_self]
        exact hlt
      · rw [Function.update_of_ne e]
        exact h.read_le conn'
    · obtain rfl := Option.some.inj (hl.symm.trans hl')
      rw [Function.update_self, htake]
      exact readyRead_follows (h.follows k conn hl) (hkeeps conn hl js (by rw [hu]; rfl)) hc hstate
  | @deliver conn js rest sys hu hs =>
    obtain ⟨hserved, hkept⟩ := whole_served hreads (hkeeps js (by rw [hu]; rfl)) h.served hs
    exact h.server hserved hkept hwired rfl rfl rfl
  | @hangUp conn sys _ _ hs =>
    obtain ⟨hserved, hkept⟩ := whole_served hreads (by trivial) h.served hs
    exact h.server hserved hkept hwired rfl rfl rfl
  | @drop conn sys hs =>
    obtain ⟨hserved, hkept⟩ := whole_served hreads (by trivial) h.served hs
    exact h.server hserved hkept hwired rfl rfl rfl

theorem inTouch_init (hinit : (netMachine P fromJson).init n) (hw : n.sys.world.Works) :
    InTouch fromJson n := by
  have hwired : n.Wired := Net.wired (.init hinit)
  obtain ⟨⟨collate, fates, now, hsys⟩, -, hlink, -, -, -, hread⟩ := hinit
  rw [hsys] at hw
  refine ⟨?_, hwired, fun conn => ?_, fun k conn hl => ?_⟩
  · rw [hsys]
    refine ⟨⟨⟨hw, Database.keyed_created collate, Database.wf_created collate⟩, ?_, ?_, ?_⟩, ?_, ?_⟩
    · exact fun a b hab => nomatch hab
    · exact fun u conn hl => nomatch hl
    · exact fun u conn hl => nomatch hl
    · exact fun _ => rfl
    · exact fun conn _ => ⟨rfl, fun u hl => nomatch hl⟩
  · rw [hread]
    exact Nat.zero_le _
  · rw [hlink] at hl
    cases hl

end Network

/-! ## What the trees show -/

/-- No packet is in flight: neither to the server, nor from it, nor in Redis. -/
structure Net.Quiet (n : Net) : Prop where
  up : ∀ conn, n.up conn = []
  unread : ∀ k conn, n.link k = some conn → n.unread conn = []
  inbox : n.server.inbox = []

/-- User `u` is logged in with client `k`. -/
structure Net.LoggedIn (n : Net) (k : ClientId) (u : Int) (conn : ConnId) : Prop where
  link : n.link k = some conn
  isOpen : n.server.conns conn = .connected
  entry : n.server.userConnMap.lookup u = some conn

/-- Every item below `Friends` in the tree of a client that is logged in shows the state of the row.
-/
def Net.ShowsStates (n : Net) : Prop :=
  ∀ k u conn, n.LoggedIn k u conn → ∀ item ∈ (n.clients k).window.treeFriends,
    ∃ state, n.sys.world.db.stateOf item.id = some state ∧ item.InState state.text

theorem InTouch.shows {fromJson : Str → Option Json} {n : Net} (h : InTouch fromJson n)
    (hquiet : n.Quiet) : n.ShowsStates := by
  intro k u conn hlogin item hm
  have hread : (n.packets conn).take (n.read conn) = n.packets conn :=
    List.take_of_length_le (List.drop_eq_nil_iff.mp (hquiet.unread k conn hlogin.link))
  have hfollows := h.follows k conn hlogin.link
  rw [hread] at hfollows
  have hloaded : told fromJson (n.packets conn) ≠ none :=
    h.served.upToDate.loaded u conn hlogin.entry hlogin.isOpen
  obtain ⟨pairs, hp⟩ := Option.ne_none_iff_exists'.mp hloaded
  obtain ⟨state, hstate, hmem⟩ := hfollows pairs hp item (Shown.mem_friends hm)
  have htracks := h.served.upToDate.informed u conn hlogin.entry hlogin.isOpen pairs hp _ hmem
  obtain ⟨st, hst, rfl⟩ := Option.map_eq_some_iff.mp (htracks.2 (Option.some_ne_none _).symm)
  exact ⟨st, hst, hstate⟩

/-- **States of friends.** In every run on one server whose steps all keep up, in every state
reached with no packet under way, every item below `Friends` of a client that is logged in shows the
state of the friend's row. -/
theorem friends_shown {P : JsonParser} {fromJson : Str → Option Json} {ls : List NetLabel}
    {n₀ n : Net} (hinit : (netMachine P fromJson).init n₀) (hw : n₀.sys.world.Works)
    (hreads : ∀ l m, (netMachine P fromJson).Takes ls n₀ l m → ReadsFriends fromJson m.sys.world.db)
    (hkeeps : ∀ l m, (netMachine P fromJson).Takes ls n₀ l m → NetLabel.KeepsUp P fromJson m l)
    (hr : (netMachine P fromJson).runs ls n₀ = some n) : n.Quiet → n.ShowsStates :=
  (Machine.runs_keep_takes (M := netMachine P fromJson) (I := InTouch fromJson)
    (Q := fun l m => ReadsFriends fromJson m.sys.world.db ∧ NetLabel.KeepsUp P fromJson m l)
    (fun _ _ _ hq h hs => inTouch_step hq.1 hq.2 h hs) (inTouch_init hinit hw)
    (fun l m ht => ⟨hreads l m ht, hkeeps l m ht⟩) hr).shows

/-- Connections that no client called for have no packets under way. -/
theorem Net.Wired.quiet {n : Net} (h : n.Wired)
    (hmade : ∀ conn < n.made, n.up conn = [] ∧ n.unread conn = []) (hinbox : n.server.inbox = []) :
    n.Quiet where
  up conn := (lt_or_ge conn n.made).elim (fun hc => (hmade conn hc).1) (h.up conn)
  unread k conn hl := (hmade conn (h.link k conn hl).1).2
  inbox := hinbox

def presenceParser : JsonParser :=
  .ofDumps [ChatClient.reg (txt "ann") (txt "pw"), ChatClient.reg (txt "bob") (txt "pw"),
    ChatClient.login 1 (txt "pw"), ChatClient.login 2 (txt "pw"), ChatClient.addFriend 1 2]

/-- It reads the objects of the two friends. -/
def presenceReader : Str → Option Json :=
  (JsonParser.ofDumps [friendJson { id := 1, name := txt "ann", state := .online },
    friendJson { id := 1, name := txt "ann" },
    friendJson { id := 2, name := txt "bob", state := .online },
    friendJson { id := 2, name := txt "bob" }]).parse

/-- User 1 logs in with client 0. User 2 registers with client 1, on connection 1, and is added as a
friend. -/
def annAddsBob : List NetLabel :=
  firstLogin ++ [.client 1 (.registerClicked (txt "bob") (txt "pw")), .accept 1, .connected 1,
    .deliver 1, .read 1, .client 0 (.request (.addFriend 2)), .deliver 0, .read 0]

/-- User 2 logs in. -/
def bobLogsIn : List NetLabel :=
  [.client 1 (.loginClicked (some 2) (txt "pw")), .deliver 1, .read 1, .client 1 .execReturns]

/-- User 1 is told that user 2 is online. -/
theorem friends_shown_bob : ∃ n : Net,
    (netMachine presenceParser presenceReader).runs (annAddsBob ++ bobLogsIn ++ [.read 0])
      Net.initial = some n ∧ n.Quiet ∧ n.LoggedIn 0 1 0 ∧
    (n.clients 0).window.treeFriends = [.friend 2 (txt "bob") (txt "online")] ∧ n.ShowsStates := by
  have h : (((netMachine presenceParser presenceReader).runsBy (fun (l : NetLabel) (m : Net) =>
        decide (ReadsFriends presenceReader m.sys.world.db ∧
          NetLabel.KeepsUp presenceParser presenceReader m l) = true)
      (annAddsBob ++ bobLogsIn ++ [NetLabel.read 0]) Net.initial).map fun n : Net => decide
        (((∀ conn < n.made, n.up conn = [] ∧ n.unread conn = []) ∧ n.server.inbox = []) ∧
          (n.link 0 = some 0 ∧ n.server.conns 0 = .connected ∧
            n.server.userConnMap.lookup 1 = some 0) ∧
          (n.clients 0).window.treeFriends = [.friend 2 (txt "bob") (txt "online")])) =
      some true := by
    decide +kernel
  obtain ⟨n, hby, h⟩ := Option.map_eq_some_iff.mp h
  obtain ⟨⟨hmade, hinbox⟩, ⟨hlink, hopen, hentry⟩, htree⟩ := of_decide_eq_true h
  obtain ⟨hr, hall⟩ := Machine.runsBy_takes hby
  have hinit := Net.initial_init presenceParser presenceReader
  have hquiet : n.Quiet := (Net.wired (Machine.Reach.runs (.init hinit) hr)).quiet hmade hinbox
  exact ⟨n, hr, hquiet, ⟨hlink, hopen, hentry⟩, htree, friends_shown hinit (fun _ => rfl)
    (fun (l : NetLabel) (m : Net) ht => (of_decide_eq_true (hall l m ht)).1)
    (fun (l : NetLabel) (m : Net) ht => (of_decide_eq_true (hall l m ht)).2) hr hquiet⟩

/-- Client 0 loses its connection and logs in again by itself. In the meantime user 2 logs in. -/
theorem friends_stale : ¬∀ (P : JsonParser) (fromJson : Str → Option Json) (ls : List NetLabel)
    (n₀ n : Net), (netMachine P fromJson).init n₀ → n₀.sys.world.Works →
    (∀ l m, (netMachine P fromJson).Takes ls n₀ l m → ReadsFriends fromJson m.sys.world.db) →
    (netMachine P fromJson).runs ls n₀ = some n → n.Quiet → n.ShowsStates := by
  intro hall
  let back : List NetLabel :=
    [.client 0 .reconnectTimeout, .accept 2, .connected 0, .deliver 2, .read 0, .read 1]
  let ls := annAddsBob ++ [.client 0 .broke, .hangUp 0] ++ bobLogsIn ++ back
  have h : (((netMachine presenceParser presenceReader).runsBy (fun (_ : NetLabel) (m : Net) =>
        decide (ReadsFriends presenceReader m.sys.world.db) = true) ls Net.initial).map
      fun n : Net => decide
        (((∀ conn < n.made, n.up conn = [] ∧ n.unread conn = []) ∧ n.server.inbox = []) ∧
          (n.link 0 = some 2 ∧ n.server.conns 2 = .connected ∧
            n.server.userConnMap.lookup 1 = some 2) ∧
          n.sys.world.db.stateOf 2 = some .online ∧
            (n.clients 0).window.treeFriends = [.friend 2 (txt "bob") (txt "offline")])) =
      some true := by
    decide +kernel
  obtain ⟨n, hby, h⟩ := Option.map_eq_some_iff.mp h
  obtain ⟨⟨hmade, hinbox⟩, ⟨hlink, hopen, hentry⟩, hrow, htree⟩ := of_decide_eq_true h
  obtain ⟨hr, hreads⟩ := Machine.runsBy_takes hby
  have hinit := Net.initial_init presenceParser presenceReader
  have hquiet : n.Quiet := (Net.wired (Machine.Reach.runs (.init hinit) hr)).quiet hmade hinbox
  have hshown := hall presenceParser presenceReader ls Net.initial n hinit (fun _ => rfl)
    (fun l m ht => of_decide_eq_true (hreads l m ht)) hr hquiet 0 1 2 ⟨hlink, hopen, hentry⟩
  obtain ⟨state, hstate, hin⟩ := hshown (.friend 2 (txt "bob") (txt "offline")) (by simp [htree])
  cases hrow.symm.trans hstate
  revert hin
  decide

end QtChat
