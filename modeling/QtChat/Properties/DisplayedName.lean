import QtChat.Client.Views

/-!
# The name that is shown and the name that is sent

`ChatClient::m_myName` goes into every chat message, `Widget::m_userName` is shown. A login sets the
first one, and both when the dialog hands over to the `Widget`; a confirmed change of the name sets
the second one alone.

- `names`: both names. Only `onReadyRead` changes them (`step_names`).
- `handleAll_widget`: what messages make of them in the `Widget`.
-/

namespace QtChat

open Interleave

/-- The name of the window: that of an accepted dialog, or of the main window. -/
def Shown.userName : Shown → Option Str
  | dialog d => if d.accepted then some d.m_userName else .none
  | widget w => some w.m_userName
  | none => .none

theorem userName_blind (fromJson : Str → Option Json) :
    Shown.Blind fromJson Shown.userName where
  status online s := by cases s <;> rfl
  close s := by cases s <;> rfl
  switch s := by cases s <;> rfl
  retry d r p i := rfl
  waiting d hd := if_neg (by rw [hd]; decide)
  built d hd := (if_pos hd).symm

/-- The name of an accepted login. -/
def Json.loginName (js : Json) : Option Str :=
  match Signal.ofMessage js with
  | some (.loginSuccess _ name ..) => some name
  | _ => none

/-- The name of a confirmed change of this user's name. -/
def Json.newName (myId : Int) (js : Json) : Option Str :=
  match Signal.ofMessage js with
  | some (.nameUpdated id newName) => if id = myId then some newName else none
  | _ => none

/-- The last name that the messages give, if any. -/
def lastName (f : Json → Option Str) (msgs : List Json) : Option Str := (msgs.filterMap f).getLast?

theorem lastName_cons (f : Json → Option Str) (js : Json) (msgs : List Json) (name : Str) :
    (lastName f (js :: msgs)).getD name = (lastName f msgs).getD ((f js).getD name) := by
  unfold lastName
  rw [List.filterMap_cons]
  cases f js with
  | none => rfl
  | some name' =>
    cases h : msgs.filterMap f with
    | nil => rfl
    | cons n ns => simp [List.getLast?_eq_some_getLast]

namespace QtClient

variable {fromJson : Str → Option Json} {c c' : QtClient}

/-- `m_myName`, and the name of the window. -/
def names (c : QtClient) : Str × Option Str := (c.m_myName, c.window.userName)

/-! ## What a message does -/

theorem emit_myName (c : QtClient) (js : Json) : (c.emit js).m_myName = c.m_myName := by
  unfold emit
  split <;> rfl

/-- A login that is accepted sets `m_myName`. -/
theorem handleMessage_myName (c : QtClient) (js : Json) :
    (c.handleMessage js).m_myName = js.loginName.getD c.m_myName := by
  by_cases hlogin : js.isMsg .loginMsgAck
  · unfold handleMessage Json.loginName Signal.ofMessage
    rw [if_pos hlogin, if_pos hlogin]
    split_ifs with herrno hzero hfields
    · exact emit_myName _ js
    · rfl
    · exact emit_myName _ js
    · rfl
  · have hnone : js.loginName = none := by
      unfold Json.loginName
      split
      · rename_i hs
        grind [Signal.ofMessage]
      · rfl
    unfold handleMessage
    rw [if_neg hlogin, hnone]
    split_ifs
    · rfl
    · exact emit_myName c js

/-- A message in the main window: a confirmed change sets the name that is shown. -/
theorem handleMessage_widget {w : MainWindow} (hw : c.window = .widget w) (js : Json) :
    ∃ w', (c.handleMessage js).window = .widget w' ∧ w'.m_myId = w.m_myId ∧
      w'.m_userName = (js.newName w.m_myId).getD w.m_userName := by
  rw [handleMessage_window, hw]
  unfold Json.newName
  cases hs : Signal.ofMessage js with
  | none => exact ⟨w, rfl, rfl, rfl⟩
  | some sig =>
    refine ⟨w.hear sig, rfl, ?_⟩
    cases sig with
    | nameUpdated id newName =>
      unfold MainWindow.hear
      dsimp only
      split_ifs <;> exact ⟨rfl, rfl⟩
    | _ => exact ⟨rfl, rfl⟩

/-- **Messages in the main window**: the last login that is accepted gives `m_myName`, the last
confirmed change the name that is shown. -/
theorem handleAll_widget {w : MainWindow} (hw : c.window = .widget w) (msgs : List Json) :
    ∃ w', (msgs.foldl handleMessage c).window = .widget w' ∧
      w'.m_userName = (lastName (Json.newName w.m_myId) msgs).getD w.m_userName ∧
      (msgs.foldl handleMessage c).m_myName =
        (lastName Json.loginName msgs).getD c.m_myName := by
  induction msgs generalizing c w with
  | nil => exact ⟨w, hw, rfl, rfl⟩
  | cons js msgs ih =>
    obtain ⟨w₁, hw₁, hid, hname⟩ := handleMessage_widget hw js
    obtain ⟨w₂, hw₂, huser, hmy⟩ := ih hw₁
    refine ⟨w₂, hw₂, ?_, ?_⟩
    · rw [lastName_cons, ← hname, ← hid]
      exact huser
    · rw [lastName_cons, ← handleMessage_myName]
      exact hmy

/-- The window's name, if it has one, is `m_myName`. -/
def Named (c : QtClient) : Prop := ∀ name, c.window.userName = some name → c.m_myName = name

theorem Named.of_names (h : c.Named) (hc : c'.names = c.names) : c'.Named := by
  obtain ⟨hmy, huser⟩ := Prod.ext_iff.mp hc
  intro name hn
  exact hmy.trans (h name (huser.symm.trans hn))

/-- A message in the dialog: the login that is accepted sets both names. -/
theorem handleMessage_dialog {d : Dialog} (hd : c.window = .dialog d) (h : c.Named) (js : Json) :
    (∃ d', (c.handleMessage js).window = .dialog d') ∧ (c.handleMessage js).Named := by
  have hwindow := handleMessage_window c js
  have hmy := handleMessage_myName c js
  rw [hd] at hwindow
  unfold Json.loginName at hmy
  unfold Named at h ⊢
  rw [hd] at h
  cases hs : Signal.ofMessage js with
  | none =>
    rw [hs] at hwindow hmy
    refine ⟨⟨d, hwindow⟩, ?_⟩
    rw [hwindow, hmy]
    exact h
  | some sig =>
    rw [hs] at hwindow hmy
    refine ⟨⟨d.hear sig, hwindow⟩, ?_⟩
    rw [hwindow, hmy]
    cases sig with
    | loginSuccess id name =>
      intro name' hn
      cases hn
      rfl
    | _ => exact h

theorem handleAll_dialog {d : Dialog} (hd : c.window = .dialog d) (h : c.Named) (msgs : List Json) :
    (msgs.foldl handleMessage c).Named := by
  induction msgs generalizing c d with
  | nil => exact h
  | cons js msgs ih =>
    obtain ⟨⟨d', hd'⟩, h'⟩ := handleMessage_dialog hd h js
    exact ih hd' h'

/-! ## Every event -/

/-- The messages that are read in the main window give both names alike. -/
def NamesAlike : ClientEvent → QtClient → Prop
  | .readyRead msgs _, c => ∀ w, c.window = .widget w →
      (lastName Json.loginName msgs).getD w.m_userName =
        (lastName (Json.newName w.m_myId) msgs).getD w.m_userName
  | _, _ => True

/-- **An event but `readyRead`** keeps the names, or the window has none after it. -/
theorem step_names {e : ClientEvent} (hs : c.step fromJson e = some c')
    (he : ∀ msgs bad, e ≠ .readyRead msgs bad) :
    c'.names = c.names ∨ c'.window.userName = none :=
  step_view (userName_blind fromJson) hs he

/-- **Every event** in which the messages give both names alike keeps `Named`; in the main window no
other one does. -/
theorem Named.step {e : ClientEvent} (h : c.Named) (hs : c.step fromJson e = some c') :
    (NamesAlike e c → c'.Named) ∧
      ((∀ w, c'.window = .widget w → c'.m_myName = w.m_userName) → NamesAlike e c) := by
  by_cases he : ∃ msgs bad, e = .readyRead msgs bad
  · obtain ⟨msgs, bad, rfl⟩ := he
    cases QtClient.steps hs with
    | readyRead =>
      have hnames : (c.onReadyRead msgs bad).names =
          (msgs.foldl handleMessage { c with m_lastDataTime := c.now }).names :=
        onReadyRead_view (userName_blind fromJson) c msgs bad
      cases hw : c.window with
      | dialog d =>
        refine ⟨fun _ => .of_names ?_ hnames, fun _ w hw' => ?_⟩
        · exact handleAll_dialog (c := { c with m_lastDataTime := c.now }) hw h msgs
        · rw [hw] at hw'
          cases hw'
      | widget w =>
        have hown : c.m_myName = w.m_userName := h _ (by rw [hw]; rfl)
        obtain ⟨w', hw', huser, hmy⟩ :=
          handleAll_widget (c := { c with m_lastDataTime := c.now }) hw msgs
        have hnames' : (c.onReadyRead msgs bad).names =
            ((lastName Json.loginName msgs).getD w.m_userName,
              some ((lastName (Json.newName w.m_myId) msgs).getD w.m_userName)) := by
          rw [hnames, names, hmy, hw', ← huser, ← hown]
          rfl
        obtain ⟨hfst, hsnd⟩ := Prod.ext_iff.mp hnames'
        constructor
        · intro hq name hn
          have := hq w hw
          rw [← Option.some.inj (hsnd.symm.trans hn), ← this]
          exact hfst
        · intro hp w₂ hw₂
          rw [hw] at hw₂
          cases hw₂
          have hshown : ∃ w₂, (c.onReadyRead msgs bad).window = .widget w₂ := by
            unfold onReadyRead
            dsimp only
            split
            · rcases (abort_keeps (W := fun _ => True) _).window with h₂ | h₂
              · exact ⟨w', h₂.trans hw'⟩
              · rw [hw'] at h₂
                exact ⟨_, h₂⟩
            · exact ⟨w', hw'⟩
          obtain ⟨w₂, hw₂⟩ := hshown
          have hsame := hp w₂ hw₂
          have hname : some w₂.m_userName = (c.onReadyRead msgs bad).names.2 := by
            rw [names, hw₂]
            rfl
          exact (hfst.symm.trans hsame).trans (Option.some.inj (hname.trans hsnd))
      | none =>
        unfold QtClient.step at hs
        simp only [hw, reduceCtorEq] at hs
  · have hstep := step_names hs fun msgs bad h' => he ⟨msgs, bad, h'⟩
    have halike : NamesAlike e c := by
      unfold NamesAlike
      split
      · rename_i msgs bad
        exact absurd ⟨msgs, bad, rfl⟩ he
      · trivial
    refine ⟨fun _ => ?_, fun _ => halike⟩
    rcases hstep with hn | hn
    · exact h.of_names hn
    · intro name hname
      rw [hn] at hname
      cases hname

end QtClient

open QtClient

/-- **The two names.** In every run of the client, `m_myName` is the name that the `Widget` shows,
all the time that there is one, exactly if the messages that are read in the `Widget` give both
names alike: the last login that is accepted, and the last confirmed change of the user's name, have
the same name, which is the one shown where there is none of them. -/
theorem names_agree_iff {fromJson : Str → Option Json} {now : Nat} {ip : Str} {port : Nat}
    {es : List ClientEvent} {c : QtClient}
    (hr : (clientMachine fromJson).runs es (.start now ip port) = some c) :
    (∀ c₁ : QtClient, (clientMachine fromJson).Passes es (.start now ip port) c₁ →
      ∀ w, c₁.window = .widget w → c₁.m_myName = w.m_userName) ↔
    ∀ (e : ClientEvent) (c₁ : QtClient), (clientMachine fromJson).Takes es (.start now ip port) e c₁ →
      NamesAlike e c₁ := by
  have hstart : (QtClient.start now ip port).Named := by
    intro name hn
    cases hn
  refine Machine.passes_iff_takes (M := clientMachine fromJson) (G := Named)
    (P := fun c₁ : QtClient => ∀ w, c₁.window = .widget w → c₁.m_myName = w.m_userName)
    (fun c₁ h w hw => h _ (by rw [hw]; rfl)) (fun e c₁ c₂ h hs => h.step hs) hstart hr

/-- A login of user 1, with a name. -/
def ackNamed (name : Str) : Json := .object [("msgid", .int EnMsgType.loginMsgAck.toInt),
  ("errno", .int 0), ("id", .int 1), ("name", .str name)]

/-- The events of a login up to the main window. -/
def loginEvents (name : Str) : List ClientEvent := [.loginClicked (some 1) (txt "pw"), .connected,
  .readyRead [ackNamed name] false, .execReturns]

/-- The user logs in, and again after a break of the connection. -/
theorem names_agree_relogin : ∃ c : QtClient,
    (clientMachine fun _ => none).runs (loginEvents (txt "ann") ++ [.broke, .reconnectTimeout,
      .connected, .readyRead [ackNamed (txt "ann")] false]) (.start 0 (txt "::1") 6000) = some c ∧
    ((∀ c₁ : QtClient, (clientMachine fun _ => none).Passes (loginEvents (txt "ann") ++ [.broke,
        .reconnectTimeout, .connected, .readyRead [ackNamed (txt "ann")] false])
          (.start 0 (txt "::1") 6000) c₁ → ∀ w, c₁.window = .widget w → c₁.m_myName = w.m_userName) ↔
      ∀ (e : ClientEvent) (c₁ : QtClient), (clientMachine fun _ => none).Takes
        (loginEvents (txt "ann") ++ [.broke, .reconnectTimeout, .connected,
          .readyRead [ackNamed (txt "ann")] false]) (.start 0 (txt "::1") 6000) e c₁ →
        NamesAlike e c₁) := by
  have h : ((clientMachine fun _ => none).runs (loginEvents (txt "ann") ++ [.broke, .reconnectTimeout,
      .connected, .readyRead [ackNamed (txt "ann")] false]) (.start 0 (txt "::1") 6000)).isSome := by
    decide
  obtain ⟨c, hr⟩ := Option.isSome_iff_exists.mp h
  exact ⟨c, hr, names_agree_iff hr⟩

/-- The user changes the name and the server confirms it: the new name is shown, and the old one is
sent with the next message. -/
theorem names_differ : ¬∀ (fromJson : Str → Option Json) (c : QtClient) (w : MainWindow),
    (clientMachine fromJson).Reach c → c.window = .widget w → c.m_myName = w.m_userName := by
  intro hall
  obtain ⟨c, w, hr, hw, hme, hname⟩ : ∃ (c : QtClient) (w : MainWindow),
      (clientMachine fun _ => none).runs (loginEvents (txt "ann") ++
        [.request (.updateName (txt "bob")), .readyRead [.object
          [("msgid", .int EnMsgType.updateNameMsg.toInt), ("id", .int 1),
            ("name", .str (txt "bob"))]] false]) (.start 0 (txt "::1") 6000) = some c ∧
      c.window = .widget w ∧ c.m_myName = txt "ann" ∧ w.m_userName = txt "bob" :=
    ⟨_, _, rfl, rfl, rfl, rfl⟩
  have hreach : (clientMachine fun _ => none).Reach c := .runs (.init ⟨0, txt "::1", 6000, rfl⟩) hr
  have hsame := hall _ c w hreach hw
  rw [hme, hname] at hsame
  revert hsame
  decide

end QtChat
