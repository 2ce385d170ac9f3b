import QtChat.Client.Frames
import QtChat.Client.Histories

/-!
# What only messages change in the windows

A function of the window that sees neither its status nor a dialog that was not accepted (`Blind`)
changes when the client reads messages, and so does `m_myName`; no other event changes what there is
to see, but it may leave nothing to see (`step_view`).
-/

namespace QtChat

/-- `g` sees of the windows what messages change. -/
structure Shown.Blind {β : Type} (fromJson : Str → Option Json) (g : Shown → β) : Prop where
  status : ∀ online s, g (setStatus online s) = g s
  close : ∀ s : Shown, g s.close = g s
  switch : ∀ s : Shown, g s.requestSwitch = g s
  retry : ∀ (d : Dialog) r p i, g (.dialog { d with
    m_retryTimeout := r, m_pending := p, inputsEnabled := i }) = g (.dialog d)
  waiting : ∀ d : Dialog, d.accepted = false → g (.dialog d) = g .none
  built : ∀ d : Dialog, d.accepted = true → g (.widget (.new fromJson d)) = g (.dialog d)

namespace QtClient

/-- `m_myName`, and what `g` sees of the window. -/
def view {β : Type} (g : Shown → β) (c : QtClient) : Str × β := (c.m_myName, g c.window)

section Views

variable {fromJson : Str → Option Json} {c c' : QtClient} {β : Type} {g : Shown → β}

/-! ## What leaves the view alone -/

theorem onError_view (c : QtClient) : c.onError.view g = c.view g := by
  unfold onError
  split_ifs <;> rfl

variable (hg : Shown.Blind fromJson g)
include hg

theorem onDisconnected_view (c : QtClient) : c.onDisconnected.view g = c.view g := by
  unfold onDisconnected startReconnect view
  dsimp only
  split <;> rw [hg.status]

theorem leave_view (c : QtClient) : c.leave.view g = c.view g := by
  unfold leave
  dsimp only
  split
  · rw [onDisconnected_view hg]
    rfl
  · rfl

theorem abort_view (c : QtClient) : c.abort.view g = c.view g := by
  unfold abort
  split
  · rfl
  · exact leave_view hg c

theorem disconnectFromHost_view (c : QtClient) : c.disconnectFromHost.view g = c.view g := by
  unfold disconnectFromHost
  split_ifs <;> first | rfl | exact leave_view hg c

theorem writeJson_view (c : QtClient) (js : Json) : (c.writeJson js).view g = c.view g := by
  unfold writeJson flush
  split
  · rw [abort_view hg, onError_view]
    rfl
  · rfl

theorem sendJson_view (c : QtClient) (js : Json) : (c.sendJson js).view g = c.view g :=
  writeJson_view hg { c with m_lastDataTime := c.now } js

theorem login_view (c : QtClient) (id : Int) (pwd : Str) : (c.login id pwd).view g = c.view g :=
  sendJson_view hg { c with m_intentionalDisconnect := false, m_myId := id, m_password := pwd,
                            m_wantRelogin := true } _

theorem loginout_view (c : QtClient) : c.loginout.view g = c.view g := by
  unfold loginout
  split
  · rfl
  · rw [disconnectFromHost_view hg, sendJson_view hg]
    rfl

/-- A window in the place of that of a logout. -/
theorem loginout_window (c : QtClient) {s : Shown} (hs : g s = g c.loginout.window) :
    view g { c.loginout with window := s } = c.view g := by
  rw [← loginout_view hg c]
  exact congrArg (Prod.mk _) hs

theorem close_view (c : QtClient) : c.close.view g = c.view g :=
  loginout_window hg c (hg.close _)

theorem giveUp_view {d : Dialog} (hw : c.window = .dialog d) : (c.giveUp d).view g = c.view g := by
  have hsame : g c.loginout.window = g c.window := congrArg Prod.snd (loginout_view hg c)
  refine loginout_window hg c ?_
  rw [hsame, hw]
  exact hg.retry d _ _ _

theorem connectToServer_view (c : QtClient) (host : Str) (port : Nat) :
    (c.connectToServer host port).view g = c.view g :=
  abort_view hg { c with m_intentionalDisconnect := false, m_host := host, m_port := port }

theorem connect_view (c : QtClient) : c.connect.view g = c.view g := by
  have h : ∀ c : QtClient, c.onConnected.view g = c.view g := by
    intro c
    unfold onConnected emitConnected reg
    dsimp only
    split
    · exact login_view hg _ _ _
    · split
      · split
        · exact login_view hg _ _ _
        · exact sendJson_view hg _ _
        · rfl
      · rfl
  unfold connect
  dsimp only
  split
  · rw [disconnectFromHost_view hg, h]
    rfl
  · exact h _

/-- **An event but `readyRead`** keeps the view, or leaves nothing to see. -/
theorem step_view {e : ClientEvent} (hs : c.step fromJson e = some c')
    (he : ∀ msgs bad, e ≠ .readyRead msgs bad) :
    c'.view g = c.view g ∨ g c'.window = g .none := by
  cases QtClient.steps hs with
  | readyRead => exact absurd rfl (he _ _)
  | @loginClicked d id pwd hw ha =>
    unfold onLoginClicked
    split
    · exact .inl rfl
    · split
      · exact .inl rfl
      · right
        dsimp only
        split
        · exact (congrArg Prod.snd (connectToServer_view hg _ _ _)).trans (hg.waiting _ ha)
        · exact (congrArg Prod.snd (login_view hg _ _ _)).trans (hg.waiting _ ha)
  | @registerClicked d name pwd hw ha =>
    unfold onRegisterClicked
    split
    · exact .inl rfl
    · right
      dsimp only
      split
      · exact (congrArg Prod.snd (connectToServer_view hg _ _ _)).trans (hg.waiting _ ha)
      · exact (congrArg Prod.snd (sendJson_view hg _ _)).trans (hg.waiting _ ha)
  | cancelClicked hw => exact .inl (giveUp_view hg hw)
  | serverSettings => exact .inl rfl
  | dialogClosed => exact .inr rfl
  | logoutClicked =>
    left
    rw [onLogoutClicked, close_view hg, loginout_view hg]
    exact congrArg (Prod.mk _) (hg.status _ _)
  | switchClicked =>
    left
    have hclose : c.loginout.resetLoginState.close.view g = c.view g :=
      (close_view hg _).trans (loginout_view hg c)
    unfold onSwitchAccountClicked
    dsimp only
    rw [close_view hg, ← hclose]
    exact congrArg (Prod.mk _) (hg.switch _)
  | @statusClicked w =>
    left
    unfold toggleStatus relogin
    split_ifs
    · exact loginout_window hg c (hg.status _ _)
    · rw [connectToServer_view hg, abort_view hg]
      rfl
    · rfl
  | windowClosed => exact .inl (close_view hg c)
  | request => exact .inl (sendJson_view hg c _)
  | connected => exact .inl (connect_view hg c)
  | failed =>
    left
    rw [fail, onError_view]
    rfl
  | remoteClosed =>
    left
    rw [disconnectFromHost_view hg, onError_view]
  | written => exact .inl (leave_view hg c)
  | broke =>
    left
    rw [abort_view hg, onError_view]
  | unsent => exact .inl rfl
  | breaks => exact .inl rfl
  | reconnectTimeout =>
    left
    unfold onReconnectTimeout
    split
    · rfl
    · exact abort_view hg c
  | loginTimeout => exact .inl (abort_view hg { c with m_loginTimeoutTimer := false })
  | heartbeat =>
    left
    unfold sendHeartbeat
    split_ifs
    · rfl
    · rfl
    · exact writeJson_view hg c _
  | heartbeatTimeout =>
    left
    unfold onHeartbeatTimeout
    split
    · exact abort_view hg { c with m_heartbeatTimeout := false }
    · exact abort_view hg { c with m_heartbeatTimeout := false }
  | retryTimeout hw => exact .inl (giveUp_view hg hw)
  | tick => exact .inl rfl
  | built hw ha =>
    left
    unfold view
    rw [hw]
    exact congrArg (Prod.mk _) (hg.built _ ha)
  | left =>
    right
    dsimp only
    split
    · exact hg.waiting _ rfl
    · rfl

/-! ## What a message does -/

theorem onReadyRead_view (c : QtClient) (msgs : List Json) (bad : Bool) :
    (c.onReadyRead msgs bad).view g =
      (msgs.foldl handleMessage { c with m_lastDataTime := c.now }).view g := by
  unfold onReadyRead
  dsimp only
  split
  · exact abort_view hg _
  · rfl

end Views

/-- The message goes to the window as its signal. -/
theorem handleMessage_window (c : QtClient) (js : Json) :
    (c.handleMessage js).window = ((Signal.ofMessage js).map c.window.hear).getD c.window := by
  have hemit : ∀ c' : QtClient, c'.window = c.window →
      (c'.emit js).window = ((Signal.ofMessage js).map c.window.hear).getD c.window := by
    intro c' hw
    unfold emit
    rw [← hw]
    split
    · rename_i sig hs
      rw [hs]
      rfl
    · rename_i hs
      rw [hs]
      rfl
  unfold handleMessage
  split_ifs with hlogin herrno hzero hfields hbeat
  · exact hemit _ rfl
  · simp [Signal.ofMessage, hlogin, herrno, hzero, hfields]
  · exact hemit _ rfl
  · simp [Signal.ofMessage, hlogin, herrno]
  · have hne : ∀ m, m ≠ EnMsgType.heartbeatMsg → js.isMsg m = false := fun m hm =>
      Json.isMsg_ne hbeat hm
    simp [Signal.ofMessage, hne]
  · exact hemit _ rfl

end QtClient

end QtChat
