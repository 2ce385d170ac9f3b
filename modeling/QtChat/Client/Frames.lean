import QtChat.Client.Events

/-!
# What the functions of the client leave alone

- `Keeps W c c'`: between `c` and `c'` the socket stays with its attempt, what was written satisfies
  `W`, a socket that was to close still is, and of the window only the status may have changed.
  Every function keeps this that makes no call of `connectToHost`.
-/

namespace QtChat

namespace QtClient

variable {c c' : QtClient} {W : Json → Prop}

/-- The socket is closed or will be, whatever comes. -/
def Leaving (c : QtClient) : Prop :=
  c.m_socket.state = .unconnected ∨ c.m_socket.state = .closing ∨
    c.m_socket.state = .connecting ∧ c.m_socket.pendingClose = true

structure Keeps (W : Json → Prop) (c c' : QtClient) : Prop where
  relogin : c'.m_wantRelogin = c.m_wantRelogin
  window : c'.window = c.window ∨ c'.window = c.window.setStatus false
  attempts : c'.m_socket.attempts = c.m_socket.attempts
  written : ∃ sent, c'.m_socket.written = c.m_socket.written ++ sent ∧
    ∀ e ∈ sent, e.1 = c.m_socket.attempts ∧ W e.2
  leaving : c.Leaving → c'.Leaving

namespace Keeps

theorem of_socket (hs : c'.m_socket = c.m_socket) (hr : c'.m_wantRelogin = c.m_wantRelogin)
    (hw : c'.window = c.window ∨ c'.window = c.window.setStatus false) : Keeps W c c' where
  relogin := hr
  window := hw
  attempts := congrArg QTcpSocket.attempts hs
  written := ⟨[], by rw [hs, List.append_nil], fun _ he => nomatch he⟩
  leaving h := by rwa [Leaving, hs]

theorem refl (W : Json → Prop) (c : QtClient) : Keeps W c c := of_socket rfl rfl (.inl rfl)

theorem trans {c₁ c₂ c₃ : QtClient} (h : Keeps W c₁ c₂) (h' : Keeps W c₂ c₃) : Keeps W c₁ c₃ where
  relogin := h'.relogin.trans h.relogin
  window := by
    have hidem : (c₁.window.setStatus false).setStatus false = c₁.window.setStatus false := by
      cases c₁.window <;> rfl
    rcases h.window with h₁ | h₁
    · rw [← h₁]
      exact h'.window
    · rcases h'.window with h₂ | h₂
      · exact .inr (h₂.trans h₁)
      · right
        rw [h₂, h₁, hidem]
  attempts := h'.attempts.trans h.attempts
  written := by
    obtain ⟨sent, hs, hall⟩ := h.written
    obtain ⟨sent', hs', hall'⟩ := h'.written
    refine ⟨sent ++ sent', by rw [hs', hs, List.append_assoc], fun e he => ?_⟩
    rcases List.mem_append.mp he with he | he
    · exact hall e he
    · exact ⟨(hall' e he).1.trans h.attempts, (hall' e he).2⟩
  leaving hl := h'.leaving (h.leaving hl)

theorem mono {W' : Json → Prop} (h : Keeps W c c') (hW : ∀ js, W js → W' js) : Keeps W' c c' where
  relogin := h.relogin
  window := h.window
  attempts := h.attempts
  written := by
    obtain ⟨sent, hs, hall⟩ := h.written
    exact ⟨sent, hs, fun e he => ⟨(hall e he).1, hW _ (hall e he).2⟩⟩
  leaving := h.leaving

end Keeps

theorem onDisconnected_keeps (c : QtClient) : Keeps W c c.onDisconnected := by
  unfold onDisconnected startReconnect
  dsimp only
  split
  · exact .of_socket rfl rfl (.inr rfl)
  · exact .of_socket rfl rfl (.inr rfl)

theorem onError_keeps (c : QtClient) : Keeps W c c.onError := by
  unfold onError startReconnect
  split_ifs
  · exact .refl W c
  · exact .of_socket rfl rfl (.inl rfl)
  · exact .refl W c

theorem leave_keeps (c : QtClient) : Keeps W c c.leave := by
  have hclose : Keeps W c { c with m_socket := { c.m_socket with state := .unconnected } } :=
    ⟨rfl, .inl rfl, rfl, ⟨[], (List.append_nil _).symm, fun _ he => nomatch he⟩, fun _ => .inl rfl⟩
  unfold leave
  dsimp only
  split
  · exact hclose.trans (onDisconnected_keeps _)
  · exact hclose

theorem abort_keeps (c : QtClient) : Keeps W c c.abort := by
  unfold abort
  split
  · exact .refl W c
  · exact leave_keeps c

theorem disconnectFromHost_keeps (c : QtClient) : Keeps W c c.disconnectFromHost := by
  unfold disconnectFromHost
  split_ifs
  · exact ⟨rfl, .inl rfl, rfl, ⟨[], (List.append_nil _).symm, fun _ he => nomatch he⟩,
      fun _ => .inr (.inl rfl)⟩
  · exact leave_keeps c
  · rename_i hs
    exact ⟨rfl, .inl rfl, rfl, ⟨[], (List.append_nil _).symm, fun _ he => nomatch he⟩,
      fun _ => .inr (.inr ⟨hs, rfl⟩)⟩
  · exact .refl W c

theorem writeJson_keeps (c : QtClient) {js : Json} (hjs : W js) : Keeps W c (c.writeJson js) := by
  have hwrite : Keeps W c { c with m_socket := c.m_socket.write js } := by
    unfold QTcpSocket.write
    split
    · exact .refl W c
    · refine ⟨rfl, .inl rfl, rfl, ⟨[(c.m_socket.attempts, js)], rfl, fun e he => ?_⟩, id⟩
      obtain rfl := List.mem_singleton.mp he
      exact ⟨rfl, hjs⟩
  refine hwrite.trans ?_
  unfold writeJson flush
  split
  · exact (onError_keeps _).trans (abort_keeps _)
  · exact .refl W _

end QtClient

end QtChat
