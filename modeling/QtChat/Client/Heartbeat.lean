import QtChat.Client.ChatClient
import QtChat.Interleave.Machine
import QtChat.Server.ChatService

/-!
# The heartbeat of the Qt client

What of `ChatClient` (`chatclient.cpp`) the heartbeat uses: the time of the last data, the repeating
`m_heartbeatTimer` of 15 s and the one-shot `m_heartbeatTimeout` of 35 s.

- A timer that runs is known by the time at which it is due; `start` restarts one that runs already.
  The clock cannot go past a timer that is due (`mayElapse`): its slot runs first.
- `time(NULL)` is the clock in whole seconds.
-/

namespace QtChat

structure HeartbeatClient where
  /-- The clock, in ms. -/
  clock : Nat
  /-- The socket is in `ConnectedState`. -/
  connected : Bool
  m_lastDataTime : Nat
  /-- When the timer is due, if it runs. -/
  m_heartbeatTimer : Option Nat
  m_heartbeatTimeout : Option Nat
  deriving DecidableEq

namespace HeartbeatClient

/-- `m_heartbeatTimer->setInterval(15000)`. -/
def heartbeatInterval : Nat := 15000

/-- `m_heartbeatTimeout->setInterval(35000)`. -/
def timeoutInterval : Nat := 35000

/-- `time(NULL)`. -/
def time (c : HeartbeatClient) : Nat := c.clock / 1000

/-- No timer is due before `ms` have passed. -/
def mayElapse (c : HeartbeatClient) (ms : Nat) : Bool :=
  c.m_heartbeatTimer.all (c.clock + ms ≤ ·) && c.m_heartbeatTimeout.all (c.clock + ms ≤ ·)

/-- `sendJson`, whatever is sent. -/
def sendJson (c : HeartbeatClient) : HeartbeatClient := { c with m_lastDataTime := c.time }

/-- `handleMessage`: the acknowledgements of a login and of a heartbeat. -/
def handleMessage (c : HeartbeatClient) (js : Json) : HeartbeatClient :=
  if (js.value "msgid").qtInt = EnMsgType.loginMsgAck.toInt then
    if js.contains "errno" ∧ (js.value "errno").qtInt = 0 ∧ js.contains "id" ∧ js.contains "name" then
      { c with m_heartbeatTimer := some (c.clock + heartbeatInterval) }
    else c
  else if (js.value "msgid").qtInt = EnMsgType.heartbeatMsg.toInt then
    { c with m_heartbeatTimeout := none }
  else c

/-- `onReadyRead`, when the read completes these messages. -/
def onReadyRead (c : HeartbeatClient) (msgs : List Json) : HeartbeatClient :=
  msgs.foldl handleMessage { c with m_lastDataTime := c.time }

/-- The test in `sendHeartbeat`: it sends one now. -/
def sends (c : HeartbeatClient) : Bool := c.connected && !(c.time - c.m_lastDataTime < 15)

/-- `sendHeartbeat`, the frame apart. -/
def sendHeartbeat (c : HeartbeatClient) : HeartbeatClient :=
  if c.sends then { c with m_heartbeatTimeout := some (c.clock + timeoutInterval) } else c

/-- `m_heartbeatTimer` is due: it goes on, and calls `sendHeartbeat`. -/
def tick (c : HeartbeatClient) : Option HeartbeatClient :=
  if c.m_heartbeatTimer = some c.clock then
    some { c with m_heartbeatTimer := some (c.clock + heartbeatInterval) }.sendHeartbeat
  else none

/-- `onHeartbeatTimeout`; `abort` disconnects, and `onDisconnected` stops the timers. -/
def onHeartbeatTimeout (c : HeartbeatClient) : HeartbeatClient :=
  { c with connected := false, m_heartbeatTimer := none, m_heartbeatTimeout := none }

/-- `m_heartbeatTimeout` is due. -/
def timeout (c : HeartbeatClient) : Option HeartbeatClient :=
  if c.m_heartbeatTimeout = some c.clock then some c.onHeartbeatTimeout else none

/-- A client that reads its login acknowledgement now. -/
def loggedIn (clock : Nat) : HeartbeatClient :=
  ⟨clock, true, clock / 1000, some (clock + heartbeatInterval), none⟩

theorem sends_tick (c : HeartbeatClient) (due : Option Nat) :
    { c with m_heartbeatTimer := due }.sends = c.sends := rfl

/-- What a tick does. -/
theorem tick_eq {c c' : HeartbeatClient} (h : c.tick = some c') :
    c.m_heartbeatTimer = some c.clock ∧ c' = { c with
      m_heartbeatTimer := some (c.clock + 15000)
      m_heartbeatTimeout := if c.sends then some (c.clock + 35000) else c.m_heartbeatTimeout } := by
  unfold tick at h
  split at h
  · rename_i hdue
    cases h
    refine ⟨hdue, ?_⟩
    unfold sendHeartbeat
    rw [sends_tick]
    cases c.sends <;> rfl
  · cases h

/-! ## What the messages change -/

/-- The message acknowledges a login. -/
def isLoginAck (js : Json) : Bool := (js.value "msgid").qtInt = EnMsgType.loginMsgAck.toInt

/-- A message that acknowledges no login stops the watchdog at most. -/
theorem handleMessage_eq (c : HeartbeatClient) {js : Json} (h : isLoginAck js = false) :
    c.handleMessage js = c ∨ c.handleMessage js = { c with m_heartbeatTimeout := none } := by
  unfold handleMessage
  rw [if_neg (by simpa [isLoginAck] using h)]
  split
  · exact .inr rfl
  · exact .inl rfl

/-- So does a read without such an acknowledgement, and the data is new. -/
theorem onReadyRead_eq (c : HeartbeatClient) {msgs : List Json}
    (h : msgs.all (!isLoginAck ·) = true) :
    c.onReadyRead msgs = { c with m_lastDataTime := c.time } ∨
      c.onReadyRead msgs = { c with m_lastDataTime := c.time, m_heartbeatTimeout := none } := by
  have hfold : ∀ c₁ : HeartbeatClient, msgs.foldl handleMessage c₁ = c₁ ∨
      msgs.foldl handleMessage c₁ = { c₁ with m_heartbeatTimeout := none } := by
    induction msgs with
    | nil => exact fun c₁ => .inl rfl
    | cons js msgs ih =>
      intro c₁
      simp only [List.all_cons, Bool.and_eq_true, Bool.not_eq_true'] at h
      rw [List.foldl_cons]
      rcases handleMessage_eq c₁ h.1 with e | e
      · rw [e]
        exact ih h.2 c₁
      · rw [e]
        rcases ih h.2 { c₁ with m_heartbeatTimeout := none } with e' | e' <;> exact .inr e'
  exact hfold _

end HeartbeatClient

end QtChat
