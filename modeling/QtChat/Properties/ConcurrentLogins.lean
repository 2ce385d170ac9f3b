import QtChat.Properties.OfflineDelivery
import QtChat.Server.Traces

/-!
# Logins of one user that interleave

`login` decides whether to kick by the row it read before it took the lock. Two logins that both
read offline enter one after the other, and the second overwrites the entry of the first without
shutting its connection down.

- `live_of_entered`, `not_live_of_overwritten`: what a trace of logins makes of one connection.
- `one_live_session_iff`: once all logins are at their ends, every connection that was acknowledged
  has the entry or is shut down, exactly if no login overwrote the entry of an open connection for
  good.
-/

namespace QtChat

open Interleave ChatService

/-! ## The calls of a login -/

theorem registerConn_enters (A : Call chat → Prop) (conn : ConnId) (id : Int) (state : UserState) :
    (registerConn conn id state).Ends A fun h _ => ∃ c ∈ h, Enters id conn c.act := by
  unfold registerConn
  split
  · intro _ _
    exact ⟨_, List.mem_singleton_self _, rfl, rfl⟩
  · intro _ _ _ _
    exact ⟨_, List.mem_cons_self, rfl, rfl⟩

theorem sendLogin_acknowledges (A : Call chat → Prop) (conn : ConnId) (user : User) :
    (sendLogin conn user).Ends A fun h _ =>
      ∃ js, IsLoginAck js ∧ (⟨.send conn js, ()⟩ : Call chat) ∈ h := by
  unfold sendLogin
  rw [Prog.ends_bind]
  refine (Prog.ends_of_all (Prog.all_true _)).mono fun h₁ vec _ => ?_
  rw [Prog.ends_bind]
  refine (Prog.ends_of_all (Prog.all_true _)).mono fun h₂ userVec _ => ?_
  rw [Prog.ends_bind]
  refine (Prog.ends_of_all (Prog.all_true _)).mono fun h₃ groupVec _ => ?_
  rw [Prog.ends_bind]
  intro _ _
  change Prog.Ends (L := chat) A (if (!vec.isEmpty) = true then _ else _) _
  refine (Prog.ends_of_all (Prog.all_true _)).mono fun h₄ _ _ => ?_
  exact ⟨loginResponse user vec userVec groupVec, isLoginAck_loginResponse _ _ _ _, by simp⟩

/-- Neither enters a connection nor sends. -/
def Aside : Act → Prop
  | .mapUser .. => False
  | .forceRelogin .. => False
  | .send .. => False
  | _ => True

/-- **A login that has come to its end** entered its connection exactly if it acknowledged it. -/
theorem loginAs_enters_iff (conn : ConnId) (id : Int) (pwd : Str) :
    (loginAs conn id pwd).Ends (fun _ => True) fun h _ => (∃ c ∈ h, Enters id conn c.act) ↔
      ∃ js, IsLoginAck js ∧ (⟨.send conn js, ()⟩ : Call chat) ∈ h := by
  unfold loginAs
  rw [Prog.ends_bind]
  refine (Prog.ends_of_all (all_query (A := Aside) trivial trivial)).mono fun h₁ user hq => ?_
  split
  · rw [Prog.ends_bind]
    refine (registerConn_enters _ conn id user.state).mono fun h₂ _ he => ?_
    obtain ⟨c, hc, he⟩ := he
    rw [Prog.ends_bind]
    refine (Prog.ends_of_all (Prog.all_true _)).mono fun h₃ _ _ => ?_
    rw [Prog.ends_bind]
    refine (sendLogin_acknowledges _ conn _).mono fun h₄ _ ha => ?_
    obtain ⟨js, hack, hm⟩ := ha
    refine (Prog.ends_of_all (Prog.all_true _)).mono fun h₅ _ _ => ?_
    exact iff_of_true ⟨c, by simp [hc], he⟩ ⟨js, hack, by simp [hm]⟩
  · intro _ _
    refine iff_of_false ?_ ?_
    · rintro ⟨c, hc, he⟩
      rcases List.mem_append.mp hc with hc | hc
      · have := hq c hc
        obtain ⟨a, r⟩ := c
        cases a <;> first | exact he | exact this
      · rw [List.mem_singleton.mp hc] at he
        exact he
    · rintro ⟨js, hack, hm⟩
      rcases List.mem_append.mp hm with hm | hm
      · exact hq _ hm
      · cases List.mem_singleton.mp hm
        exact not_isLoginAck_loginError _ hack

/-! ## One connection along a trace of logins -/

/-- The connection has the entry, or is not open any more. -/
def World.LiveHolds (w : World) (i : ServerId) (id : Int) (c : ConnId) : Prop :=
  (w.servers i).userConnMap.lookup id = some c ∨ (w.servers i).conns c ≠ .connected

section Trace

variable {i : ServerId} {id : Int} {w w' : World}

/-- An action of a login of `id`, whatever its connection. -/
def OfLogin (id : Int) (a : Act) : Prop := ∃ conn, LoginAct conn id a

/-- The two sections that enter a connection, and the rest of a login. -/
theorem exec_ofLogin {a : Act} {r : a.Res} (ha : OfLogin id a) (h : World.exec i a w = some (r, w')) :
    (∃ conn, a = .mapUser id conn ∧ (w'.servers i).userConnMap.lookup id = some conn ∧
      (w'.servers i).conns = (w.servers i).conns) ∨
    (∃ conn, a = .forceRelogin id conn ∧ (w'.servers i).userConnMap.lookup id = some conn ∧
      ∀ c, (w'.servers i).conns c = .connected ↔ (w.servers i).conns c = .connected ∧
        (w.servers i).userConnMap.lookup id ≠ some c) ∨
    ((∀ conn, ¬Enters id conn a) ∧
      (w'.servers i).userConnMap.lookup id = (w.servers i).userConnMap.lookup id ∧
      (w'.servers i).conns = (w.servers i).conns) := by
  obtain ⟨conn, ha⟩ := ha
  cases a with
  | mapUser id' conn' =>
    obtain ⟨rfl, rfl⟩ := ha
    cases h
    refine .inl ⟨_, rfl, ?_, ?_⟩
    · rw [World.modify_self]
      exact AList.lookup_insert _
    · rw [World.modify_self]
  | forceRelogin id' conn' =>
    obtain ⟨rfl, rfl⟩ := ha
    cases h
    refine .inr (.inl ⟨_, rfl, ?_, fun c => ?_⟩)
    · rw [World.modify_self, ((w.servers i).forceRelogin_spec _ _ _).1, if_pos rfl]
    · rw [World.modify_self]
      exact (w.servers i).forceRelogin_open _ _ c
  | eraseUser => exact ha.elim
  | eraseConn => exact ha.elim
  | shutdown => exact ha.elim
  | _ =>
    refine .inr (.inr ⟨fun conn he => he, ?_, ?_⟩)
    · rw [(exec_server h i).map fun hm => hm]
    · exact (exec_server h i).conns (fun _ e => by cases e) (fun _ _ e => by cases e)

/-- No login overwrites the entry of another connection that is open and is not entered again. -/
def OverwritesNone (i : ServerId) (id : Int) (w : World) (tr : List (Ev chat)) : Prop :=
  ∀ tr₁ e tr₂ w₁ c old, tr = tr₁ ++ e :: tr₂ → e.call.act = .mapUser id c →
    Evolves (L := chat) (fun _ => i) calm w tr₁ w₁ →
    (w₁.servers i).userConnMap.lookup id = some old → old ≠ c →
    (w₁.servers i).conns old = .connected → ∃ e' ∈ tr₂, Enters id old e'.call.act

variable {tr : List (Ev chat)} {c : ConnId}

/-- **The connections that were entered** all have the entry or are shut down at the end. -/
theorem live_of_entered (h : Evolves (L := chat) (fun _ => i) calm w tr w')
    (hact : ∀ e ∈ tr, OfLogin id e.call.act) (hno : OverwritesNone i id w tr)
    (hc : w.LiveHolds i id c ∨ ∃ e ∈ tr, Enters id c e.call.act) : w'.LiveHolds i id c := by
  refine h.regained (fun w : World => w.LiveHolds i id c) (fun a => Enters id c a.act)
    (fun _ _ he => by cases he) ?_ hc
  intro tr₁ e tr₂ w₁ w₂ htr hev hx
  have he : e ∈ tr := by rw [htr]; simp
  refine ⟨fun hen => ?_, fun hen hlive => ?_⟩
  · rcases exec_ofLogin (hact e he) hx with ⟨conn, ha, hl, -⟩ | ⟨conn, ha, hl, -⟩ | ⟨hn, -⟩
    · rw [ha] at hen
      exact .inl (by rw [hl, hen.2])
    · rw [ha] at hen
      exact .inl (by rw [hl, hen.2])
    · exact absurd hen (hn c)
  · rcases exec_ofLogin (hact e he) hx with ⟨conn, ha, hl, hcs⟩ | ⟨conn, ha, hl, hcs⟩ | ⟨-, hl, hcs⟩
    · rcases hlive with hlive | hlive
      · by_cases hopen : (w₁.servers i).conns c = .connected
        · -- the entry is overwritten
          refine .inr (hno tr₁ e tr₂ w₁ conn c htr ha hev hlive ?_ hopen)
          rintro rfl
          exact hen (by rw [ha]; exact ⟨rfl, rfl⟩)
        · exact .inl (.inr (by rw [hcs]; exact hopen))
      · exact .inl (.inr (by rw [hcs]; exact hlive))
    · refine .inl (.inr fun hopen => ?_)
      obtain ⟨hopen, hne⟩ := (hcs c).mp hopen
      exact hlive.elim hne fun hclosed => hclosed hopen
    · unfold World.LiveHolds
      rw [hl, hcs]
      exact .inl hlive

/-- An open connection without the entry stays so until it is entered. -/
theorem not_live_of_overwritten (h : Evolves (L := chat) (fun _ => i) calm w tr w')
    (hact : ∀ e ∈ tr, OfLogin id e.call.act) (hno : ∀ e ∈ tr, ¬Enters id c e.call.act)
    (hc : ¬w.LiveHolds i id c) : ¬w'.LiveHolds i id c := by
  refine h.inv (I := fun w : World => ¬w.LiveHolds i id c) (fun _ _ he => by cases he)
    (fun e he w₁ w₂ hx hc => ?_) hc
  simp only [World.LiveHolds, not_or, not_not] at hc ⊢
  rcases exec_ofLogin (hact e he) hx with ⟨conn, ha, hl, hcs⟩ | ⟨conn, ha, hl, hcs⟩ | ⟨-, hl, hcs⟩
  · refine ⟨?_, by rw [hcs]; exact hc.2⟩
    rw [hl]
    rintro ⟨⟩
    exact hno e he (by rw [ha]; exact ⟨rfl, rfl⟩)
  · refine ⟨?_, (hcs c).mpr ⟨hc.2, hc.1⟩⟩
    rw [hl]
    rintro ⟨⟩
    exact hno e he (by rw [ha]; exact ⟨rfl, rfl⟩)
  · rw [hl, hcs]
    exact hc

/-- Who has the entry had it before or was entered. -/
theorem entered_of_lookup (h : Evolves (L := chat) (fun _ => i) calm w tr w')
    (hact : ∀ e ∈ tr, OfLogin id e.call.act)
    (hc : (w'.servers i).userConnMap.lookup id = some c) :
    (w.servers i).userConnMap.lookup id = some c ∨ ∃ e ∈ tr, Enters id c e.call.act := by
  by_cases hen : ∃ e ∈ tr, Enters id c e.call.act
  · exact .inr hen
  refine .inl ?_
  by_contra hnot
  refine h.inv (I := fun w : World => (w.servers i).userConnMap.lookup id ≠ some c)
    (fun _ _ he => by cases he) (fun e he w₁ w₂ hx hc => ?_) hnot hc
  have hne : ¬Enters id c e.call.act := fun h => hen ⟨e, he, h⟩
  rcases exec_ofLogin (hact e he) hx with ⟨conn, ha, hl, -⟩ | ⟨conn, ha, hl, -⟩ | ⟨-, hl, -⟩
  · rw [hl]
    rintro ⟨⟩
    exact hne (by rw [ha]; exact ⟨rfl, rfl⟩)
  · rw [hl]
    rintro ⟨⟩
    exact hne (by rw [ha]; exact ⟨rfl, rfl⟩)
  · rwa [hl]

end Trace

/-! ## The interleavings -/

/-- The threads: each is a login of `id` on its connection, or does nothing. -/
def loginPool (logins : Tid → Option ConnId) (id : Int) (pwd : Str) : Pool chat := fun t =>
  match logins t with
  | some conn => loginAs conn id pwd
  | none => .ret ()

/-- The connection was sent a positive acknowledgement, by one of the logins or before: it is the
one that has the entry at first. -/
def Acknowledged (i : ServerId) (id : Int) (w : World) (tr : List (Ev chat)) (c : ConnId) : Prop :=
  (w.servers i).userConnMap.lookup id = some c ∨
    ∃ e ∈ tr, ∃ js, IsLoginAck js ∧ e.call = ⟨.send c js, ()⟩

/-- Every connection that was acknowledged has the entry, or is not open any more. -/
def OneLiveSession (i : ServerId) (id : Int) (w : World) (tr : List (Ev chat)) (w' : World) : Prop :=
  ∀ c, Acknowledged i id w tr c → w'.LiveHolds i id c

section Runs

variable {i : ServerId} {id : Int} {pwd : Str} {logins : Tid → Option ConnId} {P' : Pool chat}
  {w w' : World} {tr : List (Ev chat)}
  (h : Run (L := chat) (fun _ => i) calm (loginPool logins id pwd) w tr P' w')
include h

/-- The thread of an event is a login. -/
theorem login_of_event {e : Ev chat} (he : e ∈ tr) : ∃ conn, logins e.tid = some conn ∧
    LoginAct conn id e.call.act := by
  have hp := h.path e.tid
  have hm := mem_own.mpr he
  unfold loginPool at hp
  cases hl : logins e.tid with
  | none =>
    rw [hl] at hp
    rw [hp.of_ret] at hm
    cases hm
  | some conn =>
    rw [hl] at hp
    exact ⟨conn, rfl, hp.all (loginAs_all conn id pwd) _ hm⟩

theorem ofLogin_of_event {e : Ev chat} (he : e ∈ tr) : OfLogin id e.call.act := by
  obtain ⟨conn, -, ha⟩ := login_of_event h he
  exact ⟨conn, ha⟩

/-- The logins that are at their ends acknowledged the connections they entered, and no other. -/
theorem entered_iff_acknowledged (hend : ∀ t, P' t = .ret ()) (c : ConnId) :
    (∃ e ∈ tr, Enters id c e.call.act) ↔
      ∃ e ∈ tr, ∃ js, IsLoginAck js ∧ e.call = ⟨.send c js, ()⟩ := by
  have hiff : ∀ t conn, logins t = some conn →
      ((∃ a ∈ own t tr, Enters id conn a.act) ↔
        ∃ js, IsLoginAck js ∧ (⟨.send conn js, ()⟩ : Call chat) ∈ own t tr) := by
    intro t conn ht
    have hp := h.path t
    unfold loginPool at hp
    rw [ht, hend t] at hp
    exact (loginAs_enters_iff conn id pwd).path hp fun _ _ => trivial
  constructor
  · rintro ⟨e, he, hen⟩
    obtain ⟨conn, ht, ha⟩ := login_of_event h he
    have hcc : conn = c := by
      obtain ⟨t, a, r⟩ := e
      cases a with
      | mapUser id' conn' => exact ha.2.symm.trans hen.2
      | forceRelogin id' conn' => exact ha.2.symm.trans hen.2
      | _ => exact hen.elim
    subst hcc
    obtain ⟨js, hack, hm⟩ := (hiff e.tid conn ht).mp ⟨_, mem_own.mpr he, hen⟩
    exact ⟨_, mem_own.mp hm, js, hack, rfl⟩
  · rintro ⟨e, he, js, hack, hcall⟩
    obtain ⟨conn, ht, ha⟩ := login_of_event h he
    have hcc : c = conn := by
      rw [hcall] at ha
      rcases ha with ha | rfl
      · exact ha
      · exact absurd hack (not_isLoginAck_friendState id .online)
    subst hcc
    obtain ⟨a, hm, hen⟩ := (hiff e.tid c ht).mpr ⟨js, hack, by rw [← hcall]; exact mem_own.mpr he⟩
    exact ⟨_, mem_own.mp hm, hen⟩

end Runs

/-- **One live session.** In every interleaving of any number of logins of one user, once all are at
their ends: of the connections that were acknowledged only the one with the entry is still open,
exactly if no login that had read offline overwrote the entry of another open connection for good.
-/
theorem one_live_session_iff {i : ServerId} {id : Int} {pwd : Str} {logins : Tid → Option ConnId}
    {P' : Pool chat} {w w' : World} {tr : List (Ev chat)}
    (h : Run (L := chat) (fun _ => i) calm (loginPool logins id pwd) w tr P' w')
    (hend : ∀ t, P' t = .ret ()) :
    OneLiveSession i id w tr w' ↔ OverwritesNone i id w tr := by
  have hact : ∀ e ∈ tr, OfLogin id e.call.act := fun e => ofLogin_of_event h
  constructor
  · rintro hlive tr₁ e tr₂ w₁ c old rfl ha hev hl hne hopen
    by_contra hlater
    have hno : ∀ e' ∈ tr₂, ¬Enters id old e'.call.act := fun e' he' hen => hlater ⟨e', he', hen⟩
    obtain ⟨w₂, hx, hev₂⟩ := h.evolves.after (fun _ => rfl) hev
    have hacked : Acknowledged i id w (tr₁ ++ e :: tr₂) old := by
      rcases entered_of_lookup hev (fun e he => hact e (by simp [he])) hl with h₀ | ⟨e', he', hen⟩
      · exact .inl h₀
      · exact .inr ((entered_iff_acknowledged h hend old).mp ⟨e', by simp [he'], hen⟩)
    refine not_live_of_overwritten hev₂ (fun e he => hact e (by simp [he])) hno ?_ (hlive old hacked)
    rcases exec_ofLogin (hact e (by simp)) hx with ⟨conn, ha', hl', hcs⟩ | ⟨conn, ha', -⟩ | ⟨hn, -⟩
    · rw [ha] at ha'
      cases ha'
      rintro (h' | h')
      · rw [hl'] at h'
        exact hne (Option.some.inj h').symm
      · rw [hcs] at h'
        exact h' hopen
    · rw [ha] at ha'
      cases ha'
    · exact absurd (by rw [ha]; exact ⟨rfl, rfl⟩) (hn c)
  · intro hno c hc
    refine live_of_entered h.evolves hact hno ?_
    rcases hc with hc | hc
    · exact .inl (.inl hc)
    · exact .inr ((entered_iff_acknowledged h hend c).mpr hc)

/-- User 1 is registered and offline; connections 1 and 2 are open. -/
def World.twoConns : World :=
  World.oneUser.modify 0 fun s => { s with conns := Function.update s.conns 2 .connected }

/-- User 1 logs in on two connections. -/
def twoDevices : Tid → Option ConnId
  | 0 => some 1
  | 1 => some 2
  | _ => none

theorem twoDevices_open : ∀ t c, twoDevices t = some c →
    (World.twoConns.servers 0).conns c = .connected
  | 0, _, h => by cases h; rfl
  | 1, _, h => by cases h; rfl

theorem twoDevices_distinct : ∀ t t' c, twoDevices t = some c → twoDevices t' = some c → t = t'
  | 0, 0, _, _, _ => rfl
  | 1, 1, _, _, _ => rfl
  | 0, 1, _, h, h' => by cases h; cases h'
  | 1, 0, _, h, h' => by cases h; cases h'

theorem loginPool_ends {P' : Pool chat} {w w' : World} {tr : List (Ev chat)} {i : ServerId}
    {id : Int} {pwd : Str}
    (h : Run (L := chat) (fun _ => i) calm (loginPool twoDevices id pwd) w tr P' w')
    (h₀ : (P' 0).isRet = true) (h₁ : (P' 1).isRet = true) : ∀ t, P' t = .ret ()
  | 0 => Prog.eq_ret_of_isRet h₀
  | 1 => Prog.eq_ret_of_isRet h₁
  | t + 2 => (h.path (t + 2)).eq_of_ret

/-- Both threads read the row, then the second login runs to its end after the first. -/
def raceSchedule : List (Option Tid) :=
  List.replicate 2 (some 0) ++ List.replicate 2 (some 1) ++ List.replicate 14 (some 0) ++
    List.replicate 14 (some 1)

theorem one_live_session_iff_race : ∃ tr P' w',
    Run (L := chat) (fun _ => 0) calm (loginPool twoDevices 1 (txt "pw")) World.twoConns tr P' w' ∧
    (∀ t, P' t = .ret ()) ∧ (OneLiveSession 0 1 World.twoConns tr w' ↔
      OverwritesNone 0 1 World.twoConns tr) := by
  have h : (sched (L := chat) (fun _ => 0) calm raceSchedule (loginPool twoDevices 1 (txt "pw"))
      World.twoConns).map (fun r => ((r.2.1 0).isRet, (r.2.1 1).isRet)) = some (true, true) := by
    decide +kernel
  obtain ⟨⟨tr, P', w'⟩, hs, hf⟩ := Option.map_eq_some_iff.mp h
  simp only [Prod.mk.injEq] at hf
  have hend := loginPool_ends (sched_run hs) hf.1 hf.2
  exact ⟨tr, P', w', sched_run hs, hend, one_live_session_iff (sched_run hs) hend⟩

/-- Both read offline: connection 2 takes the entry, connection 1 was acknowledged and stays open.
-/
theorem second_session_lives : ¬∀ (i : ServerId) (id : Int) (pwd : Str) (row : UserRow)
    (logins : Tid → Option ConnId) (P' : Pool chat) (w w' : World) (tr : List (Ev chat)),
    Run (L := chat) (fun _ => i) calm (loginPool logins id pwd) w tr P' w' →
    (∀ t, P' t = .ret ()) → w.Works → w.db.user.find id = some row → cstr row.password = pwd →
    (∀ t c, logins t = some c → (w.servers i).conns c = .connected) →
    (∀ t t' c, logins t = some c → logins t' = some c → t = t') →
    (w.servers i).userConnMap.lookup id = none →
    ∀ c, (∃ e ∈ tr, ∃ js, IsLoginAck js ∧ e.call = ⟨.send c js, ()⟩) → w'.LiveHolds i id c := by
  intro hall
  have h : (sched (L := chat) (fun _ => 0) calm raceSchedule (loginPool twoDevices 1 (txt "pw"))
      World.twoConns).map (fun r : List (Ev chat) × Pool chat × World =>
        (((r.2.1 0).isRet, (r.2.1 1).isRet), (r.2.2.servers 0).userConnMap.lookup 1,
          (r.2.2.servers 0).conns 1, r.1.any fun e => decide (Enters 1 1 e.call.act))) =
      some ((true, true), some 2, .connected, true) := by
    decide +kernel
  obtain ⟨⟨tr, P', w'⟩, hs, hf⟩ := Option.map_eq_some_iff.mp h
  simp only [Prod.mk.injEq, List.any_eq_true, decide_eq_true_eq] at hf
  obtain ⟨⟨h₀, h₁⟩, hl, hopen, e, he, hen⟩ := hf
  have hend := loginPool_ends (sched_run hs) h₀ h₁
  have hack := (entered_iff_acknowledged (sched_run hs) hend 1).mp
    ⟨e, he, hen⟩
  have hlive := hall 0 1 _ _ twoDevices P' _ w' tr (sched_run hs) hend (fun _ => rfl) rfl rfl
    twoDevices_open twoDevices_distinct rfl 1 hack
  rcases hlive with hlive | hlive
  · rw [hl] at hlive
    cases hlive
  · exact hlive hopen

end QtChat
