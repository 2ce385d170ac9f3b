import QtChat.Properties.LiveEntries
import QtChat.Server.RowRuns

/-!
# The clean-up of a closed connection

`clientCloseException` looks through `_userConnMap` for the connection and stops at the first entry
that has it. Nothing keeps a second user from logging in on a connection that has one.

- `live_only_subscribed`: without its connection to Redis a server is subscribed to nothing.
- `clientClosed_live`, `clientClosed_online`: what the clean-up makes of the user it has found.
- `cleaned_up_iff`: in a run, a close leaves nothing of the users of its connection exactly if there
  is at most one, whose row MySQL updates.
- `close_of_two`: one of two users stays.
-/

namespace QtChat

open Interleave ChatService

/-- Nobody has the connection any more, and those who had it are not online and not subscribed. -/
structure CleanedUp (i : ServerId) (conn : ConnId) (w w' : World) : Prop where
  unmapped : ∀ u, (w'.servers i).userConnMap.lookup u ≠ some conn
  offline : ∀ u, (w.servers i).userConnMap.lookup u = some conn → w'.db.stateOf u ≠ some .online
  unsubscribed : ∀ u, (w.servers i).userConnMap.lookup u = some conn → (w'.servers i).live u = false

/-- One user at most has the connection, and MySQL updates the row if it says online. The outcomes
of the update come after the one that picks the entry. -/
structure CleanClose (w : World) (i : ServerId) (conn : ConnId) : Prop where
  single : ∀ u v, (w.servers i).userConnMap.lookup u = some conn →
    (w.servers i).userConnMap.lookup v = some conn → u = v
  written : ∀ u, (w.servers i).userConnMap.lookup u = some conn →
    w.db.stateOf u = some .online → w.next.Reaches

/-- A step that is a close cleans up. -/
def Label.CleansUp (w w' : World) : Label → Prop
  | .whole i (.close conn) => CleanedUp i conn w w'
  | _ => True

/-- It meets the condition. -/
def Label.IsCleanClose (w : World) : Label → Prop
  | .whole i (.close conn) => CleanClose w i conn
  | _ => True

/-! ## Subscriptions -/

/-- Without its connection to Redis the server is subscribed to nothing. -/
def Server.LiveOnly (s : Server) : Prop := s.subscribeContext = false → s.live = fun _ => false

theorem Server.LiveOnly.congr {s s' : Server} (h : s.LiveOnly)
    (hc : s'.subscribeContext = s.subscribeContext) (hl : s'.live = s.live) : s'.LiveOnly := by
  unfold LiveOnly
  rw [hc, hl]
  exact h

theorem ServerStep.liveOnly {a : Act} {s s' : Server} (h : ServerStep a s s') (hs : s.LiveOnly) :
    s'.LiveOnly := by
  intro hc
  rw [h.contexts.2] at hc
  have hdead := hs hc
  have hsub : ∀ s : Server, s.subscribeContext = false → ∀ ch, s.subscribe ch = s :=
    fun s hs ch => if_neg (by simp [hs])
  have hunsub : ∀ s : Server, s.subscribeContext = false → ∀ ch, s.unsubscribe ch = s :=
    fun s hs ch => if_neg (by simp [hs])
  cases h with
  | shutdown => unfold Server.shutdownConn; split <;> exact hdead
  | publish => unfold Server.push; split <;> exact hdead
  | subscribe _ ch => rw [hsub s hc, hdead]
  | unsubscribe _ ch => rw [hunsub s hc, hdead]
  | forceRelogin _ id conn =>
    obtain ⟨-, hlive, -, hcontext⟩ := s.takeOver_spec id conn 0
    rw [Server.forceRelogin_eq, hunsub _ (hcontext.trans hc), hsub _ (hcontext.trans hc), hlive,
      hdead]
  | routeGroup => rw [Server.foldl_deliver]; exact hdead
  | _ => exact hdead

theorem run_liveOnly {α : Type} {i : ServerId} {p : Serv α} {w w' : World} {x : α}
    (hw : ∀ j, (w.servers j).LiveOnly) (h : p.run i w = some (x, w')) :
    ∀ j, (w'.servers j).LiveOnly :=
  Prog.run_keep (I := fun w : World => ∀ j, (w.servers j).LiveOnly)
    (fun _ _ _ _ hw he j => (exec_server he j).liveOnly (hw j)) hw h

theorem liveOnly_modify {w : World} {i : ServerId} {f : Server → Server}
    (hw : ∀ j, (w.servers j).LiveOnly) (hf : (f (w.servers i)).LiveOnly) (j : ServerId) :
    ((w.modify i f).servers j).LiveOnly := by
  by_cases hj : j = i
  · subst hj
    rwa [World.modify_self]
  · rw [World.modify_ne _ hj]
    exact hw j

theorem Job.Begins.liveOnly {P : JsonParser} {i : ServerId} {w w' : World} {job : Job}
    {p : Serv Unit} (h : job.Begins P i w p w') (hw : ∀ j, (w.servers j).LiveOnly) (j : ServerId) :
    (w'.servers j).LiveOnly :=
  (hw j).congr (h.field (·.subscribeContext) (fun _ _ => rfl) (fun _ _ => rfl) j)
    (h.field (·.live) (fun _ _ => rfl) (fun _ _ => rfl) j)

theorem step_liveOnly {P : JsonParser} {l : Label} {s s' : Sys}
    (hs : ∀ j, (s.world.servers j).LiveOnly) (h : Sys.step P l s = some s') :
    ∀ j, (s'.world.servers j).LiveOnly := by
  cases Sys.steps h with
  | start => dsimp only; exact liveOnly_modify hs fun _ => rfl
  | connect => dsimp only; exact liveOnly_modify hs (hs _)
  | whole hb hr => exact run_liveOnly (hb.liveOnly hs) hr
  | spawn _ hb => exact hb.liveOnly hs
  | done => exact hs
  | act _ he => exact fun j => (exec_server he j).liveOnly (hs j)
  | tick => exact hs
  | publishLost => dsimp only; exact liveOnly_modify hs (hs _)
  | subscribeLost => dsimp only; exact liveOnly_modify hs fun _ => rfl
  | resubscribe => dsimp only; exact liveOnly_modify hs nofun
  | exit _ hr => dsimp only; exact liveOnly_modify (run_liveOnly hs hr) fun _ => rfl
  | crash => dsimp only; exact liveOnly_modify hs fun _ => rfl

/-- **Subscriptions need a connection** to Redis. -/
theorem live_only_subscribed {P : JsonParser} {s : Sys} (h : (system P).Reach s) :
    ∀ j, (s.world.servers j).LiveOnly := by
  refine h.inv (I := fun s : Sys => ∀ j, (s.world.servers j).LiveOnly) ?_
    fun l s s' hs hl => step_liveOnly hs hl
  rintro s ⟨collate, fates, now, rfl⟩
  exact fun j _ => rfl

/-! ## The clean-up of one user -/

section

variable {i : ServerId} {w w' : World} {conn : ConnId} {id : Int}

/-- The channel is unsubscribed, and nothing after it subscribes. -/
theorem clientClosed_live (hw : (w.servers i).LiveOnly)
    (hr : (clientClosed conn { id }).run i w = some ((), w')) : (w'.servers i).live id = false := by
  have hunsub : (((w.modify i (·.unsubscribe id))).servers i).live id = false := by
    rw [World.modify_self, ((w.servers i).unsubscribe_channel id id).2.1]
    cases hc : (w.servers i).subscribeContext with
    | true => simp
    | false => simp [hw hc]
  have hrest := (clientClosed_all conn { id }).2 true
  unfold clientClosed at hr
  rw [Prog.run_bind, run_unsubscribe, Option.bind_some] at hr
  refine Prog.All.run_rel (L := chat) (R := fun w w' : World =>
    (w.servers i).live id = false → (w'.servers i).live id = false) hrest (fun _ h => h)
    (fun _ _ _ h h' hl => h' (h hl)) (fun a w r w' ha he hl => ?_) hr hunsub
  refine (exec_server he i).stays_unsubscribed (fun hs => ?_) hl
  cases a <;> first | exact hs | exact ha

/-- The row of the user, if MySQL updates it. -/
theorem clientClosed_online (hid : id ≠ -1)
    (hr : (clientClosed conn { id }).run i w = some ((), w')) :
    w'.db.stateOf id = some .online ↔ w.db.stateOf id = some .online ∧ ¬ w.Reaches := by
  have hoff : clientClosed conn { id } = goOffline conn id := by
    unfold clientClosed goOffline
    simp only [ne_eq, hid, not_false_eq_true, if_true]
  rw [hoff, goOffline, Prog.run_bind, run_unsubscribe, Option.bind_some, Prog.run_bind,
    run_eraseLastTime, Option.bind_some, Prog.run_bind, run_updateState, Option.bind_some] at hr
  rw [run_notify_db hr]
  generalize hw₂ : (w.modify i (·.unsubscribe id)).modify i
    (fun s => { s with connectionLastTime := s.connectionLastTime.erase conn }) = w₂
  have hreaches : w₂.Reaches ↔ w.Reaches := World.reaches_congr (by rw [← hw₂]; rfl)
  have hdb : w₂.db = w.db := by rw [← hw₂]; rfl
  rw [← hreaches, ← hdb]
  by_cases h : w₂.Reaches
  · rw [(World.ask_reaches h rfl).2]
    simp only [Database.stateOf, Relational.Table.find_update, if_true, h, not_true, and_false,
      iff_false]
    cases w₂.db.user.find id <;> simp
  · rw [(World.ask_fails h).2]
    exact (and_iff_left h).symm

end

/-! ## Closes -/

section

variable {P : JsonParser} {i : ServerId} {w w₁ w' : World} {conn : ConnId}

theorem cleanedUp_congr (hm : (w₁.servers i).userConnMap = (w.servers i).userConnMap) :
    CleanedUp i conn w₁ w' ↔ CleanedUp i conn w w' := by
  constructor
  · rintro ⟨hunmapped, hoffline, hlive⟩
    exact ⟨hunmapped, hm ▸ hoffline, hm ▸ hlive⟩
  · rintro ⟨hunmapped, hoffline, hlive⟩
    exact ⟨hunmapped, hm ▸ hoffline, hm ▸ hlive⟩

theorem cleanClose_congr (hm : (w₁.servers i).userConnMap = (w.servers i).userConnMap)
    (hdb : w₁.db = w.db) (hfates : w₁.fates = w.fates) :
    CleanClose w₁ i conn ↔ CleanClose w i conn := by
  have hreaches : w₁.next.Reaches ↔ w.next.Reaches := by
    refine World.reaches_congr ?_
    funext n
    rw [World.next_fates, World.next_fates, hfates]
  constructor
  · rintro ⟨hsingle, hwritten⟩
    rw [hm] at hsingle hwritten
    exact ⟨hsingle, fun u hu ho => hreaches.mp (hwritten u hu (hdb ▸ ho))⟩
  · rintro ⟨hsingle, hwritten⟩
    rw [← hm] at hsingle hwritten
    exact ⟨hsingle, fun u hu ho => hreaches.mpr (hwritten u hu (hdb ▸ ho))⟩

/-- The handler. -/
theorem clientCloseException_cleans_up (hwf : w.db.Wf) (hwf' : w'.db.Wf)
    (hlive : (w.servers i).LiveOnly)
    (hr : (clientCloseException conn).run i w = some ((), w')) :
    CleanedUp i conn w w' ↔ CleanClose w i conn := by
  have hentries := (close_links hr).2.2
  obtain ⟨r, w₁, he, hr⟩ := close_runs i w hr
  rw [World.exec] at he
  cases hf : (w.servers i).firstOf conn (w.fates 0).pick with
  | none =>
    rw [hf] at hentries
    have hnone : ∀ u, (w.servers i).userConnMap.lookup u ≠ some conn :=
      Server.not_lookup_of_firstOf hf
    refine iff_of_true ⟨fun u => ?_, fun u hu => absurd hu (hnone u),
      fun u hu => absurd hu (hnone u)⟩ ⟨fun u _ hu => absurd hu (hnone u),
      fun u hu => absurd hu (hnone u)⟩
    rw [hentries]
    exact hnone u
  | some id =>
    rw [hf] at he hentries
    cases he
    have hid := Server.lookup_of_firstOf hf
    have hoff : (w'.servers i).live id = false := by
      refine clientClosed_live ?_ hr
      rw [World.modify_self]
      exact hlive
    have honline : id ≠ -1 →
        (w'.db.stateOf id = some .online ↔ w.db.stateOf id = some .online ∧ ¬ w.next.Reaches) :=
      fun hne => clientClosed_online hne hr
    constructor
    · rintro ⟨hunmapped, hoffline, -⟩
      have hunique : ∀ u, (w.servers i).userConnMap.lookup u = some conn → u = id := by
        intro u hu
        by_contra hne
        refine hunmapped u ?_
        rw [hentries, AList.lookup_erase_ne hne, hu]
      refine ⟨fun u v hu hv => (hunique u hu).trans (hunique v hv).symm, fun u hu ho => ?_⟩
      rw [hunique u hu] at ho
      by_contra hfail
      exact hoffline id hid ((honline (hwf.ne_of_stateOf ho)).mpr ⟨ho, hfail⟩)
    · rintro ⟨hsingle, hwritten⟩
      have hunique : ∀ u, (w.servers i).userConnMap.lookup u = some conn → u = id :=
        fun u hu => hsingle u id hu hid
      refine ⟨fun u hu => ?_, fun u hu ho => ?_, fun u hu => ?_⟩
      · rw [hentries] at hu
        by_cases hne : u = id
        · rw [hne, AList.lookup_erase] at hu
          cases hu
        · rw [AList.lookup_erase_ne hne] at hu
          exact hne (hunique u hu)
      · rw [hunique u hu] at ho
        obtain ⟨hbefore, hfail⟩ := (honline (hwf'.ne_of_stateOf ho)).mp ho
        exact hfail (hwritten id hid hbefore)
      · rw [hunique u hu]
        exact hoff

/-- **One close.** -/
theorem close_cleans_up_iff {s s' : Sys} (hs : (system P).Reach s)
    (h : Sys.step P (.whole i (.close conn)) s = some s') :
    CleanedUp i conn s.world s'.world ↔ CleanClose s.world i conn := by
  have hwf := reach_wf hs
  have hwf' := step_wf hwf h
  have hlive := live_only_subscribed hs
  cases Sys.steps h with
  | whole hb hr =>
    have hlive' := hb.liveOnly hlive
    cases hb
    have hm := World.modify_field (w := s.world) (i := i) (f := fun s =>
      { s with conns := Function.update s.conns conn .disconnected }) (·.userConnMap) rfl i
    rw [← cleanedUp_congr hm, clientCloseException_cleans_up (by exact hwf) hwf' (hlive' i) hr]
    exact cleanClose_congr hm rfl rfl

/-- **When a close cleans up.** In a run of any servers, with any logins of any users on any
connections before it, each close leaves nothing of the users of its connection exactly if it meets
the condition. -/
theorem cleaned_up_iff {ls : List Label} {s s' : Sys} (hs : (system P).init s)
    (hr : (system P).runs ls s = some s') :
    (∀ l s₁ s₂, (system P).Takes ls s l s₁ → Sys.step P l s₁ = some s₂ →
      l.CleansUp s₁.world s₂.world) ↔
    ∀ l s₁, (system P).Takes ls s l s₁ → l.IsCleanClose s₁.world := by
  refine Machine.takes_iff_of_step hr fun l s₁ s₂ ht hl => ?_
  cases l with
  | whole i job =>
    cases job with
    | close conn => exact close_cleans_up_iff ((Machine.Reach.init hs).takes ht) hl
    | _ => exact Iff.rfl
  | _ => exact Iff.rfl

end

/-- User 1 registers and logs in on connection 1, which goes down. -/
def oneClose : List Label := oneLogin ++ [.whole 0 (.close 1)]

theorem cleaned_up_iff_ann : ∃ s', (system twoLoginsParser).runs oneClose Sys.initial = some s' ∧
    ((∀ l s₁ s₂, (system twoLoginsParser).Takes oneClose Sys.initial l s₁ →
        Sys.step twoLoginsParser l s₁ = some s₂ → l.CleansUp s₁.world s₂.world) ↔
      ∀ l s₁, (system twoLoginsParser).Takes oneClose Sys.initial l s₁ →
        l.IsCleanClose s₁.world) := by
  have h : ((system twoLoginsParser).runs oneClose Sys.initial).isSome = true := by
    decide +kernel
  obtain ⟨s', hr⟩ := Option.isSome_iff_exists.mp h
  exact ⟨s', hr, cleaned_up_iff ⟨id, fun _ => ⟨true, 0⟩, 0, rfl⟩ hr⟩

/-- Two users register and log in on connection 1. -/
def sharedLogins : List Label :=
  [.start 0 true, .connect 0 1,
    .whole 0 (.frame 1 (ChatClient.reg (txt "ann") (txt "pw")).dump),
    .whole 0 (.frame 1 (ChatClient.reg (txt "bob") (txt "pw")).dump),
    .whole 0 (.frame 1 (ChatClient.login 1 (txt "pw")).dump),
    .whole 0 (.frame 1 (ChatClient.login 2 (txt "pw")).dump)]

def sharedLoginsParser : JsonParser :=
  .ofDumps [ChatClient.reg (txt "ann") (txt "pw"), ChatClient.reg (txt "bob") (txt "pw"),
    ChatClient.login 1 (txt "pw"), ChatClient.login 2 (txt "pw")]

/-- Connection 1 goes down. -/
theorem close_of_two : ¬∀ (P : JsonParser) (s s' : Sys) (i : ServerId) (conn : ConnId),
    (system P).Reach s → Sys.step P (.whole i (.close conn)) s = some s' →
      CleanedUp i conn s.world s'.world := by
  intro hall
  have h : ((system sharedLoginsParser).runs sharedLogins Sys.initial).map (fun s : Sys =>
      (Sys.step sharedLoginsParser (.whole 0 (.close 1)) s).map fun s' =>
        ((s'.world.servers 0).userConnMap.lookup 1, (s'.world.servers 0).userConnMap.lookup 2)) =
      some (some (some 1, none)) := by
    decide +kernel
  obtain ⟨s, hs, hf⟩ := Option.map_eq_some_iff.mp h
  obtain ⟨s', hl, hf⟩ := Option.map_eq_some_iff.mp hf
  simp only [Prod.mk.injEq] at hf
  exact (hall _ s s' 0 1 (reach_of_runs hs) hl).unmapped 1 hf.1

end QtChat
