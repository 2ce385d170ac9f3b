import QtChat.Properties.ConsoleClient

/-!
# What is typed into the console client

- `last_command`: once `cin` is not good nothing is sent any more (`runs_deaf`), and a line that does
  not fit the buffer of `mainMenu` does that.
- `command_done`: a line in the form that `help` shows is done as it says.
-/

namespace QtChat

open Interleave

namespace Console

/-! ## Input that fails -/

section Deaf

variable {P : JsonParser} {c c' : Console} {ls : List Label} {ok : Bool} {now : Str}

theorem refuse_good (s : Istream) : s.refuse.good = false := by
  simp [Istream.good, Istream.refuse]

/-- The process has ended, or the main thread is at the top of a loop and `cin` is not good. -/
def Deaf (c : Console) : Prop :=
  c.place = .ended ∨ c.cin.good = false ∧ (c.place = .menu ∨ c.place = .mainMenu)

theorem terminate_deaf (c : Console) : Deaf c.terminate := .inl rfl

theorem menuTurn_deaf (h : c.cin.good = false) :
    c.menuTurn ok = some { c with cin := c.cin.refuse } := by
  have hint : c.cin.readInt = (0, c.cin.refuse) := by simp [Istream.readInt, h]
  have hget : c.cin.refuse.get = c.cin.refuse := by
    rw [Istream.get, refuse_good]
    rfl
  rw [menuTurn, hint]
  simp only [hget]

theorem mainMenuTurn_deaf (h : c.cin.good = false) (hrun : c.isMainMenuRunning = true) :
    c.mainMenuTurn ok now = some { c with cin := c.cin.refuse } := by
  have hline : c.cin.getline 1024 = ([], c.cin.refuse) := by simp [Istream.getline, h]
  rw [mainMenuTurn, if_pos hrun, hline]
  rfl

theorem step_deaf {l : Label} (hd : Deaf c) (h : step P l c = some c') :
    Deaf c' ∧ c'.sent = c.sent := by
  rcases hd with hend | ⟨hbad, hp⟩
  · rw [no_step_ended P hend l] at h
    cases h
  cases l with
  | turn ok now =>
    rw [step] at h
    rcases hp with hp | hp <;> simp only [hp] at h
    · rw [menuTurn_deaf hbad] at h
      cases h
      exact ⟨.inr ⟨refuse_good _, .inl hp⟩, rfl⟩
    · by_cases hrun : c.isMainMenuRunning = true
      · rw [mainMenuTurn_deaf hbad hrun] at h
        cases h
        exact ⟨.inr ⟨refuse_good _, .inr hp⟩, rfl⟩
      · rw [mainMenuTurn, if_neg hrun] at h
        cases h
        exact ⟨.inr ⟨hbad, .inl rfl⟩, rfl⟩
  | wake =>
    rw [step, wake] at h
    rcases hp with hp | hp <;> rw [hp] at h <;> cases h
  | recv received =>
    rw [step] at h
    split at h
    · cases h
      cases hm : c.readTask P received with
      | none => exact ⟨terminate_deaf c, rfl⟩
      | some c₁ =>
        have hh := readTask_heard hm
        refine ⟨.inr ⟨?_, ?_⟩, hh.sent⟩
        · rw [Option.getD_some, hh.cin]
          exact hbad
        · rw [Option.getD_some, hh.place]
          exact hp
    · cases h
  | hangUp =>
    rw [step] at h
    split at h <;> cases h
    exact ⟨terminate_deaf c, rfl⟩

/-- **Once `cin` is not good** nothing is sent any more. -/
theorem runs_deaf (hd : Deaf c) (hr : (program P).runs ls c = some c') :
    Deaf c' ∧ c'.sent = c.sent := by
  refine Machine.runs_keep (M := program P) (I := fun c₁ : Console => Deaf c₁ ∧ c₁.sent = c.sent)
    (fun l c₁ c₂ h hs => ?_) ⟨hd, rfl⟩ hr
  obtain ⟨hd', hsent⟩ := step_deaf h.1 hs
  exact ⟨hd', hsent.trans h.2⟩

/-- A line that does not end within the buffer. -/
theorem getline_long {s : Istream} {n : Nat} (hn : 1 ≤ n) (hs : s.good = true)
    (hl : (10 : UInt8) ∉ s.rest.take n) :
    (s.getline n).1 = s.rest.take (n - 1) ∧ (s.getline n).2.good = false := by
  have hline : (s.rest.take (n - 1)).takeWhile (fun b => decide (b ≠ 10)) = s.rest.take (n - 1) := by
    rw [List.takeWhile_eq_self_iff]
    intro b hb
    have : b ≠ 10 := by
      rintro rfl
      exact hl (List.take_subset_take_left _ (Nat.sub_le n 1) hb)
    simpa using this
  rw [Istream.getline, if_pos hs]
  simp only [hline]
  split
  · exact ⟨rfl, by simp [Istream.good]⟩
  · rename_i b rest hdrop
    have hlen : (s.rest.take (n - 1)).length = n - 1 := by
      have := congrArg List.length hdrop
      simp only [List.length_drop, List.length_take, List.length_cons] at this ⊢
      omega
    rw [hlen] at hdrop
    have hb : b ≠ 10 := by
      rintro rfl
      have hn' : n = (n - 1) + 1 := by omega
      rw [hn', List.take_add, hdrop] at hl
      simp at hl
    rw [if_neg hb]
    exact ⟨rfl, by simp [Istream.good]⟩

/-- What the process has sent when the command was run. -/
def sentBy (c : Console) (after : Option Console) : Str := after.elim c.sent Console.sent

/-- **A command that is too long is the last one**: of a line with no end among the next 1024 bytes
the first 1023 are taken for the command, and after it nothing is ever sent. -/
theorem last_command (hp : c.place = .mainMenu) (hrun : c.isMainMenuRunning = true)
    (hgood : c.cin.good = true) (hl : (10 : UInt8) ∉ c.cin.rest.take 1024)
    (hr : (program P).runs (.turn ok now :: ls) c = some c') :
    c'.sent = sentBy c (({ c with cin := (c.cin.getline 1024).2 } : Console).runCommand ok now
      (cstr (c.cin.rest.take 1023))) := by
  obtain ⟨hline, hbad⟩ := getline_long (by decide) hgood hl
  obtain ⟨c₁, hs, hrest⟩ := Option.bind_eq_some_iff.mp hr
  have hs : step P (.turn ok now) c = some c₁ := hs
  rw [step, hp] at hs
  simp only [mainMenuTurn, if_pos hrun, hline] at hs
  cases hm : ({ c with cin := (c.cin.getline 1024).2 } : Console).runCommand ok now
      (cstr (c.cin.rest.take 1023)) with
  | none =>
    rw [hm] at hs
    cases hs
    exact (runs_deaf (terminate_deaf c) hrest).2
  | some c₂ =>
    rw [hm] at hs
    cases hs
    obtain ⟨reqs, running, he⟩ := runCommand_commanded hm
    have hd : Deaf c₂ := by
      rw [he]
      exact .inr ⟨hbad, .inr hp⟩
    exact (runs_deaf hd hrest).2

/-- User ann at the main menu, with a message of 2000 letters. -/
def annWrites : Console where
  cin := { rest := txt "chat:2:" ++ List.replicate 2000 97 }
  place := .mainMenu
  g_currentUser := { id := 1, name := txt "ann" }
  isMainMenuRunning := true

theorem last_command_ann : ∃ c' : Console,
    (program (.nlohmann originStrtod)).runs [.turn true (txt "noon"), .turn true (txt "noon")]
      annWrites = some c' ∧
    c'.sent = sentBy annWrites (({ annWrites with cin := (annWrites.cin.getline 1024).2 } :
      Console).runCommand true (txt "noon") (cstr (annWrites.cin.rest.take 1023))) := by
  have hr : ((program (.nlohmann originStrtod)).runs
      [.turn true (txt "noon"), .turn true (txt "noon")] annWrites).isSome = true := by
    decide +kernel
  obtain ⟨c', hr⟩ := Option.isSome_iff_exists.mp hr
  exact ⟨c', hr, last_command rfl rfl rfl (by decide +kernel) hr⟩

end Deaf

/-! ## Commands -/

/-- The commands of `commandMap`, with what they are given. -/
inductive Command where
  | help
  | chat (friendid : Int) (message : Str)
  | addfriend (friendid : Int)
  | creategroup (groupname groupdesc : Str)
  | addgroup (groupid : Int)
  | groupchat (groupid : Int) (message : Str)
  | loginout

namespace Command

/-- As `commandMap` says that it is typed. -/
def text : Command → Str
  | help => txt "help"
  | chat friendid message => txt "chat" ++ 58 :: (decimal friendid ++ 58 :: message)
  | addfriend friendid => txt "addfriend" ++ 58 :: decimal friendid
  | creategroup groupname groupdesc => txt "creategroup" ++ 58 :: (groupname ++ 58 :: groupdesc)
  | addgroup groupid => txt "addgroup" ++ 58 :: decimal groupid
  | groupchat groupid message => txt "groupchat" ++ 58 :: (decimal groupid ++ 58 :: message)
  | loginout => txt "loginout"

/-- What it is to do. -/
def run (ok : Bool) (now : Str) (c : Console) : Command → Option Console
  | help => some c
  | chat friendid message =>
    c.send ok (.oneChat c.g_currentUser.id c.g_currentUser.name friendid message now)
  | addfriend friendid => c.send ok (.addFriend c.g_currentUser.id friendid)
  | creategroup groupname groupdesc =>
    c.send ok (.createGroup c.g_currentUser.id groupname groupdesc)
  | addgroup groupid => c.send ok (.addGroup c.g_currentUser.id groupid)
  | groupchat groupid message =>
    c.send ok (.groupChat c.g_currentUser.id c.g_currentUser.name groupid message now)
  | loginout => c.loginout ok

/-- Ids of type `int`, and a name that the first `:` does not cut. -/
def Fits : Command → Prop
  | chat id _ | addfriend id | addgroup id | groupchat id _ => -2 ^ 31 ≤ id ∧ id < 2 ^ 31
  | creategroup groupname _ => (58 : UInt8) ∉ groupname
  | help | loginout => True

theorem text_isEmpty (cmd : Command) : cmd.text.isEmpty = false := by
  cases cmd <;> rfl

end Command

/-- `atoi` reads what `%d` prints. -/
theorem atoi_decimal {z : Int} (h₁ : -2 ^ 31 ≤ z) (h₂ : z < 2 ^ 31) : atoi (decimal z) = z := by
  have hdigits : ∀ n : Nat, (digits n).takeWhile isDigit = digits n := fun n =>
    List.takeWhile_eq_self_iff.mpr isDigit_of_mem_digits
  have hz : QtChat.atoi (decimal z) = z := by
    unfold decimal
    split
    · have hspace : (45 :: digits z.natAbs).dropWhile isSpace = 45 :: digits z.natAbs := rfl
      rw [QtChat.atoi, hspace]
      simp only [hdigits, digitsValue_digits]
      omega
    · obtain ⟨b, ds, hd⟩ := List.exists_cons_of_ne_nil (digits_ne_nil z.natAbs)
      have hb : isDigit b = true := isDigit_of_mem_digits b (by rw [hd]; simp)
      have hspace : (digits z.natAbs).dropWhile isSpace = digits z.natAbs := by
        rw [hd, List.dropWhile_cons_of_neg]
        simp only [isDigit, isSpace, Bool.and_eq_true, decide_eq_true_eq] at hb ⊢
        grind
      have hvalue := hdigits z.natAbs
      have hn := digitsValue_digits z.natAbs
      rw [QtChat.atoi, hspace]
      rw [hd] at hvalue hn ⊢
      split
      · rename_i he
        cases he
        cases hb
      · rename_i he
        cases he
        cases hb
      · rw [hvalue, hn]
        omega
  rw [atoi, cstr_of_no_nul (no_nul_decimal z), hz, toInt32, Int.bmod_eq_of_le] <;> omega

theorem split_colon {a : Str} (h : (58 : UInt8) ∉ a) (s : Str) :
    split (a ++ 58 :: s) = some (a, s) := by
  have hne : ∀ b ∈ a, decide (b ≠ 58) = true := by
    intro b hb
    have : b ≠ 58 := by
      rintro rfl
      exact h hb
    simpa using this
  rw [split, if_pos (by simp), List.takeWhile_append_of_pos hne, List.dropWhile_append_of_pos hne]
  simp

theorem dropWhile_head {p : UInt8 → Bool} {s t : Str} (h : ∀ b ∈ s.head?, p b = false)
    (hne : s ≠ []) : (s ++ t).dropWhile p = s ++ t := by
  obtain ⟨b, s, rfl⟩ := List.exists_cons_of_ne_nil hne
  rw [List.cons_append, List.dropWhile_cons_of_neg]
  simp [h b rfl]

/-- Blanks around a text go. -/
theorem trim_blanks {before text after : Str} (hb : ∀ b ∈ before, isBlank b = true)
    (ha : ∀ b ∈ after, isBlank b = true) (hhead : ∀ b ∈ text.head?, isBlank b = false)
    (hlast : ∀ b ∈ text.getLast?, isBlank b = false) (hne : text ≠ []) :
    trim (before ++ (text ++ after)) = text := by
  have hfront : (before ++ (text ++ after)).dropWhile isBlank = text ++ after := by
    rw [List.dropWhile_append_of_pos hb, dropWhile_head hhead hne]
  have hback : (text ++ after).reverse.dropWhile isBlank = text.reverse := by
    rw [List.reverse_append, List.dropWhile_append_of_pos fun b h => ha b (List.mem_reverse.mp h)]
    have h := dropWhile_head (p := isBlank) (s := text.reverse) (t := [])
      (by rw [List.head?_reverse]; exact hlast) (by simpa using hne)
    rwa [List.append_nil] at h
  rw [trim, hfront, hback, List.reverse_reverse]

/-- A line within the buffer. -/
theorem getline_line {s : Istream} {n : Nat} {line rest : Str} (hs : s.good = true)
    (hrest : s.rest = line ++ 10 :: rest) (hline : (10 : UInt8) ∉ line) (hn : line.length < n) :
    s.getline n = (line, { s with rest }) := by
  have hne : ∀ b ∈ line, decide (b ≠ 10) = true := by
    intro b hb
    have : b ≠ 10 := by
      rintro rfl
      exact hline hb
    simpa using this
  have htake : (s.rest.take (n - 1)).takeWhile (fun b => decide (b ≠ 10)) = line := by
    rw [hrest, List.take_append, List.take_of_length_le (by omega),
      List.takeWhile_append_of_pos hne]
    cases n - 1 - line.length <;> simp
  rw [Istream.getline, if_pos hs]
  simp only [htake]
  rw [hrest, List.drop_left]
  rfl

section Typed

variable {c : Console} {cmd : Command} {ok : Bool} {now : Str}

theorem decimal_colon (z : Int) : (58 : UInt8) ∉ decimal z := by
  intro h
  rcases mem_decimal h with h | h <;> revert h <;> decide

/-- The handler reads what the text says. -/
theorem runCommand_text {line : Str} (hf : cmd.Fits) (htrim : trim line = cmd.text) :
    c.runCommand ok now line = cmd.run ok now c := by
  rw [runCommand, htrim, if_neg (by simp [cmd.text_isEmpty])]
  cases cmd with
  | help => rfl
  | chat friendid message =>
    rw [Command.text, split_colon (by decide)]
    change chat ok now (decimal friendid ++ 58 :: message) c = _
    rw [chat, split_colon (decimal_colon friendid)]
    simp only [atoi_decimal hf.1 hf.2]
    rfl
  | addfriend friendid =>
    rw [Command.text, split_colon (by decide)]
    change addfriend ok (decimal friendid) c = _
    rw [addfriend, atoi_decimal hf.1 hf.2]
    rfl
  | creategroup groupname groupdesc =>
    rw [Command.text, split_colon (by decide)]
    change creategroup ok (groupname ++ 58 :: groupdesc) c = _
    rw [creategroup, split_colon hf]
    rfl
  | addgroup groupid =>
    rw [Command.text, split_colon (by decide)]
    change addgroup ok (decimal groupid) c = _
    rw [addgroup, atoi_decimal hf.1 hf.2]
    rfl
  | groupchat groupid message =>
    rw [Command.text, split_colon (by decide)]
    change groupchat ok now (decimal groupid ++ 58 :: message) c = _
    rw [groupchat, split_colon (decimal_colon groupid)]
    simp only [atoi_decimal hf.1 hf.2]
    rfl
  | loginout => rfl

/-- **A command is done as it is typed**: in the form that `help` shows, with blanks around it, on a
line of at most 1023 bytes. The rest of the input stays for the next turn. -/
theorem command_done (hrun : c.isMainMenuRunning = true) (hgood : c.cin.good = true)
    (hf : cmd.Fits) {before after rest : Str}
    (hin : c.cin.rest = before ++ (cmd.text ++ after) ++ 10 :: rest)
    (hlen : (before ++ (cmd.text ++ after)).length ≤ 1023)
    (hline : (10 : UInt8) ∉ before ++ (cmd.text ++ after))
    (hnul : (0 : UInt8) ∉ before ++ (cmd.text ++ after))
    (hb : ∀ b ∈ before, isBlank b = true) (ha : ∀ b ∈ after, isBlank b = true)
    (hlast : ∀ b ∈ cmd.text.getLast?, isBlank b = false) :
    c.mainMenuTurn ok now = cmd.run ok now { c with cin := { c.cin with rest } } := by
  have hhead : ∀ b ∈ cmd.text.head?, isBlank b = false := by
    intro b hb
    cases cmd <;> cases hb <;> rfl
  have hne : cmd.text ≠ [] := List.isEmpty_eq_false_iff.mp cmd.text_isEmpty
  rw [mainMenuTurn, if_pos hrun, getline_line hgood hin hline (by omega)]
  simp only [cstr_of_no_nul hnul]
  exact runCommand_text hf (trim_blanks hb ha hhead hlast hne)

/-- Blanks around the line, and a `:` in the message. -/
theorem command_done_ann : ({ annWrites with
      cin := { rest := txt " chat:2:see you at 8:15\t\nloginout\n" } } : Console).mainMenuTurn true
        (txt "noon") =
    (Command.chat 2 (txt "see you at 8:15")).run true (txt "noon")
      { annWrites with cin := { rest := txt "loginout\n" } } := by
  have hin : txt " chat:2:see you at 8:15\t\nloginout\n" = txt " " ++
      ((Command.chat 2 (txt "see you at 8:15")).text ++ txt "\t") ++ 10 :: txt "loginout\n" := rfl
  have hf : (Command.chat 2 (txt "see you at 8:15")).Fits := ⟨by decide, by decide⟩
  exact command_done rfl rfl hf hin (by decide +kernel) (by decide +kernel) (by decide +kernel)
    (by decide +kernel) (by decide +kernel) (by decide +kernel)

end Typed

end Console

end QtChat
