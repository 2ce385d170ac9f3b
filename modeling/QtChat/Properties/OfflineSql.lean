import QtChat.Server.SqlLexer

/-!
# The statement that stores a message

`OfflineMsgModel::insert` gives MySQL what `snprintf` leaves of its text in 2048 bytes. MySQL reads
one `INSERT` with the message as its literal (`lex_insertText`), or, when the text was cut, a text
that is no statement (`complete_cut`): behind the cut there is always the bracket of `values(` that
would have to be closed.
-/

namespace QtChat

/-- The tokens of a number. -/
def numberTokens (z : Int) : List Token :=
  if z < 0 then [.symbol 45, .word (digits z.natAbs)] else [.word (digits z.natAbs)]

/-- `insert into OfflineMessage values(`. -/
def insertHead : List Token :=
  [.word (txt "insert"), .word (txt "into"), .word (txt "OfflineMessage"), .word (txt "values"),
    .symbol 40]

/-- The statement that stores `msg` for the user. -/
def insertTokens (userid : Int) (msg : Str) : List Token :=
  insertHead ++ (numberTokens userid ++ [.symbol 44, .text msg, .symbol 41])

theorem run_insertHead :
    Lexer.run ⟨[], .between⟩ (txt "insert into OfflineMessage values(") =
      ⟨insertHead, .between⟩ := by
  decide +kernel

theorem isWordByte_of_isDigit {b : UInt8} (h : isDigit b = true) : isWordByte b = true := by
  simp only [isDigit, Bool.and_eq_true, decide_eq_true_eq] at h
  simp [isWordByte, h]

/-- Bytes of a word go on with the word. -/
theorem Lexer.run_word (ts : List Token) (w : Str) {s : Str}
    (h : ∀ b ∈ s, isWordByte b = true) :
    Lexer.run ⟨ts, .word w⟩ s = ⟨ts, .word (w ++ s)⟩ := by
  induction s generalizing w with
  | nil => simp [Lexer.run]
  | cons b s ih =>
    have hb : Lexer.step ⟨ts, .word w⟩ b = ⟨ts, .word (w ++ [b])⟩ := by
      simp [Lexer.step, h b (by simp)]
    rw [Lexer.run, List.foldl_cons, hb]
    exact (ih _ fun b hb => h b (by simp [hb])).trans (by simp)

/-- The first digit of a number, in a mode that a digit ends. -/
theorem Lexer.run_digits {ts us : List Token} {m : LexMode} (n : Nat)
    (h : ∀ b, isDigit b = true → Lexer.step ⟨ts, m⟩ b = ⟨us, .word [b]⟩) :
    Lexer.run ⟨ts, m⟩ (digits n) = ⟨us, .word (digits n)⟩ := by
  cases hd : digits n with
  | nil => exact absurd hd (digits_ne_nil n)
  | cons b s =>
    have hm : ∀ c ∈ b :: s, isDigit c = true := hd ▸ isDigit_of_mem_digits (n := n)
    rw [Lexer.run, List.foldl_cons, h b (hm b (by simp))]
    exact Lexer.run_word us [b] fun c hc => isWordByte_of_isDigit (hm c (by simp [hc]))

theorem isBlank_of_isDigit {b : UInt8} (h : isDigit b = true) : isBlank b = false := by
  simp only [isDigit, Bool.and_eq_true, decide_eq_true_eq, UInt8.le_iff_toNat_le] at h
  rw [isBlank, Bool.or_eq_false_iff]
  refine ⟨?_, ?_⟩
  · rw [decide_eq_false_iff_not]
    rintro rfl
    exact absurd h.1 (by decide)
  · rw [Bool.and_eq_false_iff]
    right
    rw [decide_eq_false_iff_not, UInt8.le_iff_toNat_le]
    have h1 : (48 : UInt8).toNat = 48 := rfl
    have h2 : (13 : UInt8).toNat = 13 := rfl
    omega

/-- A number and the comma and the quote behind it. -/
theorem Lexer.run_decimal (ts : List Token) (z : Int) :
    Lexer.run ⟨ts, .between⟩ (decimal z ++ txt ", '") =
      ⟨ts ++ (numberTokens z ++ [.symbol 44]), .literal 39 []⟩ := by
  have start : ∀ (us : List Token) (b : UInt8), isDigit b = true →
      Lexer.start us b = ⟨us, .word [b]⟩ := by
    intro us b hb
    simp [Lexer.start, isBlank_of_isDigit hb, isWordByte_of_isDigit hb]
  have behind : ∀ (us : List Token) (w : Str), Lexer.run ⟨us, .word w⟩ (txt ", '") =
      ⟨us ++ [.word w, .symbol 44], .literal 39 []⟩ := by
    intro us w
    have hq : txt ", '" = [44, 32, 39] := by decide
    simp [hq, Lexer.run, Lexer.step, Lexer.start, isBlank, isWordByte]
  rw [Lexer.run_append]
  by_cases hz : z < 0
  · have hd : Lexer.run ⟨ts, .between⟩ (decimal z) =
        ⟨ts ++ [.symbol 45], .word (digits z.natAbs)⟩ := by
      rw [decimal, if_pos hz]
      refine @Lexer.run_digits ts _ .dash z.natAbs fun b hb => ?_
      have h45 : b ≠ 45 := by rintro rfl; exact absurd hb (by decide)
      simp [Lexer.step, h45, start _ b hb]
    rw [hd, behind, numberTokens, if_pos hz]
    simp
  · have hd : Lexer.run ⟨ts, .between⟩ (decimal z) = ⟨ts, .word (digits z.natAbs)⟩ := by
      rw [decimal, if_neg hz]
      exact Lexer.run_digits z.natAbs fun b hb => start ts b hb
    rw [hd, behind, numberTokens, if_neg hz]
    simp

/-- **The whole text** is one `INSERT` with the message as its literal. -/
theorem lex_insertText (userid : Int) (msg : Str) :
    MySQL.lex (insertText userid (MySQL.escape msg)) = some (insertTokens userid msg) := by
  have hc : txt "')" = [39, 41] := by decide
  rw [MySQL.lex, insertText, Lexer.run_append, run_insertHead, ← List.append_assoc,
    Lexer.run_append, Lexer.run_decimal, Lexer.run_append, Lexer.run_escape, hc]
  simp [Lexer.run, Lexer.step, Lexer.start, Lexer.finish, LexMode.pending, isBlank, isWordByte,
    insertTokens]

theorem closed_insertTokens (userid : Int) (msg : Str) :
    closed 0 (insertTokens userid msg) = true := by
  unfold insertTokens numberTokens
  split <;> simp [insertHead, closed]

theorem complete_insertText (userid : Int) (msg : Str) :
    MySQL.complete (insertText userid (MySQL.escape msg)) = true := by
  have hne : (insertTokens userid msg).isEmpty = false := rfl
  simp only [MySQL.complete, lex_insertText, closed_insertTokens, hne, Bool.not_false,
    Bool.and_self]

/-- A number, the comma and the quote have no bracket. -/
theorem plain_decimal {z : Int} {b : UInt8} (h : b ∈ decimal z ++ txt ", '") : b ≠ 40 ∧ b ≠ 41 := by
  have hq : txt ", '" = [44, 32, 39] := by decide
  rw [hq] at h
  rcases List.mem_append.mp h with h | h
  · rcases mem_decimal h with rfl | h
    · decide
    · constructor <;> rintro rfl <;> exact absurd h (by decide)
  · simp only [List.mem_cons, List.not_mem_nil, or_false] at h
    rcases h with rfl | rfl | rfl <;> decide

/-- Up to the closing bracket the lexer has seen no other bracket than the one of `values(`. -/
theorem adds_insertText {userid : Int} {msg y : Str}
    (hy : y <+: decimal userid ++ txt ", '" ++ MySQL.escape msg ++ [39]) :
    Lexer.Adds insertHead (Lexer.run ⟨insertHead, .between⟩ y) := by
  have h0 : Lexer.Adds insertHead ⟨insertHead, .between⟩ := ⟨[], by simp, by simp⟩
  rw [List.append_assoc] at hy
  rcases List.prefix_or_prefix_of_prefix hy (List.prefix_append _ _) with hy | ⟨y, rfl⟩
  · -- cut in the number or right behind it
    exact h0.run fun b hb => plain_decimal (hy.subset hb)
  · rw [List.prefix_append_right_inj] at hy
    have h1 := h0.run fun b hb => plain_decimal (z := userid) hb
    rw [Lexer.run_append]
    rw [Lexer.run_decimal] at h1 ⊢
    rcases List.prefix_or_prefix_of_prefix hy (List.prefix_append _ _) with hy | ⟨y, rfl⟩
    · -- cut in the message
      obtain ⟨s, hs | hs⟩ := Lexer.run_escape_cut (s := []) hy
      · rw [hs]; exact h1.mode _
      · rw [hs]; exact h1.mode _
    · -- cut behind it or behind the closing quote
      rw [List.prefix_append_right_inj] at hy
      rw [Lexer.run_append, Lexer.run_escape]
      refine (h1.mode _).run fun b hb => ?_
      have := hy.subset hb
      rw [List.mem_singleton] at this
      subst this
      decide

/-- **A cut text is no statement**, wherever behind `values(` the cut is. -/
theorem complete_cut (userid : Int) (msg : Str) {n : Nat} (hn : 34 ≤ n)
    (hl : n < (insertText userid (MySQL.escape msg)).length) :
    MySQL.complete ((insertText userid (MySQL.escape msg)).take n) = false := by
  have hhead : (txt "insert into OfflineMessage values(").length = 34 := by decide
  have hc : txt "')" = [39] ++ [41] := by decide
  have htext : insertText userid (MySQL.escape msg) = txt "insert into OfflineMessage values(" ++
      (decimal userid ++ txt ", '" ++ MySQL.escape msg ++ [39] ++ [41]) := by
    simp [insertText, hc]
  rw [htext] at hl ⊢
  have hadds : ∀ y, y <+: decimal userid ++ txt ", '" ++ MySQL.escape msg ++ [39] →
      Lexer.Adds insertHead (Lexer.run ⟨insertHead, .between⟩ y) := fun y => adds_insertText
  generalize decimal userid ++ txt ", '" ++ MySQL.escape msg ++ [39] = body at hl hadds ⊢
  obtain ⟨k, rfl⟩ : ∃ k, n = 34 + k := ⟨n - 34, by omega⟩
  have hk : k ≤ body.length := by
    simp only [List.length_append, hhead, List.length_singleton] at hl
    omega
  rw [← hhead, List.take_length_add_append, List.take_append_of_le_length hk]
  rw [MySQL.complete, MySQL.lex, Lexer.run_append, run_insertHead]
  cases hf : (Lexer.run ⟨insertHead, .between⟩ (body.take k)).finish with
  | none => rfl
  | some ts =>
    obtain ⟨more, rfl, hp⟩ := (hadds _ (List.take_prefix k body)).finish hf
    have : closed 0 (insertHead ++ more) = closed 1 more := rfl
    simp only [this, closed_succ_plain hp 0, Bool.and_false]

/-- The database reads a row from the text exactly when the text is complete. -/
theorem readInsert_isSome_iff_complete (userid : Int) (msg : Str) :
    (MySQL.readInsert (OfflineMsgModel.insertSql userid msg)).isSome =
      MySQL.complete (OfflineMsgModel.insertSql userid msg) := by
  rw [OfflineMsgModel.insertSql, readInsert_snprintf, snprintf]
  split
  · rename_i h
    rw [List.take_of_length_le h, complete_insertText]
    rfl
  · rename_i h
    rw [complete_cut userid msg (by omega) (by omega)]
    rfl

/-- **The text that MySQL gets** from `OfflineMsgModel::insert`: the one `INSERT` of exactly this
message, or, when the text does not fit the buffer, its first 2047 bytes, which are no complete
statement. -/
theorem insertSql_statement (userid : Int) (msg : Str) :
    ((insertText userid (MySQL.escape msg)).length ≤ 2047 ∧
      OfflineMsgModel.insertSql userid msg = insertText userid (MySQL.escape msg) ∧
      MySQL.lex (OfflineMsgModel.insertSql userid msg) = some (insertTokens userid msg)) ∨
    (2047 < (insertText userid (MySQL.escape msg)).length ∧
      OfflineMsgModel.insertSql userid msg = (insertText userid (MySQL.escape msg)).take 2047 ∧
      MySQL.complete (OfflineMsgModel.insertSql userid msg) = false) := by
  unfold OfflineMsgModel.insertSql snprintf
  by_cases h : (insertText userid (MySQL.escape msg)).length ≤ 2047
  · left
    rw [List.take_of_length_le h]
    exact ⟨h, rfl, lex_insertText userid msg⟩
  · right
    exact ⟨by omega, rfl, complete_cut userid msg (by omega) (by omega)⟩

-- cut between a backslash and its quote
example : MySQL.complete (txt "insert into OfflineMessage values(7, 'it\\") = false := by
  decide +kernel

end QtChat
