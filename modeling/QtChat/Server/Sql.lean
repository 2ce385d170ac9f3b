import QtChat.Server.Text

/-!
# The text of SQL statements

`MySQL::escape` (`db.cpp`), the `sprintf` buffers of the model classes, and how MySQL reads the one
statement whose text can be cut: the `INSERT` of `OfflineMsgModel::insert`, which `snprintf` writes
into 2048 bytes.

- `readLiteral`, `readInsert`: MySQL's lexer on a string literal and on that statement; a text that
  is not the complete statement is a syntax error (`none`).
- `readInsert_insertText`: a statement that fits the buffer is read as exactly the user and the
  message it was built from, whatever the message.
- `readInsert_cut`: no proper cut of the statement is a complete statement.
-/

namespace QtChat

/-- One byte in `mysql_real_escape_string`. -/
def escapeByte (b : UInt8) : Str :=
  if b = 0 then [92, 48]
  else if b = 10 then [92, 110]
  else if b = 13 then [92, 114]
  else if b = 92 then [92, 92]
  else if b = 39 then [92, 39]
  else if b = 34 then [92, 34]
  else if b = 26 then [92, 90]
  else [b]

def mysql_real_escape_string (s : Str) : Str := s.flatMap escapeByte

/-- `MySQL::escape`: the escaped bytes, read back as a C string. -/
def MySQL.escape (s : Str) : Str := cstr (mysql_real_escape_string s)

/-- `sprintf` into a buffer of `size` bytes; `none`: it writes past the end. -/
def sprintf (size : Nat) (text : Str) : Option Str :=
  if text.length + 1 ≤ size then some text else none

/-- `snprintf` into a buffer of `size` bytes. -/
def snprintf (size : Nat) (text : Str) : Str := text.take (size - 1)

/-- The text after the fixed text `p`. -/
def skip (p s : Str) : Option Str := if p.isPrefixOf s then some (s.drop p.length) else none

/-- What a backslash and `c` stand for in a literal. -/
def unescapeByte (c : UInt8) : Str :=
  if c = 48 then [0]
  else if c = 110 then [10]
  else if c = 114 then [13]
  else if c = 90 then [26]
  else if c = 116 then [9]
  else if c = 98 then [8]
  else if c = 37 then [92, 37]
  else if c = 95 then [92, 95]
  else [c]

/-- A string literal after its opening quote: the string, and the text after the closing quote. A
backslash escapes the next byte, two quotes are one. -/
def readLiteral : Str → Option (Str × Str)
  | [] => none
  | 39 :: 39 :: s => (readLiteral s).map fun r => (39 :: r.1, r.2)
  | 39 :: s => some ([], s)
  | 92 :: c :: s => (readLiteral s).map fun r => (unescapeByte c ++ r.1, r.2)
  | [92] => none
  | b :: s => (readLiteral s).map fun r => (b :: r.1, r.2)

/-- The text that `OfflineMsgModel::insert` formats. -/
def insertText (userid : Int) (escaped : Str) : Str :=
  txt "insert into OfflineMessage values(" ++
    (decimal userid ++ (txt ", '" ++ (escaped ++ txt "')")))

/-- The `INSERT` into OfflineMessage as MySQL reads it; `none`: a syntax error. -/
def MySQL.readInsert (sql : Str) : Option (Int × Str) :=
  (skip (txt "insert into OfflineMessage values(") sql).bind fun s =>
  (readInt s).bind fun r =>
  (skip (txt ", '") r.2).bind fun s =>
  (readLiteral s).bind fun m => if m.2 = txt ")" then some (r.1, m.1) else none

example : MySQL.readInsert (txt "insert into OfflineMessage values(7, 'it\\'s')") =
    some (7, txt "it's") := by decide

example : MySQL.readInsert (txt "insert into OfflineMessage values(7, 'it\\'s'") = none := by
  decide

/-! ## Escaping -/

theorem escapeByte_cases (b : UInt8) :
    (∃ c, escapeByte b = [92, c] ∧ unescapeByte c = [b] ∧ c ≠ 0) ∨
      (escapeByte b = [b] ∧ b ≠ 0 ∧ b ≠ 39 ∧ b ≠ 92) := by
  unfold escapeByte
  repeat' split
  · left; subst b; exact ⟨48, rfl, by decide, by decide⟩
  · left; subst b; exact ⟨110, rfl, by decide, by decide⟩
  · left; subst b; exact ⟨114, rfl, by decide, by decide⟩
  · left; subst b; exact ⟨92, rfl, by decide, by decide⟩
  · left; subst b; exact ⟨39, rfl, by decide, by decide⟩
  · left; subst b; exact ⟨34, rfl, by decide, by decide⟩
  · left; subst b; exact ⟨90, rfl, by decide, by decide⟩
  · right; exact ⟨rfl, by assumption, by assumption, by assumption⟩

theorem no_nul_escape (s : Str) : (0 : UInt8) ∉ mysql_real_escape_string s := by
  intro h
  obtain ⟨b, -, hb⟩ := List.mem_flatMap.mp h
  rcases escapeByte_cases b with ⟨c, he, -, hc⟩ | ⟨he, h0, -⟩
  · rw [he] at hb
    simp only [List.mem_cons, List.not_mem_nil, or_false] at hb
    rcases hb with hb | hb
    · cases hb
    · exact hc hb.symm
  · rw [he, List.mem_singleton] at hb
    exact h0 hb.symm

/-- The escaped string has no NUL to stop at. -/
theorem MySQL.escape_eq (s : Str) : MySQL.escape s = mysql_real_escape_string s :=
  cstr_of_no_nul (no_nul_escape s)

theorem MySQL.escape_nil : MySQL.escape [] = [] := rfl

theorem MySQL.escape_cons (b : UInt8) (s : Str) :
    MySQL.escape (b :: s) = escapeByte b ++ MySQL.escape s := by
  simp only [MySQL.escape_eq, mysql_real_escape_string, List.flatMap_cons]

theorem length_le_escape (s : Str) : s.length ≤ (MySQL.escape s).length := by
  induction s with
  | nil => exact Nat.le_refl 0
  | cons b s ih =>
    rw [MySQL.escape_cons, List.length_append, List.length_cons]
    have : 1 ≤ (escapeByte b).length := by
      rcases escapeByte_cases b with ⟨c, he, -⟩ | ⟨he, -⟩ <;> simp [he]
    omega

/-! ## Reading -/

theorem skip_append (p s : Str) : skip p (p ++ s) = some s := by
  simp [skip]

theorem skip_some {p s r : Str} (h : skip p s = some r) : s = p ++ r := by
  unfold skip at h
  split at h
  · rename_i hp
    obtain ⟨t, rfl⟩ := List.isPrefixOf_iff_prefix.mp hp
    cases h
    simp
  · cases h

/-- A byte that is neither a quote nor a backslash stands for itself. -/
theorem readLiteral_plain {b : UInt8} (h1 : b ≠ 39) (h2 : b ≠ 92) (s : Str) :
    readLiteral (b :: s) = (readLiteral s).map fun r => (b :: r.1, r.2) := by
  rw [readLiteral.eq_def]
  split <;> simp_all

/-- **The lexer undoes the escaping**, up to a quote that is not doubled. -/
theorem readLiteral_escape (m : Str) {s : Str} (hs : s.head? ≠ some 39) :
    readLiteral (MySQL.escape m ++ 39 :: s) = some (m, s) := by
  induction m with
  | nil =>
    rw [MySQL.escape_nil, List.nil_append, readLiteral.eq_def]
    split <;> simp_all
  | cons b m ih =>
    rw [MySQL.escape_cons]
    rcases escapeByte_cases b with ⟨c, he, hc, -⟩ | ⟨he, -, h1, h2⟩
    · rw [he, List.append_assoc, List.cons_append, List.cons_append, List.nil_append, readLiteral,
        ih, hc]
      rfl
    · rw [he, List.append_assoc, List.cons_append, List.nil_append, readLiteral_plain h1 h2, ih]
      rfl

/-- A cut of a literal ends the literal only at its own closing quote. -/
theorem readLiteral_cut {m s y r : Str} {x : Str} (hp : y <+: MySQL.escape m ++ 39 :: s)
    (hs : s.head? ≠ some 39) (h : readLiteral y = some (x, r)) : y = MySQL.escape m ++ 39 :: r := by
  induction m generalizing y x with
  | nil =>
    rw [MySQL.escape_nil, List.nil_append] at hp ⊢
    cases y with
    | nil => cases h
    | cons b y =>
      obtain ⟨rfl, hy⟩ := List.cons_prefix_cons.mp hp
      rw [readLiteral.eq_def] at h
      split at h
      · simp_all
      · -- two quotes would need a quote after the closing one
        rename_i z heq
        cases heq
        obtain ⟨t, rfl⟩ := hy
        simp at hs
      · rename_i heq
        cases heq
        cases h
        rfl
      all_goals simp_all
  | cons b m ih =>
    rw [MySQL.escape_cons] at hp ⊢
    rcases escapeByte_cases b with ⟨c, he, -, -⟩ | ⟨he, -, h1, h2⟩
    · rw [he] at hp ⊢
      simp only [List.cons_append, List.nil_append] at hp ⊢
      match y, hp, h with
      | [], _, h => cases h
      | [d], hp, h =>
        obtain ⟨rfl, -⟩ := List.cons_prefix_cons.mp hp
        cases h
      | d :: e :: y, hp, h =>
        obtain ⟨rfl, hp₁⟩ := List.cons_prefix_cons.mp hp
        obtain ⟨rfl, hp'⟩ := List.cons_prefix_cons.mp hp₁
        rw [readLiteral] at h
        obtain ⟨⟨x', r'⟩, h', he⟩ := Option.map_eq_some_iff.mp h
        cases he
        rw [← ih hp' h']
    · rw [he] at hp ⊢
      simp only [List.cons_append, List.nil_append] at hp ⊢
      cases y with
      | nil => cases h
      | cons d y =>
        obtain ⟨rfl, hp'⟩ := List.cons_prefix_cons.mp hp
        rw [readLiteral_plain h1 h2] at h
        obtain ⟨⟨x', r'⟩, h', he⟩ := Option.map_eq_some_iff.mp h
        cases he
        rw [← ih hp' h']

/-- **A complete statement** is read as what it was built from. -/
theorem readInsert_insertText (u : Int) (m : Str) :
    MySQL.readInsert (insertText u (MySQL.escape m)) = some (u, m) := by
  have hq : txt ", '" = 44 :: [32, 39] := by decide
  have hr : txt "')" = 39 :: [41] := by decide
  unfold MySQL.readInsert insertText
  rw [skip_append, Option.bind_some, hq, List.cons_append,
    readInt_decimal u (by decide), Option.bind_some, ← List.cons_append, skip_append,
    Option.bind_some, hr, readLiteral_escape m (by decide), Option.bind_some]
  rfl

/-- What is read stands in the text as digits, a quote, a literal and the closing bracket. -/
theorem readInsert_some {sql : Str} {z : Int} {x : Str} (h : MySQL.readInsert sql = some (z, x)) :
    ∃ s r, sql = txt "insert into OfflineMessage values(" ++ s ∧
      readInt s = some (z, txt ", '" ++ r) ∧ readLiteral r = some (x, txt ")") := by
  unfold MySQL.readInsert at h
  obtain ⟨s, hs, h⟩ := Option.bind_eq_some_iff.mp h
  obtain ⟨⟨z', q⟩, hz, h⟩ := Option.bind_eq_some_iff.mp h
  obtain ⟨r, hr, h⟩ := Option.bind_eq_some_iff.mp h
  obtain ⟨⟨x', e⟩, hx, h⟩ := Option.bind_eq_some_iff.mp h
  split at h
  · rename_i he
    cases h
    simp only at he hr hz
    exact ⟨s, r, skip_some hs, by rw [hz, skip_some hr], by rw [hx, he]⟩
  · cases h

/-- **A cut statement is a syntax error**, wherever the cut is. -/
theorem readInsert_cut (u : Int) (m : Str) {n : Nat}
    (hn : n < (insertText u (MySQL.escape m)).length) :
    MySQL.readInsert ((insertText u (MySQL.escape m)).take n) = none := by
  rw [Option.eq_none_iff_forall_not_mem]
  rintro ⟨z, x⟩ h
  obtain ⟨s, r, hs, hz, hr⟩ := readInsert_some h
  have hq : txt ", '" = 44 :: [32, 39] := by decide
  have hc : txt "')" = 39 :: txt ")" := by decide
  have hp : s <+: decimal u ++ (txt ", '" ++ (MySQL.escape m ++ txt "')")) := by
    have := List.take_prefix n (insertText u (MySQL.escape m))
    rw [hs, insertText] at this
    exact (List.prefix_append_right_inj _).mp this
  rw [hq, List.cons_append] at hp hz
  obtain ⟨-, rfl⟩ := readInt_cut hp hz
  have hp' : r <+: MySQL.escape m ++ 39 :: txt ")" := by
    rw [hc] at hp
    exact (List.prefix_append_right_inj _).mp
      (List.cons_prefix_cons.mp ((List.prefix_append_right_inj _).mp hp)).2
  -- the literal ends where the whole statement ends
  have hr' := readLiteral_cut hp' (by decide) hr
  have hl := congrArg List.length hs
  rw [List.length_take, hr', ← hc, ← List.cons_append, ← hq] at hl
  have : (insertText u (MySQL.escape m)).length = (txt "insert into OfflineMessage values(" ++
      (decimal u ++ (txt ", '" ++ (MySQL.escape m ++ txt "')")))).length := rfl
  omega

/-- **The statement that MySQL gets** from `OfflineMsgModel::insert`: the row if the whole text fits
the buffer of `size` bytes, a syntax error if not. -/
theorem readInsert_snprintf (size : Nat) (u : Int) (m : Str) :
    MySQL.readInsert (snprintf size (insertText u (MySQL.escape m))) =
      if (insertText u (MySQL.escape m)).length ≤ size - 1 then some (u, m) else none := by
  unfold snprintf
  split
  · rename_i h
    rw [List.take_of_length_le h, readInsert_insertText]
  · rename_i h
    exact readInsert_cut u m (by omega)

end QtChat
