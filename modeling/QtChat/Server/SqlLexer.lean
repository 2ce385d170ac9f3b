import QtChat.Server.Model

/-!
# How MySQL reads the text of a statement

The lexer as one step a byte, from left to right, so that what it makes of a text that was cut is
the state it is in at the cut.

- `MySQL.lex`: the tokens of a text; `none`: it ends in a string literal or in a comment.
- `closed`: the brackets of a token list match.
- `MySQL.complete`: what every statement of MySQL's grammar is at least: a text with tokens and with
  matching brackets.
-/

namespace QtChat

inductive Token where
  /-- A keyword, a name or a number. -/
  | word (s : Str)
  /-- A string literal, decoded. -/
  | text (s : Str)
  | symbol (b : UInt8)
  deriving DecidableEq

/-- Where the lexer is in the text. -/
inductive LexMode where
  | between
  | word (w : Str)
  /-- In a literal that the byte `q` opened. -/
  | literal (q : UInt8) (s : Str)
  | backslash (q : UInt8) (s : Str)
  /-- Behind a `q` in the literal: its end, or the first of two. -/
  | quote (q : UInt8) (s : Str)
  | dash
  | dashes
  | slash
  | lineComment
  | comment
  | star
  deriving DecidableEq

/-- The tokens that the end of the text ends; `none`: it ends in a literal or in a comment. -/
def LexMode.pending : LexMode → Option (List Token)
  | .between => some []
  | .word w => some [.word w]
  | .quote _ s => some [.text s]
  | .dash => some [.symbol 45]
  | .dashes => some [.symbol 45, .symbol 45]
  | .slash => some [.symbol 47]
  | .lineComment => some []
  | .literal .. => none
  | .backslash .. => none
  | .comment => none
  | .star => none

structure Lexer where
  tokens : List Token
  mode : LexMode
  deriving DecidableEq

def isBlank (b : UInt8) : Bool := b = 32 || (9 ≤ b && b ≤ 13)

/-- A byte of keywords, names and numbers; from 128 on, of UTF-8. -/
def isWordByte (b : UInt8) : Bool :=
  (48 ≤ b && b ≤ 57) || (65 ≤ b && b ≤ 90) || (97 ≤ b && b ≤ 122) || b = 95 || b = 36 || 128 ≤ b

namespace Lexer

/-- The byte `b` after the tokens `ts`. -/
def start (ts : List Token) (b : UInt8) : Lexer :=
  if isBlank b then ⟨ts, .between⟩
  else if isWordByte b then ⟨ts, .word [b]⟩
  else if b = 39 || b = 34 then ⟨ts, .literal b []⟩
  else if b = 35 then ⟨ts, .lineComment⟩
  else if b = 45 then ⟨ts, .dash⟩
  else if b = 47 then ⟨ts, .slash⟩
  else ⟨ts ++ [.symbol b], .between⟩

def step (l : Lexer) (b : UInt8) : Lexer :=
  match l.mode with
  | .between => start l.tokens b
  | .word w => if isWordByte b then { l with mode := .word (w ++ [b]) }
    else start (l.tokens ++ [.word w]) b
  | .literal q s => if b = q then { l with mode := .quote q s }
    else if b = 92 then { l with mode := .backslash q s }
    else { l with mode := .literal q (s ++ [b]) }
  | .backslash q s => { l with mode := .literal q (s ++ unescapeByte b) }
  | .quote q s => if b = q then { l with mode := .literal q (s ++ [q]) }
    else start (l.tokens ++ [.text s]) b
  | .dash => if b = 45 then { l with mode := .dashes } else start (l.tokens ++ [.symbol 45]) b
  | .dashes =>
    -- two dashes open a comment only with a blank behind them
    if isBlank b then { l with mode := if b = 10 then .between else .lineComment }
    else if b = 45 then ⟨l.tokens ++ [.symbol 45], .dashes⟩
    else start (l.tokens ++ [.symbol 45, .symbol 45]) b
  | .slash => if b = 42 then { l with mode := .comment } else start (l.tokens ++ [.symbol 47]) b
  | .lineComment => if b = 10 then { l with mode := .between } else l
  | .comment => if b = 42 then { l with mode := .star } else l
  | .star => if b = 47 then { l with mode := .between }
    else if b = 42 then l else { l with mode := .comment }

/-- The tokens when the text ends here. -/
def finish (l : Lexer) : Option (List Token) := l.mode.pending.map (l.tokens ++ ·)

def run (l : Lexer) (s : Str) : Lexer := s.foldl step l

theorem run_append (l : Lexer) (s t : Str) : l.run (s ++ t) = (l.run s).run t :=
  List.foldl_append

end Lexer

/-- `n` brackets are open, and the tokens close them and all of their own. -/
def closed : Nat → List Token → Bool
  | n, [] => n = 0
  | n, .symbol 40 :: ts => closed (n + 1) ts
  | 0, .symbol 41 :: _ => false
  | n + 1, .symbol 41 :: ts => closed n ts
  | n, _ :: ts => closed n ts

namespace MySQL

def lex (sql : Str) : Option (List Token) := (Lexer.run ⟨[], .between⟩ sql).finish

def complete (sql : Str) : Bool :=
  match lex sql with
  | none => false
  | some ts => !ts.isEmpty && closed 0 ts

end MySQL

example : MySQL.lex (txt "select 'it''s' -- x\n, \"\\n\"/* ' */;") =
    some [.word (txt "select"), .text (txt "it's"), .symbol 44, .text [10], .symbol 59] := by
  decide +kernel

/-! ## Brackets that stay open -/

/-- The token is no bracket. -/
def Token.plain (t : Token) : Prop := t ≠ .symbol 40 ∧ t ≠ .symbol 41

theorem closed_succ_plain {ts : List Token} (h : ∀ t ∈ ts, t.plain) (n : Nat) :
    closed (n + 1) ts = false := by
  induction ts with
  | nil => simp [closed]
  | cons t ts ih =>
    obtain ⟨h1, h2⟩ := h t (by simp)
    have ht := ih fun t ht => h t (by simp [ht])
    rw [closed.eq_def]
    split <;> simp_all

/-- The tokens so far are `ts` and plain ones. -/
def Lexer.Adds (ts : List Token) (l : Lexer) : Prop :=
  ∃ more, l.tokens = ts ++ more ∧ ∀ t ∈ more, t.plain

section Adds

variable {ts : List Token} {l : Lexer}

theorem Lexer.Adds.add {m : LexMode} (h : Lexer.Adds ts l) {new : List Token}
    (hn : ∀ t ∈ new, t.plain) : Lexer.Adds ts ⟨l.tokens ++ new, m⟩ := by
  obtain ⟨more, hm, hp⟩ := h
  refine ⟨more ++ new, by simp [hm], fun t ht => ?_⟩
  rcases List.mem_append.mp ht with ht | ht
  · exact hp t ht
  · exact hn t ht

/-- The same tokens in another mode. -/
theorem Lexer.Adds.mode (h : Lexer.Adds ts l) (m : LexMode) : Lexer.Adds ts ⟨l.tokens, m⟩ := h

theorem Lexer.Adds.start {b : UInt8} (h : Lexer.Adds ts l) (h1 : b ≠ 40) (h2 : b ≠ 41) :
    Lexer.Adds ts (Lexer.start l.tokens b) := by
  unfold Lexer.start
  repeat' split
  all_goals first
    | exact h.mode _
    | exact h.add (by simp [Token.plain, h1, h2])

/-- A byte that is no bracket adds no bracket, whatever the lexer is in. -/
theorem Lexer.Adds.step {b : UInt8} (h : Lexer.Adds ts l) (h1 : b ≠ 40) (h2 : b ≠ 41) :
    Lexer.Adds ts (l.step b) := by
  have hs : ∀ new : List Token, (∀ t ∈ new, t.plain) →
      Lexer.Adds ts (Lexer.start (l.tokens ++ new) b) := fun new hn =>
    (h.add (m := .between) hn).start h1 h2
  unfold Lexer.step
  split
  · exact h.start h1 h2
  all_goals (repeat' split)
  all_goals first
    | exact h
    | exact h.mode _
    | exact h.add (by simp [Token.plain])
    | exact hs _ (by simp [Token.plain])

theorem Lexer.Adds.run {s : Str} (h : Lexer.Adds ts l) (hs : ∀ b ∈ s, b ≠ 40 ∧ b ≠ 41) :
    Lexer.Adds ts (l.run s) := by
  induction s generalizing l with
  | nil => exact h
  | cons b s ih =>
    obtain ⟨h1, h2⟩ := hs b (by simp)
    exact ih (h.step h1 h2) fun b hb => hs b (by simp [hb])

theorem LexMode.pending_plain {m : LexMode} {ts : List Token} (h : m.pending = some ts) :
    ∀ t ∈ ts, t.plain := by
  cases m <;> cases h <;> simp [Token.plain]

theorem Lexer.Adds.finish {us : List Token} (h : Lexer.Adds ts l) (hf : l.finish = some us) :
    ∃ more, us = ts ++ more ∧ ∀ t ∈ more, t.plain := by
  obtain ⟨new, hn, rfl⟩ := Option.map_eq_some_iff.mp hf
  exact h.add (m := .between) (LexMode.pending_plain hn)

end Adds

/-! ## Escaped text in a literal -/

/-- **The lexer in a literal undoes the escaping.** -/
theorem Lexer.run_escape (ts : List Token) (s m : Str) :
    Lexer.run ⟨ts, .literal 39 s⟩ (MySQL.escape m) = ⟨ts, .literal 39 (s ++ m)⟩ := by
  induction m generalizing s with
  | nil => simp [MySQL.escape_nil, Lexer.run]
  | cons b m ih =>
    rw [MySQL.escape_cons, Lexer.run_append]
    have hb : Lexer.run ⟨ts, .literal 39 s⟩ (escapeByte b) = ⟨ts, .literal 39 (s ++ [b])⟩ := by
      rcases escapeByte_cases b with ⟨c, he, hc, -⟩ | ⟨he, -, h1, h2⟩
      · rw [he, ← hc]
        rfl
      · rw [he]
        simp [Lexer.run, Lexer.step, h1, h2]
    rw [hb, ih]
    simp

/-- Wherever the escaped text is cut, the lexer is still in the literal. -/
theorem Lexer.run_escape_cut {ts : List Token} {s m y : Str} (hy : y <+: MySQL.escape m) :
    ∃ s', Lexer.run ⟨ts, .literal 39 s⟩ y = ⟨ts, .literal 39 s'⟩ ∨
      Lexer.run ⟨ts, .literal 39 s⟩ y = ⟨ts, .backslash 39 s'⟩ := by
  induction m generalizing s y with
  | nil =>
    rw [MySQL.escape_nil, List.prefix_nil] at hy
    exact ⟨s, .inl (by rw [hy]; rfl)⟩
  | cons b m ih =>
    rw [MySQL.escape_cons] at hy
    rcases escapeByte_cases b with ⟨c, he, -, -⟩ | ⟨he, -, h1, h2⟩
    · rw [he, List.cons_append, List.cons_append, List.nil_append] at hy
      match y, hy with
      | [], _ => exact ⟨s, .inl rfl⟩
      | [d], hy =>
        -- the cut is between the backslash and its byte
        obtain ⟨rfl, -⟩ := List.cons_prefix_cons.mp hy
        exact ⟨s, .inr rfl⟩
      | d :: e :: y, hy =>
        obtain ⟨rfl, hy₁⟩ := List.cons_prefix_cons.mp hy
        obtain ⟨rfl, hy₂⟩ := List.cons_prefix_cons.mp hy₁
        exact ih (s := s ++ unescapeByte e) hy₂
    · rw [he, List.cons_append, List.nil_append] at hy
      match y, hy with
      | [], _ => exact ⟨s, .inl rfl⟩
      | d :: y, hy =>
        obtain ⟨rfl, hy₁⟩ := List.cons_prefix_cons.mp hy
        have hd : Lexer.step ⟨ts, .literal 39 s⟩ d = ⟨ts, .literal 39 (s ++ [d])⟩ := by
          simp [Lexer.step, h1, h2]
        obtain ⟨s', hs⟩ := ih (s := s ++ [d]) hy₁
        refine ⟨s', ?_⟩
        rw [Lexer.run, List.foldl_cons, hd]
        exact hs

end QtChat
