import QtChat.Json.Lexer

/-!
# What the lexer reads

- Strings: a literal stands for a UTF-8 string (`scanString_utf8`), and the literal that `dump`
  writes for a UTF-8 string is read as that string (`scanString_dump`).
- Numbers: integers of 64 bits and the texts of floats are read back, whatever follows that cannot
  go on with the number (`scanNumber_decimal`, `scanNumber_float`).
- Tokens: each takes at least one byte (`scan_length`) and has a value of its type (`scan_valid`).
-/

namespace QtChat

namespace Nlohmann

open Utf8State

/-! ## Strings -/

/-- The ranges that are left to check in a state of the decoder. -/
def pending : Utf8State → List (UInt8 × UInt8)
  | .accept | .reject => []
  | .tail1 => [(0x80, 0xBF)]
  | .tail2 => [(0x80, 0xBF), (0x80, 0xBF)]
  | .tail3 => [(0x80, 0xBF), (0x80, 0xBF), (0x80, 0xBF)]
  | .afterE0 => [(0xA0, 0xBF), (0x80, 0xBF)]
  | .afterED => [(0x80, 0x9F), (0x80, 0xBF)]
  | .afterF0 => [(0x90, 0xBF), (0x80, 0xBF), (0x80, 0xBF)]
  | .afterF4 => [(0x80, 0x8F), (0x80, 0xBF), (0x80, 0xBF)]

/-- In the middle of a character: one range for the next byte. -/
theorem pending_cons {q : Utf8State} {low high : UInt8} {ranges : List (UInt8 × UInt8)}
    (h : pending q = (low, high) :: ranges) : 0x80 ≤ low ∧
      ∃ q', q' ≠ .reject ∧ pending q' = ranges ∧ ∀ b, decode q b = within low high b q' := by
  cases q with
  | accept | reject => cases h
  | tail1 => cases h; exact ⟨by decide, .accept, by decide, rfl, fun _ => rfl⟩
  | tail2 | afterE0 | afterED => cases h; exact ⟨by decide, .tail1, by decide, rfl, fun _ => rfl⟩
  | tail3 | afterF0 | afterF4 => cases h; exact ⟨by decide, .tail2, by decide, rfl, fun _ => rfl⟩

theorem pending_nil {q : Utf8State} (h : pending q = []) (hq : q ≠ .reject) : q = .accept := by
  cases q <;> first | rfl | exact absurd rfl hq | cases h

/-- The first byte of a character of several bytes. -/
theorem followRanges_eq {b : UInt8} (hb : ¬b ≤ 0x7F) :
    followRanges b = if decode .accept b = .reject then none else some (pending (decode .accept b)) := by
  unfold followRanges
  simp only [decode, if_neg hb]
  split_ifs <;> simp_all [pending]

/-- The bytes of a code point that is no surrogate are UTF-8. -/
theorem decode_codepointBytes {c : Nat} (hc : c ≤ 0x10FFFF) (hs : ¬(0xD800 ≤ c ∧ c ≤ 0xDFFF)) :
    (codepointBytes c).foldl decode .accept = .accept := by
  have htail : ∀ x < 64, ∀ n ∈ [Utf8State.accept, .tail1, .tail2],
      within 0x80 0xBF (0x80 ||| x).toUInt8 n = n := by decide +kernel
  have hmod : ∀ n : Nat, n &&& 0x3F = n % 64 := fun n => Nat.and_two_pow_sub_one_eq_mod n 6
  have hdiv : ∀ n k : Nat, n >>> k = n / 2 ^ k := fun n k => Nat.shiftRight_eq_div_pow n k
  unfold codepointBytes
  split
  · rename_i h
    have : ∀ x < 0x80, [x.toUInt8].foldl decode .accept = .accept := by decide +kernel
    exact this c h
  · simp only [hmod, hdiv]
    split
    · have hlead : ∀ x < 32, 2 ≤ x → decode .accept (0xC0 ||| x).toUInt8 = .tail1 := by decide +kernel
      simp only [List.foldl_cons, List.foldl_nil]
      rw [hlead _ (by omega) (by omega)]
      exact htail _ (Nat.mod_lt _ (by decide)) _ (by simp)
    · split
      · have hlead : ∀ x < 16, ∀ y < 64, (x = 0 → 32 ≤ y) → (x = 13 → y < 32) →
            decode (decode .accept (0xE0 ||| x).toUInt8) (0x80 ||| y).toUInt8 = .tail1 := by
          decide +kernel
        simp only [List.foldl_cons, List.foldl_nil]
        rw [hlead _ (by omega) _ (by omega) (by omega) (by omega)]
        exact htail _ (Nat.mod_lt _ (by decide)) _ (by simp)
      · have hlead : ∀ x < 5, ∀ y < 64, (x = 0 → 16 ≤ y) → (x = 4 → y < 16) →
            decode (decode .accept (0xF0 ||| x).toUInt8) (0x80 ||| y).toUInt8 = .tail2 := by
          decide +kernel
        simp only [List.foldl_cons, List.foldl_nil]
        rw [hlead _ (by omega) _ (by omega) (by omega) (by omega)]
        have h2 : decode .tail2 (0x80 ||| c / 2 ^ 6 % 64).toUInt8 = .tail1 :=
          htail _ (Nat.mod_lt _ (by decide)) _ (by simp)
        rw [h2]
        exact htail _ (Nat.mod_lt _ (by decide)) _ (by simp)

theorem getCodepoint_lt {a b c d : UInt8} {n : Nat} (h : getCodepoint a b c d = some n) :
    n ≤ 0xFFFF := by
  have hx : ∀ {b : UInt8} {n : Nat}, hexValue b = some n → n < 16 := by
    intro b n h
    unfold hexValue at h
    have := b.toNat_lt
    split_ifs at h with h1 h2 h3 <;> cases h
    all_goals simp only [UInt8.le_iff_toNat_le] at *
    · have := h1.2; simp at this; omega
    · have := h2.2; simp at this; omega
    · have := h3.2; simp at this; omega
  simp only [getCodepoint, Option.bind_eq_bind, Option.bind_eq_some_iff] at h
  obtain ⟨a', ha, b', hb, c', hc, d', hd, h⟩ := h
  cases h
  have := hx ha
  have := hx hb
  have := hx hc
  have := hx hd
  simp only [Nat.shiftLeft_eq]
  omega

/-- A surrogate pair is a code point beyond the first plane. -/
theorem surrogate_pair {a b : Nat} (ha : 0xD800 ≤ a ∧ a ≤ 0xDBFF) (hb : 0xDC00 ≤ b ∧ b ≤ 0xDFFF) :
    0x10000 ≤ a <<< 10 + b - 0x35FDC00 ∧ a <<< 10 + b - 0x35FDC00 ≤ 0x10FFFF := by
  rw [Nat.shiftLeft_eq]
  omega

theorem escaped_ascii {b c : UInt8} (h : escaped b = some c) : c ≤ 0x7F := by
  unfold escaped at h
  split_ifs at h <;> cases h <;> decide

/-- **What a string literal stands for is UTF-8.** -/
theorem scanString_utf8 {ranges : List (UInt8 × UInt8)} {s t r : Str}
    (h : scanString ranges s = some (t, r)) {q : Utf8State} (hq : pending q = ranges)
    (hne : q ≠ .reject) : t.foldl decode q = .accept ∧ r.length < s.length := by
  fun_induction scanString ranges s generalizing t q with
  | case1 => cases h
  | case2 low high ranges b s hb ih =>
    obtain ⟨⟨t', r'⟩, h', he⟩ := Option.map_eq_some_iff.mp h
    cases he
    obtain ⟨-, q', hq', hp, hd⟩ := pending_cons hq
    obtain ⟨hf, hl⟩ := ih h' hp hq'
    rw [List.foldl_cons, hd, within, if_pos hb]
    exact ⟨hf, Nat.lt_succ_of_lt hl⟩
  | case3 => cases h
  | case4 s =>
    cases h
    exact ⟨pending_nil hq hne, Nat.lt_succ_self _⟩
  | case8 h₁ h₂ h₃ h₄ cp1 hc1 hhigh c u g₁ g₂ g₃ g₄ s hu cp2 hc2 hlow _ ih =>
    obtain ⟨⟨t', r'⟩, h', he⟩ := Option.map_eq_some_iff.mp h
    obtain ⟨rfl, rfl⟩ := Prod.mk.inj he
    obtain ⟨hf, hl⟩ := ih h' (q := .accept) rfl (by decide)
    dsimp only at hl ⊢
    have hpair := surrogate_pair hhigh hlow
    rw [List.foldl_append, pending_nil hq hne, decode_codepointBytes hpair.2 (by omega)]
    exact ⟨hf, by simp only [List.length_cons] at hl ⊢; omega⟩
  | case13 h₁ h₂ h₃ h₄ s cp hc hhigh hlow _ ih =>
    obtain ⟨⟨t', r'⟩, h', he⟩ := Option.map_eq_some_iff.mp h
    cases he
    obtain ⟨hf, hl⟩ := ih h' (q := .accept) rfl (by decide)
    dsimp only at hl ⊢
    have := getCodepoint_lt hc
    rw [List.foldl_append, pending_nil hq hne, decode_codepointBytes (by omega) (by omega)]
    exact ⟨hf, by simp only [List.length_cons] at hl ⊢; omega⟩
  | case16 e s _ c hc _ ih =>
    obtain ⟨⟨t', r'⟩, h', he⟩ := Option.map_eq_some_iff.mp h
    cases he
    obtain ⟨hf, hl⟩ := ih h' (q := .accept) rfl (by decide)
    dsimp only at hl ⊢
    rw [List.foldl_cons, pending_nil hq hne, decode_ascii (escaped_ascii hc)]
    exact ⟨hf, by simp only [List.length_cons] at hl ⊢; omega⟩
  | case18 b s _ _ _ hb ih =>
    obtain ⟨⟨t', r'⟩, h', he⟩ := Option.map_eq_some_iff.mp h
    cases he
    obtain ⟨hf, hl⟩ := ih h' (q := .accept) rfl (by decide)
    dsimp only at hl ⊢
    rw [List.foldl_cons, pending_nil hq hne, decode_ascii hb]
    exact ⟨hf, Nat.lt_succ_of_lt hl⟩
  | case20 b s _ _ _ hb ranges hr ih =>
    obtain ⟨⟨t', r'⟩, h', he⟩ := Option.map_eq_some_iff.mp h
    cases he
    rw [followRanges_eq hb] at hr
    split at hr
    · cases hr
    · rename_i hd
      obtain ⟨hf, hl⟩ := ih h' (Option.some.inj hr) hd
      rw [List.foldl_cons, pending_nil hq hne]
      exact ⟨hf, Nat.lt_succ_of_lt hl⟩
  | _ => cases h

/-- The escape of a byte. -/
theorem scanString_escape {e c : UInt8} (h : escaped e = some c) (he : e ≠ 117) (s : Str) :
    scanString [] (92 :: e :: s) = (scanString [] s).map fun r => (c :: r.1, r.2) := by
  rw [scanString.eq_def]
  simp [he, h]

/-- The four digits of a control character. -/
theorem control_escape : ∀ n < 32, getCodepoint 48 48 (Json.hexDigit (n.toUInt8 / 16))
    (Json.hexDigit (n.toUInt8 % 16)) = some n ∧ codepointBytes n = [n.toUInt8] := by
  decide +kernel

/-- A control character, and what else `dump` escapes. -/
theorem scanString_dumpByte {b : UInt8} (hb : b ≤ 0x7F) (s : Str) :
    scanString [] (Json.dumpByte b ++ s) = (scanString [] s).map fun r => (b :: r.1, r.2) := by
  unfold Json.dumpByte
  split_ifs with h8 h9 h10 h12 h13 h34 h92 hctl
  · rw [h8]; exact scanString_escape rfl (by decide) s
  · rw [h9]; exact scanString_escape rfl (by decide) s
  · rw [h10]; exact scanString_escape rfl (by decide) s
  · rw [h12]; exact scanString_escape rfl (by decide) s
  · rw [h13]; exact scanString_escape rfl (by decide) s
  · rw [h34]; exact scanString_escape rfl (by decide) s
  · rw [h92]; exact scanString_escape rfl (by decide) s
  · have hctl : b.toNat < 32 := Nat.lt_succ_of_le hctl
    obtain ⟨hcp, hbytes⟩ := control_escape b.toNat hctl
    have hb' : b.toNat.toUInt8 = b := UInt8.ofNat_toNat
    rw [hb'] at hcp hbytes
    have hu : txt "\\u00" = [92, 117, 48, 48] := by decide
    have hhigh : ¬(0xD800 ≤ b.toNat ∧ b.toNat ≤ 0xDBFF) := by omega
    have hlow : ¬(0xDC00 ≤ b.toNat ∧ b.toNat ≤ 0xDFFF) := by omega
    rw [hu, scanString.eq_def]
    simp [hcp, hbytes, hhigh, hlow]
  · rw [List.cons_append, List.nil_append, scanString.eq_def]
    simp only [h34, h92, hctl, hb, if_false, if_true]

/-- **A string is read back from its dump**, from the middle of a character on. -/
theorem scanString_dump {t : Str} {q : Utf8State} (h : t.foldl decode q = .accept) (r : Str) :
    scanString (pending q) (t.flatMap Json.dumpByte ++ 34 :: r) = some (t, r) := by
  induction t generalizing q with
  | nil =>
    rw [show q = .accept from h, List.flatMap_nil, List.nil_append, scanString.eq_def]
    rfl
  | cons b t ih =>
    rw [List.foldl_cons] at h
    have hd : decode q b ≠ .reject := by
      intro e
      rw [e, foldl_reject] at h
      cases h
    have hne : q ≠ .reject := by
      rintro rfl
      exact hd rfl
    rw [List.flatMap_cons, List.append_assoc]
    cases hp : pending q with
    | nil =>
      have hq := pending_nil hp hne
      subst hq
      by_cases hb : b ≤ 0x7F
      · rw [scanString_dumpByte hb]
        rw [decode_ascii hb] at h
        rw [show scanString [] _ = some (t, r) from ih h]
        rfl
      · rw [dumpByte_high hb, List.cons_append, List.nil_append, scanString.eq_def]
        have h34 : b ≠ 34 := by rintro rfl; exact hb (by decide)
        have h92 : b ≠ 92 := by rintro rfl; exact hb (by decide)
        have h31 : ¬b ≤ 0x1F := fun h => hb (UInt8.le_trans h (by decide))
        simp only [h34, h92, h31, hb, if_false, followRanges_eq hb, if_neg hd]
        rw [ih h]
        rfl
    | cons range ranges =>
      obtain ⟨low, high⟩ := range
      obtain ⟨hlow, q', hq', hp', hdec⟩ := pending_cons hp
      rw [hdec, within] at hd h
      split at h
      · rename_i hb
        have hhigh : ¬b ≤ 0x7F := by
          intro h'
          exact absurd (UInt8.le_trans hlow (UInt8.le_trans hb.1 h')) (by decide)
        rw [dumpByte_high hhigh, List.cons_append, List.nil_append, scanString.eq_def]
        simp only [hb, and_self, if_true]
        rw [← hp', ih h]
        rfl
      · rename_i hb
        exact absurd (if_neg hb) hd

/-! ## Numbers -/

/-- No byte of a number comes first. -/
def Delimited (r : Str) : Prop :=
  ∀ b ∈ r.head?, isDigit b = false ∧ b ≠ 46 ∧ b ≠ 101 ∧ b ≠ 69

theorem delimited_nil : Delimited [] := by
  intro b hb
  cases hb

theorem delimited_cons {b : UInt8} (r : Str)
    (h : isDigit b = false ∧ b ≠ 46 ∧ b ≠ 101 ∧ b ≠ 69) : Delimited (b :: r) := by
  intro c hc
  cases hc
  exact h

theorem next_delimiter {q : NumberState} {b : UInt8} (hq : q.final = true)
    (h : isDigit b = false ∧ b ≠ 46 ∧ b ≠ 101 ∧ b ≠ 69) : q.next b = none := by
  obtain ⟨hd, h46, h101, h69⟩ := h
  cases q with
  | minus | decimal1 | exponent | sign => cases hq
  | _ => simp [NumberState.next, hd, h46, h101, h69]

/-- A number that is read to the end of a text is read in front of what cannot go on with it. -/
theorem scanDigits_append {q : NumberState} {type type' : NumberType} {s r : Str}
    (h : scanDigits q type s = some (s, type', [])) (hr : Delimited r) :
    scanDigits q type (s ++ r) = some (s, type', r) := by
  induction s generalizing q type with
  | nil =>
    rw [scanDigits] at h
    split at h
    · rename_i hq
      cases h
      cases r with
      | nil => rw [List.append_nil, scanDigits, if_pos hq]
      | cons b r => rw [List.nil_append, scanDigits, next_delimiter hq (hr b rfl)]; exact if_pos hq
    · cases h
  | cons b s ih =>
    rw [scanDigits] at h
    rw [List.cons_append, scanDigits]
    split at h
    · rename_i q' hq'
      obtain ⟨⟨t, ty, r'⟩, h', he⟩ := Option.map_eq_some_iff.mp h
      simp only [Prod.mk.injEq, List.cons.injEq, true_and] at he
      obtain ⟨rfl, rfl, rfl⟩ := he
      rw [ih h']
      rfl
    · split at h
      · cases h
      · cases h

/-- A run of digits. -/
theorem scanDigits_any1 {s : Str} (h : ∀ b ∈ s, isDigit b = true) (type : NumberType) :
    scanDigits .any1 type s = some (s, type, []) := by
  induction s with
  | nil => rfl
  | cons b s ih =>
    rw [scanDigits, show NumberState.any1.next b = some .any1 by simp [NumberState.next, h b]]
    dsimp only [NumberType.at]
    rw [ih fun c hc => h c (List.mem_cons_of_mem b hc)]
    rfl

theorem digitsAux_head {fuel n : Nat} (hn : n < fuel) (acc : Str) (h0 : n ≠ 0) :
    ∃ d ds, digitsAux fuel n acc = digit d :: ds ∧ d ≠ 0 ∧ d < 10 := by
  induction fuel generalizing n acc with
  | zero => omega
  | succ fuel ih =>
    rw [digitsAux]
    split
    · rename_i h10
      exact ⟨n, acc, rfl, h0, h10⟩
    · exact ih (by omega) _ (by omega)

/-- The digits of a number begin with 0 only if it is 0. -/
theorem digits_head (n : Nat) :
    n = 0 ∧ digits n = [48] ∨ ∃ b s, digits n = b :: s ∧ isDigit b = true ∧ b ≠ 48 := by
  by_cases hn : n = 0
  · subst hn
    exact .inl ⟨rfl, by decide⟩
  · obtain ⟨d, ds, hd, h0, h10⟩ := digitsAux_head (Nat.lt_succ_self n) [] hn
    refine .inr ⟨digit d, ds, hd, isDigit_digit h10, fun e => ?_⟩
    have := toNat_digit h10
    rw [e] at this
    simp at this
    omega

theorem isDigit_digits_tail {n : Nat} {b : UInt8} {s : Str} (h : digits n = b :: s) :
    ∀ c ∈ s, isDigit c = true := fun c hc =>
  isDigit_of_mem_digits (n := n) c (by rw [h]; exact List.mem_cons_of_mem b hc)

/-- The token of a number. -/
def intToken (z : Int) : Token :=
  if z < 0 then .valueInteger z else .valueUnsigned z.toNat

/-- **An integer of 64 bits is read back from its dump.** -/
theorem scanNumber_decimal {z : Int} (h : -2 ^ 63 ≤ z ∧ z < 2 ^ 64) {r : Str} (hr : Delimited r) :
    ∃ b s, decimal z = b :: s ∧ (b = 45 ∨ isDigit b = true) ∧
      scanNumber b (s ++ r) = (intToken z, r) := by
  have hdigits : ∀ n : Nat, ∃ b s, digits n = b :: s ∧ isDigit b = true ∧ b ≠ 45 ∧
      scanDigits (.first b) .unsigned s = some (s, .unsigned, []) ∧
      (NumberType.unsigned.at (.first b)) = .unsigned ∧
      ∀ type, NumberState.minus.next b = some (.first b) ∧ type.at (.first b) = type ∧
        scanDigits (.first b) type s = some (s, type, []) := by
    intro n
    rcases digits_head n with ⟨-, h⟩ | ⟨b, s, h, hd, h48⟩
    · exact ⟨48, [], h, by decide, by decide, rfl, rfl, fun type => ⟨rfl, rfl, rfl⟩⟩
    · have h45 : b ≠ 45 := by rintro rfl; cases hd
      have hf : NumberState.first b = .any1 := by simp [NumberState.first, h45, h48]
      have hs := scanDigits_any1 (isDigit_digits_tail h)
      refine ⟨b, s, h, hd, h45, by rw [hf]; exact hs _, by rw [hf]; rfl, fun type => ?_⟩
      rw [hf]
      exact ⟨by simp [NumberState.next, h48, hd], rfl, hs type⟩
  obtain ⟨b, s, hb, hd, h45, hs, hty, hminus⟩ := hdigits z.natAbs
  have hval : digitsValue (b :: s) = z.natAbs := by rw [← hb, digitsValue_digits]
  unfold decimal
  split
  · rename_i hneg
    refine ⟨45, digits z.natAbs, rfl, .inl rfl, ?_⟩
    obtain ⟨hnext, hat, hs'⟩ := hminus .integer
    have hrun : scanDigits .minus .integer (digits z.natAbs ++ r) =
        some (digits z.natAbs, .integer, r) := by
      refine scanDigits_append ?_ hr
      rw [hb, scanDigits, hnext]
      dsimp only
      rw [hat, hs']
      rfl
    have hfit : z.natAbs ≤ 2 ^ 63 := by omega
    simp only [scanNumber, show NumberState.first 45 = .minus from rfl,
      show NumberType.unsigned.at .minus = .integer from rfl, hrun, numberToken, List.tail_cons,
      digitsValue_digits, if_pos hfit, intToken, if_pos hneg]
    congr 2
    omega
  · rename_i hpos
    refine ⟨b, s, hb, .inr hd, ?_⟩
    have hfit : z.natAbs < 2 ^ 64 := by omega
    simp only [scanNumber, hty, scanDigits_append hs hr, numberToken, hval, if_pos hfit, intToken,
      if_neg hpos]
    congr 2
    omega

/-- **A float is read back from its text.** -/
theorem scanNumber_float {text : Str} (h : isFloatText text = true) {r : Str} (hr : Delimited r) :
    ∃ b s, text = b :: s ∧ (b = 45 ∨ isDigit b = true) ∧
      scanNumber b (s ++ r) = (.valueFloat text, r) := by
  cases text with
  | nil => cases h
  | cons b s =>
    simp only [isFloatText, Bool.and_eq_true, Bool.or_eq_true, decide_eq_true_eq] at h
    refine ⟨b, s, rfl, h.1, ?_⟩
    simp only [scanNumber, scanDigits_append h.2 hr, numberToken]

/-! ## Tokens -/

/-- White space comes before a token. -/
theorem scan_space {ws : Str} (h : ∀ b ∈ ws, isSpace b = true) (s : Str) :
    scan (ws ++ s) = scan s := by
  induction ws with
  | nil => rfl
  | cons b ws ih =>
    rw [List.cons_append, scan, if_pos (h b List.mem_cons_self)]
    exact ih fun c hc => h c (List.mem_cons_of_mem b hc)

@[simp] theorem scan_beginArray (s : Str) : scan (91 :: s) = (.beginArray, s) := rfl

@[simp] theorem scan_endArray (s : Str) : scan (93 :: s) = (.endArray, s) := rfl

@[simp] theorem scan_beginObject (s : Str) : scan (123 :: s) = (.beginObject, s) := rfl

@[simp] theorem scan_endObject (s : Str) : scan (125 :: s) = (.endObject, s) := rfl

@[simp] theorem scan_nameSeparator (s : Str) : scan (58 :: s) = (.nameSeparator, s) := rfl

@[simp] theorem scan_valueSeparator (s : Str) : scan (44 :: s) = (.valueSeparator, s) := rfl

@[simp] theorem scan_nul (s : Str) : scan (0 :: s) = (.endOfInput, s) := rfl

theorem scan_true (s : Str) : scan (txt "true" ++ s) = (.literalTrue, s) := by
  have h : txt "true" = 116 :: txt "rue" := by decide
  rw [h]
  simp [scan, isSpace, scanFrom, scanLiteral]

theorem scan_false (s : Str) : scan (txt "false" ++ s) = (.literalFalse, s) := by
  have h : txt "false" = 102 :: txt "alse" := by decide
  rw [h]
  simp [scan, isSpace, scanFrom, scanLiteral]

theorem scan_null (s : Str) : scan (txt "null" ++ s) = (.literalNull, s) := by
  have h : txt "null" = 110 :: txt "ull" := by decide
  rw [h]
  simp [scan, isSpace, scanFrom, scanLiteral]

theorem scan_quote {t : Str} (h : isUtf8 t = true) (s : Str) :
    scan (Json.quote t ++ s) = (.valueString t, s) := by
  have hs : scanString [] (t.flatMap Json.dumpByte ++ 34 :: s) = some (t, s) :=
    scanString_dump (isUtf8_iff.mp h) s
  rw [Json.quote, List.cons_append, List.append_assoc, List.cons_append, List.nil_append]
  simp [scan, isSpace, scanFrom, hs]

/-- The first byte of a number. -/
theorem scan_number {b : UInt8} (h : b = 45 ∨ isDigit b = true) (s : Str) :
    scan (b :: s) = scanNumber b s := by
  have hne : ∀ c : UInt8, (c = 45 ∨ isDigit c = true) → isSpace c = false ∧ c ≠ 91 ∧ c ≠ 93 ∧
      c ≠ 123 ∧ c ≠ 125 ∧ c ≠ 58 ∧ c ≠ 44 ∧ c ≠ 116 ∧ c ≠ 102 ∧ c ≠ 110 ∧ c ≠ 34 := by
    intro c hc
    refine ⟨?_, ?_⟩
    · rw [Bool.eq_false_iff]
      intro hs
      simp only [isSpace, Bool.or_eq_true, decide_eq_true_eq] at hs
      rcases hs with ((rfl | rfl) | rfl) | rfl <;> revert hc <;> decide
    · refine ⟨?_, ?_, ?_, ?_, ?_, ?_, ?_, ?_, ?_, ?_⟩ <;> rintro rfl <;> revert hc <;> decide
  obtain ⟨hsp, h1, h2, h3, h4, h5, h6, h7, h8, h9, h10⟩ := hne b h
  rw [scan, hsp, scanFrom]
  simp only [h1, h2, h3, h4, h5, h6, h7, h8, h9, h10, if_false, h, if_true, Bool.false_eq_true]

theorem scan_decimal {z : Int} (h : -2 ^ 63 ≤ z ∧ z < 2 ^ 64) {r : Str} (hr : Delimited r) :
    scan (decimal z ++ r) = (intToken z, r) := by
  obtain ⟨b, s, hb, hd, hs⟩ := scanNumber_decimal h hr
  rw [hb, List.cons_append, scan_number hd, hs]

theorem scan_float {text : Str} (h : isFloatText text = true) {r : Str} (hr : Delimited r) :
    scan (text ++ r) = (.valueFloat text, r) := by
  obtain ⟨b, s, rfl, hd, hs⟩ := scanNumber_float h hr
  rw [List.cons_append, scan_number hd, hs]

/-- What a token has as its value. -/
def Token.Valid : Token → Prop
  | .valueString s => isUtf8 s = true
  | .valueUnsigned n => n < 2 ^ 64
  | .valueInteger z => -2 ^ 63 ≤ z ∧ z ≤ 0
  | _ => True

theorem scanDigits_length {q : NumberState} {type type' : NumberType} {s t r : Str}
    (h : scanDigits q type s = some (t, type', r)) : r.length ≤ s.length := by
  induction s generalizing q type t with
  | nil =>
    rw [scanDigits] at h
    split at h <;> cases h
    exact Nat.le_refl 0
  | cons b s ih =>
    rw [scanDigits] at h
    split at h
    · obtain ⟨⟨t', ty, r'⟩, h', he⟩ := Option.map_eq_some_iff.mp h
      cases he
      exact Nat.le_succ_of_le (ih h')
    · split at h <;> cases h
      exact Nat.le_refl _

theorem numberToken_valid (type : NumberType) (text : Str) : (numberToken type text).Valid := by
  unfold numberToken
  cases type with
  | unsigned =>
    dsimp only
    split
    · assumption
    · trivial
  | integer =>
    dsimp only
    split
    · rename_i h
      exact ⟨by omega, by omega⟩
    · trivial
  | float => trivial

/-- **A token** takes the byte it begins with, and has a value of its type. -/
theorem scanFrom_spec {b : UInt8} {s r : Str} {t : Token} (h : scanFrom b s = (t, r)) :
    t.Valid ∧ r.length ≤ s.length := by
  have hnext : ∀ token, (token, s) = (t, r) → Token.Valid token →
      t.Valid ∧ r.length ≤ s.length := by
    rintro token ⟨⟩ ht
    exact ⟨ht, Nat.le_refl _⟩
  have herror : (Token.parseError, []) = (t, r) →
      t.Valid ∧ r.length ≤ s.length := by
    rintro ⟨⟩
    exact ⟨trivial, Nat.zero_le _⟩
  have hliteral : ∀ rest token, scanLiteral rest token s = (t, r) → Token.Valid token →
      t.Valid ∧ r.length ≤ s.length := by
    intro rest token h ht
    unfold scanLiteral at h
    split at h
    · cases h
      exact ⟨ht, by simp⟩
    · exact herror h
  unfold scanFrom at h
  -- the structural characters
  rcases ite_eq_iff.mp h with ⟨-, h⟩ | ⟨-, h⟩; · exact hnext _ h trivial
  rcases ite_eq_iff.mp h with ⟨-, h⟩ | ⟨-, h⟩; · exact hnext _ h trivial
  rcases ite_eq_iff.mp h with ⟨-, h⟩ | ⟨-, h⟩; · exact hnext _ h trivial
  rcases ite_eq_iff.mp h with ⟨-, h⟩ | ⟨-, h⟩; · exact hnext _ h trivial
  rcases ite_eq_iff.mp h with ⟨-, h⟩ | ⟨-, h⟩; · exact hnext _ h trivial
  rcases ite_eq_iff.mp h with ⟨-, h⟩ | ⟨-, h⟩; · exact hnext _ h trivial
  -- the literals
  rcases ite_eq_iff.mp h with ⟨-, h⟩ | ⟨-, h⟩; · exact hliteral _ _ h trivial
  rcases ite_eq_iff.mp h with ⟨-, h⟩ | ⟨-, h⟩; · exact hliteral _ _ h trivial
  rcases ite_eq_iff.mp h with ⟨-, h⟩ | ⟨-, h⟩; · exact hliteral _ _ h trivial
  rcases ite_eq_iff.mp h with ⟨-, h⟩ | ⟨-, h⟩
  · cases hs : scanString [] s with
    | none =>
      rw [hs] at h
      exact herror h
    | some p =>
      rw [hs] at h
      cases h
      obtain ⟨hu, hl⟩ := scanString_utf8 hs (q := .accept) rfl (by decide)
      exact ⟨isUtf8_iff.mpr hu, Nat.le_of_lt hl⟩
  rcases ite_eq_iff.mp h with ⟨-, h⟩ | ⟨-, h⟩
  · unfold scanNumber at h
    split at h
    · exact herror h
    · rename_i hs
      cases h
      exact ⟨numberToken_valid _ _, scanDigits_length hs⟩
  rcases ite_eq_iff.mp h with ⟨-, h⟩ | ⟨-, h⟩
  · exact hnext _ h trivial
  · exact herror h

/-- The input is at its end, or the lexer has moved on. -/
theorem scan_length (s : Str) : (scan s).2.length ≤ s.length ∧
    ((scan s).1 = .endOfInput ∨ (scan s).2.length < s.length) := by
  induction s with
  | nil => exact ⟨Nat.le_refl 0, .inl rfl⟩
  | cons b s ih =>
    rw [scan]
    split
    · exact ⟨Nat.le_succ_of_le ih.1, ih.2.imp id Nat.lt_succ_of_lt⟩
    · have h := (scanFrom_spec (Prod.mk.eta (p := scanFrom b s)).symm).2
      exact ⟨Nat.le_succ_of_le h, .inr (Nat.lt_succ_of_le h)⟩

theorem scan_valid (s : Str) : (scan s).1.Valid := by
  induction s with
  | nil => trivial
  | cons b s ih =>
    rw [scan]
    split
    · exact ih
    · exact (scanFrom_spec (Prod.mk.eta (p := scanFrom b s)).symm).1

end Nlohmann

end QtChat
