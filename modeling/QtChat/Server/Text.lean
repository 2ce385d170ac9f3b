import Mathlib.Data.List.TakeWhile
import Mathlib.Tactic.Ring

/-!
# Byte strings

`Str` is a `std::string`: any bytes. `txt` gives the bytes of a literal of the source, `cstr` what a
C string function reads of a buffer (up to the first NUL), `decimal` what `%d` prints. `readInt`
reads such a number back (`readInt_decimal`).
-/

namespace QtChat

/-- A `std::string`. -/
abbrev Str := List UInt8

/-- The bytes of a literal. -/
def txt (s : String) : Str := s.toByteArray.data.toList

/-- The C string at the start of a buffer. -/
def cstr (s : Str) : Str := s.takeWhile (· ≠ 0)

theorem cstr_of_no_nul {s : Str} (h : (0 : UInt8) ∉ s) : cstr s = s := by
  rw [cstr, List.takeWhile_eq_self_iff]
  intro b hb
  simp only [ne_eq, decide_eq_true_eq]
  rintro rfl
  exact h hb

/-! ## Decimal numbers -/

/-- A decimal digit. -/
def digit (d : Nat) : UInt8 := (48 + d).toUInt8

def isDigit (b : UInt8) : Bool := 48 ≤ b && b ≤ 57

/-- The last `fuel` digits of `n`, before `acc`. -/
def digitsAux : Nat → Nat → Str → Str
  | 0, _, acc => acc
  | fuel + 1, n, acc =>
    if n < 10 then digit n :: acc else digitsAux fuel (n / 10) (digit (n % 10) :: acc)

/-- The digits of a natural number. -/
def digits (n : Nat) : Str := digitsAux (n + 1) n []

/-- What `%d` prints. -/
def decimal (z : Int) : Str := if z < 0 then 45 :: digits z.natAbs else digits z.natAbs

/-- The number `n` with one more digit. -/
def addDigit (n : Nat) (b : UInt8) : Nat := 10 * n + (b.toNat - 48)

/-- The value of a string of digits. -/
def digitsValue (s : Str) : Nat := s.foldl addDigit 0

/-- The number at the front of a text, and what follows it. -/
def readInt (s : Str) : Option (Int × Str) :=
  match s with
  | 45 :: r => if (r.takeWhile isDigit).isEmpty then none
    else some (-(digitsValue (r.takeWhile isDigit) : Int), r.dropWhile isDigit)
  | _ => if (s.takeWhile isDigit).isEmpty then none
    else some ((digitsValue (s.takeWhile isDigit) : Int), s.dropWhile isDigit)

example : decimal (-120) = txt "-120" := by decide

example : readInt (txt "17, 'a'") = some (17, txt ", 'a'") := by decide

theorem toNat_digit {d : Nat} (h : d < 10) : (digit d).toNat = 48 + d := by
  simp only [digit, Nat.toUInt8, UInt8.toNat_ofNat']
  omega

theorem isDigit_digit {d : Nat} (h : d < 10) : isDigit (digit d) = true := by
  have := toNat_digit h
  simp only [isDigit, Bool.and_eq_true, decide_eq_true_eq, UInt8.le_iff_toNat_le, this]
  exact ⟨by simp, by simp; omega⟩

theorem ne_zero_of_isDigit {b : UInt8} (h : isDigit b = true) : b ≠ 0 := by
  rintro rfl; simp [isDigit] at h

theorem digitsAux_append (fuel n : Nat) (acc acc' : Str) :
    digitsAux fuel n (acc ++ acc') = digitsAux fuel n acc ++ acc' := by
  induction fuel generalizing n acc with
  | zero => rfl
  | succ fuel ih =>
    simp only [digitsAux]
    split
    · rfl
    · exact ih _ (digit (n % 10) :: acc)

theorem isDigit_of_mem_digitsAux {fuel n : Nat} {acc : Str} (ha : ∀ b ∈ acc, isDigit b = true) :
    ∀ b ∈ digitsAux fuel n acc, isDigit b = true := by
  induction fuel generalizing n acc with
  | zero => exact ha
  | succ fuel ih =>
    simp only [digitsAux]
    split
    · rename_i h
      intro b hb
      rcases List.mem_cons.mp hb with rfl | hb
      · exact isDigit_digit h
      · exact ha b hb
    · refine ih fun b hb => ?_
      rcases List.mem_cons.mp hb with rfl | hb
      · exact isDigit_digit (Nat.mod_lt _ (by decide))
      · exact ha b hb

theorem isDigit_of_mem_digits {n : Nat} : ∀ b ∈ digits n, isDigit b = true :=
  isDigit_of_mem_digitsAux (by simp)

theorem digitsValue_concat (s : Str) {d : Nat} (h : d < 10) :
    digitsValue (s ++ [digit d]) = 10 * digitsValue s + d := by
  rw [digitsValue, List.foldl_append, List.foldl_cons, List.foldl_nil, addDigit, toNat_digit h,
    Nat.add_sub_cancel_left]
  rfl

theorem digitsValue_digitsAux {fuel n : Nat} (h : n < fuel) :
    digitsValue (digitsAux fuel n []) = n := by
  induction fuel generalizing n with
  | zero => omega
  | succ fuel ih =>
    simp only [digitsAux]
    split
    · rename_i h10
      rw [← List.nil_append [digit n], digitsValue_concat _ h10, digitsValue, List.foldl_nil]
      omega
    · rw [← List.nil_append [digit (n % 10)], digitsAux_append,
        digitsValue_concat _ (Nat.mod_lt _ (by decide)), ih (by omega)]
      omega

theorem digitsValue_digits (n : Nat) : digitsValue (digits n) = n :=
  digitsValue_digitsAux (Nat.lt_succ_self n)

theorem digits_ne_nil (n : Nat) : digits n ≠ [] := by
  unfold digits
  simp only [digitsAux]
  split
  · simp
  · rw [← List.nil_append [digit (n % 10)], digitsAux_append]
    simp

/-- The digits at the front of a text that goes on with another byte. -/
theorem takeWhile_digits {n : Nat} {b : UInt8} (hb : isDigit b = false) (s : Str) :
    (digits n ++ b :: s).takeWhile isDigit = digits n ∧
      (digits n ++ b :: s).dropWhile isDigit = b :: s := by
  constructor
  · rw [List.takeWhile_append_of_pos isDigit_of_mem_digits]
    simp [hb]
  · rw [List.dropWhile_append_of_pos isDigit_of_mem_digits]
    simp [hb]

theorem readInt_decimal (z : Int) {b : UInt8} (hb : isDigit b = false) (s : Str) :
    readInt (decimal z ++ b :: s) = some (z, b :: s) := by
  have hne : (digits z.natAbs).isEmpty = false := by
    rw [List.isEmpty_eq_false_iff]; exact digits_ne_nil _
  obtain ⟨ht, hd⟩ := takeWhile_digits (n := z.natAbs) hb s
  unfold decimal
  split
  · simp only [readInt, List.cons_append, ht, hd, hne, digitsValue_digits, Bool.false_eq_true,
      if_false, Option.some.injEq, Prod.mk.injEq, and_true]
    omega
  · have h45 : ∀ r, digits z.natAbs ++ b :: s ≠ 45 :: r := by
      intro r hr
      cases hdg : digits z.natAbs with
      | nil => exact digits_ne_nil _ hdg
      | cons d ds =>
        have := isDigit_of_mem_digits (n := z.natAbs) d (by rw [hdg]; simp)
        rw [hdg] at hr
        cases hr
        simp [isDigit] at this
    unfold readInt
    split
    · rename_i r heq; exact absurd heq (h45 r)
    · simp only [ht, hd, hne, digitsValue_digits, Bool.false_eq_true, if_false,
        Option.some.injEq, Prod.mk.injEq, and_true]
      omega

/-- A byte of a number is a minus or a digit. -/
theorem mem_decimal {z : Int} {b : UInt8} (h : b ∈ decimal z) : b = 45 ∨ isDigit b = true := by
  unfold decimal at h
  split at h
  · rcases List.mem_cons.mp h with h | h
    · exact .inl h
    · exact .inr (isDigit_of_mem_digits b h)
  · exact .inr (isDigit_of_mem_digits b h)

theorem readInt_suffix {s r : Str} {z : Int} (h : readInt s = some (z, r)) : r <:+ s := by
  unfold readInt at h
  split at h <;> split at h
  · cases h
  · cases h; exact (List.dropWhile_suffix _).trans (List.suffix_cons _ _)
  · cases h
  · cases h; exact List.dropWhile_suffix _

/-- A cut text is read as a number that a comma ends only if the cut is behind the comma. -/
theorem readInt_cut {u z : Int} {s t q : Str} (hs : s <+: decimal u ++ 44 :: t)
    (h : readInt s = some (z, 44 :: q)) : z = u ∧ s = decimal u ++ 44 :: q := by
  rcases List.prefix_or_prefix_of_prefix hs (List.prefix_append _ _) with hs | ⟨s', rfl⟩
  · have hc : (44 : UInt8) ∈ decimal u :=
      hs.subset ((readInt_suffix h).subset (by simp))
    rcases mem_decimal hc with hc | hc <;> exact absurd hc (by decide)
  · cases s' with
    | nil =>
      have hc : (44 : UInt8) ∈ decimal u := by
        simpa using (readInt_suffix h).subset (show (44 : UInt8) ∈ 44 :: q by simp)
      rcases mem_decimal hc with hc | hc <;> exact absurd hc (by decide)
    | cons b s' =>
      rw [List.prefix_append_right_inj] at hs
      obtain ⟨rfl, -⟩ := List.cons_prefix_cons.mp hs
      rw [readInt_decimal u (by decide)] at h
      cases h
      exact ⟨rfl, rfl⟩

theorem no_nul_decimal (z : Int) : (0 : UInt8) ∉ decimal z := by
  have h : (0 : UInt8) ∉ digits z.natAbs := fun h =>
    ne_zero_of_isDigit (isDigit_of_mem_digits _ h) rfl
  unfold decimal
  split
  · simpa using h
  · exact h

theorem decimal_ne_nil (z : Int) : decimal z ≠ [] := by
  unfold decimal
  split
  · simp
  · exact digits_ne_nil _

end QtChat
