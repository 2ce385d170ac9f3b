import QtChat.Server.ChatService

/-!
# UTF-8 and the exception of `dump`

`dump` throws `type_error` 316 at a string that is not UTF-8 (`dump_escaped`, whose decoder is
`decode`). `Json.dumpStrict` is `dump` with that exception.

- `isUtf8_quote`, `isUtf8_dump`: what is dumped is UTF-8 again, so that a dump can stand in a
  string.
- `utf8_object`: an object of such fields; the packets of the server are built so.
-/

namespace QtChat

/-! ## The decoder -/

/-- The states of `decode` in `json.hpp`. -/
inductive Utf8State where
  | accept
  | reject
  | tail1
  | tail2
  | tail3
  | afterE0
  | afterED
  | afterF0
  | afterF4
  deriving DecidableEq

namespace Utf8State

/-- A byte of the range, or none that can follow. -/
def within (low high b : UInt8) (next : Utf8State) : Utf8State :=
  if low ≤ b ∧ b ≤ high then next else .reject

/-- One byte of `decode`. -/
def decode : Utf8State → UInt8 → Utf8State
  | .accept, b =>
    if b ≤ 0x7F then .accept
    else if b = 0xE0 then .afterE0
    else if b = 0xED then .afterED
    else if b = 0xF0 then .afterF0
    else if b = 0xF4 then .afterF4
    else if 0xC2 ≤ b ∧ b ≤ 0xDF then .tail1
    else if 0xE1 ≤ b ∧ b ≤ 0xEF then .tail2
    else if 0xF1 ≤ b ∧ b ≤ 0xF3 then .tail3
    else .reject
  | .reject, _ => .reject
  | .tail1, b => within 0x80 0xBF b .accept
  | .tail2, b => within 0x80 0xBF b .tail1
  | .tail3, b => within 0x80 0xBF b .tail2
  | .afterE0, b => within 0xA0 0xBF b .tail1
  | .afterED, b => within 0x80 0x9F b .tail1
  | .afterF0, b => within 0x90 0xBF b .tail2
  | .afterF4, b => within 0x80 0x8F b .tail2

theorem decode_ascii {b : UInt8} (h : b ≤ 0x7F) : decode .accept b = .accept := if_pos h

/-- In the middle of a character no ASCII byte can follow. -/
theorem decode_ascii_reject {b : UInt8} (h : b ≤ 0x7F) {q : Utf8State} (hq : q ≠ .accept) :
    decode q b = .reject := by
  have hout : ∀ {low high : UInt8} {next : Utf8State}, 0x7F < low → within low high b next = .reject :=
    fun hl => if_neg fun hc => absurd (UInt8.lt_of_lt_of_le hl (UInt8.le_trans hc.1 h))
      (UInt8.lt_irrefl _)
  cases q with
  | accept => exact absurd rfl hq
  | reject => rfl
  | _ => exact hout (by decide)

theorem foldl_reject (s : Str) : s.foldl decode .reject = .reject := by
  induction s with
  | nil => rfl
  | cons b s ih => exact ih

theorem foldl_ascii {s : Str} (h : ∀ b ∈ s, b ≤ 0x7F) : s.foldl decode .accept = .accept := by
  induction s with
  | nil => rfl
  | cons b s ih =>
    rw [List.foldl_cons, decode_ascii (h b (by simp))]
    exact ih fun c hc => h c (by simp [hc])

end Utf8State

open Utf8State

/-- The decoder is between two characters at the end. -/
def isUtf8 (s : Str) : Bool := s.foldl decode .accept = .accept

theorem isUtf8_iff {s : Str} : isUtf8 s = true ↔ s.foldl decode .accept = .accept := by
  simp [isUtf8]

@[simp] theorem isUtf8_nil : isUtf8 [] = true := rfl

theorem isUtf8_ascii {s : Str} (h : ∀ b ∈ s, b ≤ 0x7F) : isUtf8 s = true :=
  isUtf8_iff.mpr (foldl_ascii h)

theorem isUtf8_append {s t : Str} (hs : isUtf8 s = true) (ht : isUtf8 t = true) :
    isUtf8 (s ++ t) = true := by
  rw [isUtf8_iff] at *
  rw [List.foldl_append, hs, ht]

theorem isUtf8_cons {b : UInt8} {s : Str} (hb : b ≤ 0x7F) : isUtf8 (b :: s) = isUtf8 s := by
  rw [isUtf8, List.foldl_cons, decode_ascii hb, ← isUtf8]

/-- Up to an ASCII byte a string that is UTF-8 is UTF-8. -/
theorem isUtf8_of_append {b : UInt8} {s t : Str} (hb : b ≤ 0x7F)
    (h : isUtf8 (s ++ b :: t) = true) : isUtf8 s = true := by
  rw [isUtf8_iff, List.foldl_append, List.foldl_cons] at h
  rw [isUtf8_iff]
  by_contra hs
  rw [decode_ascii_reject hb hs, foldl_reject] at h
  cases h

theorem isUtf8_cstr {s : Str} (h : isUtf8 s = true) : isUtf8 (cstr s) = true := by
  have hs := List.takeWhile_append_dropWhile (p := fun b : UInt8 => b ≠ 0) (l := s)
  cases hd : s.dropWhile fun b : UInt8 => decide (b ≠ 0) with
  | nil =>
    rw [hd, List.append_nil] at hs
    rw [cstr, hs]
    exact h
  | cons b t =>
    have hb : b = 0 := by
      have hhead := List.head?_dropWhile_not (fun b : UInt8 => decide (b ≠ 0)) s
      rw [hd] at hhead
      simpa using hhead
    rw [hd, hb] at hs
    rw [← hs] at h
    exact isUtf8_of_append (by decide) h

theorem isUtf8_decimal (z : Int) : isUtf8 (decimal z) = true := by
  refine isUtf8_ascii fun b hb => ?_
  rcases mem_decimal hb with rfl | hd
  · decide
  · simp only [isDigit, Bool.and_eq_true, decide_eq_true_eq] at hd
    exact UInt8.le_trans hd.2 (by decide)

/-! ## Escaping -/

theorem hexDigit_ascii {n : UInt8} (h : n.toNat < 16) : Json.hexDigit n ≤ 0x7F := by
  unfold Json.hexDigit
  show UInt8.toNat _ ≤ 127
  split
  · rw [UInt8.toNat_add]
    exact Nat.le_trans (Nat.mod_le _ _) (show 48 + n.toNat ≤ 127 by omega)
  · rw [UInt8.toNat_add]
    exact Nat.le_trans (Nat.mod_le _ _) (show 87 + n.toNat ≤ 127 by omega)

theorem dumpByte_ascii {b : UInt8} (h : b ≤ 0x7F) : ∀ c ∈ Json.dumpByte b, c ≤ 0x7F := by
  suffices hall : (Json.dumpByte b).all (· ≤ 0x7F) = true by
    simpa only [List.all_eq_true, decide_eq_true_eq] using hall
  unfold Json.dumpByte
  repeat' split
  · decide
  · decide
  · decide
  · decide
  · decide
  · decide
  · decide
  · have hu : (txt "\\u00").all (· ≤ 0x7F) = true := by decide
    have h₁ : Json.hexDigit (b / 16) ≤ 0x7F := hexDigit_ascii (by
      have := b.toNat_lt; rw [UInt8.toNat_div]; simp; omega)
    have h₂ : Json.hexDigit (b % 16) ≤ 0x7F := hexDigit_ascii (by
      rw [UInt8.toNat_mod]; exact Nat.mod_lt _ (by decide))
    simp [hu, h₁, h₂]
  · simp [h]

theorem dumpByte_high {b : UInt8} (h : ¬b ≤ 0x7F) : Json.dumpByte b = [b] := by
  have hne : ∀ c : UInt8, c ≤ 0x7F → b ≠ c := by
    rintro c hc rfl
    exact h hc
  unfold Json.dumpByte
  rw [if_neg (hne 8 (by decide)), if_neg (hne 9 (by decide)), if_neg (hne 10 (by decide)),
    if_neg (hne 12 (by decide)), if_neg (hne 13 (by decide)), if_neg (hne 34 (by decide)),
    if_neg (hne 92 (by decide)), if_neg fun hb => h (UInt8.le_trans hb (by decide))]

theorem foldl_escape {s : Str} {q : Utf8State} (h : s.foldl decode q = .accept) :
    (s.flatMap Json.dumpByte).foldl decode q = .accept := by
  induction s generalizing q with
  | nil => exact h
  | cons b s ih =>
    rw [List.flatMap_cons, List.foldl_append]
    rw [List.foldl_cons] at h
    by_cases hb : b ≤ 0x7F
    · by_cases hq : q = .accept
      · subst hq
        rw [foldl_ascii (dumpByte_ascii hb)]
        rw [decode_ascii hb] at h
        exact ih h
      · rw [decode_ascii_reject hb hq, foldl_reject] at h
        cases h
    · rw [dumpByte_high hb]
      exact ih h

/-- A string in quotes is UTF-8 if the string is. -/
theorem isUtf8_quote {s : Str} (h : isUtf8 s = true) : isUtf8 (Json.quote s) = true := by
  rw [Json.quote, isUtf8_cons (by decide)]
  exact isUtf8_append (isUtf8_iff.mpr (foldl_escape (isUtf8_iff.mp h))) (by decide)

/-! ## Values -/

namespace Json

mutual

/-- Every string of the value is UTF-8. -/
def utf8 : Json → Bool
  | .null => true
  | .bool _ => true
  | .int _ => true
  | .float d => isUtf8 d.text
  | .str s => isUtf8 s
  | .arr xs => utf8Elems xs
  | .obj m => utf8Members m

def utf8Elems : List Json → Bool
  | [] => true
  | x :: xs => utf8 x && utf8Elems xs

def utf8Members : List (Str × Json) → Bool
  | [] => true
  | (k, v) :: m => isUtf8 k && utf8 v && utf8Members m

end

/-- `dump()`: an exception for a string that is not UTF-8. -/
def dumpStrict (js : Json) : Except JsonError Str :=
  if js.utf8 then .ok js.dump else .error (.type_error 316)

mutual

theorem isUtf8_dump : ∀ js : Json, js.utf8 = true → isUtf8 js.dump = true
  | .null, _ => by rw [dump]; decide
  | .bool b, _ => by rw [dump]; cases b <;> decide
  | .int z, _ => by rw [dump]; exact isUtf8_decimal z
  | .float d, h => by rw [dump]; rwa [utf8] at h
  | .str s, h => by
    rw [dump]
    rw [utf8] at h
    exact isUtf8_quote h
  | .arr xs, h => by
    rw [utf8] at h
    rw [dump, isUtf8_cons (by decide)]
    exact isUtf8_append (isUtf8_dumpElems xs h) (by decide)
  | .obj m, h => by
    rw [utf8] at h
    rw [dump, isUtf8_cons (by decide)]
    exact isUtf8_append (isUtf8_dumpMembers m h) (by decide)

theorem isUtf8_dumpElems : ∀ xs : List Json, utf8Elems xs = true → isUtf8 (dumpElems xs) = true
  | [], _ => by rw [dumpElems]; decide
  | x :: xs, h => by
    rw [utf8Elems, Bool.and_eq_true] at h
    rw [dumpElems]
    refine isUtf8_append (isUtf8_dump x h.1) ?_
    split
    · decide
    · rw [isUtf8_cons (by decide)]
      exact isUtf8_dumpElems xs h.2

theorem isUtf8_dumpMembers : ∀ m : List (Str × Json), utf8Members m = true →
    isUtf8 (dumpMembers m) = true
  | [], _ => by rw [dumpMembers]; decide
  | (k, v) :: m, h => by
    rw [utf8Members, Bool.and_eq_true, Bool.and_eq_true] at h
    rw [dumpMembers]
    refine isUtf8_append (isUtf8_append (isUtf8_quote h.1.1) ?_) ?_
    · rw [isUtf8_cons (by decide)]
      exact isUtf8_dump v h.1.2
    split
    · decide
    · rw [isUtf8_cons (by decide)]
      exact isUtf8_dumpMembers m h.2

end

theorem utf8_setMember {k : Str} {v : Json} (hk : isUtf8 k = true) (hv : v.utf8 = true)
    {m : List (Str × Json)} (hm : utf8Members m = true) : utf8Members (setMember k v m) = true := by
  induction m with
  | nil => simp [setMember, utf8Members, hk, hv]
  | cons e m ih =>
    obtain ⟨k', v'⟩ := e
    simp only [utf8Members, Bool.and_eq_true] at hm
    rw [setMember]
    split
    · simp [utf8Members, hk, hv, hm.2]
    · split
      · simp [utf8Members, hk, hv, hm]
      · simp [utf8Members, hm, ih hm.2]

/-- An object of fields with UTF-8 values. -/
theorem utf8_object {fields : List (String × Json)}
    (h : ∀ f ∈ fields, isUtf8 (txt f.1) = true ∧ f.2.utf8 = true) : (object fields).utf8 = true := by
  rw [object, utf8]
  suffices ∀ m, utf8Members m = true →
      utf8Members (fields.foldl (fun m f => setMember (txt f.1) f.2 m) m) = true from this [] rfl
  induction fields with
  | nil => exact fun _ hm => hm
  | cons f fields ih =>
    intro m hm
    obtain ⟨hk, hv⟩ := h f (by simp)
    exact ih (fun g hg => h g (by simp [hg])) _ (utf8_setMember hk hv hm)

theorem utf8_strings {ss : List Str} (h : ∀ s ∈ ss, isUtf8 s = true) : (strings ss).utf8 = true := by
  rw [strings, utf8]
  induction ss with
  | nil => rfl
  | cons s ss ih =>
    rw [List.map_cons, utf8Elems, Bool.and_eq_true]
    exact ⟨h s (by simp), ih fun t ht => h t (by simp [ht])⟩

/-- A string field of a value that is UTF-8. -/
theorem utf8_stringAt {js : Json} (h : js.utf8 = true) {key : String} {s : Str}
    (hs : js.stringAt key = .ok s) : isUtf8 s = true := by
  have hmem : ∀ {m : List (Str × Json)} {e : Str × Json}, utf8Members m = true → e ∈ m →
      e.2.utf8 = true := by
    intro m e hm he
    induction m with
    | nil => cases he
    | cons d m ih =>
      obtain ⟨k, v⟩ := d
      simp only [utf8Members, Bool.and_eq_true] at hm
      rcases List.mem_cons.mp he with rfl | he
      · exact hm.1.2
      · exact ih hm.2 he
  cases js with
  | obj m =>
    simp only [stringAt, index, get?] at hs
    cases hf : m.find? fun kv => kv.1 = txt key with
    | none =>
      rw [hf] at hs
      cases hs
    | some e =>
      rw [hf] at hs
      rw [utf8] at h
      have hv := hmem h (List.mem_of_find?_eq_some hf)
      obtain ⟨k, v⟩ := e
      cases v with
      | str t =>
        cases hs
        exact hv
      | _ => cases hs
  | _ => cases hs

theorem dumpStrict_eq {js : Json} (h : js.utf8 = true) : js.dumpStrict = .ok js.dump := if_pos h

end Json

end QtChat
