import QtChat.Log.Binary
import QtChat.Server.Width

/-!
# A binary dump is faithful

What `outputBinary` queues behind its address line are the rows of the buffer, numbered from 0
(`dumpRows`). `formLog` is followed byte by byte: after each round `szbuf` holds a text with zeros
behind it (`FormLog.of`), and 512 bytes never take more than 1246 of its 1544 bytes (`textBound`).
-/

namespace QtChat

/-! ## The rows -/

/-- A byte in hex. -/
def hexByte (b : UInt8) : Str := [Json.hexDigit (b / 16), Json.hexDigit (b % 16)]

/-- 16 bytes in hex, behind a blank; nothing for no byte. -/
def hexGroup (bytes : List UInt8) : Str :=
  if bytes = [] then [] else 32 :: bytes.flatMap hexByte

/-- A row: its number with at least six digits, and up to 32 bytes in two groups. -/
def rowText (k : Nat) (bytes : List UInt8) : Str :=
  ullto4Str k ++ [32] ++ hexGroup (bytes.take 16) ++ hexGroup (bytes.drop 16)

/-- The number of rows of a buffer. -/
def rowCount (size : Nat) : Nat := (size + 31) / 32

/-- The rows of a buffer, a line each: row `k` has the bytes from `32 * k` to `32 * k + 31`, or to
the last one. -/
def dumpRows (buffer : List UInt8) : Str :=
  (List.range (rowCount buffer.length)).flatMap fun k =>
    rowText k ((buffer.drop (32 * k)).take 32) ++ [10]

/-! ## One call of `formLog` -/

/-- What stands before byte `l` of a call that begins with row `i`. -/
def rowSep (i l : Nat) : Str :=
  (if l % 32 = 0 then (if l = 0 then [] else [10]) ++ (ullto4Str (i + l / 32) ++ [32]) else []) ++
    (if l % 16 = 0 then [32] else [])

/-- The text of the bytes from `l` on. -/
def formText (i : Nat) : Nat → List UInt8 → Str
  | _, [] => []
  | l, b :: bs => rowSep i l ++ hexByte b ++ formText i (l + 1) bs

/-- The most that `l` bytes can take. -/
def textBound (l : Nat) : Nat := 2 * l + (l + 15) / 16 + 12 * rowCount l

theorem digits_ge (n : Nat) : 1 ≤ (digits n).length := List.length_pos_iff.mpr (digits_ne_nil n)

theorem length_ullto4Str {n : Nat} (h : n < 2 ^ 31) :
    1 ≤ (ullto4Str n).length ∧ (ullto4Str n).length ≤ 10 := by
  have h10 : (digits n).length ≤ 10 := length_digitsAux (k := 9) (by omega) []
  have h1 := digits_ge n
  simp only [ullto4Str, List.length_append, List.length_replicate]
  omega

theorem no_nul_ullto4Str (n : Nat) : (0 : UInt8) ∉ ullto4Str n := by
  intro h
  rcases List.mem_append.mp h with h | h
  · exact absurd (List.eq_of_mem_replicate h) (by decide)
  · exact ne_zero_of_isDigit (isDigit_of_mem_digits _ h) rfl

theorem length_rowSep {i l : Nat} (h : i + l / 32 < 2 ^ 31) :
    (rowSep i l).length + 2 + textBound l ≤ textBound (l + 1) := by
  obtain ⟨-, hu⟩ := length_ullto4Str h
  unfold textBound rowCount
  by_cases h32 : l % 32 = 0
  · have h16 : l % 16 = 0 := by omega
    have hn : (if l = 0 then [] else [10] : Str).length ≤ 1 := by split <;> simp
    simp only [rowSep, if_pos h32, if_pos h16, List.length_append, List.length_singleton]
    omega
  · by_cases h16 : l % 16 = 0
    · simp only [rowSep, if_neg h32, if_pos h16, List.nil_append, List.length_singleton]
      omega
    · simp only [rowSep, if_neg h32, if_neg h16, List.append_nil, List.length_nil]
      omega

theorem no_nul_rowSep (i l : Nat) : (0 : UInt8) ∉ rowSep i l := by
  have hu := no_nul_ullto4Str (i + l / 32)
  unfold rowSep
  simp only [List.mem_append, not_or]
  constructor
  · split
    · split <;> simp [hu]
    · simp
  · split <;> simp

theorem no_nul_hexByte (b : UInt8) : (0 : UInt8) ∉ hexByte b := by
  have h1 : Json.hexDigit (b / 16) ≠ 0 := Json.hexDigit_ne_zero (by
    have := b.toNat_lt; rw [UInt8.toNat_div]; simp; omega)
  have h2 : Json.hexDigit (b % 16) ≠ 0 := Json.hexDigit_ne_zero (by
    rw [UInt8.toNat_mod]; exact Nat.mod_lt _ (by decide))
  simp [hexByte, h1.symm, h2.symm]

/-- The two characters that a round writes. -/
theorem szchar_hexByte (b : UInt8) :
    [szchar ((b >>> 4) &&& 0xf), szchar (b &&& 0xf)] = hexByte b := by
  have h : ∀ n : Fin 256, [szchar ((UInt8.ofNat n >>> 4) &&& 0xf), szchar (UInt8.ofNat n &&& 0xf)] =
      hexByte (UInt8.ofNat n) := by decide +kernel
  have hb := h ⟨b.toNat, b.toNat_lt⟩
  rwa [UInt8.ofNat_toNat] at hb

namespace FormLog

/-- The variables when `szbuf` of `n` bytes holds the text and zeros. -/
def of (n : Nat) (text : Str) (lsize headlen index : Nat) : FormLog :=
  ⟨text ++ List.replicate (n - text.length) 0, text.length, lsize, headlen, index⟩

variable {n : Nat} {text : Str} {lsize headlen index : Nat}

theorem append_of (h : text.length < n) (b : UInt8) :
    (of n text lsize headlen index).append b = some (of n (text ++ [b]) lsize headlen index) := by
  obtain ⟨k, rfl⟩ : ∃ k, n = text.length + (k + 1) := ⟨n - text.length - 1, by omega⟩
  have h1 : text.length + (k + 1) - text.length = k + 1 := by omega
  have h2 : text.length + (k + 1) - (text ++ [b]).length = k := by simp; omega
  have hset : (text ++ 0 :: List.replicate k 0).set text.length b =
      text ++ [b] ++ List.replicate k 0 := by
    rw [List.set_append_right _ _ (Nat.le_refl _)]
    simp
  simp only [FormLog.append, put, of, h1, h2, List.replicate_succ]
  rw [if_pos (by simp), hset]
  simp

theorem cstr_of (hn : (0 : UInt8) ∉ text) {k : Nat} :
    cstr (text ++ List.replicate k 0) = text := by
  have hp : ∀ b ∈ text, decide (b ≠ 0) = true := by
    intro b hb
    rw [decide_eq_true_eq]
    rintro rfl
    exact hn hb
  rw [cstr, List.takeWhile_append_of_pos hp]
  cases k <;> simp [List.replicate_succ]

theorem strcat_of (hn : (0 : UInt8) ∉ text) {s : Str} (h : text.length + s.length < n) :
    strcat (text ++ List.replicate (n - text.length) 0) s =
      some (text ++ s ++ List.replicate (n - (text ++ s).length) 0) := by
  obtain ⟨k, rfl⟩ : ∃ k, n = text.length + s.length + (k + 1) :=
    ⟨n - text.length - s.length - 1, by omega⟩
  have h1 : text.length + s.length + (k + 1) - text.length = s.length + 1 + k := by omega
  have h2 : text.length + s.length + (k + 1) - (text ++ s).length = k + 1 := by
    rw [List.length_append]; omega
  have hd : (text ++ List.replicate (s.length + 1 + k) (0 : UInt8)).drop
      (text.length + s.length + 1) = List.replicate k 0 := by
    rw [Nat.add_assoc, List.drop_length_add_append, List.drop_replicate]
    congr 1
    omega
  rw [strcat, h1, h2, cstr_of hn, if_pos (by simp; omega), hd, List.replicate_succ]

theorem number_of (hn : (0 : UInt8) ∉ text) (hroom : text.length + 11 < n)
    (hi : index < 2 ^ 31 - 1) : (of n text lsize headlen index).number =
      some (of n (text ++ (ullto4Str index ++ [32])) lsize (ullto4Str index ++ [32]).length
        (index + 1)) := by
  obtain ⟨-, hu⟩ := length_ullto4Str (n := index) (by omega)
  have hm : ((of n text lsize headlen index).index : Int) < maxInt := by
    show (index : Int) < maxInt
    unfold maxInt
    omega
  have hlen : text.length + (ullto4Str index ++ [32]).length < n := by
    rw [List.length_append, List.length_singleton]
    omega
  have hs : strcat (of n text lsize headlen index).szbuf (ullto4Str index ++ [32]) = _ :=
    strcat_of hn hlen
  rw [number, if_pos hm]
  simp only [show (of n text lsize headlen index).index = index from rfl, hs, Option.map_some]
  simp only [of, List.length_append]

/-- The head of a row. -/
theorem head_of (hn : (0 : UInt8) ∉ text) (hroom : text.length + 12 < n) (hi : index < 2 ^ 31 - 1) :
    (of n text lsize headlen index).head =
      some (of n (text ++ ((if headlen = 0 then [] else [10]) ++ (ullto4Str index ++ [32])))
        lsize (ullto4Str index ++ [32]).length (index + 1)) := by
  by_cases h0 : headlen = 0
  · rw [head, if_neg (fun h => h h0), Option.bind_some, number_of hn (by omega) hi, if_pos h0,
      List.nil_append]
  · have hn' : (0 : UInt8) ∉ text ++ [10] := by simp [hn]
    rw [head, if_pos (show (of n text lsize headlen index).headlen ≠ 0 from h0),
      append_of (by omega), Option.bind_some, number_of hn' (by simp; omega) hi, if_neg h0,
      List.append_assoc]

theorem hex_of (h : text.length + 1 < n) (b : UInt8) :
    (of n text lsize headlen index).hex b =
      some (of n (text ++ hexByte b) (lsize + 1) headlen index) := by
  rw [hex, append_of (by omega), Option.bind_some, append_of (by simp; omega), Option.map_some,
    ← szchar_hexByte, List.append_assoc]
  rfl

/-- **One round** writes what stands before the byte and the byte. -/
theorem byte_of {i l : Nat} (hn : (0 : UInt8) ∉ text) (hroom : text.length + 15 < n)
    (hi : i + l / 32 < 2 ^ 31 - 1) (hh : headlen = 0 ↔ l = 0) (b : UInt8) :
    ∃ h, (h = 0 ↔ l + 1 = 0) ∧ (of n text l headlen (i + rowCount l)).byte b =
      some (of n (text ++ (rowSep i l ++ hexByte b)) (l + 1) h (i + rowCount (l + 1))) := by
  by_cases h32 : l % 32 = 0
  · have h16 : l % 16 = 0 := by omega
    have hcount : rowCount l = l / 32 ∧ rowCount (l + 1) = l / 32 + 1 := by
      unfold rowCount; omega
    obtain ⟨-, hu⟩ := length_ullto4Str (n := i + l / 32) (by omega)
    have hne : (ullto4Str (i + l / 32) ++ [32]).length ≠ 0 := by simp
    have hsep : rowSep i l = (if headlen = 0 then [] else [10]) ++
        (ullto4Str (i + l / 32) ++ [32]) ++ [32] := by
      simp only [rowSep, if_pos h32, if_pos h16, hh]
    have hone : (if headlen = 0 then [] else [10] : Str).length ≤ 1 := by split <;> simp
    have hlen : (text ++ ((if headlen = 0 then [] else [10]) ++
        (ullto4Str (i + l / 32) ++ [32]))).length + 3 ≤ n := by
      simp only [List.length_append, List.length_singleton]
      omega
    refine ⟨(ullto4Str (i + l / 32) ++ [32]).length, by omega, ?_⟩
    have hl : (of n text l headlen (i + l / 32)).lsize % 32 = 0 := h32
    rw [hcount.1, hcount.2, byte, if_pos hl, head_of hn (by omega) hi, Option.bind_some,
      if_pos ⟨h16, hne⟩, append_of (by omega), Option.bind_some, hex_of (by rw [List.length_append, List.length_singleton]; omega), hsep,
      Nat.add_assoc]
    simp only [List.append_assoc]
  · have hcount : rowCount (l + 1) = rowCount l := by unfold rowCount; omega
    have h0 : headlen ≠ 0 := fun h => h32 (by rw [hh.mp h])
    refine ⟨headlen, by omega, ?_⟩
    rw [hcount, byte, if_neg (show ¬(of n text l headlen (i + rowCount l)).lsize % 32 = 0 from h32),
      Option.bind_some]
    by_cases h16 : l % 16 = 0
    · have hsep : rowSep i l = [32] := by simp only [rowSep, if_neg h32, if_pos h16]; rfl
      rw [if_pos ⟨h16, h0⟩, append_of (by omega), Option.bind_some, hex_of (by simp; omega), hsep,
        List.append_assoc]
    · have hsep : rowSep i l = [] := by simp only [rowSep, if_neg h32, if_neg h16]; rfl
      rw [if_neg (fun h => h16 h.1), Option.bind_some, hex_of (by omega), hsep, List.nil_append]

/-- **The loop** takes every byte: it never stops early, and stays in the buffer. -/
theorem loop_of {i : Nat} {bytes : List UInt8} {l : Nat} (hn : (0 : UInt8) ∉ text)
    (hlen : text.length ≤ textBound l) (hl : l + bytes.length ≤ 512)
    (hi : i + rowCount (l + bytes.length) ≤ 2 ^ 31 - 1) (hh : headlen = 0 ↔ l = 0) :
    ∃ h, loop 1544 bytes (of 1544 text l headlen (i + rowCount l)) =
        some (of 1544 (text ++ formText i l bytes) (l + bytes.length) h
          (i + rowCount (l + bytes.length))) ∧
      (0 : UInt8) ∉ text ++ formText i l bytes ∧
      (text ++ formText i l bytes).length ≤ textBound (l + bytes.length) := by
  induction bytes generalizing text l headlen with
  | nil => exact ⟨headlen, by simp [loop, formText], by simpa [formText] using hn,
      by simpa [formText] using hlen⟩
  | cons b bytes ih =>
    rw [List.length_cons] at hl hi
    have hrow : i + l / 32 < 2 ^ 31 - 1 := by
      unfold rowCount at hi; omega
    have hroom : text.length ≤ 1246 := by
      unfold textBound rowCount at hlen; omega
    obtain ⟨h, hz, hb⟩ := byte_of (n := 1544) hn (by omega) hrow hh b
    have hsep := length_rowSep (i := i) (l := l) (by omega)
    have hn' : (0 : UInt8) ∉ text ++ (rowSep i l ++ hexByte b) := by
      simp [hn, no_nul_rowSep, no_nul_hexByte]
    have hlen' : (text ++ (rowSep i l ++ hexByte b)).length ≤ textBound (l + 1) := by
      simp only [List.length_append, hexByte, List.length_cons, List.length_nil]
      omega
    have hshift : l + 1 + bytes.length = l + (bytes.length + 1) := by omega
    obtain ⟨h', hloop, hn'', hlen''⟩ := ih hn' hlen' (by omega) (by rw [hshift]; exact hi) hz
    refine ⟨h', ?_, ?_, ?_⟩
    · have hgo : (of 1544 text l headlen (i + rowCount l)).len + 10 < 1544 := by
        show text.length + 10 < 1544
        omega
      rw [loop, if_pos hgo, hb, Option.bind_some, hloop]
      simp only [formText, List.append_assoc, List.length_cons, hshift]
    · simpa only [formText, List.append_assoc] using hn''
    · simpa only [formText, List.append_assoc, List.length_cons, hshift] using hlen''

end FormLog

/-- **One call of `formLog`** for at most 512 bytes. -/
theorem formLog_chunk (i : Nat) (chunk : List UInt8) (hl : chunk.length ≤ 512)
    (hi : i + rowCount chunk.length ≤ 2 ^ 31 - 1) :
    ∃ s, formLog i zeroed zeroed.length chunk = some s ∧ s.lsize = chunk.length ∧
      s.index = i + rowCount chunk.length ∧ cstr s.szbuf = formText i 0 chunk ++ [10] := by
  have hz : zeroed.length = 1544 := List.length_replicate
  have hstart : (⟨zeroed, 0, 0, 0, i⟩ : FormLog) = .of 1544 [] 0 0 (i + rowCount 0) := rfl
  obtain ⟨h, hloop, hn, hlen⟩ := @FormLog.loop_of [] 0 i chunk 0
    (by simp) (by simp) (by omega) (by simpa using hi) (by simp)
  simp only [List.nil_append, Nat.zero_add] at hloop hn hlen
  have hroom : (formText i 0 chunk).length ≤ 1250 := by
    unfold textBound rowCount at hlen; omega
  refine ⟨.of 1544 (formText i 0 chunk ++ [10] ++ [0]) chunk.length h
    (i + rowCount chunk.length), ?_, rfl, rfl, ?_⟩
  · simp only [formLog, hz, hstart, hloop, Option.bind_eq_bind, Option.bind_some]
    rw [FormLog.append_of (by omega), Option.bind_some, FormLog.append_of (by simp; omega)]
  · have hn' : (0 : UInt8) ∉ formText i 0 chunk ++ [10] := by simp [hn]
    have hrep : ∀ k, formText i 0 chunk ++ [10] ++ [0] ++ List.replicate k (0 : UInt8) =
        formText i 0 chunk ++ [10] ++ List.replicate (k + 1) 0 := by
      intro k
      rw [List.append_assoc (formText i 0 chunk ++ [10]), List.replicate_succ]
      rfl
    simp only [FormLog.of, hrep]
    exact FormLog.cstr_of hn'

/-! ## From calls to rows -/

theorem formText_append (i l : Nat) (xs ys : List UInt8) :
    formText i l (xs ++ ys) = formText i l xs ++ formText i (l + xs.length) ys := by
  induction xs generalizing l with
  | nil => rfl
  | cons b xs ih =>
    have : l + 1 + xs.length = l + (xs.length + 1) := by omega
    simp only [List.cons_append, formText, ih, List.append_assoc, List.length_cons, this]

/-- Nothing stands between the bytes of a group. -/
theorem formText_inner (i : Nat) {l : Nat} {xs : List UInt8}
    (h : ∀ j, j < xs.length → (l + j) % 16 ≠ 0) : formText i l xs = xs.flatMap hexByte := by
  induction xs generalizing l with
  | nil => rfl
  | cons b xs ih =>
    have h0 : l % 16 ≠ 0 := by simpa using h 0 (by simp)
    have h32 : l % 32 ≠ 0 := by omega
    have hsep : rowSep i l = [] := by simp only [rowSep, if_neg h32, if_neg h0]; rfl
    rw [formText, hsep, List.nil_append, List.flatMap_cons, ih fun j hj => ?_]
    have := h (j + 1) (by simpa using hj)
    omega

theorem formText_group (i : Nat) {l : Nat} {xs : List UInt8} (hl : l % 16 = 0) (hne : xs ≠ [])
    (h16 : xs.length ≤ 16) : formText i l xs = rowSep i l ++ xs.flatMap hexByte := by
  cases xs with
  | nil => exact absurd rfl hne
  | cons b xs =>
    have hin : ∀ j, j < xs.length → (l + 1 + j) % 16 ≠ 0 := by
      intro j hj
      rw [List.length_cons] at h16
      omega
    rw [formText, formText_inner i hin, List.flatMap_cons, List.append_assoc]

/-- A row, on a new line unless it is the first of the call. -/
theorem formText_row (i m : Nat) {row : List UInt8} (hne : row ≠ []) (h32 : row.length ≤ 32) :
    formText i (32 * m) row = (if m = 0 then [] else [10]) ++ rowText (i + m) row := by
  have hdiv : 32 * m / 32 = m := by omega
  have h0 : (32 * m = 0) = (m = 0) := by rw [eq_iff_iff]; omega
  have hsep : rowSep i (32 * m) =
      (if m = 0 then [] else [10]) ++ (ullto4Str (i + m) ++ [32]) ++ [32] := by
    have h32 : 32 * m % 32 = 0 := by omega
    have h16 : 32 * m % 16 = 0 := by omega
    simp only [rowSep, if_pos h32, if_pos h16, hdiv, h0]
  have hfirst : row.take 16 ≠ [] := by simpa [List.take_eq_nil_iff] using hne
  have hsplit := formText_append i (32 * m) (row.take 16) (row.drop 16)
  rw [List.take_append_drop] at hsplit
  rw [hsplit, formText_group i (by omega) hfirst (by simp), hsep, rowText, hexGroup,
    if_neg hfirst]
  by_cases hsecond : row.drop 16 = []
  · rw [hsecond, hexGroup, if_pos rfl, formText]
    simp
  · have hlen : (row.take 16).length = 16 := by
      have : 16 < row.length := by simpa [List.drop_eq_nil_iff] using hsecond
      rw [List.length_take]
      omega
    have hmid : rowSep i (32 * m + 16) = [32] := by
      simp only [rowSep, if_neg (show ¬(32 * m + 16) % 32 = 0 by omega),
        if_pos (show (32 * m + 16) % 16 = 0 by omega), List.nil_append]
    rw [hlen, formText_group i (by omega) hsecond (by simp; omega), hmid, hexGroup, if_neg hsecond]
    simp

/-- The rows of a buffer that begin with row `i`. -/
def rowsFrom (i : Nat) (buffer : List UInt8) : Str :=
  (List.range (rowCount buffer.length)).flatMap fun k =>
    rowText (i + k) ((buffer.drop (32 * k)).take 32) ++ [10]

theorem rowsFrom_nil (i : Nat) : rowsFrom i [] = [] := rfl

theorem rowsFrom_step (i : Nat) {buffer : List UInt8} (hne : buffer ≠ []) :
    rowsFrom i buffer =
      rowText i (buffer.take 32) ++ [10] ++ rowsFrom (i + 1) (buffer.drop 32) := by
  have hpos := List.length_pos_iff.mpr hne
  have hcount : rowCount buffer.length = rowCount (buffer.drop 32).length + 1 := by
    rw [List.length_drop]
    unfold rowCount
    omega
  have hnext : ∀ k, rowText (i + k.succ) ((buffer.drop (32 * k.succ)).take 32) =
      rowText (i + 1 + k) (((buffer.drop 32).drop (32 * k)).take 32) := by
    intro k
    have h1 : i + k.succ = i + 1 + k := by omega
    have h2 : 32 * k.succ = 32 + 32 * k := by omega
    rw [h1, h2, List.drop_drop]
  rw [rowsFrom, hcount, List.range_succ_eq_map, List.flatMap_cons, List.flatMap_map]
  simp only [hnext, Nat.mul_zero, List.drop_zero, Nat.add_zero]
  rfl

theorem rowsFrom_append (i : Nat) {m : Nat} {xs : List UInt8} (hx : xs.length = 32 * m)
    (ys : List UInt8) : rowsFrom i (xs ++ ys) = rowsFrom i xs ++ rowsFrom (i + m) ys := by
  induction m generalizing i xs with
  | zero =>
    have hnil : xs = [] := List.length_eq_zero_iff.mp (by omega)
    rw [hnil, rowsFrom_nil]
    rfl
  | succ m ih =>
    have hne : xs ≠ [] := by rintro rfl; simp at hx
    have hne' : xs ++ ys ≠ [] := by simp [hne]
    rw [rowsFrom_step i hne', rowsFrom_step i hne, List.take_append_of_le_length (by omega),
      List.drop_append_of_le_length (by omega), ih (i + 1) (by rw [List.length_drop]; omega),
      show i + 1 + m = i + (m + 1) by omega, List.append_assoc _ (rowsFrom _ _)]

/-- The text of a call is its rows. -/
theorem formText_rows (i m : Nat) {bytes : List UInt8} (hne : bytes ≠ []) :
    formText i (32 * m) bytes ++ [10] = (if m = 0 then [] else [10]) ++ rowsFrom (i + m) bytes := by
  induction hn : bytes.length using Nat.strongRecOn generalizing m bytes with
  | ind n ih =>
    have hpos := List.length_pos_iff.mpr hne
    have hrow : bytes.take 32 ≠ [] := by simpa [List.take_eq_nil_iff] using hne
    have hsplit := formText_append i (32 * m) (bytes.take 32) (bytes.drop 32)
    rw [List.take_append_drop] at hsplit
    rw [hsplit, formText_row i m hrow (by simp), rowsFrom_step _ hne]
    by_cases hrest : bytes.drop 32 = []
    · simp [hrest, formText, rowsFrom_nil]
    · have hlen : (bytes.take 32).length = 32 := by
        have : 32 < bytes.length := by simpa [List.drop_eq_nil_iff] using hrest
        rw [List.length_take]
        omega
      have hnext := ih (bytes.drop 32).length (by rw [List.length_drop]; omega) (m + 1) hrest rfl
      rw [if_neg (by omega), show 32 * (m + 1) = 32 * m + 32 by omega,
        show i + (m + 1) = i + m + 1 by omega] at hnext
      rw [hlen, List.append_assoc, hnext]
      simp only [List.append_assoc]

/-- **The loop of `outputBinary`** from row `i`. -/
theorem binaryRows_eq {i : Nat} {buffer : List UInt8}
    (hi : i + rowCount buffer.length ≤ 2 ^ 31 - 1) : binaryRows i buffer = some (rowsFrom i buffer) := by
  induction hn : buffer.length using Nat.strongRecOn generalizing i buffer with
  | ind n ih =>
    rw [binaryRows]
    split
    · rename_i h
      rw [h, rowsFrom_nil]
    · rename_i hne
      rw [show PRINTSIZE = 512 from rfl]
      have hpos := List.length_pos_iff.mpr hne
      have hsplit : buffer.take 512 ++ buffer.drop 512 = buffer := List.take_append_drop 512 buffer
      have hlen : (buffer.take 512).length = min 512 buffer.length := List.length_take
      have hcount : rowCount (buffer.take 512).length + rowCount (buffer.drop 512).length =
          rowCount buffer.length := by
        rw [hlen, List.length_drop]
        unfold rowCount
        omega
      obtain ⟨s, hs, -, hindex, htext⟩ := formLog_chunk i (buffer.take 512)
        (by omega) (by omega)
      have hrest := ih (buffer.drop 512).length (by rw [List.length_drop]; omega)
        (i := i + rowCount (buffer.take 512).length) (by omega) rfl
      have hchunk : buffer.take 512 ≠ [] := by simpa [List.take_eq_nil_iff] using hne
      have hrows := formText_rows i 0 hchunk
      rw [Nat.mul_zero, if_pos rfl, List.nil_append, Nat.add_zero] at hrows
      simp only [hs, Option.bind_eq_bind, Option.bind_some, hindex, hrest, htext, hrows,
        Option.some.injEq]
      by_cases hd : buffer.drop 512 = []
      · have ht : buffer.take 512 = buffer := by
          rw [hd, List.append_nil] at hsplit
          exact hsplit
        rw [hd, rowsFrom_nil, List.append_nil, ht]
      · have h512 : (buffer.take 512).length = 32 * 16 := by
          have : 512 < buffer.length := by simpa [List.drop_eq_nil_iff] using hd
          omega
        have hadd := rowsFrom_append i h512 (buffer.drop 512)
        rw [hsplit] at hadd
        rw [hadd, h512]
        rfl

/-- **The dump is faithful**: behind the address line stand the rows of the buffer, every byte once
and in order, and no call of `formLog` stops before its last byte or leaves `szbuf`. -/
theorem dump_faithful (address : Int) {buffer : List UInt8}
    (h : rowCount buffer.length ≤ 2 ^ 31 - 1) :
    outputBinary address buffer = some (addressLine address buffer.length ++ dumpRows buffer) ∧
    ∀ k, PRINTSIZE * k < buffer.length →
      ∃ s, formLog (16 * k) zeroed zeroed.length ((buffer.drop (PRINTSIZE * k)).take PRINTSIZE) =
          some s ∧ s.lsize = ((buffer.drop (PRINTSIZE * k)).take PRINTSIZE).length := by
  constructor
  · have hrows : rowsFrom 0 buffer = dumpRows buffer := by simp only [rowsFrom, Nat.zero_add]; rfl
    rw [outputBinary, binaryRows_eq (by omega), hrows]
    rfl
  · intro k hk
    have hp : PRINTSIZE = 512 := rfl
    rw [hp] at hk ⊢
    have hlen : ((buffer.drop (512 * k)).take 512).length = min 512 (buffer.length - 512 * k) := by
      rw [List.length_take, List.length_drop]
    obtain ⟨s, hs, hsize, -⟩ := formLog_chunk (16 * k)
      ((buffer.drop (512 * k)).take 512) (by omega) (by rw [hlen]; unfold rowCount at h ⊢; omega)
    exact ⟨s, hs, hsize⟩

/-- A buffer of 33 bytes. -/
theorem dump_faithful_33 : outputBinary 16 (List.replicate 33 10) =
    some (addressLine 16 33 ++ dumpRows (List.replicate 33 10)) :=
  (dump_faithful 16 (by decide)).1

example : dumpRows (List.replicate 17 10) =
    txt "000000  0a0a0a0a0a0a0a0a0a0a0a0a0a0a0a0a 0a\n" := by decide +kernel

end QtChat
