import Mathlib.Data.List.Perm.Subperm
import QtChat.Properties.ConfigParse

/-!
# Rewriting the configuration

`setConfigValue` with a key of the map and its value, and the file that `writeFile` leaves, read
again.

- `Clean`: what an entry of a loaded map is (`clean_of_lookup`). Its pair, written whole, is read as
  this entry (`lineEntry_pairLine`).
- `Fits`: every pair but the last is whole in `szPaire`, the last up to its newline.
- `pieceEntries_fits`: pairs that fit are read back.
- `length_pieceEntries_glued`: a pair without its newline and the next one are read as one line, and
  the file has fewer entries.
-/

namespace QtChat

namespace ConfigFile

open CConfigFileReader

/-! ## What the reader makes -/

/-- An entry as `parseLine` makes it. -/
structure Clean (e : Str × Str) : Prop where
  key_trim : trim e.1 = e.1
  key_ne : e.1 ≠ []
  key_bytes : (0 : UInt8) ∉ e.1 ∧ (10 : UInt8) ∉ e.1 ∧ (35 : UInt8) ∉ e.1 ∧ (61 : UInt8) ∉ e.1
  value_trim : trim e.2 = e.2
  value_ne : e.2 ≠ []
  value_bytes : (0 : UInt8) ∉ e.2 ∧ (10 : UInt8) ∉ e.2 ∧ (35 : UInt8) ∉ e.2

theorem trim_sublist (s : Str) : (trim s).Sublist s :=
  (List.rdropWhile_prefix CConfigFileReader.isSpace _).sublist.trans (List.dropWhile_sublist _)

theorem trim_trim (s : Str) : trim (trim s) = trim s := by
  have hpre : trim s <+: s.dropWhile CConfigFileReader.isSpace :=
    List.rdropWhile_prefix CConfigFileReader.isSpace _
  have hstart : (trim s).dropWhile CConfigFileReader.isSpace = trim s := by
    rw [List.dropWhile_eq_self_iff]
    intro hpos
    rw [hpre.getElem hpos]
    exact List.dropWhile_get_zero_not CConfigFileReader.isSpace s (hpos.trans_le hpre.length_le)
  rw [trim, hstart, trim, List.rdropWhile_idempotent]

theorem lineEntry_some {line : Str} {e : Str × Str} (h : lineEntry line = some e) :
    let text := line.takeWhile (· ≠ 35)
    (61 : UInt8) ∈ text ∧ e.1 = trim (text.takeWhile (· ≠ 61)) ∧ e.1 ≠ [] ∧
      e.2 = trim ((text.dropWhile (· ≠ 61)).drop 1) ∧ e.2 ≠ [] := by
  simp only [lineEntry] at h
  split at h
  · rename_i hgiven
    cases h
    exact ⟨hgiven.1, rfl, hgiven.2.1, rfl, hgiven.2.2⟩
  · cases h

/-- Without its newline a line gives a clean entry. -/
theorem lineEntry_clean {line : Str} {e : Str × Str} (h0 : (0 : UInt8) ∉ line)
    (h10 : (10 : UInt8) ∉ line) (h : lineEntry line = some e) : Clean e := by
  obtain ⟨-, hkey, hk, hvalue, hv⟩ := lineEntry_some h
  have htext := List.takeWhile_sublist (· ≠ (35 : UInt8)) (l := line)
  have hkeys : e.1.Sublist ((line.takeWhile (· ≠ 35)).takeWhile (· ≠ 61)) :=
    hkey ▸ trim_sublist _
  have hkline := (hkeys.trans (List.takeWhile_sublist _)).trans htext
  have hvtext : e.2.Sublist (line.takeWhile (· ≠ 35)) :=
    hvalue ▸ (trim_sublist _).trans ((List.drop_sublist _ _).trans (List.dropWhile_sublist _))
  have h35 := not_mem_takeWhile 35 line
  constructor
  · rw [hkey, trim_trim]
  · exact hk
  · refine ⟨fun hb => h0 (hkline.mem hb), fun hb => h10 (hkline.mem hb), fun hb => ?_, fun hb => ?_⟩
    · exact h35 ((hkeys.trans (List.takeWhile_sublist _)).mem hb)
    · exact not_mem_takeWhile 61 _ (hkeys.mem hb)
  · rw [hvalue, trim_trim]
  · exact hv
  · have hvline := hvtext.trans htext
    exact ⟨fun hb => h0 (hvline.mem hb), fun hb => h10 (hvline.mem hb),
      fun hb => h35 (hvtext.mem hb)⟩

/-- The newline of what `fgets` reads is its last byte. -/
theorem fgets_newline {size : Nat} {fp buf rest : Str} (h : fgets size fp = some (buf, rest)) :
    (10 : UInt8) ∉ buf.dropLast := by
  obtain ⟨-, n, hn, rfl, -⟩ := fgets_some h
  have hfile : (fp.take n).dropLast <+: fp := (List.dropLast_prefix _).trans (List.take_prefix _ _)
  have hline : fp.takeWhile (· ≠ 10) <+: fp := List.takeWhile_prefix _
  have hle : (fp.take n).dropLast.length ≤ (fp.takeWhile (· ≠ 10)).length := by
    rw [List.length_dropLast, List.length_take]
    omega
  have hfront := List.prefix_of_prefix_length_le hfile hline hle
  exact fun hb => not_mem_takeWhile 10 fp (hfront.sublist.mem hb)

/-- A buffer edited in place: no newline is left in it, and no NUL. -/
theorem chomp_cstr {buf : Str} (h : (10 : UInt8) ∉ buf.dropLast) :
    (0 : UInt8) ∉ chomp (cstr buf) ∧ (10 : UInt8) ∉ chomp (cstr buf) := by
  have hpre : cstr buf <+: buf := List.takeWhile_prefix _
  have hlast : (10 : UInt8) ∉ (cstr buf).dropLast := by
    have hd : (cstr buf).dropLast <+: buf.dropLast := by
      refine List.prefix_of_prefix_length_le ((List.dropLast_prefix _).trans hpre)
        (List.dropLast_prefix _) ?_
      rw [List.length_dropLast, List.length_dropLast]
      exact Nat.sub_le_sub_right hpre.length_le 1
    exact fun hb => h (hd.sublist.mem hb)
  have h0 : (0 : UInt8) ∉ cstr buf := not_mem_takeWhile 0 buf
  unfold chomp
  split
  · exact ⟨fun hb => h0 ((List.dropLast_sublist _).mem hb), hlast⟩
  · rename_i hend
    refine ⟨h0, fun hb => hlast ?_⟩
    exact List.mem_dropLast_of_mem_of_ne_getLast? hb fun heq => hend heq.symm

/-- **A loaded map** has clean entries, whatever the file. -/
theorem clean_loop (fp : Str) {m : ConfigMap} (hm : ∀ k v, m.lookup k = some v → Clean (k, v))
    {key value : Str} (h : (loop fp m).lookup key = some value) : Clean (key, value) := by
  fun_induction loop fp m with
  | case1 fp m hf => exact hm key value h
  | case2 fp m buf rest hf ih =>
    refine ih ?_ h
    intro k v hk
    rw [loadBuf_eq, lookup_insertEntry, Option.or_eq_some_iff] at hk
    rcases hk with hk | ⟨-, hk⟩
    · exact hm k v hk
    · obtain ⟨h0, h10⟩ := chomp_cstr (fgets_newline hf)
      exact lineEntry_clean h0 h10 (Option.mem_toList.mp (mem_of_firstValue hk))

theorem clean_of_lookup {file key value : Str}
    (h : (loadFile (some file)).m_config_map.lookup key = some value) : Clean (key, value) :=
  clean_loop file (by simp) h

/-! ## The entries in order -/

theorem mem_inOrder {m : ConfigMap} {key value : Str} :
    (key, value) ∈ m.inOrder ↔ m.lookup key = some value := by
  rw [ConfigMap.inOrder, (List.perm_insertionSort _ _).mem_iff, List.mem_map]
  constructor
  · rintro ⟨e, he, heq⟩
    cases heq
    exact AList.mem_lookup_iff.mpr he
  · intro h
    exact ⟨⟨key, value⟩, AList.mem_lookup_iff.mp h, rfl⟩

theorem nodup_inOrder (m : ConfigMap) : (m.inOrder.map Prod.fst).Nodup := by
  rw [ConfigMap.inOrder, ((List.perm_insertionSort _ _).map _).nodup_iff, List.map_map]
  exact m.nodupKeys

/-- The value of a key that stands once. -/
theorem firstValue_iff {entries : List (Str × Str)} (h : (entries.map Prod.fst).Nodup)
    {key value : Str} : firstValue entries key = some value ↔ (key, value) ∈ entries := by
  refine ⟨mem_of_firstValue, fun hmem => ?_⟩
  induction entries with
  | nil => cases hmem
  | cons e entries ih =>
    rw [List.map_cons, List.nodup_cons] at h
    rw [firstValue, List.find?_cons]
    rcases List.mem_cons.mp hmem with rfl | hmem
    · simp
    · have hne : e.1 ≠ key := by
        rintro rfl
        exact h.1 (List.mem_map.mpr ⟨_, hmem, rfl⟩)
      rw [decide_eq_false hne]
      exact ih h.2 hmem

theorem firstValue_inOrder (m : ConfigMap) (key : Str) :
    firstValue m.inOrder key = m.lookup key := by
  apply Option.ext
  intro value
  rw [firstValue_iff (nodup_inOrder m), mem_inOrder]

/-! ## A pair of the file -/

/-- The line of an entry. -/
def pairLine (e : Str × Str) : Str := e.1 ++ 61 :: e.2

theorem Clean.bytes {e : Str × Str} (h : Clean e) :
    (0 : UInt8) ∉ pairLine e ∧ (10 : UInt8) ∉ pairLine e ∧ (35 : UInt8) ∉ pairLine e := by
  obtain ⟨-, -, ⟨k0, k10, k35, -⟩, -, -, v0, v10, v35⟩ := h
  simp only [pairLine, List.mem_append, List.mem_cons, not_or]
  exact ⟨⟨k0, by decide, v0⟩, ⟨k10, by decide, v10⟩, ⟨k35, by decide, v35⟩⟩

/-- **A pair is read as its entry.** -/
theorem lineEntry_pairLine {e : Str × Str} (h : Clean e) : lineEntry (pairLine e) = some e := by
  have h61 := h.key_bytes.2.2.2
  simp only [lineEntry, takeWhile_of_not_mem h.bytes.2.2]
  simp only [pairLine, takeWhile_stop h61, dropWhile_stop h61, List.drop_one, List.tail_cons,
    h.key_trim, h.value_trim]
  rw [if_pos ⟨by simp, h.key_ne, h.value_ne⟩]

/-- The pair of an entry is not longer than the line it was read from. -/
theorem lineEntry_length {line : Str} {e : Str × Str} (h : lineEntry line = some e) :
    (pairLine e).length ≤ line.length := by
  obtain ⟨h61, hkey, -, hvalue, -⟩ := lineEntry_some h
  generalize htext : line.takeWhile (· ≠ 35) = text at h61 hkey hvalue
  have hline : text.length ≤ line.length := by
    rw [← htext]
    exact (List.takeWhile_sublist _).length_le
  obtain ⟨front, back, rfl, hfront⟩ := List.eq_append_cons_of_mem h61
  have hk : e.1.length ≤ front.length := by
    rw [hkey, takeWhile_stop hfront]
    exact (trim_sublist front).length_le
  have hv : e.2.length ≤ back.length := by
    rw [hvalue, dropWhile_stop hfront]
    exact (trim_sublist back).length_le
  rw [List.length_append, List.length_cons] at hline
  rw [pairLine, List.length_append, List.length_cons]
  omega

theorem szPaire_eq {e : Str × Str} (h : Clean e) :
    szPaire e.1 e.2 = (pairLine e ++ [10]).take 127 := by
  rw [szPaire, snprintf, cstr_of_no_nul h.key_bytes.1, cstr_of_no_nul h.value_bytes.1, pairLine,
    List.append_assoc, List.cons_append]

/-- A pair that `szPaire` holds with its newline. -/
theorem szPaire_whole {e : Str × Str} (h : Clean e) (hlen : (pairLine e).length ≤ 126) :
    szPaire e.1 e.2 = pairLine e ++ [10] := by
  rw [szPaire_eq h, List.take_of_length_le]
  rw [List.length_append, List.length_singleton]
  omega

/-- A longer one loses its newline. -/
theorem szPaire_cut {e : Str × Str} (h : Clean e) (hlen : 126 < (pairLine e).length) :
    szPaire e.1 e.2 = (pairLine e).take 127 := by
  rw [szPaire_eq h, List.take_append_of_le_length (by omega)]

/-- The file that the loop of `writeFile` leaves. -/
def written (es : List (Str × Str)) : Str := es.flatMap fun e => szPaire e.1 e.2

theorem no_nul_written {es : List (Str × Str)} (hclean : ∀ e ∈ es, Clean e) :
    (0 : UInt8) ∉ written es := by
  rw [written, List.mem_flatMap]
  rintro ⟨e, he, hb⟩
  rw [szPaire_eq (hclean e he)] at hb
  have hmem := List.mem_of_mem_take hb
  rw [List.mem_append] at hmem
  rcases hmem with hmem | hmem
  · exact (hclean e he).bytes.1 hmem
  · exact absurd hmem (by decide)

theorem written_concat (es : List (Str × Str)) (e : Str × Str) :
    written (es ++ [e]) = written es ++ szPaire e.1 e.2 := by
  simp [written]

/-- Every pair but the last one is in `szPaire` with its newline, the last one but for it. -/
def Fits (es : List (Str × Str)) : Prop :=
  (∀ e ∈ es.dropLast, (pairLine e).length ≤ 126) ∧ ∀ e ∈ es.getLast?, (pairLine e).length ≤ 127

theorem Fits.mem {es : List (Str × Str)} (h : Fits es) {e : Str × Str} (he : e ∈ es) :
    (pairLine e).length ≤ 127 := by
  by_cases hlast : es.getLast? = some e
  · exact h.2 e hlast
  · exact (h.1 e (List.mem_dropLast_of_mem_of_ne_getLast? he (Ne.symm hlast))).trans (by decide)

theorem fits_of_le {es : List (Str × Str)} (h : ∀ e ∈ es, (pairLine e).length ≤ 126) : Fits es :=
  ⟨fun e he => h e ((List.dropLast_sublist _).mem he),
    fun e he => (h e (List.mem_of_getLast? he)).trans (by decide)⟩

/-! ## Pairs that fit -/

theorem pieceEntries_nil : pieceEntries [] = [] := rfl

/-- One pair with its newline, and the rest of the file. -/
theorem pieceEntries_whole {e : Str × Str} (h : Clean e) (hlen : (pairLine e).length ≤ 126)
    (rest : Str) : pieceEntries (szPaire e.1 e.2 ++ rest) = e :: pieceEntries rest := by
  rw [szPaire_whole h hlen, List.append_assoc, List.singleton_append,
    pieceEntries_line h.bytes.2.1, filterMap_pieces_short (by omega), lineEntry_pairLine h]
  rfl

theorem pieceEntries_wholes {es : List (Str × Str)} (hclean : ∀ e ∈ es, Clean e)
    (h : ∀ e ∈ es, (pairLine e).length ≤ 126) (rest : Str) :
    pieceEntries (written es ++ rest) = es ++ pieceEntries rest := by
  induction es with
  | nil => rfl
  | cons e es ih =>
    rw [written, List.flatMap_cons, List.append_assoc,
      pieceEntries_whole (hclean e List.mem_cons_self) (h e List.mem_cons_self), List.cons_append]
    exact congrArg (e :: ·) (ih (fun e he => hclean e (List.mem_cons_of_mem _ he))
      fun e he => h e (List.mem_cons_of_mem _ he))

/-- The last pair, when it has lost its newline. -/
theorem pieceEntries_end {e : Str × Str} (h : Clean e) (hcut : 126 < (pairLine e).length) :
    pieceEntries (szPaire e.1 e.2) = (lineEntry ((pairLine e).take 127)).toList := by
  rw [szPaire_cut h hcut, pieceEntries_last fun hb => h.bytes.2.1 (List.mem_of_mem_take hb),
    filterMap_pieces_short]
  rw [List.length_take]
  omega

/-- **Pairs that fit are read back.** -/
theorem pieceEntries_fits {es : List (Str × Str)} (hclean : ∀ e ∈ es, Clean e) (h : Fits es) :
    pieceEntries (written es) = es := by
  rcases List.eq_nil_or_concat' es with rfl | ⟨init, e, rfl⟩
  · rfl
  · have he := hclean e (by simp)
    have hinit : ∀ e ∈ init, Clean e := fun e hmem => hclean e (List.mem_append_left _ hmem)
    have hfits : ∀ e ∈ init, (pairLine e).length ≤ 126 := by
      intro e hmem
      exact h.1 e (by rwa [List.dropLast_concat])
    have hlast : (pairLine e).length ≤ 127 := h.2 e (by simp)
    rw [written_concat, pieceEntries_wholes hinit hfits]
    congr 1
    by_cases hshort : (pairLine e).length ≤ 126
    · have hwhole := pieceEntries_whole he hshort []
      rwa [List.append_nil, pieceEntries_nil] at hwhole
    · rw [pieceEntries_end he (by omega), List.take_of_length_le hlast, lineEntry_pairLine he]
      rfl

/-! ## A pair without its newline -/

theorem length_filterMap_pieces (line : Str) :
    ((pieces line).filterMap lineEntry).length ≤ (line.length + 254) / 255 := by
  refine (List.length_filterMap_le _ _).trans (le_of_eq ?_)
  rw [pieces, List.length_map, List.length_range]

/-- Behind `j` pairs that have lost their newlines: no more entries than pairs, and fewer if one of
the pairs is glued to another. -/
theorem length_pieceEntries_glued {es : List (Str × Str)} (hclean : ∀ e ∈ es, Clean e)
    {j : Nat} {front : Str} (hlen : front.length = 127 * j) (hline : (10 : UInt8) ∉ front) :
    (pieceEntries (front ++ written es)).length ≤ j + es.length ∧
      (1 ≤ j → 2 ≤ j + es.length →
        (pieceEntries (front ++ written es)).length < j + es.length) := by
  induction es generalizing j front with
  | nil =>
    rw [written, List.flatMap_nil, List.append_nil, pieceEntries_last hline]
    have := length_filterMap_pieces front
    rw [hlen] at this
    simp only [List.length_nil]
    omega
  | cons e es ih =>
    have he := hclean e List.mem_cons_self
    have hrest : ∀ e ∈ es, Clean e := fun e hmem => hclean e (List.mem_cons_of_mem _ hmem)
    rw [written, List.flatMap_cons, ← List.append_assoc, List.length_cons]
    by_cases hshort : (pairLine e).length ≤ 126
    · -- the newline of this pair ends the line
      have hglued : (10 : UInt8) ∉ front ++ pairLine e := by
        rw [List.mem_append, not_or]
        exact ⟨hline, he.bytes.2.1⟩
      have hentries := length_filterMap_pieces (front ++ pairLine e)
      have hnone : ([] : Str).length = 127 * 0 := rfl
      obtain ⟨hle, -⟩ := ih hrest hnone (by simp)
      rw [szPaire_whole he hshort, ← List.append_assoc, List.append_assoc _ [10],
        List.singleton_append, pieceEntries_line hglued, List.length_append]
      rw [List.length_append, hlen] at hentries
      simp only [List.nil_append, written] at hle
      omega
    · have hcut : (front ++ szPaire e.1 e.2).length = 127 * (j + 1) := by
        rw [szPaire_cut he (by omega), List.length_append, List.length_take, hlen]
        omega
      have hglued : (10 : UInt8) ∉ front ++ szPaire e.1 e.2 := by
        rw [szPaire_cut he (by omega), List.mem_append, not_or]
        exact ⟨hline, fun hb => he.bytes.2.1 (List.mem_of_mem_take hb)⟩
      obtain ⟨hle, hlt⟩ := ih hrest hcut hglued
      simp only [written] at hle hlt
      omega

/-- **A pair that is cut before another one** costs an entry. -/
theorem length_pieceEntries_cut {es : List (Str × Str)} (hclean : ∀ e ∈ es, Clean e)
    {e : Str × Str} (he : e ∈ es.dropLast) (hcut : 126 < (pairLine e).length) :
    (pieceEntries (written es)).length < es.length := by
  induction es with
  | nil => cases he
  | cons first es ih =>
    have hne : es ≠ [] := by
      rintro rfl
      cases he
    have hpos := List.length_pos_iff.mpr hne
    have hfirst := hclean first List.mem_cons_self
    have hrest : ∀ e ∈ es, Clean e := fun e hmem => hclean e (List.mem_cons_of_mem _ hmem)
    rw [written, List.flatMap_cons, List.length_cons]
    by_cases hshort : (pairLine first).length ≤ 126
    · rw [List.dropLast_cons_of_ne_nil hne, List.mem_cons] at he
      rcases he with rfl | he
      · omega
      · rw [pieceEntries_whole hfirst hshort, List.length_cons]
        exact Nat.succ_lt_succ (ih hrest he)
    · have hlen : (szPaire first.1 first.2).length = 127 * 1 := by
        rw [szPaire_cut hfirst (by omega), List.length_take]
        omega
      have hline : (10 : UInt8) ∉ szPaire first.1 first.2 := by
        rw [szPaire_cut hfirst (by omega)]
        exact fun hb => hfirst.bytes.2.1 (List.mem_of_mem_take hb)
      have hlt := (length_pieceEntries_glued hrest hlen hline).2 le_rfl (by omega)
      rw [written] at hlt
      omega

/-- Entries that are read back, by their keys, fit. -/
theorem fits_of_same {es : List (Str × Str)} (hclean : ∀ e ∈ es, Clean e)
    (hnodup : (es.map Prod.fst).Nodup)
    (h : ∀ key, firstValue (pieceEntries (written es)) key = firstValue es key) : Fits es := by
  have hread : ∀ e ∈ es, e ∈ pieceEntries (written es) := by
    intro e he
    exact mem_of_firstValue ((h e.1).trans ((firstValue_iff hnodup).mpr he))
  have hall : ∀ e ∈ es.dropLast, (pairLine e).length ≤ 126 := by
    intro e he
    by_contra hcut
    have hfew := length_pieceEntries_cut hclean he (by omega)
    have hmany := ((hnodup.of_map Prod.fst).subperm hread).length_le
    omega
  refine ⟨hall, fun e he => ?_⟩
  by_contra hcut
  -- the last pair is a line of its own
  obtain ⟨init, rfl⟩ := List.getLast?_eq_some_iff.mp he
  rw [List.dropLast_concat] at hall
  have hlast := hclean e (by simp)
  have hmem := hread e (by simp)
  rw [written_concat, pieceEntries_wholes (fun e he => hclean e (List.mem_append_left _ he)) hall,
    pieceEntries_end hlast (by omega), List.mem_append] at hmem
  rcases hmem with hmem | hmem
  · have := hall e hmem
    omega
  · have hle := lineEntry_length (Option.mem_toList.mp hmem)
    rw [List.length_take] at hle
    omega

/-! ## The file that is written -/

theorem writePairs_all {short : Nat → Option Nat} {es : List (Str × Str)} {n : Nat}
    (h : ∀ i < es.length, short (n + i) = none) : writePairs short n es = (0, written es) := by
  induction es generalizing n with
  | nil => rfl
  | cons e es ih =>
    have hfirst : short n = none := h 0 (Nat.succ_pos _)
    have hrest : writePairs short (n + 1) es = (0, written es) := by
      apply ih
      intro i hi
      rw [Nat.add_assoc, Nat.add_comm 1]
      exact h (i + 1) (Nat.succ_lt_succ hi)
    simp only [writePairs, hfirst, hrest, written, List.flatMap_cons]

theorem writePairs_zero {short : Nat → Option Nat} {es : List (Str × Str)} {n : Nat}
    (h : (writePairs short n es).1 = 0) : ∀ i < es.length, short (n + i) = none := by
  induction es generalizing n with
  | nil =>
    intro i hi
    cases hi
  | cons e es ih =>
    simp only [writePairs] at h
    split at h
    · cases h
    · rename_i hfirst
      intro i hi
      cases i with
      | zero => exact hfirst
      | succ i =>
        rw [← Nat.add_assoc, Nat.add_right_comm]
        exact ih h i (Nat.lt_of_succ_lt_succ hi)

/-- A value that is there already stays as it is. -/
theorem setConfigValue_same {file key value : Str} (out : Output)
    (h : (loadFile (some file)).m_config_map.lookup key = some value) :
    (loadFile (some file)).setConfigValue out key value =
      (loadFile (some file), (loadFile (some file)).writeFile out) := by
  have hkey : cstr key = key := cstr_of_no_nul (clean_of_lookup h).key_bytes.1
  have hvalue : cstr value = value := cstr_of_no_nul (clean_of_lookup h).value_bytes.1
  have hreplace : (loadFile (some file)).m_config_map.replace key value =
      (loadFile (some file)).m_config_map :=
    AList.ext (List.kreplace_self (AList.nodupKeys _) (AList.mem_lookup_iff.mp h))
  have hok : (loadFile (some file)).m_load_ok = true := rfl
  simp only [setConfigValue, hok, hvalue]
  rw [hkey, h, hreplace]
  rfl

theorem clean_inOrder (file : Str) :
    ∀ e ∈ (loadFile (some file)).m_config_map.inOrder, Clean e :=
  fun _ he => clean_of_lookup (mem_inOrder.mp he)

/-- `setConfigValue` returns 0, and the file is read as the map of `r`. -/
def Rewritten (r : CConfigFileReader) (out : Output) (key value : Str) : Prop :=
  ∃ file, (r.setConfigValue out key value).2 = (0, some file) ∧
    ∀ k, (loadFile (some file)).m_config_map.lookup k = r.m_config_map.lookup k

/-- When `writeFile` returns 0, and what it leaves. -/
theorem writeFile_iff {r : CConfigFileReader} {out : Output} {file : Str} :
    r.writeFile out = (0, some file) ↔
      out.opens = true ∧ (∀ n < r.m_config_map.inOrder.length, out.short n = none) ∧
        file = written r.m_config_map.inOrder := by
  rw [writeFile]
  constructor
  · intro h
    split at h
    · cases h
    · rename_i hopens
      rw [Bool.not_eq_true', Bool.not_eq_false] at hopens
      simp only [Prod.mk.injEq, Option.some.injEq] at h
      have hall : ∀ n < r.m_config_map.inOrder.length, out.short n = none := by
        intro n hn
        have := writePairs_zero h.1 n hn
        rwa [Nat.zero_add] at this
      refine ⟨hopens, hall, ?_⟩
      rw [← h.2, writePairs_all (by simpa using hall)]
  · rintro ⟨hopens, hall, rfl⟩
    rw [hopens, writePairs_all (by simpa using hall)]
    rfl

/-- The written file is read as the map it was written from just if its pairs fit. -/
theorem same_iff_fits {m : ConfigMap} (hclean : ∀ e ∈ m.inOrder, Clean e) :
    (∀ k, (loadFile (some (written m.inOrder))).m_config_map.lookup k = m.lookup k) ↔
      Fits m.inOrder := by
  simp only [lookup_loadFile (no_nul_written hclean), ← firstValue_inOrder m]
  constructor
  · exact fits_of_same hclean (nodup_inOrder m)
  · intro h k
    rw [pieceEntries_fits hclean h]

theorem fits_of_rewritten {file key value : Str} {out : Output}
    (h : (loadFile (some file)).m_config_map.lookup key = some value)
    (hrw : Rewritten (loadFile (some file)) out key value) :
    out.opens = true ∧
      (∀ n < (loadFile (some file)).m_config_map.inOrder.length, out.short n = none) ∧
      Fits (loadFile (some file)).m_config_map.inOrder := by
  obtain ⟨file', hwrite, hsame⟩ := hrw
  rw [setConfigValue_same out h] at hwrite
  obtain ⟨hopens, hall, rfl⟩ := writeFile_iff.mp hwrite
  exact ⟨hopens, hall, (same_iff_fits (clean_inOrder file)).mp hsame⟩

/-- **When the rewritten file has the same map**: it opens, every `fwrite` writes all, and no pair
but the last is longer than 126 bytes without its newline, the last not longer than 127. -/
theorem rewritten_iff {file key value : Str} (out : Output)
    (h : (loadFile (some file)).m_config_map.lookup key = some value) :
    Rewritten (loadFile (some file)) out key value ↔
      out.opens = true ∧
        (∀ n < (loadFile (some file)).m_config_map.inOrder.length, out.short n = none) ∧
        Fits (loadFile (some file)).m_config_map.inOrder := by
  refine ⟨fits_of_rewritten h, ?_⟩
  rintro ⟨hopens, hall, hfits⟩
  rw [Rewritten, setConfigValue_same out h]
  exact ⟨_, writeFile_iff.mpr ⟨hopens, hall, rfl⟩, (same_iff_fits (clean_inOrder file)).mpr hfits⟩

theorem length_le_of_mem_pieces {line piece : Str} (h : piece ∈ pieces line) :
    piece.length ≤ line.length := by
  obtain ⟨k, -, rfl⟩ := List.mem_map.mp h
  exact ((List.take_sublist _ _).trans (List.drop_sublist _ _)).length_le

/-- A file with short lines. -/
theorem fits_of_lines {file : Str} (h0 : (0 : UInt8) ∉ file)
    (h : ∀ line ∈ file.splitOn 10, line.length ≤ 126) :
    Fits (loadFile (some file)).m_config_map.inOrder := by
  refine fits_of_le fun e he => ?_
  have hlookup := mem_inOrder.mp he
  rw [lookup_loadFile h0] at hlookup
  obtain ⟨line, hline, hpiece⟩ := List.mem_flatMap.mp (mem_of_firstValue hlookup)
  obtain ⟨piece, hmem, hentry⟩ := List.mem_filterMap.mp hpiece
  exact (lineEntry_length hentry).trans ((length_le_of_mem_pieces hmem).trans (h line hline))

/-- Two short entries. -/
theorem rewritten_short :
    Rewritten (loadFile (some (txt "b = 2\na=1 # x\n"))) {} (txt "a") (txt "1") := by
  have hnul : (0 : UInt8) ∉ txt "b = 2\na=1 # x\n" := by decide +kernel
  refine (rewritten_iff {} ?_).mpr ⟨rfl, fun _ _ => rfl, fits_of_lines hnul (by decide +kernel)⟩
  rw [lookup_loadFile hnul]
  decide +kernel

/-- A value of 130 bytes, and another entry behind it: the rewritten file has the one line
`a=xx…xb=1`. -/
def longValue : Str := txt "a=" ++ (List.replicate 130 120 ++ txt "\nb=1\n")

theorem rewritten_loses :
    ¬ ∀ file key value, (loadFile (some file)).m_config_map.lookup key = some value →
      Rewritten (loadFile (some file)) {} key value := by
  intro h
  have hlookup : (loadFile (some longValue)).m_config_map.lookup (txt "a") =
      some (List.replicate 130 120) := by
    rw [lookup_loadFile (by decide +kernel)]
    decide +kernel
  obtain ⟨-, -, hfits⟩ := fits_of_rewritten hlookup (h _ _ _ hlookup)
  exact absurd (hfits.mem (mem_inOrder.mpr hlookup)) (by decide +kernel)

end ConfigFile

end QtChat
