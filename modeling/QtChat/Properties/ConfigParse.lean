import QtChat.Config.ConfigFileReader

/-!
# Reading the configuration

The map that `loadFile` builds, against the file read line by line.

- `lineEntry`: what a line says; `reference`: what the lines of a file say, the first of a repeated
  key.
- `lookup_loadFile`: the code does this with the pieces of 255 bytes in which `fgets` reads a line.
- `load_eq_reference_iff`: when that makes no difference.
-/

namespace QtChat

namespace ConfigFile

/-! ## The file by lines -/

def trim (s : Str) : Str :=
  (s.dropWhile CConfigFileReader.isSpace).rdropWhile CConfigFileReader.isSpace

/-- What a line says: up to its first `#`, the key before the first `=` and the value behind it. -/
def lineEntry (line : Str) : Option (Str × Str) :=
  let text := line.takeWhile (· ≠ 35)
  let key := trim (text.takeWhile (· ≠ 61))
  let value := trim ((text.dropWhile (· ≠ 61)).drop 1)
  if 61 ∈ text ∧ key ≠ [] ∧ value ≠ [] then some (key, value) else none

/-- The value of a key in a list of entries: its first one. -/
def firstValue (entries : List (Str × Str)) (key : Str) : Option Str :=
  (entries.find? fun e => e.1 = key).map Prod.snd

def lineEntries (file : Str) : List (Str × Str) := (file.splitOn 10).filterMap lineEntry

/-- The value of a key in the file read line by line. -/
def reference (file : Str) (key : Str) : Option Str := firstValue (lineEntries file) key

/-! ## The file by pieces -/

/-- The pieces of 255 bytes of a line. -/
def pieces (line : Str) : List Str :=
  (List.range ((line.length + 254) / 255)).map fun k => (line.drop (255 * k)).take 255

def pieceEntries (file : Str) : List (Str × Str) :=
  (file.splitOn 10).flatMap fun line => (pieces line).filterMap lineEntry

theorem pieces_nil : pieces [] = [] := rfl

theorem pieces_step {line : Str} (hne : line ≠ []) :
    pieces line = line.take 255 :: pieces (line.drop 255) := by
  have hpos := List.length_pos_iff.mpr hne
  have hcount : (line.length + 254) / 255 = ((line.drop 255).length + 254) / 255 + 1 := by
    rw [List.length_drop]
    omega
  have hnext : ∀ k, (line.drop (255 * k.succ)).take 255 = ((line.drop 255).drop (255 * k)).take 255 := by
    intro k
    have : 255 * k.succ = 255 + 255 * k := by omega
    rw [this, List.drop_drop]
  rw [pieces, hcount, List.range_succ_eq_map, List.map_cons, List.map_map]
  simp only [Function.comp_def, hnext, Nat.mul_zero, List.drop_zero]
  rfl

theorem pieces_short {line : Str} (hne : line ≠ []) (h : line.length ≤ 255) :
    pieces line = [line] := by
  rw [pieces_step hne, List.take_of_length_le h, List.drop_of_length_le h, pieces_nil]

/-! ## What the code makes of a buffer -/

open CConfigFileReader

theorem trimSpace_eq (s : Str) : trimSpace s = if trim s = [] then none else some (trim s) := by
  unfold trimSpace trim
  by_cases h : s.dropWhile CConfigFileReader.isSpace = []
  · simp [h, List.rdropWhile]
  · simp [h, List.length_eq_zero_iff]

/-- An entry that is inserted. -/
def insertEntry (m : ConfigMap) (e : Option (Str × Str)) : ConfigMap :=
  match e with
  | none => m
  | some (key, value) => m.put key value

theorem takeWhile_of_not_mem {b : UInt8} {s : Str} (h : b ∉ s) : s.takeWhile (· ≠ b) = s := by
  rw [List.takeWhile_eq_self_iff]
  intro c hc
  rw [decide_eq_true_eq]
  rintro rfl
  exact h hc

theorem not_mem_takeWhile (b : UInt8) (s : Str) : b ∉ s.takeWhile (· ≠ b) := fun h => by
  simpa using List.mem_takeWhile_imp h

theorem takeWhile_stop {b : UInt8} {s t : Str} (h : b ∉ s) :
    (s ++ b :: t).takeWhile (· ≠ b) = s := by
  rw [List.takeWhile_append, takeWhile_of_not_mem h]
  simp

theorem dropWhile_stop {b : UInt8} {s t : Str} (h : b ∉ s) :
    (s ++ b :: t).dropWhile (· ≠ b) = b :: t := by
  have heq : (s ++ b :: t).takeWhile (· ≠ b) ++ (s ++ b :: t).dropWhile (· ≠ b) = s ++ b :: t :=
    List.takeWhile_append_dropWhile
  rw [takeWhile_stop h] at heq
  exact List.append_cancel_left heq

theorem parseLine_eq (m : ConfigMap) (line : Str) (h : (35 : UInt8) ∉ line) :
    parseLine m line = insertEntry m (lineEntry line) := by
  simp only [parseLine, lineEntry, takeWhile_of_not_mem h, trimSpace_eq]
  by_cases he : (61 : UInt8) ∈ line
  · simp only [he, if_true, true_and]
    split
    · rename_i hk hv
      split at hk
      · cases hk
      · split at hv
        · cases hv
        · rename_i h1 h2
          cases hk
          cases hv
          rw [if_pos ⟨h1, h2⟩]
          rfl
    · rename_i hno
      rw [if_neg]
      · rfl
      · rintro ⟨h1, h2⟩
        exact hno _ _ (if_neg h1) (if_neg h2)
  · simp only [he, if_false, false_and]
    rfl

theorem lineEntry_cut (line : Str) : lineEntry (line.takeWhile (· ≠ 35)) = lineEntry line := by
  simp only [lineEntry, takeWhile_of_not_mem (not_mem_takeWhile 35 line)]

/-- **A round** enters what the buffer says, read as a line. -/
theorem loadBuf_eq (m : ConfigMap) (buf : Str) : loadBuf m buf =
    insertEntry m (lineEntry (if buf.getLast? = some 10 then buf.dropLast else buf)) := by
  unfold loadBuf
  generalize (if buf.getLast? = some 10 then buf.dropLast else buf) = line
  simp only
  split
  · rename_i h
    rw [← lineEntry_cut, List.length_eq_zero_iff.mp h]
    rfl
  · rw [parseLine_eq m _ (not_mem_takeWhile 35 line), lineEntry_cut]

theorem lookup_insertEntry (m : ConfigMap) (e : Option (Str × Str)) (key : Str) :
    (insertEntry m e).lookup key = (m.lookup key).or (firstValue e.toList key) := by
  unfold insertEntry
  cases e with
  | none => simp [firstValue]
  | some e =>
    obtain ⟨k, v⟩ := e
    simp only [ConfigMap.put, firstValue, Option.toList_some, List.find?_cons, List.find?_nil]
    by_cases hk : k = key
    · subst hk
      cases hm : m.lookup k with
      | none => simp
      | some w => simp [hm]
    · have hne : key ≠ k := fun h => hk h.symm
      cases hm : (m.lookup k).isSome with
      | true => simp [hk]
      | false => simp [hk, AList.lookup_insert_ne hne]

theorem mem_of_firstValue {entries : List (Str × Str)} {key value : Str}
    (h : firstValue entries key = some value) : (key, value) ∈ entries := by
  rw [firstValue, Option.map_eq_some_iff] at h
  obtain ⟨e, he, rfl⟩ := h
  have hkey := List.find?_some he
  rw [decide_eq_true_eq] at hkey
  subst hkey
  exact List.mem_of_find?_eq_some he

theorem firstValue_append (xs ys : List (Str × Str)) (key : Str) :
    firstValue (xs ++ ys) key = (firstValue xs key).or (firstValue ys key) := by
  unfold firstValue
  rw [List.find?_append]
  cases xs.find? fun e => e.1 = key <;> rfl

/-! ## What the loop reads -/

/-- A file is one line, or a line and what is behind its newline. -/
theorem line_cases (fp : Str) :
    (10 : UInt8) ∉ fp ∨ ∃ line rest, fp = line ++ 10 :: rest ∧ (10 : UInt8) ∉ line := by
  by_cases h : (10 : UInt8) ∈ fp
  · obtain ⟨line, rest, hfp, hl⟩ := List.eq_append_cons_of_mem h
    exact .inr ⟨line, rest, hfp, hl⟩
  · exact .inl h

theorem pieceEntries_last {line : Str} (h : (10 : UInt8) ∉ line) :
    pieceEntries line = (pieces line).filterMap lineEntry := by
  rw [pieceEntries, List.splitOn_eq_singleton h]
  simp

theorem pieceEntries_line {line : Str} (h : (10 : UInt8) ∉ line) (rest : Str) :
    pieceEntries (line ++ 10 :: rest) = (pieces line).filterMap lineEntry ++ pieceEntries rest := by
  rw [pieceEntries, List.splitOn_append_cons_self_of_not_mem h, List.flatMap_cons, pieceEntries]

theorem lineEntry_nil : lineEntry [] = none := rfl

theorem filterMap_singleton (line : Str) : [line].filterMap lineEntry = (lineEntry line).toList := by
  cases h : lineEntry line <;> simp [h]

/-- A line of at most 255 bytes is read in one piece. -/
theorem filterMap_pieces_short {line : Str} (h : line.length ≤ 255) :
    (pieces line).filterMap lineEntry = (lineEntry line).toList := by
  by_cases hne : line = []
  · rw [hne, pieces_nil, lineEntry_nil]
    rfl
  · rw [pieces_short hne h, filterMap_singleton]

/-- A longer line gives its first 255 bytes, and goes on as a line of its own. -/
theorem filterMap_pieces_long {line : Str} (h : 255 ≤ line.length) :
    (pieces line).filterMap lineEntry =
      (lineEntry (line.take 255)).toList ++ (pieces (line.drop 255)).filterMap lineEntry := by
  have hne : line ≠ [] := by rintro rfl; simp at h
  rw [pieces_step hne, ← filterMap_singleton, ← List.filterMap_append]
  rfl

/-- The buffer without its newline. -/
def chomp (buf : Str) : Str := if buf.getLast? = some 10 then buf.dropLast else buf

theorem chomp_line {line : Str} (h : (10 : UInt8) ∉ line) : chomp line = line := by
  rw [chomp, if_neg]
  intro hl
  exact h (List.mem_of_getLast? hl)

theorem chomp_newline (line : Str) : chomp (line ++ [10]) = line := by
  simp [chomp]

/-- **One call of `fgets`**: the entry of what it has read, and those of the rest of the file. -/
theorem pieceEntries_fgets {fp buf rest : Str} (h : fgets 256 fp = some (buf, rest)) :
    pieceEntries fp = (lineEntry (chomp buf)).toList ++ pieceEntries rest := by
  obtain ⟨-, n, hn, rfl, rfl⟩ := fgets_some h
  rcases line_cases fp with hl | ⟨line, tail, rfl, hl⟩
  · -- the last line of the file
    rw [takeWhile_of_not_mem hl] at hn
    rw [chomp_line fun h => hl (List.mem_of_mem_take h)]
    by_cases hlen : 255 ≤ fp.length
    · have hn : n = 255 := by omega
      rw [hn, pieceEntries_last hl, filterMap_pieces_long hlen,
        pieceEntries_last fun h => hl (List.mem_of_mem_drop h)]
    · rw [List.take_of_length_le (by omega), List.drop_of_length_le (by omega),
        pieceEntries_last hl, filterMap_pieces_short (by omega)]
      simp [pieceEntries, pieces_nil]
  · rw [takeWhile_stop hl] at hn
    rw [pieceEntries_line hl]
    by_cases hlen : 255 ≤ line.length
    · have hn : n = 255 := by omega
      rw [hn, List.take_append_of_le_length hlen, List.drop_append_of_le_length hlen,
        chomp_line fun h => hl (List.mem_of_mem_take h),
        pieceEntries_line fun h => hl (List.mem_of_mem_drop h), filterMap_pieces_long hlen,
        List.append_assoc]
    · have hn : n = line.length + 1 := by omega
      rw [hn, List.take_length_add_append, List.drop_length_add_append,
        filterMap_pieces_short (by omega)]
      simp [chomp_newline]

/-- **The loop** enters what the pieces say, the first of a repeated key. -/
theorem lookup_loop {fp : Str} (h : (0 : UInt8) ∉ fp) (m : ConfigMap) (key : Str) :
    (loop fp m).lookup key = (m.lookup key).or (firstValue (pieceEntries fp) key) := by
  fun_induction loop fp m with
  | case1 fp m hf =>
    rw [fgets_none hf]
    simp [pieceEntries, pieces_nil, firstValue]
  | case2 fp m buf rest hf ih =>
    obtain ⟨-, n, -, hbuf, hrest⟩ := fgets_some hf
    have hbuf : (0 : UInt8) ∉ buf := fun hb => h (List.mem_of_mem_take (hbuf ▸ hb))
    have hrest : (0 : UInt8) ∉ rest := fun hb => h (List.mem_of_mem_drop (hrest ▸ hb))
    rw [ih hrest, cstr_of_no_nul hbuf, loadBuf_eq, lookup_insertEntry, pieceEntries_fgets hf,
      firstValue_append, Option.or_assoc]
    rfl

theorem lookup_loadFile {file : Str} (h : (0 : UInt8) ∉ file) (key : Str) :
    (loadFile (some file)).m_config_map.lookup key = firstValue (pieceEntries file) key := by
  rw [loadFile, lookup_loop h]
  simp

/-! ## Against the file by lines -/

/-- The keys that a line sets, or the pieces that it is read in. -/
def keysOf (line : Str) : List Str :=
  (lineEntry line).toList.map Prod.fst ++ ((pieces line).filterMap lineEntry).map Prod.fst

theorem firstValue_none {entries : List (Str × Str)} {key : Str}
    (h : key ∉ entries.map Prod.fst) : firstValue entries key = none := by
  rw [firstValue, List.find?_eq_none.mpr]
  · rfl
  · intro e he
    rw [decide_eq_true_eq]
    rintro rfl
    exact h (List.mem_map_of_mem he)

/-- A key that no long line is about. -/
theorem firstValue_lines {lines : List Str} {key : Str}
    (h : ∀ line ∈ lines, line.length ≤ 255 ∨ key ∉ keysOf line) :
    firstValue (lines.flatMap fun line => (pieces line).filterMap lineEntry) key =
      firstValue (lines.filterMap lineEntry) key := by
  induction lines with
  | nil => rfl
  | cons line lines ih =>
    have hcons : (line :: lines).filterMap lineEntry =
        (lineEntry line).toList ++ lines.filterMap lineEntry := by
      cases hl : lineEntry line <;> simp [hl]
    rw [List.flatMap_cons, firstValue_append, ih fun l hl => h l (by simp [hl]), hcons,
      firstValue_append]
    congr 1
    rcases h line (by simp) with hs | hk
    · rw [filterMap_pieces_short hs]
    · rw [keysOf, List.mem_append, not_or] at hk
      rw [firstValue_none hk.1, firstValue_none hk.2]

/-- What is asked of a file that was opened is looked up in its map. -/
theorem getConfigName_loadFile (file key : Str) :
    (loadFile (some file)).getConfigName key = (loadFile (some file)).m_config_map.lookup key := rfl

/-- **When the map is the file read line by line**, and so what `getConfigName` gives: no line is
longer than 255 bytes, or for every key that such a line or one of its pieces sets, the first piece
with the key and the first line with the key have the same value. -/
theorem load_eq_reference_iff {file : Str} (h : (0 : UInt8) ∉ file) :
    (∀ key, (loadFile (some file)).m_config_map.lookup key = reference file key ∧
        (loadFile (some file)).getConfigName key = reference file key) ↔
      ∀ line ∈ file.splitOn 10, 255 < line.length → ∀ key ∈ keysOf line,
        firstValue (pieceEntries file) key = firstValue (lineEntries file) key := by
  simp only [getConfigName_loadFile, lookup_loadFile h, reference, and_self]
  constructor
  · exact fun heq _ _ _ key _ => heq key
  · intro hlong key
    by_cases hk : ∃ line ∈ file.splitOn 10, 255 < line.length ∧ key ∈ keysOf line
    · obtain ⟨line, hl, hlen, hkey⟩ := hk
      exact hlong line hl hlen key hkey
    · refine firstValue_lines fun line hl => ?_
      by_contra hno
      rw [not_or, not_le, not_not] at hno
      exact hk ⟨line, hl, hno.1, hno.2⟩

/-- Two short lines with a repeated key. -/
theorem load_eq_reference_short :
    (loadFile (some (txt "a = 1 # x\na=2"))).m_config_map.lookup (txt "a") =
      reference (txt "a = 1 # x\na=2") (txt "a") ∧
    (loadFile (some (txt "a = 1 # x\na=2"))).getConfigName (txt "a") =
      reference (txt "a = 1 # x\na=2") (txt "a") :=
  (load_eq_reference_iff (by decide)).mpr (by decide +kernel) (txt "a")

/-- A comment of 255 bytes, and `a=1` behind it. -/
theorem load_reads_comment :
    (0 : UInt8) ∉ 35 :: (List.replicate 254 45 ++ txt "a=1") ∧
      ¬ ∀ key, (loadFile (some (35 :: (List.replicate 254 45 ++ txt "a=1")))).m_config_map.lookup key =
        reference (35 :: (List.replicate 254 45 ++ txt "a=1")) key := by
  have hnul : (0 : UInt8) ∉ 35 :: (List.replicate 254 45 ++ txt "a=1") := by decide +kernel
  refine ⟨hnul, fun h => ?_⟩
  have hkey := h (txt "a")
  rw [lookup_loadFile hnul] at hkey
  exact absurd hkey (by decide +kernel)

end ConfigFile

end QtChat
