import QtChat.Json.Grammar

/-!
# Round trips of JSON

`Valid` are the values that `json::parse` gives: strings in UTF-8, integers of 64 bits, floats that
`strtod` gives, and objects with their keys in order. Every one of them is read back from its dump,
also with a byte order mark and white space around it, and with anything behind a NUL (`reads_dump`);
every value that is read is one of them (`parse_valid`).
-/

namespace QtChat

deriving instance DecidableEq for Dbl

namespace Nlohmann

variable {F : Strtod}

/-- The keys are in the order of a `std::map`. -/
def SortedKeys (m : List (Str × Json)) : Prop := m.Pairwise fun e e' => e.1 < e'.1

mutual

/-- A value that the parser can give. -/
def Valid (F : Strtod) : Json → Prop
  | .null => True
  | .bool _ => True
  | .int z => -2 ^ 63 ≤ z ∧ z < 2 ^ 64
  | .float d => isFloatText d.text = true ∧ F.read d.text = some d
  | .str s => isUtf8 s = true
  | .arr xs => ValidElems F xs
  | .obj m => SortedKeys m ∧ ValidMembers F m

def ValidElems (F : Strtod) : List Json → Prop
  | [] => True
  | x :: xs => Valid F x ∧ ValidElems F xs

def ValidMembers (F : Strtod) : List (Str × Json) → Prop
  | [] => True
  | (k, v) :: m => isUtf8 k = true ∧ Valid F v ∧ ValidMembers F m

end

instance (m : List (Str × Json)) : Decidable (SortedKeys m) :=
  inferInstanceAs (Decidable (m.Pairwise fun e e' => e.1 < e'.1))

mutual

def decValid (F : Strtod) : (v : Json) → Decidable (Valid F v)
  | .null => .isTrue trivial
  | .bool _ => .isTrue trivial
  | .int z => inferInstanceAs (Decidable (-2 ^ 63 ≤ z ∧ z < 2 ^ 64))
  | .float d => inferInstanceAs (Decidable (isFloatText d.text = true ∧ F.read d.text = some d))
  | .str s => inferInstanceAs (Decidable (isUtf8 s = true))
  | .arr xs => decElems F xs
  | .obj m =>
    have := decMembers F m
    inferInstanceAs (Decidable (SortedKeys m ∧ ValidMembers F m))

def decElems (F : Strtod) : (xs : List Json) → Decidable (ValidElems F xs)
  | [] => .isTrue trivial
  | x :: xs =>
    have := decValid F x
    have := decElems F xs
    inferInstanceAs (Decidable (Valid F x ∧ ValidElems F xs))

def decMembers (F : Strtod) : (m : List (Str × Json)) → Decidable (ValidMembers F m)
  | [] => .isTrue trivial
  | (k, v) :: m =>
    have := decValid F v
    have := decMembers F m
    inferInstanceAs (Decidable (isUtf8 k = true ∧ Valid F v ∧ ValidMembers F m))

end

instance : DecidablePred (Valid F) := decValid F

/-! ## Members in order -/

theorem setMember_last {m : List (Str × Json)} {k : Str} {v : Json} (h : ∀ e ∈ m, e.1 < k) :
    Json.setMember k v m = m ++ [(k, v)] := by
  induction m with
  | nil => rfl
  | cons e m ih =>
    obtain ⟨k', v'⟩ := e
    have hlt : k' < k := h _ List.mem_cons_self
    have hne : k ≠ k' := by
      rintro rfl
      exact List.lt_irrefl k hlt
    rw [Json.setMember, if_neg hne, if_neg (List.lt_asymm hlt),
      ih fun e he => h e (List.mem_cons_of_mem _ he)]
    rfl

/-- Members that come in order stay as they are. -/
theorem setMembers_sorted {m fields : List (Str × Json)} (h : SortedKeys (m ++ fields)) :
    setMembers m fields = m ++ fields := by
  induction fields generalizing m with
  | nil => rw [List.append_nil]; rfl
  | cons f fields ih =>
    have hlast : ∀ e ∈ m, e.1 < f.1 := fun e he =>
      (List.pairwise_append.mp h).2.2 e he f List.mem_cons_self
    have hset : Json.setMember f.1 f.2 m = m ++ [f] := setMember_last hlast
    rw [List.append_cons] at h ⊢
    rw [← ih h, setMembers, List.foldl_cons, hset]
    rfl

theorem mem_setMember {m : List (Str × Json)} {k : Str} {v : Json} {e : Str × Json}
    (h : e ∈ Json.setMember k v m) : e = (k, v) ∨ e ∈ m := by
  induction m with
  | nil => exact .inl (List.mem_singleton.mp h)
  | cons e' m ih =>
    obtain ⟨k', v'⟩ := e'
    rw [Json.setMember] at h
    split at h
    · rcases List.mem_cons.mp h with h | h
      · exact .inl h
      · exact .inr (List.mem_cons_of_mem _ h)
    · split at h
      · rcases List.mem_cons.mp h with h | h
        · exact .inl h
        · exact .inr h
      · rcases List.mem_cons.mp h with h | h
        · exact .inr (by rw [h]; exact List.mem_cons_self)
        · exact (ih h).imp id (List.mem_cons_of_mem _)

theorem sorted_setMember {m : List (Str × Json)} {k : Str} {v : Json} (h : SortedKeys m) :
    SortedKeys (Json.setMember k v m) := by
  induction m with
  | nil => exact List.pairwise_singleton _ _
  | cons e m ih =>
    obtain ⟨k', v'⟩ := e
    obtain ⟨hhead, htail⟩ := List.pairwise_cons.mp h
    rw [Json.setMember]
    split
    · rename_i he
      subst he
      exact List.pairwise_cons.mpr ⟨hhead, htail⟩
    · split
      · rename_i hlt
        refine List.pairwise_cons.mpr ⟨fun e he => ?_, h⟩
        rcases List.mem_cons.mp he with rfl | he
        · exact hlt
        · exact List.lt_trans hlt (hhead e he)
      · rename_i hne hlt
        refine List.pairwise_cons.mpr ⟨fun e he => ?_, ih htail⟩
        rcases mem_setMember he with rfl | he
        · exact (List.le_iff_lt_or_eq.mp (List.not_lt.mp hlt)).resolve_right fun e => hne e.symm
        · exact hhead e he

theorem sorted_setMembers {m fields : List (Str × Json)} (h : SortedKeys m) :
    SortedKeys (setMembers m fields) := by
  induction fields generalizing m with
  | nil => exact h
  | cons f fields ih => exact ih (sorted_setMember h)

theorem validMembers_iff {m : List (Str × Json)} :
    ValidMembers F m ↔ ∀ e ∈ m, isUtf8 e.1 = true ∧ Valid F e.2 := by
  induction m with
  | nil => simp [ValidMembers]
  | cons e m ih =>
    obtain ⟨k, v⟩ := e
    rw [ValidMembers, ih, List.forall_mem_cons, and_assoc]

theorem valid_setMembers {m fields : List (Str × Json)} (hm : ValidMembers F m)
    (hf : ValidMembers F fields) : ValidMembers F (setMembers m fields) := by
  induction fields generalizing m with
  | nil => exact hm
  | cons f fields ih =>
    obtain ⟨k, v⟩ := f
    rw [ValidMembers] at hf
    refine ih ?_ hf.2.2
    rw [validMembers_iff] at hm ⊢
    intro e he
    rcases mem_setMember he with rfl | he
    · exact ⟨hf.1, hf.2.1⟩
    · exact hm e he

/-! ## What is read is valid -/

mutual

theorem Value.valid {ts : List Token} {v : Json} :
    Value F ts v → (∀ t ∈ ts, t.Valid) → Valid F v
  | .null, _ => by rw [Valid]; trivial
  | .true, _ => by rw [Valid]; trivial
  | .false, _ => by rw [Valid]; trivial
  | .unsigned n, h => by
    have hn : n < 2 ^ 64 := h _ List.mem_cons_self
    rw [Valid]
    omega
  | .integer z, h => by
    have hz : -2 ^ 63 ≤ z ∧ z ≤ 0 := h _ List.mem_cons_self
    rw [Valid]
    omega
  | .float hd, _ => by rw [Valid]; exact F.dump_text hd
  | .string s, h => by rw [Valid]; exact h _ List.mem_cons_self
  | .emptyArray, _ => by rw [Valid, ValidElems]; trivial
  | .array hx, h => by
    rw [Valid]
    exact hx.valid fun t ht => h t (List.mem_append_left _ (List.mem_cons_of_mem _ ht))
  | .emptyObject, _ => by rw [Valid, ValidMembers]; exact ⟨.nil, trivial⟩
  | .object hf, h => by
    have hv := hf.valid fun t ht => h t (List.mem_append_left _ (List.mem_cons_of_mem _ ht))
    rw [Valid]
    exact ⟨sorted_setMembers .nil, valid_setMembers (by rw [ValidMembers]; trivial) hv⟩

theorem Elements.valid {ts : List Token} {xs : List Json} :
    Elements F ts xs → (∀ t ∈ ts, t.Valid) → ValidElems F xs
  | .one hv, h => by
    rw [ValidElems, ValidElems]
    exact ⟨hv.valid h, trivial⟩
  | .more hv hx, h => by
    rw [ValidElems]
    refine ⟨hv.valid fun t ht => h t (List.mem_append_left _ ht), hx.valid fun t ht => h t ?_⟩
    exact List.mem_append_right _ (List.mem_cons_of_mem _ ht)

theorem Members.valid {ts : List Token} {fields : List (Str × Json)} :
    Members F ts fields → (∀ t ∈ ts, t.Valid) → ValidMembers F fields
  | .one key hv, h => by
    rw [ValidMembers, ValidMembers]
    refine ⟨h _ List.mem_cons_self, hv.valid fun t ht => h t ?_, trivial⟩
    exact List.mem_cons_of_mem _ (List.mem_cons_of_mem _ ht)
  | .more key hv hf, h => by
    rw [ValidMembers]
    refine ⟨h (.valueString key) (by simp), hv.valid fun t ht => h t ?_,
      hf.valid fun t ht => h t ?_⟩
    · exact List.mem_append_left _ (List.mem_cons_of_mem _ (List.mem_cons_of_mem _ ht))
    · exact List.mem_append_right _ (List.mem_cons_of_mem _ ht)

end

theorem scans_valid {s r : Str} {ts : List Token} (h : Scans s ts r) : ∀ t ∈ ts, t.Valid := by
  induction h with
  | nil s => exact fun t ht => by cases ht
  | @cons s r ts _ ih =>
    intro t ht
    rcases List.mem_cons.mp ht with rfl | ht
    · exact scan_valid s
    · exact ih t ht

/-- **Every value that is read is valid.** -/
theorem parse_valid {s : Str} {v : Json} (h : parse F s = .ok v) : Valid F v := by
  obtain ⟨s', ts, r, -, hs, hv, -⟩ := parse_accepts.mp h
  exact hv.valid (scans_valid hs)

/-! ## What is written is read -/

theorem scans_token {s r : Str} {t : Token} (h : scan s = (t, r)) : Scans s [t] r :=
  scans_cons.mpr ⟨congrArg Prod.fst h, scans_nil.mpr (congrArg Prod.snd h).symm⟩

mutual

/-- The dump of a value, in front of what cannot go on with a number. -/
theorem scans_dump : ∀ v : Json, Valid F v → ∀ {r : Str}, Delimited r →
    ∃ ts, Scans (v.dump ++ r) ts r ∧ Value F ts v
  | .null, _, r, _ => ⟨_, scans_token (scan_null r), .null⟩
  | .bool true, _, r, _ => ⟨_, scans_token (scan_true r), .true⟩
  | .bool false, _, r, _ => ⟨_, scans_token (scan_false r), .false⟩
  | .int z, h, r, hr => by
    rw [Valid] at h
    rw [Json.dump]
    refine ⟨_, scans_token (scan_decimal h hr), ?_⟩
    unfold intToken
    split
    · exact .integer z
    · have hz : z = (z.toNat : Int) := by omega
      rw [hz]
      exact .unsigned _
  | .float d, h, r, hr => by
    rw [Valid] at h
    rw [Json.dump]
    exact ⟨_, scans_token (scan_float h.1 hr), .float h.2⟩
  | .str s, h, r, _ => by
    rw [Valid] at h
    rw [Json.dump]
    exact ⟨_, scans_token (scan_quote h r), .string s⟩
  | .arr [], _, r, _ => ⟨_, .cons (.cons (.nil r)), .emptyArray⟩
  | .arr (x :: xs), h, r, _ => by
    rw [Valid] at h
    obtain ⟨ts, hs, hx⟩ := scans_dumpElems (x :: xs) h (by simp) r
    refine ⟨_, ?_, .array hx⟩
    rw [Json.dump, List.cons_append, List.append_assoc]
    exact .cons (hs.append (scans_token (scan_endArray r)))
  | .obj [], _, r, _ => ⟨_, .cons (.cons (.nil r)), .emptyObject⟩
  | .obj (e :: m), h, r, _ => by
    rw [Valid] at h
    obtain ⟨ts, hs, hm⟩ := scans_dumpMembers (e :: m) h.2 (by simp) r
    refine ⟨.beginObject :: ts ++ [.endObject], ?_, ?_⟩
    · rw [Json.dump, List.cons_append, List.append_assoc]
      exact .cons (hs.append (scans_token (scan_endObject r)))
    · have hv := Value.object hm
      rwa [setMembers_sorted (m := []) h.1] at hv

theorem scans_dumpElems : ∀ xs : List Json, ValidElems F xs → xs ≠ [] → ∀ r : Str,
    ∃ ts, Scans (Json.dumpElems xs ++ 93 :: r) ts (93 :: r) ∧ Elements F ts xs
  | [], _, hne, _ => absurd rfl hne
  | [x], h, _, r => by
    rw [ValidElems] at h
    obtain ⟨ts, hs, hv⟩ := scans_dump x h.1 (delimited_cons r (b := 93) (by decide))
    refine ⟨ts, ?_, .one hv⟩
    rw [Json.dumpElems, List.isEmpty_nil, if_pos rfl, List.append_nil]
    exact hs
  | x :: y :: ys, h, _, r => by
    rw [ValidElems] at h
    obtain ⟨ts, hs, hv⟩ := scans_dump x h.1
      (delimited_cons (Json.dumpElems (y :: ys) ++ 93 :: r) (b := 44) (by decide))
    obtain ⟨us, hus, hx⟩ := scans_dumpElems (y :: ys) h.2 (by simp) r
    refine ⟨_, ?_, .more hv hx⟩
    rw [Json.dumpElems, List.isEmpty_cons, if_neg (by decide), List.append_assoc, List.cons_append]
    exact hs.append (.cons hus)

theorem scans_dumpMembers : ∀ m : List (Str × Json), ValidMembers F m → m ≠ [] → ∀ r : Str,
    ∃ ts, Scans (Json.dumpMembers m ++ 125 :: r) ts (125 :: r) ∧ Members F ts m
  | [], _, hne, _ => absurd rfl hne
  | [(k, v)], h, _, r => by
    rw [ValidMembers] at h
    obtain ⟨ts, hs, hv⟩ := scans_dump v h.2.1 (delimited_cons r (b := 125) (by decide))
    refine ⟨_, ?_, .one k hv⟩
    rw [Json.dumpMembers, List.isEmpty_nil, if_pos rfl, List.append_nil, List.append_assoc,
      List.cons_append]
    exact (scans_token (scan_quote h.1 _)).append (.cons hs)
  | (k, v) :: f :: m, h, _, r => by
    rw [ValidMembers] at h
    obtain ⟨ts, hs, hv⟩ := scans_dump v h.2.1
      (delimited_cons (Json.dumpMembers (f :: m) ++ 125 :: r) (b := 44) (by decide))
    obtain ⟨us, hus, hm⟩ := scans_dumpMembers (f :: m) h.2.2 (by simp) r
    refine ⟨_, ?_, .more k hv hm⟩
    rw [Json.dumpMembers, List.isEmpty_cons, if_neg (by decide), List.append_assoc,
      List.append_assoc, List.cons_append, List.cons_append]
    exact (scans_token (scan_quote h.1 _)).append (.cons (hs.append (.cons hus)))

end

/-- What may stand behind a value: white space, and then the end or a NUL. -/
def Ending (r : Str) : Prop :=
  ∃ ws tail, r = ws ++ tail ∧ (∀ b ∈ ws, isSpace b = true) ∧ (tail = [] ∨ tail.head? = some 0)

theorem ending_nil : Ending [] := ⟨[], [], rfl, by simp, .inl rfl⟩

theorem Ending.scan {r : Str} (h : Ending r) : (scan r).1 = .endOfInput := by
  obtain ⟨ws, tail, rfl, hws, ht⟩ := h
  rw [scan_space hws]
  cases tail with
  | nil => rfl
  | cons b tail =>
    have hb : b = 0 := by simpa using ht
    rw [hb]
    rfl

theorem space_delimiter {b : UInt8} (h : isSpace b = true) :
    isDigit b = false ∧ b ≠ 46 ∧ b ≠ 101 ∧ b ≠ 69 := by
  simp only [isSpace, Bool.or_eq_true, decide_eq_true_eq] at h
  rcases h with ((rfl | rfl) | rfl) | rfl <;> decide

theorem Ending.delimited {r : Str} (h : Ending r) : Delimited r := by
  obtain ⟨ws, tail, rfl, hws, ht⟩ := h
  cases ws with
  | cons b ws => exact delimited_cons _ (space_delimiter (hws b List.mem_cons_self))
  | nil =>
    cases tail with
    | nil => exact delimited_nil
    | cons b tail =>
      have hb : b = 0 := by simpa using ht
      rw [hb]
      exact delimited_cons _ (by decide)

/-- The first byte of a dump. -/
theorem dump_head {v : Json} (h : Valid F v) : ∃ b s, v.dump = b :: s ∧ b ≠ 0xEF := by
  have hdigit : ∀ {b : UInt8}, b = 45 ∨ isDigit b = true → b ≠ 0xEF := by
    rintro b hb rfl
    revert hb
    decide
  cases v with
  | null => exact ⟨_, _, rfl, by decide⟩
  | bool b => cases b <;> exact ⟨_, _, rfl, by decide⟩
  | int z =>
    rw [Valid] at h
    obtain ⟨b, s, hz, hb, -⟩ := scanNumber_decimal h delimited_nil
    exact ⟨b, s, by rw [Json.dump, hz], hdigit hb⟩
  | float d =>
    rw [Valid] at h
    obtain ⟨b, s, hd, hb, -⟩ := scanNumber_float h.1 delimited_nil
    exact ⟨b, s, by rw [Json.dump, hd], hdigit hb⟩
  | str s => exact ⟨34, _, by rw [Json.dump]; rfl, by decide⟩
  | arr xs => exact ⟨91, _, by rw [Json.dump], by decide⟩
  | obj m => exact ⟨123, _, by rw [Json.dump], by decide⟩

theorem skipBom_none {b : UInt8} (h : b ≠ 0xEF) (s : Str) : skipBom (b :: s) = some (b :: s) := by
  unfold skipBom
  split
  · rename_i he
    cases he
    exact absurd rfl h
  · rfl

/-- **The round trip**: a valid value is read from its dump, with white space before it, white space
or anything from a NUL on after it, and a byte order mark or none in front. -/
theorem reads_dump {v : Json} (h : Valid F v) {bom ws r : Str}
    (hbom : bom = [] ∨ bom = [0xEF, 0xBB, 0xBF]) (hws : ∀ b ∈ ws, isSpace b = true)
    (hr : Ending r) : parse F (bom ++ (ws ++ (v.dump ++ r))) = .ok v := by
  obtain ⟨ts, hs, hv⟩ := scans_dump v h hr.delimited
  have hscans : Scans (ws ++ (v.dump ++ r)) ts r := by
    obtain ⟨t, us, rfl, -⟩ := hv.first
    obtain ⟨ht, hs⟩ := scans_cons.mp hs
    exact scans_cons.mpr ⟨by rw [scan_space hws, ht], by rwa [scan_space hws]⟩
  refine parse_accepts.mpr ⟨_, ts, r, ?_, hscans, hv, hr.scan⟩
  rcases hbom with rfl | rfl
  · obtain ⟨b, s, hb, hne⟩ := dump_head h
    cases ws with
    | nil =>
      rw [List.nil_append, List.nil_append, hb]
      exact skipBom_none hne _
    | cons c ws =>
      refine skipBom_none ?_ _
      rintro rfl
      have := hws _ List.mem_cons_self
      revert this
      decide
  · rfl

/-- A valid value is read from its dump. -/
theorem dump_read {v : Json} (h : Valid F v) : parse F v.dump = .ok v := by
  have hback : parse F ([] ++ ([] ++ (v.dump ++ []))) = .ok v :=
    reads_dump h (.inl rfl) (by simp) ending_nil
  rwa [List.nil_append, List.nil_append, List.append_nil] at hback

/-! ## What is read can be dumped -/

/-- The bytes of a number are ASCII. -/
theorem isDigit_ascii {b : UInt8} (h : isDigit b = true) : b ≤ 0x7F := by
  simp only [isDigit, Bool.and_eq_true, decide_eq_true_eq] at h
  exact UInt8.le_trans h.2 (by decide)

theorem next_ascii {q q' : NumberState} {b : UInt8} (h : q.next b = some q') : b ≤ 0x7F := by
  have hcases : isDigit b = true ∨ b = 46 ∨ b = 101 ∨ b = 69 ∨ b = 43 ∨ b = 45 ∨ b = 48 := by
    cases q <;> simp only [NumberState.next] at h <;> grind
  rcases hcases with h | rfl | rfl | rfl | rfl | rfl | rfl
  · exact isDigit_ascii h
  all_goals decide

theorem scanDigits_ascii {q : NumberState} {type type' : NumberType} {s t r : Str}
    (h : scanDigits q type s = some (t, type', r)) : ∀ b ∈ t, b ≤ 0x7F := by
  induction s generalizing q type t with
  | nil =>
    rw [scanDigits] at h
    split at h <;> cases h
    exact fun b hb => by cases hb
  | cons c s ih =>
    rw [scanDigits] at h
    split at h
    · rename_i hc
      obtain ⟨⟨t', ty, r'⟩, h', he⟩ := Option.map_eq_some_iff.mp h
      cases he
      intro b hb
      rcases List.mem_cons.mp hb with rfl | hb
      · exact next_ascii hc
      · exact ih h' b hb
    · split at h <;> cases h
      exact fun b hb => by cases hb

theorem isUtf8_float {text : Str} (h : isFloatText text = true) : isUtf8 text = true := by
  cases text with
  | nil => rfl
  | cons b s =>
    simp only [isFloatText, Bool.and_eq_true, Bool.or_eq_true, decide_eq_true_eq] at h
    have hb : b ≤ 0x7F := by
      rcases h.1 with rfl | hd
      · decide
      · exact isDigit_ascii hd
    exact isUtf8_ascii (List.forall_mem_cons.mpr ⟨hb, scanDigits_ascii h.2⟩)

mutual

theorem Valid.utf8 : ∀ {v : Json}, Valid F v → v.utf8 = true
  | .null, _ => by rw [Json.utf8]
  | .bool _, _ => by rw [Json.utf8]
  | .int _, _ => by rw [Json.utf8]
  | .float d, h => by
    rw [Valid] at h
    rw [Json.utf8]
    exact isUtf8_float h.1
  | .str s, h => by
    rw [Valid] at h
    rw [Json.utf8]
    exact h
  | .arr xs, h => by
    rw [Valid] at h
    rw [Json.utf8]
    exact ValidElems.utf8 h
  | .obj m, h => by
    rw [Valid] at h
    rw [Json.utf8]
    exact ValidMembers.utf8 h.2

theorem ValidElems.utf8 : ∀ {xs : List Json}, ValidElems F xs → Json.utf8Elems xs = true
  | [], _ => by rw [Json.utf8Elems]
  | x :: xs, h => by
    rw [ValidElems] at h
    rw [Json.utf8Elems, Bool.and_eq_true]
    exact ⟨h.1.utf8, ValidElems.utf8 h.2⟩

theorem ValidMembers.utf8 : ∀ {m : List (Str × Json)}, ValidMembers F m →
    Json.utf8Members m = true
  | [], _ => by rw [Json.utf8Members]
  | (k, v) :: m, h => by
    rw [ValidMembers] at h
    rw [Json.utf8Members, Bool.and_eq_true, Bool.and_eq_true]
    exact ⟨⟨h.1, h.2.1.utf8⟩, ValidMembers.utf8 h.2.2⟩

end

/-- An object of fields whose values are valid. -/
theorem valid_object {fields : List (String × Json)}
    (h : ∀ f ∈ fields, isUtf8 (txt f.1) = true ∧ Valid F f.2) : Valid F (Json.object fields) := by
  have hset : Json.object fields = .obj (setMembers [] (fields.map fun f => (txt f.1, f.2))) := by
    rw [Json.object, setMembers, List.foldl_map]
  rw [hset, Valid]
  refine ⟨sorted_setMembers .nil, valid_setMembers (by rw [ValidMembers]; trivial) ?_⟩
  rw [validMembers_iff]
  intro e he
  obtain ⟨f, hf, rfl⟩ := List.mem_map.mp he
  exact h f hf

/-- **What is read can be dumped, and is read back**: the dump never throws, and with white space
around it, a byte order mark in front and anything from a NUL on behind it, it is the same value. -/
theorem parse_dumps {s : Str} {v : Json} (h : parse F s = .ok v) : v.dumpStrict = .ok v.dump ∧
    ∀ bom ws r, (bom = [] ∨ bom = [0xEF, 0xBB, 0xBF]) → (∀ b ∈ ws, isSpace b = true) → Ending r →
      parse F (bom ++ (ws ++ (v.dump ++ r))) = .ok v :=
  ⟨Json.dumpStrict_eq (parse_valid h).utf8, fun _ _ _ hbom hws hr =>
    reads_dump (parse_valid h) hbom hws hr⟩

/-- It reads the text of one double alone. -/
def Strtod.only (d : Dbl) (h : isFloatText d.text = true) : Strtod where
  read text := if text = d.text then some d else none
  dump_text := by
    intro text d' hd
    split at hd
    · cases hd
      exact ⟨h, if_pos rfl⟩
    · cases hd

def half : Dbl := ⟨txt "0.5", 0, by decide, by decide⟩

/-- Keys out of order, one of them twice, an escape, and a double. -/
theorem parse_dumps_half : ∃ v, parse (.only half (by decide))
      (txt " \x7b\"b\": [0.5, null], \"a\": \"\\u00e4\", \"b\": -1\x7d ") = .ok v ∧
    (v.dumpStrict = .ok v.dump ∧ ∀ bom ws r, (bom = [] ∨ bom = [0xEF, 0xBB, 0xBF]) →
      (∀ b ∈ ws, isSpace b = true) → Ending r →
      parse (.only half (by decide)) (bom ++ (ws ++ (v.dump ++ r))) = .ok v) := by
  have h : parse (.only half (by decide))
      (txt " \x7b\"b\": [0.5, null], \"a\": \"\\u00e4\", \"b\": -1\x7d ") =
        .ok (.obj [(txt "a", .str [0xC3, 0xA4]), (txt "b", .int (-1))]) := rfl
  exact ⟨_, h, parse_dumps h⟩

end Nlohmann

/-! ## The parser of the server -/

/-- `json::parse` of a `std::string`. -/
def JsonParser.nlohmann (F : Nlohmann.Strtod) : JsonParser where
  parse s := (Nlohmann.parse F s).toOption
  parse_dump := by
    intro s js h
    have hok : Nlohmann.parse F s = .ok js := by
      cases hp : Nlohmann.parse F s <;> rw [hp] at h <;> cases h
      rfl
    rw [Nlohmann.dump_read (Nlohmann.parse_valid hok)]
    rfl

theorem JsonParser.nlohmann_dump {F : Nlohmann.Strtod} {v : Json} (h : Nlohmann.Valid F v) :
    (JsonParser.nlohmann F).parse v.dump = some v := by
  change (Nlohmann.parse F v.dump).toOption = some v
  rw [Nlohmann.dump_read h]
  rfl

end QtChat
