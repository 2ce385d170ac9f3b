import Mathlib.Logic.Relation
import QtChat.Json.Parser
import QtChat.Json.Scanning

/-!
# The parser and the grammar

The values of JSON over tokens (`Value`): an array is a list of values with separators, an object a
list of members, of which the last one counts for a key. The loop of `sax_parse_internal` accepts
exactly these (`parse_iff`), and ends on every input (`loop_ends`).
-/

namespace QtChat

namespace Nlohmann

/-! ## The grammar -/

/-- `m[k] = v` for the members in their order. -/
def setMembers (m fields : List (Str × Json)) : List (Str × Json) :=
  fields.foldl (fun m f => Json.setMember f.1 f.2 m) m

mutual

/-- The tokens of a value. -/
inductive Value (F : Strtod) : List Token → Json → Prop
  | null : Value F [.literalNull] .null
  | true : Value F [.literalTrue] (.bool true)
  | false : Value F [.literalFalse] (.bool false)
  | unsigned (n : Nat) : Value F [.valueUnsigned n] (.int n)
  | integer (z : Int) : Value F [.valueInteger z] (.int z)
  | float {text : Str} {d : Dbl} : F.read text = some d → Value F [.valueFloat text] (.float d)
  | string (s : Str) : Value F [.valueString s] (.str s)
  | emptyArray : Value F [.beginArray, .endArray] (.arr [])
  | array {ts : List Token} {xs : List Json} : Elements F ts xs →
      Value F (.beginArray :: ts ++ [.endArray]) (.arr xs)
  | emptyObject : Value F [.beginObject, .endObject] (.obj [])
  | object {ts : List Token} {fields : List (Str × Json)} : Members F ts fields →
      Value F (.beginObject :: ts ++ [.endObject]) (.obj (setMembers [] fields))

/-- One or more values with separators. -/
inductive Elements (F : Strtod) : List Token → List Json → Prop
  | one {ts : List Token} {v : Json} : Value F ts v → Elements F ts [v]
  | more {ts us : List Token} {v : Json} {xs : List Json} : Value F ts v → Elements F us xs →
      Elements F (ts ++ .valueSeparator :: us) (v :: xs)

/-- One or more members with separators. -/
inductive Members (F : Strtod) : List Token → List (Str × Json) → Prop
  | one (key : Str) {ts : List Token} {v : Json} : Value F ts v →
      Members F (.valueString key :: .nameSeparator :: ts) [(key, v)]
  | more (key : Str) {ts us : List Token} {v : Json} {fields : List (Str × Json)} : Value F ts v →
      Members F us fields →
      Members F (.valueString key :: .nameSeparator :: ts ++ .valueSeparator :: us)
        ((key, v) :: fields)

end

/-- The lexer reads the tokens off the front of the text. -/
inductive Scans : Str → List Token → Str → Prop
  | nil (s : Str) : Scans s [] s
  | cons {s r : Str} {ts : List Token} : Scans (scan s).2 ts r → Scans s ((scan s).1 :: ts) r

theorem Scans.append {s r r' : Str} {ts us : List Token} (h : Scans s ts r) (h' : Scans r us r') :
    Scans s (ts ++ us) r' := by
  induction h with
  | nil s => exact h'
  | cons _ ih => exact .cons (ih h')

theorem scans_nil {s r : Str} : Scans s [] r ↔ r = s := by
  constructor
  · rintro (_ | _)
    rfl
  · rintro rfl
    exact .nil r

theorem scans_cons {s r : Str} {t : Token} {ts : List Token} :
    Scans s (t :: ts) r ↔ (scan s).1 = t ∧ Scans (scan s).2 ts r := by
  constructor
  · rintro (_ | h)
    exact ⟨rfl, h⟩
  · rintro ⟨rfl, h⟩
    exact .cons h

theorem scans_append {s r : Str} {ts us : List Token} :
    Scans s (ts ++ us) r ↔ ∃ r', Scans s ts r' ∧ Scans r' us r := by
  constructor
  · intro h
    induction ts generalizing s with
    | nil => exact ⟨s, .nil s, h⟩
    | cons t ts ih =>
      obtain ⟨ht, h⟩ := scans_cons.mp h
      obtain ⟨r', h₁, h₂⟩ := ih h
      exact ⟨r', scans_cons.mpr ⟨ht, h₁⟩, h₂⟩
  · rintro ⟨r', h₁, h₂⟩
    exact h₁.append h₂

/-! ## The loop -/

section Loop

variable {F : Strtod}

/-- Iterations of the loop. -/
abbrev Leads (F : Strtod) : Config → Config → Prop :=
  Relation.ReflTransGen fun c c' => iterate F c = .next c'

/-- The loop goes on from where its iterations lead. -/
theorem Leads.loop {c c' : Config} (h : Leads F c c') {fuel : Nat}
    {x : Except ParseError (Json × Str)} (hx : saxParseInternal F fuel c = some x) :
    ∃ fuel', saxParseInternal F fuel' c' = some x := by
  induction h using Relation.ReflTransGen.head_induction_on generalizing fuel with
  | refl => exact ⟨fuel, hx⟩
  | head hstep _ ih =>
    cases fuel with
    | zero => cases hx
    | succ fuel =>
      rw [saxParseInternal, hstep] at hx
      exact ih hx

theorem leads_one {c c' : Config} (h : iterate F c = .next c') : Leads F c c' :=
  Relation.ReflTransGen.single h

/-! ## What the grammar derives is accepted -/

theorem Value.first {ts : List Token} {v : Json} (h : Value F ts v) :
    ∃ t us, ts = t :: us ∧ t ≠ .endArray := by
  cases h <;> exact ⟨_, _, rfl, by simp⟩

/-- From its first token on, the loop gets to the end of the value. -/
def Parses (F : Strtod) (ts : List Token) (v : Json) : Prop :=
  ∀ s r states, Scans s ts r →
    Leads F (.value (scan s).1 (scan s).2 states) (.evaluate v r states)

/-- In an array that has `ys`. -/
def ParsesElements (F : Strtod) (ts : List Token) (xs : List Json) : Prop :=
  ∀ s r ys states, Scans s (ts ++ [.endArray]) r →
    Leads F (.value (scan s).1 (scan s).2 (.array ys :: states)) (.evaluate (.arr (ys ++ xs)) r states)

/-- In an object that has `m`. -/
def ParsesMembers (F : Strtod) (ts : List Token) (fields : List (Str × Json)) : Prop :=
  ∀ s r m states, Scans s (ts ++ [.endObject]) r →
    ∃ c, parseKey m (scan s).1 (scan s).2 states = .next c ∧
      Leads F c (.evaluate (.obj (setMembers m fields)) r states)

/-- A token alone. -/
theorem parses_token {t : Token} {v : Json}
    (h : ∀ input states, parseValue F t input states = .next (.evaluate v input states)) :
    Parses F [t] v := by
  intro s r states hs
  obtain ⟨ht, hs⟩ := scans_cons.mp hs
  obtain rfl := scans_nil.mp hs
  rw [ht]
  exact leads_one (h (scan s).2 states)

/-- The key and the separator. -/
theorem parseKey_next {key : Str} {s : Str} (m : List (Str × Json)) (states : List Frame)
    (hk : (scan s).1 = .valueString key) (hc : (scan (scan s).2).1 = .nameSeparator) :
    parseKey m (scan s).1 (scan s).2 states =
      .next (.value (scan (scan (scan s).2).2).1 (scan (scan (scan s).2).2).2
        (.object m key :: states)) := by
  rw [hk, parseKey]
  exact if_pos hc

mutual

theorem Value.parses {ts : List Token} {v : Json} : Value F ts v → Parses F ts v
  | .null => parses_token fun _ _ => rfl
  | .true => parses_token fun _ _ => rfl
  | .false => parses_token fun _ _ => rfl
  | .unsigned _ => parses_token fun _ _ => rfl
  | .integer _ => parses_token fun _ _ => rfl
  | .float h => parses_token fun _ _ => by rw [parseValue, h]
  | .string _ => parses_token fun _ _ => rfl
  | .emptyArray => by
    intro s r states hs
    obtain ⟨h₁, hs⟩ := scans_cons.mp hs
    obtain ⟨h₂, hs⟩ := scans_cons.mp hs
    obtain rfl := scans_nil.mp hs
    refine leads_one ?_
    rw [iterate, h₁, parseValue]
    exact if_pos h₂
  | .array h => by
    intro s r states hs
    obtain ⟨h₁, hs⟩ := scans_cons.mp hs
    refine .head (b := .value _ _ (.array [] :: states)) ?_ (h.parses _ _ [] states hs)
    rw [iterate, h₁, parseValue]
    refine if_neg ?_
    obtain ⟨t, us, rfl, ht⟩ := h.first
    rw [(scans_cons.mp hs).1]
    exact ht
  | .emptyObject => by
    intro s r states hs
    obtain ⟨h₁, hs⟩ := scans_cons.mp hs
    obtain ⟨h₂, hs⟩ := scans_cons.mp hs
    obtain rfl := scans_nil.mp hs
    refine leads_one ?_
    rw [iterate, h₁, parseValue]
    exact if_pos h₂
  | .object h => by
    intro s r states hs
    obtain ⟨h₁, hs⟩ := scans_cons.mp hs
    obtain ⟨c, hc, hl⟩ := h.parses _ _ [] states hs
    refine .head (b := c) ?_ hl
    rw [iterate, h₁, parseValue, ← hc]
    refine if_neg fun he => ?_
    rw [he] at hc
    cases hc

theorem Elements.first {ts : List Token} {xs : List Json} :
    Elements F ts xs → ∃ t us, ts = t :: us ∧ t ≠ .endArray
  | .one h => h.first
  | .more h _ => by
    obtain ⟨t, us, rfl, ht⟩ := h.first
    exact ⟨t, _, rfl, ht⟩

theorem Elements.parses {ts : List Token} {xs : List Json} :
    Elements F ts xs → ParsesElements F ts xs
  | .one (v := v) h => by
    intro s r ys states hs
    obtain ⟨r', hv, hs⟩ := scans_append.mp hs
    obtain ⟨h₁, hs⟩ := scans_cons.mp hs
    obtain rfl := scans_nil.mp hs
    refine (h.parses s r' _ hv).trans (leads_one ?_)
    rw [iterate, evaluateState]
    simp only [h₁]
    rfl
  | .more (v := v) h hrest => by
    intro s r ys states hs
    rw [List.append_assoc] at hs
    obtain ⟨r', hv, hs⟩ := scans_append.mp hs
    obtain ⟨h₁, hs⟩ := scans_cons.mp hs
    have hnext : iterate F (.evaluate v r' (.array ys :: states)) =
        .next (.value (scan (scan r').2).1 (scan (scan r').2).2 (.array (ys ++ [v]) :: states)) := by
      rw [iterate, evaluateState]
      exact if_pos h₁
    have hl := hrest.parses _ r (ys ++ [v]) states hs
    rw [List.append_assoc, List.singleton_append] at hl
    exact (h.parses s r' _ hv).trans (.head hnext hl)

theorem Members.parses {ts : List Token} {fields : List (Str × Json)} :
    Members F ts fields → ParsesMembers F ts fields
  | .one key (v := v) h => by
    intro s r m states hs
    obtain ⟨h₁, hs⟩ := scans_cons.mp hs
    obtain ⟨h₂, hs⟩ := scans_cons.mp hs
    obtain ⟨r', hv, hs⟩ := scans_append.mp hs
    obtain ⟨h₃, hs⟩ := scans_cons.mp hs
    obtain rfl := scans_nil.mp hs
    refine ⟨_, parseKey_next m states h₁ h₂, (h.parses _ r' _ hv).trans (leads_one ?_)⟩
    rw [iterate, evaluateState]
    simp only [h₃]
    rfl
  | .more key (v := v) h hrest => by
    intro s r m states hs
    obtain ⟨h₁, hs⟩ := scans_cons.mp hs
    obtain ⟨h₂, hs⟩ := scans_cons.mp hs
    simp only [List.append_eq, List.append_assoc, List.cons_append] at hs
    obtain ⟨r', hv, hs⟩ := scans_append.mp hs
    obtain ⟨h₃, hs⟩ := scans_cons.mp hs
    obtain ⟨c, hc, hl⟩ := hrest.parses _ r (Json.setMember key v m) states hs
    refine ⟨_, parseKey_next m states h₁ h₂, (h.parses _ r' _ hv).trans (.head ?_ hl)⟩
    rw [iterate, evaluateState, ← hc]
    exact if_pos h₃

end

/-! ## What is accepted is derived -/

/-- The loop accepts. -/
abbrev Ends (F : Strtod) (fuel : Nat) (c : Config) (x : Json × Str) : Prop :=
  saxParseInternal F fuel c = some (.ok x)

theorem Ends.next {fuel : Nat} {c : Config} {x : Json × Str} (h : Ends F fuel c x) :
    ∃ n, fuel = n + 1 ∧ ((∃ c', iterate F c = .next c' ∧ Ends F n c' x) ∨
      iterate F c = .done x.1 x.2) := by
  cases fuel with
  | zero => cases h
  | succ n =>
    refine ⟨n, rfl, ?_⟩
    rw [Ends, saxParseInternal] at h
    cases hi : iterate F c with
    | next c' =>
      rw [hi] at h
      exact .inl ⟨c', rfl, h⟩
    | done v input =>
      rw [hi] at h
      cases h
      exact .inr rfl
    | error e =>
      rw [hi] at h
      cases h

/-- What an accepting run with so much fuel has read. -/
structure SoundAt (F : Strtod) (fuel : Nat) : Prop where
  value : ∀ s states x, Ends F fuel (.value (scan s).1 (scan s).2 states) x →
    ∃ ts v r n, n < fuel ∧ Scans s ts r ∧ Value F ts v ∧ Ends F n (.evaluate v r states) x
  elements : ∀ s ts v r ys states x, Scans s ts r → Value F ts v →
    Ends F fuel (.evaluate v r (.array ys :: states)) x →
    ∃ us xs r' n, n < fuel ∧ Scans s (us ++ [.endArray]) r' ∧ Elements F us xs ∧
      Ends F n (.evaluate (.arr (ys ++ xs)) r' states) x
  members : ∀ s key ts v r m states x, Scans s (.valueString key :: .nameSeparator :: ts) r →
    Value F ts v → Ends F fuel (.evaluate v r (.object m key :: states)) x →
    ∃ us fields r' n, n < fuel ∧ Scans s (us ++ [.endObject]) r' ∧ Members F us fields ∧
      Ends F n (.evaluate (.obj (setMembers m fields)) r' states) x

theorem scans_one (s : Str) : Scans s [(scan s).1] (scan s).2 := .cons (.nil _)

/-- A key and what begins after it. -/
theorem parseKey_spec {m : List (Str × Json)} {s : Str} {states : List Frame} {c : Config}
    (h : parseKey m (scan s).1 (scan s).2 states = .next c) : ∃ key s', (scan s).1 = .valueString key ∧
      Scans s [.valueString key, .nameSeparator] s' ∧
      c = .value (scan s').1 (scan s').2 (.object m key :: states) := by
  unfold parseKey at h
  split at h
  · rename_i key hk
    rcases ite_eq_iff.mp h with ⟨hc, h⟩ | ⟨-, h⟩
    · cases h
      exact ⟨key, _, hk, scans_cons.mpr ⟨hk, scans_cons.mpr ⟨hc, .nil _⟩⟩, rfl⟩
    · cases h
  · cases h

/-- The value of a member, and the members after it. -/
theorem SoundAt.rest {n : Nat} (ih : ∀ k < n, SoundAt F k) {m : List (Str × Json)} {s : Str}
    {states : List Frame} {c : Config} {x : Json × Str}
    (hc : parseKey m (scan s).1 (scan s).2 states = .next c) {k : Nat} (hk : k < n)
    (hx : Ends F k c x) : ∃ us fields r n, n < k ∧ Scans s (us ++ [.endObject]) r ∧
      Members F us fields ∧ Ends F n (.evaluate (.obj (setMembers m fields)) r states) x := by
  obtain ⟨key, s', -, hs, rfl⟩ := parseKey_spec hc
  obtain ⟨ts, v, r, k₁, hk₁, hts, hv, hx⟩ := (ih k hk).value s' _ x hx
  obtain ⟨us, fields, r', k₂, hk₂, hus, hf, hx⟩ :=
    (ih k₁ (hk₁.trans hk)).members s key ts v r m states x (hs.append hts) hv hx
  exact ⟨us, fields, r', k₂, hk₂.trans hk₁, hus, hf, hx⟩

theorem parseKey_ne_done {m : List (Str × Json)} {t : Token} {input r : Str} {states : List Frame}
    {v : Json} : parseKey m t input states ≠ .done v r := by
  intro h
  unfold parseKey at h
  split at h
  · rcases ite_eq_iff.mp h with ⟨-, h⟩ | ⟨-, h⟩ <;> cases h
  · cases h

theorem parseValue_ne_done {t : Token} {input r : Str} {states : List Frame} {v : Json} :
    parseValue F t input states ≠ .done v r := by
  intro h
  unfold parseValue at h
  split at h
  · rcases ite_eq_iff.mp h with ⟨-, h⟩ | ⟨-, h⟩
    · cases h
    · exact parseKey_ne_done h
  · rcases ite_eq_iff.mp h with ⟨-, h⟩ | ⟨-, h⟩ <;> cases h
  · split at h <;> cases h
  all_goals cases h

theorem sound_value {n : Nat} (ih : ∀ k < n, SoundAt F k) {s : Str} {states : List Frame}
    {x : Json × Str} (h : Ends F n (.value (scan s).1 (scan s).2 states) x) :
    ∃ ts v r k, k < n ∧ Scans s ts r ∧ Value F ts v ∧ Ends F k (.evaluate v r states) x := by
  obtain ⟨k, rfl, ⟨c, hc, hx⟩ | hdone⟩ := h.next
  · have hone : ∀ {t : Token} {v : Json}, (scan s).1 = t → Value F [t] v →
        c = .evaluate v (scan s).2 states → ∃ ts v r k', k' < k + 1 ∧ Scans s ts r ∧
          Value F ts v ∧ Ends F k' (.evaluate v r states) x := by
      rintro t v rfl hv rfl
      exact ⟨_, v, _, k, Nat.lt_succ_self k, scans_one s, hv, hx⟩
    rw [iterate] at hc
    unfold parseValue at hc
    split at hc
    · rename_i ht
      rcases ite_eq_iff.mp hc with ⟨he, hc⟩ | ⟨-, hc⟩
      · cases hc
        refine ⟨_, _, _, k, Nat.lt_succ_self k, ?_, .emptyObject, hx⟩
        exact scans_cons.mpr ⟨ht, scans_cons.mpr ⟨he, .nil _⟩⟩
      · obtain ⟨us, fields, r, k', hk', hus, hf, hx⟩ := SoundAt.rest ih hc (Nat.lt_succ_self k) hx
        refine ⟨_, _, r, k', Nat.lt_succ_of_lt hk', ?_, .object hf, hx⟩
        exact scans_cons.mpr ⟨ht, hus⟩
    · rename_i ht
      rcases ite_eq_iff.mp hc with ⟨he, hc⟩ | ⟨-, hc⟩
      · cases hc
        refine ⟨_, _, _, k, Nat.lt_succ_self k, ?_, .emptyArray, hx⟩
        exact scans_cons.mpr ⟨ht, scans_cons.mpr ⟨he, .nil _⟩⟩
      · cases hc
        obtain ⟨ts, v, r, k₁, hk₁, hts, hv, hx⟩ := (ih k (Nat.lt_succ_self k)).value _ _ x hx
        obtain ⟨us, xs, r', k₂, hk₂, hus, hxs, hx⟩ :=
          (ih k₁ (Nat.lt_succ_of_lt hk₁)).elements _ ts v r [] states x hts hv hx
        refine ⟨_, _, r', k₂, Nat.lt_succ_of_lt (hk₂.trans hk₁), ?_, .array hxs, hx⟩
        exact scans_cons.mpr ⟨ht, hus⟩
    · rename_i ht
      split at hc
      · cases hc
      · rename_i hd
        cases hc
        exact hone ht (.float hd) rfl
    · rename_i ht
      cases hc
      exact hone ht .false rfl
    · rename_i ht
      cases hc
      exact hone ht .null rfl
    · rename_i ht
      cases hc
      exact hone ht .true rfl
    · rename_i ht
      cases hc
      exact hone ht (.integer _) rfl
    · rename_i ht
      cases hc
      exact hone ht (.string _) rfl
    · rename_i ht
      cases hc
      exact hone ht (.unsigned _) rfl
    · cases hc
  · exact absurd hdone parseValue_ne_done

theorem sound_elements {n : Nat} (ih : ∀ k < n, SoundAt F k) {s r : Str} {ts : List Token} {v : Json}
    {ys : List Json} {states : List Frame} {x : Json × Str} (hs : Scans s ts r) (hv : Value F ts v)
    (h : Ends F n (.evaluate v r (.array ys :: states)) x) :
    ∃ us xs r' k, k < n ∧ Scans s (us ++ [.endArray]) r' ∧ Elements F us xs ∧
      Ends F k (.evaluate (.arr (ys ++ xs)) r' states) x := by
  obtain ⟨k, rfl, ⟨c, hc, hx⟩ | hdone⟩ := h.next
  · rw [iterate, evaluateState] at hc
    rcases ite_eq_iff.mp hc with ⟨ht, hc⟩ | ⟨-, hc⟩
    · cases hc
      obtain ⟨ts', v', r₁, k₁, hk₁, hts', hv', hx⟩ := (ih k (Nat.lt_succ_self k)).value _ _ x hx
      obtain ⟨us, xs, r', k₂, hk₂, hus, hxs, hx⟩ :=
        (ih k₁ (Nat.lt_succ_of_lt hk₁)).elements _ ts' v' r₁ (ys ++ [v]) states x hts' hv' hx
      refine ⟨_, v :: xs, r', k₂, Nat.lt_succ_of_lt (hk₂.trans hk₁), ?_, .more hv hxs, ?_⟩
      · rw [List.append_assoc]
        exact hs.append (scans_cons.mpr ⟨ht, hus⟩)
      · rwa [List.append_assoc] at hx
    · rcases ite_eq_iff.mp hc with ⟨ht, hc⟩ | ⟨-, hc⟩
      · cases hc
        refine ⟨ts, [v], _, k, Nat.lt_succ_self k, ?_, .one hv, hx⟩
        exact hs.append (scans_cons.mpr ⟨ht, .nil _⟩)
      · cases hc
  · rw [iterate, evaluateState] at hdone
    rcases ite_eq_iff.mp hdone with ⟨-, h⟩ | ⟨-, h⟩
    · cases h
    · rcases ite_eq_iff.mp h with ⟨-, h⟩ | ⟨-, h⟩ <;> cases h

theorem sound_members {n : Nat} (ih : ∀ k < n, SoundAt F k) {s r : Str} {key : Str}
    {ts : List Token} {v : Json} {m : List (Str × Json)} {states : List Frame} {x : Json × Str}
    (hs : Scans s (.valueString key :: .nameSeparator :: ts) r) (hv : Value F ts v)
    (h : Ends F n (.evaluate v r (.object m key :: states)) x) :
    ∃ us fields r' k, k < n ∧ Scans s (us ++ [.endObject]) r' ∧ Members F us fields ∧
      Ends F k (.evaluate (.obj (setMembers m fields)) r' states) x := by
  obtain ⟨k, rfl, ⟨c, hc, hx⟩ | hdone⟩ := h.next
  · rw [iterate, evaluateState] at hc
    rcases ite_eq_iff.mp hc with ⟨ht, hc⟩ | ⟨-, hc⟩
    · obtain ⟨us, fields, r', k', hk', hus, hf, hx⟩ := SoundAt.rest ih hc (Nat.lt_succ_self k) hx
      refine ⟨_, (key, v) :: fields, r', k', Nat.lt_succ_of_lt hk', ?_, .more key hv hf, hx⟩
      rw [List.append_assoc]
      exact hs.append (scans_cons.mpr ⟨ht, hus⟩)
    · rcases ite_eq_iff.mp hc with ⟨ht, hc⟩ | ⟨-, hc⟩
      · cases hc
        refine ⟨_, [(key, v)], _, k, Nat.lt_succ_self k, ?_, .one key hv, hx⟩
        exact hs.append (scans_cons.mpr ⟨ht, .nil _⟩)
      · cases hc
  · rw [iterate, evaluateState] at hdone
    rcases ite_eq_iff.mp hdone with ⟨-, h⟩ | ⟨-, h⟩
    · exact absurd h parseKey_ne_done
    · rcases ite_eq_iff.mp h with ⟨-, h⟩ | ⟨-, h⟩ <;> cases h

theorem sound (fuel : Nat) : SoundAt F fuel := by
  induction fuel using Nat.strong_induction_on with
  | _ n ih =>
    exact ⟨fun s states x h => sound_value ih h, fun s ts v r ys states x hs hv h =>
      sound_elements ih hs hv h, fun s key ts v r m states x hs hv h => sound_members ih hs hv h⟩

/-! ## The loop ends -/

/-- A bound for the iterations that are left. -/
def Config.cost : Config → Nat
  | .value t input _ => 2 * input.length + if t = .endOfInput then 2 else 3
  | .evaluate _ input _ => 2 * input.length + 2

theorem cost_scan (s : Str) (states : List Frame) :
    (Config.value (scan s).1 (scan s).2 states).cost ≤ 2 * s.length + 2 := by
  obtain ⟨hle, hlt⟩ := scan_length s
  rw [Config.cost]
  split
  · omega
  · rename_i hne
    have := hlt.resolve_left hne
    omega

/-- A token that is not the end of the input. -/
theorem scan_lt {s : Str} {t : Token} (h : (scan s).1 = t) (ht : t ≠ .endOfInput) :
    (scan s).2.length < s.length :=
  (scan_length s).2.resolve_left fun e => ht (h.symm.trans e)

theorem parseKey_cost {m : List (Str × Json)} {s : Str} {states : List Frame} {c : Config}
    (h : parseKey m (scan s).1 (scan s).2 states = .next c) : c.cost < 2 * s.length := by
  obtain ⟨key, s', hk, hs, rfl⟩ := parseKey_spec h
  obtain ⟨-, hs⟩ := scans_cons.mp hs
  obtain ⟨hc, hs⟩ := scans_cons.mp hs
  obtain rfl := scans_nil.mp hs
  have h₁ := scan_lt hk (by simp)
  have h₂ := scan_lt hc (by simp)
  have h₃ := cost_scan (scan (scan s).2).2 (.object m key :: states)
  omega

theorem iterate_cost {c c' : Config} (h : iterate F c = .next c') : c'.cost < c.cost := by
  cases c with
  | value t input states =>
    rw [iterate] at h
    have hscalar : ∀ v, t ≠ .endOfInput →
        (Config.evaluate v input states).cost < (Config.value t input states).cost := by
      intro v ht
      rw [Config.cost, Config.cost, if_neg ht]
      omega
    unfold parseValue at h
    split at h
    · have hcost : (Config.value .beginObject input states).cost = 2 * input.length + 3 := rfl
      rcases ite_eq_iff.mp h with ⟨he, h⟩ | ⟨-, h⟩
      · cases h
        have := scan_lt he (by simp)
        rw [hcost, Config.cost]
        omega
      · have := parseKey_cost h
        omega
    · have hcost : (Config.value .beginArray input states).cost = 2 * input.length + 3 := rfl
      rcases ite_eq_iff.mp h with ⟨he, h⟩ | ⟨-, h⟩
      · cases h
        have := scan_lt he (by simp)
        rw [hcost, Config.cost]
        omega
      · cases h
        have := cost_scan input (.array [] :: states)
        omega
    · split at h
      · cases h
      · cases h
        exact hscalar _ (by simp)
    · cases h
      exact hscalar _ (by simp)
    · cases h
      exact hscalar _ (by simp)
    · cases h
      exact hscalar _ (by simp)
    · cases h
      exact hscalar _ (by simp)
    · cases h
      exact hscalar _ (by simp)
    · cases h
      exact hscalar _ (by simp)
    · cases h
  | evaluate v input states =>
    have hcost : (Config.evaluate v input states).cost = 2 * input.length + 2 := rfl
    rw [iterate] at h
    cases states with
    | nil => cases h
    | cons frame states =>
      cases frame with
      | array xs =>
        rw [evaluateState] at h
        rcases ite_eq_iff.mp h with ⟨ht, h⟩ | ⟨-, h⟩
        · cases h
          have := scan_lt ht (by simp)
          have := cost_scan (scan input).2 (.array (xs ++ [v]) :: states)
          omega
        · rcases ite_eq_iff.mp h with ⟨ht, h⟩ | ⟨-, h⟩
          · cases h
            have := scan_lt ht (by simp)
            rw [hcost, Config.cost]
            omega
          · cases h
      | object m key =>
        rw [evaluateState] at h
        rcases ite_eq_iff.mp h with ⟨ht, h⟩ | ⟨-, h⟩
        · have := scan_lt ht (by simp)
          have := parseKey_cost h
          omega
        · rcases ite_eq_iff.mp h with ⟨ht, h⟩ | ⟨-, h⟩
          · cases h
            have := scan_lt ht (by simp)
            rw [hcost, Config.cost]
            omega
          · cases h

/-- **The loop ends** within its cost. -/
theorem loop_ends {c : Config} {fuel : Nat} (h : c.cost < fuel) :
    ∃ x, saxParseInternal F fuel c = some x := by
  induction fuel generalizing c with
  | zero => omega
  | succ fuel ih =>
    rw [saxParseInternal]
    cases hi : iterate F c with
    | next c' => exact ih (Nat.lt_of_lt_of_le (iterate_cost hi) (Nat.le_of_lt_succ h))
    | done v input => exact ⟨_, rfl⟩
    | error e => exact ⟨_, rfl⟩

/-- The loop ends on every input. -/
theorem parse_ends (s : Str) :
    ∃ x, saxParseInternal F (2 * s.length + 4) (.value (scan s).1 (scan s).2 []) = some x :=
  loop_ends (Nat.lt_of_le_of_lt (cost_scan s []) (by omega))

/-- What is accepted, and what it gives. -/
theorem parse_accepts {s : Str} {v : Json} : parse F s = .ok v ↔ ∃ s' ts r, skipBom s = some s' ∧
    Scans s' ts r ∧ Value F ts v ∧ (scan r).1 = .endOfInput := by
  unfold parse
  cases skipBom s with
  | none => simp
  | some s =>
    obtain ⟨x, hx⟩ := parse_ends (F := F) s
    constructor
    · intro h
      dsimp only at h
      rw [hx] at h
      cases x with
      | error e => cases h
      | ok x =>
        obtain ⟨v', r⟩ := x
        rcases ite_eq_iff.mp h with ⟨hend, h⟩ | ⟨-, h⟩
        · cases h
          obtain ⟨ts, v', r', n, -, hs, hv, hx⟩ := (sound _).value s [] _ hx
          obtain ⟨k, rfl, ⟨c, hc, -⟩ | hdone⟩ := hx.next
          · cases hc
          · cases hdone
            exact ⟨s, ts, r, rfl, hs, hv, hend⟩
        · cases h
    · rintro ⟨s', ts, r, hs', hs, hv, hend⟩
      cases hs'
      obtain ⟨n, hn⟩ := (hv.parses s r [] hs).loop hx
      have hx' : x = .ok (v, r) := by
        cases n with
        | zero => cases hn
        | succ n =>
          rw [saxParseInternal] at hn
          cases hn
          rfl
      dsimp only
      rw [hx, hx']
      exact if_pos hend

/-- **`json::parse` accepts the texts of the grammar** and gives the values that it derives: after an
optional byte order mark, the tokens of a value, and then the end of the input or a NUL. Its loop ends
on every input. -/
theorem parse_iff (s : Str) :
    (∀ s', skipBom s = some s' →
      ∃ x, saxParseInternal F (2 * s'.length + 4) (.value (scan s').1 (scan s').2 []) = some x) ∧
    ∀ v, parse F s = .ok v ↔ ∃ s' ts r, skipBom s = some s' ∧ Scans s' ts r ∧ Value F ts v ∧
      (scan r).1 = .endOfInput :=
  ⟨fun s' _ => parse_ends s', fun _ => parse_accepts⟩

end Loop

end Nlohmann

end QtChat
