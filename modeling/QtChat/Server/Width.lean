import QtChat.Server.ChatService

/-!
# The length of a dump

How many bytes the server writes, counted from the values. A string in JSON is escaped, and an entry
of the login acknowledgement is a string that holds a dump, so it is escaped twice, and the members
of a group three times.

- `strWidth k s`: the length of `s` escaped `k` times (`strWidth_escape`).
- `Json.width k js`: the length of the dump of `js` escaped `k` times (`strWidth_dump`), so
  `width 0` is the length of a body (`length_dump`).
- `ackWidth`: the length of a positive `LOGIN_MSG_ACK` (`width_loginResponse`).
-/

namespace QtChat

open Json

/-- The bytes that `k` rounds of `dump_escaped` make of one. -/
def byteWidth : Nat → UInt8 → Nat
  | 0, _ => 1
  | k + 1, b => ((dumpByte b).map (byteWidth k)).sum

/-- The length of a string escaped `k` times. -/
def strWidth (k : Nat) (s : Str) : Nat := (s.map (byteWidth k)).sum

@[simp] theorem strWidth_nil (k : Nat) : strWidth k [] = 0 := rfl

@[simp] theorem strWidth_cons (k : Nat) (b : UInt8) (s : Str) :
    strWidth k (b :: s) = byteWidth k b + strWidth k s := rfl

@[simp] theorem strWidth_append (k : Nat) (s t : Str) :
    strWidth k (s ++ t) = strWidth k s + strWidth k t := by
  simp [strWidth]

theorem strWidth_zero (s : Str) : strWidth 0 s = s.length := by
  induction s with
  | nil => rfl
  | cons b s ih =>
    rw [strWidth_cons, ih, List.length_cons, byteWidth]
    omega

theorem strWidth_escape (k : Nat) (s : Str) :
    strWidth k (s.flatMap dumpByte) = strWidth (k + 1) s := by
  induction s with
  | nil => rfl
  | cons b s ih =>
    rw [List.flatMap_cons, strWidth_append, ih, strWidth_cons]
    rfl

/-! ## Bytes -/

/-- A byte that `dump_escaped` leaves alone. -/
def Plain (b : UInt8) : Prop := dumpByte b = [b]

instance : DecidablePred Plain := fun _ => inferInstanceAs (Decidable (_ = _))

theorem Plain.byteWidth {b : UInt8} (h : Plain b) (k : Nat) : byteWidth k b = 1 := by
  induction k with
  | zero => rfl
  | succ k ih => rw [QtChat.byteWidth, h, List.map_singleton, List.sum_singleton, ih]

theorem strWidth_plain {s : Str} (h : ∀ b ∈ s, Plain b) (k : Nat) : strWidth k s = s.length := by
  induction s with
  | nil => rfl
  | cons b s ih =>
    rw [strWidth_cons, (h b (by simp)).byteWidth, ih fun c hc => h c (by simp [hc]),
      List.length_cons, Nat.add_comm]

theorem byteWidth_backslash (k : Nat) : byteWidth k 92 = 2 ^ k := by
  induction k with
  | zero => rfl
  | succ k ih =>
    have hd : dumpByte 92 = [92, 92] := by decide
    rw [byteWidth, hd]
    simp only [List.map_cons, List.map_nil, List.sum_cons, List.sum_nil, ih]
    omega

/-- A quote doubles with every round. -/
theorem byteWidth_quote (k : Nat) : byteWidth k 34 = 2 ^ k := by
  induction k with
  | zero => rfl
  | succ k ih =>
    have hd : dumpByte 34 = [92, 34] := by decide
    rw [byteWidth, hd]
    simp only [List.map_cons, List.map_nil, List.sum_cons, List.sum_nil, ih, byteWidth_backslash]
    omega

/-- One round makes at most six bytes of one. -/
theorem byteWidth_one_le (b : UInt8) : byteWidth 1 b ≤ 6 := by
  have h : byteWidth 1 b = (dumpByte b).length := strWidth_zero (dumpByte b)
  rw [h]
  unfold dumpByte
  repeat' split
  all_goals simp
  decide

theorem strWidth_one_le (s : Str) : strWidth 1 s ≤ 6 * s.length := by
  induction s with
  | nil => exact Nat.le_refl 0
  | cons b s ih =>
    have := byteWidth_one_le b
    rw [strWidth_cons, List.length_cons]
    omega

theorem plain_of_isDigit {b : UInt8} (h : isDigit b = true) : Plain b := by
  simp only [isDigit, Bool.and_eq_true, decide_eq_true_eq, UInt8.le_iff_toNat_le] at h
  obtain ⟨h₁, h₂⟩ := h
  have hne : ∀ c : UInt8, ¬(48 ≤ c.toNat ∧ c.toNat ≤ 57) → b ≠ c := by
    rintro c hc rfl
    exact hc ⟨h₁, h₂⟩
  have hle : ¬b ≤ 31 := by
    rw [UInt8.le_iff_toNat_le]
    change ¬b.toNat ≤ 31
    change 48 ≤ b.toNat at h₁
    omega
  unfold Plain dumpByte
  simp [hne 8 (by decide), hne 9 (by decide), hne 10 (by decide), hne 12 (by decide),
    hne 13 (by decide), hne 34 (by decide), hne 92 (by decide), hle]

/-! ## Numbers -/

theorem strWidth_decimal (k : Nat) (z : Int) : strWidth k (decimal z) = (decimal z).length := by
  refine strWidth_plain (fun b hb => ?_) k
  rcases mem_decimal hb with rfl | hd
  · decide
  · exact plain_of_isDigit hd

theorem length_digitsAux {k fuel n : Nat} (h : n < 10 ^ (k + 1)) (acc : Str) :
    (digitsAux fuel n acc).length ≤ k + 1 + acc.length := by
  induction k generalizing fuel n acc with
  | zero =>
    cases fuel with
    | zero => rw [digitsAux]; omega
    | succ fuel =>
      rw [digitsAux, if_pos (by simpa using h), List.length_cons]
      omega
  | succ k ih =>
    cases fuel with
    | zero => rw [digitsAux]; omega
    | succ fuel =>
      rw [digitsAux]
      split
      · rw [List.length_cons]
        omega
      · have hn : n / 10 < 10 ^ (k + 1) := by
          rw [Nat.pow_succ] at h
          omega
        have hrest : (digitsAux fuel (n / 10) (digit (n % 10) :: acc)).length ≤
            k + 1 + (digit (n % 10) :: acc).length := ih hn _
        rw [List.length_cons] at hrest
        omega

/-- An `int` has at most ten digits and a sign. -/
theorem length_decimal_le {z : Int} (h : z.natAbs < 10 ^ 10) : (decimal z).length ≤ 11 := by
  have hd : (digits z.natAbs).length ≤ 10 := length_digitsAux (k := 9) h []
  unfold decimal
  split
  · rw [List.length_cons]
    omega
  · omega

/-! ## Values -/

/-- The length of a string in quotes. -/
def quoteWidth (k : Nat) (s : Str) : Nat := 2 * 2 ^ k + strWidth (k + 1) s

theorem quoteWidth_le (s : Str) : quoteWidth 0 s ≤ 2 + 6 * s.length := by
  have h : quoteWidth 0 s = 2 + strWidth 1 s := rfl
  have := strWidth_one_le s
  omega

theorem strWidth_quote (k : Nat) (s : Str) : strWidth k (quote s) = quoteWidth k s := by
  rw [quote, strWidth_cons, strWidth_append, strWidth_escape, strWidth_cons, strWidth_nil,
    byteWidth_quote, quoteWidth]
  omega

namespace Json

mutual

/-- The length of the dump escaped `k` times. -/
def width (k : Nat) : Json → Nat
  | .null => 4
  | .bool b => if b then 4 else 5
  | .int z => (decimal z).length
  | .float d => strWidth k d.text
  | .str s => quoteWidth k s
  | .arr xs => if xs.isEmpty then 2 else 1 + elemsWidth k xs
  | .obj m => if m.isEmpty then 2 else 1 + membersWidth k m

/-- The elements, each with what stands behind it. -/
def elemsWidth (k : Nat) : List Json → Nat
  | [] => 0
  | x :: xs => width k x + 1 + elemsWidth k xs

/-- The members, each with its colon and what stands behind it. -/
def membersWidth (k : Nat) : List (Str × Json) → Nat
  | [] => 0
  | (key, v) :: m => quoteWidth k key + 2 + width k v + membersWidth k m

end

mutual

theorem strWidth_dump (k : Nat) : ∀ js : Json, strWidth k js.dump = js.width k
  | .null => by rw [dump, width]; exact strWidth_plain (by decide +kernel) k
  | .bool b => by
    rw [dump, width]
    cases b
    · exact strWidth_plain (by decide +kernel) k
    · exact strWidth_plain (by decide +kernel) k
  | .int z => by rw [dump, width, strWidth_decimal]
  | .float d => by rw [dump, width]
  | .str s => by rw [dump, width, strWidth_quote]
  | .arr xs => by
    have ho : Plain 91 := by decide
    have hc : Plain 93 := by decide
    have h := strWidth_dumpElems k xs
    rw [dump, width, strWidth_cons, strWidth_append, strWidth_cons, strWidth_nil, ho.byteWidth,
      hc.byteWidth]
    cases xs with
    | nil => rfl
    | cons x xs =>
      have := h (by simp)
      rw [if_neg (by simp)]
      omega
  | .obj m => by
    have ho : Plain 123 := by decide
    have hc : Plain 125 := by decide
    have h := strWidth_dumpMembers k m
    rw [dump, width, strWidth_cons, strWidth_append, strWidth_cons, strWidth_nil, ho.byteWidth,
      hc.byteWidth]
    cases m with
    | nil => rfl
    | cons e m =>
      have := h (by simp)
      rw [if_neg (by simp)]
      omega

theorem strWidth_dumpElems (k : Nat) :
    ∀ xs : List Json, xs ≠ [] → strWidth k (dumpElems xs) + 1 = elemsWidth k xs
  | [], h => absurd rfl h
  | x :: xs, _ => by
    have hc : Plain 44 := by decide
    have hx := strWidth_dump k x
    have hxs := strWidth_dumpElems k xs
    rw [dumpElems, elemsWidth, strWidth_append, hx]
    cases xs with
    | nil => rfl
    | cons y xs =>
      have := hxs (by simp)
      rw [if_neg (by simp), strWidth_cons, hc.byteWidth]
      omega

theorem strWidth_dumpMembers (k : Nat) :
    ∀ m : List (Str × Json), m ≠ [] → strWidth k (dumpMembers m) + 1 = membersWidth k m
  | [], h => absurd rfl h
  | (key, v) :: m, _ => by
    have hcolon : Plain 58 := by decide
    have hc : Plain 44 := by decide
    have hv := strWidth_dump k v
    have hm := strWidth_dumpMembers k m
    rw [dumpMembers, membersWidth, strWidth_append, strWidth_append, strWidth_cons, strWidth_quote,
      hv, hcolon.byteWidth]
    cases m with
    | nil => rw [if_pos (by simp), strWidth_nil, membersWidth]; omega
    | cons e m =>
      have := hm (by simp)
      rw [if_neg (by simp), strWidth_cons, hc.byteWidth]
      omega

end

/-- **The length of a body.** -/
theorem length_dump (js : Json) : js.dump.length = js.width 0 := by
  rw [← strWidth_zero, strWidth_dump]

/-- A string that holds a dump. -/
theorem quoteWidth_dump (k : Nat) (js : Json) :
    quoteWidth k js.dump = 2 * 2 ^ k + js.width (k + 1) := by
  rw [quoteWidth, strWidth_dump]

theorem dump_ne_nil (js : Json) : js.dump ≠ [] := by
  cases js with
  | null => rw [dump]; decide
  | bool b => rw [dump]; cases b <;> decide
  | int z => rw [dump]; exact decimal_ne_nil z
  | float d => rw [dump]; exact d.ne_nil
  | str s => rw [dump]; exact List.cons_ne_nil _ _
  | arr xs => rw [dump]; exact List.cons_ne_nil _ _
  | obj m => rw [dump]; exact List.cons_ne_nil _ _

/-! ## Objects -/

/-- A field of an object, with its colon and what stands behind it. -/
def fieldWidth (k : Nat) (f : String × Json) : Nat := quoteWidth k (txt f.1) + 2 + f.2.width k

theorem membersWidth_setMember (k : Nat) {key : Str} {m : List (Str × Json)}
    (h : key ∉ m.map Prod.fst) (v : Json) :
    membersWidth k (setMember key v m) = quoteWidth k key + 2 + v.width k + membersWidth k m := by
  induction m with
  | nil => simp [setMember, membersWidth]
  | cons e m ih =>
    obtain ⟨key', v'⟩ := e
    simp only [List.map_cons, List.mem_cons, not_or] at h
    rw [setMember, if_neg h.1]
    split
    · rw [membersWidth]
    · rw [membersWidth, membersWidth, ih h.2]
      omega

theorem mem_keys_setMember {key key' : Str} {v : Json} {m : List (Str × Json)}
    (h : key' ∈ (setMember key v m).map Prod.fst) : key' = key ∨ key' ∈ m.map Prod.fst := by
  induction m with
  | nil => simpa [setMember] using h
  | cons e m ih =>
    obtain ⟨key₀, v₀⟩ := e
    rw [setMember] at h
    split at h
    · rename_i e
      subst e
      exact .inr h
    · split at h
      · simpa using h
      · rw [List.map_cons, List.mem_cons] at h
        rcases h with h | h
        · exact .inr (by simp [h])
        · exact (ih h).imp id fun h => by simp [h]

/-- The length of an object that is built from fields with different keys. -/
theorem width_object (k : Nat) {fields : List (String × Json)} (hne : fields ≠ [])
    (hn : (fields.map fun f => txt f.1).Nodup) :
    (object fields).width k = 1 + (fields.map (fieldWidth k)).sum := by
  have hm : ∀ fs : List (String × Json), (fs.map fun f => txt f.1).Nodup →
      membersWidth k (fs.foldl (fun m f => setMember (txt f.1) f.2 m) []) =
          (fs.map (fieldWidth k)).sum ∧
        ∀ key ∈ (fs.foldl (fun m f => setMember (txt f.1) f.2 m) []).map Prod.fst,
          key ∈ fs.map fun f => txt f.1 := by
    intro fs hfs
    induction fs using List.reverseRecOn with
    | nil => exact ⟨by rw [List.foldl_nil, membersWidth]; rfl, fun _ h => h⟩
    | append_singleton fs f ih =>
      rw [List.map_append, List.nodup_append] at hfs
      obtain ⟨hfs, -, hdis⟩ := hfs
      obtain ⟨hw, hkeys⟩ := ih hfs
      rw [List.foldl_append, List.foldl_cons, List.foldl_nil]
      constructor
      · rw [membersWidth_setMember k fun hin => hdis _ (hkeys _ hin) _ (by simp) rfl, hw,
          List.map_append, List.sum_append, List.map_singleton, List.sum_singleton, fieldWidth]
        omega
      · intro key hin
        rw [List.map_append, List.mem_append]
        rcases mem_keys_setMember hin with rfl | hin
        · exact .inr (by simp)
        · exact .inl (hkeys key hin)
  obtain ⟨hw, -⟩ := hm fields hn
  rw [object, width, if_neg, hw]
  have hpos : 0 < (fields.map (fieldWidth k)).sum := by
    obtain ⟨f, fs, rfl⟩ := List.exists_cons_of_ne_nil hne
    rw [List.map_cons, List.sum_cons, fieldWidth]
    omega
  intro he
  rw [List.isEmpty_iff.mp he, membersWidth] at hw
  omega

/-- A field whose key has `n` bytes that are not escaped. -/
theorem fieldWidth_key {k : Nat} {key : String} {v : Json} (n : Nat)
    (h : (txt key).length = n ∧ ∀ b ∈ txt key, Plain b) :
    fieldWidth k (key, v) = 2 * 2 ^ k + n + 2 + v.width k := by
  rw [fieldWidth, quoteWidth, strWidth_plain h.2, h.1]

/-- The length of an array of strings. -/
def stringsWidth (k : Nat) (ss : List Str) : Nat :=
  if ss.isEmpty then 2 else 1 + (ss.map fun s => quoteWidth k s + 1).sum

theorem width_strings (k : Nat) (ss : List Str) : (strings ss).width k = stringsWidth k ss := by
  have h : ∀ ss : List Str,
      elemsWidth k (ss.map .str) = (ss.map fun s => quoteWidth k s + 1).sum := by
    intro ss
    induction ss with
    | nil => rw [List.map_nil, elemsWidth]; rfl
    | cons s ss ih =>
      rw [List.map_cons, elemsWidth, width, ih]
      rfl
  rw [strings, width, h, stringsWidth, List.isEmpty_map]

end Json

/-! ## The acknowledgement -/

open ChatService

theorem strWidth_state (k : Nat) (state : UserState) : strWidth k state.text = state.text.length :=
  strWidth_plain (by cases state <;> decide +kernel) k

theorem strWidth_role (k : Nat) (role : Role) : strWidth k role.text = role.text.length :=
  strWidth_plain (by cases role <;> decide +kernel) k

/-- An entry of `friends`. -/
def friendWidth (user : User) : Nat :=
  38 + (decimal user.id).length + strWidth 2 user.name + user.state.text.length

theorem width_friendJson (user : User) : (friendJson user).width 1 = friendWidth user := by
  have hn : [txt "id", txt "name", txt "state"].Nodup := by decide
  unfold friendJson
  rw [width_object 1 (by simp) (by exact hn)]
  simp only [List.map_cons, List.map_nil, List.sum_cons, List.sum_nil]
  rw [fieldWidth_key 2 (by decide +kernel), fieldWidth_key 4 (by decide +kernel),
    fieldWidth_key 5 (by decide +kernel)]
  simp only [width, quoteWidth, strWidth_state, friendWidth, Nat.reduceAdd, Nat.reducePow]
  omega

/-- An entry of `users` of a group, which is an entry of `groups`. -/
def memberWidth (user : GroupUser) : Nat :=
  80 + (decimal user.id).length + strWidth 3 user.name + user.state.text.length +
    user.role.text.length

theorem width_memberJson (user : GroupUser) : (memberJson user).width 2 = memberWidth user := by
  have hn : [txt "id", txt "name", txt "state", txt "role"].Nodup := by decide
  unfold memberJson
  rw [width_object 2 (by simp) (by exact hn)]
  simp only [List.map_cons, List.map_nil, List.sum_cons, List.sum_nil]
  rw [fieldWidth_key 2 (by decide +kernel), fieldWidth_key 4 (by decide +kernel),
    fieldWidth_key 5 (by decide +kernel), fieldWidth_key 4 (by decide +kernel)]
  simp only [width, quoteWidth, strWidth_state, strWidth_role, memberWidth, Nat.reduceAdd,
    Nat.reducePow]
  omega

/-- An array of strings of these lengths, each with its quotes. -/
def arrayWidth (ws : List Nat) : Nat := if ws.isEmpty then 2 else 1 + (ws.map (· + 1)).sum

theorem stringsWidth_eq (k : Nat) (ss : List Str) :
    stringsWidth k ss = arrayWidth (ss.map (quoteWidth k)) := by
  simp only [stringsWidth, arrayWidth, List.isEmpty_map, List.map_map]
  rfl

/-- An entry of `groups`. -/
def groupWidth (group : Group) : Nat :=
  58 + (decimal group.id).length + strWidth 2 group.name + strWidth 2 group.desc +
    arrayWidth (group.users.map fun u => 4 + memberWidth u)

theorem width_groupJson (group : Group) : (groupJson group).width 1 = groupWidth group := by
  have hn : [txt "id", txt "groupname", txt "groupdesc", txt "users"].Nodup := by decide
  have hm : (quoteWidth 1 ∘ fun u => (memberJson u).dump) = fun u => 4 + memberWidth u := by
    funext u
    rw [Function.comp_apply, quoteWidth_dump, width_memberJson]
    rfl
  unfold groupJson
  rw [width_object 1 (by simp) (by exact hn)]
  simp only [List.map_cons, List.map_nil, List.sum_cons, List.sum_nil]
  rw [fieldWidth_key 2 (by decide +kernel), fieldWidth_key 9 (by decide +kernel),
    fieldWidth_key 9 (by decide +kernel), fieldWidth_key 5 (by decide +kernel), width_strings,
    stringsWidth_eq, List.map_map, hm]
  simp only [width, quoteWidth, groupWidth, Nat.reduceAdd, Nat.reducePow]
  omega

/-- A list of the acknowledgement, with its key, or nothing. -/
def listWidth (key : Nat) (ws : List Nat) : Nat :=
  if ws.isEmpty then 0 else 4 + key + arrayWidth ws

theorem listField_width {key : String} (n : Nat)
    (h : (txt key).length = n ∧ ∀ b ∈ txt key, Plain b) (vec : List Str) :
    ((listField key vec).map (fieldWidth 0)).sum = listWidth n (vec.map (quoteWidth 0)) := by
  unfold listField listWidth
  rw [List.isEmpty_map]
  split
  · rfl
  · rw [List.map_singleton, List.sum_singleton, fieldWidth_key n h, width_strings, stringsWidth_eq]
    omega

/-- **The length of a positive `LOGIN_MSG_ACK`**, from the rows: the user's id and name, the stored
messages, the friends, and the groups with their members. -/
def ackWidth (user : User) (vec : List Str) (userVec : List User) (groupVec : List Group) : Nat :=
  37 + (decimal user.id).length + strWidth 1 user.name +
    listWidth 10 (vec.map fun s => 2 + strWidth 1 s) +
    listWidth 7 (userVec.map fun u => 2 + friendWidth u) +
    listWidth 6 (groupVec.map fun g => 2 + groupWidth g)

theorem loginResponse_keys (user : User) (vec friends groups : List Str) :
    (([EnMsgType.loginMsgAck.field, ("errno", .int 0), ("id", .int user.id),
      ("name", .str user.name)] ++ listField "offlinemsg" vec ++ listField "friends" friends ++
      listField "groups" groups).map fun f => txt f.1).Nodup := by
  have hn : [txt "msgid", txt "errno", txt "id", txt "name", txt "offlinemsg", txt "friends",
      txt "groups"].Nodup := by decide
  have hl : ∀ key vec, (((listField key vec).map fun f => txt f.1)).Sublist [txt key] := by
    intro key vec
    unfold listField
    split
    · exact List.nil_sublist _
    · exact List.Sublist.refl _
  refine List.Nodup.sublist ?_ hn
  simp only [List.map_append]
  exact (((List.Sublist.refl [txt "msgid", txt "errno", txt "id", txt "name"]).append
    (hl "offlinemsg" _)).append (hl "friends" _)).append (hl "groups" _)

theorem width_loginResponse (user : User) (vec : List Str) (userVec : List User)
    (groupVec : List Group) :
    (loginResponse user vec userVec groupVec).width 0 = ackWidth user vec userVec groupVec := by
  unfold loginResponse
  rw [width_object 0 (by simp) (loginResponse_keys user vec _ _)]
  rw [List.map_append, List.map_append, List.map_append, List.sum_append, List.sum_append,
    List.sum_append, listField_width 10 (by decide +kernel), listField_width 7 (by decide +kernel),
    listField_width 6 (by decide +kernel), List.map_map, List.map_map]
  have hf : (quoteWidth 0 ∘ fun u => (friendJson u).dump) = fun u => 2 + friendWidth u := by
    funext u
    rw [Function.comp_apply, quoteWidth_dump, width_friendJson]
    rfl
  have hg : (quoteWidth 0 ∘ fun g => (groupJson g).dump) = fun g => 2 + groupWidth g := by
    funext g
    rw [Function.comp_apply, quoteWidth_dump, width_groupJson]
    rfl
  have hb : (([EnMsgType.loginMsgAck.field, ("errno", .int 0), ("id", .int user.id),
      ("name", .str user.name)].map (fieldWidth 0)).sum) =
        36 + (decimal user.id).length + strWidth 1 user.name := by
    simp only [EnMsgType.field, List.map_cons, List.map_nil, List.sum_cons, List.sum_nil]
    rw [fieldWidth_key 5 (by decide +kernel), fieldWidth_key 5 (by decide +kernel),
      fieldWidth_key 2 (by decide +kernel), fieldWidth_key 4 (by decide +kernel)]
    have h₁ : (decimal EnMsgType.loginMsgAck.toInt).length = 1 := by decide
    have h₂ : (decimal 0).length = 1 := by decide
    simp only [width, quoteWidth, Nat.reduceAdd, Nat.reducePow]
    omega
  rw [hf, hg, hb, ackWidth]
  change 1 + (36 + (decimal user.id).length + strWidth 1 user.name +
    listWidth 10 (vec.map fun s => 2 + strWidth 1 s) + _ + _) = _
  omega

/-- The stored messages alone. -/
theorem sum_le_ackWidth (user : User) (vec : List Str) (userVec : List User)
    (groupVec : List Group) :
    (vec.map fun s => 3 + strWidth 1 s).sum ≤ ackWidth user vec userVec groupVec := by
  have h : (vec.map fun s => 3 + strWidth 1 s).sum ≤
      listWidth 10 (vec.map fun s => 2 + strWidth 1 s) := by
    have hmap : ((vec.map fun s => 2 + strWidth 1 s).map (· + 1)) =
        vec.map fun s => 3 + strWidth 1 s := by
      rw [List.map_map]
      refine List.map_congr_left fun s _ => ?_
      simp only [Function.comp_apply]
      omega
    rw [listWidth, arrayWidth, hmap, List.isEmpty_map]
    cases vec with
    | nil => exact Nat.le_refl 0
    | cons s vec =>
      rw [if_neg (by simp), if_neg (by simp)]
      omega
  rw [ackWidth]
  omega

end QtChat
