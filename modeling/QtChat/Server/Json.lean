import Mathlib.Data.List.Induction
import QtChat.Server.Text

/-!
# JSON values

What the server uses of `nlohmann::json` (`thirdparty/json.hpp`, 3.6.1): values, `contains`,
`operator[]` on a request (`Json.index`), `get<int>` and the conversion to a string with their
exceptions, building an object field by field (`Json.object`), and the compact `dump`. Strings are
UTF-8: the parser takes no others and the columns of the database are `utf8mb4`, so `dump` is total.

A double is what the server can see of it: the text `dump` prints and the `int` a cast gives
(`Dbl`). The parser itself is a parameter (`JsonParser`) with the one thing the server relies on: it
reads back what `dump` wrote of a value that it gave.
-/

namespace QtChat

/-- A double: what `dump` prints, and `static_cast<int>`. -/
structure Dbl where
  text : Str
  trunc : Int
  ne_nil : text ≠ []
  no_nul : (0 : UInt8) ∉ text

/-- A JSON value. The members of an object stand in the order of their keys (`std::map`). -/
inductive Json where
  | null
  | bool (b : Bool)
  | int (z : Int)
  | float (d : Dbl)
  | str (s : Str)
  | arr (xs : List Json)
  | obj (members : List (Str × Json))

/-- The `json::type_error` of a failed access: its id. -/
inductive JsonError where
  | type_error (id : Nat)
  deriving DecidableEq

/-- The conversion of a 64-bit integer to `int`. -/
def toInt32 (z : Int) : Int := z.bmod (2 ^ 32)

namespace Json

/-- `m[k] = v` for a `std::map`. -/
def setMember (k : Str) (v : Json) : List (Str × Json) → List (Str × Json)
  | [] => [(k, v)]
  | (k', v') :: m =>
    if k = k' then (k, v) :: m
    else if k < k' then (k, v) :: (k', v') :: m
    else (k', v') :: setMember k v m

/-- An object from `js[key] = value` in this order. -/
def object (fields : List (String × Json)) : Json :=
  .obj (fields.foldl (fun m f => setMember (txt f.1) f.2 m) [])

/-- The value of a member. -/
def get? (js : Json) (key : String) : Option Json :=
  match js with
  | .obj m => (m.find? fun kv => kv.1 = txt key).map Prod.snd
  | _ => none

def contains (js : Json) (key : String) : Bool := (js.get? key).isSome

/-- `js[key]`: a missing member is made and is null, a null is made an object first. -/
def index (js : Json) (key : String) : Except JsonError Json :=
  match js with
  | .null => .ok .null
  | .obj _ => .ok ((js.get? key).getD .null)
  | _ => .error (.type_error 305)

/-- `get<int>()`. -/
def getInt : Json → Except JsonError Int
  | .int z => .ok (toInt32 z)
  | .float d => .ok d.trunc
  | .bool b => .ok (if b then 1 else 0)
  | _ => .error (.type_error 302)

/-- The conversion to a `std::string`. -/
def getString : Json → Except JsonError Str
  | .str s => .ok s
  | _ => .error (.type_error 302)

/-- `js[key].get<int>()`. -/
def intAt (js : Json) (key : String) : Except JsonError Int := js.index key >>= getInt

/-- `string s = js[key]`. -/
def stringAt (js : Json) (key : String) : Except JsonError Str := js.index key >>= getString

/-- An array of strings. -/
def strings (ss : List Str) : Json := .arr (ss.map .str)

/-! ## Dump -/

def hexDigit (n : UInt8) : UInt8 := if n < 10 then 48 + n else 87 + n

/-- One byte of a string in `dump_escaped`. -/
def dumpByte (b : UInt8) : Str :=
  if b = 8 then [92, 98]
  else if b = 9 then [92, 116]
  else if b = 10 then [92, 110]
  else if b = 12 then [92, 102]
  else if b = 13 then [92, 114]
  else if b = 34 then [92, 34]
  else if b = 92 then [92, 92]
  else if b ≤ 31 then txt "\\u00" ++ [hexDigit (b / 16), hexDigit (b % 16)]
  else [b]

/-- A string in quotes. -/
def quote (s : Str) : Str := 34 :: (s.flatMap dumpByte ++ [34])

mutual

/-- The compact `dump()`. -/
def dump : Json → Str
  | .null => txt "null"
  | .bool b => if b then txt "true" else txt "false"
  | .int z => decimal z
  | .float d => d.text
  | .str s => quote s
  | .arr xs => 91 :: (dumpElems xs ++ [93])
  | .obj m => 123 :: (dumpMembers m ++ [125])

def dumpElems : List Json → Str
  | [] => []
  | x :: xs => dump x ++ (if xs.isEmpty then [] else 44 :: dumpElems xs)

def dumpMembers : List (Str × Json) → Str
  | [] => []
  | (k, v) :: m => quote k ++ 58 :: dump v ++ (if m.isEmpty then [] else 44 :: dumpMembers m)

end

example : dump (object [("msgid", .int 11), ("friendid", .int 7), ("state", .str (txt "online"))]) =
    txt "\x7b\"friendid\":7,\"msgid\":11,\"state\":\"online\"\x7d" := by decide

/-! ## Members of an object -/

theorem find_setMember (k k' : Str) (v : Json) (m : List (Str × Json)) :
    ((setMember k v m).find? fun kv => kv.1 = k').map Prod.snd =
      if k = k' then some v else (m.find? fun kv => kv.1 = k').map Prod.snd := by
  induction m with
  | nil =>
    rw [setMember]
    split <;> simp_all
  | cons e m ih =>
    obtain ⟨k₀, v₀⟩ := e
    rw [setMember]
    split
    · rename_i h
      subst h
      by_cases hk : k = k' <;> simp [hk]
    · split
      · by_cases hk : k = k' <;> simp [hk]
      · rename_i h _
        by_cases hk : k = k'
        · subst hk
          have : ¬k₀ = k := fun e => h e.symm
          simpa [this] using ih
        · by_cases hk₀ : k₀ = k'
          · simp [hk, hk₀]
          · simpa [hk, hk₀] using ih

/-- A member that the last field sets, or one before. -/
theorem get?_object_concat (fields : List (String × Json)) (f : String × Json) (key : String) :
    (object (fields ++ [f])).get? key =
      if txt f.1 = txt key then some f.2 else (object fields).get? key := by
  simp only [object, List.foldl_append, List.foldl_cons, List.foldl_nil, get?]
  exact find_setMember _ _ _ _

/-- Fields with other keys do not matter. -/
theorem get?_object_append {fields more : List (String × Json)} {key : String}
    (h : ∀ f ∈ more, txt f.1 ≠ txt key) :
    (object (fields ++ more)).get? key = (object fields).get? key := by
  induction more using List.reverseRecOn with
  | nil => rw [List.append_nil]
  | append_singleton more f ih =>
    rw [← List.append_assoc, get?_object_concat, if_neg (h f (by simp)),
      ih fun g hg => h g (by simp [hg])]

/-! ## No NUL in a dump -/

theorem hexDigit_ne_zero {n : UInt8} (h : n.toNat < 16) : hexDigit n ≠ 0 := by
  intro e
  have := congrArg UInt8.toNat e
  unfold hexDigit at this
  split at this <;> rw [UInt8.toNat_add] at this <;> simp at this <;> omega

theorem no_nul_dumpByte (b : UInt8) : (0 : UInt8) ∉ dumpByte b := by
  unfold dumpByte
  repeat' split
  · decide
  · decide
  · decide
  · decide
  · decide
  · decide
  · decide
  · have hu : (0 : UInt8) ∉ txt "\\u00" := by decide
    have h₁ : hexDigit (b / 16) ≠ 0 := hexDigit_ne_zero (by
      have := b.toNat_lt; rw [UInt8.toNat_div]; simp; omega)
    have h₂ : hexDigit (b % 16) ≠ 0 := hexDigit_ne_zero (by
      rw [UInt8.toNat_mod]; exact Nat.mod_lt _ (by decide))
    rw [List.mem_append, not_or]
    exact ⟨hu, by simp [h₁.symm, h₂.symm]⟩
  · rename_i h
    rw [List.mem_singleton]
    rintro rfl
    exact h (by decide)

theorem no_nul_quote (s : Str) : (0 : UInt8) ∉ quote s := by
  intro h
  simp only [quote, List.mem_cons, List.mem_append, List.mem_flatMap, List.not_mem_nil,
    or_false] at h
  rcases h with h | ⟨b, -, h⟩ | h
  · cases h
  · exact no_nul_dumpByte b h
  · cases h

mutual

theorem no_nul_dump : ∀ j : Json, (0 : UInt8) ∉ dump j
  | .null => by rw [dump]; decide
  | .bool b => by rw [dump]; cases b <;> decide
  | .int z => by rw [dump]; exact no_nul_decimal z
  | .float d => by rw [dump]; exact d.no_nul
  | .str s => by rw [dump]; exact no_nul_quote s
  | .arr xs => by
    rw [dump]
    have := no_nul_dumpElems xs
    simp [this]
  | .obj m => by
    rw [dump]
    have := no_nul_dumpMembers m
    simp [this]

theorem no_nul_dumpElems : ∀ xs : List Json, (0 : UInt8) ∉ dumpElems xs
  | [] => by rw [dumpElems]; simp
  | x :: xs => by
    rw [dumpElems]
    have h := no_nul_dump x
    have h' := no_nul_dumpElems xs
    split <;> simp [h, h']

theorem no_nul_dumpMembers : ∀ m : List (Str × Json), (0 : UInt8) ∉ dumpMembers m
  | [] => by rw [dumpMembers]; simp
  | (k, v) :: m => by
    rw [dumpMembers]
    have hk := no_nul_quote k
    have h := no_nul_dump v
    have h' := no_nul_dumpMembers m
    split <;> simp [hk, h, h']

end

end Json

open Json in
/-- `json::parse`: a value or a `parse_error`. What it gives, it reads back from the dump. -/
structure JsonParser where
  parse : Str → Option Json
  parse_dump : ∀ {b js}, parse b = some js → parse (dump js) = some js

/-- The parser on the dumps of these values alone. -/
def JsonParser.ofDumps (values : List Json) : JsonParser where
  parse b := values.find? fun js => js.dump = b
  parse_dump := by
    intro b js h
    have hb : js.dump = b := by simpa using List.find?_some h
    rw [hb]
    exact h

end QtChat
