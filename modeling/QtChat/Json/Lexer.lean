import QtChat.Server.Utf8

/-!
# The lexer of `json.hpp`

`lexer::scan` of nlohmann/json 3.6.1 on the bytes that are left of the input: the token, and what is
left after it. `unget` is a byte that is not taken. After an error the parser reads nothing more, so
nothing is left then.

The texts of the errors are left out: the server only writes them to its log.
-/

namespace QtChat

namespace Nlohmann

/-- `token_type`, with the value that the getters give. Of a float it is the text that is given to
`strtod`. -/
inductive Token where
  | literalTrue
  | literalFalse
  | literalNull
  | valueString (s : Str)
  | valueUnsigned (n : Nat)
  | valueInteger (z : Int)
  | valueFloat (text : Str)
  | beginArray
  | beginObject
  | endArray
  | endObject
  | nameSeparator
  | valueSeparator
  | parseError
  | endOfInput
  deriving DecidableEq

/-! ## Strings -/

/-- A digit of `get_codepoint`. -/
def hexValue (b : UInt8) : Option Nat :=
  if 48 ≤ b ∧ b ≤ 57 then some (b.toNat - 0x30)
  else if 65 ≤ b ∧ b ≤ 70 then some (b.toNat - 0x37)
  else if 97 ≤ b ∧ b ≤ 102 then some (b.toNat - 0x57)
  else none

/-- `get_codepoint`: four hexadecimal digits. -/
def getCodepoint (a b c d : UInt8) : Option Nat := do
  let a ← hexValue a
  let b ← hexValue b
  let c ← hexValue c
  let d ← hexValue d
  return a <<< 12 + b <<< 8 + c <<< 4 + d

/-- The bytes of a code point. -/
def codepointBytes (codepoint : Nat) : Str :=
  if codepoint < 0x80 then [codepoint.toUInt8]
  else if codepoint ≤ 0x7FF then
    [(0xC0 ||| codepoint >>> 6).toUInt8, (0x80 ||| codepoint &&& 0x3F).toUInt8]
  else if codepoint ≤ 0xFFFF then
    [(0xE0 ||| codepoint >>> 12).toUInt8, (0x80 ||| codepoint >>> 6 &&& 0x3F).toUInt8,
      (0x80 ||| codepoint &&& 0x3F).toUInt8]
  else
    [(0xF0 ||| codepoint >>> 18).toUInt8, (0x80 ||| codepoint >>> 12 &&& 0x3F).toUInt8,
      (0x80 ||| codepoint >>> 6 &&& 0x3F).toUInt8, (0x80 ||| codepoint &&& 0x3F).toUInt8]

/-- The byte that a backslash and another byte stand for. -/
def escaped (b : UInt8) : Option UInt8 :=
  if b = 34 then some 34
  else if b = 92 then some 92
  else if b = 47 then some 47
  else if b = 98 then some 8
  else if b = 102 then some 12
  else if b = 110 then some 10
  else if b = 114 then some 13
  else if b = 116 then some 9
  else none

/-- The ranges that `next_byte_in_range` is called with after a first byte; none: it is ill-formed. -/
def followRanges (b : UInt8) : Option (List (UInt8 × UInt8)) :=
  if 0xC2 ≤ b ∧ b ≤ 0xDF then some [(0x80, 0xBF)]
  else if b = 0xE0 then some [(0xA0, 0xBF), (0x80, 0xBF)]
  else if b = 0xED then some [(0x80, 0x9F), (0x80, 0xBF)]
  else if 0xE1 ≤ b ∧ b ≤ 0xEF then some [(0x80, 0xBF), (0x80, 0xBF)]
  else if b = 0xF0 then some [(0x90, 0xBF), (0x80, 0xBF), (0x80, 0xBF)]
  else if 0xF1 ≤ b ∧ b ≤ 0xF3 then some [(0x80, 0xBF), (0x80, 0xBF), (0x80, 0xBF)]
  else if b = 0xF4 then some [(0x80, 0x8F), (0x80, 0xBF), (0x80, 0xBF)]
  else none

/-- `scan_string` after the opening quote: the string, and what is left after the closing quote.
`ranges`: what `next_byte_in_range` still has to check. -/
def scanString : List (UInt8 × UInt8) → Str → Option (Str × Str)
  | _, [] => none
  | (low, high) :: ranges, b :: s =>
    if low ≤ b ∧ b ≤ high then (scanString ranges s).map fun r => (b :: r.1, r.2) else none
  | [], b :: s =>
    if b = 34 then some ([], s)
    else if b = 92 then
      match s with
      | [] => none
      | e :: s =>
        if e = 117 then
          match s with
          | h₁ :: h₂ :: h₃ :: h₄ :: s =>
            match getCodepoint h₁ h₂ h₃ h₄ with
            | none => none
            | some codepoint1 =>
              if 0xD800 ≤ codepoint1 ∧ codepoint1 ≤ 0xDBFF then
                -- a high surrogate: the low one must follow
                match s with
                | c :: u :: h₁ :: h₂ :: h₃ :: h₄ :: s =>
                  if c = 92 ∧ u = 117 then
                    match getCodepoint h₁ h₂ h₃ h₄ with
                    | none => none
                    | some codepoint2 =>
                      if 0xDC00 ≤ codepoint2 ∧ codepoint2 ≤ 0xDFFF then
                        (scanString [] s).map fun r =>
                          (codepointBytes (codepoint1 <<< 10 + codepoint2 - 0x35FDC00) ++ r.1, r.2)
                      else none
                  else none
                | _ => none
              else if 0xDC00 ≤ codepoint1 ∧ codepoint1 ≤ 0xDFFF then none
              else (scanString [] s).map fun r => (codepointBytes codepoint1 ++ r.1, r.2)
          | _ => none
        else
          match escaped e with
          | none => none
          | some c => (scanString [] s).map fun r => (c :: r.1, r.2)
    else if b ≤ 0x1F then none
    else if b ≤ 0x7F then (scanString [] s).map fun r => (b :: r.1, r.2)
    else
      match followRanges b with
      | none => none
      | some ranges => (scanString ranges s).map fun r => (b :: r.1, r.2)

/-! ## Numbers -/

/-- The labels of `scan_number`. -/
inductive NumberState where
  | minus
  | zero
  | any1
  | decimal1
  | decimal2
  | exponent
  | sign
  | any2
  deriving DecidableEq

namespace NumberState

/-- The first state, for the byte that `scan` has read. -/
def first (b : UInt8) : NumberState :=
  if b = 45 then .minus else if b = 48 then .zero else .any1

/-- The `goto` for the next byte; none: the default branch. -/
def next : NumberState → UInt8 → Option NumberState
  | .minus, b => if b = 48 then some .zero else if isDigit b then some .any1 else none
  | .zero, b =>
    if b = 46 then some .decimal1 else if b = 101 ∨ b = 69 then some .exponent else none
  | .any1, b =>
    if isDigit b then some .any1
    else if b = 46 then some .decimal1
    else if b = 101 ∨ b = 69 then some .exponent
    else none
  | .decimal1, b => if isDigit b then some .decimal2 else none
  | .decimal2, b =>
    if isDigit b then some .decimal2 else if b = 101 ∨ b = 69 then some .exponent else none
  | .exponent, b =>
    if b = 43 ∨ b = 45 then some .sign else if isDigit b then some .any2 else none
  | .sign, b => if isDigit b then some .any2 else none
  | .any2, b => if isDigit b then some .any2 else none

/-- The default branch is `scan_number_done`. -/
def final : NumberState → Bool
  | .zero | .any1 | .decimal2 | .any2 => true
  | .minus | .decimal1 | .exponent | .sign => false

end NumberState

/-- `number_type`. -/
inductive NumberType where
  | unsigned
  | integer
  | float
  deriving DecidableEq

/-- The number type when a label is reached. -/
def NumberType.at (type : NumberType) : NumberState → NumberType
  | .minus => .integer
  | .decimal1 | .exponent => .float
  | _ => type

/-- The bytes of the number, its type, and what is left. -/
def scanDigits (q : NumberState) (type : NumberType) : Str → Option (Str × NumberType × Str)
  | [] => if q.final then some ([], type, []) else none
  | b :: s =>
    match q.next b with
    | some q => (scanDigits q (type.at q) s).map fun r => (b :: r.1, r.2)
    | none => if q.final then some ([], type, b :: s) else none

/-- The token for the bytes of a number: an integer if it fits 64 bits. -/
def numberToken (type : NumberType) (text : Str) : Token :=
  match type with
  | .unsigned =>
    if digitsValue text < 2 ^ 64 then .valueUnsigned (digitsValue text) else .valueFloat text
  | .integer =>
    if digitsValue text.tail ≤ 2 ^ 63 then .valueInteger (-digitsValue text.tail)
    else .valueFloat text
  | .float => .valueFloat text

/-- `scan_number` for the byte that `scan` has read. -/
def scanNumber (b : UInt8) (s : Str) : Token × Str :=
  match scanDigits (.first b) (NumberType.unsigned.at (.first b)) s with
  | none => (.parseError, [])
  | some (text, type, s) => (numberToken type (b :: text), s)

/-- The lexer takes the whole text as a float. -/
def isFloatText : Str → Bool
  | [] => false
  | b :: s => (b = 45 || isDigit b) &&
    scanDigits (.first b) (NumberType.unsigned.at (.first b)) s = some (s, .float, [])

/-! ## Tokens -/

/-- `scan_literal` after its first byte. -/
def scanLiteral (rest : Str) (token : Token) (s : Str) : Token × Str :=
  if rest.isPrefixOf s then (token, s.drop rest.length) else (.parseError, [])

def isSpace (b : UInt8) : Bool := b = 32 || b = 9 || b = 10 || b = 13

/-- The `switch` of `scan` on the byte after the white space. -/
def scanFrom (b : UInt8) (s : Str) : Token × Str :=
  if b = 91 then (.beginArray, s)
  else if b = 93 then (.endArray, s)
  else if b = 123 then (.beginObject, s)
  else if b = 125 then (.endObject, s)
  else if b = 58 then (.nameSeparator, s)
  else if b = 44 then (.valueSeparator, s)
  else if b = 116 then scanLiteral (txt "rue") .literalTrue s
  else if b = 102 then scanLiteral (txt "alse") .literalFalse s
  else if b = 110 then scanLiteral (txt "ull") .literalNull s
  else if b = 34 then
    match scanString [] s with
    | none => (.parseError, [])
    | some (text, s) => (.valueString text, s)
  else if b = 45 ∨ isDigit b then scanNumber b s
  else if b = 0 then (.endOfInput, s)
  else (.parseError, [])

/-- `scan` after the byte order mark. -/
def scan : Str → Token × Str
  | [] => (.endOfInput, [])
  | b :: s => if isSpace b then scan s else scanFrom b s

/-- `skip_bom`. -/
def skipBom (s : Str) : Option Str :=
  match s with
  | 0xEF :: s => if [0xBB, 0xBF].isPrefixOf s then some (s.drop 2) else none
  | s => some s

end Nlohmann

end QtChat
