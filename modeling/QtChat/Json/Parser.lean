import QtChat.Json.Lexer

/-!
# The parser of `json.hpp`

`parser::sax_parse_internal` with `json_sax_dom_parser`, and `parse` in strict mode, of nlohmann/json
3.6.1. The parser has no recursion: it keeps the open arrays and objects on a stack (`Frame`).

What `strtod` makes of a text is a parameter (`Strtod`), with what `dump_float` and the lexer rely
on: what is printed for a double is a float to the lexer, and is read as that double.

`Config.cost` bounds the iterations that are left, so `parse` never runs out of fuel (`loop_ends`).
-/

namespace QtChat

namespace Nlohmann

/-- `std::strtod` on the texts of floats; none: not finite. -/
structure Strtod where
  read : Str → Option Dbl
  dump_text : ∀ {text : Str} {d : Dbl}, read text = some d →
    isFloatText d.text = true ∧ read d.text = some d

/-- The exceptions of `parse`, by their ids. -/
inductive ParseError where
  /-- `parse_error.101`. -/
  | unexpectedToken
  /-- `out_of_range.406`. -/
  | numberOverflow
  deriving DecidableEq

/-- An open array or object: what it has so far, and the key that waits for its value. -/
inductive Frame where
  | array (xs : List Json)
  | object (m : List (Str × Json)) (key : Str)

/-- The top of the loop of `sax_parse_internal`. -/
inductive Config where
  /-- `last_token` is to begin a value. -/
  | value (last_token : Token) (input : Str) (states : List Frame)
  /-- A value is complete (`skip_to_state_evaluation`, or after the `switch`). -/
  | evaluate (v : Json) (input : Str) (states : List Frame)

inductive Outcome where
  | next (c : Config)
  /-- The end of the hierarchy. -/
  | done (v : Json) (input : Str)
  | error (e : ParseError)

/-- The key, the separator and the first token of the value. -/
def parseKey (m : List (Str × Json)) (last_token : Token) (input : Str) (states : List Frame) :
    Outcome :=
  match last_token with
  | .valueString key =>
    let colon := scan input
    if colon.1 = .nameSeparator then
      let token := scan colon.2
      .next (.value token.1 token.2 (.object m key :: states))
    else .error .unexpectedToken
  | _ => .error .unexpectedToken

/-- The `switch` on `last_token`. -/
def parseValue (F : Strtod) (last_token : Token) (input : Str) (states : List Frame) : Outcome :=
  match last_token with
  | .beginObject =>
    let token := scan input
    if token.1 = .endObject then .next (.evaluate (.obj []) token.2 states)
    else parseKey [] token.1 token.2 states
  | .beginArray =>
    let token := scan input
    if token.1 = .endArray then .next (.evaluate (.arr []) token.2 states)
    else .next (.value token.1 token.2 (.array [] :: states))
  | .valueFloat text =>
    match F.read text with
    | none => .error .numberOverflow
    | some d => .next (.evaluate (.float d) input states)
  | .literalFalse => .next (.evaluate (.bool false) input states)
  | .literalNull => .next (.evaluate .null input states)
  | .literalTrue => .next (.evaluate (.bool true) input states)
  | .valueInteger z => .next (.evaluate (.int z) input states)
  | .valueString s => .next (.evaluate (.str s) input states)
  | .valueUnsigned n => .next (.evaluate (.int n) input states)
  | _ => .error .unexpectedToken

/-- The rest of an iteration, after a value was parsed. -/
def evaluateState (v : Json) (input : Str) : List Frame → Outcome
  | [] => .done v input
  | .array xs :: states =>
    let token := scan input
    if token.1 = .valueSeparator then
      let token := scan token.2
      .next (.value token.1 token.2 (.array (xs ++ [v]) :: states))
    else if token.1 = .endArray then .next (.evaluate (.arr (xs ++ [v])) token.2 states)
    else .error .unexpectedToken
  | .object m key :: states =>
    let token := scan input
    if token.1 = .valueSeparator then
      let token := scan token.2
      parseKey (Json.setMember key v m) token.1 token.2 states
    else if token.1 = .endObject then
      .next (.evaluate (.obj (Json.setMember key v m)) token.2 states)
    else .error .unexpectedToken

def iterate (F : Strtod) : Config → Outcome
  | .value last_token input states => parseValue F last_token input states
  | .evaluate v input states => evaluateState v input states

/-- `sax_parse_internal`, for at most `fuel` iterations. -/
def saxParseInternal (F : Strtod) : Nat → Config → Option (Except ParseError (Json × Str))
  | 0, _ => none
  | fuel + 1, c =>
    match iterate F c with
    | .next c => saxParseInternal F fuel c
    | .done v input => some (.ok (v, input))
    | .error e => some (.error e)

/-- `json::parse`: the first token, the value, and the end of the input behind it. -/
def parse (F : Strtod) (s : Str) : Except ParseError Json :=
  match skipBom s with
  | none => .error .unexpectedToken
  | some s =>
    match saxParseInternal F (2 * s.length + 4) (.value (scan s).1 (scan s).2 []) with
    | some (.ok (v, input)) =>
      if (scan input).1 = .endOfInput then .ok v else .error .unexpectedToken
    | some (.error e) => .error e
    | none => .error .unexpectedToken

end Nlohmann

end QtChat
