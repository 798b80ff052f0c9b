import MasternodeBft.Json.Token

/-! JSON values read from their tokens. A text holds one value, with blanks between the tokens only. -/

namespace MasternodeBft.Json

mutual

/-- Reads a value and leaves the tokens after it; `fuel` bounds the nesting and the item count. -/
def value? : Nat → List Token → Option (Json × List Token)
  | 0, _ => none
  | _ + 1, .scalar value :: rest => some (value, rest)
  | _ + 1, .string value :: rest => some (string value, rest)
  | _ + 1, .openBracket :: .closeBracket :: rest => some (array [], rest)
  | fuel + 1, .openBracket :: rest =>
    match items? fuel rest with
    | some (items, rest) => some (array items, rest)
    | none => none
  | _ + 1, .openBrace :: .closeBrace :: rest => some (object [], rest)
  | fuel + 1, .openBrace :: rest =>
    match fields? fuel rest with
    | some (fields, rest) => some (object fields, rest)
    | none => none
  | _ + 1, _ => none

def items? : Nat → List Token → Option (List Json × List Token)
  | 0, _ => none
  | fuel + 1, tokens =>
    match value? fuel tokens with
    | some (item, .comma :: rest) =>
      match items? fuel rest with
      | some (items, rest) => some (item :: items, rest)
      | none => none
    | some (item, .closeBracket :: rest) => some ([item], rest)
    | _ => none

def fields? : Nat → List Token → Option (List (Quoted × Json) × List Token)
  | 0, _ => none
  | fuel + 1, .string key :: .colon :: tokens =>
    match value? fuel tokens with
    | some (value, .comma :: rest) =>
      match fields? fuel rest with
      | some (fields, rest) => some ((key, value) :: fields, rest)
      | none => none
    | some (value, .closeBrace :: rest) => some ([(key, value)], rest)
    | _ => none
  | _ + 1, _ => none

end

def ofTokens? (tokens : List Token) : Option Json :=
  match value? (2 * tokens.length + 1) tokens with
  | some (value, []) => some value
  | _ => none

def parse? (text : Bytes) : Option Json := (Token.ofBytes? text).bind ofTokens?

end MasternodeBft.Json
