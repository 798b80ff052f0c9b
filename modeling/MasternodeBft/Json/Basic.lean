import MasternodeBft.Json.Number
import MasternodeBft.Text.Utf8
import MasternodeBft.Text.Hex

/-!
JSON values and their compact text. A string is kept as it stands between its quotes, so that a text
can be read even where a string that nobody looks at names no characters.
-/

namespace MasternodeBft

namespace Json

/-- The bytes between the quotes of a string. -/
structure Quoted where
  raw : Bytes
deriving DecidableEq

end Json

inductive Json where
  | null
  | bool (value : Bool)
  | number (value : Json.Number)
  | string (value : Json.Quoted)
  | array (items : List Json)
  | object (fields : List (Json.Quoted × Json))

namespace Json

namespace Quoted

/-- A control character, a quote or a backslash is escaped, with a letter where it has one. -/
def escape (char : Char) : Bytes :=
  if char = '"' then [92, 34]
  else if char = '\\' then [92, 92]
  else if char = '\x08' then [92, 98]
  else if char = '\x0c' then [92, 102]
  else if char = '\n' then [92, 110]
  else if char = '\r' then [92, 114]
  else if char = '\t' then [92, 116]
  else if char.toNat < 0x20 then
    [92, 117, 48, 48] ++ Text.Utf8.encode (Text.Hex.chars [UInt8.ofNat char.toNat])
  else Text.Utf8.charBytes char

def ofChars (chars : List Char) : Quoted := ⟨chars.flatMap escape⟩

def ofText (text : String) : Quoted := ofChars text.toList

def unit? (a b c d : UInt8) : Option Nat := do
  let a ← Text.Hex.nibble? (Char.ofNat a.toNat)
  let b ← Text.Hex.nibble? (Char.ofNat b.toNat)
  let c ← Text.Hex.nibble? (Char.ofNat c.toNat)
  let d ← Text.Hex.nibble? (Char.ofNat d.toNat)
  pure (((a * 16 + b) * 16 + c) * 16 + d)

def letter? (letter : UInt8) : Option UInt8 :=
  if letter = 34 ∨ letter = 92 ∨ letter = 47 then some letter
  else if letter = 98 then some 8
  else if letter = 102 then some 12
  else if letter = 110 then some 10
  else if letter = 114 then some 13
  else if letter = 116 then some 9
  else none

/-- Undoes the escapes, behind the bytes already read, the last one first. Two halves of a character
above the first plane belong together, and neither stands alone. -/
def unescapeAfter : Bytes → Bytes → Option Bytes
  | done, [] => some done.reverse
  | done, 92 :: 117 :: a :: b :: c :: d :: rest => do
    let unit ← unit? a b c d
    if unit < 0xd800 ∨ 0xe000 ≤ unit then
      unescapeAfter ((Text.Utf8.charBytes (Char.ofNat unit)).reverse ++ done) rest
    else if 0xdc00 ≤ unit then none
    else match rest with
      | 92 :: 117 :: e :: f :: g :: h :: rest => do
        let low ← unit? e f g h
        if 0xdc00 ≤ low ∧ low < 0xe000 then
          let code := 0x10000 + (unit - 0xd800) * 1024 + (low - 0xdc00)
          unescapeAfter ((Text.Utf8.charBytes (Char.ofNat code)).reverse ++ done) rest
        else none
      | _ => none
  | done, 92 :: letter :: rest => do
    let byte ← letter? letter
    unescapeAfter (byte :: done) rest
  | done, byte :: rest => unescapeAfter (byte :: done) rest

def chars? (quoted : Quoted) : Option (List Char) :=
  (unescapeAfter [] quoted.raw).bind Text.Utf8.decode?

def text? (quoted : Quoted) : Option String := quoted.chars?.map String.ofList

def render (quoted : Quoted) : Bytes := 34 :: (quoted.raw ++ [34])

end Quoted

def text (text : String) : Json := string (Quoted.ofText text)

def nat (value : Nat) : Json := number (Number.ofNat value)

def word (value : UInt64) : Json := nat value.toNat

def bytes (value : Bytes) : Json := array (value.map fun byte => nat byte.toNat)

def record (fields : List (String × Json)) : Json :=
  object (fields.map fun field => (Quoted.ofText field.1, field.2))

def optional {α : Type} (encode : α → Json) : Option α → Json
  | none => null
  | some value => encode value

mutual

def render : Json → Bytes
  | null => [110, 117, 108, 108]
  | bool true => [116, 114, 117, 101]
  | bool false => [102, 97, 108, 115, 101]
  | number value => value.render
  | string value => value.render
  | array [] => [91, 93]
  | array (item :: items) => 91 :: (render item ++ renderItems items)
  | object [] => [123, 125]
  | object ((key, value) :: fields) => 123 :: (key.render ++ 58 :: (render value ++ renderFields fields))

/-- The items after the first one, and the closing bracket. -/
def renderItems : List Json → Bytes
  | [] => [93]
  | item :: items => 44 :: (render item ++ renderItems items)

/-- The fields after the first one, and the closing brace. -/
def renderFields : List (Quoted × Json) → Bytes
  | [] => [125]
  | (key, value) :: fields => 44 :: (key.render ++ 58 :: (render value ++ renderFields fields))

end

end Json

end MasternodeBft
