import MasternodeBft.Json.Parser

/-!
Typed readings of JSON values. A record is an object, whose unknown fields are passed over and whose
known ones stand at most once, or the array of all its fields in order.
-/

namespace MasternodeBft.Json

def toWord? : Json → Option UInt64
  | number value => (value.toNat? UInt64.size).map UInt64.ofNat
  | _ => none

def toByte? : Json → Option UInt8
  | number value => (value.toNat? 256).map UInt8.ofNat
  | _ => none

def toBytes? : Json → Option Bytes
  | array items => items.mapM toByte?
  | _ => none

def toFixedBytes? (length : Nat) (value : Json) : Option (FixedBytes length) :=
  value.toBytes?.bind (FixedBytes.ofBytes? length)

def toList? {α : Type} (decode : Json → Option α) : Json → Option (List α)
  | array items => items.mapM decode
  | _ => none

def toOption? {α : Type} (decode : Json → Option α) : Json → Option (Option α)
  | null => some none
  | value => (decode value).map some

def toFields? : Json → Option (List (String × Json))
  | object fields => fields.mapM fun field => field.1.text?.map fun key => (key, field.2)
  | _ => none

/-- The value under a key that stands at most once. -/
def field? (fields : List (String × Json)) (name : String) : Option (Option Json) :=
  match fields.filter fun field => field.1 = name with
  | [] => some none
  | [field] => some (some field.2)
  | _ => none

def toRecord? (names : List String) : Json → Option (List (Option Json))
  | array items => if items.length = names.length then some (items.map some) else none
  | value => value.toFields?.bind fun fields => names.mapM (field? fields)

def missing? {α : Type} (decode : Json → Option (Option α)) : Option Json → Option (Option α)
  | none => some none
  | some value => decode value

end MasternodeBft.Json
