import MasternodeBft.Binary64.Reading
import MasternodeBft.Binary64.Shortest
import MasternodeBft.Json.Record

/-! Binary fractions as JSON numbers. -/

namespace MasternodeBft.Json

def Number.ofFloat (value : Float) : Number :=
  let parts := Binary64.parts .json value
  ⟨Binary64.isNegative value, Text.Decimal.value parts.whole, parts.fraction, parts.exponent⟩

/-- A value that is not finite is null. -/
def float (value : Float) : Json :=
  if value.isNaN || value.isInf then null else number (Number.ofFloat value)

def toFloat? : Json → Option Float
  | number value => Binary64.ofNumber? value
  | _ => none

end MasternodeBft.Json
