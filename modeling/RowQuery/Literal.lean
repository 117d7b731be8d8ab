import RowQuery.Decimal.Arithmetic
import RowQuery.Decimal.Conversion
import RowQuery.Text.Quoted
import RowQuery.Value

/-!
Literals of query text. Each primitive type has a form of its own, which its
values are written in exactly; a value has no literal of a type that it does
not belong to.
-/

namespace RowQuery

/-- Seconds are written unless they are zero, and a fraction counts units of a hundred
nanoseconds. -/
def Moment.literal (m : Moment) : String :=
  let year :=
    if m.year < 0 then '-' :: Text.padded 3 m.year.natAbs else Text.padded 4 m.year.natAbs
  let ticks := m.fractionNanos / 100
  let seconds :=
    if m.second = 0 && ticks = 0 then []
    else ':' :: Text.padded 2 m.second ++ if ticks = 0 then [] else '.' :: Text.padded 7 ticks
  "datetime'" ++ String.ofList (Moment.calendarText year m ++ seconds) ++ "'"

namespace Floating

def literalWord? {f : Format} (x : Floating f) : Option String :=
  if x.isNaN then some "NaN"
  else if x.isInfinite then some (if x.negative then "-INF" else "INF")
  else none

def doubleLiteral (x : Double) : String :=
  x.literalWord?.getD x.displayText

/-- The number with one digit after the point, halves away from zero. Numbers beyond the range of
decimals are whole. -/
def oneDigitText (x : Single) : String :=
  let (negative, tenths) :=
    match Decimal.ofFloatingFull? x with
    | some d =>
      let rounded := d.roundAway 1
      (rounded.negative, rounded.unitsAt 1)
    | none => (x.negative, x.significand * 2 ^ x.exponent.toNat * 10)
  String.ofList (signText negative ++ Decimal.pointed tenths 1)

def singleLiteral (x : Single) : String :=
  x.literalWord?.getD x.oneDigitText ++ "f"

end Floating

def Value.literal? : Value → EdmType → Option String
  | .null, _ => some "null"
  | .boolean b, .boolean => some (if b then "true" else "false")
  | .byte b, .byte => some (String.ofList (Text.byteHexLower b))
  | .dateTime m, .dateTime => some m.literal
  | .decimal d, .decimal => some (d.text ++ "M")
  | .double x, .double => some x.doubleLiteral
  | .guid g, .guid => some ("guid'" ++ g.text ++ "'")
  | .int16 n, .int16 => some (Text.intText n.toInt)
  | .int32 n, .int32 => some (Text.intText n.toInt)
  | .int64 n, .int64 => some (Text.intText n.toInt ++ "L")
  | .single x, .single => some x.singleLiteral
  | .string s, .string => some (Text.literalQuoted s)
  | .binary bytes, .binary => some ("X'" ++ Text.hexUpper bytes ++ "'")
  | .typeRef t, .typeRef => some t.literal
  | _, _ => none

end RowQuery
