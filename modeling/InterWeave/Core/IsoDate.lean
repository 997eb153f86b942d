import InterWeave.Core.Platform

/-! # The ISO format of instants

`Date.prototype.toISOString`, and `Date.parse` on the texts it produces, over the
proleptic Gregorian calendar. Every other text is left to the platform: here it
does not parse.
-/

namespace InterWeave

/-- Days since 1970-01-01 of a calendar date. Years begin in March, so that the
leap day ends one. -/
def daysFromCivil (year : Int) (month day : Nat) : Int :=
  let shifted := if month ≤ 2 then year - 1 else year
  let era := shifted / 400
  let yearOfEra := shifted - era * 400
  let monthFromMarch := if month > 2 then month - 3 else month + 9
  let dayOfYear : Int := (153 * monthFromMarch + 2) / 5 + (day - 1)
  let dayOfEra := yearOfEra * 365 + yearOfEra / 4 - yearOfEra / 100 + dayOfYear
  era * 146097 + dayOfEra - 719468

/-- The calendar date of a day count. -/
def civilFromDays (days : Int) : Int × Nat × Nat :=
  let shifted := days + 719468
  let era := shifted / 146097
  let dayOfEra := shifted - era * 146097
  let yearOfEra := (dayOfEra - dayOfEra / 1460 + dayOfEra / 36524 - dayOfEra / 146096) / 365
  let dayOfYear := dayOfEra - (365 * yearOfEra + yearOfEra / 4 - yearOfEra / 100)
  let monthFromMarch := (5 * dayOfYear + 2) / 153
  let day := dayOfYear - (153 * monthFromMarch + 2) / 5 + 1
  let month := if monthFromMarch < 10 then monthFromMarch + 3 else monthFromMarch - 9
  let year := yearOfEra + era * 400 + if month ≤ 2 then 1 else 0
  (year, month.toNat, day.toNat)

/-- A number in decimal, filled with zeros to a width. -/
def paddedDecimal (width value : Nat) : JsString :=
  let digits := (Nat.toDigits 10 value).flatMap utf16
  List.replicate (width - digits.length) 48 ++ digits

/-- The year of an ISO text: four digits, or a sign and six. -/
def isoYear (year : Int) : JsString :=
  if 0 ≤ year && year ≤ 9999 then paddedDecimal 4 year.toNat
  else (if year < 0 then js "-" else js "+") ++ paddedDecimal 6 year.natAbs

def isoText (instant : Int) : JsString :=
  let (year, month, day) := civilFromDays (instant / 86400000)
  let ofDay := (instant % 86400000).toNat
  isoYear year ++ js "-" ++ paddedDecimal 2 month ++ js "-" ++ paddedDecimal 2 day ++ js "T" ++
    paddedDecimal 2 (ofDay / 3600000) ++ js ":" ++ paddedDecimal 2 (ofDay / 60000 % 60) ++
    js ":" ++ paddedDecimal 2 (ofDay / 1000 % 60) ++ js "." ++ paddedDecimal 3 (ofDay % 1000) ++
    js "Z"

/-- The instant of a text `YYYY-MM-DDTHH:mm:ss.sssZ`. -/
def isoInstant (text : JsString) : Option Int :=
  let number (start width : Nat) := decimalValue ((text.drop start).take width)
  let instant := daysFromCivil (number 0 4) (number 5 2) (number 8 2) * 86400000 +
    (number 11 2 * 3600000 + number 14 2 * 60000 + number 17 2 * 1000 + number 20 3 : Nat)
  if isoText instant = text then some instant else none

/-- A platform whose dates are ISO texts. Hashing renders the bytes themselves,
which keeps distinct inputs apart. -/
def isoPlatform : Platform where
  dateParse := isoInstant
  toISOString := isoText
  timestamptz := isoInstant
  numberText value := bigintText value.num
  sha256Hex bytes := bytes.flatMap fun byte =>
    [JsString.hexDigit (byte.toNat / 16), JsString.hexDigit (byte.toNat % 16)]
  collates left right := left ≤ right

example : isoInstant (js "2026-08-11T12:00:00.000Z") = some 1786449600000 := by decide

example : isoText 951782400000 = js "2000-02-29T00:00:00.000Z" := by decide

end InterWeave
