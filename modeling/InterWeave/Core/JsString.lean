import Mathlib.Data.List.Basic

/-! # JavaScript strings

The code under study is TypeScript: its strings are sequences of UTF-16 code
units, which need not be well-formed. `String.prototype.trim`, the escapes of
`JSON.stringify` and the UTF-8 encoder are written over code units.
-/

namespace InterWeave

/-- A JavaScript string, as its UTF-16 code units. -/
abbrev JsString := List UInt16

-- Membership in lists of strings and of pairs of strings is decided through these.
instance : LawfulBEq JsString := inferInstance

instance : LawfulBEq (JsString × JsString) := inferInstance

/-- The UTF-16 code units of one Unicode scalar value. -/
def utf16 (scalar : Char) : JsString :=
  if scalar.toNat < 0x10000 then [scalar.toNat.toUInt16]
  else [(0xD800 + (scalar.toNat - 0x10000) / 0x400).toUInt16,
    (0xDC00 + (scalar.toNat - 0x10000) % 0x400).toUInt16]

/-- A string literal of the source. -/
def js (text : String) : JsString := text.toList.flatMap utf16

namespace JsString

/-- White space and line terminators, which `trim` removes. -/
def isWhitespace (unit : UInt16) : Bool :=
  (9 ≤ unit && unit ≤ 13) || unit == 0x20 || unit == 0xA0 || unit == 0x1680 ||
    (0x2000 ≤ unit && unit ≤ 0x200A) || unit == 0x2028 || unit == 0x2029 || unit == 0x202F ||
    unit == 0x205F || unit == 0x3000 || unit == 0xFEFF

/-- `!value.trim()`. -/
def isBlank (value : JsString) : Bool := value.all isWhitespace

theorem isBlank_append (first second : JsString) :
    (first ++ second).isBlank = (first.isBlank && second.isBlank) :=
  List.all_append

/-- `value.startsWith(start)`. -/
def startsWith (value start : JsString) : Bool := start.isPrefixOf value

/-- `value.toLowerCase()` on the ASCII letters. Other letters of a locator, a block hash or a
header name stay as they are. -/
def toLowerCase (value : JsString) : JsString :=
  value.map fun unit => if 65 ≤ unit && unit ≤ 90 then unit + 32 else unit

/-- `/^\d+$/`. -/
def isDigits (value : JsString) : Bool :=
  !value.isEmpty && value.all fun unit => 48 ≤ unit && unit ≤ 57

def isHighSurrogate (unit : UInt16) : Bool := 0xD800 ≤ unit && unit < 0xDC00

def isLowSurrogate (unit : UInt16) : Bool := 0xDC00 ≤ unit && unit < 0xE000

/-- The UTF-8 bytes of one Unicode scalar value. -/
def utf8 (scalar : Nat) : List UInt8 :=
  if scalar < 0x80 then [scalar.toUInt8]
  else if scalar < 0x800 then [(0xC0 + scalar / 0x40).toUInt8, (0x80 + scalar % 0x40).toUInt8]
  else if scalar < 0x10000 then
    [(0xE0 + scalar / 0x1000).toUInt8, (0x80 + scalar / 0x40 % 0x40).toUInt8,
      (0x80 + scalar % 0x40).toUInt8]
  else
    [(0xF0 + scalar / 0x40000).toUInt8, (0x80 + scalar / 0x1000 % 0x40).toUInt8,
      (0x80 + scalar / 0x40 % 0x40).toUInt8, (0x80 + scalar % 0x40).toUInt8]

/-- `new TextEncoder().encode(value)`: a surrogate without its partner becomes
the replacement character U+FFFD. -/
def encode : JsString → List UInt8
  | [] => []
  | [unit] =>
      if isHighSurrogate unit || isLowSurrogate unit then utf8 0xFFFD else utf8 unit.toNat
  | unit :: next :: rest =>
      if isHighSurrogate unit then
        if isLowSurrogate next then
          utf8 (0x10000 + (unit.toNat - 0xD800) * 0x400 + (next.toNat - 0xDC00)) ++ encode rest
        else utf8 0xFFFD ++ encode (next :: rest)
      else if isLowSurrogate unit then utf8 0xFFFD ++ encode (next :: rest)
      else utf8 unit.toNat ++ encode (next :: rest)

/-- The lower-case hexadecimal digit of a value below 16. -/
def hexDigit (value : Nat) : UInt16 :=
  if value < 10 then (48 + value).toUInt16 else (87 + value).toUInt16

/-- The escape `\uXXXX` of one code unit. -/
def unicodeEscape (unit : UInt16) : JsString :=
  js "\\u" ++ [hexDigit (unit.toNat / 0x1000), hexDigit (unit.toNat / 0x100 % 0x10),
    hexDigit (unit.toNat / 0x10 % 0x10), hexDigit (unit.toNat % 0x10)]

/-- How `JSON.stringify` renders a code unit that is not a surrogate. -/
def quoteUnit (unit : UInt16) : JsString :=
  if unit == 0x22 then js "\\\""
  else if unit == 0x5C then js "\\\\"
  else if unit == 8 then js "\\b"
  else if unit == 9 then js "\\t"
  else if unit == 10 then js "\\n"
  else if unit == 12 then js "\\f"
  else if unit == 13 then js "\\r"
  else if unit < 0x20 then unicodeEscape unit
  else [unit]

/-- The body of a JSON string literal. -/
def quoteUnits : JsString → JsString
  | [] => []
  | [unit] =>
      if isHighSurrogate unit || isLowSurrogate unit then unicodeEscape unit else quoteUnit unit
  | unit :: next :: rest =>
      if isHighSurrogate unit then
        if isLowSurrogate next then unit :: next :: quoteUnits rest
        else unicodeEscape unit ++ quoteUnits (next :: rest)
      else if isLowSurrogate unit then unicodeEscape unit ++ quoteUnits (next :: rest)
      else quoteUnit unit ++ quoteUnits (next :: rest)

/-- `JSON.stringify(value)` of a string. -/
def quote (value : JsString) : JsString := js "\"" ++ quoteUnits value ++ js "\""

/-- Array elements joined by a separator. -/
def join (separator : JsString) : List JsString → JsString
  | [] => []
  | [last] => last
  | first :: rest => first ++ separator ++ join separator rest

end JsString

/-- `value.trim()`. -/
def trim (value : JsString) : JsString :=
  ((value.dropWhile JsString.isWhitespace).reverse.dropWhile JsString.isWhitespace).reverse

end InterWeave
