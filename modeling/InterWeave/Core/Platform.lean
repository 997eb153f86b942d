import InterWeave.Core.JsString

/-! # The platform and the errors of the core package

`Date`, the number formatter, PostgreSQL's timestamp input and SHA-256 are
parameters without laws. Errors are the `RegistryError` of the package, the plain
errors of its helpers, and any other value an external service may throw.
-/

namespace InterWeave

/-- The parts of the platform that the code calls and the model leaves open.
Instants are milliseconds; `none` is `NaN` for `dateParse` and a rejected input
for `timestamptz`; `collates` is the order of text columns. -/
structure Platform where
  dateParse : JsString → Option Int
  toISOString : Int → JsString
  timestamptz : JsString → Option Int
  numberText : Rat → JsString
  sha256Hex : List UInt8 → JsString
  collates : JsString → JsString → Bool

inductive RegistryErrorCode where
  | alreadyExists
  | notFound
  | invalidArgument
  | conflict
  deriving DecidableEq, Repr

/-- A thrown value: a `RegistryError`, another `Error`, or no `Error` at all. -/
inductive Thrown where
  | registryError (code : RegistryErrorCode) (message : JsString)
  | error (message : JsString)
  | other
  deriving DecidableEq, Repr

/-- `error instanceof Error ? error.message : fallback`. -/
def Thrown.messageOr (fallback : JsString) : Thrown → JsString
  | .registryError _ message => message
  | .error message => message
  | .other => fallback

/-- `left <= right` on numbers that may be `NaN`. -/
def numberLe : Option Int → Option Int → Bool
  | some left, some right => left ≤ right
  | _, _ => false

/-- `left < right` on numbers that may be `NaN`. -/
def numberLt : Option Int → Option Int → Bool
  | some left, some right => left < right
  | _, _ => false

/-- `/^(0|[1-9][0-9]*)$/`. -/
def isAtomicAmount : JsString → Bool
  | [] => false
  | [digit] => 48 ≤ digit && digit ≤ 57
  | digit :: rest => (49 ≤ digit && digit ≤ 57) && rest.all fun unit => 48 ≤ unit && unit ≤ 57

/-- `BigInt(value)` of a string of decimal digits. -/
def decimalValue (value : JsString) : Nat :=
  value.foldl (fun total digit => 10 * total + (digit.toNat - 48)) 0

/-- `value.toString()` of a `bigint`. -/
def bigintText : Int → JsString
  | .ofNat value => (Nat.toDigits 10 value).flatMap utf16
  | .negSucc value => js "-" ++ (Nat.toDigits 10 (value + 1)).flatMap utf16

def parseAtomicAmount (value : JsString) : Except Thrown Nat :=
  if isAtomicAmount value then .ok (decimalValue value)
  else .error (.error (js "amount must be a non-negative base-10 integer string"))

def assertPositiveAmount (value : JsString) : Except Thrown Unit := do
  let amount ← parseAtomicAmount value
  if amount = 0 then throw (.error (js "amount must be positive"))

end InterWeave
