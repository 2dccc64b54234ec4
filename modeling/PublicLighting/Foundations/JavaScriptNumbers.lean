import PublicLighting.Foundations.JavaScriptText
import PublicLighting.Foundations.Json

/-! `Number` of a text. -/

namespace PublicLighting.Foundations.JavaScriptNumbers

open Doubles

/-- A decimal literal has digits on one side of its point at least. -/
def readDecimal (text : List Char) : Option ℚ :=
  if String.ofList text = "Infinity" then some infinity
  else
    let (whole, text) := takeDigits text
    let (fraction, text) := match text with
      | '.' :: text => takeDigits text
      | text => ([], text)
    if whole ++ fraction = [] then none
    else match readExponent text with
      | some (exponent, []) => some (toDouble (literal whole fraction exponent))
      | _ => none

def readDigits (base : Nat) (text : List Char) : Option ℚ := do
  let digits ← text.mapM Json.hexValue
  if digits = [] ∨ digits.any (base ≤ ·) then none
  else some (toDouble (digits.foldl (fun value digit => base * value + digit) 0 : Nat))

def signed : List Char → Option ℚ
  | '-' :: text => (readDecimal text).map (-·)
  | '+' :: text => readDecimal text
  | text => readDecimal text

/-- `Number(text)`, where `none` is not a number and the infinite ones are as doubles have them. -/
def toNumber (text : String) : Option ℚ :=
  match (JavaScriptText.trim text).toList with
  | [] => some 0
  | '0' :: c :: digits =>
      if c = 'x' ∨ c = 'X' then readDigits 16 digits
      else if c = 'o' ∨ c = 'O' then readDigits 8 digits
      else if c = 'b' ∨ c = 'B' then readDigits 2 digits
      else signed ('0' :: c :: digits)
  | text => signed text

/-- `Number.isFinite`. -/
def isFinite (value : ℚ) : Bool := |value| < infinity

example : toNumber " 48.5 " = some (97 / 2) ∧ toNumber "-.5e1" = some (-5) ∧ toNumber "0x1F" = some 31 ∧
    toNumber "5." = some 5 ∧ toNumber "." = none ∧ toNumber "1_0" = none := by
  decide +kernel

end PublicLighting.Foundations.JavaScriptNumbers
