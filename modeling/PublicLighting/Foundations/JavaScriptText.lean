import Mathlib.Data.List.Basic
import Mathlib.Tactic.Common

/-! JavaScript's view of a text: UTF-16 lengths, `trim`, and regular expressions
that are one character class after another. -/

namespace PublicLighting.Foundations.JavaScriptText

/-- `length`, where a character above U+FFFF counts as two units. -/
def utf16Length (text : String) : Nat :=
  text.toList.length + text.toList.countP fun c => 0x10000 ≤ c.toNat

/-- White space and line terminators, which `trim` removes. -/
def isTrimmed (c : Char) : Bool :=
  c.toNat ∈ [0x9, 0xA, 0xB, 0xC, 0xD, 0x20, 0xA0, 0x1680, 0x2028, 0x2029, 0x202F, 0x205F, 0x3000,
    0xFEFF] || (0x2000 ≤ c.toNat && c.toNat ≤ 0x200A)

def trim (text : String) : String :=
  String.ofList ((text.toList.dropWhile isTrimmed).reverse.dropWhile isTrimmed).reverse

/-- A text that a sequence of character classes matches from end to end. -/
def fits (classes : List (Char → Bool)) (text : String) : Bool :=
  text.toList.length == classes.length && (classes.zip text.toList).all fun (accepts, c) => accepts c

def isLowerHex (c : Char) : Bool := c.isDigit || ('a' ≤ c && c ≤ 'f')

/-- `[0-9a-f]` under the flag `i`. -/
def isHex (c : Char) : Bool := isLowerHex c || ('A' ≤ c && c ≤ 'F')

/-- `[A-Za-z0-9_-]`. -/
def isBase64Url (c : Char) : Bool := c.isAlphanum || c == '_' || c == '-'

/-- `[0-9a-f]{8}-[0-9a-f]{4}-4[0-9a-f]{3}-[89ab][0-9a-f]{3}-[0-9a-f]{12}` under the flag `i`. -/
def isUuidV4 (text : String) : Bool :=
  let hex := fun count => List.replicate count isHex
  let one : Char → List (Char → Bool) := fun expected => [fun c => c == expected]
  let variant : Char → Bool := fun c => c ∈ ['8', '9', 'a', 'b', 'A', 'B']
  fits (hex 8 ++ one '-' ++ hex 4 ++ one '-' ++ one '4' ++ hex 3 ++ one '-' ++
    [variant] ++ hex 3 ++ one '-' ++ hex 12) text

/-- `toLowerCase`, on texts of ASCII letters. -/
def toLowerCase (text : String) : String := String.ofList (text.toList.map Char.toLower)

end PublicLighting.Foundations.JavaScriptText
