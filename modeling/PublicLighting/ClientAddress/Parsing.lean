import PublicLighting.Foundations.JavaScriptText
import PublicLighting.Foundations.Trimming
import PublicLighting.Foundations.Words

/-! Client addresses and trusted proxy ranges, read from text. `net.isIP` is a
parameter, which answers 4, 6 or 0. -/

namespace PublicLighting.ClientAddress

open Foundations.JavaScriptText (isLowerHex isTrimmed)
open Foundations.Words (ofHex)

inductive Family
  | four
  | six
  deriving DecidableEq

def Family.width : Family → Nat
  | .four => 32
  | .six => 128

structure ParsedAddress where
  family : Family
  bits : Nat
  normalized : List Char
  deriving DecidableEq

structure AddressCidr extends ParsedAddress where
  prefixLength : Nat

section Addresses

variable (isIP : List Char → Nat)

def parseIpv4 (value : List Char) : Option ParsedAddress :=
  if isIP value ≠ 4 then none
  else
    -- What `isIP` accepts has decimal octets only.
    let octets := (value.splitOn '.').map fun octet => Nat.ofDigitChars 10 octet 0
    some {
      family := .four
      bits := octets.foldl (fun result octet => (result <<< 8) ||| octet) 0
      normalized := ['.'].intercalate (octets.map (Nat.toDigits 10)) }

/-- `lastIndexOf`, which is -1 where the character is missing. -/
def lastIndexOf (c : Char) (text : List Char) : Int := (text.length : Int) - 1 - text.reverse.idxOf c

/-- The position an argument of `slice` names: a negative one counts from the end. -/
def slicePosition (text : List Char) (index : Int) : Nat :=
  (if index < 0 then text.length + index else index).toNat

/-- A dotted tail is written as two hexadecimal words. -/
def undotted (source : List Char) : Option (List Char) :=
  let lastColon := lastIndexOf ':' source
  let last := source.drop (slicePosition source (lastColon + 1))
  if last.contains '.' then do
    let parsedV4 ← parseIpv4 isIP last
    let high := Nat.toDigits 16 ((parsedV4.bits >>> 16) &&& 0xffff)
    let low := Nat.toDigits 16 (parsedV4.bits &&& 0xffff)
    some (source.take (slicePosition source lastColon) ++ ':' :: high ++ ':' :: low)
  else some source

/-- `split('::')`. -/
def halvesOf : List Char → List (List Char)
  | ':' :: ':' :: rest => [] :: halvesOf rest
  | c :: rest => (halvesOf rest).modifyHead (c :: ·)
  | [] => [[]]

def groupsOf (half : List Char) : List (List Char) := if half.isEmpty then [] else half.splitOn ':'

/-- `/^[\da-f]{1,4}$/`. -/
def isWord (word : List Char) : Bool := 1 ≤ word.length && word.length ≤ 4 && word.all isLowerHex

/-- The eight words, with the zeros that `::` stands for. -/
def expanded (source : List Char) : Option (List (List Char)) :=
  let halves := halvesOf source
  if halves.length > 2 then none
  else
    let left := groupsOf (halves.getD 0 [])
    let right := if halves.length = 2 then groupsOf (halves.getD 1 []) else []
    let missing : Int := 8 - left.length - right.length
    if (halves.length = 1 ∧ missing ≠ 0) ∨ (halves.length = 2 ∧ missing < 1) then none
    else
      let words := left ++ List.replicate missing.toNat ['0'] ++ right
      if words.length ≠ 8 ∨ words.any (!isWord ·) then none else some words

def parseIpv6 (value : List Char) : Option ParsedAddress :=
  if isIP value ≠ 6 ∨ value.contains '%' then none
  else do
    let source ← undotted isIP (value.map Char.toLower)
    let words ← expanded source
    let bits := words.foldl (fun result word => (result <<< 16) ||| ofHex word) 0
    if bits >>> 32 = 0xffff then
      let mapped := bits &&& 0xffffffff
      let octets := [24, 16, 8, 0].map fun offset => (mapped >>> offset) &&& 255
      some { family := .four, bits := mapped, normalized := ['.'].intercalate (octets.map (Nat.toDigits 10)) }
    else
      some {
        family := .six
        bits := bits
        normalized := [':'].intercalate (words.map fun word => Nat.toDigits 16 (ofHex word)) }

def parseAddress (value : List Char) : Option ParsedAddress :=
  (parseIpv4 isIP value).or (parseIpv6 isIP value)

end Addresses

section Ranges

/-- `((1n << BigInt(maxBits)) - 1n) ^ ((1n << hostBits) - 1n)`, or all ones without host bits. -/
def networkMask (maxBits hostBits : Nat) : Nat :=
  if hostBits = 0 then (1 <<< maxBits) - 1 else ((1 <<< maxBits) - 1) ^^^ ((1 <<< hostBits) - 1)

/-- The prefix length, -1 where its text is no numeral. A numeral that a double rounds,
or takes for infinity, is above every width as the numeral itself is. -/
def prefixOf (maxBits : Nat) : Option (List Char) → Int
  | none => maxBits
  | some prefixText =>
      if ¬ prefixText.isEmpty ∧ prefixText.all Char.isDigit then Nat.ofDigitChars 10 prefixText 0 else -1

def parseCidr (isIP : List Char → Nat) (value : List Char) : Except String AddressCidr :=
  let parts := (Foundations.Trimming.trim isTrimmed value).splitOn '/'
  let addressText := parts.getD 0 []
  if addressText.isEmpty ∨ parts[2]? ≠ none then .error "Invalid trusted proxy CIDR."
  else
    match parseAddress isIP addressText with
    | none => .error "Invalid trusted proxy address."
    | some address =>
        let maxBits := address.family.width
        let prefixLength := prefixOf maxBits parts[1]?
        if prefixLength < 0 ∨ prefixLength > (maxBits : Int) then .error "Invalid trusted proxy prefix."
        else
          let mask := networkMask maxBits (maxBits - prefixLength.toNat)
          .ok { address with bits := address.bits &&& mask, prefixLength := prefixLength.toNat }

def addressMatchesCidr (isIP : List Char → Nat) (addressText : List Char) (cidr : AddressCidr) : Bool :=
  match parseAddress isIP addressText with
  | none => false
  | some address =>
      if address.family ≠ cidr.family then false
      else
        let maxBits := address.family.width
        address.bits &&& networkMask maxBits (maxBits - cidr.prefixLength) == cidr.bits

end Ranges

def normalizeLimiterAddress (isIP : List Char → Nat) (value : List Char) : Option (List Char) :=
  (parseAddress isIP value).map fun address =>
    match address.family with
    | .four => 'v' :: '4' :: ':' :: address.normalized
    | .six => 'v' :: '6' :: '-' :: '6' :: '4' :: ':' :: Nat.toDigits 16 (address.bits >>> 64)

end PublicLighting.ClientAddress
