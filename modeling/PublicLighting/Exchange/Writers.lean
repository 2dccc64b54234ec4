import PublicLighting.Exchange.CsvRecords
import PublicLighting.Foundations.Json

/-! The writers of the export. Each is the list of the texts it gives to
`response.write`, one after the other. -/

namespace PublicLighting.Exchange

open Foundations (Json)
open Foundations.Json (isHigh isLow unitsOf ofUnits escaped)

def unitsOfText (text : List Char) : Units := text.flatMap unitsOf

/-- `string | number | null`. -/
inductive ExportValue
  | text (value : Units)
  | number (value : ℚ)
  | null
  deriving DecidableEq

/-- `String(value)`, of a text or a number. -/
def ExportValue.toText : ExportValue → Units
  | text value => value
  | number value => unitsOfText (Foundations.Doubles.numberText value)
  | null => []

abbrev ExportFields := List (Units × ExportValue)

def writeChars : Nat := 8192

/-- `slice(start, stop)`. -/
def slice (value : Units) (start stop : Nat) : Units := (value.take stop).drop start

section Csv

/-- `/[,"\r\n]/`. -/
def needsQuotes (text : Units) : Bool :=
  text.any fun unit => unit = commaUnit ∨ unit = quoteUnit ∨ unit = crUnit ∨ unit = lfUnit

/-- The loop of `writeCsvField`. -/
def csvChunks (text : Units) (offset : Nat) : List Units :=
  if offset < text.length then
    let stop := min text.length (offset + writeChars)
    doubled (slice text offset stop) :: csvChunks text stop
  else []
termination_by text.length - offset
decreasing_by
  have positive : 0 < writeChars := by decide
  omega

def writeCsvField : ExportValue → List Units
  | .null => []
  | value =>
      let text := value.toText
      let quote := if needsQuotes text then [[quoteUnit]] else []
      quote ++ csvChunks text 0 ++ quote

/-- The fields of a row, with commas between them. -/
def writeCsvFields : List ExportValue → List Units
  | [] => []
  | [value] => writeCsvField value
  | value :: values => writeCsvField value ++ [commaUnit] :: writeCsvFields values

def writeCsvRow (fields : ExportFields) : List Units := writeCsvFields (fields.map (·.2)) ++ [[crUnit, lfUnit]]

end Csv

section JsonText

/-- A unit in `JSON.stringify`, where a lone surrogate is written as an escape. -/
def escapedUnit (unit : Nat) : Units :=
  if isHigh unit || isLow unit then unitsOfText ('\\' :: 'u' :: Nat.toDigits 16 unit)
  else unitsOfText (escaped (Char.ofNat unit))

/-- `JSON.stringify(value).slice(1, -1)`. -/
def escapedUnits : Units → Units
  | [] => []
  | [unit] => escapedUnit unit
  | high :: low :: rest =>
      if isHigh high && isLow low then high :: low :: escapedUnits rest
      else escapedUnit high ++ escapedUnits (low :: rest)

/-- Where the turn of the loop at `offset` ends. -/
def chunkEnd (value : Units) (offset : Nat) : Nat :=
  let stop := min value.length (offset + writeChars)
  let stop := if stop < value.length ∧ value[stop - 1]?.any isHigh ∧ value[stop]?.any isLow then stop - 1 else stop
  if stop = offset then stop + 2 else stop

theorem lt_chunkEnd {value : Units} {offset : Nat} (inside : offset < value.length) :
    offset < chunkEnd value offset := by
  have large : writeChars = 8192 := rfl
  rw [chunkEnd]
  split <;> split <;> omega

/-- The loop of `writeJsonString`. -/
def jsonChunks (value : Units) (offset : Nat) : List Units :=
  if offset < value.length then
    escapedUnits (slice value offset (chunkEnd value offset)) :: jsonChunks value (chunkEnd value offset)
  else []
termination_by value.length - offset
decreasing_by
  rename_i inside
  have further := lt_chunkEnd inside
  omega

def writeJsonString (value : Units) : List Units := [quoteUnit] :: jsonChunks value 0 ++ [[quoteUnit]]

def writeJsonValue : ExportValue → List Units
  | .text value => writeJsonString value
  | .number value => [unitsOfText (Foundations.Doubles.numberText value)]
  | .null => [unitsOfText ['n', 'u', 'l', 'l']]

def writeJsonMembers : ExportFields → List Units
  | [] => []
  | (name, value) :: fields =>
      let member := writeJsonString name ++ unitsOfText [':'] :: writeJsonValue value
      match fields with
      | [] => member
      | _ :: _ => member ++ unitsOfText [','] :: writeJsonMembers fields

def writeJsonItem (fields : ExportFields) : List Units :=
  unitsOfText ['{'] :: writeJsonMembers fields ++ [unitsOfText ['}']]

end JsonText

end PublicLighting.Exchange
