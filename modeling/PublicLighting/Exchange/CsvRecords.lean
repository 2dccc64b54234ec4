import PublicLighting.Foundations.JavaScriptText
import PublicLighting.Foundations.Trimming
import Mathlib.Data.List.Basic

/-! The quoted-CSV parser of the import, over the UTF-16 units of its text, and the
grammar it decides. -/

namespace PublicLighting.Exchange

open Foundations.JavaScriptText (isTrimmed)

/-- A text of JavaScript: any sequence of UTF-16 units. -/
abbrev Units := List Nat

def quoteUnit : Nat := 0x22
def commaUnit : Nat := 0x2C
def crUnit : Nat := 0x0D
def lfUnit : Nat := 0x0A
def spaceUnit : Nat := 0x20
def tabUnit : Nat := 0x09

/-- `trim() === ''`. -/
def isBlank (cell : Units) : Bool := Foundations.Trimming.trim (fun unit => isTrimmed (Char.ofNat unit)) cell = []

inductive CsvError
  | malformed
  | unclosed
  deriving DecidableEq, Repr

def CsvError.status : CsvError → Nat := fun _ => 400

def CsvError.message : CsvError → String
  | malformed => "Malformed quoted CSV field"
  | unclosed => "Unclosed quoted CSV field"

structure CsvState where
  records : List (List Units)
  record : List Units
  cell : Units
  quoted : Bool
  closedQuote : Bool
  deriving DecidableEq

def finishCell (state : CsvState) : CsvState :=
  { state with record := state.record ++ [state.cell], cell := [], closedQuote := false }

/-- A record is kept unless it is a lone blank cell. -/
def kept (record : List Units) : List (List Units) :=
  match record with
  | [cell] => if isBlank cell then [] else [record]
  | _ => [record]

def finishRecord (state : CsvState) : CsvState :=
  let finished := finishCell state
  { finished with records := finished.records ++ kept finished.record, record := [] }

def scanCsv (text : Units) (state : CsvState) : Except CsvError CsvState :=
  match text with
  | [] => .ok state
  | ch :: rest =>
      if state.quoted then
        if ch = quoteUnit ∧ rest.head? = some quoteUnit then
          scanCsv rest.tail { state with cell := state.cell ++ [quoteUnit] }
        else if ch = quoteUnit then scanCsv rest { state with quoted := false, closedQuote := true }
        else scanCsv rest { state with cell := state.cell ++ [ch] }
      else if state.closedQuote ∧ ch ∉ [commaUnit, crUnit, lfUnit, spaceUnit, tabUnit] then .error .malformed
      else if ch = quoteUnit ∧ state.cell = [] then scanCsv rest { state with quoted := true }
      else if ch = commaUnit then scanCsv rest (finishCell state)
      else if ch = crUnit ∨ ch = lfUnit then
        scanCsv (if ch = crUnit ∧ rest.head? = some lfUnit then rest.tail else rest) (finishRecord state)
      else if ¬ state.closedQuote then scanCsv rest { state with cell := state.cell ++ [ch] }
      else scanCsv rest state
termination_by text.length
decreasing_by
  all_goals simp only [List.length_cons]
  all_goals first
    | omega
    | (have shorter := List.length_tail (l := rest); split <;> omega)
    | (have shorter := List.length_tail (l := rest); omega)

def emptyState : CsvState := ⟨[], [], [], false, false⟩

def parseCsvRecords (text : Units) : Except CsvError (List (List Units)) :=
  match scanCsv text emptyState with
  | .error error => .error error
  | .ok state =>
      if state.quoted then .error .unclosed
      else if state.cell ≠ [] ∨ state.record ≠ [] ∨ state.closedQuote then .ok (finishRecord state).records
      else .ok state.records

section Grammar

/-- The text of a quoted field between its quotes. -/
def doubled (value : Units) : Units := value.flatMap fun unit => if unit = quoteUnit then [quoteUnit,
    quoteUnit] else [unit]

/-- A field without quotes has no separator and does not begin with a quote. -/
def IsBare (text : Units) : Prop :=
  text.head? ≠ some quoteUnit ∧ ∀ unit ∈ text, unit ≠ commaUnit ∧ unit ≠ crUnit ∧ unit ≠ lfUnit

def AreBlanks (text : Units) : Prop := ∀ unit ∈ text, unit = spaceUnit ∨ unit = tabUnit

/-- A field and its value. Blanks may follow a closing quote. -/
inductive CsvField : Units → Units → Prop
  | bare {text : Units} (plain : IsBare text) : CsvField text text
  | quoted (value : Units) {blanks : Units} (blank : AreBlanks blanks) :
      CsvField (quoteUnit :: doubled value ++ quoteUnit :: blanks) value

inductive CsvRow : Units → List Units → Prop
  | single {text value : Units} (field : CsvField text value) : CsvRow text [value]
  | cons {text value rest : Units} {values : List Units} (field : CsvField text value) (row : CsvRow rest values) :
      CsvRow (text ++ commaUnit :: rest) (value :: values)

/-- CR, LF or CRLF, where a CR before a LF does not end a record by itself. -/
inductive LineEnd (rest : Units) : Units → Prop
  | cr (alone : rest.head? ≠ some lfUnit) : LineEnd rest [crUnit]
  | lf : LineEnd rest [lfUnit]
  | crlf : LineEnd rest [crUnit, lfUnit]

/-- Records ended by line ends, the last one perhaps by the end of the text. -/
inductive CsvText : Units → List (List Units) → Prop
  | empty : CsvText [] []
  | last {text : Units} {record : List Units} (row : CsvRow text record) (given : text ≠ []) :
      CsvText text (kept record)
  | line {text ending rest : Units} {record : List Units} {records : List (List Units)} (row : CsvRow text record)
      (ends : LineEnd rest ending) (others : CsvText rest records) :
      CsvText (text ++ ending ++ rest) (kept record ++ records)

/-- A text with a quoted field that is not closed, or with another character than a
separator or a blank after a closing quote. -/
inductive Malformed : Units → CsvError → Prop
  | unclosed (value : Units) : Malformed (quoteUnit :: doubled value) .unclosed
  | afterQuote (value : Units) {blanks : Units} (blank : AreBlanks blanks) {ch : Nat}
      (stray : ch ∉ [commaUnit, crUnit, lfUnit, spaceUnit, tabUnit]) (other : blanks = [] → ch ≠ quoteUnit)
      (rest : Units) : Malformed (quoteUnit :: doubled value ++ quoteUnit :: blanks ++ ch :: rest) .malformed
  | field {text value rest : Units} {error : CsvError} (field : CsvField text value) (later : Malformed rest error) :
      Malformed (text ++ commaUnit :: rest) error
  | line {text value ending rest : Units} {error : CsvError} (field : CsvField text value)
      (ends : LineEnd rest ending) (later : Malformed rest error) : Malformed (text ++ ending ++ rest) error

end Grammar

end PublicLighting.Exchange
