import PublicLighting.Exchange.CsvGrammar
import PublicLighting.Exchange.Writers
import PublicLighting.Foundations.WireText

/-! What the writers of fields and rows send, as one text and as bytes. -/

namespace PublicLighting.Exchange

open Foundations (Json)
open Foundations.Json (isHigh isLow unitsOf ofUnits ofUnit escaped)
open Foundations.WireText

section Fields

theorem slice_append (text : Units) {start stop : Nat} (ordered : start ≤ stop) :
    slice text start stop ++ text.drop stop = text.drop start := by
  rw [slice]
  conv_rhs => rw [← List.take_append_drop stop text]
  rw [List.drop_append]
  by_cases inside : stop ≤ text.length
  · have length : (text.take stop).length = stop := List.length_take_of_le inside
    rw [length, Nat.sub_eq_zero_of_le ordered, List.drop_zero]
  · have nothing : text.drop stop = [] := List.drop_of_length_le (by omega)
    rw [nothing, List.drop_nil]

theorem doubled_append (front back : Units) : doubled (front ++ back) = doubled front ++ doubled back :=
  List.flatMap_append

theorem csvChunks_flatten (text : Units) (offset : Nat) :
    (csvChunks text offset).flatten = doubled (text.drop offset) := by
  induction gap : text.length - offset using Nat.strongRecOn generalizing offset with
  | ind gap ih =>
      subst gap
      have positive : 0 < writeChars := by decide
      rw [csvChunks]
      by_cases inside : offset < text.length
      · rw [if_pos inside, List.flatten_cons, ih _ (by omega) _ rfl, ← doubled_append,
          slice_append text (by omega)]
      · rw [if_neg inside, List.drop_of_length_le (not_lt.mp inside)]
        rfl

def csvField (text : Units) : Units :=
  if needsQuotes text then quoteUnit :: doubled text ++ [quoteUnit] else doubled text

theorem writeCsvField_flatten (value : ExportValue) :
    (writeCsvField value).flatten = if value = .null then [] else csvField value.toText := by
  have text (text : Units) : ((if needsQuotes text then [[quoteUnit]] else []) ++ csvChunks text 0 ++
      (if needsQuotes text then [[quoteUnit]] else [])).flatten = csvField text := by
    rw [List.flatten_append, List.flatten_append, csvChunks_flatten, List.drop_zero, csvField]
    split
    · simp
    · simp
  cases value with
  | null => rw [if_pos rfl]; rfl
  | text value => rw [if_neg nofun]; exact text value
  | number value => rw [if_neg nofun]; exact text _

theorem doubled_plain {text : Units} (plain : ∀ unit ∈ text, unit ≠ quoteUnit) : doubled text = text := by
  induction text with
  | nil => rfl
  | cons unit text ih =>
      rw [doubled, List.flatMap_cons, ← doubled, ih fun other member => plain other (List.mem_cons_of_mem _ member),
        if_neg (plain unit List.mem_cons_self)]
      rfl

theorem csvField_field (text : Units) : CsvField (csvField text) text := by
  rw [csvField]
  split
  · exact .quoted text nofun
  · rename_i plain
    rw [Bool.not_eq_true, needsQuotes, List.any_eq_false] at plain
    simp only [decide_eq_true_eq, not_or] at plain
    rw [doubled_plain fun unit member => (plain unit member).2.1]
    refine .bare ⟨?_, fun unit member => ⟨(plain unit member).1, (plain unit member).2.2.1,
      (plain unit member).2.2.2⟩⟩
    intro first
    exact (plain quoteUnit (List.mem_of_mem_head? first)).2.1 rfl

end Fields

section Rows

theorem writeCsvFields_row {cells : List Units} (given : cells ≠ []) :
    CsvRow (writeCsvFields (cells.map ExportValue.text)).flatten cells := by
  have field (cell : Units) : CsvField (writeCsvField (.text cell)).flatten cell := by
    rw [writeCsvField_flatten, if_neg nofun]
    exact csvField_field cell
  induction cells with
  | nil => exact absurd rfl given
  | cons cell cells ih =>
      cases cells with
      | nil => exact .single (field cell)
      | cons next cells =>
          rw [List.map_cons, List.map_cons, writeCsvFields, List.flatten_append, List.flatten_cons,
            List.singleton_append]
          · exact .cons (field cell) (ih (List.cons_ne_nil _ _))
          · exact nofun

theorem written_table (table : List (List (Units × Units))) (wide : ∀ record ∈ table, 2 ≤ record.length) :
    CsvText (table.flatMap fun record => writeCsvRow (record.map fun field => (field.1, .text field.2))).flatten
      (table.map (·.map (·.2))) := by
  induction table with
  | nil => exact .empty
  | cons record table ih =>
      have two := wide record List.mem_cons_self
      have cells : (record.map fun field => ((field.1, .text field.2) : Units × ExportValue)).map (·.2) =
          (record.map (·.2)).map ExportValue.text := by
        rw [List.map_map, List.map_map]
        rfl
      have given : record.map (·.2) ≠ [] := by
        intro none
        rw [List.map_eq_nil_iff.mp none] at two
        cases two
      have whole : kept (record.map (·.2)) = [record.map (·.2)] := by
        match record, two with
        | _ :: _ :: _, _ => rfl
      have rest := ih fun other member => wide other (List.mem_cons_of_mem _ member)
      have text := CsvText.line (writeCsvFields_row given) LineEnd.crlf rest
      rw [whole] at text
      rw [List.flatMap_cons, List.flatten_append, writeCsvRow, cells, List.flatten_append]
      simpa using text

/-- The import reads a written table back, and accepts and rejects by the grammar. -/
theorem csv_codec :
    (∀ table : List (List (Units × Units)), (∀ record ∈ table, 2 ≤ record.length) →
      parseCsvRecords
          (table.flatMap fun record => writeCsvRow (record.map fun field => (field.1, .text field.2))).flatten =
        .ok (table.map (·.map (·.2)))) ∧
    (∀ text records, parseCsvRecords text = .ok records ↔ CsvText text records) ∧
    ∀ text error, parseCsvRecords text = .error error ↔ Malformed text error :=
  ⟨fun table wide => parse_text (written_table table wide), parse_ok_iff, parse_error_iff⟩

/-- Separators, quotes and ends of lines in the fields, a blank one and one without a text. -/
def awkwardTable : List (List (Units × Units)) :=
  [[(unitsOfText "name".toList, unitsOfText "Main \"5\", left".toList),
      (unitsOfText "note".toList, unitsOfText "two\r\nlines\t".toList)],
    [(unitsOfText "name".toList, unitsOfText " ".toList), (unitsOfText "note".toList, [])]]

theorem awkwardTable_read :
    parseCsvRecords
        (awkwardTable.flatMap fun record => writeCsvRow (record.map fun field => (field.1, .text field.2))).flatten =
      .ok [[unitsOfText "Main \"5\", left".toList, unitsOfText "two\r\nlines\t".toList], [unitsOfText " ".toList, []]] :=
  csv_codec.1 awkwardTable (by decide)

end Rows

end PublicLighting.Exchange
