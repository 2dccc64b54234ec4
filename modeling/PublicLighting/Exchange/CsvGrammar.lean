import PublicLighting.Exchange.CsvRecords

/-! The parser accepts exactly the texts of the grammar, and rejects exactly the malformed ones. -/

namespace PublicLighting.Exchange

def atField (records : List (List Units)) (record : List Units) : CsvState := ⟨records, record, [], false, false⟩

def EndsField (tail : Units) : Prop :=
  tail = [] ∨ ∃ unit rest, tail = unit :: rest ∧ unit ∈ [commaUnit, crUnit, lfUnit]

section Scanning

variable {records : List (List Units)} {record : List Units} {cell tail : Units}

theorem scan_doubled (value : Units) :
    scanCsv (doubled value ++ tail) ⟨records, record, cell, true, false⟩ =
      scanCsv tail ⟨records, record, cell ++ value, true, false⟩ := by
  induction value generalizing cell with
  | nil => rw [List.append_nil]; rfl
  | cons unit value ih =>
      have step : scanCsv (doubled (unit :: value) ++ tail) ⟨records, record, cell, true, false⟩ =
          scanCsv (doubled value ++ tail) ⟨records, record, cell ++ [unit], true, false⟩ := by
        rw [doubled, List.flatMap_cons, ← doubled]
        by_cases quote : unit = quoteUnit
        · subst quote
          rw [if_pos rfl, List.append_assoc, List.cons_append, scanCsv]
          simp
        · rw [if_neg quote, List.append_assoc, List.singleton_append, scanCsv]
          simp [quote]
      rw [step, ih, List.append_assoc]
      rfl

theorem scan_close (open' : tail.head? ≠ some quoteUnit) :
    scanCsv (quoteUnit :: tail) ⟨records, record, cell, true, false⟩ =
      scanCsv tail ⟨records, record, cell, false, true⟩ := by
  rw [scanCsv]
  simp [open']

theorem scan_blanks {blanks : Units} (blank : AreBlanks blanks) :
    scanCsv (blanks ++ tail) ⟨records, record, cell, false, true⟩ =
      scanCsv tail ⟨records, record, cell, false, true⟩ := by
  induction blanks with
  | nil => rfl
  | cons unit blanks ih =>
      have rest : AreBlanks blanks := fun other member => blank other (List.mem_cons_of_mem _ member)
      have here : scanCsv (unit :: blanks ++ tail) ⟨records, record, cell, false, true⟩ =
          scanCsv (blanks ++ tail) ⟨records, record, cell, false, true⟩ := by
        rw [List.cons_append, scanCsv]
        rcases blank unit List.mem_cons_self with space | tab
        · simp [space, spaceUnit, quoteUnit, commaUnit, crUnit, lfUnit, tabUnit]
        · simp [tab, spaceUnit, quoteUnit, commaUnit, crUnit, lfUnit, tabUnit]
      rw [here, ih rest]

theorem scan_bare {text : Units} (plain : ∀ unit ∈ text, unit ≠ commaUnit ∧ unit ≠ crUnit ∧ unit ≠ lfUnit)
    (literal : cell ≠ [] ∨ text.head? ≠ some quoteUnit) :
    scanCsv (text ++ tail) ⟨records, record, cell, false, false⟩ =
      scanCsv tail ⟨records, record, cell ++ text, false, false⟩ := by
  induction text generalizing cell with
  | nil => rw [List.append_nil]; rfl
  | cons unit text ih =>
      have here : scanCsv (unit :: text ++ tail) ⟨records, record, cell, false, false⟩ =
          scanCsv (text ++ tail) ⟨records, record, cell ++ [unit], false, false⟩ := by
        have separators := plain unit List.mem_cons_self
        have unquoted : ¬ (unit = quoteUnit ∧ cell = []) := by
          rintro ⟨quote, empty⟩
          rcases literal with filled | other
          · exact filled empty
          · exact other (congrArg some quote)
        rw [List.cons_append, scanCsv]
        simp [unquoted, separators]
      rw [here, ih (fun other member => plain other (List.mem_cons_of_mem _ member))
        (.inl (List.append_ne_nil_of_right_ne_nil _ (List.cons_ne_nil _ _))), List.append_assoc]
      rfl

theorem scan_open : scanCsv (quoteUnit :: tail) (atField records record) =
    scanCsv tail ⟨records, record, [], true, false⟩ := by
  rw [scanCsv]
  simp [atField]

theorem scan_field (records : List (List Units)) (record : List Units) {text value : Units}
    (field : CsvField text value) (ends : EndsField tail) :
    ∃ closed, scanCsv (text ++ tail) (atField records record) =
        scanCsv tail ⟨records, record, value, false, closed⟩ ∧ (text ≠ [] → value ≠ [] ∨ closed = true) := by
  cases field with
  | bare plain =>
      exact ⟨false, scan_bare plain.2 (.inr plain.1), fun given => .inl given⟩
  | quoted value blank =>
      rename_i blanks
      refine ⟨true, ?_, fun _ => .inr rfl⟩
      have closing : (blanks ++ tail).head? ≠ some quoteUnit := by
        cases blanks with
        | nil =>
            rcases ends with rfl | ⟨unit, rest, rfl, separator⟩
            · exact nofun
            · intro same
              have quote : unit = quoteUnit := Option.some_inj.mp same
              subst quote
              exact absurd separator (by decide)
        | cons unit blanks =>
            intro same
            have quote : unit = quoteUnit := Option.some_inj.mp same
            rcases blank unit List.mem_cons_self with space | tab
            · exact absurd (quote.symm.trans space) (by decide)
            · exact absurd (quote.symm.trans tab) (by decide)
      rw [List.cons_append, List.cons_append, List.append_assoc, List.cons_append, scan_open, scan_doubled,
        List.nil_append, scan_close closing, scan_blanks blank]

theorem scan_comma {closed : Bool} : scanCsv (commaUnit :: tail) ⟨records, record, cell, false, closed⟩ =
    scanCsv tail (atField records (record ++ [cell])) := by
  have other : commaUnit ≠ quoteUnit := by decide
  rw [scanCsv]
  simp [other, finishCell, atField]

theorem scan_ending {closed : Bool} {ending : Units} (ends : LineEnd tail ending) :
    scanCsv (ending ++ tail) ⟨records, record, cell, false, closed⟩ =
      scanCsv tail (atField (records ++ kept (record ++ [cell])) []) := by
  have crQuote : crUnit ≠ quoteUnit := by decide
  have lfQuote : lfUnit ≠ quoteUnit := by decide
  have crComma : crUnit ≠ commaUnit := by decide
  have lfComma : lfUnit ≠ commaUnit := by decide
  have different : lfUnit ≠ crUnit := by decide
  cases ends with
  | cr alone =>
      rw [List.singleton_append, scanCsv]
      simp [crQuote, crComma, alone, finishRecord, finishCell, atField]
  | lf =>
      rw [List.singleton_append, scanCsv]
      simp [lfQuote, lfComma, different, finishRecord, finishCell, atField]
  | crlf =>
      rw [List.cons_append, List.singleton_append, scanCsv]
      simp [crQuote, crComma, finishRecord, finishCell, atField]

theorem LineEnd.endsField {ending : Units} (ends : LineEnd tail ending) : EndsField (ending ++ tail) := by
  cases ends with
  | cr _ => exact .inr ⟨crUnit, tail, rfl, by decide⟩
  | lf => exact .inr ⟨lfUnit, tail, rfl, by decide⟩
  | crlf => exact .inr ⟨crUnit, lfUnit :: tail, rfl, by decide⟩

theorem CsvRow.values_ne {text : Units} {values : List Units} (row : CsvRow text values) : values ≠ [] := by
  cases row with
  | single _ => exact List.cons_ne_nil _ _
  | cons _ _ => exact List.cons_ne_nil _ _

theorem scan_row (records : List (List Units)) (record : List Units) {text : Units} {values : List Units}
    (row : CsvRow text values)
    (ends : tail = [] ∨ ∃ ending rest, LineEnd rest ending ∧ tail = ending ++ rest) :
    ∃ front last closed, scanCsv (text ++ tail) (atField records record) =
        scanCsv tail ⟨records, front, last, false, closed⟩ ∧ front ++ [last] = record ++ values ∧
          (text ≠ [] → last ≠ [] ∨ front ≠ [] ∨ closed = true) := by
  have stops : EndsField tail := by
    rcases ends with none | ⟨ending, rest, line, rfl⟩
    · exact .inl none
    · exact line.endsField
  induction row generalizing record with
  | single field =>
      obtain ⟨closed, scanned, given⟩ := scan_field records record field stops
      exact ⟨record, _, closed, scanned, rfl, fun some => (given some).imp_right .inr⟩
  | @cons text value rest values field row ih =>
      have comma : EndsField (commaUnit :: (rest ++ tail)) := .inr ⟨_, _, rfl, by decide⟩
      obtain ⟨closed, scanned, -⟩ := scan_field records record field comma
      obtain ⟨front, last, closedLast, scannedLast, whole, -⟩ := ih (record ++ [value])
      refine ⟨front, last, closedLast, ?_, ?_, fun _ => .inr (.inl ?_)⟩
      · rw [List.append_assoc, List.cons_append, scanned, scan_comma, scannedLast]
      · rw [whole, List.append_assoc]
        rfl
      · intro empty
        have lengths := congrArg List.length whole
        have some := List.length_pos_of_ne_nil row.values_ne
        rw [empty, List.length_append, List.length_append, List.length_append, List.length_nil,
          List.length_singleton,
          List.length_singleton] at lengths
        omega

end Scanning

section Accepted

def finishText (state : CsvState) : Except CsvError (List (List Units)) :=
  if state.quoted then .error .unclosed
  else if state.cell ≠ [] ∨ state.record ≠ [] ∨ state.closedQuote then .ok (finishRecord state).records
  else .ok state.records

theorem parse_eq (text : Units) : parseCsvRecords text = (scanCsv text emptyState).bind finishText := by
  rw [parseCsvRecords]
  cases scanCsv text emptyState with
  | error error => rfl
  | ok state => rfl

theorem scan_text (records : List (List Units)) {text : Units} {more : List (List Units)}
    (read : CsvText text more) :
    (scanCsv text (atField records [])).bind finishText = .ok (records ++ more) := by
  induction read generalizing records with
  | empty =>
      rw [scanCsv, List.append_nil]
      rfl
  | @last text record row given =>
      obtain ⟨front, last, closed, scanned, whole, some⟩ := scan_row records [] row (.inl rfl)
      rw [List.append_nil] at scanned
      rw [scanned, scanCsv]
      have final : last ≠ [] ∨ front ≠ [] ∨ closed = true := some given
      change finishText _ = _
      rw [finishText, if_neg Bool.false_ne_true, if_pos final]
      simp only [finishRecord, finishCell, whole, List.nil_append]
  | @line text ending rest record more row ends others ih =>
      obtain ⟨front, last, closed, scanned, whole, -⟩ := scan_row records [] row (.inr ⟨ending, rest, ends, rfl⟩)
      rw [List.append_assoc, scanned, scan_ending ends, whole, List.nil_append, ih, List.append_assoc]

theorem parse_text {text : Units} {records : List (List Units)} (read : CsvText text records) :
    parseCsvRecords text = .ok records := by
  rw [parse_eq]
  exact scan_text [] read

end Accepted

section Rejected

theorem scan_malformed {text : Units} {error : CsvError} (malformed : Malformed text error)
    (records : List (List Units)) (record : List Units) :
    (scanCsv text (atField records record)).bind finishText = .error error := by
  induction malformed generalizing records record with
  | unclosed value =>
      have scanned : scanCsv (doubled value ++ []) ⟨records, record, [], true, false⟩ =
          scanCsv [] ⟨records, record, [] ++ value, true, false⟩ := scan_doubled value
      rw [List.append_nil] at scanned
      rw [scan_open, scanned, scanCsv]
      rfl
  | @afterQuote value blanks blank ch stray other rest =>
      have closing : (blanks ++ ch :: rest).head? ≠ some quoteUnit := by
        cases blanks with
        | nil => exact fun same => other rfl (Option.some_inj.mp same)
        | cons unit blanks =>
            intro same
            have quote : unit = quoteUnit := Option.some_inj.mp same
            rcases blank unit List.mem_cons_self with space | tab
            · exact absurd (quote.symm.trans space) (by decide)
            · exact absurd (quote.symm.trans tab) (by decide)
      rw [List.append_assoc, List.cons_append, List.cons_append, scan_open, scan_doubled, scan_close closing,
        scan_blanks blank, scanCsv]
      simp only [Bool.false_eq_true, if_false, true_and]
      rw [if_pos stray]
      rfl
  | field field later ih =>
      obtain ⟨closed, scanned, -⟩ := scan_field records record field (.inr ⟨commaUnit, _, rfl, by decide⟩)
      rw [scanned, scan_comma, ih]
  | line field ends later ih =>
      obtain ⟨closed, scanned, -⟩ := scan_field records record field ends.endsField
      rw [List.append_assoc, scanned, scan_ending ends, ih]

theorem parse_malformed {text : Units} {error : CsvError} (malformed : Malformed text error) :
    parseCsvRecords text = .error error := by
  rw [parse_eq]
  exact scan_malformed malformed [] []

end Rejected

section Deciding

/-- After an opening quote, the text is the inside of a field, closed or not. -/
theorem split_quoted (text : Units) :
    (∃ value, text = doubled value) ∨
      ∃ value after, text = doubled value ++ quoteUnit :: after ∧ after.head? ≠ some quoteUnit := by
  induction size : text.length using Nat.strongRecOn generalizing text with
  | ind size ih =>
      subst size
      match text with
      | [] => exact .inl ⟨[], rfl⟩
      | unit :: rest =>
          by_cases quote : unit = quoteUnit
          · subst quote
            match rest with
            | [] => exact .inr ⟨[], [], rfl, nofun⟩
            | next :: rest =>
                by_cases pair : next = quoteUnit
                · subst pair
                  have two : doubled [quoteUnit] = [quoteUnit, quoteUnit] := rfl
                  rcases ih rest.length (by simp only [List.length_cons]; omega) rest rfl with
                    ⟨value, rfl⟩ | ⟨value, after, rfl, other⟩
                  · exact .inl ⟨quoteUnit :: value, rfl⟩
                  · exact .inr ⟨quoteUnit :: value, after, rfl, other⟩
                · exact .inr ⟨[], next :: rest, rfl, fun same => pair (Option.some_inj.mp same)⟩
          · have one (value : Units) : doubled (unit :: value) = unit :: doubled value := by
              rw [doubled, List.flatMap_cons, if_neg quote]
              rfl
            rcases ih rest.length (by simp only [List.length_cons]; omega) rest rfl with
              ⟨value, rfl⟩ | ⟨value, after, rfl, other⟩
            · exact .inl ⟨unit :: value, (one value).symm⟩
            · exact .inr ⟨unit :: value, after, by rw [one]; rfl, other⟩

/-- The text begins with a field, or with a malformed one. -/
theorem field_or_malformed (text : Units) :
    (∃ error, Malformed text error) ∨
      ∃ field value after, text = field ++ after ∧ CsvField field value ∧ EndsField after := by
  by_cases quote : text.head? = some quoteUnit
  · obtain ⟨rest, rfl⟩ : ∃ rest, text = quoteUnit :: rest := by
      cases text with
      | nil => cases quote
      | cons unit rest => exact ⟨rest, by rw [Option.some_inj.mp quote]⟩
    rcases split_quoted rest with ⟨value, rfl⟩ | ⟨value, after, rfl, other⟩
    · exact .inl ⟨.unclosed, .unclosed value⟩
    · let isSpace := fun unit : Nat => decide (unit = spaceUnit ∨ unit = tabUnit)
      have whole : after.takeWhile isSpace ++ after.dropWhile isSpace = after := List.takeWhile_append_dropWhile
      have blank : AreBlanks (after.takeWhile isSpace) := by
        intro unit member
        have passes : isSpace unit = true := List.mem_takeWhile_imp member
        exact of_decide_eq_true passes
      cases rest : after.dropWhile isSpace with
      | nil =>
          rw [rest, List.append_nil] at whole
          refine .inr ⟨quoteUnit :: (doubled value ++ quoteUnit :: after), value, [], ?_, ?_, .inl rfl⟩
          · rw [List.append_nil]
          · exact whole ▸ .quoted value blank
      | cons unit later =>
          have stops : isSpace unit = false := by
            have first := Foundations.Trimming.dropWhile_first (p := isSpace) after unit
            rw [rest] at first
            exact first rfl
          rw [rest] at whole
          have notBlank : ¬ (unit = spaceUnit ∨ unit = tabUnit) := of_decide_eq_false stops
          have shape : quoteUnit :: (doubled value ++ quoteUnit :: after) =
              quoteUnit :: doubled value ++ quoteUnit :: after.takeWhile isSpace ++ unit :: later := by
            rw [List.append_assoc, List.cons_append, List.cons_append, whole]
          by_cases separator : unit ∈ [commaUnit, crUnit, lfUnit]
          · exact .inr ⟨_, value, unit :: later, shape, .quoted value blank, .inr ⟨unit, later, rfl, separator⟩⟩
          · refine .inl ⟨.malformed, ?_⟩
            rw [shape]
            refine .afterQuote value blank ?_ ?_ later
            · simp only [List.mem_cons, List.not_mem_nil, or_false, not_or] at separator notBlank ⊢
              exact ⟨separator.1, separator.2.1, separator.2.2, notBlank⟩
            · intro none same
              rw [none, List.nil_append] at whole
              rw [← whole, same] at other
              exact other rfl
  · let isPlain := fun unit : Nat => decide (unit ≠ commaUnit ∧ unit ≠ crUnit ∧ unit ≠ lfUnit)
    have whole : text.takeWhile isPlain ++ text.dropWhile isPlain = text := List.takeWhile_append_dropWhile
    have bare : IsBare (text.takeWhile isPlain) := by
      constructor
      · intro first
        apply quote
        rw [← whole, List.head?_append, first]
        rfl
      · intro unit member
        have passes : isPlain unit = true := List.mem_takeWhile_imp member
        exact of_decide_eq_true passes
    refine .inr ⟨text.takeWhile isPlain, _, text.dropWhile isPlain, whole.symm, .bare bare, ?_⟩
    cases rest : text.dropWhile isPlain with
    | nil => exact .inl rfl
    | cons unit later =>
        have stops : isPlain unit = false := by
          have first := Foundations.Trimming.dropWhile_first (p := isPlain) text unit
          rw [rest] at first
          exact first rfl
        refine .inr ⟨unit, later, rfl, ?_⟩
        have separator := of_decide_eq_false stops
        simp only [List.mem_cons, List.not_mem_nil, or_false]
        tauto

theorem row_or_malformed (text : Units) :
    (∃ error, Malformed text error) ∨ ∃ row values after, text = row ++ after ∧ CsvRow row values ∧
      (after = [] ∨ ∃ ending rest, LineEnd rest ending ∧ after = ending ++ rest) := by
  induction size : text.length using Nat.strongRecOn generalizing text with
  | ind size ih =>
      subst size
      rcases field_or_malformed text with malformed | ⟨field, value, after, rfl, first,
        none | ⟨unit, rest, rfl, separator⟩⟩
      · exact .inl malformed
      · exact .inr ⟨field, [value], after, rfl, .single first, .inl none⟩
      · simp only [List.mem_cons, List.not_mem_nil, or_false] at separator
        rcases separator with rfl | rfl | rfl
        · have shorter : rest.length < (field ++ commaUnit :: rest).length := by
            rw [List.length_append, List.length_cons]
            omega
          rcases ih rest.length shorter rest rfl with ⟨error, malformed⟩ | ⟨row, values, after, rfl, read, ends⟩
          · exact .inl ⟨error, .field first malformed⟩
          · exact .inr ⟨field ++ commaUnit :: row, value :: values, after, by rw [List.append_assoc]; rfl,
              .cons first read, ends⟩
        · refine .inr ⟨field, [value], crUnit :: rest, rfl, .single first, .inr ?_⟩
          by_cases pair : rest.head? = some lfUnit
          · cases rest with
            | nil => cases pair
            | cons unit rest =>
                have same : unit = lfUnit := Option.some_inj.mp pair
                subst same
                exact ⟨[crUnit, lfUnit], rest, .crlf, rfl⟩
          · exact ⟨[crUnit], rest, .cr pair, rfl⟩
        · exact .inr ⟨field, [value], lfUnit :: rest, rfl, .single first, .inr ⟨[lfUnit], rest, .lf, rfl⟩⟩

theorem Malformed.after_row {row ending rest : Units} {values : List Units} {error : CsvError}
    (read : CsvRow row values)
    (ends : LineEnd rest ending) (later : Malformed rest error) : Malformed (row ++ ending ++ rest) error := by
  induction read with
  | single field => exact .line field ends later
  | cons field _ ih =>
      rw [List.append_assoc, List.append_assoc, List.cons_append, ← List.append_assoc]
      exact .field field ih

theorem text_or_malformed (text : Units) :
    (∃ error, Malformed text error) ∨ ∃ records, CsvText text records := by
  induction size : text.length using Nat.strongRecOn generalizing text with
  | ind size ih =>
      subst size
      rcases row_or_malformed text with malformed | ⟨row, values, after, rfl, read, rfl | ⟨ending, rest, ends, rfl⟩⟩
      · exact .inl malformed
      · rw [List.append_nil]
        by_cases empty : row = []
        · exact .inr ⟨[], empty ▸ .empty⟩
        · exact .inr ⟨kept values, .last read empty⟩
      · have shorter : rest.length < (row ++ (ending ++ rest)).length := by
          rw [List.length_append, List.length_append]
          cases ends <;> simp only [List.length_cons, List.length_nil] <;> omega
        rw [← List.append_assoc]
        rcases ih rest.length shorter rest rfl with ⟨error, malformed⟩ | ⟨records, others⟩
        · exact .inl ⟨error, malformed.after_row read ends⟩
        · exact .inr ⟨kept values ++ records, .line read ends others⟩

theorem parse_ok_iff (text : Units) (records : List (List Units)) :
    parseCsvRecords text = .ok records ↔ CsvText text records := by
  constructor
  · intro parsed
    rcases text_or_malformed text with ⟨error, malformed⟩ | ⟨others, read⟩
    · rw [parse_malformed malformed] at parsed
      cases parsed
    · rw [parse_text read] at parsed
      cases parsed
      exact read
  · exact parse_text

theorem parse_error_iff (text : Units) (error : CsvError) :
    parseCsvRecords text = .error error ↔ Malformed text error := by
  constructor
  · intro parsed
    rcases text_or_malformed text with ⟨other, malformed⟩ | ⟨records, read⟩
    · rw [parse_malformed malformed] at parsed
      cases parsed
      exact malformed
    · rw [parse_text read] at parsed
      cases parsed
  · exact parse_malformed

end Deciding

end PublicLighting.Exchange
