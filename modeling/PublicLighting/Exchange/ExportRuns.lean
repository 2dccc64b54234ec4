import PublicLighting.Exchange.Export

/-! What an export has written, and how it leaves its transaction and its client, under
every schedule. -/

namespace PublicLighting.Exchange

open Foundations (Json Program)
open Foundations.Program (Triple)

structure Streaming (document ahead : List Units) (w : ExportState) : Prop where
  session : w.session = .working
  inTransaction : w.inTransaction = true
  obtained : w.obtained = 1
  released : w.released = 0
  open' : w.response.ended = false ∧ w.response.destroyed = false
  written : w.response.written ++ ahead = document

structure Broken (schedule : Schedule) (document : List Units) (w : ExportState) : Prop where
  faulty : schedule ≠ faultless
  obtained : w.obtained = 1
  released : w.released = 0
  open' : w.response.ended = false
  part : w.response.written <+: document
  settled : w.inTransaction = false → w.session.IsEnded

/-- The transaction has ended, and the response too where the document is whole. -/
structure Settled (schedule : Schedule) (document : List Units) (w : ExportState) : Prop where
  obtained : w.obtained = 1
  released : w.released = 0
  session : w.session.IsEnded
  document : w.response.ended = true ∧ w.response.written = document ∨
    w.response.ended = false ∧ w.response.written <+: document ∧ schedule ≠ faultless

section Calls

variable {schedule : Schedule} {document ahead : List Units}

theorem faulty_query {awaits : Nat} (fault : schedule.query awaits ≠ .none) : schedule ≠ faultless := by
  intro same
  rw [same] at fault
  exact fault rfl

theorem faulty_write {awaits : Nat} (fault : schedule.write awaits ≠ .none) : schedule ≠ faultless := by
  intro same
  rw [same] at fault
  exact fault rfl

theorem faulty_left {awaits : Nat} (left : schedule.hasLeft awaits = true) : schedule ≠ faultless := by
  intro same
  rw [same] at left
  cases left

theorem Streaming.part {w : ExportState} (streaming : Streaming document ahead w) :
    w.response.written <+: document :=
  ⟨ahead, streaming.written⟩

theorem triple_write (value : Units) : Triple (Streaming document (value :: ahead)) (write schedule value)
    (fun _ => Streaming document ahead) (fun _ => Broken schedule document) (fun _ => False) := by
  intro w streaming
  have more : (w.response.written ++ [value]) ++ ahead = document := by
    rw [List.append_assoc]
    exact streaming.written
  have test : ¬ (w.response.destroyed || w.response.ended) = true := by
    rw [streaming.open'.1, streaming.open'.2]
    exact Bool.false_ne_true
  rw [write, if_neg test]
  cases fault : schedule.write w.awaits with
  | none =>
      exact ⟨streaming.session, streaming.inTransaction, streaming.obtained, streaming.released,
        streaming.open', more⟩
  | refused =>
      exact ⟨faulty_write (by rw [fault]; exact nofun), streaming.obtained, streaming.released, streaming.open'.1,
        streaming.part, fun none => absurd (none.symm.trans streaming.inTransaction) Bool.false_ne_true⟩
  | closed =>
      exact ⟨faulty_write (by rw [fault]; exact nofun), streaming.obtained, streaming.released, streaming.open'.1,
        ⟨ahead, more⟩, fun none => absurd (none.symm.trans streaming.inTransaction) Bool.false_ne_true⟩

theorem triple_writes (values : List Units) :
    Triple (Streaming document (values ++ ahead)) (Program.forEach (write schedule) values)
      (fun _ => Streaming document ahead) (fun _ => Broken schedule document) (fun _ => False) := by
  have loop := @Triple.forEach ExportState ExportError Units (fun _ => Broken schedule document) (fun _ => False)
    (write schedule) (fun items => Streaming document (items ++ ahead)) values
  exact loop fun value rest _ => triple_write value

def Gone (schedule : Schedule) (document : List Units) (w : ExportState) : Prop :=
  (∃ ahead, Streaming document ahead w) ∧ schedule.hasLeft w.awaits = true

theorem triple_disconnected : Triple (Streaming document ahead) (clientDisconnected schedule)
    (fun gone w => if gone = true then Gone schedule document w else Streaming document ahead w)
    (fun _ => Broken schedule document) (fun _ => False) := by
  intro w streaming
  have answer : (w.response.destroyed || (!w.response.ended && schedule.hasLeft w.awaits)) =
    schedule.hasLeft w.awaits := by
    rw [streaming.open'.1, streaming.open'.2]
    rfl
  simp only [clientDisconnected, Program.read, answer]
  split
  · rename_i gone
    exact ⟨⟨ahead, streaming⟩, gone⟩
  · exact streaming

theorem triple_still_gone : Triple (Gone schedule document) (clientDisconnected schedule)
    (fun gone w => gone = true ∧ Gone schedule document w) (fun _ => Broken schedule document) (fun _ => False) := by
  intro w gone
  obtain ⟨⟨ahead, streaming⟩, left⟩ := gone
  have answer : (w.response.destroyed || (!w.response.ended && schedule.hasLeft w.awaits)) =
    schedule.hasLeft w.awaits := by
    rw [streaming.open'.1, streaming.open'.2]
    rfl
  simp only [clientDisconnected, Program.read, answer]
  exact ⟨left, ⟨ahead, streaming⟩, left⟩

theorem triple_select : Triple (Streaming document ahead) (query schedule .select)
    (fun _ => Streaming document ahead) (fun _ => Broken schedule document) (fun _ => False) := by
  intro w streaming
  have inside (none : w.inTransaction = false) {session : Session} : session.IsEnded :=
    absurd (none.symm.trans streaming.inTransaction) Bool.false_ne_true
  rw [query, streaming.session]
  cases fault : schedule.query w.awaits with
  | none =>
      exact ⟨rfl, streaming.inTransaction, streaming.obtained, streaming.released, streaming.open',
        streaming.written⟩
  | refused =>
      exact ⟨faulty_query (by rw [fault]; exact nofun), streaming.obtained, streaming.released, streaming.open'.1,
        streaming.part, fun none => inside none⟩
  | lost =>
      exact ⟨faulty_query (by rw [fault]; exact nofun), streaming.obtained, streaming.released, streaming.open'.1,
        streaming.part, fun none => inside none⟩

end Calls

section Loops

variable {schedule : Schedule} {format : ExportFormat} {document ahead : List Units}

theorem triple_rows (chunk : List ExportRow) (first : Bool) (last : Option ExportRow) :
    Triple (Streaming document (writeRows format first chunk ++ ahead)) (exportRows schedule format chunk first last)
      (fun next w => Gone schedule document w ∨
        Streaming document ahead w ∧ next = (firstBehind format first chunk, chunk.getLast?.or last))
      (fun _ => Broken schedule document) (fun _ => False) := by
  induction chunk generalizing first last with
  | nil =>
      apply Triple.pure
      intro w streaming
      exact .inr ⟨streaming, rfl⟩
  | cons row chunk ih =>
      apply Triple.bind triple_disconnected
      intro gone
      cases gone with
      | true =>
          apply Triple.pure
          intro w left
          exact .inl left
      | false =>
          have shape : writeRows format first (row :: chunk) ++ ahead =
              writeRow format first row ++ (writeRows format (stillFirst format first) chunk ++ ahead) := by
            rw [writeRows, List.append_assoc]
          rw [shape]
          apply Triple.bind (triple_writes (writeRow format first row))
          intro _
          apply (ih (stillFirst format first) (some row)).weaken (fun _ same => same) _ (fun _ _ same => same)
            (fun _ same => same)
          intro next w found
          refine found.imp_right fun both => ⟨both.1, ?_⟩
          rw [both.2, firstBehind, List.getLast?_cons]
          cases chunk.getLast? with
          | none => rfl
          | some other => rfl

/-- How far the loop over the chunks has come: the rows before, and the rows from the chunk on. -/
structure Progress (rows front rest chunk : List ExportRow) (last : Option ExportRow) : Prop where
  all : Foundations.Keyset.ordered sortKey rows = front ++ rest
  chunk : chunk = rest.take chunkRows
  last : last = front.getLast?

theorem triple_chunks {rows : List ExportRow} (distinct : (rows.map sortKey).Nodup) (turns : Nat)
    (front rest chunk : List ExportRow) (first : Bool) (last : Option ExportRow)
    (progress : Progress rows front rest chunk last) (enough : rest.length < turns * chunkRows) :
    Triple (Streaming document (writeRows format first rest ++ ahead))
      (exportChunks schedule format rows turns chunk first last)
      (fun _ w => Gone schedule document w ∨ Streaming document ahead w)
      (fun _ => Broken schedule document) (fun _ => False) := by
  induction turns generalizing front rest chunk first last with
  | zero => omega
  | succ turns ih =>
      have positive : chunkRows = 250 := rfl
      have start := progress.chunk
      by_cases empty : chunk = []
      · have nothing : rest = [] := by
          cases rest with
          | nil => rfl
          | cons row rest =>
              rw [empty, positive] at start
              cases start
        rw [exportChunks, if_pos empty, nothing]
        apply Triple.pure
        intro w streaming
        exact .inr streaming
      · rw [exportChunks, if_neg empty]
        apply Triple.bind triple_disconnected
        intro gone
        cases gone with
        | true =>
            apply Triple.pure
            intro w left
            exact .inl left
        | false =>
            obtain ⟨back, behind⟩ : ∃ back, back = rest.drop chunkRows := ⟨_, rfl⟩
            have whole : rest = chunk ++ back := by
              rw [start, behind, List.take_append_drop]
            have shape : writeRows format first rest ++ ahead = writeRows format first chunk ++
                (writeRows format (firstBehind format first chunk) back ++ ahead) := by
              rw [whole, writeRows_append, List.append_assoc]
            rw [shape]
            apply Triple.bind (triple_rows chunk first last)
            intro next
            obtain ⟨later, latest⟩ := next
            dsimp only
            apply Triple.either
            · -- The client has gone, and the loop does not read on.
              by_cases short : chunk.length < chunkRows
              · rw [if_pos short]
                exact Triple.pure fun w gone => Or.inl gone
              · rw [if_neg short]
                apply Triple.bind triple_still_gone
                intro gone w holds
                rw [holds.1]
                exact Or.inl holds.2
            · apply Triple.given
              intro same
              rw [Prod.mk.injEq] at same
              rw [same.1, same.2]
              by_cases short : chunk.length < chunkRows
              · have nothing : back = [] := by
                  rw [behind]
                  apply List.drop_of_length_le
                  rw [start, List.length_take] at short
                  omega
                rw [if_pos short, nothing]
                exact Triple.pure fun w streaming => Or.inr streaming
              · have size : chunk.length = chunkRows := by
                  rw [start, List.length_take] at short ⊢
                  omega
                obtain ⟨before, row, split⟩ : ∃ before row, chunk = before ++ [row] := by
                  rcases List.eq_nil_or_concat chunk with none | ⟨before, row, split⟩
                  · exact absurd none empty
                  · exact ⟨before, row, split.trans List.concat_eq_append⟩
                have after : Foundations.Keyset.ordered sortKey rows = (front ++ before) ++ row :: back := by
                  rw [progress.all, whole, split]
                  simp
                have latest' : chunk.getLast?.or last = some row := by
                  rw [split, List.getLast?_concat]
                  rfl
                rw [if_neg short, latest']
                apply Triple.bind triple_disconnected
                intro gone
                cases gone with
                | true => exact Triple.pure fun w left => Or.inl left
                | false =>
                    have read : Triple (Streaming document (writeRows format
                      (firstBehind format first chunk) back ++ ahead))
                        (readChunk schedule rows (some row))
                        (fun answer w => Streaming document (writeRows format
                          (firstBehind format first chunk) back ++ ahead) w ∧
                          answer = back.take chunkRows)
                        (fun _ => Broken schedule document) (fun _ => False) := by
                      apply Triple.bind triple_select
                      intro _
                      apply Triple.pure
                      intro w streaming
                      exact ⟨streaming, Foundations.Keyset.page_next chunkRows distinct after⟩
                    apply Triple.bind read
                    intro answer
                    apply Triple.given
                    intro shown
                    apply ih (front ++ chunk) back answer
                    · refine ⟨?_, shown, ?_⟩
                      · rw [progress.all, whole, List.append_assoc]
                      · rw [split, ← List.append_assoc, List.getLast?_concat]
                    · have total := congrArg List.length whole
                      rw [List.length_append, size] at total
                      rw [Nat.succ_mul] at enough
                      omega

end Loops

section Ends

variable {schedule : Schedule} {format : ExportFormat} {document : List Units}

structure Connected (w : ExportState) : Prop where
  session : w.session = .idle
  inTransaction : w.inTransaction = false
  obtained : w.obtained = 1
  released : w.released = 0
  open' : w.response.ended = false ∧ w.response.destroyed = false
  written : w.response.written = []

theorem triple_begin : Triple Connected (query schedule .begin)
    (fun _ w => w.session = .working ∧ w.obtained = 1 ∧ w.released = 0 ∧
      (w.response.ended = false ∧ w.response.destroyed = false) ∧ w.response.written = [])
    (fun _ => Broken schedule document) (fun _ => False) := by
  intro w connected
  have part : w.response.written <+: document := by
    rw [connected.written]
    exact List.nil_prefix
  rw [query, connected.session]
  cases fault : schedule.query w.awaits with
  | none => exact ⟨rfl, connected.obtained, connected.released, connected.open', connected.written⟩
  | refused =>
      exact ⟨faulty_query (by rw [fault]; exact nofun), connected.obtained, connected.released,
        connected.open'.1, part,
        fun _ => .inl rfl⟩
  | lost =>
      exact ⟨faulty_query (by rw [fault]; exact nofun), connected.obtained, connected.released,
        connected.open'.1, part,
        fun _ => .inr rfl⟩

theorem triple_rollback : Triple (Gone schedule document) (do query schedule .rollback; setInTransaction false)
    (fun _ => Settled schedule document) (fun _ => Broken schedule document) (fun _ => False) := by
  have rolled : Triple (Gone schedule document) (query schedule .rollback)
      (fun _ w => w.session = .idle ∧ w.obtained = 1 ∧ w.released = 0 ∧ w.response.ended = false ∧
        w.response.written <+: document ∧ schedule ≠ faultless)
      (fun _ => Broken schedule document) (fun _ => False) := by
    intro w gone
    obtain ⟨⟨ahead, streaming⟩, left⟩ := gone
    have inside (none : w.inTransaction = false) {session : Session} : session.IsEnded :=
      absurd (none.symm.trans streaming.inTransaction) Bool.false_ne_true
    rw [query, streaming.session]
    cases fault : schedule.query w.awaits with
    | none =>
        exact ⟨rfl, streaming.obtained, streaming.released, streaming.open'.1, streaming.part, faulty_left left⟩
    | refused =>
        exact ⟨faulty_left left, streaming.obtained, streaming.released, streaming.open'.1, streaming.part,
          fun none => inside none⟩
    | lost =>
        exact ⟨faulty_left left, streaming.obtained, streaming.released, streaming.open'.1, streaming.part,
          fun none => inside none⟩
  apply Triple.bind rolled
  intro _
  apply Triple.update
  intro w holds
  obtain ⟨session, obtained, released, still, part, faulty⟩ := holds
  exact ⟨obtained, released, .inl session, .inr ⟨still, part, faulty⟩⟩

theorem triple_commit : Triple (Streaming document [])
    (do query schedule .commit
        setInTransaction false
        Program.update fun w => { w with response := { w.response with ended := true } })
    (fun _ => Settled schedule document) (fun _ => Broken schedule document) (fun _ => False) := by
  have committed : Triple (Streaming document []) (query schedule .commit)
      (fun _ w => w.session = .idle ∧ w.obtained = 1 ∧ w.released = 0 ∧ w.response.written = document)
      (fun _ => Broken schedule document) (fun _ => False) := by
    intro w streaming
    have inside (none : w.inTransaction = false) {session : Session} : session.IsEnded :=
      absurd (none.symm.trans streaming.inTransaction) Bool.false_ne_true
    have whole : w.response.written = document := by
      rw [← streaming.written, List.append_nil]
    rw [query, streaming.session]
    cases fault : schedule.query w.awaits with
    | none => exact ⟨rfl, streaming.obtained, streaming.released, whole⟩
    | refused =>
        exact ⟨faulty_query (by rw [fault]; exact nofun), streaming.obtained, streaming.released, streaming.open'.1,
          streaming.part, fun none => inside none⟩
    | lost =>
        exact ⟨faulty_query (by rw [fault]; exact nofun), streaming.obtained, streaming.released, streaming.open'.1,
          streaming.part, fun none => inside none⟩
  apply Triple.bind committed
  intro _
  have left : Triple (fun w => w.session = .idle ∧ w.obtained = 1 ∧ w.released = 0 ∧ w.response.written = document)
      (setInTransaction false)
      (fun _ w => w.session = .idle ∧ w.obtained = 1 ∧ w.released = 0 ∧ w.response.written = document)
      (fun _ => Broken schedule document) (fun _ => False) := Triple.update fun w holds => holds
  apply Triple.bind left
  intro _
  apply Triple.update
  intro w holds
  obtain ⟨session, obtained, released, written⟩ := holds
  exact ⟨obtained, released, .inl session, .inl ⟨rfl, written⟩⟩

theorem triple_body {rows : List ExportRow} (distinct : (rows.map sortKey).Nodup) (today : String) :
    Triple Connected (exportBody schedule format rows today)
      (fun _ => Settled schedule (documentWrites format (Foundations.Keyset.ordered sortKey rows)))
      (fun _ => Broken schedule (documentWrites format (Foundations.Keyset.ordered sortKey rows)))
      (fun _ => False) := by
  obtain ⟨all, order⟩ : ∃ all, all = Foundations.Keyset.ordered sortKey rows := ⟨_, rfl⟩
  rw [← order]
  have body : documentWrites format all = opening format :: (writeRows format true all ++ closing format) := rfl
  apply Triple.bind triple_begin
  intro _
  have entered : Triple (fun w : ExportState => w.session = .working ∧ w.obtained = 1 ∧ w.released = 0 ∧
      (w.response.ended = false ∧ w.response.destroyed = false) ∧ w.response.written = []) (setInTransaction true)
      (fun _ => Streaming (documentWrites format all) (documentWrites format all))
      (fun _ => Broken schedule (documentWrites format all)) (fun _ => False) := by
    apply Triple.update
    intro w holds
    obtain ⟨session, obtained, released, still, written⟩ := holds
    refine ⟨session, rfl, obtained, released, still, ?_⟩
    change w.response.written ++ _ = _
    rw [written, List.nil_append]
  apply Triple.bind entered
  intro _
  have read : Triple (Streaming (documentWrites format all) (documentWrites format all))
    (readChunk schedule rows none)
      (fun chunk w => Streaming (documentWrites format all) (documentWrites format all) w ∧
        chunk = all.take chunkRows)
      (fun _ => Broken schedule (documentWrites format all)) (fun _ => False) := by
    apply Triple.bind triple_select
    intro _
    apply Triple.pure
    intro w streaming
    have shown : Foundations.Keyset.page sortKey chunkRows none rows = all.take chunkRows := by
      rw [order]
      exact Foundations.Keyset.page_first chunkRows
    exact ⟨streaming, shown⟩
  apply Triple.bind read
  intro chunk
  apply Triple.given
  intro first
  have started : Triple (Streaming (documentWrites format all) (documentWrites format all))
    (startResponse format today)
      (fun _ => Streaming (documentWrites format all)
        (opening format :: (writeRows format true all ++ closing format)))
      (fun _ => Broken schedule (documentWrites format all)) (fun _ => False) := by
    apply Triple.update
    intro w streaming
    exact ⟨streaming.session, streaming.inTransaction, streaming.obtained, streaming.released, streaming.open',
      streaming.written⟩
  apply Triple.bind started
  intro _
  apply Triple.bind (triple_write (opening format))
  intro _
  have enough : all.length < (rows.length + 1) * chunkRows := by
    have size : all.length = rows.length := by
      rw [order]
      exact Foundations.Keyset.ordered_perm.length_eq
    have positive : chunkRows = 250 := rfl
    rw [size, positive]
    omega
  apply Triple.bind (triple_chunks distinct (rows.length + 1) [] all chunk true none ⟨order.symm, first, rfl⟩ enough)
  intro _
  apply Triple.either
  · apply Triple.bind triple_still_gone
    intro gone w holds
    rw [holds.1]
    exact triple_rollback w holds.2
  · apply Triple.bind triple_disconnected
    intro gone
    cases gone with
    | true => exact triple_rollback
    | false =>
        have ends : Triple (Streaming (documentWrites format all) (closing format ++ []))
            (Program.forEach (write schedule) (closing format)) (fun _ => Streaming (documentWrites format all) [])
            (fun _ => Broken schedule (documentWrites format all)) (fun _ => False) := triple_writes (closing format)
        rw [List.append_nil] at ends
        apply Triple.bind ends
        intro _
        exact triple_commit

theorem triple_handler (error : ExportError) : Triple (Broken schedule document) (handleError schedule error)
    (fun _ => Settled schedule document) (fun _ => Settled schedule document) (fun _ => False) := by
  have settled {w : ExportState} (broken : Broken schedule document w) (session : w.session.IsEnded) :
      Settled schedule document w :=
    ⟨broken.obtained, broken.released, session, .inr ⟨broken.open', broken.part, broken.faulty⟩⟩
  have rolled : Triple (Broken schedule document)
      (Program.catching (query schedule .rollback) fun _ => (pure () : ExportTask Unit))
      (fun _ => Settled schedule document) (fun _ => Settled schedule document) (fun _ => False) := by
    have ended : Triple (Broken schedule document) (query schedule .rollback) (fun _ => Settled schedule document)
        (fun _ => Settled schedule document) (fun _ => False) := by
      intro w broken
      have next {session : Session} (ends : session.IsEnded) :
          Settled schedule document { w with session := session, awaits := w.awaits + 1 } :=
        ⟨broken.obtained, broken.released, ends, .inr ⟨broken.open', broken.part, broken.faulty⟩⟩
      rw [query]
      cases schedule.query w.awaits with
      | none =>
          cases w.session with
          | idle => exact next (.inl rfl)
          | working => exact next (.inl rfl)
          | aborted => exact next (.inl rfl)
          | gone => exact next (.inr rfl)
      | refused =>
          cases w.session with
          | idle => exact next (.inr rfl)
          | working => exact next (.inr rfl)
          | aborted => exact next (.inr rfl)
          | gone => exact next (.inr rfl)
      | lost => exact next (.inr rfl)
    exact Triple.catching ended fun _ => Triple.pure fun w holds => holds
  have cleared : Triple (Settled schedule document) (setInTransaction false) (fun _ => Settled schedule document)
      (fun _ => Settled schedule document) (fun _ => False) :=
    Triple.update fun w holds => ⟨holds.obtained, holds.released, holds.session, holds.document⟩
  have last : Triple (Settled schedule document)
      (do if ← Program.read ExportState.started then
            Program.update fun w => { w with response := { w.response with destroyed := true } }
          else Program.throw error)
      (fun _ => Settled schedule document) (fun _ => Settled schedule document) (fun _ => False) := by
    have known : Triple (Settled schedule document) (Program.read ExportState.started : ExportTask Bool)
        (fun _ => Settled schedule document) (fun _ => Settled schedule document) (fun _ => False) :=
      Triple.read fun w holds => holds
    apply Triple.bind known
    intro started
    cases started with
    | true => exact Triple.update fun w holds => ⟨holds.obtained, holds.released, holds.session, holds.document⟩
    | false => exact Triple.throw fun w holds => holds
  have inside : Triple (Broken schedule document) (Program.read ExportState.inTransaction : ExportTask Bool)
      (fun open' w => Broken schedule document w ∧ w.inTransaction = open') (fun _ => Settled schedule document)
      (fun _ => False) := Triple.read fun w broken => ⟨broken, rfl⟩
  apply Triple.bind inside
  intro open'
  cases open' with
  | true =>
      intro w holds
      have ends := Triple.bind rolled fun _ => Triple.bind cleared fun _ => last
      exact ends w holds.1
  | false =>
      intro w holds
      exact last w (settled holds.1 (holds.1.settled holds.2))

end Ends

section Exports

theorem sortKey_nodup {rows : List ExportRow} (distinct : (rows.map ExportRow.id).Nodup) :
    (rows.map sortKey).Nodup := by
  have ids : rows.map ExportRow.id = (rows.map sortKey).map fun key => (ofLex key).2 := by
    rw [List.map_map]
    rfl
  rw [ids] at distinct
  exact distinct.of_map

structure EndsSafely (document : List Units)
    (result : Foundations.Outcome ExportError Unit × ExportState) : Prop where
  terminates : result.1 ≠ .died
  part : result.2.response.written <+: document
  whole : result.2.response.ended = true → result.2.response.written = document
  session : result.2.session.IsEnded
  obtained : result.2.obtained = 1 ∨ result.2.obtained = 0 ∧ result.1 = .threw .noConnection
  released : result.2.released = result.2.obtained

structure Exported (document : List Units) (result : Foundations.Outcome ExportError Unit × ExportState) : Prop where
  returned : result.1 = .returned ()
  written : result.2.response.written = document
  ended : result.2.response.ended = true
  session : result.2.session.IsEnded
  released : result.2.obtained = 1 ∧ result.2.released = 1

def IsDocument (format : ExportFormat) (rows : List ExportRow) (text : Units) : Prop :=
  match format with
  | .csv => parseCsvRecords text = .ok (csvNames :: rows.map csvCells)
  | .json => text = textUnits (Json.stringify (jsonDocument rows)) ∧
      Json.parse (Json.stringify (jsonDocument rows)) = some (jsonDocument rows)
  | .geojson => text = textUnits (Json.stringify (featureCollection rows)) ∧
      Json.parse (Json.stringify (featureCollection rows)) = some (featureCollection rows)

theorem isDocument (format : ExportFormat) (rows : List ExportRow) :
    IsDocument format rows (documentWrites format rows).flatten := by
  cases format with
  | csv => exact parse_text (csv_document rows)
  | json => exact ⟨json_document rows, Json.parse_stringify (jsonDocument_finite rows)⟩
  | geojson => exact ⟨geojson_document rows, Json.parse_stringify (featureCollection_finite rows)⟩

/-- The client has been given back behind the `finally`. -/
def GivenBack (schedule : Schedule) (document : List Units) (w : ExportState) : Prop :=
  ∃ before, Settled schedule document before ∧ w = { before with released := 1 }

theorem triple_export (schedule : Schedule) (format : ExportFormat) {rows : List ExportRow}
    (distinct : (rows.map sortKey).Nodup) (today : String) :
    Triple Connected
      (Program.ending (Program.catching (exportBody schedule format rows today) (handleError schedule)) release)
      (fun _ => GivenBack schedule (documentWrites format (Foundations.Keyset.ordered sortKey rows)))
      (fun _ w => GivenBack schedule (documentWrites format (Foundations.Keyset.ordered sortKey rows)) w ∧
        schedule ≠ faultless)
      (fun _ => False) := by
  obtain ⟨document, shape⟩ : ∃ document, document = documentWrites format
    (Foundations.Keyset.ordered sortKey rows) :=
    ⟨_, rfl⟩
  have body : Triple Connected (exportBody schedule format rows today) (fun _ => Settled schedule document)
      (fun _ => Broken schedule document) (fun _ => False) := by
    rw [shape]
    exact triple_body distinct today
  rw [← shape]
  have handled (error : ExportError) : Triple (Broken schedule document) (handleError schedule error)
      (fun _ => Settled schedule document) (fun _ w => Settled schedule document w ∧ schedule ≠ faultless)
      (fun _ => False) := by
    have known : Triple (fun w => Broken schedule document w ∧ schedule ≠ faultless) (handleError schedule error)
        (fun _ => Settled schedule document) (fun _ w => Settled schedule document w ∧ schedule ≠ faultless)
        (fun _ => False) :=
      Triple.given fun faulty => (triple_handler error).weaken (fun _ same => same) (fun _ _ same => same)
        (fun _ _ settled => ⟨settled, faulty⟩) fun _ same => same
    exact known.weaken (fun _ broken => ⟨broken, broken.faulty⟩) (fun _ _ same => same) (fun _ _ same => same)
      fun _ same => same
  have released {w : ExportState} (settled : Settled schedule document w) :
      GivenBack schedule document { w with released := w.released + 1 } :=
    ⟨w, settled, by rw [settled.released]⟩
  apply Triple.ending (Triple.catching body handled)
  · intro _
    exact Triple.update fun w settled => released settled
  · intro _
    exact Triple.update fun w settled => ⟨released settled.1, settled.2⟩

theorem connected_ends (schedule : Schedule) (format : ExportFormat) {rows : List ExportRow}
    (distinct : (rows.map sortKey).Nodup) (today : String) :
    Triple (fun w => w = newExport)
      (do connect schedule
          Program.ending (Program.catching (exportBody schedule format rows today) (handleError schedule)) release)
      (fun _ => GivenBack schedule (documentWrites format (Foundations.Keyset.ordered sortKey rows)))
      (fun error w => schedule ≠ faultless ∧
        (GivenBack schedule (documentWrites format (Foundations.Keyset.ordered sortKey rows)) w ∨
          error = .noConnection ∧ w = { newExport with awaits := 1 }))
      (fun _ => False) := by
  have joined : Triple (fun w => w = newExport) (connect schedule) (fun _ => Connected)
      (fun error w => schedule ≠ faultless ∧
        (GivenBack schedule (documentWrites format (Foundations.Keyset.ordered sortKey rows)) w ∨
          error = .noConnection ∧ w = { newExport with awaits := 1 }))
      (fun _ => False) := by
    intro w fresh
    rw [fresh, connect]
    cases fault : schedule.query newExport.awaits with
    | none => exact ⟨rfl, rfl, rfl, rfl, ⟨rfl, rfl⟩, rfl⟩
    | refused => exact ⟨faulty_query (by rw [fault]; exact nofun), .inr ⟨rfl, rfl⟩⟩
    | lost => exact ⟨faulty_query (by rw [fault]; exact nofun), .inr ⟨rfl, rfl⟩⟩
  apply Triple.bind joined
  intro _
  exact (triple_export schedule format distinct today).weaken (fun _ same => same) (fun _ _ same => same)
    (fun _ _ settled => ⟨settled.2, .inl settled.1⟩) fun _ same => same

theorem givenBack_safe {schedule : Schedule} {document : List Units} {outcome : Foundations.Outcome ExportError Unit}
    {w : ExportState} (alive : outcome ≠ .died) (back : GivenBack schedule document w) :
    EndsSafely document (outcome, w) := by
  obtain ⟨before, settled, same⟩ := back
  rw [same]
  refine ⟨alive, ?_, ?_, settled.session, .inl settled.obtained, settled.obtained.symm⟩
  · rcases settled.document with whole | stopped
    · exact ⟨[], (List.append_nil _).trans whole.2⟩
    · exact stopped.2.1
  · intro ended
    rcases settled.document with whole | stopped
    · exact whole.2
    · exact absurd (stopped.1.symm.trans ended) Bool.false_ne_true

/-- Undisturbed, an export is one document of all rows that the filters keep, each once and
in order. Whatever disturbs it, it comes to an end with nothing behind a missing row. -/
theorem export_complete (texts : SearchText) (format : ExportFormat) (filters : StreetLightFilters) (today : String)
    (snapshot : Snapshot) :
    match buildStreetLightFilters texts filters with
    | .error error => ∀ schedule, streamStreetLightsExport texts schedule format filters today snapshot newExport =
        (.threw (.filter error), newExport)
    | .ok keeps => ∃ rows, rows.Perm (snapshot.rows.filter keeps) ∧
        rows.Pairwise (fun one other => sortKey one < sortKey other) ∧
        IsDocument format rows (documentWrites format rows).flatten ∧
        Exported (documentWrites format rows)
          (streamStreetLightsExport texts faultless format filters today snapshot newExport) ∧
        ∀ schedule, EndsSafely (documentWrites format rows)
          (streamStreetLightsExport texts schedule format filters today snapshot newExport) := by
  cases built : buildStreetLightFilters texts filters with
  | error error =>
      intro schedule
      rw [streamStreetLightsExport, built]
      rfl
  | ok keeps =>
      have distinct : ((snapshot.rows.filter keeps).map sortKey).Nodup :=
        (sortKey_nodup snapshot.distinct).sublist (List.filter_sublist.map _)
      have runs (schedule : Schedule) := connected_ends schedule format distinct today newExport rfl
      refine ⟨Foundations.Keyset.ordered sortKey (snapshot.rows.filter keeps), Foundations.Keyset.ordered_perm,
        Foundations.Keyset.ordered_lt distinct, isDocument format _, ?_, ?_⟩
      · have run := runs faultless
        rw [streamStreetLightsExport, built]
        dsimp only
        split at run
        · rename_i value w ran
          rw [ran]
          obtain ⟨before, settled, same⟩ := run
          rcases settled.document with whole | stopped
          · rw [same]
            exact ⟨rfl, whole.2, whole.1, settled.session, settled.obtained, rfl⟩
          · exact absurd rfl stopped.2.2
        · exact absurd rfl run.1
        · exact run.elim
      · intro schedule
        have run := runs schedule
        rw [streamStreetLightsExport, built]
        dsimp only
        split at run
        · rename_i value w ran
          rw [ran]
          exact givenBack_safe nofun run
        · rename_i error w ran
          rw [ran]
          rcases run.2 with back | refused
          · exact givenBack_safe nofun back
          · rw [refused.1, refused.2]
            exact ⟨nofun, List.nil_prefix, nofun, .inl rfl, .inr ⟨rfl, rfl⟩, rfl⟩
        · exact run.elim

end Exports

end PublicLighting.Exchange
