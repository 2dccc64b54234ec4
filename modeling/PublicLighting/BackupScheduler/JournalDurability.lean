import PublicLighting.BackupScheduler.JournalFileSafety

/-! What the journal promises over its runs: it can be read, it keeps what it has acknowledged, and it goes on. -/

namespace PublicLighting.BackupScheduler.JournalFile

open Foundations Foundations.RecordLog
open Program (Fault Scheduled await Triple On Calm Returns)
open Records (Event parseEvent maxSchedulerEventBytes)

section Calls

variable {α : Type} {before : Disk → Prop} {contents left : Bytes} {position fuel : Nat} {created : Bool}
  {value : Json}
  {event : Event}

def contentsOf (file : Option File) : Bytes := (file.map (·.contents)).getD []

def Able (disk : Disk) : Prop := disk.regular = true ∧ ∀ position, 1 ≤ disk.chunk position

def Ready (contents : Bytes) (disk : Disk) : Prop := Able disk ∧ contentsOf disk.file = contents

theorem ask_returns {error : JournalError} {answer : Disk → Except JournalError α} {after : α → Disk → Prop}
    (answered : ∀ disk, before disk → ∃ value, answer disk = .ok value ∧ after value disk) :
    Returns before (ask error answer) after := by
  refine Returns.await fun disk here => ?_
  obtain ⟨value, given, later⟩ := answered disk here
  exact ⟨value, disk, by rw [given], later⟩

theorem change_returns {effect : File → File} : Returns Able (change effect) (fun _ => Able) :=
  Returns.await fun disk able => ⟨(), { disk with file := disk.file.map effect }, rfl, able⟩

theorem write_returns (some : left ≠ []) :
    Returns Able (write position left) (fun count disk => Able disk ∧ 1 ≤ count) := by
  refine Returns.await fun disk able => ⟨_, _, rfl, able, ?_⟩
  rw [List.length_take]
  exact Nat.le_min.mpr ⟨able.2 position, List.length_pos_iff.mpr some⟩

theorem writeAll_returns : Returns Able (writeAll position fuel left) (fun _ => Able) := by
  induction fuel generalizing position left with
  | zero => exact Triple.pure fun _ here => here
  | succ fuel ih =>
      unfold writeAll
      split
      · exact Triple.pure fun _ here => here
      · rename_i some
        have rest : ∀ count, 1 ≤ count → Returns Able
            (if count < 1 then Program.throw .shortWrite else writeAll (position + count) fuel (left.drop count))
            (fun _ => Able) := by
          intro count counted
          rw [if_neg (Nat.not_lt.mpr counted)]
          exact ih
        refine (write_returns some).bind fun count => ?_
        exact (Triple.given (rest count)).weaken (fun _ here => ⟨⟨here.1, here.2.1⟩, here.2.2⟩)
          (fun _ _ here => here)
          (fun _ _ here => here) (fun _ here => here)

theorem repairTail_returns : Returns Able (repairTail contents) (fun _ => Able) := by
  unfold repairTail
  split
  · have cut : Returns Able (truncate (committed newline contents).length) (fun _ => Able) := change_returns
    have synced : Returns Able syncFile (fun _ => Able) := change_returns
    exact cut.bind fun _ => synced.bind fun _ => change_returns
  · exact Triple.pure fun _ here => here

theorem commit_returns : Returns Able (commit created position left) (fun _ => Able) := by
  have synced : Returns Able syncFile (fun _ => Able) := change_returns
  refine writeAll_returns.bind fun _ => synced.bind fun _ => ?_
  cases created with
  | false => exact Triple.pure fun _ here => here
  | true => exact change_returns

theorem appendTo_returns {events : List Event} (fits : contents.length ≤ maxSchedulerJournalBytes)
    (readable : parseCommittedRecords (committed newline contents) = .ok events)
    (room : (committed newline contents).length + ((lineOf value).length + 1) ≤ maxSchedulerJournalBytes) :
    Returns Able (appendTo value created contents) (fun _ => Able) := by
  unfold appendTo
  rw [if_neg (Nat.not_lt.mpr fits), readable]
  refine repairTail_returns.bind fun _ => ?_
  rw [if_neg (Nat.not_lt.mpr room)]
  exact commit_returns

theorem append_returns {events : List Event} (parsed : parseEvent (serialize value) = .ok event)
    (small : (lineOf value).length + 1 ≤ maxSchedulerEventBytes) (fits : contents.length ≤ maxSchedulerJournalBytes)
    (readable : parseCommittedRecords (committed newline contents) = .ok events)
    (room : (committed newline contents).length + ((lineOf value).length + 1) ≤ maxSchedulerJournalBytes) :
    Returns (Ready contents) (append value) (fun _ => Able) := by
  have ensured : Returns (Ready contents) ensureDirectory (fun _ => Ready contents) :=
    ask_returns fun disk here => ⟨(), rfl, here⟩
  have looked : Returns (Ready contents) isMissing (fun _ => Ready contents) :=
    ask_returns fun disk here => ⟨_, rfl, here⟩
  have opened : Returns (Ready contents) openFile (fun _ => Ready contents) := by
    refine Returns.await fun disk ⟨able, same⟩ => ⟨(), _, rfl, able, ?_⟩
    rw [← same]
    cases disk.file <;> rfl
  have chmod : Returns (Ready contents) (ask .io fun _ => .ok ()) (fun _ : Unit => Ready contents) :=
    ask_returns fun disk here => ⟨(), rfl, here⟩
  have info : Returns (Ready contents) stat (fun _ => Ready contents) :=
    ask_returns fun disk here => ⟨(), if_pos here.1.1, here⟩
  have secured : Returns (Ready contents) secure (fun _ => Ready contents) := chmod.bind fun _ => info
  have read : Returns (Ready contents) readFile (fun got disk => Able disk ∧ got = contents) :=
    ask_returns fun disk here => ⟨_, rfl, here.1, here.2⟩
  have written : ∀ created got, got = contents → Returns Able (appendTo value created got) (fun _ => Able) := by
    intro created got same
    rw [same]
    exact appendTo_returns fits readable room
  have body : Returns (Ready contents) (appendBody value) (fun _ => Able) := by
    unfold appendBody
    refine looked.bind fun created => opened.bind fun _ => secured.bind fun _ => ?_
    rw [if_neg (Nat.not_lt.mpr small)]
    refine read.bind fun got => ?_
    exact (Triple.given (written created got)).weaken (fun _ here => ⟨⟨here.1, here.2.1⟩, here.2.2⟩)
      (fun _ _ here => here)
      (fun _ _ here => here) (fun _ here => here)
  have closed : Returns Able (ask .io fun _ => .ok ()) (fun _ : Unit => Able) :=
    ask_returns fun disk here => ⟨(), rfl, here⟩
  unfold append
  refine ensured.bind fun _ => ?_
  rw [parsed]
  have caught : Returns (Ready contents) (Program.catching (appendBody value) fun error =>
    Program.throw (rethrown error))
      (fun _ => Able) := body.catching fun error _ here => here.elim
  exact caught.ending (fun _ => closed) fun error _ here => here.elim

end Calls

theorem parse_serialize {event : Event} (small : (lineOf event.toJson).length + 1 ≤ maxSchedulerEventBytes) :
    parseEvent (serialize event.toJson) = .ok event := Records.parseEvent_text event (Nat.le_of_succ_le small)

section Recovery

variable {s : State} {labels : List Label} {durable lines : List Bytes} {value : Json} {event : Event}
  {chunk : Nat → Nat}

theorem Kept.contents {file : Option File} (kept : Kept durable lines file) :
    Holds newline (contentsOf file) lines ∧ (contentsOf file).length ≤ maxSchedulerJournalBytes := by
  cases file with
  | none =>
      rw [kept.2]
      exact ⟨Holds.nil, Nat.zero_le _⟩
  | some file =>
      have keeps : Keeps durable lines file := kept
      exact ⟨keeps.holds, keeps.fits⟩

theorem appended_calm (recorded : Recorded labels s durable lines)
    (parsed : parseEvent (serialize value) = .ok event)
    (small : (lineOf value).length + 1 ≤ maxSchedulerEventBytes)
    (room : (committed newline (contentsOf s.file)).length + ((lineOf value).length + 1) ≤ maxSchedulerJournalBytes)
    (positive : ∀ position, 1 ≤ chunk position) :
    ∃ w, appended value (fun _ => .none) chunk true s.file = (.returned (), w) := by
  obtain ⟨held, fits⟩ := recorded.kept.contents
  have readable : parseCommittedRecords (committed newline (contentsOf s.file)) = .ok (eventsOf lines) := by
    rw [parseCommittedRecords, held.repaired.split, mapM_parse recorded.readable]
    rfl
  have ran := append_returns parsed small fits readable room ⟨⟨s.file, chunk, true⟩, fun _ => .none, 0⟩
    ⟨fun _ => rfl, ⟨rfl, positive⟩, rfl⟩
  rcases done : append value ⟨⟨s.file, chunk, true⟩, fun _ => .none, 0⟩ with ⟨_ | _ | _, w⟩ <;> rw [done] at ran
  · exact ⟨w, done⟩
  · exact ran.elim
  · exact ran.elim

end Recovery

section Reading

variable {file : Option File}

/-- `readEvents` answers what `readJournal` does, or that it could not look. -/
theorem readEvents_reads {events : List Event} (readable : readJournal file = .ok events) :
    Triple (On fun disk => disk.file = file) readEvents (fun got => On fun disk => got = events ∧ disk.file = file)
      (fun error => On fun disk => (error = .directoryUnavailable ∨ error = .readFailed) ∧ disk.file = file)
      (On fun disk => disk.file = file) := by
  have ensured : Triple (On fun disk : Disk => disk.file = file) ensureDirectory
    (fun _ => On fun disk => disk.file = file)
      (fun error => On fun disk => (error = .directoryUnavailable ∨ error = .readFailed) ∧ disk.file = file)
      (On fun disk => disk.file = file) :=
    ask_answers (fun _ _ here _ => here) (fun _ _ _ answer => nomatch answer) (fun _ here => ⟨Or.inl rfl, here⟩)
      (fun _ here => here)
  have opened : Triple (On fun disk : Disk => disk.file = file)
      (ask .readFailed fun disk => if disk.file.isSome && !disk.regular then .error .readFailed else .ok disk.file)
      (fun got => On fun disk => disk.file = file ∧ got = file)
      (fun error => On fun disk => (error = .directoryUnavailable ∨ error = .readFailed) ∧ disk.file = file)
      (On fun disk => disk.file = file) := by
    refine ask_answers ?_ ?_ (fun _ here => ⟨Or.inr rfl, here⟩) (fun _ here => here)
    · intro disk got here answer
      split at answer
      · cases answer
      · exact ⟨here, (Except.ok.inj answer).symm.trans here⟩
    · intro disk raised here answer
      split at answer
      · exact ⟨Or.inr (Except.error.inj answer).symm, here⟩
      · cases answer
  refine ensured.bind fun _ => opened.bind fun got => Triple.given fun same => ?_
  rw [same, readable]
  exact Triple.pure fun _ here => ⟨rfl, here⟩

end Reading

section Entry

variable {s t : State} {labels : List Label} {label : Label} {durable lines : List Bytes}

/-- An append that creates the file returns. -/
def Careful (s : State) : Label → Prop
  | .append value faults chunk regular => s.file = none →
      (appended value faults chunk regular none).1 = .returned () ∨
        (appended value faults chunk regular none).2.state.file = none
  | _ => True

end Entry

section TornTail

variable {value : Json} {event : Event} {file : File} {one two rest : Bytes}

def calm : Nat → Fault := fun _ => .none

/-- The process is killed with the second write of the record, if the tail needs no repair. -/
def killed : Nat → Fault := fun count => if count = 7 then .killedAfter else .none

def large : Nat → Nat := fun _ => maxSchedulerEventBytes

def narrow : Nat → Nat := fun _ => 16

theorem writeAll_nil (position fuel : Nat) : writeAll position fuel [] = pure () := by
  cases fuel <;> rfl

theorem appended_first (parsed : parseEvent (serialize value) = .ok event)
    (small : (lineOf value).length + 1 ≤ maxSchedulerEventBytes) :
    appended value calm large true none =
      (.returned (), ⟨⟨some ⟨lineOf value ++ [newline], [lineOf value ++ [newline]], true⟩, large, true⟩,
        calm, 10⟩) := by
  have nothing : committed newline [] = [] := rfl
  have empty : parseCommittedRecords [] = .ok [] := rfl
  have whole : (lineOf value ++ [newline]).take maxSchedulerEventBytes = lineOf value ++ [newline] := by
    refine List.take_of_length_le ?_
    rw [List.length_append]
    exact small
  have room : ¬ maxSchedulerJournalBytes < (lineOf value).length + 1 := Nat.not_lt.mpr (small.trans (by decide))
  simp [appended, append, ensureDirectory, ask, bind, Program.bind, await, calm, parsed, Program.ending,
    Program.catching,
    appendBody, isMissing, openFile, secure, stat, readFile, appendTo, Nat.not_lt.mpr small, nothing,
      empty, repairTail,
    room, commit, writeAll, writeAll_nil, write, large, whole, pwrite, File.hold, syncFile,
      syncDirectory, change, pure,
    Program.pure]

theorem writeAll_torn (first : one.length = 16) (second : two.length = 16) (fuel : Nat) :
    writeAll file.contents.length (fuel + 2) (one ++ (two ++ rest)) ⟨⟨some file, narrow, true⟩, killed, 6⟩ =
      (.died, ⟨⟨some ((file.hold (file.contents ++ one)).hold (file.contents ++ one ++ two)), narrow, true⟩,
        killed, 8⟩) := by
  have start : one ≠ [] := List.ne_nil_of_length_eq_add_one first
  have next : two ≠ [] := List.ne_nil_of_length_eq_add_one second
  have behind : (file.contents ++ one).length = file.contents.length + 16 := by rw [List.length_append, first]
  have ended := pwrite_end (file.contents ++ one) two
  rw [behind] at ended
  have started := pwrite_end file.contents one
  simp [writeAll, write, await, bind, Program.bind, narrow, killed, started, ended, File.hold, first,
    second, start, next]

theorem appended_killed {events : List Event} (parsed : parseEvent (serialize value) = .ok event)
    (small : (lineOf value).length + 1 ≤ maxSchedulerEventBytes) (split : lineOf value = one ++ (two ++ rest))
    (first : one.length = 16) (second : two.length = 16) (clean : committed newline file.contents = file.contents)
    (readable : parseCommittedRecords file.contents = .ok events)
    (room : file.contents.length + ((lineOf value).length + 1) ≤ maxSchedulerJournalBytes) :
    appended value killed narrow true (some file) =
      (.died, ⟨⟨some ((file.hold (file.contents ++ one)).hold (file.contents ++ one ++ two)), narrow, true⟩,
        killed, 8⟩) := by
  have fits : ¬ maxSchedulerJournalBytes < file.contents.length := by omega
  obtain ⟨fuel, count⟩ : ∃ fuel, (lineOf value).length + 1 = fuel + 2 := by
    refine ⟨(lineOf value).length - 1, ?_⟩
    rw [split, List.length_append, first]
    omega
  have torn := @writeAll_torn file one two (rest ++ [newline]) first second fuel
  have data : lineOf value ++ [newline] = one ++ (two ++ (rest ++ [newline])) :=
    by simp only [split, List.append_assoc]
  rw [← data, ← count] at torn
  simp [appended, append, ensureDirectory, ask, bind, Program.bind, await, killed, parsed, Program.ending,
    Program.catching,
    appendBody, isMissing, openFile, secure, stat, readFile, appendTo, Nat.not_lt.mpr small, fits, clean, readable,
    repairTail, Nat.not_lt.mpr room, commit, torn, pure, Program.pure]

def runId : String := "0123456789abcdef"

def slot : String := "2026-03-01T00:00:00.000Z"

theorem runId_valid : validRunId runId = true := by decide

theorem slot_timestamp : Records.isTimestamp slot = true := by decide

theorem first_attempt : Doubles.isSafeInteger 1 ∧ (1 : ℚ) ≤ 1 ∧ (1 : ℚ) ≤ 2 := by decide

def firstStart : Event :=
  .started ⟨⟨slot, slot_timestamp⟩, ⟨1, first_attempt⟩, ⟨runId, runId_valid⟩, ⟨slot, slot_timestamp⟩⟩

theorem firstStart_length : (lineOf firstStart.toJson).length = 165 := by decide +kernel

theorem firstStart_small : (lineOf firstStart.toJson).length + 1 ≤ maxSchedulerEventBytes := by
  rw [firstStart_length]
  decide

theorem firstStart_parsed : parseEvent (serialize firstStart.toJson) = .ok firstStart :=
  parse_serialize firstStart_small

def record : Bytes := lineOf firstStart.toJson ++ [newline]

def firstWrite : Bytes := (lineOf firstStart.toJson).take 16

def secondWrite : Bytes := ((lineOf firstStart.toJson).drop 16).take 16

def firstFile : File := ⟨record, [record], true⟩

def tornFile : File := (firstFile.hold (record ++ firstWrite)).hold (record ++ firstWrite ++ secondWrite)

/-- What is left when the power fails, too: the record, the first write behind it and a part of the second. -/
def leftover : Bytes := record ++ firstWrite ++ secondWrite.take 4

def tornStart : List Label :=
  [.append firstStart.toJson calm large true, .append firstStart.toJson killed narrow true, .powerFailure leftover]

def tornState : State := ⟨some ⟨leftover, [leftover], true⟩, [firstStart]⟩

theorem record_holds : Holds newline record [lineOf firstStart.toJson] :=
  ⟨by simpa using newline_line _, [], by simp [record, frame], List.not_mem_nil⟩

theorem record_committed : committed newline record = record := by
  rw [record_holds.committed, record]
  simp [frame]

theorem record_readable : parseCommittedRecords record = .ok [firstStart] := by
  rw [parseCommittedRecords, record_holds.split, List.mapM_cons, parseLine_line firstStart_parsed]
  rfl

theorem record_length : record.length = 166 := by rw [record, List.length_append, firstStart_length]; rfl

theorem leftover_committed : committed newline leftover = record := by
  have torn : newline ∉ firstWrite ++ secondWrite.take 4 := by
    intro member
    refine newline_line firstStart.toJson ?_
    rcases List.mem_append.mp member with here | here
    · exact List.mem_of_mem_take here
    · exact List.mem_of_mem_drop (List.mem_of_mem_take (List.mem_of_mem_take here))
  have holds : Holds newline leftover [lineOf firstStart.toJson] :=
    ⟨record_holds.clean, firstWrite ++ secondWrite.take 4, by simp [leftover, record, frame], torn⟩
  rw [holds.committed, ← record_holds.committed, record_committed]

theorem first_append : appended firstStart.toJson calm large true none =
    (.returned (), ⟨⟨some firstFile, large, true⟩, calm, 10⟩) := appended_first firstStart_parsed firstStart_small

theorem second_append : appended firstStart.toJson killed narrow true (some firstFile) =
    (.died, ⟨⟨some tornFile, narrow, true⟩, killed, 8⟩) := by
  have split : lineOf firstStart.toJson = firstWrite ++
    (secondWrite ++ ((lineOf firstStart.toJson).drop 16).drop 16) := by
    rw [secondWrite, List.take_append_drop, firstWrite, List.take_append_drop]
  have first : firstWrite.length = 16 := by
    rw [firstWrite, List.length_take, firstStart_length]
    rfl
  have second : secondWrite.length = 16 := by
    rw [secondWrite, List.length_take, List.length_drop, firstStart_length]
    rfl
  have room : firstFile.contents.length + ((lineOf firstStart.toJson).length + 1) ≤ maxSchedulerJournalBytes := by
    rw [firstFile, record_length, firstStart_length]
    decide
  exact appended_killed firstStart_parsed firstStart_small split first second record_committed record_readable room

theorem torn_survives : Survives tornFile leftover := by
  refine ⟨record ++ firstWrite, ?_, record ++ firstWrite ++ secondWrite, ?_, List.prefix_append _ _, ?_⟩
  · exact List.mem_cons_of_mem _ List.mem_cons_self
  · exact List.mem_cons_self
  · exact (List.prefix_append_right_inj _).mpr (List.take_prefix 4 secondWrite)

theorem tornStart_careful : Run (Guarded Careful Step) ⟨none, []⟩ tornStart tornState := by
  have returned := @Step.returned ⟨none, []⟩ _ _ _ _ _ _ firstStart_parsed first_append
  have first : Guarded Careful Step ⟨none, []⟩ (.append firstStart.toJson calm large true)
    ⟨some firstFile, [firstStart]⟩ :=
    ⟨fun _ => Or.inl (by rw [first_append]), returned⟩
  have died := @Step.died ⟨some firstFile, [firstStart]⟩ _ _ _ _ _ second_append
  have second : Guarded Careful Step ⟨some firstFile, [firstStart]⟩ (.append firstStart.toJson killed narrow true)
      ⟨some tornFile, [firstStart]⟩ := ⟨fun absent => (nomatch absent), died⟩
  have third : Guarded Careful Step ⟨some tornFile, [firstStart]⟩ (.powerFailure leftover) tornState :=
    ⟨trivial, .powerFailure rfl torn_survives⟩
  exact ((Run.single first).snoc second).snoc third

theorem tornStart_run : Run Step ⟨none, []⟩ tornStart tornState := by
  have run := @Run.relabel _ _ (Guarded Careful Step) _ Step id _ _ _ (fun _ _ _ taken => taken.2) tornStart_careful
  rwa [List.map_id] at run

end TornTail

section Promises

variable {s : State} {labels : List Label} {value : Json} {event : Event} {chunk : Nat → Nat}

/-- Whatever fails or dies, the journal can be read: it has events that appends were given, in their order, and among
them all whose append has returned, unless the directory has lost the file. -/
theorem journal_durable (run : Run Step ⟨none, []⟩ labels s) :
    ∃ events, readJournal s.file = .ok events ∧ events.Sublist (asked labels) ∧
      (Label.entryLost ∉ labels → s.acknowledged.Sublist events) ∧
      ∀ faults chunk regular, ∃ w, w.state.file = s.file ∧
        (readEvents ⟨⟨s.file, chunk, regular⟩, faults, 0⟩ = (.returned events, w) ∨
          readEvents ⟨⟨s.file, chunk, regular⟩, faults, 0⟩ = (.threw .directoryUnavailable, w) ∨
          readEvents ⟨⟨s.file, chunk, regular⟩, faults, 0⟩ = (.threw .readFailed, w) ∨
          readEvents ⟨⟨s.file, chunk, regular⟩, faults, 0⟩ = (.died, w)) := by
  obtain ⟨durable, lines, recorded⟩ := run_recorded run
  have answer := recorded.readJournal
  refine ⟨eventsOf lines, answer, recorded.asked, ?_, ?_⟩
  · intro listed
    exact (recorded.acknowledged listed).trans (eventsOf_leads recorded.kept.leads)
  · intro faults chunk regular
    have reads := readEvents_reads answer ⟨⟨s.file, chunk, regular⟩, faults, 0⟩ rfl
    rcases ended : readEvents ⟨⟨s.file, chunk, regular⟩, faults, 0⟩ with ⟨got | error | _, w⟩ <;> rw [ended] at reads
    · obtain ⟨rfl, same⟩ := reads
      exact ⟨w, same, Or.inl rfl⟩
    · obtain ⟨rfl | rfl, same⟩ := reads
      · exact ⟨w, same, Or.inr (Or.inl rfl)⟩
      · exact ⟨w, same, Or.inr (Or.inr (Or.inl rfl))⟩
    · exact ⟨w, reads, Or.inr (Or.inr (Or.inr rfl))⟩

theorem tornStart_durable : ∃ events, readJournal tornState.file = .ok events ∧ events.Sublist (asked tornStart) ∧
    [firstStart].Sublist events := by
  obtain ⟨events, readable, given, acknowledged, _⟩ := journal_durable tornStart_run
  exact ⟨events, readable, given, acknowledged (by simp [tornStart])⟩

/-- Whatever has failed before, an append that nothing disturbs returns, and its event is the last one that is
read. -/
theorem append_recovers (run : Run Step ⟨none, []⟩ labels s) (parsed : parseEvent (serialize value) = .ok event)
    (small : (lineOf value).length + 1 ≤ maxSchedulerEventBytes)
    (room : (committed newline (contentsOf s.file)).length + ((lineOf value).length + 1) ≤ maxSchedulerJournalBytes)
    (positive : ∀ position, 1 ≤ chunk position) :
    ∃ events w, readJournal s.file = .ok events ∧
      appended value (fun _ => .none) chunk true s.file = (.returned (), w) ∧
      readJournal w.state.file = .ok (events ++ [event]) := by
  obtain ⟨durable, lines, recorded⟩ := run_recorded run
  obtain ⟨w, done⟩ := appended_calm recorded parsed small room positive
  have stands : Stands false durable lines ⟨s.file, chunk, true⟩ := ⟨recorded.kept, by simp⟩
  have kept := (appended_returned stands done).1
  have later := @Recorded.more s ⟨w.state.file,
    []⟩ labels durable lines value (fun _ => .none) chunk true event _ recorded
    parsed kept fun _ => List.nil_sublist _
  have answer := later.readJournal
  rw [eventsOf, List.filterMap_append, List.filterMap_cons_some (parseLine_line parsed)] at answer
  exact ⟨eventsOf lines, w, recorded.readJournal, done, answer⟩

/-- The append cuts off the torn tail that the killed one has left. -/
theorem tornStart_recovers : committed newline leftover ≠ leftover ∧
    ∃ events w, readJournal tornState.file = .ok events ∧
      appended firstStart.toJson (fun _ => .none) narrow true tornState.file = (.returned (), w) ∧
      readJournal w.state.file = .ok (events ++ [firstStart]) := by
  have cut : committed newline leftover ≠ leftover := by
    intro same
    have longer : leftover.length = record.length := by rw [← same, leftover_committed]
    have written : firstWrite.length = 16 := by
      rw [firstWrite, List.length_take, firstStart_length]
      rfl
    simp only [leftover, List.length_append, written] at longer
    omega
  have room : (committed newline (contentsOf tornState.file)).length + ((lineOf firstStart.toJson).length + 1) ≤
      maxSchedulerJournalBytes := by
    have contents : contentsOf tornState.file = leftover := rfl
    rw [contents, leftover_committed, record_length, firstStart_length]
    decide
  exact ⟨cut, append_recovers tornStart_run firstStart_parsed firstStart_small room fun _ =>
    Nat.le_of_ble_eq_true rfl⟩

end Promises

end PublicLighting.BackupScheduler.JournalFile
