import PublicLighting.BackupScheduler.JournalRecords
import PublicLighting.Foundations.Effects
import PublicLighting.Foundations.RecordLog
import PublicLighting.Foundations.Runs

/-! The file of the scheduler's journal: `readEvents` and `append`, whose every await may fail or be the
last thing the process does, and what a power failure leaves of the file. -/

namespace PublicLighting.BackupScheduler.JournalFile

open Foundations Foundations.RecordLog
open Foundations.WireText (utf8)
open Program (Fault Scheduled await)
open Records (Event RecordError parseEvent byteLength maxSchedulerEventBytes)

abbrev Bytes := List UInt8

def newline : UInt8 := 0x0A

def maxSchedulerJournalBytes : Nat := 16 * 1024 * 1024

inductive JournalError
  | record (error : RecordError)
  | directoryUnavailable
  | permissionsInvalid
  | eventSizeLimit
  | sizeLimit
  | corrupt
  | readFailed
  | shortWrite
  | io
  | appendFailed
  deriving DecidableEq, Repr

/-- `since` has what the file held when it was last synced and after each change since then; `entry` is
whether the directory is synced with the file in it. -/
structure File where
  contents : Bytes
  since : List Bytes
  entry : Bool
  deriving DecidableEq

/-- `chunk` is how many bytes the system takes in one write, from each position on; `regular` is whether
the path is a file of mode 600. -/
structure Disk where
  file : Option File
  chunk : Nat → Nat
  regular : Bool

abbrev Task (α : Type) := Program (Scheduled Disk) JournalError α

/-- `toString('utf8')`, of bytes that are a text. -/
def decodeUtf8 (bytes : Bytes) : Option String := String.fromUTF8? bytes.toByteArray

def parseLine (line : Bytes) : Option Event := (decodeUtf8 line).bind fun text => (parseEvent text).toOption

def parseCommittedRecords (contents : Bytes) : Except JournalError (List Event) :=
  ((split newline contents).mapM parseLine).elim (.error .corrupt) .ok

/-- What `readEvents` answers when nothing fails. -/
def readJournal (file : Option File) : Except JournalError (List Event) :=
  match file with
  | none => .ok []
  | some file =>
      if maxSchedulerJournalBytes < file.contents.length then .error .sizeLimit else parseCommittedRecords file.contents

section Calls

/-- A call that changes nothing; it answers from the disk as it is. -/
def ask {α : Type} (error : JournalError) (answer : Disk → Except JournalError α) : Task α :=
  await error id id fun disk => (answer disk, disk)

def change (effect : File → File) : Task Unit :=
  await .io id id fun disk => (.ok (), { disk with file := disk.file.map effect })

def ensureDirectory : Task Unit := ask .directoryUnavailable fun _ => .ok ()

/-- `lstat`, where `ENOENT` is no failure. -/
def isMissing : Task Bool := ask .io fun disk => .ok disk.file.isNone

/-- `O_RDWR | O_CREAT`. -/
def openFile : Task Unit :=
  await .io id id fun disk => (.ok (), { disk with file := some (disk.file.getD ⟨[], [[]], false⟩) })

def stat : Task Unit := ask .io fun disk => if disk.regular then .ok () else .error .permissionsInvalid

def readFile : Task Bytes := ask .io fun disk => .ok ((disk.file.map (·.contents)).getD [])

def File.hold (file : File) (contents : Bytes) : File :=
  { file with contents := contents, since := contents :: file.since }

def truncate (length : Nat) : Task Unit := change fun file => file.hold (file.contents.take length)

def syncFile : Task Unit := change fun file => { file with since := [file.contents] }

def syncDirectory : Task Unit := change fun file => { file with entry := true }

def pwrite (contents : Bytes) (position : Nat) (data : Bytes) : Bytes :=
  contents.take position ++ data ++ contents.drop (position + data.length)

/-- `handle.write`, which answers how many bytes it has written. -/
def write (position : Nat) (left : Bytes) : Task Nat :=
  await .io id id fun disk =>
    let data := left.take (disk.chunk position)
    (.ok data.length, { disk with file := disk.file.map fun file => file.hold (pwrite file.contents position data) })

/-- The loop of the writes; there are at most as many as bytes. -/
def writeAll (position : Nat) : Nat → Bytes → Task Unit
  | 0, _ => pure ()
  | fuel + 1, left =>
    if left = [] then pure ()
    else do
      let written ← write position left
      if written < 1 then Program.throw .shortWrite
      else writeAll (position + written) fuel (left.drop written)

end Calls

section Journal

/-- `readEvents`. Its `catch` knows a missing file from the other failures. -/
def readEvents : Task (List Event) := do
  ensureDirectory
  let file ← ask .readFailed fun disk =>
    if disk.file.isSome && !disk.regular then .error .readFailed else .ok disk.file
  match readJournal file with
  | .ok events => pure events
  | .error error => Program.throw error

def serialize (value : Json) : String := Json.stringify value

/-- The bytes of the record, without its newline. -/
def lineOf (value : Json) : Bytes := utf8 (serialize value).toList

def repairTail (contents : Bytes) : Task Unit :=
  if (committed newline contents).length ≠ contents.length then do
    truncate (committed newline contents).length
    syncFile
    syncDirectory
  else pure ()

/-- The write behind the committed records, and what makes it durable. -/
def commit (created : Bool) (position : Nat) (data : Bytes) : Task Unit := do
  writeAll position data.length data
  syncFile
  if created then syncDirectory else pure ()

/-- What `append` does with the contents that it has read. -/
def appendTo (value : Json) (created : Bool) (contents : Bytes) : Task Unit :=
  if maxSchedulerJournalBytes < contents.length then Program.throw .sizeLimit
  else match parseCommittedRecords (committed newline contents) with
    | .error error => Program.throw error
    | .ok _ => do
      repairTail contents
      if maxSchedulerJournalBytes < (committed newline contents).length + ((lineOf value).length + 1) then
        Program.throw .sizeLimit
      else commit created (committed newline contents).length (lineOf value ++ [newline])

/-- `chmod` and `stat` of the open file. -/
def secure : Task Unit := do
  ask .io fun _ => .ok ()
  stat

def appendBody (value : Json) : Task Unit := do
  let created ← isMissing
  openFile
  secure
  if maxSchedulerEventBytes < (lineOf value).length + 1 then Program.throw .eventSizeLimit
  else do
    let contents ← readFile
    appendTo value created contents

def rethrown : JournalError → JournalError
  | .eventSizeLimit => .eventSizeLimit
  | .sizeLimit => .sizeLimit
  | .permissionsInvalid => .permissionsInvalid
  | _ => .appendFailed

/-- `append`, of any value that is stringified. -/
def append (value : Json) : Task Unit := do
  ensureDirectory
  match parseEvent (serialize value) with
  | .error error => Program.throw (.record error)
  | .ok _ =>
    Program.ending (Program.catching (appendBody value) fun error => Program.throw (rethrown error))
      (ask .io fun _ => .ok ())

end Journal

/-! The journal in the hands of its scheduler, which runs one append at a time. -/

/-- `acknowledged` has the events whose append has returned. -/
structure State where
  file : Option File
  acknowledged : List Event

inductive Label
  | append (value : Json) (faults : Nat → Fault) (chunk : Nat → Nat) (regular : Bool)
  | powerFailure (kept : Bytes)
  | entryLost

/-- What a power failure may leave: a part of a change that was not synced is done. -/
def Survives (file : File) (kept : Bytes) : Prop :=
  ∃ one ∈ file.since, ∃ other ∈ file.since, one <+: kept ∧ kept <+: other

def appended (value : Json) (faults : Nat → Fault) (chunk : Nat → Nat) (regular : Bool) (file : Option File) :
    Outcome JournalError Unit × Scheduled Disk :=
  append value ⟨⟨file, chunk, regular⟩, faults, 0⟩

inductive Step : State → Label → State → Prop
  | returned {s : State} {value : Json} {faults : Nat → Fault} {chunk : Nat → Nat} {regular : Bool}
      {w : Scheduled Disk}
      {event : Event} (parsed : parseEvent (serialize value) = .ok event)
      (done : appended value faults chunk regular s.file = (.returned (), w)) :
      Step s (.append value faults chunk regular) ⟨w.state.file, s.acknowledged ++ [event]⟩
  | threw {s : State} {value : Json} {faults : Nat → Fault} {chunk : Nat → Nat} {regular : Bool} {w : Scheduled Disk}
      {error : JournalError} (failed : appended value faults chunk regular s.file = (.threw error, w)) :
      Step s (.append value faults chunk regular) ⟨w.state.file, s.acknowledged⟩
  | died {s : State} {value : Json} {faults : Nat → Fault} {chunk : Nat → Nat} {regular : Bool} {w : Scheduled Disk}
      (ended : appended value faults chunk regular s.file = (.died, w)) :
      Step s (.append value faults chunk regular) ⟨w.state.file, s.acknowledged⟩
  | powerFailure {s : State} {file : File} {kept : Bytes} (present : s.file = some file)
      (survives : Survives file kept) :
      Step s (.powerFailure kept) ⟨some ⟨kept, [kept], file.entry⟩, s.acknowledged⟩
  | entryLost {s : State} {file : File} (present : s.file = some file) (unsynced : file.entry = false) :
      Step s .entryLost ⟨none, s.acknowledged⟩

end PublicLighting.BackupScheduler.JournalFile
