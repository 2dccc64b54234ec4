import PublicLighting.BackupScheduler.JournalFile

/-! The journal across failing calls, deaths of the process and power failures: it stays readable, and an event whose
append has returned stays in it as long as the directory has the file. -/

namespace PublicLighting.BackupScheduler.JournalFile

open Foundations Foundations.RecordLog
open Foundations.WireText (utf8)
open Program (Fault Scheduled await Triple On)
open Records (Event parseEvent maxSchedulerEventBytes)

section Lines

theorem newline_byte {byte : Nat} (above : 0x0A < byte) (below : byte < 0x100) : newline ≠ UInt8.ofNat byte := by
  intro same
  have values := congrArg UInt8.toNat same
  rw [UInt8.toNat_ofNat_of_lt' below] at values
  exact absurd values (Nat.ne_of_lt above)

theorem newline_encode {c : Char} (visible : 0x20 ≤ c.toNat) : newline ∉ String.utf8EncodeChar c := by
  have same : c.val.toNat = c.toNat := rfl
  have tail : ∀ {n : Nat}, newline ≠ UInt8.ofNat (n % 0x40 + 0x80) := newline_byte (by omega) (by omega)
  unfold String.utf8EncodeChar
  simp only [same]
  split
  · simpa only [List.mem_singleton] using newline_byte (by omega) (by omega)
  · split
    · simp only [List.mem_cons, List.not_mem_nil, or_false, not_or]
      exact ⟨newline_byte (by omega) (by omega), tail⟩
    · split
      · simp only [List.mem_cons, List.not_mem_nil, or_false, not_or]
        exact ⟨newline_byte (by omega) (by omega), tail, tail⟩
      · simp only [List.mem_cons, List.not_mem_nil, or_false, not_or]
        exact ⟨newline_byte (by omega) (by omega), tail, tail, tail⟩

theorem newline_utf8 {text : List Char} (printable : Doubles.Printable text) : newline ∉ utf8 text := by
  intro member
  obtain ⟨c, inside, byte⟩ := List.mem_flatMap.mp member
  exact newline_encode (printable c inside) byte

theorem newline_line (value : Json) : newline ∉ lineOf value := by
  rw [lineOf, serialize, Json.stringify, String.toList_ofList]
  exact newline_utf8 (Json.write_printable value)

theorem decode_utf8 (text : List Char) : decodeUtf8 (utf8 text) = some (String.ofList text) := by
  have bytes : (utf8 text).toByteArray = (String.ofList text).toByteArray := by simp [utf8, List.utf8Encode]
  rw [decodeUtf8, bytes, String.fromUTF8?, dif_pos (String.ofList text).isValidUTF8]
  rfl

theorem parseLine_line {value : Json} {event : Event} (parsed : parseEvent (serialize value) = .ok event) :
    parseLine (lineOf value) = some event := by
  rw [parseLine, lineOf, decode_utf8, String.ofList_toList, Option.bind_some, parsed]
  rfl

end Lines

section Files

variable {durable lines earlier : List Bytes} {line part base contents : Bytes} {file : File}

/-- The file holds these lines, and a power failure now leaves the durable ones at least. -/
structure Keeps (durable lines : List Bytes) (file : File) : Prop where
  holds : Holds newline file.contents lines
  fits : file.contents.length ≤ maxSchedulerJournalBytes
  leads : durable <+: lines
  since : ∀ old ∈ file.since, old.length ≤ maxSchedulerJournalBytes ∧
    ∃ kept, Holds newline old kept ∧ durable <+: kept ∧ kept <+: lines

theorem Keeps.created : Keeps [] [] ⟨[], [[]], false⟩ where
  holds := Holds.nil
  fits := Nat.zero_le _
  leads := List.nil_prefix
  since := by
    intro old member
    rw [List.mem_singleton.mp member]
    exact ⟨Nat.zero_le _, [], Holds.nil, List.nil_prefix, List.nil_prefix⟩

theorem Keeps.weaken (keeps : Keeps durable lines file) (less : earlier <+: durable) : Keeps earlier lines file where
  holds := keeps.holds
  fits := keeps.fits
  leads := less.trans keeps.leads
  since := by
    intro old member
    obtain ⟨small, kept, held, above, below⟩ := keeps.since old member
    exact ⟨small, kept, held, less.trans above, below⟩

theorem Keeps.hold {more : List Bytes} (keeps : Keeps durable lines file) (grown : lines <+: more)
    (holds : Holds newline contents more) (fits : contents.length ≤ maxSchedulerJournalBytes) :
    Keeps durable more (file.hold contents) where
  holds := holds
  fits := fits
  leads := keeps.leads.trans grown
  since := by
    intro old member
    rcases List.mem_cons.mp member with rfl | earlier
    · exact ⟨fits, more, holds, keeps.leads.trans grown, List.prefix_refl _⟩
    · obtain ⟨small, kept, held, above, below⟩ := keeps.since old earlier
      exact ⟨small, kept, held, above, below.trans grown⟩

theorem Keeps.sync (keeps : Keeps durable lines file) :
    Keeps lines lines { file with since := [file.contents] } where
  holds := keeps.holds
  fits := keeps.fits
  leads := List.prefix_refl _
  since := by
    intro old member
    rw [List.mem_singleton.mp member]
    exact ⟨keeps.fits, lines, keeps.holds, List.prefix_refl _, List.prefix_refl _⟩

theorem Keeps.entered (keeps : Keeps durable lines file) : Keeps durable lines { file with entry := true } :=
  ⟨keeps.holds, keeps.fits, keeps.leads, keeps.since⟩

theorem Keeps.repaired (keeps : Keeps durable lines file) :
    Keeps durable lines (file.hold (committed newline file.contents)) := by
  have leads : committed newline file.contents <+: file.contents := committed_leads file.contents
  exact keeps.hold (List.prefix_refl _) keeps.holds.repaired (leads.length_le.trans keeps.fits)

/-- What a power failure leaves is between two contents since the last sync. -/
theorem Keeps.survives {kept : Bytes} {entry : Bool} (keeps : Keeps durable lines file)
    (survives : Survives file kept) :
    ∃ left, durable <+: left ∧ left <+: lines ∧ Keeps left left ⟨kept, [kept], entry⟩ := by
  obtain ⟨one, first, other, second, above, below⟩ := survives
  obtain ⟨_, fewer, heldFewer, durableLeads, _⟩ := keeps.since one first
  obtain ⟨small, more, heldMore, _, moreLeads⟩ := keeps.since other second
  obtain ⟨left, leftLeads, held⟩ := heldMore.cut below
  have fits := below.length_le.trans small
  refine ⟨left, durableLeads.trans (heldFewer.leads held above), leftLeads.trans moreLeads, held, fits,
    List.prefix_refl _, ?_⟩
  intro old member
  rw [List.mem_singleton.mp member]
  exact ⟨fits, left, held, List.prefix_refl _, List.prefix_refl _⟩

def written (lines : List Bytes) (line part : Bytes) : List Bytes :=
  if part = line ++ [newline] then lines ++ [line] else lines

theorem lines_written : lines <+: written lines line part := by
  unfold written
  split
  · exact List.prefix_append _ _
  · exact List.prefix_refl _

theorem written_mono {data : Bytes} (cut : part ++ data <+: line ++ [newline]) :
    written lines line part <+: written lines line (part ++ data) := by
  by_cases whole : part = line ++ [newline]
  · have none : data = [] := by
      have short := cut.length_le
      rw [whole, List.length_append] at short
      exact List.length_eq_zero_iff.mp (by omega)
    simp only [none, List.append_nil, List.prefix_refl]
  · rw [written, if_neg whole]
    exact lines_written

theorem holds_written (held : Holds newline base lines) (same : base = frame newline lines) (clean : newline ∉ line)
    (cut : part <+: line ++ [newline]) : Holds newline (base ++ part) (written lines line part) := by
  have whole := held.write clean cut
  rw [held.committed, ← same] at whole
  rcases whole with ⟨rfl, full⟩ | ⟨short, torn⟩
  · rwa [written, if_pos rfl]
  · have unfinished : part ≠ line ++ [newline] := fun full => short (by simp [full])
    rwa [written, if_neg unfinished]

end Files

section Calls

variable {α : Type} {entered : Bool} {durable later lines : List Bytes} {line part contents : Bytes} {disk : Disk}
  {before rest : Disk → Prop} {p q : File → Prop}

def Has (p : File → Prop) (disk : Disk) : Prop := ∃ file, disk.file = some file ∧ p file

def Kept (durable lines : List Bytes) : Option File → Prop
  | none => durable = [] ∧ lines = []
  | some file => Keeps durable lines file

/-- The directory has the file for good, if it had it when the append started. -/
def Stands (entered : Bool) (durable lines : List Bytes) (disk : Disk) : Prop :=
  Kept durable lines disk.file ∧ (entered = true → disk.file.any (·.entry) = true)

/-- `Stands` for a file that is there. -/
structure Holding (entered : Bool) (durable lines : List Bytes) (file : File) : Prop where
  keeps : Keeps durable lines file
  entry : entered = true → file.entry = true

def Reading (entered : Bool) (durable lines : List Bytes) (contents : Bytes) (file : File) : Prop :=
  Holding entered durable lines file ∧ file.contents = contents

/-- What an append leaves that has not returned. -/
def Rests (entered : Bool) (durable lines : List Bytes) (line : Bytes) (disk : Disk) : Prop :=
  Stands entered durable lines disk ∨ Stands entered durable (lines ++ [line]) disk

/-- The program leaves the same behind however it fails. -/
abbrev Does (rest before : Disk → Prop) (program : Task α) (after : α → Disk → Prop) : Prop :=
  Triple (On before) program (fun value => On (after value)) (fun _ => On rest) (On rest)

theorem Has.stands (has : Has (Holding entered later lines) disk) (leads : durable <+: later) :
    Stands entered durable lines disk := by
  obtain ⟨file, here, holding⟩ := has
  rw [Stands, here]
  exact ⟨holding.keeps.weaken leads, holding.entry⟩

theorem Has.rests (has : Has (Holding entered later (written lines line part)) disk) (leads : durable <+: later) :
    Rests entered durable lines line disk := by
  have stands := has.stands leads
  unfold written at stands
  split at stands
  · exact Or.inr stands
  · exact Or.inl stands

theorem Has.relax {known : Bool} (has : Has (Holding (known || entered) durable lines) disk) :
    Has (Holding entered durable lines) disk := by
  obtain ⟨file, here, keeps, entry⟩ := has
  exact ⟨file, here, keeps, fun was => entry (by rw [was, Bool.or_true])⟩

theorem Has.holding (has : Has (Reading entered durable lines contents) disk) :
    Has (Holding entered durable lines) disk := by
  obtain ⟨file, here, holding, _⟩ := has
  exact ⟨file, here, holding⟩

theorem ask_answers {error : JournalError} {answer : Disk → Except JournalError α} {after : α → Disk → Prop}
    {failed : JournalError → Disk → Prop} {dead : Disk → Prop}
    (answered : ∀ disk value, before disk → answer disk = .ok value → after value disk)
    (raised : ∀ disk raised, before disk → answer disk = .error raised → failed raised disk)
    (refused : ∀ disk, before disk → failed error disk) (stays : ∀ disk, before disk → dead disk) :
    Triple (On before) (ask error answer) (fun value => On (after value)) (fun error => On (failed error))
      (On dead) := by
  refine Triple.await ?_ ?_ (fun disk => refused disk) (fun disk => refused disk) (fun disk => stays disk)
    (fun disk => stays disk)
  · intro disk value disk' here ended
    obtain ⟨given, rfl⟩ := Prod.mk.inj ended
    exact answered disk value here given
  · intro disk error disk' here ended
    obtain ⟨given, rfl⟩ := Prod.mk.inj ended
    exact raised disk error here given

theorem ask_does {error : JournalError} {answer : Disk → Except JournalError α} {after : α → Disk → Prop}
    (answered : ∀ disk value, before disk → answer disk = .ok value → after value disk)
    (stays : ∀ disk, before disk → rest disk) : Does rest before (ask error answer) after :=
  ask_answers answered (fun disk _ here _ => stays disk here) stays stays

theorem change_does {effect : File → File} (changes : ∀ file, p file → q (effect file))
    (early : ∀ disk, Has p disk → rest disk) (late : ∀ disk, Has q disk → rest disk) :
    Does rest (Has p) (change effect) (fun _ => Has q) := by
  have done : ∀ disk, Has p disk → Has q { disk with file := disk.file.map effect } := by
    intro disk ⟨file, here, holds⟩
    exact ⟨effect file, by rw [here]; rfl, changes file holds⟩
  refine Triple.await ?_ ?_ early (fun disk here => late _ (done disk here)) early
    (fun disk here => late _ (done disk here))
  · intro disk _ disk' here ended
    obtain ⟨_, rfl⟩ := Prod.mk.inj ended
    exact done disk here
  · intro disk _ disk' _ ended
    exact absurd (Prod.mk.inj ended).1 (by simp)

end Calls

section Append

variable {entered : Bool} {durable lines : List Bytes} {line part base contents : Bytes} {position fuel : Nat}

theorem isMissing_does {missing : Bool} :
    Does (Rests entered durable lines line)
      (fun disk => Stands entered durable lines disk ∧ disk.file.isNone = missing)
      isMissing (fun created disk => Stands entered durable lines disk ∧ created = missing) := by
  refine ask_does ?_ fun disk here => Or.inl here.1
  intro disk created ⟨here, absent⟩ answer
  exact ⟨here, by rw [← Except.ok.inj answer, absent]⟩

theorem openFile_does : Does (Rests entered durable lines line) (Stands entered durable lines) openFile
    (fun _ => Has (Holding entered durable lines)) := by
  have opened : ∀ disk, Stands entered durable lines disk →
      Has (Holding entered durable lines) { disk with file := some (disk.file.getD ⟨[], [[]], false⟩) } := by
    intro disk ⟨kept, synced⟩
    refine ⟨_, rfl, ?_⟩
    cases here : disk.file with
    | none =>
        rw [here] at kept synced
        obtain ⟨rfl, rfl⟩ := kept
        exact ⟨Keeps.created, fun was => absurd (synced was) (by simp)⟩
    | some file =>
        rw [here] at kept synced
        exact ⟨kept, synced⟩
  refine Triple.await ?_ ?_ (fun disk here => Or.inl here)
    (fun disk here => Or.inl ((opened disk here).stands (List.prefix_refl _)))
    (fun disk here => Or.inl here) (fun disk here => Or.inl ((opened disk here).stands (List.prefix_refl _)))
  · intro disk _ disk' here ended
    obtain ⟨_, rfl⟩ := Prod.mk.inj ended
    exact opened disk here
  · intro disk _ disk' _ ended
    exact absurd (Prod.mk.inj ended).1 (by simp)

theorem repairTail_does : Does (Rests entered durable lines line) (Has (Reading entered durable lines contents))
    (repairTail contents) (fun _ => Has (Reading entered durable lines (committed newline contents))) := by
  have stays : ∀ {later : List Bytes} {text : Bytes}, durable <+: later →
      ∀ disk, Has (Reading entered later lines text) disk → Rests entered durable lines line disk :=
    fun leads disk has => Or.inl (has.holding.stands leads)
  have leads : committed newline contents <+: contents := committed_leads contents
  unfold repairTail
  split
  · have cut : Does (Rests entered durable lines line) (Has (Reading entered durable lines contents))
        (truncate (committed newline contents).length)
        (fun _ => Has (Reading entered durable lines (committed newline contents))) := by
      refine change_does ?_ (stays (List.prefix_refl _)) (stays (List.prefix_refl _))
      intro file ⟨holding, same⟩
      have taken : file.contents.take (committed newline contents).length = committed newline contents := by
        rw [same]
        exact (List.prefix_iff_eq_take.mp leads).symm
      rw [taken, ← same]
      exact ⟨⟨holding.keeps.repaired, holding.entry⟩, rfl⟩
    have synced : Does (Rests entered durable lines line)
      (Has (Reading entered durable lines (committed newline contents)))
        syncFile (fun _ => Has (Reading entered durable lines (committed newline contents))) := by
      refine change_does ?_ (stays (List.prefix_refl _)) (stays (List.prefix_refl _))
      intro file ⟨holding, same⟩
      exact ⟨⟨holding.keeps.sync.weaken holding.keeps.leads, holding.entry⟩, same⟩
    have listed : Does (Rests entered durable lines line)
      (Has (Reading entered durable lines (committed newline contents)))
        syncDirectory (fun _ => Has (Reading entered durable lines (committed newline contents))) := by
      refine change_does ?_ (stays (List.prefix_refl _)) (stays (List.prefix_refl _))
      intro file ⟨holding, same⟩
      exact ⟨⟨holding.keeps.entered, fun _ => rfl⟩, same⟩
    exact cut.bind fun _ => synced.bind fun _ => listed
  · rename_i same
    rw [leads.eq_of_length (not_not.mp same)]
    exact Triple.pure fun _ here => here

def Writing (entered : Bool) (durable lines : List Bytes) (line base part : Bytes) : File → Prop :=
  Reading entered durable (written lines line part) (base ++ part)

theorem pwrite_end (contents data : Bytes) : pwrite contents contents.length data = contents ++ data := by
  rw [pwrite, List.take_length, List.drop_eq_nil_of_le (Nat.le_add_right _ _), List.append_nil]

theorem Writing.rests {disk : Disk} (has : Has (Writing entered durable lines line base part) disk) :
    Rests entered durable lines line disk := has.holding.rests (List.prefix_refl _)

theorem write_does {left : Bytes} (held : Holds newline base lines) (same : base = frame newline lines)
    (clean : newline ∉ line) (fits : base.length + (line.length + 1) ≤ maxSchedulerJournalBytes)
    (whole : part ++ left = line ++ [newline]) :
    Does (Rests entered durable lines line) (Has (Writing entered durable lines line base part))
      (write (base.length + part.length) left)
      (fun count disk => count ≤ left.length ∧
        Has (Writing entered durable lines line base (part ++ left.take count)) disk) := by
  have grown : ∀ count file, Writing entered durable lines line base part file →
      Writing entered durable lines line base (part ++ left.take count)
        (file.hold (pwrite file.contents (base.length + part.length) (left.take count))) := by
    intro count file ⟨holding, now⟩
    have cut : part ++ left.take count <+: line ++ [newline] := by
      rw [← whole]
      exact (List.prefix_append_right_inj part).mpr (List.take_prefix count left)
    have small : (base ++ (part ++ left.take count)).length ≤ maxSchedulerJournalBytes := by
      have short := cut.length_le
      simp only [List.length_append, List.length_singleton] at short ⊢
      omega
    have ended : pwrite file.contents (base.length + part.length) (left.take count) = base ++
      (part ++ left.take count) := by
      rw [← List.length_append, ← now, pwrite_end, now, List.append_assoc]
    rw [ended]
    exact ⟨⟨holding.keeps.hold (written_mono cut) (holds_written held same clean cut) small, holding.entry⟩, rfl⟩
  have after : ∀ disk, Has (Writing entered durable lines line base part) disk →
      Has (Writing entered durable lines line base (part ++ left.take (disk.chunk (base.length + part.length))))
        { disk with file := disk.file.map fun file =>
            file.hold (pwrite file.contents (base.length + part.length)
              (left.take (disk.chunk (base.length + part.length)))) } := by
    intro disk ⟨file, here, writing⟩
    exact ⟨_, by rw [here]; rfl, grown _ file writing⟩
  refine Triple.await ?_ ?_ (fun _ here => Writing.rests here) (fun disk here => Writing.rests (after disk here))
    (fun _ here => Writing.rests here) (fun disk here => Writing.rests (after disk here))
  · intro disk count disk' here ended
    obtain ⟨number, rfl⟩ := Prod.mk.inj ended
    have count_eq := Except.ok.inj number
    have taken : left.take count = left.take (disk.chunk (base.length + part.length)) := by
      rw [← count_eq, List.length_take, ← List.take_eq_take_min]
    rw [taken]
    refine ⟨?_, after disk here⟩
    rw [← count_eq]
    exact List.length_take_le' _ _
  · intro disk _ disk' _ ended
    exact absurd (Prod.mk.inj ended).1 (by simp)

theorem writeAll_does {left : Bytes} (held : Holds newline base lines) (same : base = frame newline lines)
    (clean : newline ∉ line) (fits : base.length + (line.length + 1) ≤ maxSchedulerJournalBytes)
    (whole : part ++ left = line ++ [newline]) (enough : left.length ≤ fuel) :
    Does (Rests entered durable lines line) (Has (Writing entered durable lines line base part))
      (writeAll (base.length + part.length) fuel left)
      (fun _ => Has (Writing entered durable lines line base (line ++ [newline]))) := by
  induction fuel generalizing part left with
  | zero =>
      have none := List.length_eq_zero_iff.mp (Nat.le_zero.mp enough)
      rw [none, List.append_nil] at whole
      rw [← whole]
      exact Triple.pure fun _ here => here
  | succ fuel ih =>
      unfold writeAll
      split
      · rename_i none
        rw [none, List.append_nil] at whole
        rw [← whole]
        exact Triple.pure fun _ here => here
      · have one := @write_does entered durable lines line part base left held same clean fits whole
        refine one.bind fun count => ?_
        split
        · exact Triple.throw fun _ here => Writing.rests here.2
        · have more : count ≤ left.length → Does (Rests entered durable lines line)
              (Has (Writing entered durable lines line base (part ++ left.take count)))
              (writeAll (base.length + part.length + count) fuel (left.drop count))
              (fun _ => Has (Writing entered durable lines line base (line ++ [newline]))) := by
            intro within
            have onward : part ++ left.take count ++ left.drop count = line ++ [newline] := by
              rw [List.append_assoc, List.take_append_drop, whole]
            have place : base.length + part.length + count = base.length + (part ++ left.take count).length := by
              rw [List.length_append, List.length_take_of_le within, Nat.add_assoc]
            rw [place]
            exact ih onward (by rw [List.length_drop]; omega)
          exact (Triple.given more).weaken (fun _ here => ⟨here.2, here.1⟩) (fun _ _ here => here)
            (fun _ _ here => here) (fun _ here => here)

theorem written_whole : written lines line (line ++ [newline]) = lines ++ [line] := if_pos rfl

theorem commit_does {created : Bool} (leads : durable <+: lines) (held : Holds newline base lines)
    (same : base = frame newline lines)
    (clean : newline ∉ line) (fits : base.length + (line.length + 1) ≤ maxSchedulerJournalBytes) :
    Does (Rests entered durable lines line) (Has (Reading entered durable lines base))
      (commit created base.length (line ++ [newline]))
      (fun _ => Has (Holding (created || entered) (lines ++ [line]) (lines ++ [line]))) := by
  have nothing : written lines line [] = lines := if_neg (by simp)
  have wrote : Does (Rests entered durable lines line) (Has (Reading entered durable lines base))
      (writeAll base.length (line ++ [newline]).length (line ++ [newline]))
      (fun _ => Has (Writing entered durable lines line base (line ++ [newline]))) := by
    have all := @writeAll_does entered durable lines line [] base _ (line ++ [newline]) held same clean fits
      (List.nil_append _) (Nat.le_refl _)
    rw [Writing, nothing, List.append_nil] at all
    exact all
  have stays : ∀ {known : Bool} disk, Has (Holding (known || entered) (lines ++ [line]) (lines ++ [line])) disk →
      Rests entered durable lines line disk :=
    fun _ has => Or.inr (has.relax.stands (leads.trans (List.prefix_append _ _)))
  have synced : Does (Rests entered durable lines line)
    (Has (Writing entered durable lines line base (line ++ [newline])))
      syncFile (fun _ => Has (Holding (false || entered) (lines ++ [line]) (lines ++ [line]))) := by
    refine change_does ?_ (fun _ here => Writing.rests here) stays
    intro file ⟨holding, _⟩
    rw [written_whole] at holding
    exact ⟨holding.keeps.sync, holding.entry⟩
  refine wrote.bind fun _ => synced.bind fun _ => ?_
  cases created with
  | false => exact Triple.pure fun _ here => here
  | true =>
      refine change_does ?_ stays stays
      intro file holding
      exact ⟨holding.keeps.entered, fun _ => rfl⟩

theorem secure_does : Does (Rests entered durable lines line) (Has (Holding entered durable lines)) secure
    (fun _ => Has (Holding entered durable lines)) := by
  have stays : ∀ disk, Has (Holding entered durable lines) disk → Rests entered durable lines line disk :=
    fun disk has => Or.inl (has.stands (List.prefix_refl _))
  have chmod : Does (Rests entered durable lines line) (Has (Holding entered durable lines))
      (ask .io fun _ => .ok ()) (fun _ : Unit => Has (Holding entered durable lines)) :=
    ask_does (fun _ _ here _ => here) stays
  exact chmod.bind fun _ => ask_does (fun _ _ here _ => here) stays

theorem readFile_does : Does (Rests entered durable lines line) (Has (Holding entered durable lines)) readFile
    (fun contents => Has (Reading entered durable lines contents)) := by
  refine ask_does ?_ fun disk has => Or.inl (has.stands (List.prefix_refl _))
  intro disk contents ⟨file, here, holding⟩ answer
  rw [here] at answer
  exact ⟨file, here, holding, Except.ok.inj answer⟩

theorem appendTo_does {value : Json} {created : Bool} (leads : durable <+: lines) :
    Does (Rests entered durable lines (lineOf value)) (Has (Reading entered durable lines contents))
      (appendTo value created contents)
      (fun _ => Has (Holding (created || entered) (lines ++ [lineOf value]) (lines ++ [lineOf value]))) := by
  have stays : ∀ {text : Bytes} disk, Has (Reading entered durable lines text) disk →
      Rests entered durable lines (lineOf value) disk :=
        fun disk has => Or.inl (has.holding.stands (List.prefix_refl _))
  unfold appendTo
  split
  · exact Triple.throw fun w here => stays _ here
  · split
    · exact Triple.throw fun w here => stays _ here
    · refine Triple.bind (@repairTail_does entered durable lines (lineOf value) contents) fun _ => ?_
      split
      · exact Triple.throw fun w here => stays _ here
      · rename_i fits
        intro w here
        obtain ⟨file, present, holding, same⟩ := here
        have held := holding.keeps.holds
        have framed := held.committed
        rw [same] at held framed
        rw [committed_committed] at framed
        exact commit_does leads held framed (newline_line value)
          (Nat.not_lt.mp fits) w ⟨file, present, holding, same⟩

theorem appendBody_does {value : Json} {missing : Bool} (leads : durable <+: lines) :
    Does (Rests entered durable lines (lineOf value))
      (fun disk => Stands entered durable lines disk ∧ disk.file.isNone = missing) (appendBody value)
      (fun _ => Has (Holding (missing || entered) (lines ++ [lineOf value]) (lines ++ [lineOf value]))) := by
  have rest : ∀ created, created = missing →
    Does (Rests entered durable lines (lineOf value)) (Stands entered durable lines)
      (do
        openFile
        secure
        if maxSchedulerEventBytes < (lineOf value).length + 1 then Program.throw .eventSizeLimit
        else do
          let contents ← readFile
          appendTo value created contents)
      (fun _ => Has (Holding (missing || entered) (lines ++ [lineOf value]) (lines ++ [lineOf value]))) := by
    intro created same
    rw [← same]
    refine openFile_does.bind fun _ => secure_does.bind fun _ => ?_
    split
    · exact Triple.throw fun w has => Or.inl (has.stands (List.prefix_refl _))
    · exact readFile_does.bind fun contents => appendTo_does leads
  exact isMissing_does.bind fun created => Triple.given (rest created)

/-- What an append leaves: the line if it returns, the line or none if it does not. -/
theorem append_does {value : Json} {missing : Bool} (leads : durable <+: lines) :
    Does (Rests entered durable lines (lineOf value))
      (fun disk => Stands entered durable lines disk ∧ disk.file.isNone = missing) (append value)
      (fun _ => Stands (missing || entered) (lines ++ [lineOf value]) (lines ++ [lineOf value])) := by
  have ensured : Does (Rests entered durable lines (lineOf value))
      (fun disk => Stands entered durable lines disk ∧ disk.file.isNone = missing) ensureDirectory
      (fun _ disk => Stands entered durable lines disk ∧ disk.file.isNone = missing) :=
    ask_does (fun _ _ here _ => here) (fun _ here => Or.inl here.1)
  have closed : ∀ {after : Disk → Prop}, (∀ disk, after disk → Rests entered durable lines (lineOf value) disk) →
      Does (Rests entered durable lines (lineOf value)) after (ask .io fun _ => .ok ()) (fun _ : Unit => after) :=
    fun stays => ask_does (fun _ _ here _ => here) stays
  unfold append
  refine ensured.bind fun _ => ?_
  split
  · exact Triple.throw fun w here => Or.inl here.1
  · have body := @appendBody_does entered durable lines value missing leads
    have caught : Does (Rests entered durable lines (lineOf value))
        (fun disk => Stands entered durable lines disk ∧ disk.file.isNone = missing)
        (Program.catching (appendBody value) fun error => Program.throw (rethrown error))
        (fun _ => Has (Holding (missing || entered) (lines ++ [lineOf value]) (lines ++ [lineOf value]))) :=
      body.catching fun error => Triple.throw fun w here => here
    have ended := caught.ending
      (fun _ => closed fun disk has => Or.inr (has.relax.stands (leads.trans (List.prefix_append _ _))))
      (fun _ => closed fun disk rests => rests)
    exact ended.weaken (fun _ here => here) (fun _ _ has => has.stands (List.prefix_refl _)) (fun _ _ here => here)
      (fun _ here => here)

theorem append_rejects {value : Json} {error : Records.RecordError}
    (rejected : parseEvent (serialize value) = .error error)
    (before : Disk → Prop) :
    Triple (On before) (append value) (fun _ _ => False) (fun _ => On before) (On before) := by
  have ensured : Does before before ensureDirectory (fun _ => before) :=
    ask_does (fun _ _ here _ => here) fun _ here => here
  have thrown : Unit → Triple (On before) (Program.throw (.record error) : Task Unit) (fun _ _ => False)
      (fun _ => On before) (On before) := fun _ => Triple.throw fun _ here => here
  unfold append
  rw [rejected]
  exact ensured.bind thrown

end Append

section Runs

variable {s t : State} {labels : List Label} {label : Label} {durable lines : List Bytes} {file : Option File}

def eventsOf (lines : List Bytes) : List Event := lines.filterMap parseLine

def Label.asks : Label → Option Event
  | .append value _ _ _ => (parseEvent (serialize value)).toOption
  | _ => none

def asked (labels : List Label) : List Event := labels.filterMap Label.asks

/-- What is in the journal after these labels. -/
structure Recorded (labels : List Label) (s : State) (durable lines : List Bytes) : Prop where
  kept : Kept durable lines s.file
  readable : ∀ line ∈ lines, (parseLine line).isSome = true
  asked : (eventsOf lines).Sublist (asked labels)
  acknowledged : Label.entryLost ∉ labels → s.acknowledged.Sublist (eventsOf durable)

theorem Kept.leads (kept : Kept durable lines file) : durable <+: lines := by
  cases file with
  | none => simp [kept.1]
  | some file => exact Keeps.leads kept

theorem mapM_parse (readable : ∀ line ∈ lines, (parseLine line).isSome = true) :
    lines.mapM parseLine = some (eventsOf lines) := by
  induction lines with
  | nil => rfl
  | cons line lines ih =>
      obtain ⟨event, parsed⟩ := Option.isSome_iff_exists.mp (readable line List.mem_cons_self)
      rw [List.mapM_cons, parsed, ih fun other member => readable other (List.mem_cons_of_mem _ member),
        eventsOf, eventsOf,
        List.filterMap_cons_some parsed]
      rfl

theorem Recorded.readJournal (recorded : Recorded labels s durable lines) :
    readJournal s.file = .ok (eventsOf lines) := by
  have kept := recorded.kept
  unfold JournalFile.readJournal
  cases here : s.file with
  | none =>
      rw [here] at kept
      rw [kept.2]
      rfl
  | some file =>
      rw [here] at kept
      have keeps : Keeps durable lines file := kept
      simp only [if_neg (Nat.not_lt.mpr keeps.fits), parseCommittedRecords, keeps.holds.split,
        mapM_parse recorded.readable]
      rfl

theorem eventsOf_leads {fewer : List Bytes} (leads : fewer <+: lines) : (eventsOf fewer).Sublist (eventsOf lines) :=
  leads.sublist.filterMap parseLine

theorem asked_snoc (labels : List Label) (label : Label) :
    asked (labels ++ [label]) = asked labels ++ label.asks.toList := by
  rw [asked, asked, List.filterMap_append]
  cases given : label.asks <;> simp [given]

theorem Recorded.stays {fewer : List Bytes} {less : List Bytes} (recorded : Recorded labels s durable lines)
    (kept : Kept less fewer t.file) (leads : fewer <+: lines) (more : durable <+: less)
    (same : t.acknowledged = s.acknowledged) :
    Recorded (labels ++ [label]) t less fewer where
  kept := kept
  readable := fun line member => recorded.readable line (leads.subset member)
  asked := by
    rw [asked_snoc]
    exact ((eventsOf_leads leads).trans recorded.asked).trans (List.sublist_append_left _ _)
  acknowledged := by
    intro listed
    rw [same]
    have before : Label.entryLost ∉ labels := fun member => listed (List.mem_append_left _ member)
    exact (recorded.acknowledged before).trans (eventsOf_leads more)

theorem Recorded.more {value : Json} {faults : Nat → Fault} {chunk : Nat → Nat} {regular : Bool} {event : Event}
    {less : List Bytes} (recorded : Recorded labels s durable lines)
    (parsed : parseEvent (serialize value) = .ok event)
    (kept : Kept less (lines ++ [lineOf value]) t.file)
    (acknowledged : s.acknowledged.Sublist (eventsOf durable) → t.acknowledged.Sublist (eventsOf less)) :
    Recorded (labels ++ [.append value faults chunk regular]) t less (lines ++ [lineOf value]) where
  kept := kept
  readable := by
    intro line member
    rcases List.mem_append.mp member with earlier | last
    · exact recorded.readable line earlier
    · rw [List.mem_singleton.mp last, parseLine_line parsed]
      rfl
  asked := by
    have asks : Label.asks (.append value faults chunk regular) = some event := by rw [Label.asks, parsed]; rfl
    rw [asked_snoc, asks, eventsOf, List.filterMap_append, ← eventsOf,
      List.filterMap_cons_some (parseLine_line parsed)]
    exact recorded.asked.append (List.Sublist.refl _)
  acknowledged := by
    intro listed
    exact acknowledged (recorded.acknowledged fun member => listed (List.mem_append_left _ member))

theorem Recorded.rests {value : Json} {faults : Nat → Fault} {chunk : Nat → Nat} {regular : Bool} {disk : Disk}
    (recorded : Recorded labels s durable lines)
    (rests : Rests false durable lines (lineOf value) disk ∧ (parseEvent (serialize value)).isOk = true ∨
      Stands false durable lines disk) :
    ∃ more, Recorded (labels ++ [.append value faults chunk regular]) ⟨disk.file, s.acknowledged⟩ durable more := by
  have nothing : Stands false durable lines disk →
      ∃ more, Recorded (labels ++ [.append value faults chunk regular]) ⟨disk.file, s.acknowledged⟩ durable more :=
    fun stands => ⟨lines, recorded.stays stands.1 (List.prefix_refl _) (List.prefix_refl _) rfl⟩
  rcases rests with ⟨stands | stands, parsed⟩ | stands
  · exact nothing stands
  · cases given : parseEvent (serialize value) with
    | error error =>
        rw [given] at parsed
        exact absurd parsed (by simp [Except.isOk, Except.toBool])
    | ok event => exact ⟨lines ++ [lineOf value], recorded.more given stands.1 id⟩
  · exact nothing stands

theorem appended_returned {value : Json} {faults : Nat → Fault} {chunk : Nat → Nat} {regular entered : Bool}
    {w : Scheduled Disk} (stands : Stands entered durable lines ⟨file, chunk, regular⟩)
    (done : appended value faults chunk regular file = (.returned (), w)) :
    Stands (file.isNone || entered) (lines ++ [lineOf value]) (lines ++ [lineOf value]) w.state := by
  have ended := @append_does entered durable lines value file.isNone stands.1.leads
    ⟨⟨file, chunk, regular⟩, faults, 0⟩
    ⟨stands, rfl⟩
  rw [appended] at done
  rwa [done] at ended

theorem appended_rests {value : Json} {faults : Nat → Fault} {chunk : Nat → Nat} {regular entered : Bool}
    {w : Scheduled Disk} {outcome : Outcome JournalError Unit}
    (stands : Stands entered durable lines ⟨file, chunk, regular⟩)
    (done : appended value faults chunk regular file = (outcome, w)) (failed : outcome ≠ .returned ()) :
    Rests entered durable lines (lineOf value) w.state ∧ (parseEvent (serialize value)).isOk = true ∨
      Stands entered durable lines w.state := by
  rw [appended] at done
  cases given : parseEvent (serialize value) with
  | error error =>
      have ended := append_rejects given (Stands entered durable lines) ⟨⟨file, chunk, regular⟩, faults, 0⟩ stands
      rw [done] at ended
      cases outcome with
      | returned => exact absurd rfl failed
      | threw error => exact Or.inr ended
      | died => exact Or.inr ended
  | ok event =>
      have ended := @append_does entered durable lines value file.isNone stands.1.leads
        ⟨⟨file, chunk, regular⟩, faults, 0⟩
        ⟨stands, rfl⟩
      rw [done] at ended
      cases outcome with
      | returned => exact absurd rfl failed
      | threw error => exact Or.inl ⟨ended, rfl⟩
      | died => exact Or.inl ⟨ended, rfl⟩

theorem step_recorded (recorded : Recorded labels s durable lines) (taken : Step s label t) :
    ∃ durable lines, Recorded (labels ++ [label]) t durable lines := by
  have stands : ∀ {chunk regular}, Stands false durable lines ⟨s.file, chunk, regular⟩ := ⟨recorded.kept, by simp⟩
  cases taken with
  | returned parsed done =>
      rename_i value faults chunk regular w event
      have kept := (appended_returned stands done).1
      refine ⟨lines ++ [lineOf value], lines ++ [lineOf value], recorded.more parsed kept fun before => ?_⟩
      rw [eventsOf, List.filterMap_append, List.filterMap_cons_some (parseLine_line parsed)]
      exact (before.trans (eventsOf_leads recorded.kept.leads)).append (List.Sublist.refl _)
  | threw failed =>
      obtain ⟨more, kept⟩ := recorded.rests (appended_rests stands failed (by simp))
      exact ⟨durable, more, kept⟩
  | died ended =>
      obtain ⟨more, kept⟩ := recorded.rests (appended_rests stands ended (by simp))
      exact ⟨durable, more, kept⟩
  | powerFailure present survives =>
      have kept := recorded.kept
      rw [present] at kept
      obtain ⟨left, above, below, keeps⟩ := Keeps.survives kept survives
      exact ⟨left, left, recorded.stays keeps below above rfl⟩
  | entryLost present unsynced =>
      refine ⟨[], [], ⟨⟨rfl, rfl⟩, by simp, by simp [eventsOf], fun listed => absurd ?_ listed⟩⟩
      exact List.mem_append_right _ (List.mem_singleton.mpr rfl)

theorem recorded_start : Recorded [] ⟨none, []⟩ [] [] :=
  ⟨⟨rfl, rfl⟩, by simp, by simp [eventsOf], fun _ => List.nil_sublist _⟩

theorem run_recorded (run : Run Step ⟨none, []⟩ labels s) : ∃ durable lines, Recorded labels s durable lines := by
  refine @Run.history _ _ _ (fun labels s => ∃ durable lines, Recorded labels s durable lines) _ _ _ ?_ ?_ run
  · exact ⟨[], [], recorded_start⟩
  · intro labels s label t ⟨durable, lines, recorded⟩ taken
    exact step_recorded recorded taken

end Runs

end PublicLighting.BackupScheduler.JournalFile
