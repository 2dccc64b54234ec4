import PublicLighting.ReportDraft.Storage

/-! A saved draft is read back, unless the form let more attachments through than the reader does. -/

namespace PublicLighting.ReportDraft

open Foundations
open Foundations.Doubles (IsNumber IsDouble isSafeInteger isDouble_safe infinity)

/-! Each part of a draft is read of what was written for it. -/

/-- The targets that `readReportTarget` lets through. -/
def ReportTarget.Valid : ReportTarget → Prop
  | lightPoint lightPointId => isSafeInteger lightPointId = true ∧ 0 < lightPointId
  | coordinates _ latitude longitude =>
      IsNumber latitude ∧ IsNumber longitude ∧ isValidReportCoordinates latitude longitude = true
  | manual => True

theorem numberOf_every {p : ℚ → Prop} {json : Json} {key : String} {value : ℚ} (every : json.Every p)
    (found : json.get? key = some (.number value)) : p value := Json.get?_every every found

theorem readCoordinates_valid {kind : CoordinateKind} {json : Json} {target : ReportTarget}
    (numeric : json.Every IsNumber) (read : readCoordinates kind json = some target) : target.Valid := by
  unfold readCoordinates at read
  split at read
  · rename_i latitude longitude north east
    split at read
    · rename_i inside
      cases read
      exact ⟨numberOf_every numeric north, numberOf_every numeric east, inside⟩
    · cases read
  · cases read

theorem readReportTarget_valid {state : Json} {target : ReportTarget} (numeric : state.Every IsNumber)
    (read : readReportTarget state = some target) : target.Valid := by
  unfold readReportTarget at read
  split at read
  · cases read
  · rename_i json found
    have inner := Json.get?_every numeric found
    split at read
    · split_ifs at read
      · split at read
        · split at read
          · rename_i safe
            cases read
            exact safe
          · cases read
        · cases read
      · exact readCoordinates_valid inner read
      · exact readCoordinates_valid inner read
      · cases read
        trivial
    · cases read

theorem coordinate_double {q : ℚ} (number : IsNumber q) (low : -180 ≤ q) (high : q ≤ 180) : IsDouble q := by
  refine ⟨?_, number⟩
  calc
    |q| ≤ 180 := abs_le.mpr ⟨low, high⟩
    _ < infinity := by exact_mod_cast Doubles.lt_infinity (n := 180) (by decide)

theorem target_finite {target : ReportTarget} (valid : target.Valid) : target.toJson.Finite := by
  cases target with
  | lightPoint lightPointId => exact ⟨trivial, isDouble_safe valid.1, trivial⟩
  | coordinates kind latitude longitude =>
      have inside := valid.2.2
      simp only [isValidReportCoordinates, decide_eq_true_eq] at inside
      refine ⟨trivial, coordinate_double valid.1 ?_ ?_, coordinate_double valid.2.1 ?_ ?_, trivial⟩ <;> linarith
  | manual => exact ⟨trivial, trivial⟩

theorem read_target {target : ReportTarget} (valid : target.Valid) :
    readReportTarget (.object [("reportTarget", target.toJson)]) = some target := by
  cases target with
  | lightPoint lightPointId => simp [readReportTarget, ReportTarget.toJson, Json.get?, valid.1, valid.2]
  | coordinates kind latitude longitude =>
      cases kind <;>
        simp [readReportTarget, readCoordinates, ReportTarget.toJson, CoordinateKind.text, Json.get?, valid.2.2]
  | manual => simp [readReportTarget, ReportTarget.toJson, Json.get?]

structure ReportFormValues.Complete (values : ReportFormValues) : Prop where
  detailDescription : values.detailDescription.isSome
  locationBlock : values.locationBlock.isSome
  faultType : values.faultType.isSome
  otherFaultText : values.otherFaultText.isSome

theorem ReportFormValues.Complete.shape {values : ReportFormValues} (complete : values.Complete) :
    ∃ locality detail block fault other phone email consent, values =
      ⟨locality, some detail, some block, some fault, some other, phone, email, consent⟩ := by
  obtain ⟨detail, detailed⟩ := Option.isSome_iff_exists.mp complete.detailDescription
  obtain ⟨block, blocked⟩ := Option.isSome_iff_exists.mp complete.locationBlock
  obtain ⟨fault, faulty⟩ := Option.isSome_iff_exists.mp complete.faultType
  obtain ⟨other, othered⟩ := Option.isSome_iff_exists.mp complete.otherFaultText
  refine ⟨values.locality, detail, block, fault, other, values.phone, values.email, values.consent, ?_⟩
  cases values
  simp_all

theorem parse_values {values : ReportFormValues} (complete : values.Complete) :
    parseFormValues values.toJson = some values := by
  obtain ⟨locality, detail, block, fault, other, phone, email, consent, same⟩ := complete.shape
  subst same
  cases consent <;>
    simp [parseFormValues, ReportFormValues.toJson, optionalMember, stringField, Json.get?, isBoolean, isTrue]

theorem optionalMember_finite (key : String) (value : Option String) :
    Json.EveryMember IsDouble (optionalMember key value) := by
  cases value with
  | none => trivial
  | some text => exact ⟨trivial, trivial⟩

theorem values_finite (values : ReportFormValues) : values.toJson.Finite := by
  simp [Json.Finite, ReportFormValues.toJson, Json.Every, Json.everyMember_append, Json.EveryMember,
    optionalMember_finite]

theorem prepared_finite (prepared : PreparedReportSubmission) : prepared.toJson.Finite := by
  have values := values_finite prepared.formValues
  rw [Json.Finite] at values
  simp [Json.Finite, PreparedReportSubmission.toJson, Json.Every, Json.everyMember_append, Json.EveryMember,
    optionalMember_finite, values]

theorem readStep_number (step : DraftStep) : readStep (some step.number) = some step := by
  cases step <;> simp [readStep, DraftStep.number]

theorem step_double (step : DraftStep) : IsDouble step.number := by
  apply isDouble_safe
  cases step <;> decide +kernel

theorem readEditedFields_written (fields : List EditedField) :
    readEditedFields (some (.array (fields.map fun field => .string field.text))) = some fields := by
  have each : ∀ field : EditedField, readEditedField (.string field.text) = some field := by
    intro field
    cases field <;> rfl
  rw [readEditedFields, List.mapM_map]
  induction fields with
  | nil => rfl
  | cons field fields ih => simp [ih, each]

/-! The stored object. -/

section Stored

variable {existing : Option Json} {draft : ReportDraftInput} {now : DateValue}

theorem date_safe (now : DateValue) : isSafeInteger now.ms = true := by
  have range := now.inRange
  have small : |(now.ms : ℚ)| ≤ 9007199254740991 := by
    have wide : |now.ms| ≤ 9007199254740991 := by omega
    exact_mod_cast wide
  simp [isSafeInteger, small]

theorem safe_of_filter {value : Option ℚ} {q : ℚ} (kept : value.filter (isSafeInteger ·) = some q) :
    isSafeInteger q = true := (Option.filter_eq_some_iff.mp kept).2

theorem pendingSince_safe {since : ℚ} (pending : pendingSince existing draft now = some since) :
    isSafeInteger since = true := by
  unfold pendingSince at pending
  split at pending
  · split at pending
    · rename_i requested kept
      cases pending
      exact safe_of_filter kept
    · dsimp only at pending
      split at pending
      · cases pending
        cases preserved : (existing.bind fun draft => numberField draft "submissionPendingSince").filter
          (isSafeInteger ·) with
        | none => exact date_safe now
        | some since => exact safe_of_filter preserved
      · cases pending
        exact date_safe now
  · cases pending

/-- Nothing but the texts of the object that was stored before can hold a number that is written as `null`. -/
theorem storedPrepared_numeric (numeric : ∀ json, existing = some json → json.Every IsNumber) :
    (storedPrepared existing draft).Every IsNumber := by
  unfold storedPrepared
  split
  · split
    · exact (prepared_finite _).numeric
    · cases found : existing.bind (·.get? "preparedSubmission") with
      | none => trivial
      | some prepared =>
          obtain ⟨json, stored, member⟩ := Option.bind_eq_some_iff.mp found
          exact Json.get?_every (numeric json stored) member
  · trivial

theorem optionalNumber_finite {value : Option ℚ} (safe : ∀ q, value = some q → isSafeInteger q = true) :
    (optionalNumber value).Finite := by
  cases value with
  | none => trivial
  | some q => exact isDouble_safe (safe q rfl)

theorem natCast_double {n : Nat} (small : n < 2 ^ 53) : IsDouble n := by
  rw [IsDouble, IsNumber, abs_of_nonneg (Nat.cast_nonneg n)]
  exact ⟨Doubles.lt_infinity small, Doubles.toDouble_natCast small⟩

theorem fields_finite (fields : List EditedField) :
    (Json.array (fields.map fun field => .string field.text)).Finite := by
  apply (Json.everyItem_iff _ _).mpr
  intro item member
  obtain ⟨field, _, same⟩ := List.mem_map.mp member
  subst same
  trivial

/-- What holds of the parts of a draft that a browser can hold. -/
structure Storable (draft : ReportDraftInput) : Prop where
  target : draft.target.Valid
  values : draft.formValues.Complete
  count : draft.attachmentCount < 2 ^ 32

theorem Storable.small (storable : Storable draft) : draft.attachmentCount < 2 ^ 53 :=
  storable.count.trans (by decide)

theorem storedDraft_numeric (storable : Storable draft)
    (numeric : ∀ json, existing = some json → json.Every IsNumber) :
    (storedDraft existing draft now).Every IsNumber :=
  ⟨(target_finite storable.target).numeric, (values_finite _).numeric, (step_double draft.step).2,
    (natCast_double storable.small).2, trivial,
    (optionalNumber_finite fun _ pending => pendingSince_safe pending).numeric, trivial,
    storedPrepared_numeric numeric, (fields_finite _).numeric, (isDouble_safe (date_safe now)).2, trivial⟩

theorem found_settled (key : String) : (storedDraft existing draft now).settled.get? key =
    ((storedDraft existing draft now).get? key).map Json.settled := Json.get?_settled _ _

theorem found_target (storable : Storable draft) :
    (storedDraft existing draft now).settled.get? "target" = some draft.target.toJson := by
  rw [found_settled]
  simp [storedDraft, Json.get?, Json.finite_settled (target_finite storable.target)]

theorem found_values :
    (storedDraft existing draft now).settled.get? "formValues" = some draft.formValues.toJson := by
  rw [found_settled]
  simp [storedDraft, Json.get?, Json.finite_settled (values_finite _)]

theorem found_pending : (storedDraft existing draft now).settled.get? "submissionPending" =
    some (.bool (draft.submissionPending.getD false)) := by
  rw [found_settled]
  simp [storedDraft, Json.get?, Json.settled]

theorem found_blocked : (storedDraft existing draft now).settled.get? "submissionRetryBlocked" =
    some (.bool (retryBlocked existing draft)) := by
  rw [found_settled]
  simp [storedDraft, Json.get?, Json.settled]

theorem found_since : (storedDraft existing draft now).settled.get? "submissionPendingSince" =
    some (optionalNumber (pendingSince existing draft now)) := by
  have finite : (optionalNumber (pendingSince existing draft now)).Finite :=
    optionalNumber_finite fun _ pending => pendingSince_safe pending
  rw [found_settled]
  simp [storedDraft, Json.get?, Json.finite_settled finite]

theorem found_prepared : (storedDraft existing draft now).settled.get? "preparedSubmission" =
    some (storedPrepared existing draft).settled := by
  rw [found_settled]
  simp [storedDraft, Json.get?]

theorem found_edited : (storedDraft existing draft now).settled.get? "userEditedFields" =
    some (.array (draft.userEditedFields.map fun field => .string field.text)) := by
  rw [found_settled]
  simp [storedDraft, Json.get?, Json.finite_settled (fields_finite _)]

theorem found_number {key : String} {value : ℚ} (double : IsDouble value)
    (written : (storedDraft existing draft now).get? key = some (.number value)) :
    numberField (storedDraft existing draft now).settled key = some value := by
  rw [numberField, found_settled, written, Option.map_some, Json.settled, if_pos double.1]

theorem found_step : numberField (storedDraft existing draft now).settled "step" = some draft.step.number := by
  apply found_number (step_double draft.step)
  simp [storedDraft, Json.get?]

theorem found_count (storable : Storable draft) :
    numberField (storedDraft existing draft now).settled "attachmentCount" = some (draft.attachmentCount : ℚ) := by
  apply found_number (natCast_double storable.small)
  simp [storedDraft, Json.get?]

theorem found_updated : numberField (storedDraft existing draft now).settled "updatedAt" = some (now.ms : ℚ) := by
  apply found_number (isDouble_safe (date_safe now))
  simp [storedDraft, Json.get?]

@[simp] theorem isTrue_bool (value : Bool) : isTrue (some (.bool value)) = value := by
  cases value <;> rfl

def readBack (existing : Option Json) (draft : ReportDraftInput) (now later : DateValue) : StoredReportDraft :=
  let submissionPending := draft.submissionPending.getD false
  let preparedSubmission := parsePreparedSubmission (storedPrepared existing draft).settled
  let since := (pendingSince existing draft now).filter fun since =>
    isSafeInteger since && decide (0 < since) && decide (since ≤ later.ms)
  { target := draft.target
    formValues := draft.formValues
    step := draft.step
    attachmentCount := draft.attachmentCount
    submissionPending := submissionPending
    submissionPendingSince := if submissionPending then since else none
    submissionRetryBlocked := retryBlocked existing draft || (submissionPending &&
      ((since.all fun since => since + reportSubmissionReceiptTtl ≤ later.ms) || preparedSubmission.isNone))
    preparedSubmission := preparedSubmission
    userEditedFields := draft.userEditedFields
    updatedAt := now.ms }

theorem found_validSince (later : DateValue) :
    validPendingSince (storedDraft existing draft now).settled later.ms =
      (pendingSince existing draft now).filter fun since =>
        isSafeInteger since && decide (0 < since) && decide (since ≤ later.ms) := by
  rw [validPendingSince, numberField, found_since]
  cases pendingSince existing draft now <;> rfl

theorem parse_stored (storable : Storable draft) {later : DateValue} (after : now.ms ≤ later.ms)
    (fresh : (later.ms : ℚ) ≤ now.ms + reportDraftTtl) :
    parseReportDraft (storedDraft existing draft now).settled later.ms =
      if draft.attachmentCount ≤ 20 then some (readBack existing draft now later) else none := by
  have ordered : (now.ms : ℚ) ≤ later.ms := by exact_mod_cast after
  have recent : (later.ms : ℚ) - now.ms ≤ reportDraftTtl := by linarith
  have counted : isSafeInteger (draft.attachmentCount : ℚ) = true := by
    have small := storable.count
    exact Doubles.isSafeInteger_natCast (by omega)
  have bound : (draft.attachmentCount : ℚ) ≤ 20 ↔ draft.attachmentCount ≤ 20 := by
    exact_mod_cast Iff.rfl
  simp only [parseReportDraft, found_target storable, found_values, found_pending, found_blocked, found_validSince,
    found_prepared, found_edited, found_step, found_count storable, found_updated, Option.bind_some,
    read_target storable.target, parse_values storable.values, readEditedFields_written, readStep_number,
    Option.bind_eq_bind, date_safe, ordered, recent, counted, bound, Nat.cast_nonneg, isBoolean, true_and, or_true,
    and_true, isTrue_bool]
  rfl

end Stored

section Saved

variable {storage after : LocalStorage} {id : String} {draft : ReportDraftInput} {now later : DateValue}

theorem existingDraft_numeric {serialized : Option String} {json : Json}
    (existing : existingDraft serialized = some json) :
    json.Every IsNumber := by
  unfold existingDraft at existing
  split at existing
  · split at existing
    · rename_i parsed
      cases existing
      exact Json.parsed_numeric parsed
    · cases existing
  · cases existing

def storedBefore (storage : LocalStorage) (id : String) : Option Json :=
  existingDraft ((storage.store.get (reportDraftKey id)).filter (· ≠ ""))

theorem getItem_enabled (enabled : storage.enabled = true) (key : String) :
    storage.getItem key = some (storage.store.get key) := if_pos enabled

theorem setItem_some {key value : String} (set : storage.setItem key value = some after) :
    after = { storage with store := storage.store.set key value } := by
  unfold LocalStorage.setItem at set
  split at set
  · cases set
    rfl
  · cases set

theorem storedBefore_numeric {json : Json} (existing : storedBefore storage id = some json) :
    json.Every IsNumber := existingDraft_numeric existing

theorem saved_store (saved : saveReportDraft storage id draft now = (true, after)) :
    isDraftId id = true ∧ storage.enabled = true ∧ after = { storage with
      store := storage.store.set (reportDraftKey id)
        (storedDraft (storedBefore storage id) draft now).stringify } := by
  unfold saveReportDraft at saved
  split at saved
  · cases saved
  · rename_i valid
    split at saved
    · cases saved
    · rename_i serialized got
      have enabled : storage.enabled = true := by
        unfold LocalStorage.getItem at got
        split at got
        · assumption
        · cases got
      rw [getItem_enabled enabled] at got
      cases got
      dsimp only at saved
      split at saved
      · rename_i set
        cases saved
        exact ⟨by simpa using valid, enabled, setItem_some set⟩
      · cases saved

theorem stringify_ne_empty (members : List (String × Json)) : (Json.object members).stringify ≠ "" := by
  intro empty
  have nothing := congrArg String.toList empty
  rw [Json.stringify, String.toList_ofList] at nothing
  cases nothing

structure Holds (storage : LocalStorage) (id : String) (value : Json) : Prop where
  valid : isDraftId id = true
  enabled : storage.enabled = true
  stored : ∃ serialized, serialized ≠ "" ∧ storage.store.get (reportDraftKey id) = some serialized ∧
    Json.parse serialized = some value

theorem Holds.read {value : Json} (holds : Holds storage id value) (now : DateValue) :
    readReportDraft storage id now =
      match parseReportDraft value now.ms with
      | some draft => (some draft, storage)
      | none => (none, storage.removeItem (reportDraftKey id)) := by
  obtain ⟨serialized, given, got, parsed⟩ := holds.stored
  cases found : parseReportDraft value now.ms with
  | none => simp [readReportDraft, LocalStorage.getItem, holds.valid, holds.enabled, got, given, parsed, found]
  | some draft => simp [readReportDraft, LocalStorage.getItem, holds.valid, holds.enabled, got, given, parsed, found]

theorem Holds.kept {value : Json} (holds : Holds storage id value) {next : LocalStorage}
    (same : next.store.get (reportDraftKey id) = storage.store.get (reportDraftKey id))
    (enabled : next.enabled = storage.enabled) : Holds next id value where
  valid := holds.valid
  enabled := enabled.trans holds.enabled
  stored := by
    rw [same]
    exact holds.stored

theorem saved_holds (storable : Storable draft) (saved : saveReportDraft storage id draft now = (true, after)) :
    Holds after id (storedDraft (storedBefore storage id) draft now).settled := by
  obtain ⟨valid, enabled, same⟩ := saved_store saved
  have numeric : (storedDraft (storedBefore storage id) draft now).Every IsNumber :=
    storedDraft_numeric storable fun _ existing => storedBefore_numeric existing
  subst same
  exact ⟨valid, enabled, _, stringify_ne_empty _, TextStore.get_set_self _ _ _, Json.parse_numeric numeric⟩

theorem read_saved (storable : Storable draft) (saved : saveReportDraft storage id draft now = (true, after))
    (ordered : now.ms ≤ later.ms) (fresh : (later.ms : ℚ) ≤ now.ms + reportDraftTtl) :
    readReportDraft after id later =
      if draft.attachmentCount ≤ 20 then (some (readBack (storedBefore storage id) draft now later), after)
      else (none, after.removeItem (reportDraftKey id)) := by
  rw [(saved_holds storable saved).read later, parse_stored storable ordered fresh]
  by_cases few : draft.attachmentCount ≤ 20 <;> simp [few]

end Saved

/-! The cleanup. -/

section Cleanup

variable {storage : LocalStorage} {id other : String} {now : DateValue}

theorem keys_differ (id other : String) : reportDraftKey id ≠ attachmentCleanupKey other := by
  intro same
  have letters := congrArg (fun text : String => text.toList[19]?) same
  simp only [reportDraftKey, attachmentCleanupKey, String.toList_append] at letters
  rw [List.getElem?_append_left (by decide), List.getElem?_append_left (by decide)] at letters
  revert letters
  decide

theorem reportDraftKey_ne (different : other ≠ id) : reportDraftKey id ≠ reportDraftKey other := by
  intro same
  apply different
  rw [← String.toList_inj] at same ⊢
  simpa [reportDraftKey] using same.symm

theorem mem_idsUnder (front : String) : id ∈ idsUnder front storage ↔ storage.store.get (front ++ id) ≠ none := by
  rw [← TextStore.mem_keys, idsUnder, List.mem_map]
  constructor
  · intro listed
    obtain ⟨key, member, same⟩ := listed
    rw [List.mem_filter, List.isPrefixOf_iff_prefix] at member
    obtain ⟨rest, whole⟩ := member.2
    have key_eq : front ++ id = key := by
      rw [← String.toList_inj, String.toList_append, ← same, String.toList_ofList, ← whole, List.drop_left]
    rw [key_eq]
    exact member.1
  · intro member
    refine ⟨front ++ id, List.mem_filter.mpr ⟨member, ?_⟩, ?_⟩
    · rw [List.isPrefixOf_iff_prefix, String.toList_append]
      exact List.prefix_append _ _
    · rw [String.toList_append, List.drop_left, String.ofList_toList]

theorem readReportDraft_other (storage : LocalStorage) (now : DateValue) (id : String) {key : String}
    (different : key ≠ reportDraftKey id) :
    (readReportDraft storage id now).2.store.get key = storage.store.get key ∧
      (readReportDraft storage id now).2.enabled = storage.enabled := by
  unfold readReportDraft
  repeat' split
  all_goals first
    | exact ⟨rfl, rfl⟩
    | exact ⟨TextStore.get_remove_other _ different, rfl⟩

/-- A draft that can be read stays where the cleanup reads drafts, and is active if it has attachments. -/
theorem readDrafts_kept {value : Json} {draft : StoredReportDraft} (ids : List String)
    (holds : Holds storage id value) (parsed : parseReportDraft value now.ms = some draft)
    (attached : 0 < draft.attachmentCount) (listed : id ∈ ids) : id ∈ (readDrafts now ids storage).1 := by
  induction ids generalizing storage with
  | nil => cases listed
  | cons first ids ih =>
      by_cases here : first = id
      · subst here
        have read := holds.read now
        rw [parsed] at read
        simp [readDrafts, read, attached]
      · have other := readReportDraft_other storage now first (reportDraftKey_ne here)
        have rest := ih (holds.kept other.1 other.2)
          ((List.mem_cons.mp listed).resolve_left fun same => here same.symm)
        simp only [readDrafts]
        split
        · exact List.mem_cons_of_mem _ rest
        · exact rest

theorem readDrafts_other (storage : LocalStorage) (now : DateValue) (ids : List String) {key : String}
    (different : ∀ id, key ≠ reportDraftKey id) :
    (readDrafts now ids storage).2.store.get key = storage.store.get key ∧
      (readDrafts now ids storage).2.enabled = storage.enabled := by
  induction ids generalizing storage with
  | nil => exact ⟨rfl, rfl⟩
  | cons first ids ih =>
      have here := readReportDraft_other storage now first (different first)
      have rest := @ih (readReportDraft storage first now).2
      exact ⟨rest.1.trans here.1, rest.2.trans here.2⟩

theorem read_filter (attachments : AttachmentStore) (keep : Option String → Bool) (valid : isDraftId id = true) :
    readReportAttachments (attachments.filter fun record => keep record.draftId) id =
      if keep (some id) then readReportAttachments attachments id else [] := by
  rw [readReportAttachments, if_pos valid, readReportAttachments, if_pos valid, List.find?_filter]
  by_cases kept : keep (some id) = true
  · rw [if_pos kept]
    congr 3
    funext record
    by_cases same : record.draftId = some id
    · simp [same, kept]
    · simp [same]
  · rw [if_neg kept]
    have nothing : attachments.find? (fun record => decide (keep record.draftId = true ∧
        decide (record.draftId = some id) = true)) = none := by
      rw [List.find?_eq_none]
      intro record _ both
      rw [decide_eq_true_eq, decide_eq_true_eq] at both
      rw [both.2] at both
      exact kept both.1
    rw [nothing]
    rfl

theorem read_removed (attachments : AttachmentStore) (valid : isDraftId id = true) :
    readReportAttachments (removeReportAttachments attachments other) id =
      if other = id then [] else readReportAttachments attachments id := by
  unfold removeReportAttachments
  split
  · have filtered := read_filter attachments (fun draftId => decide (draftId ≠ some other)) valid
    rw [filtered]
    by_cases same : other = id
    · simp [same]
    · simp [same, Ne.symm same]
  · rename_i malformed
    have different : other ≠ id := by
      intro same
      subst same
      exact malformed valid
    rw [if_neg different]

theorem retryCleanups_read (failing : String → Bool) (ids : List String) (attachments : AttachmentStore)
    (valid : isDraftId id = true) :
    readReportAttachments (retryCleanups failing ids storage attachments).2 id =
      if id ∈ ids ∧ failing id = false then [] else readReportAttachments attachments id := by
  induction ids generalizing storage attachments with
  | nil => simp [retryCleanups]
  | cons first ids ih =>
      by_cases here : first = id
      · subst here
        cases fails : failing first with
        | true =>
            rw [retryCleanups, fails, valid, Bool.and_self, if_pos rfl, ih, fails]
            simp
        | false =>
            rw [retryCleanups, fails, Bool.and_false, if_neg Bool.false_ne_true, ih, read_removed _ valid]
            simp [fails]
      · rw [retryCleanups]
        split
        · rw [ih]
          simp [Ne.symm here]
        · rw [ih, read_removed _ valid, if_neg here]
          simp [Ne.symm here]

theorem read_saved_attachments (attachments : AttachmentStore) (selection : FileSelection)
    (valid : isDraftId id = true) :
    readReportAttachments (saveReportAttachments attachments id selection) id = selection.files := by
  simp [readReportAttachments, saveReportAttachments, valid]

theorem cleanup_read (run : CleanupRun) (attachments : AttachmentStore) (valid : isDraftId id = true)
    (enabled : storage.enabled = true) :
    readReportAttachments (cleanupExpiredReportDraftData run storage attachments now).2 id =
      let dropped := readDrafts now (idsUnder reportDraftFront storage) storage
      let retried := retryCleanups run.failing (idsUnder attachmentCleanupFront dropped.2) dropped.2 attachments
      if id ∈ dropped.1 || hasCurrentAttachmentDraft retried.1 id run.later then
        readReportAttachments retried.2 id
      else [] := by
  simp only [cleanupExpiredReportDraftData, enabled, Bool.not_true, Bool.false_eq_true, if_false]
  rw [read_filter _ (fun draftId => draftId.any fun id =>
    decide (id ∈ (readDrafts now (idsUnder reportDraftFront storage) storage).1) ||
      hasCurrentAttachmentDraft _ id run.later) valid]
  rfl

end Cleanup

/-- The saved draft is read back with the same parts and stays, and a cleanup leaves its attachments alone. -/
structure ReadsBack (storage : LocalStorage) (id : String) (draft : ReportDraftInput) (selection : FileSelection)
    (later : DateValue) : Prop where
  read : ∃ read, readReportDraft storage id later = (some read, storage) ∧ read.target = draft.target ∧
    read.formValues = draft.formValues ∧ read.step = draft.step ∧ read.attachmentCount = selection.files.length ∧
    read.userEditedFields = draft.userEditedFields ∧ read.submissionPending = draft.submissionPending.getD false
  kept : ∀ run attachments, readReportAttachments (cleanupExpiredReportDraftData run storage
    (saveReportAttachments attachments id selection) later).2 id = selection.files

section ReadsBack

variable {storage after : LocalStorage} {id : String} {draft : ReportDraftInput} {selection : FileSelection}
  {now later : DateValue}

theorem marker_iff (ids : List String) (saved : saveReportDraft storage id draft now = (true, after)) :
    id ∈ idsUnder attachmentCleanupFront (readDrafts later ids after).2 ↔
      storage.store.get (attachmentCleanupKey id) ≠ none := by
  obtain ⟨_, _, same⟩ := saved_store saved
  have drafts : ∀ other, attachmentCleanupKey id ≠ reportDraftKey other := fun other => (keys_differ other id).symm
  have kept := (readDrafts_other after later ids drafts).1
  have before : after.store.get (attachmentCleanupKey id) = storage.store.get (attachmentCleanupKey id) := by
    subst same
    exact TextStore.get_set_other _ _ (drafts id)
  rw [mem_idsUnder]
  exact Iff.not (by rw [← before, ← kept]; rfl)

theorem retried_files (saved : saveReportDraft storage id draft now = (true, after)) (valid : isDraftId id = true)
    (failing : String → Bool) (attachments : AttachmentStore) (ids : List String) :
    readReportAttachments (retryCleanups failing
      (idsUnder attachmentCleanupFront (readDrafts later ids after).2) (readDrafts later ids after).2
      (saveReportAttachments attachments id selection)).2 id =
        if storage.store.get (attachmentCleanupKey id) ≠ none ∧ failing id = false then [] else selection.files := by
  rw [retryCleanups_read _ _ _ valid, read_saved_attachments _ _ valid]
  simp only [marker_iff ids saved]

theorem draft_reads_back_iff {state : Json} (numeric : state.Every IsNumber)
    (target : readReportTarget state = some draft.target) (complete : draft.formValues.Complete)
    (_accepted : reportFilesSchema selection = true) (counted : draft.attachmentCount = selection.files.length)
    (saved : saveReportDraft storage id draft now = (true, after)) (ordered : now.ms ≤ later.ms)
    (fresh : (later.ms : ℚ) ≤ now.ms + reportDraftTtl) :
    ReadsBack after id draft selection later ↔ selection.files.length ≤ 20 ∧
      (selection.files = [] ∨ storage.store.get (attachmentCleanupKey id) = none) := by
  have storable : Storable draft := ⟨readReportTarget_valid numeric target, complete, counted ▸ selection.array⟩
  have read := read_saved storable saved ordered fresh
  have valid := (saved_store saved).1
  have holds := saved_holds storable saved
  have parsed : parseReportDraft (storedDraft (storedBefore storage id) draft now).settled later.ms = _ :=
    parse_stored storable ordered fresh
  rw [counted] at read parsed
  constructor
  · intro back
    have few : selection.files.length ≤ 20 := by
      by_contra many
      obtain ⟨_, found, _⟩ := back.read
      rw [read, if_neg many] at found
      cases found
    refine ⟨few, ?_⟩
    by_contra both
    rw [not_or] at both
    have kept := back.kept ⟨fun _ => false, later⟩ []
    rw [cleanup_read _ _ valid holds.enabled] at kept
    simp only [retried_files saved valid, both.2, not_false_eq_true, and_self, if_true, ite_self, ne_eq] at kept
    exact both.1 kept.symm
  · intro conditions
    rw [if_pos conditions.1] at read parsed
    refine ⟨⟨_, read, rfl, rfl, rfl, ?_, rfl, rfl⟩, ?_⟩
    · simp [readBack, counted]
    · intro run attachments
      rw [cleanup_read _ _ valid holds.enabled]
      simp only [retried_files saved valid]
      rcases conditions.2 with empty | unmarked
      · simp [empty]
      · have listed : id ∈ idsUnder reportDraftFront after := by
          obtain ⟨_, _, got, _⟩ := holds.stored
          exact (mem_idsUnder reportDraftFront).mpr fun nothing => by
            rw [reportDraftKey, nothing] at got
            cases got
        cases files : selection.files with
        | nil => simp
        | cons first others =>
            have attached : 0 < (readBack (storedBefore storage id) draft now later).attachmentCount := by
              simp [readBack, counted, files]
              positivity
            have active := readDrafts_kept _ holds parsed attached listed
            simp [unmarked, active]

end ReadsBack

section Photos

def emptyStorage : LocalStorage := ⟨⟨[]⟩, true, fun _ _ => true⟩

def photosId : String := "00000000-0000-4000-8000-000000000000"

theorem photosId_valid : isDraftId photosId = true := by decide

def photo : File := ⟨"lamp.jpg", "image/jpeg", 0, [0xFF]⟩

def photos (count : Nat) (few : count < 2 ^ 32) : FileSelection :=
  ⟨List.replicate count photo, by rw [List.length_replicate]; exact few⟩

def photosDraft (count : Nat) : ReportDraftInput where
  target := .manual
  formValues := ⟨"Biela", some "", some "", some "", some "", "+421900000000", "a@b.sk", true⟩
  step := .two
  attachmentCount := count
  submissionPending := none
  submissionPendingSince := none
  submissionRetryBlocked := none
  preparedSubmission := none
  userEditedFields := []

def manualState : Json := .object [("reportTarget", .object [("kind", .string "manual")])]

def firstMoment : DateValue := ⟨0, by decide⟩

def photosSaved (count : Nat) : LocalStorage :=
  { emptyStorage with store :=
      emptyStorage.store.set (reportDraftKey photosId) (storedDraft none (photosDraft count) firstMoment).stringify }

theorem photos_saved (count : Nat) :
    saveReportDraft emptyStorage photosId (photosDraft count) firstMoment = (true, photosSaved count) := by
  simp [saveReportDraft, photosId_valid, LocalStorage.getItem, LocalStorage.setItem, emptyStorage, TextStore.get,
    existingDraft, photosSaved]

theorem photos_complete (count : Nat) : (photosDraft count).formValues.Complete := ⟨rfl, rfl, rfl, rfl⟩

theorem photos_accepted (count : Nat) (few : count < 2 ^ 32) : reportFilesSchema (photos count few) = true := by
  simp [reportFilesSchema, photos, photo, File.size, ausemioPublicFileMaxBytes]

theorem onePhoto_reads_back : ReadsBack (photosSaved 1) photosId (photosDraft 1)
    (photos 1 (by decide)) firstMoment :=
  (draft_reads_back_iff (show manualState.Every IsNumber from ⟨⟨trivial, trivial⟩, trivial⟩) rfl (photos_complete 1)
    (photos_accepted 1 (by decide)) rfl (photos_saved 1) (Int.le_refl _) (by norm_num [reportDraftTtl])).mpr
    ⟨by decide, Or.inr rfl⟩

/-- A selection of 21 photos is accepted and saved, and the draft is dropped when it is read. -/
theorem manyPhotos_dropped : reportFilesSchema (photos 21 (by decide)) = true ∧
    saveReportDraft emptyStorage photosId (photosDraft 21) firstMoment = (true, photosSaved 21) ∧
    readReportDraft (photosSaved 21) photosId firstMoment =
      (none, (photosSaved 21).removeItem (reportDraftKey photosId)) ∧
    ¬ ReadsBack (photosSaved 21) photosId (photosDraft 21) (photos 21 (by decide)) firstMoment := by
  have storable : Storable (photosDraft 21) := ⟨trivial, photos_complete 21, by decide⟩
  have read := read_saved storable (photos_saved 21) (Int.le_refl _) (by norm_num [reportDraftTtl])
  rw [if_neg (by decide)] at read
  refine ⟨photos_accepted 21 (by decide), photos_saved 21, read, fun back => ?_⟩
  obtain ⟨_, found, _⟩ := back.read
  rw [read] at found
  cases found

end Photos

end PublicLighting.ReportDraft
