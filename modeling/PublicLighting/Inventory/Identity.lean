import PublicLighting.Foundations.Trimming
import PublicLighting.Inventory.LightPoint

/-! The identity of a light point, as the backend, the migrated schema and the preflight compute it. -/

namespace PublicLighting.Inventory

open Foundations

namespace Identity

/-- `canonicalizeInventoryNumber` of the backend. -/
def canonicalizeInventoryNumber (server : ServerText) (value : String) : String :=
  let points := value.toList.toArray
  let start := Trimming.trimStart isEdgeTrim points 0 points.size
  let stop := Trimming.trimEnd isEdgeTrim points start points.size
  server.nfc (String.ofList (points.extract start stop).toList)

end Identity

section Sql

def hexDigit (c : Char) : Nat :=
  if c.isDigit then c.toNat - '0'.toNat else c.toNat - 'A'.toNat + 10

def unicodeEscapes : List Char → List Char
  | '\\' :: a :: b :: c :: d :: rest =>
      Char.ofNat (4096 * hexDigit a + 256 * hexDigit b + 16 * hexDigit c + hexDigit d) :: unicodeEscapes rest
  | c :: rest => c :: unicodeEscapes rest
  | [] => []

/-- The literal of `canonical_inventory_number`. -/
def edgeCharacters : String :=
  "\\0009\\000A\\000B\\000C\\000D\\0020\\00A0\\1680\\2000\\2001\\2002\\2003\\2004\\2005\\2006\\2007\\2008\\2009\\200A\\2028\\2029\\202F\\205F\\3000\\FEFF"

/-- `TRIM_CHARACTERS` of the preflight. -/
def trimCharacters : String :=
  "\\0009\\000A\\000B\\000C\\000D\\0020\\00A0\\1680\\2000\\2001\\2002\\2003\\2004\\2005\\2006\\2007\\2008\\2009\\200A\\2028\\2029\\202F\\205F\\3000\\FEFF"

/-- `btrim(value, characters)`. -/
def btrimOf (characters : List Char) (value : String) : String :=
  String.ofList (Trimming.trim (· ∈ characters) value.toList)

/-- `canonical_inventory_number`. -/
def canonicalInventoryNumber (server : ServerText) (value : String) : String :=
  server.nfc (btrimOf (unicodeEscapes edgeCharacters.toList) value)

/-- `READ_ONLY_CANDIDATE`, of a row's `external_id::text`. -/
def readOnlyCandidate (server : ServerText) (externalId : String) : String :=
  server.nfc (btrimOf (unicodeEscapes trimCharacters.toList) externalId)

/-- Equality under `COLLATE "C"`, which compares bytes. -/
def equalC (one other : String) : Bool := one.toByteArray.data = other.toByteArray.data

/-- `light_points_inventory_number_canonical_check`, as the migration writes it. -/
def inventoryNumberCheck (server : ServerText) (inventoryNumber : String) : Bool :=
  !equalC inventoryNumber "" && server.nfc inventoryNumber = inventoryNumber &&
    equalC inventoryNumber (canonicalInventoryNumber server inventoryNumber)

/-- The inventory numbers of `light_points`, under its check and its unique index. -/
structure InventoryNumbers (server : ServerText) where
  numbers : List String
  checked : ∀ number ∈ numbers, inventoryNumberCheck server number = true
  distinct : numbers.Pairwise fun one other => equalC one other = false

def InventoryNumbers.denoted {server : ServerText} (table : InventoryNumbers server) (value : String) :
    Option String :=
  table.numbers.find? fun number => equalC number (Identity.canonicalizeInventoryNumber server value)

end Sql

section Parity

variable {server : ServerText}

/-- NFC neither makes an edge character nor brings one to an edge. -/
structure KeepsEdges (nfc : String → String) : Prop where
  first : ∀ text c, (nfc text).toList.head? = some c → isEdgeTrim c = true →
    ∃ d, text.toList.head? = some d ∧ isEdgeTrim d = true
  last : ∀ text c, (nfc text).toList.getLast? = some c → isEdgeTrim c = true →
    ∃ d, text.toList.getLast? = some d ∧ isEdgeTrim d = true

theorem edgeCharacters_read : unicodeEscapes edgeCharacters.toList = edgeTrimCodePoints.map Char.ofNat := by
  decide +kernel

theorem mem_edgeCharacters (c : Char) : decide (c ∈ unicodeEscapes edgeCharacters.toList) = isEdgeTrim c := by
  rw [edgeCharacters_read, isEdgeTrim, decide_eq_decide]
  constructor
  · intro listed
    obtain ⟨point, member, same⟩ := List.mem_map.mp listed
    have valid : ∀ point ∈ edgeTrimCodePoints, (Char.ofNat point).toNat = point := by decide +kernel
    rw [← same, valid point member]
    exact member
  · intro member
    exact List.mem_map.mpr ⟨c.toNat, member, Char.ofNat_toNat c⟩

theorem btrimOf_edges (value : String) : btrimOf (unicodeEscapes edgeCharacters.toList) value = btrim value := by
  have same : (fun c => decide (c ∈ unicodeEscapes edgeCharacters.toList)) = isEdgeTrim := funext mem_edgeCharacters
  rw [btrimOf, same]
  rfl

theorem canonicalInventoryNumber_eq (value : String) :
    canonicalInventoryNumber server value = canonicalizeInventoryNumber server value := by
  rw [canonicalInventoryNumber, btrimOf_edges, canonicalizeInventoryNumber]

theorem readOnlyCandidate_eq (value : String) :
    readOnlyCandidate server value = canonicalizeInventoryNumber server value :=
  canonicalInventoryNumber_eq value

/-- The loops over the code points trim both ends. -/
theorem identity_eq (value : String) :
    Identity.canonicalizeInventoryNumber server value = canonicalizeInventoryNumber server value := by
  unfold Identity.canonicalizeInventoryNumber canonicalizeInventoryNumber
  dsimp only
  rw [Trimming.slice_trim]
  rfl

theorem equalC_iff {one other : String} : equalC one other = true ↔ one = other := by
  rw [equalC, decide_eq_true_iff, ← ByteArray.ext_iff, String.toByteArray_inj]

theorem equalC_self (text : String) : equalC text text = true := equalC_iff.mpr rfl

/-- The check as the migration writes it is the check of the model. -/
theorem inventoryNumberCheck_eq (inventoryNumber : String) :
    inventoryNumberCheck server inventoryNumber = canonicalCheck server inventoryNumber := by
  rw [Bool.eq_iff_iff]
  simp only [inventoryNumberCheck, canonicalCheck, Bool.and_eq_true, Bool.not_eq_true',
    decide_eq_true_eq, equalC_iff,
    canonicalInventoryNumber_eq]
  rw [← Bool.not_eq_true, equalC_iff, and_assoc]

variable (idempotent : ∀ text, server.nfc (server.nfc text) = server.nfc text) (edges : KeepsEdges server.nfc)

include idempotent edges

omit idempotent in
theorem btrim_canonical (value : String) :
    btrim (canonicalizeInventoryNumber server value) = canonicalizeInventoryNumber server value := by
  have trimmed := @Trimming.trimmed_trim _ isEdgeTrim value.toList
  have ends : (btrim value).toList = Trimming.trim isEdgeTrim value.toList := String.toList_ofList
  have kept : Trimming.Trimmed isEdgeTrim (server.nfc (btrim value)).toList := by
    constructor
    · intro c first
      cases edge : isEdgeTrim c with
      | false => rfl
      | true =>
          obtain ⟨d, before, drops⟩ := edges.first _ c first edge
          rw [ends] at before
          exact drops.symm.trans (trimmed.first d before)
    · intro c last
      cases edge : isEdgeTrim c with
      | false => rfl
      | true =>
          obtain ⟨d, before, drops⟩ := edges.last _ c last edge
          rw [ends] at before
          exact drops.symm.trans (trimmed.last d before)
  calc btrim (server.nfc (btrim value))
    _ = String.ofList (Trimming.trim isEdgeTrim (server.nfc (btrim value)).toList) := rfl
    _ = String.ofList (server.nfc (btrim value)).toList := by rw [Trimming.trim_eq_self kept]
    _ = server.nfc (btrim value) := String.ofList_toList

theorem canonical_idempotent (value : String) :
    canonicalizeInventoryNumber server (canonicalizeInventoryNumber server value) =
      canonicalizeInventoryNumber server value := by
  calc canonicalizeInventoryNumber server (canonicalizeInventoryNumber server value)
    _ = server.nfc (btrim (canonicalizeInventoryNumber server value)) := rfl
    _ = server.nfc (server.nfc (btrim value)) := by rw [btrim_canonical edges]; rfl
    _ = canonicalizeInventoryNumber server value := idempotent _

theorem check_iff (text : String) : canonicalCheck server text = true ↔
    text ≠ "" ∧ ∃ value, canonicalizeInventoryNumber server value = text := by
  simp only [canonicalCheck, decide_eq_true_eq]
  constructor
  · intro accepted
    exact ⟨accepted.1, text, accepted.2.2.symm⟩
  · intro canonical
    obtain ⟨given, value, rfl⟩ := canonical
    exact ⟨given, idempotent _, (canonical_idempotent idempotent edges value).symm⟩

/-- A table with one row, for a number that is not empty. -/
def single (value : String) (given : canonicalizeInventoryNumber server value ≠ "") : InventoryNumbers server where
  numbers := [canonicalizeInventoryNumber server value]
  checked := by
    intro number member
    rw [List.mem_singleton.mp member, inventoryNumberCheck_eq, check_iff idempotent edges]
    exact ⟨given, value, rfl⟩
  distinct := List.pairwise_singleton ..

omit idempotent edges in
theorem denoted_some {table : InventoryNumbers server} {value number : String}
    (found : table.denoted value = some number) : number = canonicalizeInventoryNumber server value := by
  have same := List.find?_some found
  rw [identity_eq] at same
  exact equalC_iff.mp same

/-- Two inputs find the same row, whatever is stored, exactly when they have one canonical form. -/
theorem denotes_iff (one other : String) :
    (∀ table : InventoryNumbers server, table.denoted one = table.denoted other) ↔
    canonicalizeInventoryNumber server one = canonicalizeInventoryNumber server other := by
  have alone : ∀ (value : String) (given : canonicalizeInventoryNumber server value ≠ ""),
      (single idempotent edges value given).denoted value = some (canonicalizeInventoryNumber server value) := by
    intro value given
    unfold InventoryNumbers.denoted single
    rw [identity_eq, List.find?_singleton, if_pos (equalC_self _)]
  constructor
  · intro same
    by_cases empty : canonicalizeInventoryNumber server one = ""
    · by_contra different
      have given : canonicalizeInventoryNumber server other ≠ "" := fun both => different (empty.trans both.symm)
      have found := alone other given
      rw [← same] at found
      exact different (denoted_some found).symm
    · have found := alone one empty
      rw [same] at found
      exact denoted_some found
  · intro same table
    unfold InventoryNumbers.denoted
    rw [identity_eq, identity_eq, same]

/-- Backend, schema and preflight agree on the canonical form, which is stable, and is what the schema keeps
rows by. -/
theorem canonical_identity_parity :
    (∀ value, Identity.canonicalizeInventoryNumber server value = canonicalInventoryNumber server value ∧
      Identity.canonicalizeInventoryNumber server value = readOnlyCandidate server value) ∧
    (∀ value, Identity.canonicalizeInventoryNumber server (Identity.canonicalizeInventoryNumber server value) =
      Identity.canonicalizeInventoryNumber server value) ∧
    (∀ text, inventoryNumberCheck server text = true ↔
      text ≠ "" ∧ ∃ value, Identity.canonicalizeInventoryNumber server value = text) ∧
    ∀ one other, (∀ table : InventoryNumbers server, table.denoted one = table.denoted other) ↔
      (Identity.canonicalizeInventoryNumber server one).toList =
        (Identity.canonicalizeInventoryNumber server other).toList := by
  refine ⟨?_, ?_, ?_, ?_⟩
  · intro value
    rw [identity_eq, canonicalInventoryNumber_eq, readOnlyCandidate_eq]
    exact ⟨rfl, rfl⟩
  · intro value
    rw [identity_eq, identity_eq]
    exact canonical_idempotent idempotent edges value
  · intro text
    rw [inventoryNumberCheck_eq, check_iff idempotent edges]
    simp only [identity_eq]
  · intro one other
    rw [denotes_iff idempotent edges, identity_eq, identity_eq, String.toList_inj]

omit idempotent edges in
theorem plain_keepsEdges : KeepsEdges id where
  first := fun _ c first edge => ⟨c, first, edge⟩
  last := fun _ c last edge => ⟨c, last, edge⟩

omit idempotent edges in
theorem plain_parity : Identity.canonicalizeInventoryNumber ⟨id, fun _ => true⟩ "\t VO 1\u00a0" =
    canonicalInventoryNumber ⟨id, fun _ => true⟩ "\t VO 1\u00a0" :=
  ((@canonical_identity_parity ⟨id, fun _ => true⟩ (fun _ => rfl) plain_keepsEdges).1 _).1

end Parity

end PublicLighting.Inventory
