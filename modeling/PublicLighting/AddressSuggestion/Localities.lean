import PublicLighting.Foundations.JavaScriptText
import PublicLighting.Foundations.Largest
import PublicLighting.Foundations.Trimming

/-! The street that an address begins with. -/

namespace PublicLighting.AddressSuggestion

open Foundations.Largest

/-- A JavaScript text. -/
abbrev JsText := List UInt16

structure LocalityChoice where
  value : JsText
  label : JsText
  deriving DecidableEq, Repr

/-- White space, which is `\s` as well as what `trim` removes. -/
def isSpace (unit : UInt16) : Bool := Foundations.JavaScriptText.isTrimmed (Char.ofNat unit.toNat)

def trim (text : JsText) : JsText := Foundations.Trimming.trim isSpace text

/-- White space, a comma, a dot, a slash or a hyphen. -/
def isBoundary (unit : UInt16) : Bool := isSpace unit || unit.toNat ∈ [0x2C, 0x2E, 0x2F, 0x2D]

section Match

-- `normalize('NFC')` and `toLocaleLowerCase('sk')`
variable (normalizeNFC toLocaleLowerCase : JsText → JsText)

def normalized (text : JsText) : JsText := toLocaleLowerCase (trim (normalizeNFC text))

/-- The filter of `findUniqueLocalityInAddress`. -/
def matchesAddress (normalizedAddress : JsText) (choice : LocalityChoice) : Bool :=
  let normalizedLocality := normalized normalizeNFC toLocaleLowerCase choice.value
  if normalizedLocality = [] ∨ choice.label ≠ choice.value then false
  else if normalizedAddress = normalizedLocality then true
  else if ¬ normalizedLocality <+: normalizedAddress then false
  else (normalizedAddress.drop normalizedLocality.length).head?.any isBoundary

def findUniqueLocalityInAddress (address : JsText) (choices : List LocalityChoice) : Option LocalityChoice :=
  let normalizedAddress := normalized normalizeNFC toLocaleLowerCase address
  if normalizedAddress = [] then none
  else
    let found := choices.filter (matchesAddress normalizeNFC toLocaleLowerCase normalizedAddress)
    if found = [] then none else agreed (·.value) (largest (·.value.length) found)

/-- A trimmed NFC text that lower-casing leaves as long as it is. -/
structure Canonical (value : JsText) : Prop where
  composed : normalizeNFC value = value
  trimmed : trim value = value
  length : (toLocaleLowerCase value).length = value.length

/-- The choice is a street, in lower case, that the address begins with as a whole word. -/
def Begins (normalizedAddress : JsText) (choice : LocalityChoice) : Prop :=
  choice.label = choice.value ∧ choice.value ≠ [] ∧
    ∃ rest, normalizedAddress = toLocaleLowerCase choice.value ++ rest ∧ ∀ unit, rest.head? = some unit →
      isBoundary unit = true

/-- The choice begins the address, and none that does is longer. -/
def Longest (normalizedAddress : JsText) (choices : List LocalityChoice) (choice : LocalityChoice) : Prop :=
  choice ∈ choices ∧ Begins toLocaleLowerCase normalizedAddress choice ∧
    ∀ other ∈ choices, Begins toLocaleLowerCase normalizedAddress other → other.value.length ≤ choice.value.length

variable {normalizeNFC toLocaleLowerCase}
variable {normalizedAddress : JsText} {choice : LocalityChoice} {choices : List LocalityChoice}

theorem matchesAddress_iff (canonical : Canonical normalizeNFC toLocaleLowerCase choice.value) :
    matchesAddress normalizeNFC toLocaleLowerCase normalizedAddress choice = true ↔
      Begins toLocaleLowerCase normalizedAddress choice := by
  have locality : normalized normalizeNFC toLocaleLowerCase choice.value = toLocaleLowerCase choice.value := by
    rw [normalized, canonical.composed, canonical.trimmed]
  have given : toLocaleLowerCase choice.value = [] ↔ choice.value = [] := by
    rw [← List.length_eq_zero_iff, canonical.length, List.length_eq_zero_iff]
  simp only [matchesAddress, locality, given]
  split_ifs with refused whole apart
  · refine iff_of_false not_false ?_
    intro begins
    cases refused with
    | inl empty => exact begins.2.1 empty
    | inr unlike => exact unlike begins.1
  · rw [not_or, not_not] at refused
    refine iff_of_true rfl ⟨refused.2, refused.1, [], ?_, ?_⟩
    · rw [whole, List.append_nil]
    · intro unit first
      cases first
  · rw [not_or, not_not] at refused
    obtain ⟨rest, split⟩ := apart
    rw [← split, List.drop_left]
    constructor
    · intro boundary
      refine ⟨refused.2, refused.1, rest, rfl, ?_⟩
      intro unit first
      rw [first] at boundary
      exact boundary
    · intro begins
      obtain ⟨-, -, other, same, boundary⟩ := begins
      rw [← List.append_cancel_left same] at boundary
      cases rest with
      | nil => exact absurd (by rw [← split, List.append_nil]) whole
      | cons first rest => exact boundary first rfl
  · refine iff_of_false not_false ?_
    intro begins
    obtain ⟨-, -, rest, split, -⟩ := begins
    exact apart ⟨rest, split.symm⟩

theorem mem_longest (canonical : ∀ choice ∈ choices, Canonical normalizeNFC toLocaleLowerCase choice.value) :
    choice ∈ largest (·.value.length) (choices.filter
      (matchesAddress normalizeNFC toLocaleLowerCase normalizedAddress)) ↔
      Longest toLocaleLowerCase normalizedAddress choices choice := by
  have found : ∀ other, other ∈ choices.filter (matchesAddress normalizeNFC toLocaleLowerCase normalizedAddress) ↔
      other ∈ choices ∧ Begins toLocaleLowerCase normalizedAddress other := by
    intro other
    rw [List.mem_filter]
    constructor
    · intro kept
      exact ⟨kept.1, (matchesAddress_iff (canonical other kept.1)).mp kept.2⟩
    · intro begins
      exact ⟨begins.1, (matchesAddress_iff (canonical other begins.1)).mpr begins.2⟩
  rw [mem_largest, found, Longest, and_assoc]
  constructor
  · intro top
    exact ⟨top.1, top.2.1, fun other present begins => top.2.2 other ((found other).mpr ⟨present, begins⟩)⟩
  · intro top
    refine ⟨top.1, top.2.1, ?_⟩
    intro other kept
    have begins := (found other).mp kept
    exact top.2.2 other begins.1 begins.2

/-- No street is empty, so neither is an address that begins with one. -/
theorem begins_given (canonical : Canonical normalizeNFC toLocaleLowerCase choice.value)
    (begins : Begins toLocaleLowerCase normalizedAddress choice) : normalizedAddress ≠ [] := by
  obtain ⟨-, given, rest, split, -⟩ := begins
  intro empty
  rw [empty] at split
  have none := (List.append_eq_nil_iff.mp split.symm).1
  rw [← List.length_eq_zero_iff, canonical.length, List.length_eq_zero_iff] at none
  exact given none

theorem find_eq_some (address : JsText)
    (canonical : ∀ choice ∈ choices, Canonical normalizeNFC toLocaleLowerCase choice.value) :
    findUniqueLocalityInAddress normalizeNFC toLocaleLowerCase address choices = some choice ↔
      Longest toLocaleLowerCase (normalized normalizeNFC toLocaleLowerCase address) choices choice ∧
        ∀ other, Longest toLocaleLowerCase (normalized normalizeNFC toLocaleLowerCase address) choices other →
          other.value = choice.value := by
  rw [findUniqueLocalityInAddress]
  generalize normalized normalizeNFC toLocaleLowerCase address = normalizedAddress
  have longest := fun other => @mem_longest _ _ normalizedAddress other choices canonical
  have apart : ∀ one ∈ largest (·.value.length)
    (choices.filter (matchesAddress normalizeNFC toLocaleLowerCase normalizedAddress)),
      ∀ other ∈ largest (·.value.length) (choices.filter
        (matchesAddress normalizeNFC toLocaleLowerCase normalizedAddress)),
        one.value = other.value → one = other := by
    intro one first other second same
    have label := ((longest one).mp first).2.1.1
    have label' := ((longest other).mp second).2.1.1
    cases one
    cases other
    simp only at same label label'
    rw [label, label', same]
  simp only
  split_ifs with empty none
  · refine iff_of_false (by simp) ?_
    intro found
    exact begins_given (canonical choice found.1.1) found.1.2.1 empty
  · refine iff_of_false (by simp) ?_
    intro found
    have member := (longest choice).mpr found.1
    rw [none] at member
    cases member
  · rw [agreed_eq_some apart, longest]
    exact and_congr_right fun _ => forall_congr' fun other => by rw [longest]

theorem find_eq_none (address : JsText)
    (canonical : ∀ choice ∈ choices, Canonical normalizeNFC toLocaleLowerCase choice.value) :
    findUniqueLocalityInAddress normalizeNFC toLocaleLowerCase address choices = none ↔
      (∀ choice ∈ choices, ¬ Begins toLocaleLowerCase (normalized normalizeNFC toLocaleLowerCase address) choice) ∨
        ∃ one other, Longest toLocaleLowerCase (normalized normalizeNFC toLocaleLowerCase address) choices one ∧
          Longest toLocaleLowerCase (normalized normalizeNFC toLocaleLowerCase address) choices other ∧
          one.value ≠ other.value := by
  rw [findUniqueLocalityInAddress]
  generalize normalized normalizeNFC toLocaleLowerCase address = normalizedAddress
  have longest := fun other => @mem_longest _ _ normalizedAddress other choices canonical
  have unmatched : choices.filter (matchesAddress normalizeNFC toLocaleLowerCase normalizedAddress) = [] ↔
      ∀ choice ∈ choices, ¬ Begins toLocaleLowerCase normalizedAddress choice := by
    rw [List.filter_eq_nil_iff]
    exact forall_congr' fun other => forall_congr' fun member =>
      not_congr (matchesAddress_iff (canonical other member))
  simp only
  split_ifs with empty none
  · refine iff_of_true rfl (Or.inl ?_)
    intro choice member begins
    exact begins_given (canonical choice member) begins empty
  · exact iff_of_true rfl (Or.inl (unmatched.mp none))
  · rw [agreed_eq_none, largest_eq_nil, unmatched]
    refine or_congr_right ?_
    constructor
    · intro tie
      obtain ⟨one, first, other, second, different⟩ := tie
      exact ⟨one, other, (longest one).mp first, (longest other).mp second, different⟩
    · intro tie
      obtain ⟨one, other, first, second, different⟩ := tie
      exact ⟨one, (longest one).mpr first, other, (longest other).mpr second, different⟩

end Match

/-- The street found is the longest that the address begins with, whatever the order of the
list; none is found where none begins it or two different ones are the longest. -/
theorem locality_match (normalizeNFC toLocaleLowerCase : JsText → JsText) (address : JsText)
    (choices : List LocalityChoice)
    (canonical : ∀ choice ∈ choices, Canonical normalizeNFC toLocaleLowerCase choice.value) :
    (∀ other : List LocalityChoice, other.Perm choices →
        findUniqueLocalityInAddress normalizeNFC toLocaleLowerCase address other =
          findUniqueLocalityInAddress normalizeNFC toLocaleLowerCase address choices) ∧
      (∀ choice, findUniqueLocalityInAddress normalizeNFC toLocaleLowerCase address choices = some choice →
        Longest toLocaleLowerCase (normalized normalizeNFC toLocaleLowerCase address) choices choice) ∧
      (findUniqueLocalityInAddress normalizeNFC toLocaleLowerCase address choices = none ↔
        (∀ choice ∈ choices, ¬ Begins toLocaleLowerCase (normalized normalizeNFC toLocaleLowerCase address) choice) ∨
          ∃ one other, Longest toLocaleLowerCase (normalized normalizeNFC toLocaleLowerCase address) choices one ∧
            Longest toLocaleLowerCase (normalized normalizeNFC toLocaleLowerCase address) choices other ∧
            one.value ≠ other.value) := by
  refine ⟨?_, fun choice found => ((find_eq_some address canonical).mp found).1, find_eq_none address canonical⟩
  intro other permuted
  have canonical' : ∀ choice ∈ other, Canonical normalizeNFC toLocaleLowerCase choice.value :=
    fun choice member => canonical choice (permuted.mem_iff.mp member)
  have longest : ∀ choice, Longest toLocaleLowerCase
    (normalized normalizeNFC toLocaleLowerCase address) other choice ↔
      Longest toLocaleLowerCase (normalized normalizeNFC toLocaleLowerCase address) choices choice := by
    intro choice
    simp only [Longest, permuted.mem_iff]
  refine Option.ext fun choice => ?_
  rw [find_eq_some address canonical', find_eq_some address canonical, longest]
  exact and_congr_right fun _ => forall_congr' fun _ => by rw [longest]

section Latin

/-- Lower case of the letters up to U+00FF. -/
def latinLower (text : JsText) : JsText :=
  text.map fun unit =>
    if 0x41 ≤ unit ∧ unit ≤ 0x5A ∨ 0xC0 ≤ unit ∧ unit ≤ 0xDE ∧ unit ≠ 0xD7 then unit + 0x20 else unit

def latin (text : String) : JsText := text.toList.map fun c => UInt16.ofNat c.toNat

def street (name : String) : LocalityChoice := ⟨latin name, latin name⟩

instance (normalizeNFC toLocaleLowerCase : JsText → JsText) (value : JsText) :
    Decidable (Canonical normalizeNFC toLocaleLowerCase value) :=
  decidable_of_iff (normalizeNFC value = value ∧ trim value = value ∧
    (toLocaleLowerCase value).length = value.length)
    ⟨fun all => ⟨all.1, all.2.1, all.2.2⟩, fun all => ⟨all.composed, all.trimmed, all.length⟩⟩

theorem streets_canonical :
    ∀ choice ∈ [street "Nov\u00E1", street "Nov\u00E1 cesta"], Canonical id latinLower choice.value := by decide

theorem locality_match_streets :
    Longest latinLower (normalized id latinLower (latin "NOV\u00C1 CESTA 5"))
        [street "Nov\u00E1", street "Nov\u00E1 cesta"]
      (street "Nov\u00E1 cesta") :=
  (locality_match id latinLower (latin "NOV\u00C1 CESTA 5") [street "Nov\u00E1", street "Nov\u00E1 cesta"]
    streets_canonical).2.1 (street "Nov\u00E1 cesta") (by decide)

end Latin

end PublicLighting.AddressSuggestion
