import PublicLighting.Exchange.Filters
import PublicLighting.Exchange.WrittenBytes

/-! When the search of the inventory asks for the search text itself. -/

namespace PublicLighting.Exchange

open Foundations (Json)
open Foundations.DecimalText (isDigits)
open Foundations.Json (ofUnits ofUnit unitsOf isHigh isLow)
open Foundations.LikePatterns
open Foundations.WireText
open Inventory (LightPointStatus)

def searchedFields (row : ExportRow) : List (Option String) :=
  [some row.inventoryNumber, row.externalId, row.address, row.district, row.lampType]

section Literal

variable (texts : SearchText)

def OccursIn (term : Units) (field : Option String) : Prop :=
  ∃ text, unitsOfText text = term ∧ ∃ value ∈ field, text.map texts.lower <:+: value.toList.map texts.lower

/-- The term has something to it without its diacritics, and is part of a name of the status. -/
def NamesStatus (term : Units) (status : LightPointStatus) : Prop :=
  normalizeSearch texts term ≠ [] ∧
    (normalizeSearch texts term <:+: normalizeSearch texts (textUnits status.text) ∨
      normalizeSearch texts term <:+: normalizeSearch texts (textUnits (statusSearchLabel status)))

def IsNumeralOf (id : ℤ) (term : Units) : Prop :=
  ∃ digits, digits ≠ [] ∧ isDigits digits = true ∧ unitsOfText digits = term ∧
    (Nat.ofDigitChars 10 digits 0 : ℤ) = id

/-- What the search is to select. -/
def IsLiteralMatch (term : Units) (row : ExportRow) : Prop :=
  (∃ field ∈ searchedFields row, OccursIn texts term field) ∨ NamesStatus texts term row.status ∨
    IsNumeralOf row.id term

def searchOnly (search : Units) : StreetLightFilters := ⟨some search, none, none, false, none, false⟩

def SearchIsLiteral (search : Units) : Prop :=
  ∀ row, (∃ keeps, buildStreetLightFilters texts (searchOnly search) = .ok keeps ∧
      (keeps row = true ↔ IsLiteralMatch texts (searchTerm (some search)) row)) ∧
    ∀ period, (periodSeconds period).isSome = true →
      ∃ keeps, listReportAnalytics texts ⟨period, some search, none, none⟩ = .ok keeps ∧
        (keeps row = true ↔ IsLiteralMatch texts (searchTerm (some search)) row)

def IsLiteralTerm (term : Units) : Prop :=
  term = [] ∨ 0 ∈ term ∨ WellFormed term ∧ Plain (ofUnits term) ∧ normalizeSearch texts term ≠ []

end Literal

section Terms

theorem ofUnits_text (text : List Char) : ofUnits (unitsOfText text) = text := Json.ofUnits_flatMap text

theorem wellFormed_text (text : List Char) : WellFormed (unitsOfText text) := by
  rw [WellFormed, ofUnits_text]

theorem not_cuts_small {unit : Nat} (small : unit < 0xD800) (units : Units) : ¬ Cuts [unit] units := by
  intro cut
  have high : isHigh unit = true := cut.1
  rw [isHigh_false (.inl small)] at high
  cases high

theorem ofNat_number {n : Nat} (valid : n.isValidChar) : (Char.ofNat n).toNat = n := by
  rw [Char.ofNat, dif_pos valid]
  rfl

theorem wellFormed_small {term : Units} (small : ∀ unit ∈ term, unit < 0xD800) : WellFormed term := by
  induction term with
  | nil => rfl
  | cons unit term ih =>
      have first := small unit List.mem_cons_self
      have rest := ih fun other member => small other (List.mem_cons_of_mem _ member)
      have character : unitsOf (ofUnit unit) = [unit] := by
        have low : isLow unit = false := isLow_false (.inl (first.trans (by decide)))
        have valid : unit.isValidChar := .inl first
        rw [ofUnit, isHigh_false (.inl first), low, Bool.or_false, if_neg Bool.false_ne_true, unitsOf,
          ofNat_number valid,
          if_pos (first.trans (by decide))]
      rw [WellFormed, ofUnits_cons (not_cuts_small first term), unitsOfText, List.flatMap_cons, character,
        ← unitsOfText,
        rest]
      rfl

theorem likePattern_eq (term : Units) : likePattern term = '%' :: ofUnits term ++ ['%'] := by
  have percent : unitsOfText ['%'] = [0x25] := rfl
  have front : ¬ Cuts [0x25] (term ++ [0x25]) := not_cuts_small (by decide) _
  have back : ¬ Cuts term [0x25] := fun cut => Bool.false_ne_true cut.2
  rw [likePattern, percent, List.append_assoc, ofUnits_append front, ofUnits_append back]
  rfl

theorem mem_term_iff {text : List Char} {c : Char} (small : c.toNat < 0xD800) :
    c.toNat ∈ unitsOfText text ↔ c ∈ text := by
  rw [unitsOfText, List.mem_flatMap]
  constructor
  · intro found
    obtain ⟨other, member, unit⟩ := found
    rw [← (mem_unitsOf_iff other c small).mp unit]
    exact member
  · intro member
    exact ⟨c, member, (mem_unitsOf_iff c c small).mpr rfl⟩

theorem fixed_small {c : Char} (fixed : IsFixed c) : c.toNat < 0x61 := by
  rcases fixed with special | digit | nul
  · rcases special with percent | underscore | backslash
    · rw [percent]; decide
    · rw [underscore]; decide
    · rw [backslash]; decide
  · have range := Foundations.DecimalText.digit_range digit
    omega
  · rw [nul]; decide

end Terms

section Names

variable (texts : SearchText)

theorem name_letters (status : LightPointStatus) (unit : Nat)
    (member : unit ∈ normalizeSearch texts (textUnits status.text) ∨
      unit ∈ normalizeSearch texts (textUnits (statusSearchLabel status))) : 0x61 ≤ unit ∧ unit < 0x80 := by
  have codes := texts.codes status
  have labels := texts.labels status
  rw [← normalizeSearch] at codes labels
  rw [codes, labels] at member
  cases status with
  | active =>
      have letters : ∀ unit ∈ textUnits "active" ++ textUnits "aktivny", 0x61 ≤ unit ∧ unit < 0x80 := by decide
      exact letters unit (List.mem_append.mpr member)
  | inactive =>
      have letters : ∀ unit ∈ textUnits "inactive" ++ textUnits "neaktivny", 0x61 ≤ unit ∧ unit < 0x80 := by decide
      exact letters unit (List.mem_append.mpr member)
  | maintenance =>
      have letters : ∀ unit ∈ textUnits "maintenance" ++ textUnits "udrzba", 0x61 ≤ unit ∧ unit < 0x80 := by decide
      exact letters unit (List.mem_append.mpr member)

theorem not_names {term : Units} {unit : Nat} (member : unit ∈ normalizeSearch texts term)
    (other : unit < 0x61 ∨ 0x80 ≤ unit) (status : LightPointStatus) : ¬ NamesStatus texts term status := by
  intro named
  have letter := name_letters texts status unit
    (named.2.imp (fun part => part.subset member) fun part => part.subset member)
  omega

theorem fixed_not_names {term : Units} {c : Char} (fixed : IsFixed c) (member : c.toNat ∈ term)
    (status : LightPointStatus) : ¬ NamesStatus texts term status :=
  not_names texts (texts.keepsFixed term c fixed member) (.inl (fixed_small fixed)) status

theorem mem_matching_iff {term : Units} (given : normalizeSearch texts term ≠ []) (status : LightPointStatus) :
    status ∈ matchingInventoryStatuses texts term ↔ NamesStatus texts term status := by
  have all : status ∈ [LightPointStatus.active, .inactive, .maintenance] := by
    cases status with
    | active => decide
    | inactive => decide
    | maintenance => decide
  rw [matchingInventoryStatuses, List.mem_filter, NamesStatus]
  simp only [all, true_and, Bool.or_eq_true, includes, decide_eq_true_eq, given, ne_eq, not_false_eq_true]

theorem all_matching {term : Units} (empty : normalizeSearch texts term = []) (status : LightPointStatus) :
    status ∈ matchingInventoryStatuses texts term := by
  have all : status ∈ [LightPointStatus.active, .inactive, .maintenance] := by
    cases status with
    | active => decide
    | inactive => decide
    | maintenance => decide
  rw [matchingInventoryStatuses, List.mem_filter, empty]
  refine ⟨all, ?_⟩
  rw [Bool.or_eq_true, includes, decide_eq_true_eq]
  exact .inl (List.nil_infix)

end Names

section Matching

variable (texts : SearchText)

theorem lower_special (c special : Char) (given : IsSpecial special) : texts.lower c = special ↔ c = special :=
  texts.lowerFixed c special (.inl given)

theorem ilike_eq (term : Units) (value : String) : ilike texts (likePattern term) (some value) =
    like ('%' :: (ofUnits term).map texts.lower ++ ['%']) (value.toList.map texts.lower) := by
  have percent : texts.lower '%' = '%' := (lower_special texts '%' '%' (.inl rfl)).mpr rfl
  rw [ilike, likePattern_eq, Option.any_some, List.map_append, List.map_cons, List.map_singleton, percent]

theorem ilike_iff {term : Units} (whole : WellFormed term) (plain : Plain (ofUnits term)) (field : Option String) :
    ilike texts (likePattern term) field = true ↔ OccursIn texts term field := by
  cases field with
  | none =>
      constructor
      · exact nofun
      · intro found
        obtain ⟨text, -, value, member, -⟩ := found
        cases member
  | some value =>
      rw [ilike_eq, like_plain ((plain_map (lower_special texts)).mpr plain)]
      constructor
      · intro part
        exact ⟨ofUnits term, whole, value, rfl, part⟩
      · intro found
        obtain ⟨text, units, other, member, part⟩ := found
        cases member
        rw [← units, ofUnits_text]
        exact part

theorem digits_iff (term : Units) : (∃ digits, isDigits digits = true ∧ unitsOfText digits = term) ↔
    ∀ unit ∈ term, 0x30 ≤ unit ∧ unit ≤ 0x39 := by
  constructor
  · intro found unit member
    obtain ⟨digits, all, units⟩ := found
    rw [← units, unitsOfText, List.mem_flatMap] at member
    obtain ⟨c, inside, unit'⟩ := member
    have range := Foundations.DecimalText.digit_range (List.all_eq_true.mp all c inside)
    rw [unitsOf, if_pos (by omega), List.mem_singleton] at unit'
    rw [unit']
    exact range
  · intro range
    induction term with
    | nil => exact ⟨[], rfl, rfl⟩
    | cons unit term ih =>
        obtain ⟨digits, all, units⟩ := ih fun other member => range other (List.mem_cons_of_mem _ member)
        have first := range unit List.mem_cons_self
        obtain ⟨c, digit, number⟩ : ∃ c : Char, c.isDigit = true ∧ unitsOf c = [unit] := by
          have finite : ∀ n < 10, (Char.ofNat (0x30 + n)).isDigit = true ∧
            unitsOf (Char.ofNat (0x30 + n)) = [0x30 + n] := by
            decide
          have here := finite (unit - 0x30) (by omega)
          rw [Nat.add_sub_cancel' first.1] at here
          exact ⟨_, here⟩
        refine ⟨c :: digits, ?_, ?_⟩
        · rw [isDigits, List.all_cons, digit]
          exact all
        · rw [unitsOfText, List.flatMap_cons, number, ← unitsOfText, units]
          rfl

theorem searchedId_iff {term : Units} {id : ℤ} (integer : id ≤ 2147483647) :
    (searchedId term).any (fun number => (id : ℚ) = number) = true ↔ IsNumeralOf id term := by
  have numeral (digits : List Char) (all : isDigits digits = true) (given : digits ≠ []) :
      (searchedId (unitsOfText digits)).any (fun number => (id : ℚ) = number) = true ↔
        (Nat.ofDigitChars 10 digits 0 : ℤ) = id := by
    have range := (digits_iff (unitsOfText digits)).mp ⟨digits, all, rfl⟩
    have filled : unitsOfText digits ≠ [] := by
      intro empty
      apply given
      rw [← ofUnits_text digits, empty]
      rfl
    have test : unitsOfText digits ≠ [] ∧
        (unitsOfText digits).all (fun unit => 0x30 ≤ unit ∧ unit ≤ 0x39) = true := by
      refine ⟨filled, List.all_eq_true.mpr ?_⟩
      intro unit member
      exact decide_eq_true (range unit member)
    rw [searchedId, if_pos test, ofUnits_text]
    generalize Nat.ofDigitChars 10 digits 0 = n
    dsimp only
    by_cases small : n < 2 ^ 53
    · rw [Foundations.Doubles.toDouble_natCast small]
      split
      · rw [Option.any_some, decide_eq_true_eq]
        constructor
        · intro same
          exact_mod_cast same.symm
        · intro same
          exact_mod_cast same.symm
      · rename_i large
        constructor
        · exact nofun
        · intro same
          apply absurd _ large
          have bounded : (n : ℤ) ≤ 2147483647 := same.le.trans integer
          exact_mod_cast bounded
    · have large := Foundations.Doubles.le_toDouble (not_lt.mp small)
      rw [if_neg fun below => absurd (large.trans below) (by norm_num)]
      constructor
      · exact nofun
      · intro same
        omega
  constructor
  · intro found
    by_cases test : term ≠ [] ∧ term.all (fun unit => 0x30 ≤ unit ∧ unit ≤ 0x39) = true
    · obtain ⟨digits, all, units⟩ := (digits_iff term).mpr fun unit member => by
        simpa using List.all_eq_true.mp test.2 unit member
      have given : digits ≠ [] := by
        intro empty
        apply test.1
        rw [← units, empty]
        rfl
      rw [← units] at found
      exact ⟨digits, given, all, units, (numeral digits all given).mp found⟩
    · rw [searchedId, if_neg test] at found
      cases found
  · intro found
    obtain ⟨digits, given, all, units, value⟩ := found
    rw [← units]
    exact (numeral digits all given).mpr value

theorem names_iff {term : Units} (given : normalizeSearch texts term ≠ []) (status : LightPointStatus) :
    (!(matchingInventoryStatuses texts term).isEmpty && status ∈ matchingInventoryStatuses texts term) = true ↔
      NamesStatus texts term status := by
  rw [← mem_matching_iff texts given, Bool.and_eq_true, decide_eq_true_eq]
  constructor
  · exact And.right
  · intro member
    refine ⟨?_, member⟩
    cases shape : matchingInventoryStatuses texts term with
    | nil =>
        rw [shape] at member
        cases member
    | cons => rfl

theorem searchCondition_iff {term : Units} (whole : WellFormed term) (plain : Plain (ofUnits term))
    (given : normalizeSearch texts term ≠ []) (clean : 0 ∉ term) (row : ExportRow) :
    searchCondition texts term row = true ↔ IsLiteralMatch texts term row := by
  have integer := @searchedId_iff term _ row.idInteger.2
  have status := names_iff texts given row.status
  have fields (field : Option String) := ilike_iff texts whole plain field
  simp only [searchCondition, clean, not_false_eq_true, decide_true, Bool.true_and, Bool.or_eq_true, fields, status,
    integer, IsLiteralMatch, searchedFields, List.mem_cons, List.not_mem_nil, or_false, exists_eq_or_imp,
      exists_eq_left]
  tauto

end Matching

section Misses

variable (texts : SearchText)

theorem nul_no_match {term : Units} (nul : 0 ∈ term) (row : ExportRow) : ¬ IsLiteralMatch texts term row := by
  intro found
  have fixed : IsFixed '\x00' := .inr (.inr rfl)
  rcases found with ⟨field, member, text, units, value, inside, part⟩ | named | ⟨digits, -, all, units, -⟩
  · have here : '\x00' ∈ text := by
      rw [← units] at nul
      exact (mem_term_iff (by decide)).mp nul
    have lowered := part.subset (List.mem_map_of_mem here)
    obtain ⟨c, letter, same⟩ := List.mem_map.mp lowered
    have zero : texts.lower '\x00' = '\x00' := (texts.lowerFixed _ _ fixed).mpr rfl
    rw [zero, texts.lowerFixed _ _ fixed] at same
    rw [same] at letter
    apply row.clean value _ letter
    rw [List.reduceOption_mem_iff, ← inside]
    exact member
  · exact fixed_not_names texts fixed nul row.status named
  · have range := (digits_iff term).mp ⟨digits, all, units⟩ 0 nul
    omega

theorem bareRow_clean {address : Option String} (clean : ∀ text ∈ address, IsClean text) :
    ∀ text ∈ [some "0", none, address, none, none].reduceOption, IsClean text := by
  intro text member
  rw [List.reduceOption_mem_iff] at member
  simp only [List.mem_cons, List.not_mem_nil, or_false] at member
  rcases member with same | same | same | same | same
  · cases same
    exact (by decide : '\x00' ∉ "0".toList)
  · cases same
  · exact clean text same.symm
  · cases same
  · cases same

theorem zero_double : Foundations.Doubles.IsDouble 0 := Foundations.Doubles.isDouble_safe (by decide)

def bareRow (address : Option String) (clean : ∀ text ∈ address, IsClean text) : ExportRow where
  id := 1
  inventoryNumber := "0"
  externalId := none
  longitude := 0
  latitude := 0
  address := address
  district := none
  lampType := none
  status := .active
  createdAt := 0
  updatedAt := 0
  idInteger := ⟨by decide, by decide⟩
  longitudeDouble := zero_double
  latitudeDouble := zero_double
  clean := bareRow_clean clean

theorem not_occurs_none (term : Units) : ¬ OccursIn texts term none := by
  intro found
  obtain ⟨text, -, value, member, -⟩ := found
  cases member

theorem occurs_zero {term : Units} (given : term ≠ []) (found : OccursIn texts term (some "0")) : term = [0x30] := by
  obtain ⟨text, units, value, same, part⟩ := found
  cases same
  have digit : IsFixed '0' := .inr (.inl (by decide))
  have zero : texts.lower '0' = '0' := (texts.lowerFixed _ _ digit).mpr rfl
  have row : "0".toList.map texts.lower = ['0'] := by
    rw [← zero]
    rfl
  rw [row] at part
  cases text with
  | nil => exact absurd units.symm given
  | cons c rest =>
      have whole := part.eq_of_length (le_antisymm part.length_le (by simp))
      rw [List.map_cons, List.cons.injEq, List.map_eq_nil_iff, texts.lowerFixed _ _ digit] at whole
      rw [← units, whole.1, whole.2]
      rfl

theorem bareRow_no_match {term : Units} (given : term ≠ []) (unnamed : ¬ NamesStatus texts term .active)
    (digitless : ¬ ∃ digits, isDigits digits = true ∧ unitsOfText digits = term) {address : Option String}
    (clean : ∀ text ∈ address, IsClean text) (missing : ¬ OccursIn texts term address) :
    ¬ IsLiteralMatch texts term (bareRow address clean) := by
  intro found
  rcases found with ⟨field, member, occurs⟩ | named | ⟨digits, -, all, units, -⟩
  · simp only [searchedFields, bareRow, List.mem_cons, List.not_mem_nil, or_false] at member
    rcases member with same | same | same | same | same
    · rw [same] at occurs
      apply digitless
      exact ⟨['0'], rfl, (occurs_zero texts given occurs).symm⟩
    · rw [same] at occurs
      exact not_occurs_none texts term occurs
    · rw [same] at occurs
      exact missing occurs
    · rw [same] at occurs
      exact not_occurs_none texts term occurs
    · rw [same] at occurs
      exact not_occurs_none texts term occurs
  · exact unnamed named
  · exact digitless ⟨digits, all, units⟩

theorem zero_lower : texts.lower '0' = '0' := (texts.lowerFixed _ _ (.inr (.inl (by decide)))).mpr rfl

def minimalMatch (term : Units) : String := String.ofList (sample '0' (tokens (ofUnits term ++ ['%'])))

theorem minimalMatch_lower (term : Units) :
    (minimalMatch term).toList.map texts.lower = sample '0' (tokens ((ofUnits term).map texts.lower ++ ['%'])) := by
  have percent : texts.lower '%' = '%' := (lower_special texts '%' '%' (.inl rfl)).mpr rfl
  have folded := sample_map (lower_special texts) '0' (ofUnits term)
  rw [zero_lower, List.map_append, List.map_singleton, percent] at folded
  rw [minimalMatch, String.toList_ofList, folded]

theorem ilike_minimal (term : Units) : ilike texts (likePattern term) (some (minimalMatch term)) = true := by
  rw [ilike_eq, minimalMatch_lower]
  exact like_sample '0' _

theorem occurs_minimal {term : Units} (found : OccursIn texts term (some (minimalMatch term))) :
    WellFormed term ∧ Plain (ofUnits term) := by
  obtain ⟨text, units, value, same, part⟩ := found
  cases same
  have whole : WellFormed term := by
    rw [← units]
    exact wellFormed_text text
  have spelled : ofUnits term = text := by
    rw [← units, ofUnits_text]
  rw [minimalMatch_lower, spelled] at part
  rw [spelled]
  exact ⟨whole, (plain_map (lower_special texts)).mp (plain_within (by decide) part)⟩

theorem ofUnits_clean {units : Units} (small : ∀ unit ∈ units, unit < 0x10000) (nul : '\x00' ∈ ofUnits units) :
    0 ∈ units := by
  have single (unit : Nat) (bounded : unit < 0x10000) (same : '\x00' = ofUnit unit) : 0 = unit := by
    rw [ofUnit] at same
    split at same
    · cases same
    · rename_i plain
      have valid : unit.isValidChar := by
        rw [Bool.or_eq_true, not_or, Bool.not_eq_true, Bool.not_eq_true] at plain
        simp only [isHigh, isLow, Bool.and_eq_false_iff, decide_eq_false_iff_not] at plain
        simp only [Nat.isValidChar]
        omega
      rw [← ofNat_number valid, ← same]
      rfl
  induction units using PublicLighting.Foundations.Json.ofUnits.induct with
  | case1 => cases nul
  | case2 unit =>
      rw [ofUnits, List.mem_singleton] at nul
      rw [single unit (small unit List.mem_cons_self) nul]
      exact List.mem_singleton_self _
  | case3 high low units paired ih =>
      rw [ofUnits, if_pos paired, List.mem_cons] at nul
      rcases nul with here | later
      · have bounds := paired
        simp only [isHigh, isLow, Bool.and_eq_true, decide_eq_true_eq] at bounds
        have valid : (0x10000 + (high - 0xD800) * 0x400 + (low - 0xDC00)).isValidChar := by
          simp only [Nat.isValidChar]
          omega
        have number := ofNat_number valid
        rw [← here] at number
        have zero : ('\x00').toNat = 0 := rfl
        omega
      · have rest := ih (fun unit member => small unit
          (List.mem_cons_of_mem _ (List.mem_cons_of_mem _ member))) later
        exact List.mem_cons_of_mem _ (List.mem_cons_of_mem _ rest)
  | case4 high low units unpaired ih =>
      rw [ofUnits, if_neg unpaired, List.mem_cons] at nul
      rcases nul with here | later
      · rw [single high (small high List.mem_cons_self) here]
        exact List.mem_cons_self
      · exact List.mem_cons_of_mem _ (ih (fun unit member => small unit (List.mem_cons_of_mem _ member)) later)

end Misses

section Literal

variable (texts : SearchText)

theorem searches_iff (search : Units) : SearchIsLiteral texts search ↔ searchTerm (some search) = [] ∨
    ∀ row, searchCondition texts (searchTerm (some search)) row = true ↔
      IsLiteralMatch texts (searchTerm (some search)) row := by
  have every (row : ExportRow) : IsLiteralMatch texts [] row := by
    left
    exact ⟨some row.inventoryNumber, List.mem_cons_self, [], rfl, _, rfl, List.nil_infix⟩
  have list (row : ExportRow) : ∃ keeps, buildStreetLightFilters texts (searchOnly search) = .ok keeps ∧
      keeps row = (searchTerm (some search) = [] || searchCondition texts (searchTerm (some search)) row) := by
    have district : districtCondition (searchOnly search) row = true := rfl
    have lampType : lampTypeCondition (searchOnly search) row = true := rfl
    refine ⟨_, rfl, ?_⟩
    dsimp only
    rw [district, lampType, Bool.and_true, Bool.and_true, Bool.and_true]
    rfl
  have analytics (row : ExportRow) (period : String) (known : (periodSeconds period).isSome = true) :
      ∃ keeps, listReportAnalytics texts ⟨period, some search, none, none⟩ = .ok keeps ∧
        keeps row = (searchTerm (some search) = [] || searchCondition texts (searchTerm (some search)) row) := by
    rw [listReportAnalytics]
    have given : (periodSeconds period).isNone = false := by
      rw [Option.isNone_eq_false_iff]
      exact known
    simp only [given]
    refine ⟨_, rfl, ?_⟩
    simp
  constructor
  · intro literal
    by_cases empty : searchTerm (some search) = []
    · exact .inl empty
    · right
      intro row
      obtain ⟨keeps, built, same⟩ := list row
      obtain ⟨other, built', literal'⟩ := (literal row).1
      rw [built, Except.ok.injEq] at built'
      rw [← literal', ← built', same, decide_eq_false empty, Bool.false_or]
  · intro condition row
    have kept : (searchTerm (some search) = [] || searchCondition texts (searchTerm (some search)) row) = true ↔
        IsLiteralMatch texts (searchTerm (some search)) row := by
      cases condition with
      | inl empty =>
          rw [decide_eq_true empty, Bool.true_or, empty]
          exact ⟨fun _ => every row, fun _ => rfl⟩
      | inr condition =>
          by_cases empty : searchTerm (some search) = []
          · rw [decide_eq_true empty, Bool.true_or, empty]
            exact ⟨fun _ => every row, fun _ => rfl⟩
          · rw [decide_eq_false empty, Bool.false_or]
            exact condition row
    constructor
    · obtain ⟨keeps, built, same⟩ := list row
      exact ⟨keeps, built, by rw [same]; exact kept⟩
    · intro period known
      obtain ⟨keeps, built, same⟩ := analytics row period known
      exact ⟨keeps, built, by rw [same]; exact kept⟩

/-- A term with special characters, lone surrogates or nothing but diacritics keeps a row
that it does not match. -/
theorem wrong_row {term : Units} (small : ∀ unit ∈ term, unit < 0x10000) (given : term ≠ []) (nul : 0 ∉ term)
    (other : ¬ (WellFormed term ∧ Plain (ofUnits term) ∧ normalizeSearch texts term ≠ [])) :
    ∃ row, searchCondition texts term row = true ∧ ¬ IsLiteralMatch texts term row := by
  by_cases plain : WellFormed term ∧ Plain (ofUnits term)
  · have empty : normalizeSearch texts term = [] := by
      by_contra filled
      exact other ⟨plain.1, plain.2, filled⟩
    refine ⟨bareRow none nofun, ?_, ?_⟩
    · have named : LightPointStatus.active ∈ matchingInventoryStatuses texts term := all_matching texts empty .active
      have filled : (matchingInventoryStatuses texts term).isEmpty = false := by
        rw [List.isEmpty_eq_false_iff]
        exact List.ne_nil_of_mem named
      have status : (bareRow none nofun).status = .active := rfl
      simp [searchCondition, nul, status, named, filled]
    · apply bareRow_no_match texts given
      · intro named
        exact named.1 empty
      · intro numeral
        obtain ⟨digits, all, units⟩ := numeral
        cases digits with
        | nil => exact given units.symm
        | cons c digits =>
            have digit : c.isDigit = true := List.all_eq_true.mp all c List.mem_cons_self
            have range := Foundations.DecimalText.digit_range digit
            have member : c.toNat ∈ term := by
              rw [← units]
              exact (mem_term_iff (by omega)).mpr List.mem_cons_self
            have kept := texts.keepsFixed term c (.inr (.inl digit)) member
            rw [← normalizeSearch, empty] at kept
            cases kept
      · exact not_occurs_none texts term
  · have unnamed : ¬ NamesStatus texts term .active := by
      by_cases whole : WellFormed term
      · have special : ∃ c ∈ ofUnits term, IsSpecial c := by
          by_contra none
          apply plain
          exact ⟨whole, fun c member special => none ⟨c, member, special⟩⟩
        obtain ⟨c, member, special⟩ := special
        have fixed : IsFixed c := .inl special
        have letter := fixed_small fixed
        have unit : c.toNat ∈ term := by
          rw [← whole]
          exact (mem_term_iff (by omega)).mpr member
        exact fixed_not_names texts fixed unit .active
      · obtain ⟨unit, member, large⟩ := texts.keepsLone term whole
        exact not_names texts member (.inr large) .active
    have clean : ∀ text ∈ some (minimalMatch term), IsClean text := by
      intro text same
      cases same
      intro inside
      rw [minimalMatch, String.toList_ofList] at inside
      rcases mem_sample inside with filler | percent | member
      · cases filler
      · cases percent
      · exact nul (ofUnits_clean small member)
    refine ⟨bareRow (some (minimalMatch term)) clean, ?_, ?_⟩
    · have address := ilike_minimal texts term
      simp [searchCondition, nul, bareRow, address]
    · apply bareRow_no_match texts given unnamed
      · intro numeral
        apply plain
        obtain ⟨digits, all, units⟩ := numeral
        rw [← units, ofUnits_text]
        refine ⟨wellFormed_text digits, ?_⟩
        intro c member special
        have digit := List.all_eq_true.mp all c member
        rcases special with same | same | same
        · rw [same] at digit
          cases digit
        · rw [same] at digit
          cases digit
        · rw [same] at digit
          cases digit
      · intro occurs
        exact plain (occurs_minimal texts occurs)

def jsText (text : List UInt16) : Units := text.map UInt16.toNat

theorem term_small (text : List UInt16) : ∀ unit ∈ searchTerm (some (jsText text)), unit < 0x10000 := by
  intro unit member
  have part : (searchTerm (some (jsText text))).Sublist (jsText text) := by
    have sliced : searchTerm (some (jsText text)) = (trimText (jsText text)).take 100 := List.drop_zero
    rw [sliced]
    exact (List.take_sublist _ _).trans ((List.rdropWhile_prefix _ _).sublist.trans
      (List.dropWhile_suffix _).sublist)
  obtain ⟨small, -, same⟩ := List.mem_map.mp (part.subset member)
  rw [← same]
  exact small.toNat_lt

theorem search_literal_iff (search : List UInt16) :
    SearchIsLiteral texts (jsText search) ↔ IsLiteralTerm texts (searchTerm (some (jsText search))) := by
  have small := term_small search
  rw [searches_iff, IsLiteralTerm]
  generalize searchTerm (some (jsText search)) = term at small
  by_cases empty : term = []
  · exact iff_of_true (.inl empty) (.inl empty)
  by_cases nul : 0 ∈ term
  · refine iff_of_true (.inr fun row => ?_) (.inr (.inl nul))
    constructor
    · intro kept
      simp [searchCondition, nul] at kept
    · intro found
      exact absurd found (nul_no_match texts nul row)
  constructor
  · intro literal
    have exactly := literal.resolve_left empty
    by_contra other
    obtain ⟨row, kept, missed⟩ := wrong_row texts small empty nul fun good => other (.inr (.inr good))
    exact missed ((exactly row).mp kept)
  · intro good
    obtain ⟨whole, plain, given⟩ := (good.resolve_left empty).resolve_left nul
    exact .inr (searchCondition_iff texts whole plain given nul)

end Literal

section Percent

def decomposed (unit : Nat) : Units :=
  if unit = 0xED then [0x69, 0x301] else if unit = 0xDA then [0x55, 0x301] else if unit = 0x17E then [0x7A,
    0x30C] else [unit]

def isDiacritic (unit : Nat) : Bool :=
  unit ∈ [0x5E, 0x60, 0xA8, 0xAF, 0xB4, 0xB7, 0xB8] || (0x300 ≤ unit && unit ≤ 0x36F)

def asciiLower (unit : Nat) : Nat := if 0x41 ≤ unit ∧ unit ≤ 0x5A then unit + 0x20 else unit

theorem survives {unit : Nat} {text : Units} (member : unit ∈ text) (itself : decomposed unit = [unit])
    (base : isDiacritic unit = false) (small : asciiLower unit = unit) :
    unit ∈ ((text.flatMap decomposed).filter fun other => !isDiacritic other).map asciiLower := by
  rw [List.mem_map]
  refine ⟨unit, ?_, small⟩
  rw [List.mem_filter, base, List.mem_flatMap]
  refine ⟨⟨unit, member, ?_⟩, rfl⟩
  rw [itself]
  exact List.mem_singleton_self _

theorem fixed_survives (text : Units) (fixed : Char) (given : IsFixed fixed) (member : fixed.toNat ∈ text) :
    fixed.toNat ∈ ((text.flatMap decomposed).filter fun other => !isDiacritic other).map asciiLower := by
  rcases given with (percent | underscore | backslash) | digit | nul
  · subst percent
    exact survives member rfl rfl rfl
  · subst underscore
    exact survives member rfl rfl rfl
  · subst backslash
    exact survives member rfl rfl rfl
  · have finite : ∀ n < 10, decomposed (0x30 + n) = [0x30 + n] ∧ isDiacritic (0x30 + n) = false ∧
        asciiLower (0x30 + n) = 0x30 + n := by
      decide
    have range := Foundations.DecimalText.digit_range digit
    have here := finite (fixed.toNat - 0x30) (by omega)
    rw [Nat.add_sub_cancel' range.1] at here
    exact survives member here.1 here.2.1 here.2.2
  · subst nul
    exact survives member rfl rfl rfl

theorem lone_survives (text : Units) (lone : ¬ WellFormed text) :
    ∃ unit ∈ ((text.flatMap decomposed).filter fun other => !isDiacritic other).map asciiLower, 0x80 ≤ unit := by
  obtain ⟨unit, member, large⟩ : ∃ unit ∈ text, 0xD800 ≤ unit := by
    by_contra none
    exact lone (wellFormed_small fun unit member => not_le.mp fun large => none ⟨unit, member, large⟩)
  have itself : decomposed unit = [unit] := by
    rw [decomposed, if_neg (by omega), if_neg (by omega), if_neg (by omega)]
  have base : isDiacritic unit = false := by
    simp only [isDiacritic, List.mem_cons, List.not_mem_nil, or_false, Bool.or_eq_false_iff, decide_eq_false_iff_not,
      Bool.and_eq_false_iff]
    omega
  have small : asciiLower unit = unit := if_neg (by omega)
  exact ⟨unit, survives member itself base small, by omega⟩

theorem lower_fixed (c fixed : Char) (given : IsFixed fixed) : c.toLower = fixed ↔ c = fixed := by
  have other : fixed.toNat < 65 ∨ 90 < fixed.toNat := by
    rcases given with (percent | underscore | backslash) | digit | nul
    · rw [percent]
      exact .inl (by decide)
    · rw [underscore]
      exact .inr (by decide)
    · rw [backslash]
      exact .inr (by decide)
    · have range := Foundations.DecimalText.digit_range digit
      omega
    · rw [nul]
      exact .inl (by decide)
  have small := fixed_small given
  delta Char.toLower
  split
  · rename_i upper
    have low : 65 ≤ c.toNat := UInt32.le_iff_toNat_le.mp upper.1
    have high : c.toNat ≤ 90 := UInt32.le_iff_toNat_le.mp upper.2
    apply iff_of_false
    · intro same
      have number := congrArg Char.toNat same
      have sum : (c.val + ('a'.val - 'A'.val)).toNat = c.toNat + 32 := by
        have number : c.val.toNat = c.toNat := rfl
        have case' : ('a'.val - 'A'.val).toNat = 32 := rfl
        rw [UInt32.toNat_add, number, case']
        exact Nat.mod_eq_of_lt (by omega)
      have moved : c.toNat + 32 = fixed.toNat := sum.symm.trans number
      omega
    · intro same
      rw [← same] at other
      omega
  · exact Iff.rfl

def plainTexts : SearchText where
  lower := Char.toLower
  normalizeNFD := fun text => text.flatMap decomposed
  withoutDiacritics := fun text => text.filter fun unit => !isDiacritic unit
  toLocaleLowerCase := fun text => text.map asciiLower
  lowerFixed := lower_fixed
  keepsFixed := fixed_survives
  keepsLone := lone_survives
  codes := by
    intro status
    cases status with
    | active => decide
    | inactive => decide
    | maintenance => decide
  labels := by
    intro status
    cases status with
    | active => decide
    | inactive => decide
    | maintenance => decide

theorem percent_not_literal : ¬ SearchIsLiteral plainTexts (jsText [0x25]) := by
  rw [searches_iff]
  intro literal
  have exactly := literal.resolve_left (by decide)
  have kept : searchCondition plainTexts [0x25] (bareRow none nofun) = true := by decide
  have missed : ¬ IsLiteralMatch plainTexts [0x25] (bareRow none nofun) := by
    apply bareRow_no_match
    · decide
    · exact fixed_not_names plainTexts (.inl (.inl rfl)) (by decide : '%'.toNat ∈ [0x25]) .active
    · intro numeral
      have range := (digits_iff [0x25]).mp numeral 0x25 (List.mem_singleton_self _)
      omega
    · exact not_occurs_none plainTexts _
  exact missed ((exactly _).mp kept)

end Percent

end PublicLighting.Exchange
