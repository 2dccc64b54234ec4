import PublicLighting.Foundations.FixedPoint
import PublicLighting.Foundations.Trimming
import PublicLighting.Inventory.LightPoint

/-! Addresses of places as the two providers give them: `reverseGeocode` with its cache key, and the
answers that the address suggestions take. -/

namespace PublicLighting.Geocoding

open Foundations Inventory
open Foundations.JavaScriptText (isTrimmed trim utf16Length)
open Foundations.FixedPoint (toFixed toFixed_chars toFixed_close)

structure Place where
  latitude : ℚ
  longitude : ℚ
  deriving DecidableEq

def placeOf (row : LightPoint) : Place := ⟨row.latitude, row.longitude⟩

def Place.inRange (place : Place) : Bool :=
  -90 ≤ place.latitude ∧ place.latitude ≤ 90 ∧ -180 ≤ place.longitude ∧ place.longitude ≤ 180

def cacheKey (place : Place) : List Char := toFixed 5 place.latitude ++ ',' :: toFixed 5 place.longitude

structure NominatimAddress where
  road : Option String
  houseNumber : Option String
  suburb : Option String
  neighbourhood : Option String
  quarter : Option String
  city : Option String
  town : Option String
  village : Option String
  municipality : Option String
  postcode : Option String
  deriving DecidableEq

structure NominatimReverseResponse where
  lat : String
  lon : String
  displayName : Option String
  address : Option NominatimAddress
  deriving DecidableEq

/-- `filter(Boolean)`. -/
def truthy (parts : List (Option String)) : List String := (parts.filterMap id).filter (· ≠ "")

def formatNominatimAddress (data : NominatimReverseResponse) : String :=
  match data.displayName.filter (· ≠ ""), data.address with
  | some displayName, _ => displayName
  | none, none => data.lat ++ ", " ++ data.lon
  | none, some a =>
    let street := (a.road.filter (· ≠ "")).map fun road => " ".intercalate (truthy [some road, a.houseNumber])
    let parts := truthy [street, a.suburb.or (a.neighbourhood.or a.quarter),
      a.city.or (a.town.or (a.village.or a.municipality)), a.postcode]
    if parts = [] then data.lat ++ ", " ++ data.lon else ", ".intercalate parts

structure ReverseGeocodeResult where
  address : String
  latitude : ℚ
  longitude : ℚ
  source : String
  deriving DecidableEq

def ReverseGeocodeResult.place (result : ReverseGeocodeResult) : Place := ⟨result.latitude, result.longitude⟩

def geocoded (place : Place) (data : NominatimReverseResponse) : ReverseGeocodeResult :=
  ⟨formatNominatimAddress data, place.latitude, place.longitude, "nominatim"⟩

theorem cacheKey_close {one other : Place} (same : cacheKey one = cacheKey other) :
    |one.latitude - other.latitude| ≤ 1 / 10 ^ 5 ∧ |one.longitude - other.longitude| ≤ 1 / 10 ^ 5 := by
  have number : ∀ value : ℚ, ∀ c ∈ toFixed 5 value, (c ≠ ',') = true := by
    intro value c member
    rcases toFixed_chars member with rfl | rfl | digit
    · decide
    · decide
    · simp only [ne_eq, eq_iff_iff, iff_true]
      rintro rfl
      cases digit
  have first : ∀ place : Place, (cacheKey place).takeWhile (· ≠ ',') = toFixed 5 place.latitude := by
    intro place
    rw [cacheKey, List.takeWhile_append_of_pos (by simpa using number place.latitude),
      List.takeWhile_cons_of_neg (by simp),
      List.append_nil]
  have second : ∀ place : Place, (cacheKey place).dropWhile (· ≠ ',') = ',' :: toFixed 5 place.longitude := by
    intro place
    rw [cacheKey, List.dropWhile_append_of_pos (by simpa using number place.latitude),
      List.dropWhile_cons_of_neg (by simp)]
  have latitude : toFixed 5 one.latitude = toFixed 5 other.latitude := by rw [← first, same, first]
  have longitude : ',' :: toFixed 5 one.longitude = ',' :: toFixed 5 other.longitude :=
    by rw [← second, same, second]
  exact ⟨toFixed_close latitude, toFixed_close (List.cons_inj_right _ |>.mp longitude)⟩

/-! The suggestions. -/

def presentAddress (value : Option String) : Option String :=
  (value.map trim).filter (· ≠ "")

inductive ReportAddressLanguage
  | sk
  | en
  deriving DecidableEq, Repr

structure AddressSuggestion where
  address : String
  locality : Option String
  deriving DecidableEq

/-- An object that a provider answers. A member that is no string is `other`. -/
inductive MemberValue
  | absent
  | text (value : String)
  | other
  deriving DecidableEq

structure ProviderCandidate where
  address : MemberValue
  locality : MemberValue
  deriving DecidableEq

inductive ProviderAnswer
  | null
  | object (candidate : ProviderCandidate)
  | other
  deriving DecidableEq

structure AddressProviderError where
  code : String
  status : Nat
  message : String
  deriving DecidableEq, Repr

def invalidResponse : AddressProviderError :=
  ⟨"provider_invalid_response", 502, "Address provider returned an invalid response."⟩

def isProviderSpace (c : Char) : Bool := c.toNat < 0x20 || (0x7F ≤ c.toNat && c.toNat ≤ 0x9F) || isTrimmed c

/-- A run of them becomes one space; `inside` says that the space of this run is written. -/
def collapse (inside : Bool) : List Char → List Char
  | [] => []
  | c :: rest =>
    if isProviderSpace c then if inside then collapse true rest else ' ' :: collapse true rest
    else c :: collapse false rest

def normalizeProviderText (normalizeNFC : String → String) (value : String) : String :=
  trim (String.ofList (collapse false (normalizeNFC value).toList))

def normalizeProviderResult (normalizeNFC : String → String) :
    ProviderAnswer → Except AddressProviderError (Option AddressSuggestion)
  | .null => .ok none
  | .other => .error invalidResponse
  | .object candidate =>
    match candidate.address, candidate.locality with
    | .text value, .absent => settled (normalizeProviderText normalizeNFC value) ""
    | .text value, .text locality =>
      settled (normalizeProviderText normalizeNFC value) (normalizeProviderText normalizeNFC locality)
    | _, _ => .error invalidResponse
where
  settled (address locality : String) : Except AddressProviderError (Option AddressSuggestion) :=
    if address = "" ∨ 500 < utf16Length address then .error invalidResponse
    else if 200 < utf16Length locality then .error invalidResponse
    else .ok (some ⟨address, if locality = "" then none else some locality⟩)

theorem trim_trimmed (text : String) : trim (trim text) = trim text := by
  have again := Trimming.trim_trim (p := isTrimmed) text.toList
  simp only [Trimming.trim, List.rdropWhile] at again
  simp only [trim, String.toList_ofList, again]

theorem settled_address {address locality : String} {suggestion : AddressSuggestion}
    (settled : normalizeProviderResult.settled address locality = .ok (some suggestion)) :
    suggestion.address = address ∧ address ≠ "" ∧ utf16Length address ≤ 500 := by
  unfold normalizeProviderResult.settled at settled
  split at settled
  · cases settled
  · rename_i usable
    rw [not_or, not_lt] at usable
    split at settled
    · cases settled
    · rw [← Option.some.inj (Except.ok.inj settled)]
      exact ⟨rfl, usable⟩

theorem normalized_address {normalizeNFC : String → String} {answer : ProviderAnswer}
    {suggestion : AddressSuggestion}
    (normalized : normalizeProviderResult normalizeNFC answer = .ok (some suggestion)) :
    ∃ value, suggestion.address = normalizeProviderText normalizeNFC value ∧ suggestion.address ≠ "" ∧
      utf16Length suggestion.address ≤ 500 := by
  unfold normalizeProviderResult at normalized
  split at normalized
  · cases normalized
  · cases normalized
  · split at normalized
    · rename_i value _ _
      obtain ⟨same, usable⟩ := settled_address normalized
      exact ⟨value, same, same ▸ usable⟩
    · rename_i value _ _ _
      obtain ⟨same, usable⟩ := settled_address normalized
      exact ⟨value, same, same ▸ usable⟩
    · cases normalized

theorem suggestion_present {normalizeNFC : String → String} {answer : ProviderAnswer}
    {suggestion : AddressSuggestion}
    (normalized : normalizeProviderResult normalizeNFC answer = .ok (some suggestion)) :
    presentAddress (some suggestion.address) = some suggestion.address := by
  obtain ⟨value, same, present, _⟩ := normalized_address normalized
  have trimmed : trim suggestion.address = suggestion.address := by
    rw [same, normalizeProviderText, trim_trimmed]
  rw [presentAddress, Option.map_some, trimmed, Option.filter_some_pos (by simpa using present)]

end PublicLighting.Geocoding
