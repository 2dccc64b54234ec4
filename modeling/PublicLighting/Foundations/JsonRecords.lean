import PublicLighting.Foundations.Json

/-! Objects that leave out what is `undefined`, and the properties of one that was written so. -/

namespace PublicLighting.Foundations.Json

open Doubles (IsDouble)

variable {fields : List (String × Option Json)} {key : String} {value : Option Json}

def given : List (String × Option Json) → List (String × Json)
  | [] => []
  | (_, none) :: fields => given fields
  | (key, some value) :: fields => (key, value) :: given fields

def record (fields : List (String × Option Json)) : Json := .object (given fields)

/-- `Object.keys(value).every((key) => allowed.includes(key))`, of an object. -/
def keysWithin (allowed : List String) : Json → Bool
  | .object members => members.all fun member => member.1 ∈ allowed
  | _ => true

def isObject : Json → Bool
  | .object _ => true
  | _ => false

theorem mem_given {member : String × Json} (present : member ∈ given fields) :
    (member.1, some member.2) ∈ fields := by
  induction fields using given.induct with
  | case1 => cases present
  | case2 name fields ih => exact List.mem_cons_of_mem _ (ih present)
  | case3 name content fields ih =>
      rcases List.mem_cons.mp present with rfl | later
      · exact List.mem_cons_self
      · exact List.mem_cons_of_mem _ (ih later)

theorem find?_absent (absent : key ∉ fields.map (·.1)) :
    (given fields).reverse.find? (fun found => found.1 = key) = none := by
  rw [List.find?_eq_none]
  intro member present same
  exact absent (List.mem_map.mpr ⟨_, mem_given (List.mem_reverse.mp present), of_decide_eq_true same⟩)

theorem find?_given (distinct : (fields.map (·.1)).Nodup) (member : (key, value) ∈ fields) :
    ((given fields).reverse.find? fun found => found.1 = key).map (·.2) = value := by
  induction fields using given.induct with
  | case1 => cases member
  | case2 name fields ih =>
      rw [List.map_cons, List.nodup_cons] at distinct
      rcases List.mem_cons.mp member with here | later
      · cases here
        rw [given, find?_absent distinct.1, Option.map_none]
      · exact ih distinct.2 later
  | case3 name content fields ih =>
      rw [List.map_cons, List.nodup_cons] at distinct
      rw [given, List.reverse_cons, List.find?_append]
      rcases List.mem_cons.mp member with here | later
      · cases here
        rw [find?_absent distinct.1]
        simp
      · have other : name ≠ key := by
          rintro rfl
          exact distinct.1 (List.mem_map.mpr ⟨_, later, rfl⟩)
        rw [← ih distinct.2 later]
        simp [other]

theorem get?_record (distinct : (fields.map (·.1)).Nodup) (member : (key, value) ∈ fields) :
    (record fields).get? key = value := find?_given distinct member

theorem get?_lookup (distinct : (fields.map (·.1)).Nodup) : (record fields).get? key = (fields.lookup key).join := by
  cases found : fields.lookup key with
  | none =>
      have absent : key ∉ fields.map (·.1) := by
        intro member
        obtain ⟨field, inside, same⟩ := List.mem_map.mp member
        exact absurd (List.lookup_eq_none_iff.mp found field inside) (by simp [same])
      rw [record, get?, find?_absent absent]
      rfl
  | some value =>
      obtain ⟨front, back, shape, _⟩ := List.lookup_eq_some_iff.mp found
      exact get?_record distinct (by simp [shape])

theorem keysWithin_record {allowed : List String} (known : ∀ field ∈ fields, field.1 ∈ allowed) :
    (record fields).keysWithin allowed = true := by
  simp only [record, keysWithin, List.all_eq_true, decide_eq_true_eq]
  exact fun member present => known _ (mem_given present)

theorem record_finite (finite : ∀ field ∈ fields, ∀ value ∈ field.2, value.Finite) : (record fields).Finite :=
  (everyMember_iff IsDouble _).mpr fun _ present => finite _ (mem_given present) _ rfl

end PublicLighting.Foundations.Json
