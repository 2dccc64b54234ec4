import Mathlib.Data.List.Basic
import Mathlib.Tactic.Common

/-! A store of texts under keys, as a browser keeps one. -/

namespace PublicLighting.Foundations

structure TextStore where
  items : List (String × String)
  deriving DecidableEq

namespace TextStore

def get (store : TextStore) (key : String) : Option String :=
  (store.items.find? fun item => item.1 = key).map (·.2)

def remove (store : TextStore) (key : String) : TextStore :=
  ⟨store.items.filter fun item => item.1 ≠ key⟩

def set (store : TextStore) (key value : String) : TextStore := ⟨(key, value) :: (store.remove key).items⟩

def keys (store : TextStore) : List String := store.items.map (·.1)

@[simp] theorem get_set_self (store : TextStore) (key value : String) :
    (store.set key value).get key = some value := by
  simp [get, set]

theorem get_remove_other (store : TextStore) {key other : String} (different : other ≠ key) :
    (store.remove key).get other = store.get other := by
  rw [get, remove, List.find?_filter, get]
  congr 2
  funext item
  by_cases same : item.1 = other
  · simp [same, different]
  · simp [same]

theorem get_set_other (store : TextStore) {key other : String} (value : String) (different : other ≠ key) :
    (store.set key value).get other = store.get other := by
  have skipped : (store.set key value).get other = (store.remove key).get other := by
    rw [get, set, List.find?_cons_of_neg (by simpa using different.symm), get]
  rw [skipped, get_remove_other store different]

theorem mem_keys (store : TextStore) (key : String) : key ∈ store.keys ↔ store.get key ≠ none := by
  rw [keys, List.mem_map, get, Ne, Option.map_eq_none_iff, List.find?_eq_none]
  constructor
  · intro listed nothing
    obtain ⟨item, member, same⟩ := listed
    exact nothing item member (decide_eq_true same)
  · intro kept
    push Not at kept
    obtain ⟨item, member, same⟩ := kept
    exact ⟨item, member, of_decide_eq_true same⟩

end TextStore

end PublicLighting.Foundations
