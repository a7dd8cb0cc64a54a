import Mathlib.Data.List.Induction

/-!
Dictionaries that keep the order of insertion, as lists of entries. Collecting values by
their keys with `setdefault` keeps the first value of each key, in the order of first
appearance.
-/

namespace Dict
variable {κ ν : Type} [BEq κ]

/-- `d.setdefault(key, value)`. -/
def setDefault (entries : List (κ × ν)) (key : κ) (value : ν) : List (κ × ν) :=
  if entries.any (·.1 == key) then entries else entries ++ [(key, value)]

/-- The values by their keys, where the first value of a key stays. -/
def byKey (key : ν → κ) (values : List ν) : List (κ × ν) :=
  values.foldl (fun entries value => setDefault entries (key value) value) []

variable (key : ν → κ)

theorem byKey_concat (values : List ν) (value : ν) :
    byKey key (values ++ [value]) = setDefault (byKey key values) (key value) value := by
  simp [byKey]

variable [LawfulBEq κ]

theorem any_key_iff (entries : List (κ × ν)) (k : κ) :
    entries.any (·.1 == k) = true ↔ k ∈ entries.map Prod.fst := by
  simp

/-- The keys are the distinct ones, in the order of first appearance. -/
theorem keys_byKey (values : List ν) :
    (byKey key values).map Prod.fst = (values.map key).eraseDups := by
  induction values using List.reverseRecOn with
  | nil => rfl
  | append_singleton values value ih =>
      rw [byKey_concat, setDefault, List.map_append, List.eraseDups_append, ← ih]
      have known : key value ∈ (byKey key values).map Prod.fst ↔ key value ∈ values.map key := by
        rw [ih]
        exact List.mem_eraseDups
      by_cases old : key value ∈ values.map key
      · rw [if_pos ((any_key_iff _ _).mpr (known.mpr old))]
        simp [List.removeAll, old]
      · rw [if_neg fun any => old (known.mp ((any_key_iff _ _).mp any))]
        simp [List.removeAll, old, List.eraseDups_cons]

/-- Each key has the first value that came with it. -/
theorem find?_of_mem_byKey {values : List ν} {k : κ} {value : ν}
    (member : (k, value) ∈ byKey key values) : values.find? (key · == k) = some value := by
  induction values using List.reverseRecOn with
  | nil => cases member
  | append_singleton values last ih =>
      rw [byKey_concat, setDefault] at member
      rw [List.find?_append]
      split at member
      · rw [ih member]
        rfl
      · rename_i fresh
        rcases List.mem_append.mp member with old | new
        · rw [ih old]
          rfl
        · obtain ⟨rfl, rfl⟩ := Prod.mk.inj (List.mem_singleton.mp new)
          have absent : values.find? (key · == key value) = none := by
            rw [List.find?_eq_none]
            intro other earlier same
            apply fresh
            rw [any_key_iff, keys_byKey, List.mem_eraseDups, ← LawfulBEq.eq_of_beq same]
            exact List.mem_map_of_mem earlier
          rw [absent]
          simp

end Dict
