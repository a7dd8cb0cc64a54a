import Mathlib.Data.List.Nodup

/-!
Database tables: rows with a numeric primary key handed out by a sequence. The
keys of a table are distinct and below the sequence by construction, so a key
names at most one row and a new row never takes the key of another.
-/

class Keyed (α : Type) where
  key : α → Nat

structure Table (α : Type) [Keyed α] where
  rows : List α
  nextKey : Nat
  below : ∀ row ∈ rows, Keyed.key row < nextKey
  distinct : (rows.map Keyed.key).Nodup

namespace Table
open Keyed
variable {α : Type} [Keyed α]

def empty : Table α := ⟨[], 1, nofun, List.nodup_nil⟩

def find? (t : Table α) (k : Nat) : Option α :=
  t.rows.find? fun row => key row == k

/-- Insert the row built for the next key of the sequence. -/
def insert (t : Table α) (row : Nat → α) (keyed : ∀ k, key (row k) = k := by intro; rfl) :
    Table α where
  rows := t.rows ++ [row t.nextKey]
  nextKey := t.nextKey + 1
  below r hr := by
    rcases List.mem_append.mp hr with old | new
    · exact Nat.lt_succ_of_lt (t.below r old)
    · rw [List.mem_singleton.mp new, keyed]
      exact Nat.lt_succ_self _
  distinct := by
    rw [List.map_append, List.nodup_append]
    refine ⟨t.distinct, List.nodup_singleton _, ?_⟩
    intro a ha b hb
    obtain ⟨r, hr, rfl⟩ := List.mem_map.mp ha
    rw [List.map_singleton, List.mem_singleton, keyed] at hb
    have := t.below r hr
    omega

/-- Change the row with key `k`, never its key. -/
def update (t : Table α) (k : Nat) (change : α → α)
    (keeps : ∀ row, key (change row) = key row := by intro; rfl) : Table α where
  rows := t.rows.map fun row => if key row = k then change row else row
  nextKey := t.nextKey
  below r hr := by
    obtain ⟨old, hold, rfl⟩ := List.mem_map.mp hr
    have := t.below old hold
    split
    · rwa [keeps]
    · exact this
  distinct := by
    have same : ((t.rows.map fun row => if key row = k then change row else row).map key) =
        t.rows.map key := by
      rw [List.map_map]
      apply List.map_congr_left
      intro row _
      simp only [Function.comp]
      split
      · exact keeps row
      · rfl
    rw [same]
    exact t.distinct

theorem eq_of_key_eq (t : Table α) {a b : α} (ha : a ∈ t.rows) (hb : b ∈ t.rows)
    (h : key a = key b) : a = b :=
  List.inj_on_of_nodup_map t.distinct ha hb h

theorem find?_eq_some (t : Table α) {k : Nat} {row : α} :
    t.find? k = some row ↔ row ∈ t.rows ∧ key row = k := by
  constructor
  · intro h
    exact ⟨List.mem_of_find?_eq_some h, by simpa using List.find?_some h⟩
  · rintro ⟨member, rfl⟩
    cases found : t.find? (key row) with
    | none =>
        have absent := List.find?_eq_none.mp found row member
        simp at absent
    | some other =>
        have hk : key other = key row := by simpa using List.find?_some found
        rw [t.eq_of_key_eq (List.mem_of_find?_eq_some found) member hk]

theorem find?_self (t : Table α) {row : α} (h : row ∈ t.rows) :
    t.find? (key row) = some row :=
  t.find?_eq_some.mpr ⟨h, rfl⟩

@[simp] theorem mem_rows_empty (row : α) : row ∈ (empty : Table α).rows ↔ False := by
  simp [empty]

@[simp] theorem mem_insert (t : Table α) (new : Nat → α) (keyed) (row : α) :
    row ∈ (t.insert new keyed).rows ↔ row ∈ t.rows ∨ row = new t.nextKey := by
  simp [insert]

@[simp] theorem nextKey_insert (t : Table α) (new : Nat → α) (keyed) :
    (t.insert new keyed).nextKey = t.nextKey + 1 := rfl

@[simp] theorem nextKey_update (t : Table α) (k : Nat) (change : α → α) (keeps) :
    (t.update k change keeps).nextKey = t.nextKey := rfl

theorem mem_update (t : Table α) (k : Nat) (change : α → α) (keeps) (row : α) :
    row ∈ (t.update k change keeps).rows ↔
      (row ∈ t.rows ∧ key row ≠ k) ∨ ∃ old ∈ t.rows, key old = k ∧ row = change old := by
  simp only [update, List.mem_map]
  constructor
  · rintro ⟨old, hold, rfl⟩
    by_cases h : key old = k
    · exact Or.inr ⟨old, hold, h, if_pos h⟩
    · exact Or.inl ⟨by rwa [if_neg h], by rwa [if_neg h]⟩
  · rintro (⟨member, other⟩ | ⟨old, hold, h, rfl⟩)
    · exact ⟨row, member, if_neg other⟩
    · exact ⟨old, hold, if_pos h⟩

theorem mem_update_of_ne (t : Table α) {k : Nat} {change : α → α} {row : α} (other : key row ≠ k)
    (keeps : ∀ row, key (change row) = key row := by intro; rfl) :
    row ∈ (t.update k change keeps).rows ↔ row ∈ t.rows := by
  rw [mem_update]
  constructor
  · rintro (⟨member, -⟩ | ⟨old, -, same, rfl⟩)
    · exact member
    · exact absurd ((keeps old).trans same) other
  · exact fun member => .inl ⟨member, other⟩

/-- No change adds or removes a key, and an insertion removes none. -/
theorem exists_key_update (t : Table α) (k : Nat) (change : α → α) (keeps) {j : Nat}
    (h : ∃ row ∈ t.rows, key row = j) : ∃ row ∈ (t.update k change keeps).rows, key row = j := by
  obtain ⟨row, member, rfl⟩ := h
  by_cases same : key row = k
  · exact ⟨change row, (t.mem_update k change keeps _).mpr (.inr ⟨row, member, same, rfl⟩),
      keeps row⟩
  · exact ⟨row, (t.mem_update k change keeps _).mpr (.inl ⟨member, same⟩), rfl⟩

theorem exists_key_insert (t : Table α) (new : Nat → α) (keyed) {j : Nat}
    (h : ∃ row ∈ t.rows, key row = j) : ∃ row ∈ (t.insert new keyed).rows, key row = j := by
  obtain ⟨row, member, same⟩ := h
  exact ⟨row, (t.mem_insert new keyed row).mpr (.inl member), same⟩

/-- A filter that the change does not disturb selects the same rows. -/
theorem filter_update_of_ne (t : Table α) (k : Nat) (change : α → α) (keeps) (p : α → Bool)
    (stays : ∀ row ∈ t.rows, key row = k → p row = false ∧ p (change row) = false) :
    (t.update k change keeps).rows.filter p = t.rows.filter p := by
  simp only [update]
  generalize t.rows = rows at stays
  induction rows with
  | nil => rfl
  | cons row rows ih =>
      have tail := ih fun r hr => stays r (List.mem_cons_of_mem row hr)
      by_cases h : key row = k
      · obtain ⟨before, after⟩ := stays row (List.mem_cons_self ..) h
        simp [h, before, after, tail]
      · by_cases hp : p row = true <;> simp [h, hp, tail]

/-- A new row that a filter does not select. -/
theorem filter_insert_of_not (t : Table α) (row : Nat → α) (keyed) (p : α → Bool)
    (outside : p (row t.nextKey) = false) :
    (t.insert row keyed).rows.filter p = t.rows.filter p := by
  simp [insert, outside]

/-- A unique constraint: no two rows clash. -/
def Unique (t : Table α) (clash : α → α → Prop) : Prop :=
  ∀ a ∈ t.rows, ∀ b ∈ t.rows, clash a b → a = b

section
variable {clash : α → α → Prop} (symmetric : ∀ a b, clash a b → clash b a)
include symmetric

theorem Unique.insert {t : Table α} (h : t.Unique clash) (new : Nat → α) (keyed)
    (fresh : ∀ a ∈ t.rows, ¬ clash a (new t.nextKey)) : (t.insert new keyed).Unique clash := by
  intro a ha b hb both
  cases (t.mem_insert new keyed a).mp ha with
  | inl old =>
      cases (t.mem_insert new keyed b).mp hb with
      | inl old' => exact h a old b old' both
      | inr new' =>
          subst new'
          exact absurd both (fresh a old)
  | inr new' =>
      subst new'
      cases (t.mem_insert new keyed b).mp hb with
      | inl old' => exact absurd (symmetric _ _ both) (fresh b old')
      | inr same => exact same.symm

/-- A changed row that clashes with nothing it did not clash with before. -/
theorem Unique.update {t : Table α} (h : t.Unique clash) (k : Nat) (change : α → α) (keeps)
    (less : ∀ a ∈ t.rows, key a = k → ∀ b ∈ t.rows, clash (change a) b → clash a b) :
    (t.update k change keeps).Unique clash := by
  have apart : ∀ a ∈ t.rows, key a = k → ∀ b ∈ t.rows, key b ≠ k → ¬ clash (change a) b := by
    intro a ha same b hb other both
    exact other (h a ha b hb (less a ha same b hb both) ▸ same)
  intro a ha b hb both
  rcases (t.mem_update k change keeps a).mp ha with ⟨old, other⟩ | ⟨a, old, same, rfl⟩
  · rcases (t.mem_update k change keeps b).mp hb with ⟨old', other'⟩ | ⟨b, old', same', rfl⟩
    · exact h a old b old' both
    · exact absurd (symmetric _ _ both) (apart b old' same' a old other)
  · rcases (t.mem_update k change keeps b).mp hb with ⟨old', other'⟩ | ⟨b, old', same', rfl⟩
    · exact absurd both (apart a old same b old' other')
    · rw [t.eq_of_key_eq old old' (same.trans same'.symm)]

end

end Table
