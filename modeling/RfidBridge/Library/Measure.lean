import Mathlib.Algebra.Order.BigOperators.Group.List

/-!
Measures of a table. What the rows hold is added up, and two states of the table are compared
key by key: where no row holds more than before the sum does not grow, and where one row holds
less it shrinks.
-/

section
variable {α κ M : Type} [AddCommMonoid M] [PartialOrder M] {key : α → κ} {f g : α → M}
  {rows rows' : List α}

theorem sum_map_le_of_keys [IsOrderedAddMonoid M] (keys : rows'.map key = rows.map key)
    (below : ∀ a ∈ rows, ∀ b ∈ rows', key b = key a → g b ≤ f a) :
    (rows'.map g).sum ≤ (rows.map f).sum := by
  induction rows generalizing rows' with
  | nil => simp [List.map_eq_nil_iff.mp keys]
  | cons a rows ih =>
      obtain ⟨b, rest, rfl, same, keys⟩ := List.map_eq_cons_iff.mp keys
      have rest_le := ih keys fun a ha b hb => below a (List.mem_cons_of_mem _ ha) b
        (List.mem_cons_of_mem _ hb)
      have first := below a (List.mem_cons_self ..) b (List.mem_cons_self ..) same
      simp only [List.map_cons, List.sum_cons]
      exact add_le_add first rest_le

theorem sum_map_lt_of_keys [IsOrderedCancelAddMonoid M] (keys : rows'.map key = rows.map key)
    (below : ∀ a ∈ rows, ∀ b ∈ rows', key b = key a → g b ≤ f a)
    (strict : ∃ a ∈ rows, ∀ b ∈ rows', key b = key a → g b < f a) :
    (rows'.map g).sum < (rows.map f).sum := by
  induction rows generalizing rows' with
  | nil =>
      obtain ⟨a, member, -⟩ := strict
      cases member
  | cons a rows ih =>
      obtain ⟨b, rest, rfl, same, keys⟩ := List.map_eq_cons_iff.mp keys
      have below' : ∀ a ∈ rows, ∀ b ∈ rest, key b = key a → g b ≤ f a :=
        fun a ha b hb => below a (List.mem_cons_of_mem _ ha) b (List.mem_cons_of_mem _ hb)
      have first := below a (List.mem_cons_self ..) b (List.mem_cons_self ..) same
      simp only [List.map_cons, List.sum_cons]
      obtain ⟨a', member, less⟩ := strict
      cases member with
      | head =>
          exact add_lt_add_of_lt_of_le (less b (List.mem_cons_self ..) same)
            (sum_map_le_of_keys keys below')
      | tail _ later =>
          exact add_lt_add_of_le_of_lt first
            (ih keys below' ⟨a', later, fun b hb => less b (List.mem_cons_of_mem _ hb)⟩)

end
