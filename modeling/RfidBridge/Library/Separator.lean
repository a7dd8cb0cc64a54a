import Mathlib.Data.List.Basic

/-!
Lists with a separator. A list is cut at the first place where the separator stands, and two
lists are equal only if they are cut into the same parts.
-/

namespace Separator
variable {α : Type} [DecidableEq α]

/-- The parts before and behind the first separator. -/
def cutAt (separator : α) : List α → Option (List α × List α)
  | [] => none
  | a :: l =>
      if a = separator then some ([], l)
      else (cutAt separator l).map fun parts => (a :: parts.1, parts.2)

variable {separator : α} {front back : List α}

theorem cutAt_append (clean : separator ∉ front) (back : List α) :
    cutAt separator (front ++ separator :: back) = some (front, back) := by
  induction front with
  | nil => simp [cutAt]
  | cons a front ih =>
      obtain ⟨other, rest⟩ := not_or.mp (List.mem_cons.not.mp clean)
      simp [cutAt, Ne.symm other, ih rest]

theorem append_inj {front' back' : List α} (clean : separator ∉ front) (clean' : separator ∉ front')
    (same : front ++ separator :: back = front' ++ separator :: back') :
    front = front' ∧ back = back' := by
  have cut := cutAt_append clean back
  rw [same, cutAt_append clean' back'] at cut
  cases cut
  exact ⟨rfl, rfl⟩

end Separator
