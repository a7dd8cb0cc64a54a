import Mathlib.Data.List.Basic

/-!
Codes that show where they end. A reader that works with offsets into a fixed
input reads such a code when it accepts exactly the inputs that continue with a
code word and moves past that word.
-/

universe u v w

namespace PrefixCode
variable {α : Type u} {β : Type v} {γ : Type w}

/-- No code word begins another one. -/
def Unambiguous (code : α → List β) : Prop :=
  ∀ a b s t, code a ++ s = code b ++ t → a = b

theorem Unambiguous.split {code : α → List β} (h : Unambiguous code) {a b : α} {s t : List β}
    (same : code a ++ s = code b ++ t) : a = b ∧ s = t := by
  have value := h a b s t same
  subst value
  exact ⟨rfl, List.append_cancel_left same⟩

theorem unambiguous_of_length {code : α → List β}
    (width : ∀ a b, (code a).length = (code b).length)
    (injective : ∀ a b, code a = code b → a = b) : Unambiguous code := by
  intro a b s t same
  exact injective a b (List.append_inj same (width a b)).1

/-- A field that may be absent, as decided elsewhere. -/
def optional (code : α → List β) : Option α → List β
  | none => []
  | some a => code a

theorem optional_split {code : α → List β} (h : Unambiguous code) {a b : Option α} {s t : List β}
    (present : a.isSome = b.isSome) (same : optional code a ++ s = optional code b ++ t) :
    a = b ∧ s = t := by
  cases a with
  | none =>
      cases b with
      | none => exact ⟨rfl, same⟩
      | some b => simp at present
  | some a =>
      cases b with
      | none => simp at present
      | some b =>
          obtain ⟨value, rest⟩ := h.split same
          exact ⟨congrArg some value, rest⟩

theorem append_prefix_iff (x y input : List β) :
    x ++ y <+: input ↔ x <+: input ∧ y <+: input.drop x.length := by
  constructor
  · rintro ⟨rest, rfl⟩
    rw [List.append_assoc, List.drop_left]
    exact ⟨List.prefix_append _ _, List.prefix_append _ _⟩
  · rintro ⟨⟨more, rfl⟩, second⟩
    rw [List.drop_left] at second
    exact (List.prefix_append_right_inj x).mpr second

/-- The reader accepts at an offset exactly what continues with a code word,
returns what is shown of it and moves to its end. -/
def Reads {ε : Type} (input : List β) (code : α → List β) (shown : α → γ)
    (read : Nat → Except ε (γ × Nat)) : Prop :=
  ∀ offset value next, read offset = .ok (value, next) ↔
    ∃ a, shown a = value ∧ code a <+: input.drop offset ∧ next = offset + (code a).length

end PrefixCode
