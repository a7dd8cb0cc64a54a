import Mathlib.Data.List.Basic

/-!
Scripted clients. A client asks its peer one thing after another and goes on only after a
good answer, so that what it has asked is always a beginning of its plan and at most the
last answer is a bad one.
-/

/-- How a log of questions and answers is read. Some good answers are judged further, and the
client may break off there too. -/
structure Conversation (κ ε : Type) where
  asked : ε → κ
  good : ε → Prop
  judged : κ → Prop

namespace Conversation
variable {κ ε : Type} (c : Conversation κ ε)

/-- These steps were asked, and all of them answered well. -/
structure UpTo (steps : List κ) (log : List ε) : Prop where
  asked : log.map c.asked = steps
  good : ∀ entry ∈ log, c.good entry

/-- The client stopped somewhere in its plan, with a reason to. -/
structure BrokenOff (plan : List κ) (log : List ε) : Prop where
  within : log.map c.asked <+: plan
  good : ∀ entry ∈ log.dropLast, c.good entry
  last : ∀ entry ∈ log.getLast?, c.good entry → c.judged (c.asked entry)

variable {c} {steps plan : List κ} {log : List ε} {entry : ε}

theorem upTo_nil : c.UpTo [] [] := ⟨rfl, by simp⟩

theorem UpTo.ask (h : c.UpTo steps log) (good : c.good entry) :
    c.UpTo (steps ++ [c.asked entry]) (log ++ [entry]) where
  asked := by simp [h.asked]
  good := by
    intro e member
    rcases List.mem_append.mp member with earlier | last
    · exact h.good e earlier
    · rwa [List.mem_singleton.mp last]

theorem UpTo.found (h : c.UpTo steps log) {k : Nat} {step : κ} (planned : steps[k]? = some step) :
    ∃ later, log[k]? = some later ∧ c.asked later = step := by
  rw [← h.asked, List.getElem?_map] at planned
  exact Option.map_eq_some_iff.mp planned

/-- The client breaks off at the answer to its next question. -/
theorem UpTo.fails (h : c.UpTo steps log) (planned : steps ++ [c.asked entry] <+: plan)
    (reason : c.good entry → c.judged (c.asked entry)) : c.BrokenOff plan (log ++ [entry]) where
  within := by simpa [h.asked] using planned
  good := by simpa using h.good
  last := by simpa using reason

theorem BrokenOff.planned (h : c.BrokenOff plan log) {k : Nat} (found : log[k]? = some entry) :
    plan[k]? = some (c.asked entry) := by
  obtain ⟨rest, split⟩ := h.within
  have inside : k < log.length := (List.getElem?_eq_some_iff.mp found).1
  rw [← split, List.getElem?_append_left (by simpa using inside), List.getElem?_map, found]
  rfl

/-- A good answer that is not judged further is followed by the next question of the plan. -/
theorem BrokenOff.next (h : c.BrokenOff plan log) {k : Nat} (found : log[k]? = some entry)
    (good : c.good entry) (plain : ¬ c.judged (c.asked entry)) :
    ∃ later, log[k + 1]? = some later ∧ plan[k + 1]? = some (c.asked later) := by
  have inside : k < log.length := (List.getElem?_eq_some_iff.mp found).1
  have more : k + 1 < log.length := by
    by_contra ends
    have same : k = log.length - 1 := by omega
    exact plain (h.last entry (by rw [List.getLast?_eq_getElem?, ← same, found]; rfl) good)
  have later := List.getElem?_eq_getElem more
  exact ⟨log[k + 1], later, h.planned later⟩

end Conversation
