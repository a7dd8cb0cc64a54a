import RfidBridge.Library.Prog
import Mathlib.Logic.Function.Basic

/-!
Pools of threads that share a state. Each thread runs programs one after
another; a step of the pool is one operation of one thread, or the choice of a
thread's next program. Nothing is assumed about scheduling.
-/

universe u v

/-- Threads `τ` over a shared state `σ`, each with the rest of its program. -/
structure Pool (τ : Type v) (ι : Type u) (ρ : ι → Type) (ε σ : Type) where
  state : σ
  code : τ → Prog ι ρ ε Unit

namespace Pool
variable {τ : Type v} {ι : Type u} {ρ : ι → Type} {ε σ : Type} [DecidableEq τ]

/-- What thread `t` may do with operation `op`: the answer and the next state. -/
abbrev Exec (τ : Type v) (ι : Type u) (ρ : ι → Type) (ε σ : Type) :=
  τ → (op : ι) → σ → Except ε (ρ op) → σ → Prop

inductive Step (exec : Exec τ ι ρ ε σ) (body : τ → Prog ι ρ ε Unit → Prop) :
    Pool τ ι ρ ε σ → Pool τ ι ρ ε σ → Prop
  | call {c : Pool τ ι ρ ε σ} {t : τ} {op : ι} {next : Except ε (ρ op) → Prog ι ρ ε Unit}
      {answer : Except ε (ρ op)} {s : σ} :
      c.code t = .call op next → exec t op c.state answer s →
      Step exec body c ⟨s, Function.update c.code t (next answer)⟩
  | begin {c : Pool τ ι ρ ε σ} {t : τ} {p : Prog ι ρ ε Unit} :
      c.code t = .ret () → body t p → Step exec body c ⟨c.state, Function.update c.code t p⟩

/-- Any number of steps. -/
abbrev Steps (exec : Exec τ ι ρ ε σ) (body : τ → Prog ι ρ ε Unit → Prop) :
    Pool τ ι ρ ε σ → Pool τ ι ρ ε σ → Prop :=
  Relation.ReflTransGen (Step exec body)

variable {exec : Exec τ ι ρ ε σ} {body : τ → Prog ι ρ ε Unit → Prop}

/-- All code of the pool stays within the allowed operations. -/
def Within (allowed : τ → ι → Prop) (c : Pool τ ι ρ ε σ) : Prop :=
  ∀ t, (c.code t).Calls (allowed t)

theorem within_step {allowed : τ → ι → Prop} {c c' : Pool τ ι ρ ε σ}
    (bodies : ∀ t p, body t p → p.Calls (allowed t)) (within : c.Within allowed)
    (h : Step exec body c c') : c'.Within allowed := by
  intro t'
  cases h with
  | @call t op next answer s code _ =>
      by_cases same : t' = t
      · subst same
        have calls := within t'
        rw [code] at calls
        simpa using (Prog.calls_call.mp calls).2 answer
      · simpa [Function.update_of_ne same] using within t'
  | @begin t p _ chosen =>
      by_cases same : t' = t
      · subst same
        simpa using bodies t' p chosen
      · simpa [Function.update_of_ne same] using within t'

/-- A property of the shared state that every allowed operation keeps holds in
every state that a pool of allowed programs reaches. -/
theorem invariant_of_allowed {allowed : τ → ι → Prop} {I : σ → Prop} {c c' : Pool τ ι ρ ε σ}
    (bodies : ∀ t p, body t p → p.Calls (allowed t))
    (keeps : ∀ t op s answer s', allowed t op → exec t op s answer s' → I s → I s')
    (within : c.Within allowed) (init : I c.state) (run : Steps exec body c c') :
    c'.Within allowed ∧ I c'.state := by
  induction run with
  | refl => exact ⟨within, init⟩
  | tail _ h ih =>
      refine ⟨within_step bodies ih.1 h, ?_⟩
      cases h with
      | @call t op next answer s code ex =>
          have calls := ih.1 t
          rw [code] at calls
          exact keeps t op _ answer s (Prog.calls_call.mp calls).1 ex ih.2
      | begin => exact ih.2

/-- The same for a relation between two states of one run. -/
theorem relation_of_allowed {allowed : τ → ι → Prop} {I : σ → Prop} {T : σ → σ → Prop}
    {c c' : Pool τ ι ρ ε σ}
    (bodies : ∀ t p, body t p → p.Calls (allowed t))
    (keeps : ∀ t op s answer s', allowed t op → exec t op s answer s' → I s → I s' ∧ T s s')
    (refl : ∀ s, T s s) (trans : ∀ s₁ s₂ s₃, T s₁ s₂ → T s₂ s₃ → T s₁ s₃)
    (within : c.Within allowed) (init : I c.state) (run : Steps exec body c c') :
    T c.state c'.state := by
  induction run with
  | refl => exact refl _
  | tail before h ih =>
      obtain ⟨inside, inv⟩ := invariant_of_allowed bodies
        (fun t op s answer s' ok ex i => (keeps t op s answer s' ok ex i).1) within init before
      cases h with
      | @call t op next answer s code ex =>
          have calls := inside t
          rw [code] at calls
          exact trans _ _ _ ih (keeps t op _ answer s (Prog.calls_call.mp calls).1 ex inv).2
      | begin => exact ih

/-- A thread that starts nothing anew and ends has passed from a program to its continuation. -/
theorem passes_handle {α : Type} {c c' : Pool τ ι ρ ε σ} {t : τ} {p : Prog ι ρ ε α}
    {f : Except ε α → Prog ι ρ ε Unit} (fixed : ∀ q, ¬ body t q) (code : c.code t = p.handle f)
    (run : Steps exec body c c') (ended : c'.code t = .ret ()) :
    ∃ mid outcome, Steps exec body c mid ∧ Steps exec body mid c' ∧ mid.code t = f outcome := by
  have split : (∃ q : Prog ι ρ ε α, c'.code t = q.handle f) ∨
      ∃ mid outcome, Steps exec body c mid ∧ Steps exec body mid c' ∧ mid.code t = f outcome := by
    clear ended
    induction run with
    | refl => exact .inl ⟨p, code⟩
    | @tail b c' before h ih =>
        rcases ih with ⟨q, still⟩ | ⟨mid, outcome, first, rest, there⟩
        · cases q with
          | ret value => exact .inr ⟨b, .ok value, before, .single h, still⟩
          | raise exc => exact .inr ⟨b, .error exc, before, .single h, still⟩
          | call op next =>
              cases h with
              | @call t' op' next' answer s code' ex =>
                  by_cases same : t = t'
                  · subst same
                    rw [still] at code'
                    cases code'
                    exact .inl ⟨next answer, Function.update_self ..⟩
                  · refine .inl ⟨.call op next, ?_⟩
                    rw [← still]
                    exact Function.update_of_ne same ..
              | @begin t' q' _ chosen =>
                  by_cases same : t = t'
                  · exact absurd (same ▸ chosen) (fixed q')
                  · refine .inl ⟨.call op next, ?_⟩
                    rw [← still]
                    exact Function.update_of_ne same ..
        · exact .inr ⟨mid, outcome, first, rest.tail h, there⟩
  rcases split with ⟨q, still⟩ | passed
  · cases q with
    | ret value => exact ⟨c', .ok value, run, .refl, still⟩
    | raise exc => exact ⟨c', .error exc, run, .refl, still⟩
    | call op next =>
        rw [still] at ended
        cases ended
  · exact passed

/-- A thread that has raised and starts nothing anew does nothing more. -/
theorem code_of_raised {c c' : Pool τ ι ρ ε σ} {t : τ} {exc : ε} (fixed : ∀ q, ¬ body t q)
    (code : c.code t = .raise exc) (run : Steps exec body c c') : c'.code t = .raise exc := by
  induction run with
  | refl => exact code
  | tail _ h ih =>
      cases h with
      | @call t' op next answer s code' _ =>
          by_cases same : t = t'
          · subst same
            rw [ih] at code'
            cases code'
          · simpa [Function.update_of_ne same] using ih
      | @begin t' q _ chosen =>
          by_cases same : t = t'
          · exact absurd (same ▸ chosen) (fixed q)
          · simpa [Function.update_of_ne same] using ih

/-- The same for a sequence: its first part has returned. -/
theorem passes_bind {α : Type} {c c' : Pool τ ι ρ ε σ} {t : τ} {p : Prog ι ρ ε α}
    {f : α → Prog ι ρ ε Unit} (fixed : ∀ q, ¬ body t q) (code : c.code t = p.bind f)
    (run : Steps exec body c c') (ended : c'.code t = .ret ()) :
    ∃ mid value, Steps exec body c mid ∧ Steps exec body mid c' ∧ mid.code t = f value := by
  obtain ⟨mid, outcome, first, rest, there⟩ := passes_handle fixed code run ended
  cases outcome with
  | ok value => exact ⟨mid, value, first, rest, there⟩
  | error exc =>
      rw [code_of_raised fixed there rest] at ended
      cases ended

/-- One step of thread `t`, where `respond` executes an operation and `next` says what
an idle thread runs. -/
def advance (respond : τ → (op : ι) → σ → Option (Except ε (ρ op) × σ))
    (next : τ → Option (Prog ι ρ ε Unit)) (c : Pool τ ι ρ ε σ) (t : τ) :
    Option (Pool τ ι ρ ε σ) :=
  match c.code t with
  | .call op rest =>
      (respond t op c.state).map fun (answer, s) => ⟨s, Function.update c.code t (rest answer)⟩
  | .ret _ => (next t).map fun p => ⟨c.state, Function.update c.code t p⟩
  | .raise _ => none

/-- The steps of a schedule, one after another. -/
def follow (respond : τ → (op : ι) → σ → Option (Except ε (ρ op) × σ))
    (next : τ → Option (Prog ι ρ ε Unit)) :
    List τ → Pool τ ι ρ ε σ → Option (Pool τ ι ρ ε σ)
  | [], c => some c
  | t :: schedule, c => (advance respond next c t).bind (follow respond next schedule)

/-- A thread that has no turn keeps its code. -/
theorem code_of_follow {respond : τ → (op : ι) → σ → Option (Except ε (ρ op) × σ)}
    {next : τ → Option (Prog ι ρ ε Unit)} {schedule : List τ} {c c' : Pool τ ι ρ ε σ}
    (h : follow respond next schedule c = some c') {t : τ} (absent : t ∉ schedule) :
    c'.code t = c.code t := by
  induction schedule generalizing c with
  | nil =>
      cases h
      rfl
  | cons other schedule ih =>
      obtain ⟨mid, first, rest⟩ := Option.bind_eq_some_iff.mp h
      rw [ih rest fun member => absent (List.mem_cons_of_mem _ member)]
      have apart : t ≠ other := fun same => absent (same ▸ List.mem_cons_self ..)
      unfold advance at first
      split at first
      · obtain ⟨_, -, rfl⟩ := Option.map_eq_some_iff.mp first
        exact Function.update_of_ne apart _ _
      · obtain ⟨_, -, rfl⟩ := Option.map_eq_some_iff.mp first
        exact Function.update_of_ne apart _ _
      · cases first

section
variable {respond : τ → (op : ι) → σ → Option (Except ε (ρ op) × σ)}
  {next : τ → Option (Prog ι ρ ε Unit)}
  (sound : ∀ t op s answer s', respond t op s = some (answer, s') → exec t op s answer s')
  (offered : ∀ t p, next t = some p → body t p)
include sound offered

theorem step_of_advance {c c' : Pool τ ι ρ ε σ} {t : τ}
    (h : advance respond next c t = some c') : Step exec body c c' := by
  unfold advance at h
  split at h
  · rename_i op rest code
    obtain ⟨⟨answer, s⟩, answered, rfl⟩ := Option.map_eq_some_iff.mp h
    exact .call code (sound t op c.state answer s answered)
  · rename_i code
    obtain ⟨p, chosen, rfl⟩ := Option.map_eq_some_iff.mp h
    exact .begin code (offered t p chosen)
  · cases h

/-- What a schedule leads to is reachable. -/
theorem steps_of_follow {schedule : List τ} {c c' : Pool τ ι ρ ε σ}
    (h : follow respond next schedule c = some c') : Steps exec body c c' := by
  induction schedule generalizing c with
  | nil =>
      cases h
      exact .refl
  | cons t schedule ih =>
      obtain ⟨mid, first, rest⟩ := Option.bind_eq_some_iff.mp h
      exact .head (step_of_advance sound offered first) (ih rest)

end
end Pool
