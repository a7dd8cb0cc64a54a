import RfidBridge.Library.Actor

/-!
Threads under a law. The law says of each thread when it may execute an operation; an
invariant that every lawful step keeps then holds beside any assertion of a thread that
the steps of the others do not disturb.
-/

universe v

namespace Actor
variable {τ : Type v} {ι : Type} {ρ : ι → Type} {ε σ α : Type}

/-- What all threads keep, and what the steps of the others look like to thread `t`. -/
structure Discipline (exec : Pool.Exec τ ι ρ ε σ) (law : τ → ι → σ → Prop) (t : τ)
    (inv : σ → Prop) (calm : σ → σ → Prop) : Prop where
  keeps : ∀ t' op s answer s', law t' op s → exec t' op s answer s' → inv s → inv s'
  others : ∀ t' op s answer s', t' ≠ t → law t' op s → exec t' op s answer s' → inv s → calm s s'

/-- An assertion that calm steps leave alone. -/
def Lasts (calm : σ → σ → Prop) (P : σ → Prop) : Prop := ∀ s s', calm s s' → P s → P s'

/-- An assertion beside the invariant. -/
def Under (inv P : σ → Prop) (s : σ) : Prop := inv s ∧ P s

section
variable {inv P P' : σ → Prop} {calm : σ → σ → Prop}

theorem lasts_true : Lasts calm fun _ => True := fun _ _ _ => id

theorem lasts_and (hP : Lasts calm P) (hP' : Lasts calm P') : Lasts calm fun s => P s ∧ P' s :=
  fun s s' step h => ⟨hP s s' step h.1, hP' s s' step h.2⟩

theorem lasts_or (hP : Lasts calm P) (hP' : Lasts calm P') : Lasts calm fun s => P s ∨ P' s :=
  fun s s' step h => h.imp (hP s s' step) (hP' s s' step)

theorem lasts_imp {p : Prop} (hP : Lasts calm P) : Lasts calm fun s => p → P s :=
  fun s s' step h holds => hP s s' step (h holds)

theorem Under.weaken {s : σ} (h : Under inv P s) : Under inv (fun _ => True) s := ⟨h.1, trivial⟩

end

namespace Discipline
variable {exec : Pool.Exec τ ι ρ ε σ} {law : τ → ι → σ → Prop} {t : τ} {inv P P' : σ → Prop}
  {calm : σ → σ → Prop} (d : Discipline exec law t inv calm) {p : Prog ι ρ ε α}
include d

theorem stable (lasts : Lasts calm P) : (member exec law t).Stable (Under inv P) :=
  stable_member fun t' op s answer s' other step lawful h =>
    ⟨d.keeps t' op s answer s' lawful step h.1,
      lasts s s' (d.others t' op s answer s' other lawful step h.1) h.2⟩

/-- One operation between two assertions. -/
theorem triple_act (op : ι) {Q : ρ op → σ → Prop} {E : ε → σ → Prop} (lasts : Lasts calm P)
    (lasts' : ∀ value, Lasts calm (Q value)) (fails : ∀ exc, (member exec law t).Stable (E exc))
    (lawful : ∀ s answer s', Under inv P s → exec t op s answer s' → law t op s)
    (returns : ∀ s value s', Under inv P s → exec t op s (.ok value) s' → Q value s')
    (raises : ∀ s exc s', Under inv P s → exec t op s (.error exc) s' → inv s' → E exc s') :
    (member exec law t).Triple (Under inv P) (Prog.perform op) (fun value => Under inv (Q value))
      E := by
  intro s before
  apply Sat.perform
  intro s₁ rely answer s₂ step
  have here := d.stable lasts s s₁ before rely
  have may := lawful s₁ answer s₂ here step
  have holds := d.keeps t op s₁ answer s₂ may step here.1
  refine ⟨⟨op, answer, step, may⟩, fun s₃ rely' => ?_⟩
  cases answer with
  | ok value =>
      exact d.stable (lasts' value) s₂ s₃ ⟨holds, returns s₁ value s₂ here step⟩ rely'
  | error exc => exact fails exc s₂ s₃ (raises s₁ exc s₂ here step holds) rely'

/-- The same where the assertion alone makes the operation lawful. -/
theorem triple_perform (op : ι) {Q : ρ op → σ → Prop} {E : ε → σ → Prop} (lasts : Lasts calm P)
    (lasts' : ∀ value, Lasts calm (Q value)) (fails : ∀ exc, (member exec law t).Stable (E exc))
    (lawful : ∀ s, Under inv P s → law t op s)
    (returns : ∀ s value s', Under inv P s → exec t op s (.ok value) s' → Q value s')
    (raises : ∀ s exc s', Under inv P s → exec t op s (.error exc) s' → inv s' → E exc s') :
    (member exec law t).Triple (Under inv P) (Prog.perform op) (fun value => Under inv (Q value))
      E :=
  d.triple_act op lasts lasts' fails (fun s _ _ h _ => lawful s h) returns raises

/-- A program of operations that are lawful here and keep the assertion. -/
theorem keeps_of_calls {allowed : ι → Prop} (lasts : Lasts calm P)
    (lawful : ∀ op s, allowed op → Under inv P s → law t op s)
    (step : ∀ op s answer s', allowed op → Under inv P s → exec t op s answer s' → P s')
    (calls : p.Calls allowed) : (member exec law t).Keeps (Under inv P) p := by
  refine Actor.keeps_of_calls (d.stable lasts) ?_ calls
  intro op s answer s' may h ex
  have within := lawful op s may h
  exact ⟨⟨op, answer, ex, within⟩, d.keeps t op s answer s' within ex h.1,
    step op s answer s' may h ex⟩

end Discipline
end Actor
