import RfidBridge.Library.Actor

/-!
A program over some operations as a program over others: every operation is replaced by a
program for it. What holds behind the program then holds behind its translation, whose
handler answers an operation by running its replacement.
-/

namespace Prog
variable {κ : Type} {ρ' : κ → Type} {ι : Type} {ρ : ι → Type} {ε α β : Type}

def translate (f : (op : κ) → Prog ι ρ ε (ρ' op)) : Prog κ ρ' ε α → Prog ι ρ ε α
  | .ret value => .ret value
  | .raise exc => .raise exc
  | .call op next => (f op).handle fun answer => (next answer).translate f

section
variable (f : (op : κ) → Prog ι ρ ε (ρ' op))

@[simp] theorem translate_ret (value : α) : (ret value : Prog κ ρ' ε α).translate f = .ret value :=
  rfl

@[simp] theorem translate_raise (exc : ε) : (raise exc : Prog κ ρ' ε α).translate f = .raise exc :=
  rfl

@[simp] theorem translate_ofExcept (outcome : Except ε α) :
    (ofExcept outcome : Prog κ ρ' ε α).translate f = ofExcept outcome := by
  cases outcome <;> rfl

@[simp] theorem translate_perform (op : κ) : (perform op).translate f = f op := by
  simp only [perform, translate, translate_ofExcept]
  exact handle_ofExcept (f op)

theorem translate_handle (p : Prog κ ρ' ε α) (k : Except ε α → Prog κ ρ' ε β) :
    (p.handle k).translate f = (p.translate f).handle fun outcome => (k outcome).translate f := by
  induction p with
  | ret _ | raise _ => rfl
  | call op next ih =>
      simp only [handle, translate, handle_handle]
      congr 1
      funext answer
      exact ih answer

@[simp] theorem translate_bind (p : Prog κ ρ' ε α) (k : α → Prog κ ρ' ε β) :
    (p.bind k).translate f = (p.translate f).bind fun value => (k value).translate f := by
  simp only [bind, translate_handle]
  congr 1
  funext outcome
  cases outcome <;> rfl

@[simp] theorem translate_pure (value : α) :
    (pure value : Prog κ ρ' ε α).translate f = pure value := rfl

@[simp] theorem translate_monadBind (p : Prog κ ρ' ε α) (k : α → Prog κ ρ' ε β) :
    (p >>= k).translate f = p.translate f >>= fun value => (k value).translate f :=
  translate_bind f p k

@[simp] theorem translate_ite (c : Prop) [Decidable c] (p q : Prog κ ρ' ε α) :
    (if c then p else q).translate f = if c then p.translate f else q.translate f := by
  split <;> rfl

@[simp] theorem translate_tryExcept (p : Prog κ ρ' ε α) (h : ε → Prog κ ρ' ε α) :
    (p.tryExcept h).translate f = (p.translate f).tryExcept fun exc => (h exc).translate f := by
  simp only [tryExcept, translate_handle]
  congr 1
  funext outcome
  cases outcome <;> rfl

@[simp] theorem translate_forEach {γ : Type} (xs : List γ) (body : γ → Prog κ ρ' ε β) :
    (forEach xs body).translate f = forEach xs fun x => (body x).translate f := by
  induction xs with
  | nil => rfl
  | cons x xs ih => simp only [forEach, translate_bind, translate_ret, ih]

end

theorem calls_translate {allowed : ι → Prop} {f : (op : κ) → Prog ι ρ ε (ρ' op)}
    (each : ∀ op, (f op).Calls allowed) (p : Prog κ ρ' ε α) : (p.translate f).Calls allowed := by
  induction p with
  | ret value => exact calls_pure allowed value
  | raise exc => exact calls_raise allowed exc
  | call op next ih => exact calls_handle (each op) ih

variable {σ : Type}

/-- A translated program runs as the program does whose operations are answered by their
replacements. -/
theorem eval_translate (f : (op : κ) → Prog ι ρ ε (ρ' op))
    (handler : (op : ι) → σ → Except ε (ρ op) × σ) (p : Prog κ ρ' ε α) (s : σ) :
    (p.translate f).eval handler s = p.eval (fun op s => (f op).eval handler s) s := by
  induction p generalizing s with
  | ret _ | raise _ => rfl
  | call op next ih =>
      simp only [translate, eval_handle, eval]
      exact ih _ _

/-- What the operations that a program calls preserve, its run preserves. -/
theorem Calls.eval_keeps {allowed : ι → Prop} {p : Prog ι ρ ε α} (calls : p.Calls allowed)
    {handler : (op : ι) → σ → Except ε (ρ op) × σ} {I : σ → Prop}
    (keeps : ∀ op s, allowed op → I s → I (handler op s).2) {outcome : Except ε α} {s s' : σ}
    (run : p.eval handler s = (outcome, s')) (inv : I s) : I s' := by
  induction p generalizing s with
  | ret _ | raise _ =>
      cases run
      exact inv
  | call op next ih =>
      obtain ⟨mine, rest⟩ := calls_call.mp calls
      exact ih _ (rest _) run (keeps op s mine inv)

end Prog
