import RfidBridge.Library.Actor
import RfidBridge.Python.Exceptions

/-!
The exception statements of Python on programs. `except Exception` is the only
clause the bridge uses around its collaborators; a KeyboardInterrupt passes it.
-/

namespace RfidBridge

abbrev Program (ι : Type) (ρ : ι → Type) (α : Type) := Prog ι ρ PyException α

section
variable {ι : Type} {ρ : ι → Type} {α β : Type}

/-- `raise cls(message)`. -/
abbrev raising (cls : ExceptionClass) (message : String) : Program ι ρ α :=
  .raise ⟨cls, message⟩

/-- `try: body`, `except Exception as exc: failed exc`, `else: passed`. -/
def tryElse (body : Program ι ρ α) (failed : PyException → Program ι ρ β)
    (passed : α → Program ι ρ β) : Program ι ρ β :=
  body.handle fun
    | .ok value => passed value
    | .error exc => if exc.isException then failed exc else .raise exc

/-- `try: body`, `except Exception as exc`: the exception, if there was one. -/
def attempt (body : Program ι ρ α) : Program ι ρ (Option PyException) :=
  tryElse body (fun exc => pure (some exc)) fun _ => pure none

/-- `try: body`, `except Exception: pass`. -/
def ignoring (body : Program ι ρ α) : Program ι ρ Unit :=
  tryElse body (fun _ => pure ()) fun _ => pure ()

/-- `if condition: body`. -/
def when_ (condition : Bool) (body : Program ι ρ Unit) : Program ι ρ Unit :=
  if condition then body else pure ()

end

section
variable {ι : Type} {ρ : ι → Type} {α β : Type} {allowed : ι → Prop} {body : Program ι ρ α}

theorem calls_tryElse {failed : PyException → Program ι ρ β} {passed : α → Program ι ρ β}
    (hb : body.Calls allowed) (hf : ∀ exc, (failed exc).Calls allowed)
    (hp : ∀ value, (passed value).Calls allowed) :
    (tryElse body failed passed).Calls allowed := by
  apply Prog.calls_handle hb
  intro outcome
  cases outcome with
  | ok value => exact hp value
  | error exc =>
      dsimp only
      split
      · exact hf exc
      · exact Prog.calls_raise _ _

end

section
variable {ι : Type} {ρ : ι → Type} {σ α β : Type} {body : Program ι ρ α}

theorem eval_tryElse {failed : PyException → Program ι ρ β} {passed : α → Program ι ρ β}
    (handler : (op : ι) → σ → Except PyException (ρ op) × σ) (s : σ) :
    (tryElse body failed passed).eval handler s =
      match body.eval handler s with
      | (.ok value, s') => (passed value).eval handler s'
      | (.error exc, s') =>
          if exc.isException then (failed exc).eval handler s' else (.error exc, s') := by
  rw [tryElse, Prog.eval_handle]
  cases body.eval handler s with
  | mk outcome s' =>
      cases outcome with
      | ok value => rfl
      | error exc =>
          dsimp only
          split <;> rfl

end

section
variable {ι : Type} {ρ : ι → Type} {σ α β : Type} {a : Actor ι ρ PyException σ} {I : σ → Prop}
  {body : Program ι ρ α}

theorem sat_tryElse {failed : PyException → Program ι ρ β} {passed : α → Program ι ρ β}
    {P : α → σ → Prop} {E : PyException → σ → Prop} {Q : Except PyException β → σ → Prop} {s : σ}
    (hb : a.Sat body (Actor.ends P E) s)
    (hf : ∀ exc s, exc.isException = true → E exc s → a.Sat (failed exc) Q s)
    (hr : ∀ exc s, exc.isException = false → E exc s → a.Sat (.raise exc) Q s)
    (hp : ∀ value s, P value s → a.Sat (passed value) Q s) :
    a.Sat (tryElse body failed passed) Q s := by
  apply Actor.Sat.handle
  apply hb.mono
  intro outcome s' post
  cases outcome with
  | ok value => exact hp value s' post
  | error exc =>
      dsimp only
      split
      · rename_i caught
        exact hf exc s' caught post
      · rename_i passes
        exact hr exc s' (Bool.eq_false_iff.mpr passes) post

theorem triple_tryElse {failed : PyException → Program ι ρ β} {passed : α → Program ι ρ β}
    {P : σ → Prop} {Q : α → σ → Prop} {R : β → σ → Prop} {E E' : PyException → σ → Prop}
    (hb : a.Triple P body Q E)
    (hf : ∀ exc, exc.isException = true → a.Triple (E exc) (failed exc) R E')
    (hr : ∀ exc, exc.isException = false → a.Triple (E exc) (.raise exc) R E')
    (hp : ∀ value, a.Triple (Q value) (passed value) R E') :
    a.Triple P (tryElse body failed passed) R E' :=
  fun s before => sat_tryElse (hb s before) (fun exc s' caught post => hf exc caught s' post)
    (fun exc s' passes post => hr exc passes s' post) fun value s' post => hp value s' post

theorem keeps_tryElse {failed : PyException → Program ι ρ β} {passed : α → Program ι ρ β}
    (stable : a.Stable I) (hb : a.Keeps I body) (hf : ∀ exc, a.Keeps I (failed exc))
    (hp : ∀ value, a.Keeps I (passed value)) : a.Keeps I (tryElse body failed passed) := by
  apply Actor.keeps_handle hb
  intro outcome
  cases outcome with
  | ok value => exact hp value
  | error exc =>
      dsimp only
      split
      · exact hf exc
      · exact Actor.keeps_raise stable exc

theorem keeps_attempt (stable : a.Stable I) (hb : a.Keeps I body) :
    a.Keeps I (attempt body) :=
  keeps_tryElse stable hb (fun exc => Actor.keeps_ret stable (some exc))
    fun _ => Actor.keeps_ret stable none

theorem keeps_ignoring (stable : a.Stable I) (hb : a.Keeps I body) :
    a.Keeps I (ignoring body) :=
  keeps_tryElse stable hb (fun _ => Actor.keeps_ret stable ()) fun _ => Actor.keeps_ret stable ()

/-- Only what is no Exception leaves the statement. -/
theorem triple_ignoring (stable : a.Stable I) (hb : a.Keeps I body) :
    a.Triple I (ignoring body) (fun _ => I) fun exc s => I s ∧ exc.isException = false := by
  refine triple_tryElse hb.triple ?_ ?_ ?_
  · exact fun _ _ => Actor.triple_ret stable fun _ => id
  · exact fun exc passes => Actor.triple_raise stable fun _ inv => ⟨inv, passes⟩
  · exact fun _ => Actor.triple_ret stable fun _ => id

theorem keeps_when {condition : Bool} {body : Program ι ρ Unit} (stable : a.Stable I)
    (hb : a.Keeps I body) : a.Keeps I (when_ condition body) := by
  cases condition with
  | true => exact hb
  | false => exact Actor.keeps_ret stable ()

end
end RfidBridge
