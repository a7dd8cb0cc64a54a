import Mathlib.Logic.Relation

/-!
Sequential programs over abstract operations. A program ends with a value, ends
with an exception, or calls an operation and continues with its answer, so one
term can be run alone, interleaved with other programs, or cut off anywhere.
-/

universe u

/-- Programs over the operations `ι`. Operation `op` answers a `ρ op` or raises. -/
inductive Prog (ι : Type u) (ρ : ι → Type) (ε : Type) (α : Type) : Type u
  | ret (value : α)
  | raise (exc : ε)
  | call (op : ι) (next : Except ε (ρ op) → Prog ι ρ ε α)

namespace Prog
variable {ι : Type u} {ρ : ι → Type} {ε α β γ : Type}

/-- Continue with the outcome of a program, whether a value or an exception. -/
def handle : Prog ι ρ ε α → (Except ε α → Prog ι ρ ε β) → Prog ι ρ ε β
  | .ret value, f => f (.ok value)
  | .raise exc, f => f (.error exc)
  | .call op next, f => .call op fun answer => (next answer).handle f

def ofExcept : Except ε α → Prog ι ρ ε α
  | .ok value => .ret value
  | .error exc => .raise exc

def bind (p : Prog ι ρ ε α) (f : α → Prog ι ρ ε β) : Prog ι ρ ε β :=
  p.handle fun
    | .ok value => f value
    | .error exc => .raise exc

instance : Monad (Prog ι ρ ε) where
  pure := .ret
  bind := .bind

/-- `try: p except ...: h exc`; the handler decides what it does not catch. -/
def tryExcept (p : Prog ι ρ ε α) (h : ε → Prog ι ρ ε α) : Prog ι ρ ε α :=
  p.handle fun
    | .ok value => .ret value
    | .error exc => h exc

/-- `try: p finally: cleanup`. -/
def tryFinally (p : Prog ι ρ ε α) (cleanup : Prog ι ρ ε Unit) : Prog ι ρ ε α :=
  p.handle fun outcome => cleanup.bind fun _ => ofExcept outcome

/-- Call one operation. -/
def perform (op : ι) : Prog ι ρ ε (ρ op) :=
  .call op ofExcept

/-- `for x in xs: f x`, with the results in order. -/
def forEach (xs : List α) (f : α → Prog ι ρ ε β) : Prog ι ρ ε (List β) :=
  match xs with
  | [] => .ret []
  | x :: xs => (f x).bind fun y => (forEach xs f).bind fun ys => .ret (y :: ys)

/-- A loop: rounds until one of them has a result. Beyond the given number of rounds
the program is `stuck`. -/
def repeated (stuck : Prog ι ρ ε α) (round : Prog ι ρ ε (Option α)) : Nat → Prog ι ρ ε α
  | 0 => stuck
  | n + 1 => round.bind fun
      | some value => .ret value
      | none => repeated stuck round n

def hasReturned : Prog ι ρ ε α → Bool
  | .ret _ => true
  | .raise _ | .call _ _ => false

theorem eq_ret_of_hasReturned {p : Prog ι ρ ε Unit} (h : p.hasReturned = true) : p = .ret () := by
  cases p with
  | ret => rfl
  | raise | call => cases h

theorem handle_handle (p : Prog ι ρ ε α) (f : Except ε α → Prog ι ρ ε β)
    (g : Except ε β → Prog ι ρ ε γ) :
    (p.handle f).handle g = p.handle fun outcome => (f outcome).handle g := by
  induction p with
  | ret _ | raise _ => rfl
  | call op next ih =>
      simp only [handle]
      congr 1
      funext answer
      exact ih answer

theorem handle_ofExcept (p : Prog ι ρ ε α) : p.handle ofExcept = p := by
  induction p with
  | ret _ | raise _ => rfl
  | call op next ih =>
      simp only [handle]
      congr 1
      funext answer
      exact ih answer

theorem bind_ret (p : Prog ι ρ ε α) : p.bind .ret = p := by
  rw [← handle_ofExcept p, bind, handle_handle]
  congr 1
  funext outcome
  cases outcome <;> rfl

theorem bind_bind (p : Prog ι ρ ε α) (f : α → Prog ι ρ ε β) (g : β → Prog ι ρ ε γ) :
    (p.bind f).bind g = p.bind fun value => (f value).bind g := by
  simp only [bind, handle_handle]
  congr 1
  funext outcome
  cases outcome <;> rfl

/-- Every operation that the program can reach satisfies `allowed`. -/
def Calls (allowed : ι → Prop) : Prog ι ρ ε α → Prop
  | .ret _ | .raise _ => True
  | .call op next => allowed op ∧ ∀ answer, (next answer).Calls allowed

theorem calls_call {allowed : ι → Prop} {op : ι} {next : Except ε (ρ op) → Prog ι ρ ε α} :
    (call op next).Calls allowed ↔ allowed op ∧ ∀ answer, (next answer).Calls allowed := Iff.rfl

theorem calls_pure (allowed : ι → Prop) (value : α) :
    (pure value : Prog ι ρ ε α).Calls allowed := trivial

theorem calls_raise (allowed : ι → Prop) (exc : ε) :
    (raise exc : Prog ι ρ ε α).Calls allowed := trivial

theorem Calls.mono {allowed allowed' : ι → Prop} {p : Prog ι ρ ε α} (h : p.Calls allowed)
    (wider : ∀ op, allowed op → allowed' op) : p.Calls allowed' := by
  induction p with
  | ret _ | raise _ => trivial
  | call op next ih => exact ⟨wider op h.1, fun answer => ih answer (h.2 answer)⟩

theorem calls_forall {κ : Type} {allowed : κ → ι → Prop} {p : Prog ι ρ ε α}
    (h : ∀ k, p.Calls (allowed k)) : p.Calls fun op => ∀ k, allowed k op := by
  induction p with
  | ret _ | raise _ => trivial
  | call op next ih => exact ⟨fun k => (h k).1, fun answer => ih answer fun k => (h k).2 answer⟩

theorem calls_any {allowed : ι → Prop} (every : ∀ op, allowed op) (p : Prog ι ρ ε α) :
    p.Calls allowed := by
  induction p with
  | ret _ | raise _ => trivial
  | call op next ih => exact ⟨every op, ih⟩

theorem calls_ofExcept (allowed : ι → Prop) (outcome : Except ε α) :
    (ofExcept outcome : Prog ι ρ ε α).Calls allowed := by
  cases outcome <;> trivial

theorem calls_handle {allowed : ι → Prop} {p : Prog ι ρ ε α} {f : Except ε α → Prog ι ρ ε β}
    (hp : p.Calls allowed) (hf : ∀ outcome, (f outcome).Calls allowed) :
    (p.handle f).Calls allowed := by
  induction p with
  | ret value => exact hf _
  | raise exc => exact hf _
  | call op next ih => exact ⟨hp.1, fun answer => ih answer (hp.2 answer)⟩

theorem calls_bind {allowed : ι → Prop} {p : Prog ι ρ ε α} {f : α → Prog ι ρ ε β}
    (hp : p.Calls allowed) (hf : ∀ value, (f value).Calls allowed) :
    (p.bind f).Calls allowed := by
  apply calls_handle hp
  intro outcome
  cases outcome with
  | ok value => exact hf value
  | error exc => trivial

theorem calls_tryExcept {allowed : ι → Prop} {p : Prog ι ρ ε α} {h : ε → Prog ι ρ ε α}
    (hp : p.Calls allowed) (hh : ∀ exc, (h exc).Calls allowed) :
    (p.tryExcept h).Calls allowed := by
  apply calls_handle hp
  intro outcome
  cases outcome with
  | ok value => trivial
  | error exc => exact hh exc

theorem calls_tryFinally {allowed : ι → Prop} {p : Prog ι ρ ε α} {cleanup : Prog ι ρ ε Unit}
    (hp : p.Calls allowed) (hc : cleanup.Calls allowed) : (p.tryFinally cleanup).Calls allowed :=
  calls_handle hp fun outcome => calls_bind hc fun _ => calls_ofExcept allowed outcome

theorem calls_perform {allowed : ι → Prop} {op : ι} (h : allowed op) :
    (perform op : Prog ι ρ ε (ρ op)).Calls allowed :=
  ⟨h, fun answer => calls_ofExcept allowed answer⟩

theorem calls_repeated {allowed : ι → Prop} {stuck : Prog ι ρ ε α}
    {round : Prog ι ρ ε (Option α)} (hs : stuck.Calls allowed) (hr : round.Calls allowed)
    (n : Nat) : (repeated stuck round n).Calls allowed := by
  induction n with
  | zero => exact hs
  | succ n ih =>
      apply calls_bind hr
      intro result
      cases result with
      | some value => trivial
      | none => exact ih

theorem calls_forEach {allowed : ι → Prop} {xs : List α} {f : α → Prog ι ρ ε β}
    (hf : ∀ x ∈ xs, (f x).Calls allowed) : (forEach xs f).Calls allowed := by
  induction xs with
  | nil => trivial
  | cons x xs ih =>
      apply calls_bind (hf x (List.mem_cons_self ..))
      intro y
      apply calls_bind (ih fun z hz => hf z (List.mem_cons_of_mem x hz))
      exact fun _ => True.intro

end Prog

-- the rules above say all that is needed of it, and unfolding it evaluates programs
attribute [irreducible] Prog.Calls
