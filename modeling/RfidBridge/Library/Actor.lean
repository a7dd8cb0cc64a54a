import RfidBridge.Library.Pool

/-!
Programs beside other programs. An actor executes operations on a shared state,
relies on what the others may do between them and guarantees what it does itself.
`Sat` says that a program keeps the guarantee at every operation and ends in a
given postcondition, whatever happens in between; its rules follow the program.
-/

universe v

structure Actor (ι : Type) (ρ : ι → Type) (ε σ : Type) where
  exec : (op : ι) → σ → Except ε (ρ op) → σ → Prop
  rely : σ → σ → Prop
  guarantee : σ → σ → Prop
  rely_refl : ∀ s, rely s s
  rely_trans : ∀ {s₁ s₂ s₃}, rely s₁ s₂ → rely s₂ s₃ → rely s₁ s₃

namespace Actor
variable {ι : Type} {ρ : ι → Type} {ε σ α β : Type}

/-- The actor that runs with nobody else. -/
def alone (exec : (op : ι) → σ → Except ε (ρ op) → σ → Prop) : Actor ι ρ ε σ where
  exec
  rely := Eq
  guarantee _ _ := True
  rely_refl _ := rfl
  rely_trans := Eq.trans

variable (a : Actor ι ρ ε σ)

def Sat : Prog ι ρ ε α → (Except ε α → σ → Prop) → σ → Prop
  | .ret value, Q, s => ∀ s', a.rely s s' → Q (.ok value) s'
  | .raise exc, Q, s => ∀ s', a.rely s s' → Q (.error exc) s'
  | .call op next, Q, s => ∀ s₁, a.rely s s₁ → ∀ answer s₂, a.exec op s₁ answer s₂ →
      a.guarantee s₁ s₂ ∧ Sat (next answer) Q s₂

variable {a} {p : Prog ι ρ ε α} {s s' : σ}

theorem Sat.mono {Q Q' : Except ε α → σ → Prop} (h : a.Sat p Q s)
    (imp : ∀ outcome s, Q outcome s → Q' outcome s) : a.Sat p Q' s := by
  induction p generalizing s with
  | ret value => exact fun s' r => imp _ _ (h s' r)
  | raise exc => exact fun s' r => imp _ _ (h s' r)
  | call op next ih =>
      intro s₁ r answer s₂ ex
      obtain ⟨kept, rest⟩ := h s₁ r answer s₂ ex
      exact ⟨kept, ih answer rest⟩

/-- What others do before the program starts does not matter to it. -/
theorem Sat.of_rely {Q : Except ε α → σ → Prop} (h : a.Sat p Q s) (r : a.rely s s') :
    a.Sat p Q s' := by
  cases p with
  | ret value => exact fun s'' r' => h s'' (a.rely_trans r r')
  | raise exc => exact fun s'' r' => h s'' (a.rely_trans r r')
  | call op next => exact fun s₁ r' => h s₁ (a.rely_trans r r')

theorem Sat.handle {f : Except ε α → Prog ι ρ ε β} {Q : Except ε β → σ → Prop}
    (h : a.Sat p (fun outcome s => a.Sat (f outcome) Q s) s) : a.Sat (p.handle f) Q s := by
  induction p generalizing s with
  | ret value => exact h s (a.rely_refl s)
  | raise exc => exact h s (a.rely_refl s)
  | call op next ih =>
      intro s₁ r answer s₂ ex
      obtain ⟨kept, rest⟩ := h s₁ r answer s₂ ex
      exact ⟨kept, ih answer rest⟩

/-- A postcondition for both ways a program can end. -/
def ends (Q : α → σ → Prop) (E : ε → σ → Prop) : Except ε α → σ → Prop
  | .ok value => Q value
  | .error exc => E exc

theorem Sat.bind {f : α → Prog ι ρ ε β} {Q : β → σ → Prop} {E : ε → σ → Prop}
    (stable : ∀ exc s s', E exc s → a.rely s s' → E exc s')
    (h : a.Sat p (ends (fun value s => a.Sat (f value) (ends Q E) s) E) s) :
    a.Sat (p.bind f) (ends Q E) s := by
  apply Sat.handle
  apply h.mono
  intro outcome s₁ post
  cases outcome with
  | ok value => exact post
  | error exc => exact fun s₂ r => stable exc s₁ s₂ post r

/-- `p; f` with an assertion in between. -/
theorem Sat.seq {f : α → Prog ι ρ ε β} {P : α → σ → Prop} {Q : β → σ → Prop} {E : ε → σ → Prop}
    (stable : ∀ exc s s', E exc s → a.rely s s' → E exc s') (hp : a.Sat p (ends P E) s)
    (hf : ∀ value s, P value s → a.Sat (f value) (ends Q E) s) :
    a.Sat (p.bind f) (ends Q E) s := by
  apply Sat.bind stable
  apply hp.mono
  intro outcome s₁ post
  cases outcome with
  | ok value => exact hf value s₁ post
  | error exc => exact post

/-- What a program guarantees of its next operation. -/
theorem Sat.step {op : ι} {next : Except ε (ρ op) → Prog ι ρ ε α} {Q : Except ε α → σ → Prop}
    (h : a.Sat (.call op next) Q s) {answer : Except ε (ρ op)} (ex : a.exec op s answer s') :
    a.guarantee s s' :=
  (h s (a.rely_refl s) answer s' ex).1

/-- What holds of a program that has returned. -/
theorem Sat.ended {value : α} {Q : Except ε α → σ → Prop} (h : a.Sat (.ret value) Q s) :
    Q (.ok value) s :=
  h s (a.rely_refl s)

theorem Sat.ret {value : α} {Q : Except ε α → σ → Prop}
    (h : ∀ s', a.rely s s' → Q (.ok value) s') : a.Sat (.ret value) Q s := h

theorem Sat.raise {exc : ε} {Q : Except ε α → σ → Prop}
    (h : ∀ s', a.rely s s' → Q (.error exc) s') : a.Sat (.raise exc) Q s := h

theorem Sat.perform {op : ι} {Q : Except ε (ρ op) → σ → Prop}
    (h : ∀ s₁, a.rely s s₁ → ∀ answer s₂, a.exec op s₁ answer s₂ →
      a.guarantee s₁ s₂ ∧ ∀ s₃, a.rely s₂ s₃ → Q answer s₃) : a.Sat (Prog.perform op) Q s := by
  intro s₁ r answer s₂ ex
  obtain ⟨kept, post⟩ := h s₁ r answer s₂ ex
  refine ⟨kept, ?_⟩
  cases answer <;> exact post

/-- A program that keeps an assertion, whichever way it ends. -/
def Keeps (a : Actor ι ρ ε σ) (I : σ → Prop) (p : Prog ι ρ ε α) : Prop :=
  ∀ s, I s → a.Sat p (fun _ => I) s

/-- The others do not disturb the assertion. -/
def Stable (a : Actor ι ρ ε σ) (I : σ → Prop) : Prop :=
  ∀ s s', I s → a.rely s s' → I s'

section
variable {I : σ → Prop}

theorem Keeps.sat (h : a.Keeps I p) (inv : I s) :
    a.Sat p (ends (fun _ => I) fun _ => I) s := by
  apply (h s inv).mono
  intro outcome s' post
  cases outcome <;> exact post

theorem keeps_ret (stable : a.Stable I) (value : α) :
    a.Keeps I (.ret value : Prog ι ρ ε α) := fun s inv s' r => stable s s' inv r

theorem keeps_raise (stable : a.Stable I) (exc : ε) :
    a.Keeps I (.raise exc : Prog ι ρ ε α) := fun s inv s' r => stable s s' inv r

theorem keeps_ofExcept (stable : a.Stable I) (outcome : Except ε α) :
    a.Keeps I (Prog.ofExcept outcome : Prog ι ρ ε α) := by
  cases outcome with
  | ok value => exact keeps_ret stable value
  | error exc => exact keeps_raise stable exc

theorem keeps_handle {f : Except ε α → Prog ι ρ ε β} (hp : a.Keeps I p)
    (hf : ∀ outcome, a.Keeps I (f outcome)) : a.Keeps I (p.handle f) :=
  fun s inv => Sat.handle ((hp s inv).mono fun outcome s' inv' => hf outcome s' inv')

theorem keeps_bind {f : α → Prog ι ρ ε β} (stable : a.Stable I) (hp : a.Keeps I p)
    (hf : ∀ value, a.Keeps I (f value)) : a.Keeps I (p.bind f) := by
  apply keeps_handle hp
  intro outcome
  cases outcome with
  | ok value => exact hf value
  | error exc => exact keeps_raise stable exc

theorem keeps_perform {op : ι} (stable : a.Stable I)
    (h : ∀ s answer s', I s → a.exec op s answer s' → a.guarantee s s' ∧ I s') :
    a.Keeps I (Prog.perform op : Prog ι ρ ε (ρ op)) := by
  intro s inv
  apply Sat.perform
  intro s₁ r answer s₂ ex
  obtain ⟨kept, inv₂⟩ := h s₁ answer s₂ (stable s s₁ inv r) ex
  exact ⟨kept, fun s₃ r' => stable s₂ s₃ inv₂ r'⟩

theorem keeps_forEach {xs : List α} {f : α → Prog ι ρ ε β} (stable : a.Stable I)
    (hf : ∀ x ∈ xs, a.Keeps I (f x)) : a.Keeps I (Prog.forEach xs f) := by
  induction xs with
  | nil => exact keeps_ret stable _
  | cons x xs ih =>
      apply keeps_bind stable (hf x (List.mem_cons_self ..))
      intro y
      apply keeps_bind stable (ih fun z hz => hf z (List.mem_cons_of_mem x hz))
      exact fun ys => keeps_ret stable _

/-- A program whose every operation keeps the assertion. -/
theorem keeps_of_calls {allowed : ι → Prop} (stable : a.Stable I)
    (h : ∀ op s answer s', allowed op → I s → a.exec op s answer s' → a.guarantee s s' ∧ I s')
    (calls : p.Calls allowed) : a.Keeps I p := by
  induction p with
  | ret value => exact keeps_ret stable value
  | raise exc => exact keeps_raise stable exc
  | call op next ih =>
      intro s inv s₁ r answer s₂ ex
      obtain ⟨mine, others⟩ := Prog.calls_call.mp calls
      obtain ⟨kept, inv₂⟩ := h op s₁ answer s₂ mine (stable s s₁ inv r) ex
      exact ⟨kept, ih answer (others answer) s₂ inv₂⟩

theorem sat_alone {exec : (op : ι) → σ → Except ε (ρ op) → σ → Prop} (p : Prog ι ρ ε α) (s : σ) :
    (alone exec).Sat p (fun _ _ => True) s := by
  induction p generalizing s with
  | ret value | raise exc => exact fun _ _ => trivial
  | call op next ih => exact fun _ _ answer s₂ _ => ⟨trivial, ih answer s₂⟩

theorem stable_alone {exec : (op : ι) → σ → Except ε (ρ op) → σ → Prop} {I : σ → Prop} :
    (alone exec).Stable I := by
  rintro s _ inv rfl
  exact inv

section
variable {exec : (op : ι) → σ → Except ε (ρ op) → σ → Prop}

theorem Sat.perform_alone {op : ι} {Q : Except ε (ρ op) → σ → Prop}
    (h : ∀ answer s', exec op s answer s' → Q answer s') :
    (alone exec).Sat (Prog.perform op) Q s := by
  apply Sat.perform
  rintro _ rfl answer s' ex
  refine ⟨trivial, ?_⟩
  rintro _ rfl
  exact h answer s' ex

theorem Sat.seq_alone {f : α → Prog ι ρ ε β} {P : α → σ → Prop} {Q : β → σ → Prop}
    {E : ε → σ → Prop} (hp : (alone exec).Sat p (ends P E) s)
    (hf : ∀ value s, P value s → (alone exec).Sat (f value) (ends Q E) s) :
    (alone exec).Sat (p.bind f) (ends Q E) s :=
  Sat.seq (fun _ => stable_alone) hp hf

theorem Sat.ret_alone {value : α} {Q : Except ε α → σ → Prop} (h : Q (.ok value) s) :
    (alone exec).Sat (.ret value) Q s := by
  apply Sat.ret
  rintro _ rfl
  exact h

theorem Sat.ofExcept_alone {outcome : Except ε α} {Q : Except ε α → σ → Prop} (h : Q outcome s) :
    (alone exec).Sat (Prog.ofExcept outcome) Q s := by
  cases outcome with
  | ok value => exact Sat.ret_alone h
  | error exc =>
      apply Sat.raise
      rintro _ rfl
      exact h

end

/-- An operation between two assertions that the others do not disturb. -/
theorem Sat.perform_stable {op : ι} {P : σ → Prop} {Q : Except ε (ρ op) → σ → Prop}
    (stable : a.Stable P) (stable' : ∀ answer, a.Stable (Q answer))
    (step : ∀ s answer s', P s → a.exec op s answer s' → a.guarantee s s' ∧ Q answer s')
    (pre : P s) : a.Sat (Prog.perform op) Q s := by
  apply Sat.perform
  intro s₁ r answer s₂ ex
  obtain ⟨kept, post⟩ := step s₁ answer s₂ (stable s s₁ pre r) ex
  exact ⟨kept, fun s₃ r' => stable' answer s₂ s₃ post r'⟩

/-- A query whose answer an assertion decides. -/
theorem Sat.reads {op : ι} {v : ρ op} (stable : a.Stable I)
    (step : ∀ s answer s', I s → a.exec op s answer s' → a.guarantee s s' ∧ I s')
    (fixes : ∀ s value s', I s → a.exec op s (.ok value) s' → value = v) (pre : I s) :
    a.Sat (Prog.perform op) (ends (fun value s => value = v ∧ I s) fun _ => I) s := by
  apply Sat.perform
  intro s₁ r answer s₂ ex
  have inv := stable s s₁ pre r
  obtain ⟨kept, inv₂⟩ := step s₁ answer s₂ inv ex
  refine ⟨kept, fun s₃ r' => ?_⟩
  cases answer with
  | ok value => exact ⟨fixes s₁ value s₂ inv ex, stable s₂ s₃ inv₂ r'⟩
  | error _ => exact stable s₂ s₃ inv₂ r'

end

/-- From `P` the program returns in `Q` or raises in `E`, and keeps the guarantee. -/
def Triple (a : Actor ι ρ ε σ) (P : σ → Prop) (p : Prog ι ρ ε α) (Q : α → σ → Prop)
    (E : ε → σ → Prop) : Prop :=
  ∀ s, P s → a.Sat p (ends Q E) s

section
variable {P P' : σ → Prop} {Q Q' : α → σ → Prop} {E E' : ε → σ → Prop}

theorem Triple.conseq (h : a.Triple P p Q E) (pre : ∀ s, P' s → P s)
    (post : ∀ value s, Q value s → Q' value s) (fails : ∀ exc s, E exc s → E' exc s) :
    a.Triple P' p Q' E' := by
  intro s before
  apply (h s (pre s before)).mono
  intro outcome s' after
  cases outcome with
  | ok value => exact post value s' after
  | error exc => exact fails exc s' after

theorem Triple.seq {f : α → Prog ι ρ ε β} {R : β → σ → Prop}
    (stable : ∀ exc, a.Stable (E exc)) (hp : a.Triple P p Q E)
    (hf : ∀ value, a.Triple (Q value) (f value) R E) : a.Triple P (p.bind f) R E :=
  fun s before => Sat.seq stable (hp s before) fun value s' after => hf value s' after

theorem Triple.handle {f : Except ε α → Prog ι ρ ε β} {R : β → σ → Prop} {E' : ε → σ → Prop}
    (hp : a.Triple P p Q E) (returned : ∀ value, a.Triple (Q value) (f (.ok value)) R E')
    (failed : ∀ exc, a.Triple (E exc) (f (.error exc)) R E') :
    a.Triple P (p.handle f) R E' := by
  intro s before
  apply Sat.handle
  apply (hp s before).mono
  intro outcome s' after
  cases outcome with
  | ok value => exact returned value s' after
  | error exc => exact failed exc s' after

theorem triple_ret {value : α} (stable : a.Stable P) (post : ∀ s, P s → Q value s) :
    a.Triple P (.ret value) Q E :=
  fun s before => Sat.ret fun s' r => post s' (stable s s' before r)

theorem triple_raise {exc : ε} (stable : a.Stable P) (post : ∀ s, P s → E exc s) :
    a.Triple P (.raise exc) Q E :=
  fun s before => Sat.raise fun s' r => post s' (stable s s' before r)

theorem Keeps.triple (h : a.Keeps P p) : a.Triple P p (fun _ => P) fun _ => P :=
  fun _ before => h.sat before

theorem Triple.keeps (h : a.Triple P p (fun _ => P) fun _ => P) : a.Keeps P p := by
  intro s before
  apply (h s before).mono
  intro outcome s' after
  cases outcome <;> exact after

/-- A loop over a list, each round between the same assertions. -/
theorem triple_forEach {xs : List β} {f : β → Prog ι ρ ε α} (stable : a.Stable P)
    (fails : ∀ exc, a.Stable (E exc)) (h : ∀ x ∈ xs, a.Triple P (f x) (fun _ => P) E) :
    a.Triple P (Prog.forEach xs f) (fun _ => P) E := by
  induction xs with
  | nil => exact triple_ret stable fun _ before => before
  | cons x xs ih =>
      apply Triple.seq fails (h x (List.mem_cons_self ..))
      intro y
      apply Triple.seq fails (ih fun z hz => h z (List.mem_cons_of_mem x hz))
      exact fun ys => triple_ret stable fun _ before => before

end
end Actor

namespace Prog
variable {ι : Type} {ρ : ι → Type} {ε σ α : Type}

/-- A run of a program alone, from a state to an outcome and a state. -/
def Runs (exec : (op : ι) → σ → Except ε (ρ op) → σ → Prop) :
    Prog ι ρ ε α → σ → Except ε α → σ → Prop
  | .ret value, s, outcome, s' => outcome = .ok value ∧ s' = s
  | .raise exc, s, outcome, s' => outcome = .error exc ∧ s' = s
  | .call op next, s, outcome, s' =>
      ∃ answer s₁, exec op s answer s₁ ∧ (next answer).Runs exec s₁ outcome s'

variable {exec : (op : ι) → σ → Except ε (ρ op) → σ → Prop} {p : Prog ι ρ ε α}

theorem Runs.post {s s' : σ} {outcome : Except ε α} {Q : Except ε α → σ → Prop}
    (run : p.Runs exec s outcome s') (h : (Actor.alone exec).Sat p Q s) : Q outcome s' := by
  induction p generalizing s with
  | ret value =>
      obtain ⟨rfl, rfl⟩ := run
      exact h _ rfl
  | raise exc =>
      obtain ⟨rfl, rfl⟩ := run
      exact h _ rfl
  | call op next ih =>
      obtain ⟨answer, s₁, ex, rest⟩ := run
      exact ih answer rest (h s rfl answer s₁ ex).2

/-- The run in which a handler answers every operation. -/
def eval (handler : (op : ι) → σ → Except ε (ρ op) × σ) : Prog ι ρ ε α → σ → Except ε α × σ
  | .ret value, s => (.ok value, s)
  | .raise exc, s => (.error exc, s)
  | .call op next, s => (next (handler op s).1).eval handler (handler op s).2

theorem eval_handle {β : Type} (handler : (op : ι) → σ → Except ε (ρ op) × σ) (p : Prog ι ρ ε α)
    (f : Except ε α → Prog ι ρ ε β) (s : σ) :
    (p.handle f).eval handler s =
      (f (p.eval handler s).1).eval handler (p.eval handler s).2 := by
  induction p generalizing s with
  | ret _ | raise _ => rfl
  | call op next ih => exact ih (handler op s).1 (handler op s).2

theorem eval_bind {β : Type} (handler : (op : ι) → σ → Except ε (ρ op) × σ) (p : Prog ι ρ ε α)
    (f : α → Prog ι ρ ε β) (s : σ) :
    (p.bind f).eval handler s =
      match p.eval handler s with
      | (.ok value, s') => (f value).eval handler s'
      | (.error exc, s') => (.error exc, s') := by
  rw [bind, eval_handle]
  cases p.eval handler s with
  | mk outcome s' => cases outcome <;> rfl

theorem eval_perform (handler : (op : ι) → σ → Except ε (ρ op) × σ) (op : ι) (s : σ) :
    (perform op).eval handler s = handler op s := by
  unfold perform eval
  cases handler op s with
  | mk answer s' => cases answer <;> rfl

/-- A loop followed by `k` runs its first round, and then the rest with the result kept. -/
theorem eval_forEach_cons {β γ : Type} (handler : (op : ι) → σ → Except ε (ρ op) × σ) (x : α)
    (xs : List α) (f : α → Prog ι ρ ε β) (k : List β → Prog ι ρ ε γ) (s : σ) :
    ((forEach (x :: xs) f).bind k).eval handler s =
      match (f x).eval handler s with
      | (.ok y, s') => ((forEach xs f).bind fun ys => k (y :: ys)).eval handler s'
      | (.error exc, s') => (.error exc, s') := by
  simp only [forEach, eval_bind]
  cases (f x).eval handler s with
  | mk outcome s' =>
      cases outcome with
      | error exc => rfl
      | ok y =>
          dsimp only
          cases (forEach xs f).eval handler s' with
          | mk outcome' s'' => cases outcome' <;> rfl

theorem eval_forEach_ok {β : Type} {handler : (op : ι) → σ → Except ε (ρ op) × σ} {x : α}
    {xs : List α} {f : α → Prog ι ρ ε β} {y : β} {ys : List β} {s s₁ s₂ : σ}
    (first : (f x).eval handler s = (.ok y, s₁))
    (rest : (forEach xs f).eval handler s₁ = (.ok ys, s₂)) :
    (forEach (x :: xs) f).eval handler s = (.ok (y :: ys), s₂) := by
  simp only [forEach, eval_bind, first, rest]
  rfl

/-- A run that returns has run the first part to its value. -/
theorem eval_bind_eq_ok {β : Type} {handler : (op : ι) → σ → Except ε (ρ op) × σ}
    {p : Prog ι ρ ε α} {f : α → Prog ι ρ ε β} {s s' : σ} {result : β} :
    (p.bind f).eval handler s = (.ok result, s') ↔ ∃ value s₁,
      p.eval handler s = (.ok value, s₁) ∧ (f value).eval handler s₁ = (.ok result, s') := by
  rw [eval_bind]
  cases ran : p.eval handler s with
  | mk outcome s₁ =>
      cases outcome with
      | error exc => simp
      | ok value =>
          constructor
          · exact fun rest => ⟨value, s₁, rfl, rest⟩
          · rintro ⟨_, _, same, rest⟩
            cases same
            exact rest

theorem runs_eval {handler : (op : ι) → σ → Except ε (ρ op) × σ}
    (answers : ∀ op s, exec op s (handler op s).1 (handler op s).2) (s : σ) :
    p.Runs exec s (p.eval handler s).1 (p.eval handler s).2 := by
  induction p generalizing s with
  | ret value => exact ⟨rfl, rfl⟩
  | raise exc => exact ⟨rfl, rfl⟩
  | call op next ih => exact ⟨_, _, answers op s, ih _ _⟩

/-- A run seen through a part of the state. -/
theorem Runs.map {σ' : Type} {exec' : (op : ι) → σ' → Except ε (ρ op) → σ' → Prop} (f : σ → σ')
    (h : ∀ op s answer s', exec op s answer s' → exec' op (f s) answer (f s')) {s s' : σ}
    {outcome : Except ε α} (run : p.Runs exec s outcome s') :
    p.Runs exec' (f s) outcome (f s') := by
  induction p generalizing s with
  | ret value | raise exc =>
      obtain ⟨rfl, rfl⟩ := run
      exact ⟨rfl, rfl⟩
  | call op next ih =>
      obtain ⟨answer, s₁, ex, rest⟩ := run
      exact ⟨answer, f s₁, h op s answer s₁ ex, ih answer rest⟩

theorem eval_invariant {handler : (op : ι) → σ → Except ε (ρ op) × σ} {I : σ → Prop}
    (keeps : ∀ op s, I s → I (handler op s).2) {s : σ} (inv : I s) :
    I (p.eval handler s).2 := by
  induction p generalizing s with
  | ret value | raise exc => exact inv
  | call op next ih => exact ih (handler op s).1 (keeps op s inv)

/-- A run seen through a part of the state that decides all answers while `I` holds. -/
theorem eval_map {σ' : Type} {handler : (op : ι) → σ → Except ε (ρ op) × σ}
    {handler' : (op : ι) → σ' → Except ε (ρ op) × σ'} {I : σ → Prop} (f : σ → σ')
    (keeps : ∀ op s, I s → I (handler op s).2)
    (same : ∀ op s, I s → handler' op (f s) = ((handler op s).1, f (handler op s).2)) {s : σ}
    (inv : I s) : p.eval handler' (f s) = ((p.eval handler s).1, f (p.eval handler s).2) := by
  induction p generalizing s with
  | ret value | raise exc => rfl
  | call op next ih =>
      simp only [eval, same op s inv]
      exact ih (handler op s).1 (keeps op s inv)

/-- The same where an operation may have no answer. -/
def eval? (respond : (op : ι) → σ → Option (Except ε (ρ op) × σ)) :
    Prog ι ρ ε α → σ → Option (Except ε α × σ)
  | .ret value, s => some (.ok value, s)
  | .raise exc, s => some (.error exc, s)
  | .call op next, s =>
      match respond op s with
      | some (answer, s') => (next answer).eval? respond s'
      | none => none

theorem runs_of_eval? {respond : (op : ι) → σ → Option (Except ε (ρ op) × σ)}
    (sound : ∀ op s answer s', respond op s = some (answer, s') → exec op s answer s')
    {s s' : σ} {outcome : Except ε α} (h : p.eval? respond s = some (outcome, s')) :
    p.Runs exec s outcome s' := by
  induction p generalizing s with
  | ret value | raise exc =>
      cases h
      exact ⟨rfl, rfl⟩
  | call op next ih =>
      simp only [eval?] at h
      split at h
      · rename_i answer s₁ answered
        exact ⟨answer, s₁, sound op s answer s₁ answered, ih answer h⟩
      · cases h

end Prog

namespace Pool
variable {τ : Type v} [DecidableEq τ] {ι : Type} {ρ : ι → Type} {ε σ : Type}
  {actors : τ → Actor ι ρ ε σ} {body : τ → Prog ι ρ ε Unit → Prop}
  {Q : τ → Except ε Unit → σ → Prop}

/-- The execution of a pool of actors. -/
abbrev execOf (actors : τ → Actor ι ρ ε σ) : Exec τ ι ρ ε σ := fun t => (actors t).exec

/-- Every thread of the pool still satisfies what it set out to do. -/
def Sound (actors : τ → Actor ι ρ ε σ) (Q : τ → Except ε Unit → σ → Prop)
    (c : Pool τ ι ρ ε σ) : Prop :=
  ∀ t, (actors t).Sat (c.code t) (Q t) c.state

/-- What one actor guarantees is what the others rely on. -/
def Compatible (actors : τ → Actor ι ρ ε σ) : Prop :=
  ∀ t t', t ≠ t' → ∀ s s', (actors t).guarantee s s' → (actors t').rely s s'

theorem sound_step {c c' : Pool τ ι ρ ε σ} (compatible : Compatible actors)
    (bodies : ∀ t p s, body t p → Q t (.ok ()) s → (actors t).Sat p (Q t) s)
    (h : Step (execOf actors) body c c') (sound : c.Sound actors Q) :
    c'.Sound actors Q := by
  intro t'
  cases h with
  | @call t op next answer s code ex =>
      have mine := sound t
      rw [code] at mine
      obtain ⟨kept, rest⟩ := mine c.state ((actors t).rely_refl _) answer s ex
      by_cases same : t' = t
      · subst same
        simpa using rest
      · simp only [Function.update_of_ne same]
        exact (sound t').of_rely (compatible t t' (Ne.symm same) _ _ kept)
  | @begin t p code chosen =>
      by_cases same : t' = t
      · subst same
        have mine := sound t'
        rw [code] at mine
        simpa using bodies t' p c.state chosen (mine c.state ((actors t').rely_refl _))
      · simpa [Function.update_of_ne same] using sound t'

theorem sound_steps {c c' : Pool τ ι ρ ε σ} (compatible : Compatible actors)
    (bodies : ∀ t p s, body t p → Q t (.ok ()) s → (actors t).Sat p (Q t) s)
    (run : Steps (execOf actors) body c c') (sound : c.Sound actors Q) :
    c'.Sound actors Q := by
  induction run with
  | refl => exact sound
  | tail _ h ih => exact sound_step compatible bodies h ih

/-- An assertion that every operation within its guarantee keeps holds in every state of a run. -/
theorem invariant_steps {I : σ → Prop} {c c' : Pool τ ι ρ ε σ} (compatible : Compatible actors)
    (bodies : ∀ t p s, body t p → Q t (.ok ()) s → (actors t).Sat p (Q t) s)
    (keeps : ∀ t op s answer s', (actors t).exec op s answer s' → (actors t).guarantee s s' →
      I s → I s')
    (run : Steps (execOf actors) body c c') (sound : c.Sound actors Q) (init : I c.state) :
    I c'.state := by
  induction run with
  | refl => exact init
  | tail before h ih =>
      have mid := sound_steps compatible bodies before sound
      cases h with
      | @call t op next answer s code ex =>
          have mine := mid t
          rw [code] at mine
          have kept := (mine _ ((actors t).rely_refl _) answer s ex).1
          exact keeps t op _ answer s ex kept ih
      | begin => exact ih

/-- A relation that contains every guarantee holds between any two states of a run. -/
theorem guarantee_steps {T : σ → σ → Prop} {c c' : Pool τ ι ρ ε σ}
    (compatible : Compatible actors)
    (bodies : ∀ t p s, body t p → Q t (.ok ()) s → (actors t).Sat p (Q t) s)
    (within : ∀ t s s', (actors t).guarantee s s' → T s s')
    (refl : ∀ s, T s s) (trans : ∀ s₁ s₂ s₃, T s₁ s₂ → T s₂ s₃ → T s₁ s₃)
    (run : Steps (execOf actors) body c c') (sound : c.Sound actors Q) :
    T c.state c'.state := by
  induction run with
  | refl => exact refl _
  | tail before h ih =>
      have mid := sound_steps compatible bodies before sound
      refine trans _ _ _ ih ?_
      cases h with
      | @call t op next answer s code ex =>
          have mine := mid t
          rw [code] at mine
          exact within t _ _ (mine _ ((actors t).rely_refl _) answer s ex).1
      | begin => exact refl _

end Pool

namespace Actor
variable {τ : Type v} {ι : Type} {ρ : ι → Type} {ε σ : Type}
  {exec : Pool.Exec τ ι ρ ε σ} {allowed : τ → ι → σ → Prop} {t : τ}

/-- One step of a thread within what it is allowed to do. -/
def Does (exec : Pool.Exec τ ι ρ ε σ) (allowed : τ → ι → σ → Prop) (t : τ) (s s' : σ) : Prop :=
  ∃ op answer, exec t op s answer s' ∧ allowed t op s

/-- A thread among threads that each keep to what they are allowed to do. -/
def member (exec : Pool.Exec τ ι ρ ε σ) (allowed : τ → ι → σ → Prop) (t : τ) : Actor ι ρ ε σ where
  exec := exec t
  rely := Relation.ReflTransGen fun s s' => ∃ t' ≠ t, Does exec allowed t' s s'
  guarantee := Does exec allowed t
  rely_refl _ := .refl
  rely_trans := Relation.ReflTransGen.trans

theorem stable_member {I : σ → Prop}
    (h : ∀ t' op s answer s', t' ≠ t → exec t' op s answer s' → allowed t' op s → I s → I s') :
    (member exec allowed t).Stable I := by
  intro s s' inv rely
  induction rely with
  | refl => exact inv
  | tail _ step ih =>
      obtain ⟨t', other, op, answer, ex, may⟩ := step
      exact h t' op _ answer _ other ex may ih

theorem compatible_member : Pool.Compatible (member exec allowed) :=
  fun t _ other _ _ does => .single ⟨t, other, does⟩

/-- A program within what its thread may do at any time. -/
theorem sat_member {α : Type} {p : Prog ι ρ ε α} {s : σ}
    (calls : p.Calls fun op => ∀ s, allowed t op s) :
    (member exec allowed t).Sat p (fun _ _ => True) s := by
  have keeps : (member exec allowed t).Keeps (fun _ => True) p := by
    apply keeps_of_calls (fun _ _ _ _ => trivial) _ calls
    exact fun op s answer s' may _ ex => ⟨⟨op, answer, ex, may s⟩, trivial⟩
  exact keeps s trivial

/-- What a thread that starts nothing anew has proved of its end holds when it has ended. -/
theorem ended_of_steps [DecidableEq τ] {body : τ → Prog ι ρ ε Unit → Prop}
    {calls : τ → ι → Prop} {c c' : Pool τ ι ρ ε σ} {Q : Except ε Unit → σ → Prop}
    (bodies : ∀ t p, body t p → p.Calls (calls t)) (fixed : ∀ p, ¬ body t p)
    (within : c.Within calls) (run : Pool.Steps exec body c c')
    (mine : (member exec (fun t op _ => calls t op) t).Sat (c.code t) Q c.state)
    (ended : c'.code t = .ret ()) : Q (.ok ()) c'.state := by
  let posts : τ → Except ε Unit → σ → Prop := fun t' outcome s => t' = t → Q outcome s
  have sound : c.Sound (member exec fun t op _ => calls t op) posts := by
    intro t'
    by_cases same : t' = t
    · subst same
      exact mine.mono fun _ _ post _ => post
    · exact (sat_member ((within t').mono fun _ may _ => may)).mono fun _ _ _ eq => absurd eq same
  have later := Pool.sound_steps compatible_member (fun t' p s begun _ => by
    by_cases same : t' = t
    · exact absurd (same ▸ begun) (fixed p)
    · exact (sat_member ((bodies t' p begun).mono fun _ may _ => may)).mono
        fun _ _ _ eq => absurd eq same) run sound t
  rw [ended] at later
  exact later.ended rfl

end Actor

-- proofs about programs go by the rules above, so that no program is unfolded unasked
attribute [irreducible] Actor.Sat
