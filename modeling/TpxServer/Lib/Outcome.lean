import Mathlib.Tactic.TypeStar

/-!
# Outcomes of calls

A call of a `void` function on a state of type `σ` returns, throws an exception of type `ε` in the
state reached so far, or has no defined behaviour.
-/

inductive Outcome (ε σ : Type*) where
  | ok (s : σ)
  | throws (e : ε) (s : σ)
  | undefined
  deriving Repr, DecidableEq

namespace Outcome

variable {ε σ : Type*}

/-- One call after another. -/
def andThen (o : Outcome ε σ) (f : σ → Outcome ε σ) : Outcome ε σ :=
  match o with
  | ok s => f s
  | throws e s => throws e s
  | undefined => undefined

/-- `try { … } catch`: `handler` gives `none` for the exceptions that it does not catch. -/
def catching (o : Outcome ε σ) (handler : ε → Option (σ → Outcome ε σ)) : Outcome ε σ :=
  match o with
  | ok s => ok s
  | throws e s =>
    match handler e with
    | some h => h s
    | none => throws e s
  | undefined => undefined

@[simp] theorem ok_andThen (s : σ) (f : σ → Outcome ε σ) : (ok s).andThen f = f s := rfl

@[simp] theorem ok_catching (s : σ) (handler : ε → Option (σ → Outcome ε σ)) :
    (ok s).catching handler = ok s := rfl

theorem throws_catching {e : ε} {s : σ} {handler : ε → Option (σ → Outcome ε σ)}
    {h : σ → Outcome ε σ} (he : handler e = some h) : (throws e s).catching handler = h s := by
  simp only [catching, he]

theorem throws_uncaught {e : ε} {s : σ} {handler : ε → Option (σ → Outcome ε σ)}
    (he : handler e = none) : (throws e s).catching handler = throws e s := by
  simp only [catching, he]

/-- Wherever the call ends, `P` holds. -/
def All (P : σ → Prop) : Outcome ε σ → Prop
  | ok s => P s
  | throws _ s => P s
  | undefined => True

theorem All.andThen {P : σ → Prop} {o : Outcome ε σ} {f : σ → Outcome ε σ} (ho : o.All P)
    (hf : ∀ s, P s → (f s).All P) : (o.andThen f).All P := by
  cases o with
  | ok s => exact hf s ho
  | throws e s => exact ho
  | undefined => trivial

theorem All.catching {P : σ → Prop} {o : Outcome ε σ} {handler : ε → Option (σ → Outcome ε σ)}
    (ho : o.All P) (hh : ∀ e h, handler e = some h → ∀ s, P s → (h s).All P) :
    (o.catching handler).All P := by
  cases o with
  | ok s => exact ho
  | throws e s =>
    cases he : handler e with
    | none => rw [throws_uncaught he]; exact ho
    | some h => rw [throws_catching he]; exact hh e h he s ho
  | undefined => trivial

end Outcome
