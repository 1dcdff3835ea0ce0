import Mathlib.Data.List.Basic
import Mathlib.Data.Nat.Notation

/-!
# Computations with their accesses

A computation with the record of what it does on the way to its value, and loops of such
computations. The accesses of a parser of a received buffer are the operations that can go wrong:
reads of bytes, subtractions of unsigned numbers, look-ups in a table.
-/

structure Traced (ε α : Type) where
  value : α
  trace : List ε

namespace Traced

variable {ε α β : Type}

instance : Monad (Traced ε) where
  pure x := ⟨x, []⟩
  bind m f := ⟨(f m.value).value, m.trace ++ (f m.value).trace⟩

/-- A value obtained by one operation. -/
def record (e : ε) (x : α) : Traced ε α := ⟨x, [e]⟩

/-- A loop that collects the values of `k` iterations. -/
def collect (k : ℕ) (f : ℕ → Traced ε α) : Traced ε (List α) :=
  ⟨(List.range k).map fun i => (f i).value, (List.range k).flatMap fun i => (f i).trace⟩

/-- `n` iterations of a loop with the body `f`. -/
def iterate (f : α → Traced ε α) : ℕ → α → Traced ε α
  | 0, x => pure x
  | n + 1, x => iterate f n x >>= f

@[simp] theorem value_pure (x : α) : (pure x : Traced ε α).value = x := rfl

@[simp] theorem value_bind (m : Traced ε α) (f : α → Traced ε β) :
    (m >>= f).value = (f m.value).value := rfl

@[simp] theorem value_record (e : ε) (x : α) : (record e x).value = x := rfl

/-- Everything recorded satisfies `P`. -/
def All (P : ε → Prop) (m : Traced ε α) : Prop := ∀ e ∈ m.trace, P e

instance (P : ε → Prop) [DecidablePred P] (m : Traced ε α) : Decidable (m.All P) :=
  inferInstanceAs (Decidable (∀ e ∈ m.trace, P e))

variable {P : ε → Prop}

@[simp] theorem all_pure (x : α) : (pure x : Traced ε α).All P := fun _ h => nomatch h

@[simp] theorem all_bind {m : Traced ε α} {f : α → Traced ε β} :
    (m >>= f).All P ↔ m.All P ∧ (f m.value).All P := List.forall_mem_append

@[simp] theorem all_record {e : ε} {x : α} : (record e x).All P ↔ P e := List.forall_mem_singleton

@[simp] theorem all_collect {k : ℕ} {f : ℕ → Traced ε α} :
    (collect k f).All P ↔ ∀ i < k, (f i).All P := by
  unfold All collect
  simp only [List.mem_flatMap, List.mem_range]
  constructor
  · intro h i hi e he
    exact h e ⟨i, hi, he⟩
  · rintro h e ⟨i, hi, he⟩
    exact h i hi e he

/-- The rule for loops: an invariant under which the body does only what satisfies `P`. -/
theorem all_iterate {I : α → Prop} {f : α → Traced ε α}
    (hf : ∀ x, I x → (f x).All P ∧ I (f x).value) {x : α} (hx : I x) (n : ℕ) :
    (iterate f n x).All P ∧ I (iterate f n x).value := by
  induction n with
  | zero => exact ⟨all_pure x, hx⟩
  | succ n ih =>
    obtain ⟨hall, hinv⟩ := ih
    obtain ⟨hall', hinv'⟩ := hf _ hinv
    exact ⟨all_bind.mpr ⟨hall, hall'⟩, hinv'⟩

end Traced

/-! ## Accesses -/

inductive Access where
  /-- A read of `size` bytes from `offset` on. -/
  | read (offset size : ℕ)
  /-- `x - y` of unsigned numbers. -/
  | subtract (x y : ℕ)
  /-- The entry `index` of a table of `size` entries. -/
  | lookup (index size : ℕ)
  deriving Repr, DecidableEq

/-- Of a buffer only the first `n` bytes are read, no difference wraps around, and no index is
outside its table. -/
def Access.Safe (n : ℕ) : Access → Prop
  | read offset size => offset + size ≤ n
  | subtract x y => y ≤ x
  | lookup index size => index < size

instance (n : ℕ) : DecidablePred (Access.Safe n)
  | .read offset size => inferInstanceAs (Decidable (offset + size ≤ n))
  | .subtract x y => inferInstanceAs (Decidable (y ≤ x))
  | .lookup index size => inferInstanceAs (Decidable (index < size))
