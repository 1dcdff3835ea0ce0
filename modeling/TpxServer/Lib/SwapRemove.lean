import Mathlib.Data.List.Perm.Basic
import Mathlib.Data.List.DropRight
import Mathlib.Tactic.Ring

/-!
# Removal from an array by swapping with the last element

An array whose order does not matter drops an element by moving its last element into the gap.
Two traversals that remove elements while they walk:

1. `sweep` walks backward. The element moved into the gap was examined before, so the sweep is
   exact: it tests every element once (`tested_eq`), takes the elements satisfying the predicate and
   keeps the others (`sweep_taken`, `sweep_kept`).
2. `skim` walks forward and goes on with the next index. The element moved into the gap is not
   examined, so the skim can keep elements satisfying the predicate; it misses none of them exactly
   when enough other elements are stored behind the last one (`skim_complete_iff`).
-/

namespace SwapRemove

variable {α : Type*}

/-- Moves the last element to position `ix` and drops it from the end. -/
def swapRemove (l : List α) (ix : ℕ) : List α :=
  match l.getLast? with
  | some b => (l.set ix b).dropLast
  | none => []

theorem length_swapRemove (l : List α) (ix : ℕ) : (swapRemove l ix).length = l.length - 1 := by
  unfold swapRemove
  cases hlast : l.getLast? with
  | none =>
    rw [List.getLast?_eq_none_iff] at hlast
    rw [hlast]
    rfl
  | some b =>
    show ((l.set ix b).dropLast).length = _
    rw [List.length_dropLast, List.length_set]

/-- Nothing is left of an array of at most one element. -/
theorem ite_swapRemove (l : List α) (ix : ℕ) :
    (if l.length > 1 then swapRemove l ix else []) = swapRemove l ix := by
  by_cases h : l.length > 1
  · rw [if_pos h]
  · rw [if_neg h, eq_comm, ← List.length_eq_zero_iff, length_swapRemove]
    omega

theorem swapRemove_last (pre : List α) (c : α) : swapRemove (pre ++ [c]) pre.length = pre := by
  unfold swapRemove
  rw [List.getLast?_concat]
  simp

theorem swapRemove_inner (pre mid : List α) (c b : α) :
    swapRemove (pre ++ c :: (mid ++ [b])) pre.length = pre ++ b :: mid := by
  have hlast : (pre ++ c :: (mid ++ [b])).getLast? = some b := by
    rw [← List.cons_append, ← List.append_assoc, List.getLast?_concat]
  have hset : (pre ++ c :: (mid ++ [b])).set pre.length b = (pre ++ b :: mid) ++ [b] := by
    rw [List.set_append_right _ _ le_rfl, Nat.sub_self, List.set_cons_zero, List.append_assoc,
      List.cons_append]
  unfold swapRemove
  rw [hlast]
  show ((pre ++ c :: (mid ++ [b])).set pre.length b).dropLast = _
  rw [hset]
  exact List.dropLast_concat

/-- Removal from the suffix: the last element goes to the front of what follows. -/
theorem swapRemove_append (pre rest : List α) (c : α) :
    swapRemove (pre ++ c :: rest) pre.length =
      pre ++ (rest.getLast?.toList ++ rest.dropLast) := by
  rcases List.eq_nil_or_concat rest with rfl | ⟨mid, b, rfl⟩
  · rw [swapRemove_last]
    simp
  · rw [List.concat_eq_append, swapRemove_inner, List.getLast?_concat, List.dropLast_concat]
    rfl

theorem getLast?_append_dropLast_perm (l : List α) :
    (l.getLast?.toList ++ l.dropLast).Perm l := by
  rcases List.eq_nil_or_concat l with rfl | ⟨mid, b, rfl⟩
  · exact List.Perm.refl _
  · rw [List.concat_eq_append, List.getLast?_concat, List.dropLast_concat]
    exact (List.perm_append_singleton b mid).symm

/-- In front of the gap nothing changes. -/
theorem getElem?_swapRemove_of_lt {l : List α} {i ix : ℕ} (hi : i < ix) (hix : ix < l.length) :
    (swapRemove l ix)[i]? = l[i]? := by
  unfold swapRemove
  cases hlast : l.getLast? with
  | none =>
    rw [List.getLast?_eq_none_iff] at hlast
    subst hlast
    exact absurd hix (Nat.not_lt_zero _)
  | some b =>
    show ((l.set ix b).dropLast)[i]? = _
    have hlen : i < (l.set ix b).length - 1 := by
      rw [List.length_set]
      omega
    rw [List.getElem?_dropLast, if_pos hlen, List.getElem?_set_ne (by omega)]

/-- Up to the order one element is erased. -/
theorem swapRemove_perm {l : List α} {ix : ℕ} (hix : ix < l.length) :
    (swapRemove l ix).Perm (l.eraseIdx ix) := by
  obtain ⟨pre, c, rest, rfl, rfl⟩ : ∃ pre c rest, l = pre ++ c :: rest ∧ ix = pre.length :=
    ⟨l.take ix, l[ix], l.drop (ix + 1), by simp, by simp [hix.le]⟩
  rw [swapRemove_append, List.eraseIdx_append_of_length_le le_rfl, Nat.sub_self,
    List.eraseIdx_cons_zero]
  exact (getLast?_append_dropLast_perm rest).append_left pre

theorem nodup_swapRemove {l : List α} {ix : ℕ} (hix : ix < l.length) (h : l.Nodup) :
    (swapRemove l ix).Nodup :=
  (swapRemove_perm hix).nodup_iff.mpr (h.sublist (List.eraseIdx_sublist l ix))

/-! ## The backward sweep -/

section Sweep

variable (p : α → Bool)

/-- Walks from index `n - 1` down to 0 and removes the elements satisfying `p`: the array after the
walk, and the elements removed, in the order of removal. -/
def sweep : ℕ → List α → List α × List α
  | 0, l => (l, [])
  | n + 1, l =>
    match l[n]? with
    | some c =>
      if p c then ((sweep n (swapRemove l n)).1, c :: (sweep n (swapRemove l n)).2)
      else sweep n l
    | none => sweep n l

variable {p}

theorem sweep_concat (front done : List α) (c : α) :
    sweep p (front ++ [c]).length ((front ++ [c]) ++ done) =
      if p c then
        ((sweep p front.length (front ++ (done.getLast?.toList ++ done.dropLast))).1,
          c :: (sweep p front.length (front ++ (done.getLast?.toList ++ done.dropLast))).2)
      else sweep p front.length (front ++ c :: done) := by
  have hget : ((front ++ [c]) ++ done)[front.length]? = some c := by
    rw [List.append_assoc, List.getElem?_append_right le_rfl, Nat.sub_self]
    rfl
  rw [List.length_append, List.length_singleton, sweep, hget]
  simp only [List.append_assoc, List.cons_append, List.nil_append, swapRemove_append]

/-- The sweep removes the elements satisfying the predicate, from the back. -/
theorem sweep_taken (front : List α) : ∀ done : List α,
    (sweep p front.length (front ++ done)).2 = (front.filter p).reverse := by
  induction front using List.reverseRecOn with
  | nil => intro done; rfl
  | append_singleton front c ih =>
    intro done
    rw [sweep_concat, List.filter_append]
    by_cases hc : p c = true
    · rw [if_pos hc, ih, List.filter_cons_of_pos hc]
      simp
    · rw [if_neg hc, ih, List.filter_cons_of_neg hc]
      simp

/-- The sweep keeps the elements not satisfying the predicate, each once. -/
theorem sweep_kept (front : List α) : ∀ done : List α,
    (sweep p front.length (front ++ done)).1.Perm (front.filter (fun c => !p c) ++ done) := by
  induction front using List.reverseRecOn with
  | nil => intro done; exact List.Perm.refl _
  | append_singleton front c ih =>
    intro done
    rw [sweep_concat, List.filter_append]
    by_cases hc : p c = true
    · rw [if_pos hc, List.filter_cons_of_neg (by simp [hc]), List.filter_nil, List.append_nil]
      exact (ih _).trans ((getLast?_append_dropLast_perm done).append_left _)
    · rw [if_neg hc, List.filter_cons_of_pos (by simp [hc]), List.append_assoc]
      exact ih _

/-- The sweep over the whole array. -/
theorem sweep_spec (l : List α) :
    (sweep p l.length l).2 = (l.filter p).reverse ∧
      (sweep p l.length l).1.Perm (l.filter fun c => !p c) := by
  have htaken := sweep_taken (p := p) l []
  have hkept := sweep_kept (p := p) l []
  rw [List.append_nil] at htaken hkept
  rw [List.append_nil] at hkept
  exact ⟨htaken, hkept⟩

/-- The elements that `sweep` tests, in the order of the tests. -/
def tested (p : α → Bool) : ℕ → List α → List α
  | 0, _ => []
  | n + 1, l =>
    match l[n]? with
    | some c => c :: (if p c then tested p n (swapRemove l n) else tested p n l)
    | none => tested p n l

/-- What is moved into a gap was tested before: every element is tested once. -/
theorem tested_eq (front : List α) : ∀ done : List α,
    tested p front.length (front ++ done) = front.reverse := by
  induction front using List.reverseRecOn with
  | nil => intro done; rfl
  | append_singleton front c ih =>
    intro done
    have hget : ((front ++ [c]) ++ done)[front.length]? = some c := by simp
    rw [List.length_append, List.length_singleton, tested, hget, List.reverse_append]
    simp only [List.append_assoc, List.cons_append, List.nil_append, swapRemove_append, ih,
      ite_self, List.reverse_singleton]

theorem sweep_perm (l : List α) :
    ((sweep p l.length l).2 ++ (sweep p l.length l).1).Perm l := by
  obtain ⟨htaken, hkept⟩ := sweep_spec (p := p) l
  rw [htaken]
  calc ((l.filter p).reverse ++ (sweep p l.length l).1).Perm
        (l.filter p ++ l.filter fun c => !p c) := (List.reverse_perm _).append hkept
    _ |>.Perm l := List.filter_append_perm p l

end Sweep

/-! ## The forward skim -/

section Skim

variable (p : α → Bool)

/-- Walks forward from the start, removes the elements satisfying `p` and goes on with the next
index each time: the elements kept, in their places, and the elements removed, in the order of
removal. -/
def skim : List α → List α × List α
  | [] => ([], [])
  | c :: rest =>
    if p c then (rest.getLast?.toList ++ (skim rest.dropLast).1, c :: (skim rest.dropLast).2)
    else (c :: (skim rest).1, (skim rest).2)
termination_by l => l.length
decreasing_by all_goals (simp only [List.length_dropLast, List.length_cons]; omega)

/-- The number of elements behind the last one satisfying `p`. -/
def trailing (l : List α) : ℕ := (l.rtakeWhile fun c => !p c).length

variable {p}

theorem skim_nil : skim p [] = ([], []) := by rw [skim]

theorem skim_take {c : α} (hc : p c = true) (rest : List α) :
    skim p (c :: rest) =
      (rest.getLast?.toList ++ (skim p rest.dropLast).1, c :: (skim p rest.dropLast).2) := by
  rw [skim, if_pos hc]

theorem skim_keep {c : α} (hc : ¬ p c = true) (rest : List α) :
    skim p (c :: rest) = (c :: (skim p rest).1, (skim p rest).2) := by
  rw [skim, if_neg hc]

/-- Nothing is lost. -/
theorem skim_perm (l : List α) : ((skim p l).2 ++ (skim p l).1).Perm l := by
  induction l using skim.induct p with
  | case1 => rw [skim_nil]; exact List.Perm.refl _
  | case2 c rest hc ih =>
    rw [skim_take hc, List.cons_append]
    refine List.Perm.cons c ?_
    calc ((skim p rest.dropLast).2 ++
          (rest.getLast?.toList ++ (skim p rest.dropLast).1)).Perm
          (rest.getLast?.toList ++ ((skim p rest.dropLast).2 ++ (skim p rest.dropLast).1)) := by
          rw [← List.append_assoc, ← List.append_assoc]
          exact List.perm_append_comm.append_right _
      _ |>.Perm (rest.getLast?.toList ++ rest.dropLast) := ih.append_left _
      _ |>.Perm rest := getLast?_append_dropLast_perm rest
  | case3 c rest hc ih =>
    rw [skim_keep hc]
    exact List.perm_middle.trans (ih.cons c)

theorem skim_taken (l : List α) : ∀ c ∈ (skim p l).2, p c = true := by
  induction l using skim.induct p with
  | case1 => rw [skim_nil]; exact fun c hc => absurd hc List.not_mem_nil
  | case2 c rest hc ih =>
    rw [skim_take hc]
    intro d hd
    rcases List.mem_cons.mp hd with rfl | hd
    · exact hc
    · exact ih d hd
  | case3 c rest hc ih => rw [skim_keep hc]; exact ih

/-- The first element satisfying the predicate is not missed. -/
theorem skim_taken_eq_nil_iff (l : List α) :
    (skim p l).2 = [] ↔ l.countP p = 0 := by
  induction l using skim.induct p with
  | case1 => rw [skim_nil]; simp
  | case2 c rest hc ih => rw [skim_take hc, List.countP_cons_of_pos hc]; simp
  | case3 c rest hc ih => rw [skim_keep hc, List.countP_cons_of_neg hc]; exact ih

/-- The elements satisfying `p` whose index, together with the number of elements satisfying `p`
before it and with `k`, is below `n`. -/
def upTo (p : α → Bool) (k n : ℕ) (l : List α) : List α :=
  (l.zipIdx.filter fun a => p a.1 && a.2 + (l.take a.2).countP p + k < n).map Prod.fst

theorem upTo_cons (k n : ℕ) (c : α) (l : List α) :
    upTo p k n (c :: l) =
      (if p c && k < n then [c] else []) ++ upTo p (k + 1 + (if p c then 1 else 0)) n l := by
  unfold upTo
  rw [List.zipIdx_cons, List.zipIdx_succ, List.filter_cons, List.filter_map, List.take_zero,
    List.countP_nil]
  have hrest : ∀ a : α × ℕ, a.2 + 1 + ((c :: l).take (a.2 + 1)).countP p + k < n ↔
      a.2 + (l.take a.2).countP p + (k + 1 + (if p c then 1 else 0)) < n := by
    intro a
    rw [List.take_succ_cons, List.countP_cons]
    omega
  simp only [Function.comp_def, hrest, Nat.zero_add]
  split_ifs <;> simp [Function.comp_def]

theorem upTo_add (j k n : ℕ) (l : List α) : upTo p (k + j) (n + j) l = upTo p k n l := by
  unfold upTo
  simp only [← Nat.add_assoc, Nat.add_lt_add_iff_right]

theorem upTo_concat {k n : ℕ} {l : List α} (h : n ≤ l.length + k) (b : α) :
    upTo p k n (l ++ [b]) = upTo p k n l := by
  induction l generalizing k with
  | nil =>
    have hk : ¬ k < n := by simpa using h
    rw [List.nil_append, upTo_cons, if_neg (by simp [hk])]
    rfl
  | cons c l ih =>
    rw [List.cons_append, upTo_cons, upTo_cons, ih]
    rw [List.length_cons] at h
    omega

/-- Every element removed shortens the rest by the element that fills the gap. -/
theorem skim_taken_eq (l : List α) : (skim p l).2 = upTo p 0 l.length l := by
  induction l using skim.induct p with
  | case1 => rw [skim_nil]; rfl
  | case2 c rest hc ih =>
    rw [skim_take hc, upTo_cons, ih, if_pos (by simp [hc]), if_pos hc]
    rcases List.eq_nil_or_concat rest with rfl | ⟨mid, b, rfl⟩
    · rfl
    · rw [List.concat_eq_append, List.dropLast_concat, upTo_concat (by simp)]
      simpa using (upTo_add 2 0 mid.length mid).symm
  | case3 c rest hc ih =>
    rw [skim_keep hc, upTo_cons, ih, if_neg (by simp [hc]), if_neg hc]
    exact (upTo_add 1 0 rest.length rest).symm

theorem trailing_concat (l : List α) (b : α) :
    trailing p (l ++ [b]) = if p b then 0 else trailing p l + 1 := by
  unfold trailing
  by_cases hb : p b = true
  · rw [if_pos hb, List.rtakeWhile_concat_neg _ _ _ (by simp [hb]), List.length_nil]
  · rw [if_neg hb, List.rtakeWhile_concat_pos _ _ _ (by simp [hb]), List.length_append,
      List.length_singleton]

/-- Elements in front do not matter as long as the predicate holds somewhere behind them. -/
theorem trailing_append (l : List α) : ∀ rest : List α, 0 < rest.countP p →
    trailing p (l ++ rest) = trailing p rest := by
  intro rest
  induction rest using List.reverseRecOn with
  | nil => intro h; exact absurd h (by simp)
  | append_singleton rest b ih =>
    intro h
    rw [← List.append_assoc, trailing_concat, trailing_concat]
    by_cases hb : p b = true
    · rw [if_pos hb, if_pos hb]
    · rw [if_neg hb, if_neg hb, ih ?_]
      rw [List.countP_append, List.countP_cons_of_neg hb] at h
      exact h

/-- **What a skim misses.** It removes all elements satisfying the predicate exactly when all but
one of them can be filled up with elements stored behind the last one. -/
theorem skim_complete_iff (l : List α) :
    (skim p l).1.countP p = 0 ↔ l.countP p ≤ trailing p l + 1 := by
  induction l using skim.induct p with
  | case1 => rw [skim_nil]; simp
  | case2 c rest hc ih =>
    rw [skim_take hc, List.countP_cons_of_pos hc]
    rcases List.eq_nil_or_concat rest with rfl | ⟨mid, b, rfl⟩
    · rw [List.dropLast_nil, skim_nil]
      simp
    · rw [List.concat_eq_append] at ih ⊢
      rw [List.dropLast_concat] at ih ⊢
      rw [List.getLast?_concat, List.countP_append, List.countP_append, ← List.cons_append,
        trailing_concat]
      by_cases hb : p b = true
      · -- the element that fills the gap satisfies the predicate and is passed over
        rw [if_pos hb, Option.toList_some, List.countP_cons_of_pos hb]
        omega
      · rw [if_neg hb, Option.toList_some, List.countP_cons_of_neg hb]
        simp only [List.countP_nil, Nat.zero_add, Nat.add_zero, ih]
        by_cases hmid : mid.countP p = 0
        · omega
        · rw [← List.singleton_append, trailing_append _ _ (Nat.pos_of_ne_zero hmid)]
          omega
  | case3 c rest hc ih =>
    rw [skim_keep hc, List.countP_cons_of_neg hc, List.countP_cons_of_neg hc, ih]
    by_cases hrest : rest.countP p = 0
    · omega
    · rw [← List.singleton_append, trailing_append _ _ (Nat.pos_of_ne_zero hrest)]

end Skim

end SwapRemove
