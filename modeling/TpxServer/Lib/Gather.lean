import TpxServer.Lib.SwapRemove

/-!
# Gathering elements of an array into one

`gather` walks forward over an array, applies `add` to every element it meets that satisfies `p`,
and merges the later ones into the first one, the target, removing them by a swap with the last
element. Up to the target nothing changes, and behind it the walk is a skim. A new element is
appended if there is no target. The elements taken are those the walk reaches
(`exists_gathers_reached`); if merging is commutative and associative, only which they are matters
(`gathered_perm`).

Gathering commutes with the maps that respect the predicate and the operations (`gather_map`), so a
walk over elements that carry more data does the same as one over the plain elements.
-/

namespace SwapRemove

variable {α β : Type*} (p : α → Bool) (add : α → α) (merge : α → α → α)

/-- The walk from index `ix` on; `target` is the index of the first element taken. -/
def gatherLoop (ix : ℕ) (target : Option ℕ) (l : List α) : List α × Bool :=
  if h : ix < l.length then
    if p l[ix] then
      let a := add l[ix]
      match target with
      | some t => gatherLoop (ix + 1) (some t)
          (swapRemove ((l.set ix a).modify t (merge · a)) ix)
      | none => gatherLoop (ix + 1) (some ix) (l.set ix a)
    else gatherLoop (ix + 1) target l
  else (l, target.isSome)
termination_by l.length - ix
decreasing_by
  · rw [length_swapRemove, List.length_modify, List.length_set]
    omega
  · rw [List.length_set]
    omega
  · omega

/-- The array after the walk, with `new` appended if nothing was taken. -/
def gather (new : α) (l : List α) : List α :=
  let r := gatherLoop p add merge 0 none l
  if r.2 then r.1 else r.1 ++ [new]

/-- What becomes of the elements taken. -/
def gathered (new : α) : List α → α
  | [] => new
  | c :: cs => cs.foldl (fun m c' => merge m (add c')) (add c)

variable {p add merge}

section Gathered

variable {new : α} {taken : List α} {P : α → Prop}

/-- What the new element and the elements taken have after `add`, and merging preserves. -/
theorem gathered_all (hmerge : ∀ a b, P a → P b → P (merge a b)) (hnew : P new)
    (htaken : ∀ c ∈ taken, P (add c)) : P (gathered add merge new taken) := by
  cases taken with
  | nil => exact hnew
  | cons c cs =>
    have hfold : ∀ (cs : List α) (m : α), P m → (∀ c ∈ cs, P (add c)) →
        P (cs.foldl (fun m c' => merge m (add c')) m) := by
      intro cs
      induction cs with
      | nil => exact fun m hm _ => hm
      | cons c cs ih =>
        intro m hm hcs
        exact ih _ (hmerge m _ hm (hcs c List.mem_cons_self)) fun d hd =>
          hcs d (List.mem_cons_of_mem c hd)
    exact hfold cs _ (htaken c List.mem_cons_self) fun d hd => htaken d (List.mem_cons_of_mem c hd)

/-- What one of the elements taken has after `add`, and merging does not destroy. -/
theorem gathered_any (hleft : ∀ a b, P a → P (merge a b)) (hright : ∀ a b, P b → P (merge a b))
    {c : α} (hc : c ∈ taken) (h : P (add c)) : P (gathered add merge new taken) := by
  cases taken with
  | nil => exact absurd hc List.not_mem_nil
  | cons d cs =>
    have hkeep : ∀ (cs : List α) (m : α), P m → P (cs.foldl (fun m c' => merge m (add c')) m) := by
      intro cs
      induction cs with
      | nil => exact fun m hm => hm
      | cons c cs ih => exact fun m hm => ih _ (hleft m _ hm)
    have hfold : ∀ (cs : List α) (m : α), c ∈ cs →
        P (cs.foldl (fun m c' => merge m (add c')) m) := by
      intro cs
      induction cs with
      | nil => exact fun m hmem => absurd hmem List.not_mem_nil
      | cons d cs ih =>
        intro m hmem
        rcases List.mem_cons.mp hmem with rfl | hmem
        · exact hkeep cs _ (hright m _ h)
        · exact ih _ hmem
    rcases List.mem_cons.mp hc with rfl | hc
    · exact hkeep cs _ h
    · exact hfold cs _ hc

section Order

variable {new : α} {P : α → Prop} (hmerge : ∀ a b, P a → P b → P (merge a b))
  (hcomm : ∀ a b, P a → P b → merge a b = merge b a)
  (hassoc : ∀ a b c, P a → P b → P c → merge (merge a b) c = merge a (merge b c))
include hmerge hcomm hassoc

theorem foldl_merge_perm {cs cs' : List α} (hperm : cs.Perm cs') :
    ∀ {m : α}, P m → (∀ c ∈ cs, P (add c)) →
      cs.foldl (fun m c => merge m (add c)) m = cs'.foldl (fun m c => merge m (add c)) m := by
  induction hperm with
  | nil => exact fun _ _ => rfl
  | cons c _ ih =>
    intro m hm hcs
    rw [List.forall_mem_cons] at hcs
    exact ih (hmerge m _ hm hcs.1) hcs.2
  | swap c d l =>
    intro m hm hcs
    simp only [List.forall_mem_cons] at hcs
    obtain ⟨hd, hc, -⟩ := hcs
    rw [List.foldl_cons, List.foldl_cons, List.foldl_cons, List.foldl_cons, hassoc _ _ _ hm hd hc,
      hassoc _ _ _ hm hc hd, hcomm _ _ hd hc]
  | trans hperm _ ih ih' =>
    intro m hm hcs
    exact (ih hm hcs).trans (ih' hm fun c hc => hcs c (hperm.symm.subset hc))

/-- If merging is commutative and associative, the order of the elements taken does not matter. -/
theorem gathered_perm {taken taken' : List α} (hperm : taken.Perm taken')
    (htaken : ∀ c ∈ taken, P (add c)) :
    gathered add merge new taken = gathered add merge new taken' := by
  induction hperm with
  | nil => rfl
  | cons c hperm _ =>
    rw [List.forall_mem_cons] at htaken
    exact foldl_merge_perm hmerge hcomm hassoc hperm htaken.1 htaken.2
  | swap c d l =>
    simp only [List.forall_mem_cons] at htaken
    have hswap := hcomm _ _ htaken.1 htaken.2.1
    exact congrArg (fun m => l.foldl (fun m c' => merge m (add c')) m) hswap
  | trans hperm _ ih ih' =>
    exact (ih htaken).trans (ih' fun c hc => htaken c (hperm.symm.subset hc))

end Order

end Gathered

theorem gatherLoop_end {ix : ℕ} {target : Option ℕ} {l : List α} (h : l.length ≤ ix) :
    gatherLoop p add merge ix target l = (l, target.isSome) := by
  rw [gatherLoop, dif_neg (Nat.not_lt.mpr h)]

/-! ## One step at a position -/

section Positions

variable {front rest : List α} {c : α}

theorem lt_length_append : front.length < (front ++ c :: rest).length := by simp

theorem getElem_append_length (h : front.length < (front ++ c :: rest).length) :
    (front ++ c :: rest)[front.length] = c := by simp

theorem set_append_length (c' : α) :
    (front ++ c :: rest).set front.length c' = front ++ c' :: rest := by simp

theorem length_concat : (front ++ [c]).length = front.length + 1 := by simp

end Positions

theorem gatherLoop_skip {target : Option ℕ} (front : List α) {c : α} (rest : List α)
    (hc : ¬ p c = true) :
    gatherLoop p add merge front.length target (front ++ c :: rest) =
      gatherLoop p add merge (front ++ [c]).length target ((front ++ [c]) ++ rest) := by
  rw [gatherLoop, dif_pos lt_length_append, getElem_append_length, if_neg hc, length_concat,
    List.append_assoc]
  rfl

theorem gatherLoop_first (front : List α) {c : α} (rest : List α) (hc : p c = true) :
    gatherLoop p add merge front.length none (front ++ c :: rest) =
      gatherLoop p add merge (front ++ [add c]).length (some front.length)
        ((front ++ [add c]) ++ rest) := by
  rw [gatherLoop, dif_pos lt_length_append, getElem_append_length, if_pos hc, length_concat,
    List.append_assoc]
  simp only [set_append_length]
  rfl

theorem modify_target (front passed : List α) (target : α) (f : α → α) :
    (front ++ target :: passed).modify front.length f = front ++ f target :: passed := by
  induction front with
  | nil => rfl
  | cons a front ih => rw [List.cons_append, List.length_cons, List.modify_succ_cons, ih]; rfl

/-- A further match goes into the target, and the last element into the gap, where it is passed
over. -/
theorem gatherLoop_again (front passed : List α) (target : α) {c : α} (rest : List α)
    (hc : p c = true) :
    gatherLoop p add merge (front ++ target :: passed).length (some front.length)
        ((front ++ target :: passed) ++ c :: rest) =
      gatherLoop p add merge ((front ++ target :: passed).length + 1) (some front.length)
        ((front ++ merge target (add c) :: passed) ++
          (rest.getLast?.toList ++ rest.dropLast)) := by
  have hlen : (front ++ target :: passed).length =
      (front ++ merge target (add c) :: passed).length := by simp
  rw [gatherLoop, dif_pos lt_length_append, getElem_append_length, if_pos hc]
  simp only [set_append_length]
  rw [List.append_assoc, List.cons_append, modify_target]
  rw [← List.cons_append, ← List.append_assoc, hlen, swapRemove_append]

/-- Once it has a target, the walk skims the elements behind and merges those it takes into the
target. -/
theorem gatherLoop_target (add : α → α) (merge : α → α → α) (front rest : List α) :
    ∀ (passed : List α) (target : α),
    gatherLoop p add merge (front ++ target :: passed).length (some front.length)
        ((front ++ target :: passed) ++ rest) =
      ((front ++ ((skim p rest).2.foldl (fun m c => merge m (add c)) target) :: passed) ++
        (skim p rest).1, true) := by
  induction rest using skim.induct p with
  | case1 =>
    intro passed target
    rw [List.append_nil, gatherLoop_end le_rfl, skim_nil, List.append_nil]
    rfl
  | case2 c rest hc ih =>
    intro passed target
    rw [gatherLoop_again _ _ _ _ hc, skim_take hc]
    cases hlast : rest.getLast? with
    | none =>
      rw [List.getLast?_eq_none_iff] at hlast
      subst hlast
      rw [List.dropLast_nil, skim_nil, gatherLoop_end (by simp)]
      rfl
    | some b =>
      have h := ih (passed ++ [b]) (merge target (add c))
      have hlen : (front ++ target :: passed).length + 1 =
          (front ++ merge target (add c) :: (passed ++ [b])).length := by
        simp
        omega
      rw [hlen]
      simpa only [Option.toList_some, List.append_assoc, List.cons_append, List.nil_append,
        List.foldl_cons] using h
  | case3 c rest hc ih =>
    intro passed target
    rw [gatherLoop_skip _ _ hc, skim_keep hc]
    simpa only [List.append_assoc, List.cons_append, List.nil_append]
      using ih (passed ++ [c]) target

/-- Up to its first match the walk changes nothing. -/
theorem gatherLoop_scan (add : α → α) (merge : α → α → α) (rest : List α) (target : Option ℕ)
    (skipped : List α) :
    ∀ front : List α, skipped.countP p = 0 →
      gatherLoop p add merge front.length target (front ++ (skipped ++ rest)) =
        gatherLoop p add merge (front ++ skipped).length target ((front ++ skipped) ++ rest) := by
  induction skipped with
  | nil =>
    intro front _
    rw [List.append_nil]
    rfl
  | cons c skipped ih =>
    intro front hskip
    obtain ⟨hc, hskip⟩ : ¬ p c = true ∧ skipped.countP p = 0 := by
      rw [List.countP_eq_zero] at hskip ⊢
      exact ⟨hskip c List.mem_cons_self, fun a ha => hskip a (List.mem_cons_of_mem c ha)⟩
    rw [List.cons_append, gatherLoop_skip _ _ hc, ih _ hskip, List.append_assoc front [c] skipped]
    rfl

/-! ## The whole walk -/

theorem gather_none (new : α) {l : List α} (h : l.countP p = 0) :
    gather p add merge new l = l ++ [new] := by
  have hloop : gatherLoop p add merge 0 none l = (l, false) := by
    have hscan := gatherLoop_scan add merge [] none l [] h
    rw [List.append_nil, List.nil_append, List.append_nil, gatherLoop_end le_rfl] at hscan
    exact hscan
  unfold gather
  rw [hloop]
  rfl

theorem gather_match (new : α) {skipped : List α} {c : α} (rest : List α)
    (hskip : skipped.countP p = 0) (hc : p c = true) :
    gather p add merge new (skipped ++ c :: rest) =
      skipped ++ gathered add merge new (c :: (skim p rest).2) :: (skim p rest).1 := by
  have hscan := gatherLoop_scan add merge (c :: rest) none skipped [] hskip
  have htarget := gatherLoop_target (p := p) add merge skipped rest [] (add c)
  rw [List.nil_append, gatherLoop_first _ _ hc] at hscan
  have hloop := hscan.trans htarget
  unfold gather
  rw [List.length_nil] at hloop
  rw [hloop, if_pos rfl, List.append_assoc]
  rfl

/-- The walk gathers the elements `taken` and leaves the elements `kept` alone. -/
structure Gathers (p : α → Bool) (add : α → α) (merge : α → α → α) (new : α)
    (l l' taken kept : List α) : Prop where
  after : l'.Perm (gathered add merge new taken :: kept)
  before : (taken ++ kept).Perm l
  holds : ∀ c ∈ taken, p c = true
  eq_nil_iff : taken = [] ↔ l.countP p = 0
  length_le_one_iff : taken.length ≤ 1 ↔ l.countP p ≤ 1
  complete_iff : kept.countP p = 0 ↔ l.countP p ≤ trailing p l + 2

/-- A list in which the predicate holds somewhere splits at the first such element. -/
theorem exists_first_match {l : List α} (h : l.countP p ≠ 0) :
    ∃ skipped c rest, l = skipped ++ c :: rest ∧ skipped.countP p = 0 ∧ p c = true := by
  obtain ⟨c, hc⟩ : ∃ c, l.find? p = some c := by
    rw [← Option.ne_none_iff_exists', ne_eq, List.find?_eq_none, ← List.countP_eq_zero]
    exact h
  obtain ⟨hpc, skipped, rest, rfl, hskip⟩ := List.find?_eq_some_iff_append.mp hc
  refine ⟨skipped, c, rest, rfl, ?_, hpc⟩
  rw [List.countP_eq_zero]
  intro a ha
  have := hskip a ha
  simpa using this

/-- The elements satisfying `p` that the walk comes to: each of them but the first lets the last
element jump over, so the index of an element counts together with those before it. -/
def reached (p : α → Bool) (l : List α) : List α :=
  (l.zipIdx.filter fun a => p a.1 && a.2 + ((l.take a.2).countP p - 1) < l.length).map Prod.fst

theorem reached_cons_neg {c : α} (hc : ¬ p c = true) (l : List α) :
    reached p (c :: l) = reached p l := by
  unfold reached
  rw [List.zipIdx_cons, List.zipIdx_succ, List.filter_cons_of_neg (by simp [hc]), List.filter_map]
  have hrest : ∀ a : α × ℕ, a.2 + 1 + (((c :: l).take (a.2 + 1)).countP p - 1) < (c :: l).length ↔
      a.2 + ((l.take a.2).countP p - 1) < l.length := by
    intro a
    rw [List.take_succ_cons, List.countP_cons_of_neg hc, List.length_cons]
    omega
  simp only [Function.comp_def, hrest]
  simp [Function.comp_def]

theorem reached_cons_pos {c : α} (hc : p c = true) (l : List α) :
    reached p (c :: l) = c :: (skim p l).2 := by
  rw [skim_taken_eq]
  unfold reached upTo
  rw [List.zipIdx_cons, List.zipIdx_succ, List.filter_cons_of_pos (by simp [hc]), List.filter_map]
  have hrest : ∀ a : α × ℕ, a.2 + 1 + (((c :: l).take (a.2 + 1)).countP p - 1) < (c :: l).length ↔
      a.2 + (l.take a.2).countP p + 0 < l.length := by
    intro a
    rw [List.take_succ_cons, List.countP_cons_of_pos hc, List.length_cons]
    omega
  simp only [Function.comp_def, hrest]
  simp [Function.comp_def]

theorem reached_append {skipped : List α} (h : skipped.countP p = 0) (l : List α) :
    reached p (skipped ++ l) = reached p l := by
  induction skipped with
  | nil => rfl
  | cons c skipped ih =>
    rw [List.countP_eq_zero] at h ih
    rw [List.cons_append, reached_cons_neg (h c List.mem_cons_self),
      ih fun a ha => h a (List.mem_cons_of_mem c ha)]

/-- A walk that finds nothing. -/
theorem gathers_none (new : α) {l : List α} (h : l.countP p = 0) :
    Gathers p add merge new l (gather p add merge new l) [] l where
  after := by
    rw [gather_none new h]
    exact List.perm_append_singleton _ _
  before := List.Perm.refl _
  holds c hc := absurd hc List.not_mem_nil
  eq_nil_iff := iff_of_true rfl h
  length_le_one_iff := iff_of_true (Nat.zero_le 1) (by omega)
  complete_iff := iff_of_true h (by omega)

/-- A walk that finds `c` first: the rest is skimmed. -/
theorem gathers_match (new : α) {skipped : List α} {c : α} (rest : List α)
    (hskip : skipped.countP p = 0) (hc : p c = true) :
    Gathers p add merge new (skipped ++ c :: rest) (gather p add merge new (skipped ++ c :: rest))
      (c :: (skim p rest).2) (skipped ++ (skim p rest).1) := by
  have hcount : (skipped ++ c :: rest).countP p = rest.countP p + 1 := by
    rw [List.countP_append, hskip, List.countP_cons_of_pos hc]
    omega
  refine { after := ?_, before := ?_, holds := ?_, eq_nil_iff := ?_, length_le_one_iff := ?_,
           complete_iff := ?_ }
  · rw [gather_match new rest hskip hc]
    exact List.perm_middle
  · -- the two parts of the skim make up the rest
    calc (c :: (skim p rest).2 ++ (skipped ++ (skim p rest).1)).Perm
          (c :: (skipped ++ ((skim p rest).2 ++ (skim p rest).1))) := by
          rw [List.cons_append, ← List.append_assoc, ← List.append_assoc]
          exact (List.perm_append_comm.append_right _).cons c
      _ |>.Perm (c :: (skipped ++ rest)) := ((skim_perm rest).append_left _).cons c
      _ |>.Perm (skipped ++ c :: rest) := List.perm_middle.symm
  · intro d hd
    rcases List.mem_cons.mp hd with rfl | hd
    · exact hc
    · exact skim_taken rest d hd
  · exact iff_of_false (List.cons_ne_nil _ _) (by omega)
  · rw [List.length_cons, hcount, Nat.add_le_add_iff_right, Nat.add_le_add_iff_right,
      Nat.le_zero, Nat.le_zero, List.length_eq_zero_iff]
    exact skim_taken_eq_nil_iff rest
  · rw [List.countP_append, hskip, Nat.zero_add, skim_complete_iff, hcount]
    by_cases hrest : rest.countP p = 0
    · omega
    · rw [← List.singleton_append, ← List.append_assoc,
        trailing_append _ _ (Nat.pos_of_ne_zero hrest)]
      omega

/-- The walk gathers the elements it reaches. -/
theorem exists_gathers_reached (p : α → Bool) (add : α → α) (merge : α → α → α) (new : α)
    (l : List α) :
    ∃ kept, Gathers p add merge new l (gather p add merge new l) (reached p l) kept := by
  by_cases h : l.countP p = 0
  · have hreached : reached p l = [] := by
      rw [← List.append_nil l, reached_append h]
      rfl
    rw [hreached]
    exact ⟨l, gathers_none new h⟩
  · obtain ⟨skipped, c, rest, rfl, hskip, hc⟩ := exists_first_match h
    rw [reached_append hskip, reached_cons_pos hc]
    exact ⟨skipped ++ (skim p rest).1, gathers_match new rest hskip hc⟩

theorem exists_gathers (p : α → Bool) (add : α → α) (merge : α → α → α) (new : α) (l : List α) :
    ∃ taken kept, Gathers p add merge new l (gather p add merge new l) taken kept :=
  ⟨reached p l, exists_gathers_reached p add merge new l⟩

/-! ## Maps -/

section Maps

theorem swapRemove_map (f : α → β) (l : List α) (ix : ℕ) :
    swapRemove (l.map f) ix = (swapRemove l ix).map f := by
  unfold swapRemove
  rw [List.getLast?_map]
  cases l.getLast? with
  | none => rfl
  | some b => simp [List.map_dropLast, List.map_set]

theorem modify_map {f : α → β} {g : α → α} {g' : β → β} (hg : ∀ a, f (g a) = g' (f a))
    (l : List α) (t : ℕ) : (l.map f).modify t g' = (l.modify t g).map f := by
  apply List.ext_getElem?
  intro i
  simp only [List.getElem?_modify, List.getElem?_map]
  cases l[i]? with
  | none => rfl
  | some a => by_cases hi : t = i <;> simp [hi, hg]

/-- What the function does not change is the same at all places. -/
theorem map_modify_of_eq {f : α → β} {g : α → α} (hg : ∀ a, f (g a) = f a) (l : List α) (t : ℕ) :
    (l.modify t g).map f = l.map f := by
  have hid : (l.map f).modify t id = (l.modify t g).map f := modify_map (fun a => hg a) l t
  rw [← hid, List.modify_id]

theorem set_eq_modify {l : List α} {ix : ℕ} (h : ix < l.length) (g : α → α) :
    l.set ix (g (l.get ⟨ix, h⟩)) = l.modify ix g := by
  apply List.ext_getElem?
  intro i
  rw [List.getElem?_set, List.getElem?_modify]
  by_cases hi : ix = i
  · subst hi
    simp [h]
  · simp [hi]

theorem sweep_map {q : β → Bool} {f : α → β} (hq : ∀ a, q (f a) = p a) (n : ℕ) :
    ∀ l : List α, sweep q n (l.map f) = ((sweep p n l).1.map f, (sweep p n l).2.map f) := by
  induction n with
  | zero => exact fun l => rfl
  | succ n ih =>
    intro l
    rw [sweep, sweep, List.getElem?_map]
    cases l[n]? with
    | none => exact ih l
    | some c =>
      simp only [Option.map_some, hq, swapRemove_map, ih]
      split_ifs
      · rfl
      · rfl

theorem reached_map {q : β → Bool} {f : α → β} (hq : ∀ a, q (f a) = p a) (l : List α) :
    reached q (l.map f) = (reached p l).map f := by
  unfold reached
  rw [List.zipIdx_map, List.filter_map, List.map_map, List.map_map]
  simp [Function.comp_def, ← List.map_take, List.countP_map, hq]

variable {q : β → Bool} {add' : β → β} {merge' : β → β → β} {f : α → β}
  (hq : ∀ a, q (f a) = p a) (hadd : ∀ a, f (add a) = add' (f a))
  (hmerge : ∀ a b, f (merge a b) = merge' (f a) (f b))
include hq hadd hmerge

theorem gatherLoop_map (ix : ℕ) (target : Option ℕ) (l : List α) :
    gatherLoop q add' merge' ix target (l.map f) =
      ((gatherLoop p add merge ix target l).1.map f, (gatherLoop p add merge ix target l).2) := by
  fun_induction gatherLoop p add merge ix target l with
  | case1 ix l h hp a t ih =>
    have hmod : ((l.map f).set ix (f a)).modify t (merge' · (f a)) =
        ((l.set ix a).modify t (merge · a)).map f := by
      rw [← List.map_set, modify_map fun c => hmerge c a]
    rw [gatherLoop, dif_pos (by simpa using h), List.getElem_map, hq, if_pos hp, ← hadd]
    dsimp only
    rw [hmod, swapRemove_map, ih]
  | case2 ix l h hp a ih =>
    rw [gatherLoop, dif_pos (by simpa using h), List.getElem_map, hq, if_pos hp, ← hadd]
    dsimp only
    rw [← List.map_set, ih]
  | case3 ix target l h hp ih =>
    rw [gatherLoop, dif_pos (by simpa using h), List.getElem_map, hq, if_neg hp, ih]
  | case4 ix target l h => rw [gatherLoop_end (by simpa using h)]

theorem gather_map (new : α) (l : List α) :
    gather q add' merge' (f new) (l.map f) = (gather p add merge new l).map f := by
  unfold gather
  rw [gatherLoop_map hq hadd hmerge]
  dsimp only
  split_ifs
  · rfl
  · simp

end Maps

end SwapRemove
