import Mathlib.Data.Nat.Notation
import Mathlib.Data.Option.Basic
import Mathlib.Tactic.TypeStar

/-!
# Runs of a machine driven by events

`step s e` is the state after the event `e` in the state `s`, or `none` if `e` cannot happen in `s`.
A property of states holds along a run if it holds in every state of the run; a condition on steps
is met by a run if it is met by each of its steps.
-/

namespace Runs

variable {σ ε : Type*} (step : σ → ε → Option σ)

/-- The state after a sequence of events. -/
def run : σ → List ε → Option σ
  | s, [] => some s
  | s, e :: es => (step s e).bind fun s' => run s' es

/-- `P` holds in every state of the run. -/
def Along (P : σ → Prop) : σ → List ε → Prop
  | s, [] => P s
  | s, e :: es => P s ∧ ∀ s', step s e = some s' → Along P s' es

/-- `C` is met by the state before each step and the event of the step. -/
def EachStep (C : σ → ε → Prop) : σ → List ε → Prop
  | _, [] => True
  | s, e :: es => C s e ∧ ∀ s', step s e = some s' → EachStep C s' es

variable {step}

theorem run_cons_eq_some {s t : σ} {e : ε} {es : List ε} :
    run step s (e :: es) = some t ↔ ∃ s', step s e = some s' ∧ run step s' es = some t :=
  Option.bind_eq_some_iff

theorem run_append {s t : σ} {es : List ε} (h : run step s es = some t) (es' : List ε) :
    run step s (es ++ es') = run step t es' := by
  induction es generalizing s with
  | nil =>
    cases h
    rfl
  | cons e es ih =>
    obtain ⟨s', hs', hrun⟩ := run_cons_eq_some.mp h
    rw [List.cons_append, run, hs', Option.bind_some]
    exact ih hrun

/-- Some run leads from the one state to the other. -/
def Reaches (step : σ → ε → Option σ) (s t : σ) : Prop := ∃ es, run step s es = some t

theorem Reaches.refl (s : σ) : Reaches step s s := ⟨[], rfl⟩

theorem Reaches.of_step {s t : σ} {e : ε} (h : step s e = some t) : Reaches step s t :=
  ⟨[e], run_cons_eq_some.mpr ⟨t, h, rfl⟩⟩

theorem Reaches.trans {s t u : σ} (h : Reaches step s t) (h' : Reaches step t u) :
    Reaches step s u := by
  obtain ⟨es, hes⟩ := h
  obtain ⟨es', hes'⟩ := h'
  exact ⟨es ++ es', (run_append hes es').trans hes'⟩

instance decEachStep (C : σ → ε → Prop) [∀ s e, Decidable (C s e)] :
    ∀ s es, Decidable (EachStep step C s es)
  | _, [] => inferInstanceAs (Decidable True)
  | s, e :: es =>
    match h : step s e with
    | none => decidable_of_iff (C s e)
      ⟨fun hC => ⟨hC, fun _ hs' => nomatch h.symm.trans hs'⟩, And.left⟩
    | some s' =>
      have := decEachStep C s' es
      decidable_of_iff (C s e ∧ EachStep step C s' es)
        ⟨fun ⟨hC, heach⟩ => ⟨hC, fun _ hs'' => Option.some.inj (h.symm.trans hs'') ▸ heach⟩,
          fun ⟨hC, heach⟩ => ⟨hC, heach s' h⟩⟩

theorem Along.head {P : σ → Prop} {s : σ} {es : List ε} (h : Along step P s es) : P s := by
  cases es with
  | nil => exact h
  | cons e es => exact h.1

theorem Along.mono {P Q : σ → Prop} (hPQ : ∀ s, P s → Q s) {s : σ} {es : List ε}
    (h : Along step P s es) : Along step Q s es := by
  induction es generalizing s with
  | nil => exact hPQ s h
  | cons e es ih => exact ⟨hPQ s h.1, fun s' hs' => ih (h.2 s' hs')⟩

theorem Along.last {P : σ → Prop} {s t : σ} {es : List ε} (h : Along step P s es)
    (hrun : run step s es = some t) : P t := by
  induction es generalizing s with
  | nil =>
    cases hrun
    exact h
  | cons e es ih =>
    obtain ⟨s', hs', hrun⟩ := run_cons_eq_some.mp hrun
    exact ih (h.2 s' hs') hrun

/-- **Invariant rule.** What every step preserves holds along every run. -/
theorem along_of_preserved {I : σ → Prop} (hstep : ∀ s e s', I s → step s e = some s' → I s')
    {s : σ} (hs : I s) (es : List ε) : Along step I s es := by
  induction es generalizing s with
  | nil => exact hs
  | cons e es ih => exact ⟨hs, fun s' hs' => ih (hstep s e s' hs hs')⟩

theorem inv_of_run {I : σ → Prop} (hstep : ∀ s e s', I s → step s e = some s' → I s') {s t : σ}
    (hs : I s) {es : List ε} (hrun : run step s es = some t) : I t :=
  (along_of_preserved hstep hs es).last hrun

/-- What holds before a step whenever it holds after it holds along the whole way to a state that
has it. -/
theorem back_of_run {J : σ → Prop} (hJ : ∀ s e s', step s e = some s' → J s' → J s) {s t : σ}
    {es : List ε} (hrun : run step s es = some t) (ht : J t) : J s := by
  induction es generalizing s with
  | nil =>
    cases hrun
    exact ht
  | cons e es ih =>
    obtain ⟨s', hs', hrun⟩ := run_cons_eq_some.mp hrun
    exact hJ s e s' hs' (ih hrun)

/-- What the steps of some events preserve holds after a run of such events. -/
theorem inv_of_run_of {I : σ → Prop} {E : ε → Prop}
    (hstep : ∀ s e s', E e → I s → step s e = some s' → I s') {s t : σ} (hs : I s) {es : List ε}
    (hes : ∀ e ∈ es, E e) (hrun : run step s es = some t) : I t := by
  induction es generalizing s with
  | nil =>
    cases hrun
    exact hs
  | cons e es ih =>
    rw [List.forall_mem_cons] at hes
    obtain ⟨s', hs', hrun⟩ := run_cons_eq_some.mp hrun
    exact ih (hstep s e s' hes.1 hs hs') hes.2 hrun

/-- **History rule.** An invariant of the state and of the events before it. -/
theorem inv_of_run_after {H : List ε → σ → Prop}
    (hstep : ∀ before s e s', H before s → step s e = some s' → H (before ++ [e]) s') {s t : σ}
    (hs : H [] s) {es : List ε} (hrun : run step s es = some t) : H es t := by
  suffices hfrom : ∀ before s, H before s → run step s es = some t → H (before ++ es) t from
    hfrom [] s hs hrun
  clear hs hrun
  induction es with
  | nil =>
    rintro before s hs ⟨⟩
    rw [List.append_nil]
    exact hs
  | cons e es ih =>
    intro before s hs hrun
    obtain ⟨s', hs', hrun⟩ := run_cons_eq_some.mp hrun
    have hrest := ih (before ++ [e]) s' (hstep before s e s' hs hs') hrun
    rwa [List.append_assoc] at hrest

/-- **Rank rule.** If the steps of a kind lower a rank that no step raises, a run has at most as
many of them as the rank falls. -/
theorem countP_add_rank_le {D : σ → Prop} {E : ε → Prop} {R : σ → ℕ} {own : ε → Bool}
    (hD : ∀ s e s', E e → D s → step s e = some s' → D s')
    (hrank : ∀ s e s', E e → D s → step s e = some s' → (own e).toNat + R s' ≤ R s)
    {s t : σ} (hs : D s) {es : List ε} (hes : ∀ e ∈ es, E e) (hrun : run step s es = some t) :
    es.countP own + R t ≤ R s := by
  induction es generalizing s with
  | nil =>
    cases hrun
    simp
  | cons e es ih =>
    rw [List.forall_mem_cons] at hes
    obtain ⟨s', hs', hrun⟩ := run_cons_eq_some.mp hrun
    have htail := ih (hD s e s' hes.1 hs hs') hes.2 hrun
    have hhead := hrank s e s' hes.1 hs hs'
    rw [List.countP_cons]
    cases hown : own e with
    | true =>
      rw [hown, Bool.toNat_true] at hhead
      simp only [if_true]
      omega
    | false =>
      rw [hown, Bool.toNat_false] at hhead
      simp only [Bool.false_eq_true, if_false]
      omega

/-! ## Refinement -/

section Refinement

variable {τ β : Type*}

/-- What the events of a run stand for, one after the other. -/
def trace (step : σ → ε → Option σ) (t : σ → ε → List β) : σ → List ε → List β
  | _, [] => []
  | s, e :: es => t s e ++ (step s e).elim [] fun s' => trace step t s' es

/-- If every step does to the abstract state what its events do, so does a run. -/
theorem run_trace {abs : σ → τ} {f : τ → β → τ} {t : σ → ε → List β}
    (h : ∀ s e s', step s e = some s' → abs s' = (t s e).foldl f (abs s)) {s s' : σ} {es : List ε}
    (hrun : run step s es = some s') : abs s' = (trace step t s es).foldl f (abs s) := by
  induction es generalizing s with
  | nil =>
    cases hrun
    rfl
  | cons e es ih =>
    obtain ⟨s₁, hs₁, hrun⟩ := run_cons_eq_some.mp hrun
    rw [trace, hs₁, Option.elim_some, List.foldl_append, ← h s e s₁ hs₁]
    exact ih hrun

/-- **Simulation.** If every step from related states is a way of the other machine to related
states, so is every run. Only the runs to a state with `J` count, and those that meet `C`. -/
theorem reaches_of_run {δ : Type*} {step' : τ → δ → Option τ} {J : σ → Prop}
    {C : σ → ε → Prop} {R : σ → τ → Prop}
    (hJ : ∀ s e s', step s e = some s' → J s' → J s)
    (hR : ∀ s e s' a, step s e = some s' → J s' → C s e → R s a →
      ∃ a', Reaches step' a a' ∧ R s' a')
    {s t : σ} {es : List ε} (hrun : run step s es = some t) (ht : J t)
    (hC : EachStep step C s es) {a : τ} (ha : R s a) : ∃ a', Reaches step' a a' ∧ R t a' := by
  induction es generalizing s a with
  | nil =>
    cases hrun
    exact ⟨a, .refl a, ha⟩
  | cons e es ih =>
    obtain ⟨s', hs', hrun⟩ := run_cons_eq_some.mp hrun
    obtain ⟨a', hreach, ha'⟩ := hR s e s' a hs' (back_of_run hJ hrun ht) hC.1 ha
    obtain ⟨a'', hreach', ha''⟩ := ih hrun (hC.2 s' hs') ha'
    exact ⟨a'', hreach.trans hreach', ha''⟩

end Refinement

/-! ## Exact conditions -/

section Exact

variable {I J P : σ → Prop} {C C' : σ → ε → Prop}
  (hJ : ∀ s e s', step s e = some s' → J s' → J s)
  (hI : ∀ s e s', I s → step s e = some s' → I s')
include hI

section Towards
include hJ

/-- **Exact condition of an invariant.** If a step from a good state leads to a good state exactly
when it meets a condition, the states of a run are all good exactly when its steps all meet it. Only
the runs to a state with `J` count. -/
theorem along_iff_eachStep
    (hP : ∀ s e s', I s → J s' → P s → step s e = some s' → (P s' ↔ C s e))
    {s t : σ} {es : List ε} (hs : I s) (hPs : P s) (hrun : run step s es = some t) (ht : J t) :
    Along step P s es ↔ EachStep step C s es := by
  induction es generalizing s with
  | nil => exact iff_of_true hPs trivial
  | cons e es ih =>
    obtain ⟨s', hs', hrun⟩ := run_cons_eq_some.mp hrun
    have hiff := hP s e s' hs (back_of_run hJ hrun ht) hPs hs'
    constructor
    · rintro ⟨-, halong⟩
      have hPs' : P s' := (halong s' hs').head
      refine ⟨hiff.mp hPs', fun s'' hs'' => ?_⟩
      cases hs'.symm.trans hs''
      exact (ih (hI s e s' hs hs') hPs' hrun).mp (halong s' hs')
    · rintro ⟨hC, heach⟩
      refine ⟨hPs, fun s'' hs'' => ?_⟩
      cases hs'.symm.trans hs''
      exact (ih (hI s e s' hs hs') (hiff.mpr hC) hrun).mpr (heach s' hs')

/-- **Checkpoints.** If only a checkpoint turns a bad state into a good one, a run to a checkpoint
that is good at its checkpoints is good everywhere. -/
theorem along_of_checkpoints {K : σ → Prop}
    (hstay : ∀ s e s', I s → J s' → step s e = some s' → ¬ K s → P s' → P s)
    {s t : σ} {es : List ε} (hs : I s) (hrun : run step s es = some t) (ht : J t) (hK : K t)
    (h : Along step (fun s => K s → P s) s es) : Along step P s es := by
  induction es generalizing s with
  | nil =>
    cases hrun
    exact h hK
  | cons e es ih =>
    obtain ⟨s', hs', hrun⟩ := run_cons_eq_some.mp hrun
    have htail := ih (hI s e s' hs hs') hrun (h.2 s' hs')
    refine ⟨?_, fun s'' hs'' => ?_⟩
    · by_cases hKs : K s
      · exact h.1 hKs
      · exact hstay s e s' hs (back_of_run hJ hrun ht) hs' hKs htail.head
    · cases hs'.symm.trans hs''
      exact htail

end Towards

/-- **Exact condition of steps and states.** If a step from a good state is good and leads to a good
state exactly when it meets a condition, a run is good in all steps and states exactly when its
steps all meet it. -/
theorem along_and_eachStep_iff {F : σ → ε → Prop}
    (hP : ∀ s e s', I s → P s → step s e = some s' → (F s e ∧ P s' ↔ C s e))
    {s t : σ} {es : List ε} (hs : I s) (hPs : P s) (hrun : run step s es = some t) :
    Along step P s es ∧ EachStep step F s es ↔ EachStep step C s es := by
  induction es generalizing s with
  | nil => exact iff_of_true ⟨hPs, trivial⟩ trivial
  | cons e es ih =>
    obtain ⟨s', hs', hrun⟩ := run_cons_eq_some.mp hrun
    have hiff := hP s e s' hs hPs hs'
    constructor
    · rintro ⟨⟨-, halong⟩, hF, heach⟩
      have hPs' : P s' := (halong s' hs').head
      refine ⟨hiff.mp ⟨hF, hPs'⟩, fun s'' hs'' => ?_⟩
      cases hs'.symm.trans hs''
      exact (ih (hI s e s' hs hs') hPs' hrun).mp ⟨halong s' hs', heach s' hs'⟩
    · rintro ⟨hC, heach⟩
      obtain ⟨hF, hPs'⟩ := hiff.mpr hC
      obtain ⟨halong, heach'⟩ := (ih (hI s e s' hs hs') hPs' hrun).mpr (heach s' hs')
      refine ⟨⟨hPs, fun s'' hs'' => ?_⟩, hF, fun s'' hs'' => ?_⟩
      · cases hs'.symm.trans hs''
        exact halong
      · cases hs'.symm.trans hs''
        exact heach'

/-- Two conditions that agree in the states satisfying an invariant are met by the same runs. -/
theorem eachStep_congr (hC : ∀ s e s', I s → step s e = some s' → (C s e ↔ C' s e))
    {s t : σ} {es : List ε} (hs : I s) (hrun : run step s es = some t) :
    EachStep step C s es ↔ EachStep step C' s es := by
  induction es generalizing s with
  | nil => exact Iff.rfl
  | cons e es ih =>
    obtain ⟨s', hs', hrun⟩ := run_cons_eq_some.mp hrun
    have htail := ih (hI s e s' hs hs') hrun
    refine and_congr (hC s e s' hs hs') ⟨fun h s'' hs'' => ?_, fun h s'' hs'' => ?_⟩
    · cases hs'.symm.trans hs''
      exact htail.mp (h s' hs')
    · cases hs'.symm.trans hs''
      exact htail.mpr (h s' hs')

end Exact

end Runs
