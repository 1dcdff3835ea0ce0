import TpxServer.Clustering.History
import TpxServer.Clustering.Charge

/-!
# What the clusterer divides by

The weighted means are divided by the charge of the cluster after the operation. It is never
negative, and it is zero only if all clicks of the cluster have ToT 0; the decoder lets such clicks
through. So a run divides by zero exactly when a click of ToT 0 reaches an open cluster without
charge (`divisors_ne_zero_iff`).
-/

namespace TpxServer.Clustering

open SwapRemove WeightedMean

namespace Construction

/-- What the means were divided by: each operation divides all of them by the same sum. -/
def divisors (settings : ClusterSettings) : Construction → List ℚ
  | .ofPacket _ => []
  | .addClick c p => c.divisors settings ++ [(c.build settings).tot_total + p.tot]
  | .addCluster c c' => c.divisors settings ++ c'.divisors settings ++
      [(c.build settings).tot_total + (c'.build settings).tot_total]

/-- None of the divisions is by zero. -/
def Defined (settings : ClusterSettings) (k : Construction) : Prop :=
  ∀ d ∈ k.divisors settings, d ≠ 0

instance (settings : ClusterSettings) : DecidablePred (Defined settings) :=
  fun _ => inferInstanceAs (Decidable (∀ d ∈ _, _))

variable {settings : ClusterSettings}

/-- The charge is added up without divisions. -/
theorem tot_build (settings : ClusterSettings) (k : Construction) :
    (k.build settings).tot_total = total weight k.clicks := by
  induction k with
  | ofPacket p => simp [build, clicks, Cluster.ofPacket, weight]
  | addClick c p ih => simp [build, clicks, Cluster.addClick, ih, weight]
  | addCluster c c' ih ih' => simp [build, clicks, Cluster.addCluster, ih, ih']

theorem weight_nonneg (p : Packet) : 0 ≤ weight p := by
  show (0 : ℚ) ≤ p.tot
  exact_mod_cast p.tot_nonneg

theorem tot_build_nonneg (settings : ClusterSettings) (k : Construction) :
    0 ≤ (k.build settings).tot_total := by
  rw [tot_build]
  exact Multiset.sum_nonneg (by simpa using fun p _ => weight_nonneg p)

theorem defined_ofPacket (p : Packet) : Defined settings (ofPacket p) :=
  fun _ hd => absurd hd List.not_mem_nil

theorem defined_addClick {k : Construction} {p : Packet} :
    Defined settings (k.addClick p) ↔
      Defined settings k ∧ (k.build settings).tot_total + p.tot ≠ 0 := by
  simp [Defined, divisors, or_imp, forall_and]

theorem defined_addCluster {k k' : Construction} :
    Defined settings (k.addCluster k') ↔ Defined settings k ∧ Defined settings k' ∧
      (k.build settings).tot_total + (k'.build settings).tot_total ≠ 0 := by
  simp [Defined, divisors, or_imp, forall_and]

/-- The sum is zero only if both parts are. -/
theorem divisor_ne_zero_iff {k : Construction} {p : Packet} :
    (k.build settings).tot_total + p.tot ≠ 0 ↔
      (p.tot = 0 → (k.build settings).tot_total ≠ 0) := by
  have hk := tot_build_nonneg settings k
  have hp : (0 : ℚ) ≤ p.tot := weight_nonneg p
  have hcast : (p.tot : ℚ) = 0 ↔ p.tot = 0 := Int.cast_eq_zero
  rw [ne_eq, add_eq_zero_iff_of_nonneg hk hp, hcast]
  tauto

/-- All that is gathered is defined exactly if it is so before the merge, for each of the parts:
their charges are then not zero, and neither are the sums of these. -/
theorem defined_gathered_iff {click : Packet} (taken : List Construction) :
    Defined settings (gathered (·.addClick click) addCluster (ofPacket click) taken) ↔
      ∀ k ∈ taken, Defined settings (k.addClick click) := by
  constructor
  · intro h k hk
    by_contra hnot
    refine absurd h (gathered_any (P := fun k => ¬ Defined settings k) ?_ ?_ hk hnot)
    · exact fun a b ha hab => ha (defined_addCluster.mp hab).1
    · exact fun a b hb hab => hb (defined_addCluster.mp hab).2.1
  · intro h
    cases taken with
    | nil => exact defined_ofPacket click
    | cons c taken =>
      -- the merged cluster is not new, so it has charge from the first part on
      have hadd : ∀ k ∈ c :: taken, Defined settings (k.addClick click) ∧
          0 < ((k.addClick click).build settings).tot_total := by
        intro k hk
        have hne : ((k.addClick click).build settings).tot_total ≠ 0 :=
          (defined_addClick.mp (h k hk)).2
        exact ⟨h k hk, lt_of_le_of_ne (tot_build_nonneg settings _) hne.symm⟩
      let merged := gathered (·.addClick click) addCluster (c.addClick click) (c :: taken)
      have hmerged : Defined settings merged ∧ 0 < (merged.build settings).tot_total := by
        refine gathered_all (P := fun k => Defined settings k ∧ 0 < (k.build settings).tot_total)
          ?_ (hadd c List.mem_cons_self) hadd
        rintro a b ⟨ha, ha0⟩ ⟨hb, hb0⟩
        have hsum : 0 < ((a.addCluster b).build settings).tot_total := add_pos ha0 hb0
        exact ⟨defined_addCluster.mpr ⟨ha, hb, hsum.ne'⟩, hsum⟩
      exact hmerged.1

end Construction

/-! ## The condition -/

/-- If the click has ToT 0, the clusters it is added to have charge. -/
def ReachesCharged (list : ClusterList) (click : Packet) : Prop :=
  click.tot = 0 → ∀ c ∈ reached (·.containsClick click) list, c.tot_total ≠ 0

/-- The open clusters after a click, as a step. -/
def clickStep (settings : ClusterSettings) (list : ClusterList) (click : Packet) :
    Option ClusterList := some (handleClick settings click list).1

/-- Every click of the call meets the condition. -/
def ReachesChargedInCall (m : ClusteringManager) (c : ClusteringManager.Call) : Prop :=
  Runs.EachStep (clickStep m.settings) ReachesCharged m.mOpenClusters c.clicks

section Runs

open Construction

variable {settings : ClusterSettings}

theorem defined_handleClick_iff (settings : ClusterSettings) (click : Packet)
    (list : List Construction) :
    (∀ k ∈ (Construction.handleClick settings click list).1 ++
        (Construction.handleClick settings click list).2, Defined settings k) ↔
      (∀ k ∈ list, Defined settings k) ∧
        ReachesCharged (list.map (build settings)) click := by
  obtain ⟨kept, hbefore, hafter⟩ := exists_handleClick settings click list
  have hreached : reached (·.containsClick click) (list.map (build settings)) =
      (reached (containsClick settings click) list).map (build settings) :=
    reached_map (fun _ => rfl) list
  have hgathered : Defined settings (gathered (·.addClick click) addCluster (ofPacket click)
        (reached (containsClick settings click) list)) ↔
      (∀ k ∈ reached (containsClick settings click) list, Defined settings k) ∧
        ReachesCharged (list.map (build settings)) click := by
    rw [defined_gathered_iff, ReachesCharged, hreached]
    simp only [defined_addClick, divisor_ne_zero_iff, List.forall_mem_map]
    exact ⟨fun h => ⟨fun k hk => (h k hk).1, fun h0 k hk => (h k hk).2 h0⟩,
      fun h k hk => ⟨h.1 k hk, fun h0 => h.2 h0 k hk⟩⟩
  have hlist : (∀ k ∈ list, Defined settings k) ↔
      (∀ k ∈ reached (containsClick settings click) list, Defined settings k) ∧
        ∀ k ∈ kept, Defined settings k := by
    simp only [← hbefore.mem_iff, List.mem_append, or_imp, forall_and]
  simp only [hafter.mem_iff, List.forall_mem_cons]
  rw [hgathered, hlist, and_right_comm]

theorem defined_handleClicks_iff (settings : ClusterSettings) (clicks : List Packet) :
    ∀ list : List Construction,
    (∀ k ∈ (Construction.handleClicks settings list clicks).1 ++
        (Construction.handleClicks settings list clicks).2, Defined settings k) ↔
      (∀ k ∈ list, Defined settings k) ∧
        Runs.EachStep (clickStep settings) ReachesCharged (list.map (build settings)) clicks := by
  induction clicks with
  | nil =>
    intro list
    simp [Construction.handleClicks, Runs.EachStep]
  | cons click clicks ih =>
    intro list
    have hclick := defined_handleClick_iff settings click list
    have hrest := ih (Construction.handleClick settings click list).1
    have hstep : clickStep settings (list.map (build settings)) click =
        some ((Construction.handleClick settings click list).1.map (build settings)) := by
      rw [clickStep, handleClick_build]
    simp only [List.mem_append, or_imp, forall_and] at hclick hrest ⊢
    simp only [Runs.EachStep, hstep, Option.some.injEq, forall_eq', Construction.handleClicks,
      List.mem_append, or_imp, forall_and]
    tauto

theorem defined_call_iff {h : History} {m : ClusteringManager} (hr : Records settings h m)
    (c : ClusteringManager.Call) :
    (∀ k ∈ (h.call settings c).opens ++ (h.call settings c).emitted, Defined settings k) ↔
      (∀ k ∈ h.opens ++ h.emitted, Defined settings k) ∧ ReachesChargedInCall m c := by
  cases c with
  | handlePackets data =>
    have hclicks := defined_handleClicks_iff settings (data.map Packet.mk) h.opens
    have hcall : ReachesChargedInCall m (.handlePackets data) ↔
        Runs.EachStep (clickStep settings) ReachesCharged (h.opens.map (build settings))
          (data.map Packet.mk) := by
      rw [ReachesChargedInCall, hr.settings_eq, hr.opens]
      rfl
    rw [hcall]
    simp only [History.call, List.mem_append, or_imp, forall_and] at hclicks ⊢
    tauto
  | flush =>
    have hcall : ReachesChargedInCall m .flush := trivial
    simp [History.call, hcall, or_imp, forall_and, and_comm]

theorem defined_run_iff (calls : List ClusteringManager.Call) :
    ∀ {h : History} {m : ClusteringManager}, Records settings h m →
      ((∀ k ∈ (h.run settings calls).opens ++ (h.run settings calls).emitted,
          Defined settings k) ↔
        (∀ k ∈ h.opens ++ h.emitted, Defined settings k) ∧
          Runs.EachStep ClusteringManager.step ReachesChargedInCall m calls) := by
  induction calls with
  | nil =>
    intro h m _
    simp [History.run, Runs.EachStep]
  | cons c calls ih =>
    intro h m hr
    have hrun : h.run settings (c :: calls) = (h.call settings c).run settings calls := rfl
    rw [hrun, ih (hr.call c), defined_call_iff hr, ClusteringManager.eachStep_cons, and_assoc]

end Runs

/-- **Division by zero.** The clusters of a run are those of its history, and none of the divisions
made for them is by zero exactly if every click of ToT 0 reaches only open clusters with charge. -/
theorem divisors_ne_zero_iff (settings : ClusterSettings) (calls : List ClusteringManager.Call) :
    Records settings (History.run settings {} calls)
        (({ settings := settings } : ClusteringManager).run calls) ∧
      ((∀ k ∈ (History.run settings {} calls).opens ++ (History.run settings {} calls).emitted,
          ∀ d ∈ k.divisors settings, d ≠ 0) ↔
        Runs.EachStep ClusteringManager.step ReachesChargedInCall { settings := settings }
          calls) := by
  refine ⟨(records_start settings).run calls, ?_⟩
  have hrun := defined_run_iff calls (records_start settings)
  simp only [List.append_nil, List.not_mem_nil, false_imp_iff, implies_true, true_and] at hrun
  exact hrun

/-- Two clicks of ToT 0 on one pixel. -/
def unchargedClicks : List ClusteringManager.Call :=
  [.handlePackets [clickAt 5 5 0 100, clickAt 5 5 0 100]]

/-- The second of them is added to a cluster without charge. -/
theorem unchargedClicks_divides_by_zero :
    ∃ k ∈ (History.run {} {} unchargedClicks).opens ++ (History.run {} {} unchargedClicks).emitted,
      ∃ d ∈ k.divisors {}, d = 0 := by
  decide +kernel

end TpxServer.Clustering
