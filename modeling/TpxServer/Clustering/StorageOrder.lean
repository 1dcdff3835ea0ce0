import TpxServer.Clustering.Construction
import TpxServer.Clustering.Merging

/-!
# The storage order of the open clusters

Removal shuffles the open clusters, so what a click does to them should not depend on how they are
stored. Merging is commutative and associative; but the loop reaches only some of the clusters
containing the click, and which these are depends on the order. From two orders a click has the same
outcome exactly when it reaches the same clusters (`same_outcome_iff`), for instance whenever at
most two clusters contain it (`same_outcome_of_few`).
-/

namespace TpxServer.Clustering

open SwapRemove

/-! ## Merging is commutative and associative -/

theorem weightedMean_comm (m w m' w' : ℚ) : weightedMean m w m' w' = weightedMean m' w' m w := by
  unfold weightedMean
  rw [add_comm (m * w), add_comm w]

theorem weightedMean_assoc {w w' w'' : ℚ} (hw : 0 < w) (hw' : 0 < w') (hw'' : 0 < w'')
    (m m' m'' : ℚ) :
    weightedMean (weightedMean m w m' w') (w + w') m'' w'' =
      weightedMean m w (weightedMean m' w' m'' w'') (w' + w'') := by
  unfold weightedMean
  field_simp
  ring

namespace Cluster

theorem addCluster_comm (c c' : Cluster) : c.addCluster c' = c'.addCluster c := by
  unfold addCluster
  rw [Cluster.mk.injEq]
  exact ⟨weightedMean_comm _ _ _ _, weightedMean_comm _ _ _ _, weightedMean_comm _ _ _ _,
    add_comm _ _, min_comm _ _, max_comm _ _, min_comm _ _, max_comm _ _, min_comm _ _,
    max_comm _ _⟩

theorem addCluster_assoc {c c' c'' : Cluster} (hc : 0 < c.tot_total) (hc' : 0 < c'.tot_total)
    (hc'' : 0 < c''.tot_total) :
    (c.addCluster c').addCluster c'' = c.addCluster (c'.addCluster c'') := by
  have hmean := weightedMean_assoc hc hc' hc''
  unfold addCluster
  rw [Cluster.mk.injEq]
  exact ⟨hmean _ _ _, hmean _ _ _, hmean _ _ _, add_assoc _ _ _, min_assoc _ _ _, max_assoc _ _ _,
    min_assoc _ _ _, max_assoc _ _ _, min_assoc _ _ _, max_assoc _ _ _⟩

end Cluster

section Merged

variable {settings : ClusterSettings} {click : Packet} {taken taken' : List Cluster}

/-- Which clusters are merged matters, in which order they are stored does not. -/
theorem mergeClusters_perm (hperm : taken.Perm taken') (htaken : Charged taken) :
    mergeClusters settings click taken = mergeClusters settings click taken' := by
  rw [mergeClusters_eq, mergeClusters_eq]
  exact gathered_perm (P := fun c : Cluster => 0 < c.tot_total) (fun _ _ h h' => add_pos h h')
    (fun c c' _ _ => c.addCluster_comm c') (fun _ _ _ => Cluster.addCluster_assoc) hperm
    fun c hc => tot_addClick_pos (htaken c hc) click

/-- The merged cluster has more charge than any of its parts. -/
theorem tot_lt_mergeClusters (htot : 1 ≤ click.tot) (htaken : Charged taken) {c : Cluster}
    (hc : c ∈ taken) : c.tot_total < (mergeClusters settings click taken).tot_total := by
  obtain ⟨-, hcharge⟩ := charge_mergeClusters settings htot htaken
  have hsum : (mergeClusters settings click taken).tot_total =
      (charges taken).1 + (max taken.length 1 • clickCharge click).1 := congrArg Prod.fst hcharge
  have hclick : 0 < (max taken.length 1 • clickCharge click).1 := by
    have hp : (0 : ℚ) < click.tot := by exact_mod_cast htot
    rw [Prod.smul_fst, nsmul_eq_mul]
    exact mul_pos (by positivity) hp
  have hle : c.tot_total ≤ (charges taken).1 := by
    rw [charges_eq]
    refine List.single_le_sum (fun v hv => ?_) _ (List.mem_map_of_mem hc)
    obtain ⟨d, hd, rfl⟩ := List.mem_map.mp hv
    exact (htaken d hd).le
  linarith

/-- Whether the same clusters were merged can be told from the result. -/
theorem taken_perm_of_merged_perm (htot : 1 ≤ click.tot) (htaken' : Charged taken')
    {kept kept' : List Cluster} (hlist : (taken ++ kept).Perm (taken' ++ kept'))
    (hmerged : (mergeClusters settings click taken :: kept).Perm
      (mergeClusters settings click taken' :: kept')) : taken.Perm taken' := by
  generalize hm : mergeClusters settings click taken = m at hmerged
  generalize hm' : mergeClusters settings click taken' = m' at hmerged
  have hswap : (m' :: taken).Perm (m :: taken') := by
    rw [List.perm_iff_count] at hlist hmerged ⊢
    intro c
    have hc := hlist c
    have hmc := hmerged c
    rw [List.count_append, List.count_append] at hc
    rw [List.count_cons, List.count_cons] at hmc ⊢
    omega
  by_cases heq : m = m'
  · subst heq
    exact (List.perm_cons m).mp hswap
  · have hmem : m' ∈ taken' :=
      (List.mem_cons.mp (hswap.subset List.mem_cons_self)).resolve_left (Ne.symm heq)
    exact absurd (tot_lt_mergeClusters htot htaken' hmem) (by rw [hm']; exact lt_irrefl _)

end Merged

/-! ## One click from two orders -/

/-- The cluster was built from clicks with ToT. -/
def Built (settings : ClusterSettings) (c : Cluster) : Prop :=
  ∃ k : Construction, (∀ p ∈ k.clicks, 1 ≤ p.tot) ∧ k.build settings = c

/-- A message with one click leaves the same open clusters and publishes the same words, up to the
order. -/
structure SameOutcome (settings : ClusterSettings) (click : Word) (list list' : ClusterList) :
    Prop where
  opens : (({ settings := settings, mOpenClusters := list } : ClusteringManager).handlePackets
      [click]).mOpenClusters.Perm
    (({ settings := settings, mOpenClusters := list' } : ClusteringManager).handlePackets
      [click]).mOpenClusters
  words : (({ settings := settings, mOpenClusters := list } : ClusteringManager).handlePackets
      [click]).published.flatten.Perm
    (({ settings := settings, mOpenClusters := list' } : ClusteringManager).handlePackets
      [click]).published.flatten

section Click

variable {settings : ClusterSettings}

theorem sameOutcome_iff {click : Word} {list list' : ClusterList} :
    SameOutcome settings click list list' ↔
      (handleClick settings ⟨click⟩ list).1.Perm (handleClick settings ⟨click⟩ list').1 ∧
        ((handleClick settings ⟨click⟩ list).2.map Cluster.toRawValue).Perm
          ((handleClick settings ⟨click⟩ list').2.map Cluster.toRawValue) := by
  have hopens : ∀ l : ClusterList, (({ settings := settings, mOpenClusters := l } :
      ClusteringManager).handlePackets [click]).mOpenClusters =
        (handleClick settings ⟨click⟩ l).1 := fun l => (handlePackets_eq _ _).2.1
  have hwords : ∀ l : ClusterList, (({ settings := settings, mOpenClusters := l } :
      ClusteringManager).handlePackets [click]).published.flatten =
        (handleClick settings ⟨click⟩ l).2.map Cluster.toRawValue := by
    intro l
    rw [published_handlePackets]
    simp [handleClicks]
  rw [← hopens, ← hopens, ← hwords, ← hwords]
  exact ⟨fun h => ⟨h.opens, h.words⟩, fun h => ⟨h.1, h.2⟩⟩

theorem Built.tot_pos {c : Cluster} (h : Built settings c) : 0 < c.tot_total := by
  obtain ⟨k, htot, rfl⟩ := h
  exact (summarizes_build settings htot).tot_pos k.clicks_ne_zero htot

theorem Built.tmax_le (hs : settings.NonNegative) {c : Cluster} (h : Built settings c) :
    c.tmax ≤ 2 ^ 38 + 2 ^ 31 := by
  obtain ⟨k, -, rfl⟩ := h
  obtain ⟨p, -, htmax⟩ := (boxes_build settings k).exists_tmax
  rw [htmax]
  exact Cluster.tmax_ofPacket_le hs p

variable (hs : settings.NonNegative) {click : Packet} {list list' : ClusterList}
  (hperm : list.Perm list') (hbuilt : ∀ c ∈ list, Built settings c)
include hperm hbuilt

theorem handleClick_perm_of_reached
    (h : (reached (·.containsClick click) list).Perm (reached (·.containsClick click) list')) :
    (handleClick settings click list).1.Perm (handleClick settings click list').1 ∧
      (handleClick settings click list).2.Perm (handleClick settings click list').2 := by
  obtain ⟨kept, hm⟩ := exists_matched_reached settings click list
  obtain ⟨kept', hm'⟩ := exists_matched_reached settings click list'
  have hcharged : Charged (reached (·.containsClick click) list) := fun c hc =>
    (hbuilt c (hm.before.subset (List.mem_append_left kept hc))).tot_pos
  have hkept : kept.Perm kept' := by
    rw [← List.perm_append_left_iff (reached (·.containsClick click) list')]
    exact (h.symm.append_right kept).trans (hm.before.trans (hperm.trans hm'.before.symm))
  have hadd : (addToClusters settings click list).Perm (addToClusters settings click list') := by
    refine hm.after.trans (.trans ?_ hm'.after.symm)
    rw [mergeClusters_perm h hcharged]
    exact hkept.cons _
  obtain ⟨hclosed, hopen⟩ := handleClick_spec settings click list
  obtain ⟨hclosed', hopen'⟩ := handleClick_spec settings click list'
  exact ⟨hopen.trans ((hadd.filter _).trans hopen'.symm),
    hclosed.trans ((hadd.filter _).trans hclosed'.symm)⟩

include hs

theorem reached_perm_of_handleClick (htot : 1 ≤ click.tot)
    (h : (handleClick settings click list).1.Perm (handleClick settings click list').1) :
    (reached (·.containsClick click) list).Perm (reached (·.containsClick click) list') := by
  have hbuilt' : ∀ c ∈ list', Built settings c := fun c hc => hbuilt c (hperm.symm.subset hc)
  obtain ⟨kept, hm⟩ := exists_matched_reached settings click list
  obtain ⟨kept', hm'⟩ := exists_matched_reached settings click list'
  have hcharged' : Charged (reached (·.containsClick click) list') := fun c hc =>
    (hbuilt' c (hm'.before.subset (List.mem_append_left kept' hc))).tot_pos
  -- the clusters that contain the click: before the merge, and after it
  have hfilter := filter_contains_handleClick hs (fun c hc => (hbuilt c hc).tmax_le hs) hm
  have hfilter' := filter_contains_handleClick hs (fun c hc => (hbuilt' c hc).tmax_le hs) hm'
  have hbefore := hm.before.filter (·.containsClick click)
  have hbefore' := hm'.before.filter (·.containsClick click)
  rw [List.filter_append, List.filter_eq_self.mpr hm.contains] at hbefore
  rw [List.filter_append, List.filter_eq_self.mpr hm'.contains] at hbefore'
  exact taken_perm_of_merged_perm htot hcharged'
    (hbefore.trans ((hperm.filter _).trans hbefore'.symm))
    (hfilter.symm.trans ((h.filter _).trans hfilter'))

end Click

/-- **Storage order.** Stored in two orders, open clusters built from clicks with ToT have the same
outcome at a click with ToT exactly when the click reaches the same clusters containing it. -/
theorem same_outcome_iff {settings : ClusterSettings} (hs : settings.NonNegative)
    {list list' : ClusterList} (hperm : list.Perm list') (hbuilt : ∀ c ∈ list, Built settings c)
    {click : Word} (htot : 1 ≤ (Packet.mk click).tot) :
    SameOutcome settings click list list' ↔
      (reached (·.containsClick ⟨click⟩) list).Perm (reached (·.containsClick ⟨click⟩) list') := by
  rw [sameOutcome_iff]
  constructor
  · rintro ⟨hopens, -⟩
    exact reached_perm_of_handleClick hs hperm hbuilt htot hopens
  · intro h
    obtain ⟨hopens, hclosed⟩ := handleClick_perm_of_reached hperm hbuilt h
    exact ⟨hopens, hclosed.map _⟩

/-- With enough other clusters stored behind, all clusters containing the click are reached. -/
theorem reached_perm_filter {click : Packet} {list : ClusterList}
    (h : list.countP (·.containsClick click) ≤ trailing (·.containsClick click) list + 2) :
    (reached (·.containsClick click) list).Perm (list.filter (·.containsClick click)) := by
  obtain ⟨kept, hm⟩ := exists_matched_reached {} click list
  have hkept : kept.filter (·.containsClick click) = [] := by
    rw [← List.length_eq_zero_iff, ← List.countP_eq_length_filter]
    exact hm.complete_iff.mpr h
  have hbefore := hm.before.filter (·.containsClick click)
  rwa [List.filter_append, hkept, List.append_nil, List.filter_eq_self.mpr hm.contains] at hbefore

/-- As long as at most two clusters contain a click, the order does not matter. -/
theorem same_outcome_of_few {settings : ClusterSettings} {list list' : ClusterList}
    (hperm : list.Perm list') (hbuilt : ∀ c ∈ list, Built settings c) {click : Word}
    (hfew : list.countP (·.containsClick ⟨click⟩) ≤ 2) :
    SameOutcome settings click list list' := by
  have hfew' : list'.countP (·.containsClick ⟨click⟩) ≤ 2 := hperm.countP_eq _ ▸ hfew
  have hreached : (reached (·.containsClick ⟨click⟩) list).Perm
      (reached (·.containsClick ⟨click⟩) list') :=
    (reached_perm_filter (by omega)).trans
      ((hperm.filter _).trans (reached_perm_filter (by omega)).symm)
  obtain ⟨hopens, hclosed⟩ := handleClick_perm_of_reached hperm hbuilt hreached
  exact sameOutcome_iff.mpr ⟨hopens, hclosed.map _⟩

/-- Three clusters of one click each. -/
def triple : ClusterList :=
  [clickAt 0 5 1 100, clickAt 10 5 1 100, clickAt 5 11 1 100].map fun w =>
    Cluster.ofPacket {} ⟨w⟩

theorem built_ofPacket (settings : ClusterSettings) {p : Packet} (h : 1 ≤ p.tot) :
    Built settings (Cluster.ofPacket settings p) :=
  ⟨.ofPacket p, by simpa [Construction.clicks] using h, rfl⟩

theorem built_triple : ∀ c ∈ triple, Built {} c := by
  simp only [triple, List.map_cons, List.map_nil, List.forall_mem_cons]
  refine ⟨built_ofPacket _ (by decide), built_ofPacket _ (by decide), built_ofPacket _ (by decide),
    fun c hc => absurd hc List.not_mem_nil⟩

theorem same_outcome_iff_triple :
    SameOutcome {} (clickAt 5 6 1 100) triple triple.reverse ↔
      (reached (·.containsClick ⟨clickAt 5 6 1 100⟩) triple).Perm
        (reached (·.containsClick ⟨clickAt 5 6 1 100⟩) triple.reverse) :=
  same_outcome_iff ClusterSettings.nonNegative_default (List.reverse_perm triple).symm built_triple
    (by decide)

/-- A click in all three boxes is merged with the first two clusters stored. -/
theorem triple_not_same_outcome :
    ClusterSettings.NonNegative {} ∧ triple.Perm triple.reverse ∧ (∀ c ∈ triple, Built {} c) ∧
      1 ≤ (Packet.mk (clickAt 5 6 1 100)).tot ∧
      ¬ SameOutcome {} (clickAt 5 6 1 100) triple triple.reverse := by
  refine ⟨ClusterSettings.nonNegative_default, (List.reverse_perm triple).symm, built_triple,
    by decide, fun h => ?_⟩
  have hopens := h.opens
  revert hopens
  decide +kernel

end TpxServer.Clustering
