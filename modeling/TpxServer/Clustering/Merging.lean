import TpxServer.Clustering.Charge

/-!
# Completeness of merging

After a click was handled, exactly one open cluster should contain it, made of all open clusters
that contained it before. The forward loop passes over the cluster it moves into a gap, so this
holds exactly when enough other clusters are stored behind the last one containing the click
(`merged_iff`): with `k` clusters containing it, at least `k - 2`.
-/

namespace TpxServer.Clustering

open SwapRemove

section Click

variable {settings : ClusterSettings} {click : Packet}

/-! ## The merged cluster -/

theorem mergeClusters_contains (hs : settings.NonNegative) {cs : List Cluster}
    (hcs : ∀ c ∈ cs, c.containsClick click = true) :
    (mergeClusters settings click cs).Contains click := by
  rw [mergeClusters_eq]
  refine gathered_all (P := fun c : Cluster => c.Contains click) (fun c c' h _ => h.addCluster c')
    (Cluster.contains_ofPacket hs click) fun c hc => ?_
  exact (Cluster.containsClick_iff.mp (hcs c hc)).addClick click

/-- The boxes end within the range of times widened by the separation. -/
def Bounded (cs : List Cluster) : Prop := ∀ c ∈ cs, c.tmax ≤ 2 ^ 38 + 2 ^ 31

theorem bounded_addToClusters (hs : settings.NonNegative) (click : Packet) {list : ClusterList}
    (hlist : Bounded list) : Bounded (addToClusters settings click list) :=
  all_addToClusters (P := fun c => c.tmax ≤ 2 ^ 38 + 2 ^ 31) (Cluster.tmax_ofPacket_le hs)
    (fun _ _ => Cluster.tmax_addCluster_le) click hlist

theorem bounded_handleClicks (hs : settings.NonNegative) (clicks : List Packet)
    {list : ClusterList} (hlist : Bounded list) :
    Bounded (handleClicks settings list clicks).1 :=
  all_handleClicks (P := fun c => c.tmax ≤ 2 ^ 38 + 2 ^ 31) (Cluster.tmax_ofPacket_le hs)
    (fun _ _ => Cluster.tmax_addCluster_le) clicks hlist

/-! ## One click -/

/-- The sweep does not close a cluster that contains the click. -/
theorem filter_contains_handleClick (hs : settings.NonNegative) {list taken kept : ClusterList}
    (hlist : Bounded list)
    (hm : Matched settings click list (addToClusters settings click list) taken kept) :
    ((handleClick settings click list).1.filter (·.containsClick click)).Perm
      (mergeClusters settings click taken :: kept.filter (·.containsClick click)) := by
  have hmerged := mergeClusters_contains hs hm.contains
  have hbounded : Bounded (mergeClusters settings click taken :: kept) := fun c hc =>
    bounded_addToClusters hs click hlist c (hm.after.symm.subset hc)
  have hfresh : (mergeClusters settings click taken :: kept).filter
        (fun c => c.containsClick click && !c.isStale settings click) =
      (mergeClusters settings click taken :: kept).filter (·.containsClick click) := by
    refine List.filter_congr fun c hc => ?_
    cases hcontains : c.containsClick click with
    | false => rfl
    | true =>
      rw [Cluster.not_isStale_of_contains hs (Cluster.containsClick_iff.mp hcontains)
        (hbounded c hc)]
      rfl
  calc ((handleClick settings click list).1.filter (·.containsClick click)).Perm
        (((addToClusters settings click list).filter fun c => !c.isStale settings click).filter
          (·.containsClick click)) := (handleClick_spec settings click list).2.filter _
    _ |>.Perm (((mergeClusters settings click taken :: kept).filter
          fun c => !c.isStale settings click).filter (·.containsClick click)) :=
        (hm.after.filter _).filter _
    _ |>.Perm (mergeClusters settings click taken :: kept.filter (·.containsClick click)) := by
        rw [List.filter_filter, hfresh, List.filter_cons_of_pos
          (p := fun c : Cluster => c.containsClick click) (Cluster.containsClick_iff.mpr hmerged)]

/-- Exactly one cluster of `after` contains the click, and it is the merger of the clusters of
`before` that contained it. -/
structure MergedInOne (settings : ClusterSettings) (click : Packet)
    (before after : ClusterList) : Prop where
  sole : after.countP (·.containsClick click) = 1
  merged : ∃ taken, taken.Perm (before.filter (·.containsClick click)) ∧
    after.filter (·.containsClick click) = [mergeClusters settings click taken]

theorem mergedInOne_iff (hs : settings.NonNegative) {list : ClusterList} (hlist : Bounded list) :
    MergedInOne settings click list (handleClick settings click list).1 ↔
      list.countP (·.containsClick click) ≤ trailing (·.containsClick click) list + 2 := by
  obtain ⟨taken, kept, hm⟩ := exists_matched settings click list
  have hafter := filter_contains_handleClick hs hlist hm
  rw [← hm.complete_iff]
  constructor
  · rintro ⟨hsole, -⟩
    rw [List.countP_eq_length_filter, hafter.length_eq, List.length_cons,
      ← List.countP_eq_length_filter] at hsole
    omega
  · intro hkept
    have hnil : kept.filter (·.containsClick click) = [] := by
      rw [← List.length_eq_zero_iff, ← List.countP_eq_length_filter]
      exact hkept
    rw [hnil, List.perm_singleton] at hafter
    refine ⟨?_, taken, ?_, hafter⟩
    · rw [List.countP_eq_length_filter, hafter]
      rfl
    · have hbefore := hm.before.filter (·.containsClick click)
      rw [List.filter_append, hnil, List.append_nil,
        List.filter_eq_self.mpr hm.contains] at hbefore
      exact hbefore

end Click

/-! ## Runs -/

theorem bounded_run {m : ClusteringManager} (hs : m.settings.NonNegative)
    (hm : Bounded m.mOpenClusters) (calls : List ClusteringManager.Call) :
    Bounded (m.run calls).mOpenClusters :=
  all_run (P := fun c => c.tmax ≤ 2 ^ 38 + 2 ^ 31) (fun _ _ => Cluster.tmax_addCluster_le)
    (Cluster.tmax_ofPacket_le hs) hm calls

/-- A call is defined if the box of each of its clicks fits: every click is added to a cluster or
opens one, and both compute the sums of its box. -/
def ClusteringManager.checkedCall (m : ClusteringManager) : Call → Option ClusteringManager
  | .handlePackets data =>
    if ∀ click ∈ data, BoxFits m.settings ⟨click⟩ then some (m.handlePackets data) else none
  | .flush => some m.flush

theorem ClusteringManager.call_of_checkedCall {m m' : ClusteringManager} {c : Call}
    (h : m.checkedCall c = some m') : m' = m.call c := by
  cases c with
  | flush => exact (Option.some.inj h).symm
  | handlePackets data =>
    rw [checkedCall, Option.ite_none_right_eq_some] at h
    exact (Option.some.inj h.2).symm

theorem ClusteringManager.run_of_checkedCall {m m' : ClusteringManager} {calls : List Call}
    (h : Runs.run checkedCall m calls = some m') : m' = m.run calls := by
  induction calls generalizing m with
  | nil => exact (Option.some.inj h).symm
  | cons c calls ih =>
    obtain ⟨m₁, hm₁, h⟩ := Runs.run_cons_eq_some.mp h
    rw [ih h, call_of_checkedCall hm₁]
    rfl

/-- If all boxes fit, every run is defined. -/
theorem ClusteringManager.run_checkedCall {m : ClusteringManager}
    (hfits : ∀ p, BoxFits m.settings p) (calls : List Call) :
    Runs.run checkedCall m calls = some (m.run calls) := by
  induction calls generalizing m with
  | nil => rfl
  | cons c calls ih =>
    have hcall : m.checkedCall c = some (m.call c) := by
      cases c with
      | flush => rfl
      | handlePackets data =>
        rw [checkedCall, if_pos fun click _ => hfits ⟨click⟩]
        rfl
    rw [Runs.run_cons_eq_some]
    exact ⟨m.call c, hcall, ih (settings_call m c ▸ hfits)⟩

/-- **Merging.** In every state reached from an empty manager by defined calls, a click is defined
and ends up in exactly one open cluster, made of all those that contained it, exactly when its box
fits and at least the number of these clusters less two other clusters are stored behind the last of
them. -/
theorem merged_iff {settings : ClusterSettings} (hs : settings.NonNegative)
    {calls : List ClusteringManager.Call} {m : ClusteringManager}
    (hm : Runs.run ClusteringManager.checkedCall { settings := settings } calls = some m)
    (click : Word) :
    (∃ m', m.checkedCall (.handlePackets [click]) = some m' ∧
        MergedInOne settings ⟨click⟩ m.mOpenClusters m'.mOpenClusters) ↔
      BoxFits settings ⟨click⟩ ∧ m.mOpenClusters.countP (·.containsClick ⟨click⟩) ≤
        trailing (·.containsClick ⟨click⟩) m.mOpenClusters + 2 := by
  have hrun := ClusteringManager.run_of_checkedCall hm
  have hsettings : m.settings = settings := by rw [hrun, settings_run]
  have hbounded : Bounded m.mOpenClusters :=
    hrun ▸ bounded_run (m := { settings := settings }) hs
      (fun c hc => absurd hc List.not_mem_nil) calls
  have hstep : (m.handlePackets [click]).mOpenClusters =
      (handleClick settings ⟨click⟩ m.mOpenClusters).1 := by
    rw [(handlePackets_eq m [click]).2.1, hsettings]
    rfl
  rw [← mergedInOne_iff hs hbounded, ← hstep]
  simp [ClusteringManager.checkedCall, hsettings]

/-- Three clicks none of which lies in the box of another. -/
def corners : List ClusteringManager.Call :=
  [.handlePackets [clickAt 0 5 1 100, clickAt 10 5 1 100, clickAt 5 11 1 100]]

/-- The manager that has handled them. -/
def cornersManager : ClusteringManager := ({} : ClusteringManager).run corners

theorem boxFits_default : ∀ p, BoxFits {} p :=
  Cluster.boxFits_of_le ClusterSettings.nonNegative_default (by decide)

theorem run_corners :
    Runs.run ClusteringManager.checkedCall {} corners = some cornersManager :=
  ClusteringManager.run_checkedCall boxFits_default corners

theorem merged_iff_corners :
    (∃ m', cornersManager.checkedCall (.handlePackets [clickAt 5 6 1 100]) = some m' ∧
        MergedInOne {} ⟨clickAt 5 6 1 100⟩ cornersManager.mOpenClusters m'.mOpenClusters) ↔
      BoxFits {} ⟨clickAt 5 6 1 100⟩ ∧
        cornersManager.mOpenClusters.countP (·.containsClick ⟨clickAt 5 6 1 100⟩) ≤
          trailing (·.containsClick ⟨clickAt 5 6 1 100⟩) cornersManager.mOpenClusters + 2 :=
  merged_iff ClusterSettings.nonNegative_default run_corners (clickAt 5 6 1 100)

/-- A fourth click lies in all three boxes; the third is moved into the gap left by the second and
stays behind unmerged. -/
theorem corners_not_merged :
    ClusterSettings.NonNegative {} ∧
      Runs.run ClusteringManager.checkedCall {} corners = some cornersManager ∧
      ∃ m', cornersManager.checkedCall (.handlePackets [clickAt 5 6 1 100]) = some m' ∧
        m'.mOpenClusters.countP (·.containsClick ⟨clickAt 5 6 1 100⟩) = 2 := by
  have hsettings : cornersManager.settings = {} := settings_run _ corners
  refine ⟨ClusterSettings.nonNegative_default, run_corners,
    cornersManager.handlePackets [clickAt 5 6 1 100], ?_, ?_⟩
  · rw [ClusteringManager.checkedCall, hsettings, if_pos fun click _ => boxFits_default ⟨click⟩]
  · decide +kernel

end TpxServer.Clustering
