import TpxServer.Clustering.Construction
import TpxServer.Clustering.Merging

/-!
# The stale sweep

The backward loop tests every open cluster once, emits those whose box ends more than the separation
before the click, and leaves the others open (`sweep_exact`). The bounds under which no conversion
of the test wraps hold in every reachable state.
-/

namespace TpxServer.Clustering

open SwapRemove

/-- The clusters that `sweepLoop` tests, in the order of the tests. -/
def sweepTests (settings : ClusterSettings) (click : Packet) : ℕ → ClusterList → List Cluster
  | 0, _ => []
  | cix + 1, list =>
    match list[cix]? with
    | some cluster =>
      cluster ::
        (if cluster.isStale settings click then sweepTests settings click cix (list.remove cix)
        else sweepTests settings click cix list)
    | none => sweepTests settings click cix list

/-- The box of the cluster ends more than the separation before the click. -/
def LeftBehind (settings : ClusterSettings) (click : Packet) (c : Cluster) : Prop :=
  c.tmax + settings.max_t_separation < click.t

instance (settings : ClusterSettings) (click : Packet) :
    DecidablePred (LeftBehind settings click) :=
  fun _ => inferInstanceAs (Decidable (_ < _))

/-- The bounds of the ends of boxes. -/
def Sweepable (settings : ClusterSettings) (list : ClusterList) : Prop :=
  ∀ c ∈ list, 0 ≤ c.tmax ∧ c.tmax + settings.max_t_separation < 2 ^ 63

instance (settings : ClusterSettings) : DecidablePred (Sweepable settings) :=
  fun list => inferInstanceAs (Decidable (∀ c ∈ list, _))

/-- The sweep over `list` tests every cluster once, emits those left behind and keeps the others. -/
structure SweepExact (settings : ClusterSettings) (click : Packet) (list : ClusterList) : Prop where
  tests : sweepTests settings click list.length list = list.reverse
  emitted : ((sweepLoop settings click list.length list).2.map Cluster.toRawValue).Perm
    ((list.filter fun c => LeftBehind settings click c).map Cluster.toRawValue)
  kept : (sweepLoop settings click list.length list).1.Perm
    (list.filter fun c => ¬ LeftBehind settings click c)

section Sweep

variable {settings : ClusterSettings} {click : Packet} {list : ClusterList}

theorem sweepTests_eq (n : ℕ) : ∀ list : ClusterList,
    sweepTests settings click n list = tested (Cluster.isStale settings click) n list := by
  induction n with
  | zero => intro list; rfl
  | succ n ih =>
    intro list
    rw [sweepTests, tested]
    cases list[n]? with
    | none => exact ih list
    | some cluster => simp only [ih, ClusterList.remove_eq]

/-- The loop emits the clusters that it has tested and found stale. -/
theorem sweepLoop_snd (n : ℕ) : ∀ list : ClusterList,
    (sweepLoop settings click n list).2 =
      (sweepTests settings click n list).filter (Cluster.isStale settings click) := by
  induction n with
  | zero => intro list; rfl
  | succ n ih =>
    intro list
    rw [sweepLoop, sweepTests]
    cases list[n]? with
    | none => exact ih list
    | some cluster =>
      dsimp only
      by_cases hstale : cluster.isStale settings click = true
      · rw [if_pos hstale, if_pos hstale, List.filter_cons_of_pos hstale, ih]
      · rw [if_neg hstale, if_neg hstale, List.filter_cons_of_neg hstale, ih]

theorem isStale_eq (h : Sweepable settings list) {c : Cluster} (hc : c ∈ list) :
    c.isStale settings click = decide (LeftBehind settings click c) := by
  obtain ⟨h0, h1⟩ := h c hc
  rw [Bool.eq_iff_iff, decide_eq_true_eq, LeftBehind]
  exact Cluster.isStale_iff_of_lt h0 (by omega)

theorem sweepExact (h : Sweepable settings list) : SweepExact settings click list := by
  obtain ⟨htaken, hkept⟩ := sweep_spec (p := Cluster.isStale settings click) list
  have htests := tested_eq (p := Cluster.isStale settings click) list []
  rw [List.append_nil] at htests
  have hstale : list.filter (Cluster.isStale settings click) =
      list.filter fun c => LeftBehind settings click c :=
    List.filter_congr fun c hc => isStale_eq h hc
  have hfresh : (list.filter fun c => !c.isStale settings click) =
      list.filter fun c => ¬ LeftBehind settings click c := by
    refine List.filter_congr fun c hc => ?_
    rw [isStale_eq h hc, decide_not]
  refine ⟨?_, ?_, ?_⟩
  · rw [sweepTests_eq, htests]
  · rw [sweepLoop_eq, htaken, hstale]
    exact (List.reverse_perm _).map _
  · rw [sweepLoop_eq, ← hfresh]
    exact hkept

/-! ## Reachable states -/

/-- The box ends within the range of times widened by the separation. -/
def InTime (c : Cluster) : Prop := 0 ≤ c.tmax ∧ c.tmax ≤ 2 ^ 38 + 2 ^ 31

theorem InTime.addCluster (c c' : Cluster) (h : InTime c) (h' : InTime c') :
    InTime (c.addCluster c') := ⟨le_max_of_le_left h.1, max_le h.2 h'.2⟩

variable (hs : settings.NonNegative)
include hs

theorem sweepable_of_inTime (h : ∀ c ∈ list, InTime c) :
    Sweepable settings list := by
  intro c hc
  obtain ⟨h0, h1⟩ := h c hc
  have hsep := hs.max_t_separation_lt
  exact ⟨h0, by omega⟩

theorem inTime_ofPacket (p : Packet) : InTime (Cluster.ofPacket settings p) := by
  have ht := p.t_nonneg
  have hsep := hs.t_sep_nonneg
  exact ⟨add_nonneg ht hsep, Cluster.tmax_ofPacket_le hs p⟩

theorem inTime_run (calls : List ClusteringManager.Call) :
    ∀ c ∈ (({ settings := settings } : ClusteringManager).run calls).mOpenClusters, InTime c :=
  all_run (m := { settings := settings }) InTime.addCluster (inTime_ofPacket hs)
    (fun _ hc => absurd hc List.not_mem_nil) calls

theorem sweepable_addToClusters (h : ∀ c ∈ list, InTime c) :
    Sweepable settings (addToClusters settings click list) :=
  sweepable_of_inTime hs (all_addToClusters (inTime_ofPacket hs) InTime.addCluster click h)

/-- The manager before a click of a message, and after it. -/
theorem handlePackets_concat (m : ClusteringManager) (hsettings : m.settings = settings)
    (hm : ∀ c ∈ m.mOpenClusters, InTime c) (data : List Word) (click : Word) :
    ∃ before words : List Word,
      (m.handlePackets data).published = m.published ++ [before] ∧
      (m.handlePackets (data ++ [click])).published = m.published ++ [before ++ words] ∧
      words.Perm (((addToClusters settings ⟨click⟩ (m.handlePackets data).mOpenClusters).filter
        fun c => LeftBehind settings ⟨click⟩ c).map Cluster.toRawValue) ∧
      (m.handlePackets (data ++ [click])).mOpenClusters.Perm
        ((addToClusters settings ⟨click⟩ (m.handlePackets data).mOpenClusters).filter
          fun c => ¬ LeftBehind settings ⟨click⟩ c) := by
  have hopen := (handlePackets_eq m data).2.1
  rw [hsettings] at hopen
  have hexact : SweepExact settings ⟨click⟩
      (addToClusters settings ⟨click⟩ (m.handlePackets data).mOpenClusters) := by
    refine sweepExact (sweepable_addToClusters hs ?_)
    rw [hopen]
    exact all_handleClicks (inTime_ofPacket hs) InTime.addCluster _ hm
  rw [hopen] at hexact ⊢
  refine ⟨_, _, published_handlePackets m data, ?_, hexact.emitted, ?_⟩
  · rw [published_handlePackets, List.map_append, handleClicks_append, hsettings, List.map_append,
      List.map_singleton, handleClicks, handleClicks, List.append_nil]
    rfl
  · rw [(handlePackets_eq m _).2.1, List.map_append, handleClicks_append, hsettings]
    exact hexact.kept

end Sweep

/-- **The stale sweep.** What the loop emits are the clusters that it tests and finds stale. Over
open clusters within the bounds it is exact; the open clusters of every reachable state are within
the bounds. So every click of a message publishes exactly the clusters that it leaves behind, keeps
the others open, and after it no open cluster is left behind. -/
theorem sweep_exact {settings : ClusterSettings} (hs : settings.NonNegative) :
    (∀ (list : ClusterList) (click : Packet) (n : ℕ),
      (sweepLoop settings click n list).2 =
        (sweepTests settings click n list).filter (Cluster.isStale settings click)) ∧
    (∀ (list : ClusterList) (click : Packet), Sweepable settings list →
      SweepExact settings click list) ∧
    (∀ calls, Sweepable settings
      (({ settings := settings } : ClusteringManager).run calls).mOpenClusters) ∧
    ∀ calls data click m, ({ settings := settings } : ClusteringManager).run calls = m →
      (∃ before words : List Word,
        (m.handlePackets data).published = m.published ++ [before] ∧
        (m.handlePackets (data ++ [click])).published = m.published ++ [before ++ words] ∧
        words.Perm (((addToClusters settings ⟨click⟩ (m.handlePackets data).mOpenClusters).filter
          fun c => LeftBehind settings ⟨click⟩ c).map Cluster.toRawValue) ∧
        (m.handlePackets (data ++ [click])).mOpenClusters.Perm
          ((addToClusters settings ⟨click⟩ (m.handlePackets data).mOpenClusters).filter
            fun c => ¬ LeftBehind settings ⟨click⟩ c)) ∧
      ∀ c ∈ (m.handlePackets (data ++ [click])).mOpenClusters,
        ¬ LeftBehind settings ⟨click⟩ c := by
  refine ⟨fun list _ n => sweepLoop_snd n list, fun _ _ h => sweepExact h,
    fun calls => sweepable_of_inTime hs (inTime_run hs calls), ?_⟩
  rintro calls data click m rfl
  have hclick := handlePackets_concat hs _ (settings_run _ calls) (inTime_run hs calls) data click
  refine ⟨hclick, fun c hc => ?_⟩
  obtain ⟨_, _, -, -, -, hkept⟩ := hclick
  simpa using (List.mem_filter.mp (hkept.subset hc)).2

/-- Of two open clusters the click leaves one behind. -/
theorem sweep_exact_late :
    SweepExact {} ⟨clickAt 5 5 1 60000⟩
      [Cluster.ofPacket {} ⟨clickAt 5 5 1 100⟩, Cluster.ofPacket {} ⟨clickAt 9 9 1 59000⟩] :=
  (sweep_exact ClusterSettings.nonNegative_default).2.1 _ _ (by decide)

end TpxServer.Clustering
