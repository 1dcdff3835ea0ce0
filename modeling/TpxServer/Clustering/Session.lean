import Mathlib.Data.Finset.Max
import TpxServer.Clustering.Centroid

/-!
# Sessions

In a session the packets come between flushes, changes of the parameters and changes of the save
file. Whatever the parameters are meanwhile, no charge is lost, and every cluster is the
ToT-weighted mean of clicks that were handled (`session_accounts`), its means being rational numbers
as in all of the clustering.
-/

namespace TpxServer.Clustering

open SwapRemove WeightedMean

/-! ## Averages -/

/-- ToT and means of the cluster are those of the clicks, whatever its box is. -/
structure Averages (clicks : Multiset Packet) (c : Cluster) : Prop where
  tot_total : c.tot_total = total weight clicks
  xmean : c.xmean = totMean Packet.x clicks
  ymean : c.ymean = totMean Packet.y clicks
  tmean : c.tmean = totMean Packet.t clicks

/-- The cluster averages clicks with the property. -/
def MadeOf (P : Packet → Prop) (c : Cluster) : Prop :=
  ∃ clicks, clicks ≠ 0 ∧ (∀ p ∈ clicks, P p) ∧ Averages clicks c

section Averages

variable {clicks clicks' : Multiset Packet} {c c' : Cluster} {P : Packet → Prop}

/-- The means lie among the clicks, and the word has their integer parts. -/
structure Midst (clicks : Multiset Packet) (c : Cluster) : Prop extends Averages clicks c where
  x : Between Packet.x clicks c.xmean
  y : Between Packet.y clicks c.ymean
  t : Between Packet.t clicks c.tmean
  word_x : (Packet.mk c.toRawValue).x = ⌊c.xmean⌋
  word_y : (Packet.mk c.toRawValue).y = ⌊c.ymean⌋
  word_t : (Packet.mk c.toRawValue).t = ⌊c.tmean⌋

theorem averages_ofPacket (settings : ClusterSettings) {p : Packet} (h : 1 ≤ p.tot) :
    Averages {p} (Cluster.ofPacket settings p) :=
  have hp := summarizes_ofPacket settings h
  ⟨hp.tot_total, hp.xmean, hp.ymean, hp.tmean⟩

theorem Averages.addCluster (h : Averages clicks c) (h' : Averages clicks' c')
    (hc : c.tot_total ≠ 0) (hc' : c'.tot_total ≠ 0) :
    Averages (clicks + clicks') (c.addCluster c') where
  tot_total := by
    rw [total_add, ← h.tot_total, ← h'.tot_total]
    rfl
  xmean := by
    rw [← weightedMean_totMean Packet.x h.tot_total h'.tot_total hc hc', ← h.xmean, ← h'.xmean]
    rfl
  ymean := by
    rw [← weightedMean_totMean Packet.y h.tot_total h'.tot_total hc hc', ← h.ymean, ← h'.ymean]
    rfl
  tmean := by
    rw [← weightedMean_totMean Packet.t h.tot_total h'.tot_total hc hc', ← h.tmean, ← h'.tmean]
    rfl

theorem Averages.tot_ne_zero (h : Averages clicks c) (hne : clicks ≠ 0)
    (htot : ∀ p ∈ clicks, 1 ≤ p.tot) : c.tot_total ≠ 0 := by
  rw [h.tot_total]
  exact (total_pos (fun p hp => weight_pos (htot p hp)) hne).ne'

theorem MadeOf.mono {Q : Packet → Prop} (hPQ : ∀ p, P p → Q p) (h : MadeOf P c) : MadeOf Q c := by
  obtain ⟨clicks, hne, hclicks, haverages⟩ := h
  exact ⟨clicks, hne, fun p hp => hPQ p (hclicks p hp), haverages⟩

theorem madeOf_ofPacket (settings : ClusterSettings) {p : Packet} (hp : P p) (htot : 1 ≤ p.tot) :
    MadeOf P (Cluster.ofPacket settings p) :=
  ⟨{p}, Multiset.singleton_ne_zero p, fun _ hq => Multiset.mem_singleton.mp hq ▸ hp,
    averages_ofPacket settings htot⟩

theorem exists_extremes (f : Packet → ℤ) (hne : clicks ≠ 0) :
    (∃ a, IsLeast (values f clicks) a) ∧ ∃ b, IsGreatest (values f clicks) b := by
  have hvalues : values f clicks = ↑(clicks.map f).toFinset := by
    ext v
    simp [values]
  have hnonempty : (clicks.map f).toFinset.Nonempty := by
    rw [Multiset.toFinset_nonempty]
    exact fun hnil => hne (Multiset.map_eq_zero.mp hnil)
  rw [hvalues]
  exact ⟨⟨_, Finset.isLeast_min' _ hnonempty⟩, _, Finset.isGreatest_max' _ hnonempty⟩

/-- A ToT-weighted mean lies between the least and the greatest coordinate. -/
theorem between_of_ne_zero (f : Packet → ℤ) (hne : clicks ≠ 0) (htot : ∀ p ∈ clicks, 1 ≤ p.tot) :
    Between f clicks (totMean f clicks) := by
  obtain ⟨⟨a, ha⟩, b, hb⟩ := exists_extremes f hne
  exact between_totMean hne htot ha hb

theorem Averages.midst (h : Averages clicks c) (hne : clicks ≠ 0)
    (htot : ∀ p ∈ clicks, 1 ≤ p.tot) : Midst clicks c := by
  have hx := between_of_ne_zero Packet.x hne htot
  have hy := between_of_ne_zero Packet.y hne htot
  have ht := between_of_ne_zero Packet.t hne htot
  rw [← h.xmean] at hx
  rw [← h.ymean] at hy
  rw [← h.tmean] at ht
  obtain ⟨hwx, hwy, hwt⟩ := toRawValue_fields (hx.range Packet.x_nonneg Packet.x_lt)
    (hy.range Packet.y_nonneg Packet.y_lt) (ht.range Packet.t_nonneg Packet.t_lt)
  exact ⟨h, hx, hy, ht, hwx, hwy, hwt⟩

variable (htot : ∀ p, P p → 1 ≤ p.tot)
include htot

theorem MadeOf.addCluster (h : MadeOf P c) (h' : MadeOf P c') : MadeOf P (c.addCluster c') := by
  obtain ⟨clicks, hne, hclicks, haverages⟩ := h
  obtain ⟨clicks', hne', hclicks', haverages'⟩ := h'
  refine ⟨clicks + clicks', fun hzero => hne (add_eq_zero.mp hzero).1, fun p hp => ?_, ?_⟩
  · exact (Multiset.mem_add.mp hp).elim (hclicks p) (hclicks' p)
  · exact haverages.addCluster haverages'
      (haverages.tot_ne_zero hne fun p hp => htot p (hclicks p hp))
      (haverages'.tot_ne_zero hne' fun p hp => htot p (hclicks' p hp))

end Averages

/-! ## One click -/

section Click

variable {settings : ClusterSettings} {click : Packet} {P : Cluster → Prop}
  (hmerge : ∀ c c', P c → P c' → P (c.addCluster c'))
include hmerge

/-- What merging preserves and the cluster of the click has, all clusters have after it. -/
theorem all_handleClick (hnew : P (Cluster.ofPacket settings click)) {list : ClusterList}
    (h : ∀ c ∈ list, P c) :
    ∀ c ∈ (handleClick settings click list).1 ++ (handleClick settings click list).2, P c := by
  obtain ⟨taken, kept, hm⟩ := exists_matched settings click list
  have hmerged : P (mergeClusters settings click taken) := by
    rw [mergeClusters_eq]
    exact gathered_all hmerge hnew fun c hc =>
      hmerge c _ (h c (hm.before.subset (List.mem_append_left kept hc))) hnew
  intro c hc
  rcases List.mem_cons.mp (hm.after.subset ((handleClick_perm settings click list).subset hc))
    with rfl | hkept
  · exact hmerged
  · exact h c (hm.before.subset (List.mem_append_right taken hkept))

theorem all_clusters_handleClicks (clicks : List Packet)
    (hnew : ∀ p ∈ clicks, P (Cluster.ofPacket settings p)) : ∀ {list : ClusterList},
      (∀ c ∈ list, P c) → ∀ c ∈ (handleClicks settings list clicks).1 ++
        (handleClicks settings list clicks).2, P c := by
  induction clicks with
  | nil =>
    intro list h c hc
    exact h c (by simpa [handleClicks] using hc)
  | cons click clicks ih =>
    intro list h
    rw [List.forall_mem_cons] at hnew
    have hclick := all_handleClick hmerge hnew.1 h
    have hrest := ih hnew.2 fun c hc => hclick c (List.mem_append_left _ hc)
    intro c hc
    rw [handleClicks, List.mem_append, List.mem_append, or_left_comm, ← List.mem_append] at hc
    rcases hc with hc | hc
    · exact hclick c (List.mem_append_right _ hc)
    · exact hrest c hc

end Click

/-! ## The manager -/

namespace ClusteringManager

/-- What the thread does with the manager. -/
inductive Event where
  | handlePackets (data : List Word)
  | flush
  | setClusterParameters (max_sep_xy max_sep_t max_t_sep : BitVec 32)
  | setSaveFile (path : String) (opened : Bool)
  deriving Repr, DecidableEq

def handle (m : ClusteringManager) : Event → ClusteringManager
  | .handlePackets data => m.handlePackets data
  | .flush => m.flush
  | .setClusterParameters max_sep_xy max_sep_t max_t_sep =>
    m.setClusterParameters max_sep_xy max_sep_t max_t_sep
  | .setSaveFile path opened => (m.setSaveFile path opened).1

def session (m : ClusteringManager) (events : List Event) : ClusteringManager :=
  events.foldl handle m

/-- The clicks handled. -/
def Event.clicks : Event → List Packet
  | .handlePackets data => data.map Packet.mk
  | _ => []

end ClusteringManager

theorem setSaveFile_frame (m : ClusteringManager) (path : String) (opened : Bool) :
    ∃ file signals,
      (m.setSaveFile path opened).1 = { m with mFile := file, signals := signals } := by
  unfold ClusteringManager.setSaveFile
  dsimp only
  split_ifs
  · exact ⟨none, m.signals, rfl⟩
  · exact ⟨some _, _, rfl⟩
  · exact ⟨none, m.signals, rfl⟩

/-- All clusters, open and emitted, are made of clicks with the property. -/
def AllMadeOf (P : Packet → Prop) (m : ClusteringManager) : Prop :=
  ∀ c ∈ m.mOpenClusters ++ m.emitted, MadeOf P c

section Manager

variable {m : ClusteringManager} {P : Packet → Prop}

theorem AllMadeOf.handlePackets (htot : ∀ p, P p → 1 ≤ p.tot) (h : AllMadeOf P m)
    {data : List Word} (hdata : ∀ w ∈ data, P ⟨w⟩) : AllMadeOf P (m.handlePackets data) := by
  obtain ⟨-, hopen, hemitted⟩ := handlePackets_eq m data
  have hnew : ∀ p ∈ data.map Packet.mk, MadeOf P (Cluster.ofPacket m.settings p) := by
    intro p hp
    obtain ⟨w, hw, rfl⟩ := List.mem_map.mp hp
    exact madeOf_ofPacket _ (hdata w hw) (htot _ (hdata w hw))
  have hclicks := all_clusters_handleClicks (fun _ _ => MadeOf.addCluster htot) _ hnew
    (fun c hc => h c (List.mem_append_left _ hc))
  intro c hc
  rw [hopen, hemitted, List.mem_append, List.mem_append, or_left_comm, ← List.mem_append] at hc
  rcases hc with hc | hc
  · exact h c (List.mem_append_right _ hc)
  · exact hclicks c hc

theorem AllMadeOf.flush (h : AllMadeOf P m) : AllMadeOf P m.flush := by
  intro c hc
  rw [ClusteringManager.flush, List.nil_append] at hc
  exact h c (List.perm_append_comm.subset hc)

end Manager

/-! ## Accounts -/

/-- Every click is counted in the charges, at least once; the clusters are made of the clicks; and
what was published are the words of the emitted ones. -/
structure Accounts (clicks : List Packet) (m : ClusteringManager) : Prop where
  charged : Charged m.mOpenClusters
  counted : ∃ ns : List ℕ, ns.length = clicks.length ∧ (∀ n ∈ ns, 1 ≤ n) ∧
    charges m.mOpenClusters + charges m.emitted = countedCharges ns clicks
  made : AllMadeOf (· ∈ clicks) m
  published : m.published.flatten = m.emitted.map Cluster.toRawValue

theorem countedCharges_append {ns ns' : List ℕ} {clicks clicks' : List Packet}
    (h : ns.length = clicks.length) : countedCharges (ns ++ ns') (clicks ++ clicks') =
      countedCharges ns clicks + countedCharges ns' clicks' := by
  unfold countedCharges
  rw [List.zipWith_append h, List.sum_append]

theorem charged_of_madeOf {P : Packet → Prop} (htot : ∀ p, P p → 1 ≤ p.tot) {list : ClusterList}
    (h : ∀ c ∈ list, MadeOf P c) : Charged list := by
  intro c hc
  obtain ⟨clicks, hne, hclicks, haverages⟩ := h c hc
  rw [haverages.tot_total]
  exact total_pos (fun p hp => weight_pos (htot p (hclicks p hp))) hne

section Session

variable {m : ClusteringManager} {clicks : List Packet}

theorem Accounts.handlePackets (h : Accounts clicks m) (data : List Word)
    (htot : ∀ p ∈ clicks ++ data.map Packet.mk, 1 ≤ p.tot) :
    Accounts (clicks ++ data.map Packet.mk) (m.handlePackets data) := by
  obtain ⟨ns, hlen, hns, hcounted⟩ := h.counted
  obtain ⟨-, hopen, hemitted⟩ := handlePackets_eq m data
  obtain ⟨ns', hlen', hns', -, hcharges⟩ := handleClicks_charges m.settings (data.map Packet.mk)
    m.mOpenClusters h.charged fun p hp => htot p (List.mem_append_right _ hp)
  have hmade : AllMadeOf (· ∈ clicks ++ data.map Packet.mk) (m.handlePackets data) :=
    AllMadeOf.handlePackets htot
      (fun c hc => (h.made c hc).mono fun p hp => List.mem_append_left _ hp)
      fun w hw => List.mem_append_right _ (List.mem_map_of_mem hw)
  refine ⟨charged_of_madeOf htot fun c hc => hmade c (List.mem_append_left _ hc), ?_, hmade, ?_⟩
  · refine ⟨ns ++ ns', by rw [List.length_append, List.length_append, hlen, hlen'], ?_, ?_⟩
    · exact List.forall_mem_append.mpr ⟨hns, hns'⟩
    · rw [countedCharges_append hlen, ← hcounted, hopen, hemitted, charges_append]
      calc _ = charges (handleClicks m.settings m.mOpenClusters (data.map Packet.mk)).1 +
            charges (handleClicks m.settings m.mOpenClusters (data.map Packet.mk)).2 +
              charges m.emitted := by abel
        _ = _ := by
            rw [hcharges]
            abel
  · rw [published_handlePackets, hemitted, List.flatten_append, h.published, List.map_append,
      List.flatten_singleton]

/-- Every event keeps the account, whatever the parameters are. -/
theorem Accounts.handle (h : Accounts clicks m) (e : ClusteringManager.Event)
    (htot : ∀ p ∈ clicks ++ e.clicks, 1 ≤ p.tot) :
    Accounts (clicks ++ e.clicks) (m.handle e) := by
  cases e with
  | handlePackets data => exact h.handlePackets data htot
  | flush =>
    show Accounts (clicks ++ []) m.flush
    rw [List.append_nil]
    obtain ⟨ns, hlen, hns, hcounted⟩ := h.counted
    refine ⟨fun c hc => absurd hc List.not_mem_nil, ⟨ns, hlen, hns, ?_⟩, h.made.flush, ?_⟩
    · show charges [] + charges (m.emitted ++ m.mOpenClusters) = _
      rw [charges_append, ← hcounted, charges, List.map_nil, List.sum_nil, zero_add, add_comm]
    · show (m.published ++ [_]).flatten = (m.emitted ++ m.mOpenClusters).map _
      rw [List.flatten_append, h.published, List.map_append, List.flatten_singleton]
  | setClusterParameters max_sep_xy max_sep_t max_t_sep =>
    show Accounts (clicks ++ []) (m.setClusterParameters max_sep_xy max_sep_t max_t_sep)
    rw [List.append_nil]
    exact ⟨h.charged, h.counted, h.made, h.published⟩
  | setSaveFile path opened =>
    obtain ⟨file, signals, hfile⟩ := setSaveFile_frame m path opened
    show Accounts (clicks ++ []) (m.setSaveFile path opened).1
    rw [List.append_nil, hfile]
    exact ⟨h.charged, h.counted, h.made, h.published⟩

theorem Accounts.session (h : Accounts clicks m) (events : List ClusteringManager.Event)
    (htot : ∀ p ∈ clicks ++ events.flatMap ClusteringManager.Event.clicks, 1 ≤ p.tot) :
    Accounts (clicks ++ events.flatMap ClusteringManager.Event.clicks) (m.session events) := by
  induction events generalizing clicks m with
  | nil =>
    rw [List.flatMap_nil, List.append_nil]
    exact h
  | cons e events ih =>
    rw [List.flatMap_cons, ← List.append_assoc] at htot ⊢
    exact ih (h.handle e fun p hp => htot p (List.mem_append_left _ hp)) htot

theorem accounts_start : Accounts [] ({} : ClusteringManager) where
  charged := fun c hc => absurd hc List.not_mem_nil
  counted := ⟨[], rfl, fun n hn => absurd hn List.not_mem_nil, by simp [charges, countedCharges]⟩
  made := fun c hc => absurd hc List.not_mem_nil
  published := rfl

end Session

/-- **Sessions.** In every session over clicks with ToT, whatever parameters are set between them,
every click is counted in the charges of the clusters, open or emitted, at least once; every cluster
averages clicks of the session, in rational numbers, lies among them and is published without loss;
and what was published are the emitted clusters. -/
theorem session_accounts (events : List ClusteringManager.Event)
    (htot : ∀ p ∈ events.flatMap ClusteringManager.Event.clicks, 1 ≤ p.tot) :
    let m := ({} : ClusteringManager).session events
    let clicks := events.flatMap ClusteringManager.Event.clicks
    (∃ ns : List ℕ, ns.length = clicks.length ∧ (∀ n ∈ ns, 1 ≤ n) ∧
      charges m.mOpenClusters + charges m.emitted = countedCharges ns clicks) ∧
    (∀ c ∈ m.mOpenClusters ++ m.emitted, ∃ members : Multiset Packet,
      members ≠ 0 ∧ (∀ p ∈ members, p ∈ clicks) ∧ Midst members c) ∧
    m.published.flatten = m.emitted.map Cluster.toRawValue := by
  intro m clicks
  have h : Accounts clicks m := accounts_start.session events htot
  refine ⟨h.counted, fun c hc => ?_, h.published⟩
  obtain ⟨members, hne, hmembers, haverages⟩ := h.made c hc
  exact ⟨members, hne, hmembers, haverages.midst hne fun p hp => htot p (hmembers p hp)⟩

/-- The separations shrink to less than nothing between two messages. -/
def shrinking : List ClusteringManager.Event :=
  [.handlePackets [clickAt 0 5 1 100], .setClusterParameters 0xFFFFFFFF 0xFFFFFFFF 0,
    .handlePackets [clickAt 1 5 2 101, clickAt 9 9 3 900], .flush]

theorem session_accounts_shrinking :
    let m := ({} : ClusteringManager).session shrinking
    let clicks := shrinking.flatMap ClusteringManager.Event.clicks
    (∃ ns : List ℕ, ns.length = clicks.length ∧ (∀ n ∈ ns, 1 ≤ n) ∧
      charges m.mOpenClusters + charges m.emitted = countedCharges ns clicks) ∧
    (∀ c ∈ m.mOpenClusters ++ m.emitted, ∃ members : Multiset Packet,
      members ≠ 0 ∧ (∀ p ∈ members, p ∈ clicks) ∧ Midst members c) ∧
    m.published.flatten = m.emitted.map Cluster.toRawValue :=
  session_accounts shrinking (by decide)

end TpxServer.Clustering
