import Mathlib.Order.Bounds.Basic
import Mathlib.Algebra.Order.Group.MinMax
import TpxServer.Clustering.Cluster
import TpxServer.Lib.WeightedMean

/-!
# How a cluster is built

A cluster comes from clicks by the constructor, `addClick` and `addCluster`, in some order. A
`Construction` records the order. The fields of the cluster built depend on its clicks only, each
counted as often as it was added (`build_independent`): ToT is added up, the means are the
ToT-weighted means, and the box is the box around the clicks, widened by the separations.
-/

namespace TpxServer.Clustering

open WeightedMean

/-- A way of building a cluster. -/
inductive Construction where
  | ofPacket (p : Packet)
  | addClick (c : Construction) (p : Packet)
  | addCluster (c c' : Construction)
  deriving Repr, DecidableEq

namespace Construction

/-- The clicks merged into the cluster, with repetitions. -/
def clicks : Construction → Multiset Packet
  | .ofPacket p => {p}
  | .addClick c p => c.clicks + {p}
  | .addCluster c c' => c.clicks + c'.clicks

def build (settings : ClusterSettings) : Construction → Cluster
  | .ofPacket p => Cluster.ofPacket settings p
  | .addClick c p => (c.build settings).addClick settings p
  | .addCluster c c' => (c.build settings).addCluster (c'.build settings)

theorem clicks_ne_zero (k : Construction) : k.clicks ≠ 0 := by
  induction k with
  | ofPacket p => exact Multiset.singleton_ne_zero p
  | addClick c p ih => simp [clicks]
  | addCluster c c' ih ih' => simp [clicks, ih]

end Construction

/-! ## The box around clicks -/

/-- The values of a coordinate. -/
def values (f : Packet → ℤ) (clicks : Multiset Packet) : Set ℤ := {v | ∃ p ∈ clicks, f p = v}

theorem values_singleton (f : Packet → ℤ) (p : Packet) : values f {p} = {f p} := by
  ext v
  simp [values, eq_comm]

theorem values_add (f : Packet → ℤ) (clicks clicks' : Multiset Packet) :
    values f (clicks + clicks') = values f clicks ∪ values f clicks' := by
  ext v
  simp [values, or_and_right, exists_or]

/-- The box of the cluster is the box around the clicks, widened by the separations. -/
structure Boxes (settings : ClusterSettings) (clicks : Multiset Packet) (c : Cluster) : Prop where
  xmin : IsLeast (values Packet.x clicks) (c.xmin + settings.xy_sep)
  xmax : IsGreatest (values Packet.x clicks) (c.xmax - settings.xy_sep)
  ymin : IsLeast (values Packet.y clicks) (c.ymin + settings.xy_sep)
  ymax : IsGreatest (values Packet.y clicks) (c.ymax - settings.xy_sep)
  tmin : IsLeast (values Packet.t clicks) (c.tmin + settings.t_sep)
  tmax : IsGreatest (values Packet.t clicks) (c.tmax - settings.t_sep)

section Sides

variable {f : Packet → ℤ} {clicks clicks' : Multiset Packet} {sep v v' : ℤ}

theorem isLeast_singleton_sub (f : Packet → ℤ) (p : Packet) (sep : ℤ) :
    IsLeast (values f {p}) (f p - sep + sep) := by
  rw [values_singleton, sub_add_cancel]
  exact isLeast_singleton

theorem isGreatest_singleton_add (f : Packet → ℤ) (p : Packet) (sep : ℤ) :
    IsGreatest (values f {p}) (f p + sep - sep) := by
  rw [values_singleton, add_sub_cancel_right]
  exact isGreatest_singleton

theorem isLeast_add (h : IsLeast (values f clicks) (v + sep))
    (h' : IsLeast (values f clicks') (v' + sep)) :
    IsLeast (values f (clicks + clicks')) (min v v' + sep) := by
  rw [values_add, ← min_add_add_right]
  exact h.union h'

theorem isGreatest_add (h : IsGreatest (values f clicks) (v - sep))
    (h' : IsGreatest (values f clicks') (v' - sep)) :
    IsGreatest (values f (clicks + clicks')) (max v v' - sep) := by
  rw [values_add, ← max_sub_sub_right]
  exact h.union h'

end Sides

section Boxes

variable {settings : ClusterSettings} {clicks clicks' : Multiset Packet} {c c' : Cluster}

theorem boxes_ofPacket (settings : ClusterSettings) (p : Packet) :
    Boxes settings {p} (Cluster.ofPacket settings p) where
  xmin := isLeast_singleton_sub Packet.x p _
  xmax := isGreatest_singleton_add Packet.x p _
  ymin := isLeast_singleton_sub Packet.y p _
  ymax := isGreatest_singleton_add Packet.y p _
  tmin := isLeast_singleton_sub Packet.t p _
  tmax := isGreatest_singleton_add Packet.t p _

theorem Boxes.addCluster (h : Boxes settings clicks c) (h' : Boxes settings clicks' c') :
    Boxes settings (clicks + clicks') (c.addCluster c') where
  xmin := isLeast_add h.xmin h'.xmin
  xmax := isGreatest_add h.xmax h'.xmax
  ymin := isLeast_add h.ymin h'.ymin
  ymax := isGreatest_add h.ymax h'.ymax
  tmin := isLeast_add h.tmin h'.tmin
  tmax := isGreatest_add h.tmax h'.tmax

theorem boxes_build (settings : ClusterSettings) (k : Construction) :
    Boxes settings k.clicks (k.build settings) := by
  induction k with
  | ofPacket p => exact boxes_ofPacket settings p
  | addClick c p ih => exact ih.addCluster (boxes_ofPacket settings p)
  | addCluster c c' ih ih' => exact ih.addCluster ih'

/-- With separations that are not negative the box contains the clicks. -/
theorem Boxes.contains (hs : settings.NonNegative) (h : Boxes settings clicks c) {p : Packet}
    (hp : p ∈ clicks) : c.Contains p := by
  have hxy := hs.xy_sep_nonneg
  have ht := hs.t_sep_nonneg
  have hxmin := h.xmin.2 ⟨p, hp, rfl⟩
  have hxmax := h.xmax.2 ⟨p, hp, rfl⟩
  have hymin := h.ymin.2 ⟨p, hp, rfl⟩
  have hymax := h.ymax.2 ⟨p, hp, rfl⟩
  have htmin := h.tmin.2 ⟨p, hp, rfl⟩
  have htmax := h.tmax.2 ⟨p, hp, rfl⟩
  constructor <;> omega

/-- The box ends behind the time of one of the clicks. -/
theorem Boxes.exists_tmax (h : Boxes settings clicks c) :
    ∃ p ∈ clicks, c.tmax = p.t + settings.t_sep := by
  obtain ⟨p, hp, heq⟩ := h.tmax.1
  exact ⟨p, hp, by omega⟩

end Boxes

/-! ## Sums and means -/

/-- The weight of a click. -/
def weight (p : Packet) : ℚ := p.tot

/-- The ToT-weighted mean of a coordinate. -/
def totMean (f : Packet → ℤ) (clicks : Multiset Packet) : ℚ :=
  mean weight (fun p => (f p : ℚ)) clicks

/-- The fields of the cluster are those of the clicks. -/
structure Summarizes (settings : ClusterSettings) (clicks : Multiset Packet) (c : Cluster) : Prop
    extends Boxes settings clicks c where
  tot_total : c.tot_total = total weight clicks
  xmean : c.xmean = totMean Packet.x clicks
  ymean : c.ymean = totMean Packet.y clicks
  tmean : c.tmean = totMean Packet.t clicks

section Summaries

variable {settings : ClusterSettings} {clicks clicks' : Multiset Packet} {c c' : Cluster}

/-- The clicks determine the cluster. -/
theorem Summarizes.unique (h : Summarizes settings clicks c) (h' : Summarizes settings clicks c') :
    c = c' := by
  have hxmin := h.xmin.unique h'.xmin
  have hxmax := h.xmax.unique h'.xmax
  have hymin := h.ymin.unique h'.ymin
  have hymax := h.ymax.unique h'.ymax
  have htmin := h.tmin.unique h'.tmin
  have htmax := h.tmax.unique h'.tmax
  have htot := h.tot_total.trans h'.tot_total.symm
  have hx := h.xmean.trans h'.xmean.symm
  have hy := h.ymean.trans h'.ymean.symm
  have ht := h.tmean.trans h'.tmean.symm
  cases c
  cases c'
  simp_all

theorem weight_pos {p : Packet} (h : 1 ≤ p.tot) : 0 < weight p := by
  show (0 : ℚ) < p.tot
  exact_mod_cast h

theorem totMean_singleton (f : Packet → ℤ) {p : Packet} (h : 1 ≤ p.tot) :
    totMean f {p} = f p := mean_singleton (weight_pos h).ne'

theorem summarizes_ofPacket (settings : ClusterSettings) {p : Packet} (h : 1 ≤ p.tot) :
    Summarizes settings {p} (Cluster.ofPacket settings p) where
  toBoxes := boxes_ofPacket settings p
  tot_total := (total_singleton weight p).symm
  xmean := (totMean_singleton Packet.x h).symm
  ymean := (totMean_singleton Packet.y h).symm
  tmean := (totMean_singleton Packet.t h).symm

/-- The mean of two clusters is that of all their clicks. -/
theorem weightedMean_totMean (f : Packet → ℤ) {w w' : ℚ} (hw : w = total weight clicks)
    (hw' : w' = total weight clicks') (h : w ≠ 0) (h' : w' ≠ 0) :
    weightedMean (totMean f clicks) w (totMean f clicks') w' = totMean f (clicks + clicks') := by
  subst hw hw'
  exact (mean_add h h').symm

theorem Summarizes.addCluster (h : Summarizes settings clicks c)
    (h' : Summarizes settings clicks' c') (hc : c.tot_total ≠ 0) (hc' : c'.tot_total ≠ 0) :
    Summarizes settings (clicks + clicks') (c.addCluster c') := by
  refine ⟨h.toBoxes.addCluster h'.toBoxes, ?_, ?_, ?_, ?_⟩
  · rw [total_add, ← h.tot_total, ← h'.tot_total]
    rfl
  · rw [← weightedMean_totMean Packet.x h.tot_total h'.tot_total hc hc', ← h.xmean, ← h'.xmean]
    rfl
  · rw [← weightedMean_totMean Packet.y h.tot_total h'.tot_total hc hc', ← h.ymean, ← h'.ymean]
    rfl
  · rw [← weightedMean_totMean Packet.t h.tot_total h'.tot_total hc hc', ← h.tmean, ← h'.tmean]
    rfl

theorem Summarizes.tot_pos (h : Summarizes settings clicks c) (hne : clicks ≠ 0)
    (htot : ∀ p ∈ clicks, 1 ≤ p.tot) : 0 < c.tot_total := by
  rw [h.tot_total]
  exact total_pos (fun p hp => weight_pos (htot p hp)) hne

theorem summarizes_build (settings : ClusterSettings) {k : Construction} :
    (∀ p ∈ k.clicks, 1 ≤ p.tot) → Summarizes settings k.clicks (k.build settings) := by
  induction k with
  | ofPacket p =>
    exact fun htot => summarizes_ofPacket settings (htot p (Multiset.mem_singleton_self p))
  | addClick c p ih =>
    intro htot
    have hc := fun q hq => htot q (Multiset.mem_add.mpr (Or.inl hq))
    have hp : 1 ≤ p.tot := htot p (Multiset.mem_add.mpr (Or.inr (Multiset.mem_singleton_self p)))
    exact (ih hc).addCluster (summarizes_ofPacket settings hp)
      ((ih hc).tot_pos c.clicks_ne_zero hc).ne' (weight_pos hp).ne'
  | addCluster c c' ih ih' =>
    intro htot
    have hc := fun q hq => htot q (Multiset.mem_add.mpr (Or.inl hq))
    have hc' := fun q hq => htot q (Multiset.mem_add.mpr (Or.inr hq))
    exact (ih hc).addCluster (ih' hc') ((ih hc).tot_pos c.clicks_ne_zero hc).ne'
      ((ih' hc').tot_pos c'.clicks_ne_zero hc').ne'

end Summaries

/-- **Independence of the order.** The cluster built from clicks with ToT has the fields of its
clicks, and every way of building it from them gives the same cluster. -/
theorem build_independent (settings : ClusterSettings) {k k' : Construction}
    (htot : ∀ p ∈ k.clicks, 1 ≤ p.tot) (h : k.clicks = k'.clicks) :
    Summarizes settings k.clicks (k.build settings) ∧
    k.build settings = k'.build settings ∧
    ∀ (c : Cluster) (p : Packet),
      c.addClick settings p = c.addCluster (Cluster.ofPacket settings p) := by
  have hk := summarizes_build settings htot
  have hk' := summarizes_build settings (h ▸ htot)
  rw [← h] at hk'
  exact ⟨hk, hk.unique hk', fun c p => Cluster.addClick_eq_addCluster settings c p⟩

/-- Three clicks added one by one. -/
def chain : Construction :=
  .addClick (.addClick (.ofPacket ⟨0x0505004000000064⟩) ⟨0x0605008000000065⟩) ⟨0x070500C000000066⟩

/-- The same clicks in another order and merged as clusters. -/
def tree : Construction :=
  .addCluster (.ofPacket ⟨0x070500C000000066⟩)
    (.addClick (.ofPacket ⟨0x0605008000000065⟩) ⟨0x0505004000000064⟩)

theorem build_independent_chain_tree :
    Summarizes {} chain.clicks (chain.build {}) ∧ chain.build {} = tree.build {} ∧
      ∀ (c : Cluster) (p : Packet), c.addClick {} p = c.addCluster (Cluster.ofPacket {} p) :=
  build_independent {} (by decide) (by decide)

end TpxServer.Clustering
