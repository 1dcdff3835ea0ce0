import TpxServer.Clustering.Construction
import TpxServer.Clustering.Manager

/-!
# Accepted parameters

`setClusterParameters` takes any three words. They are read as `int`s, and the last of them is
converted to `size_t`. The arithmetic of the clusters is exact for all clicks exactly when the words
are not negative as `int`s and the box of a click at the edge of the sensor stays an `int`
(`exactArithmetic_iff`).
-/

namespace TpxServer.Clustering

/-- The bounds of boxes do not overflow, a cluster contains the click it was made from, and the
stale test of any cluster is the comparison of integers. -/
structure ExactArithmetic (settings : ClusterSettings) : Prop where
  fits_x : ∀ p : Packet, FitsInt (p.x - settings.xy_sep) ∧ FitsInt (p.x + settings.xy_sep)
  fits_y : ∀ p : Packet, FitsInt (p.y - settings.xy_sep) ∧ FitsInt (p.y + settings.xy_sep)
  contains : ∀ p, (Cluster.ofPacket settings p).containsClick p = true
  stale : ∀ (k : Construction) (click : Packet),
    (k.build settings).isStale settings click = true ↔
      (k.build settings).tmax + settings.max_t_separation < click.t

section Parameters

variable {settings : ClusterSettings}

/-- A word from 2^31 on is negative as an `int`. -/
theorem toInt_cases (a : BitVec 32) :
    (a.toNat < 2 ^ 31 ∧ a.toInt = a.toNat) ∨ (2 ^ 31 ≤ a.toNat ∧ a.toInt = a.toNat - 2 ^ 32) := by
  rw [BitVec.toInt_eq_toNat_cond]
  by_cases h : 2 * a.toNat < 2 ^ 32
  · rw [if_pos h]
    omega
  · rw [if_neg h]
    omega

theorem exactArithmetic_of_nonNegative (hs : settings.NonNegative)
    (hxy : settings.xy_sep ≤ 2 ^ 31 - 256) : ExactArithmetic settings := by
  have hfits := Cluster.boxFits_of_le hs hxy
  refine ⟨fun p => (hfits p).fits_x, fun p => (hfits p).fits_y,
    fun p => Cluster.containsClick_iff.mpr (Cluster.contains_ofPacket hs p), fun k click => ?_⟩
  obtain ⟨p, -, htmax⟩ := (boxes_build settings k).exists_tmax
  have hle := Cluster.tmax_ofPacket_le hs p
  have ht := p.t_nonneg
  have hsep := hs.t_sep_nonneg
  exact Cluster.isStale_iff hs (by omega) (htmax ▸ hle)

/-- A cluster that contains its click has separations that are not negative. -/
theorem ExactArithmetic.separations (h : ExactArithmetic settings) :
    0 ≤ settings.xy_sep ∧ settings.xy_sep ≤ 2 ^ 31 - 256 ∧ 0 ≤ settings.t_sep := by
  obtain ⟨-, -, hfits⟩ := h.fits_x ⟨0xFF00000000000000⟩
  have hcontains := Cluster.containsClick_iff.mp (h.contains ⟨0xFF00000000000000⟩)
  have hxmax := hcontains.le_xmax
  have htmax := hcontains.le_tmax
  have hx : (Packet.mk 0xFF00000000000000).x = 255 := by decide
  have ht : (Packet.mk 0xFF00000000000000).t = 0 := by decide
  simp only [Cluster.ofPacket, hx, ht] at hxmax htmax
  rw [hx] at hfits
  omega

/-- The last separation does not wrap when it is stored as `size_t`: otherwise the sum wraps back,
and the last moment of the clock looks late to a cluster in its middle. -/
theorem ExactArithmetic.max_t_separation (h : ExactArithmetic settings)
    (hsep : settings.t_sep < 2 ^ 31) : settings.max_t_separation < 2 ^ 64 - 2 ^ 31 ∨
      2 ^ 64 ≤ settings.max_t_separation := by
  by_contra hnot
  rw [not_or, not_lt, not_le] at hnot
  obtain ⟨hlo, hhi⟩ := hnot
  have hsep0 := h.separations.2.2
  have hstale := h.stale (.ofPacket ⟨0x80000000⟩) ⟨0x3FFFFFFFFF⟩
  have ht : (Packet.mk 0x80000000).t = 2 ^ 31 := by decide
  have hclick : (Packet.mk 0x3FFFFFFFFF).t = 2 ^ 38 - 1 := by decide
  simp only [Construction.build, Cluster.ofPacket, Cluster.isStale, ht, hclick,
    decide_eq_true_eq] at hstale
  omega

/-- **Parameters.** The arithmetic under accepted parameters is exact exactly for words that are not
negative as `int`s, of which the first leaves room for the columns and rows. -/
theorem exactArithmetic_iff (m : ClusteringManager) (max_sep_xy max_sep_t max_t_sep : BitVec 32) :
    ExactArithmetic (m.setClusterParameters max_sep_xy max_sep_t max_t_sep).settings ↔
      max_sep_xy.toNat ≤ 2 ^ 31 - 256 ∧ max_sep_t.toNat < 2 ^ 31 ∧ max_t_sep.toNat < 2 ^ 31 := by
  have hxy := toInt_cases max_sep_xy
  have ht := toInt_cases max_sep_t
  have hmax := toInt_cases max_t_sep
  have hxyw := max_sep_xy.isLt
  have htw := max_sep_t.isLt
  have hmaxw := max_t_sep.isLt
  constructor
  · intro h
    have hsep := h.separations
    have hwrap := h.max_t_separation
    simp only [ClusteringManager.setClusterParameters] at hsep hwrap
    omega
  · rintro ⟨hxy', ht', hmax'⟩
    apply exactArithmetic_of_nonNegative
    · constructor <;> simp only [ClusteringManager.setClusterParameters] <;> omega
    · show max_sep_xy.toInt ≤ 2 ^ 31 - 256
      omega

/-- With -1 for the first separation a cluster does not contain its own click. -/
theorem negative_separation_not_exact :
    ¬ ExactArithmetic
      (({} : ClusteringManager).setClusterParameters 0xFFFFFFFF 20 50000).settings := by
  intro h
  have hcontains := h.contains ⟨0x0505004000000064⟩
  revert hcontains
  decide

end Parameters

end TpxServer.Clustering
