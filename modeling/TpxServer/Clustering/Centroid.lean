import Mathlib.Data.Rat.Floor
import TpxServer.Clustering.History
import TpxServer.Clustering.Charge

/-!
# Emitted centroids

The box of a cluster contains its clicks and its means lie among them, so the means fit the fields
of the emitted word: a reader of the word gets their integer parts (`centroids_representable`).
-/

namespace TpxServer.Clustering

open WeightedMean

/-! ## The emitted word -/

section Word

theorem toNat_toUInt64 {v : ℚ} {n : ℕ} (hn : n ≤ 64) (h0 : 0 ≤ v) (h1 : v < 2 ^ n) :
    (Cluster.toUInt64 v).toNat = ⌊v⌋.toNat ∧ ⌊v⌋.toNat < 2 ^ n ∧ (⌊v⌋.toNat : ℤ) = ⌊v⌋ := by
  have hfloor0 : 0 ≤ ⌊v⌋ := Int.floor_nonneg.mpr h0
  have hfloor1 : ⌊v⌋ < 2 ^ n := Int.floor_lt.mpr (by exact_mod_cast h1)
  have hcast : (⌊v⌋.toNat : ℤ) = ⌊v⌋ := Int.toNat_of_nonneg hfloor0
  have hlt : ⌊v⌋.toNat < 2 ^ n := by zify; rw [hcast]; exact hfloor1
  have hle : 2 ^ n ≤ 2 ^ 64 := Nat.pow_le_pow_right (by decide) hn
  refine ⟨?_, hlt, hcast⟩
  show (BitVec.ofNat 64 ⌊v⌋.toNat).toNat = _
  rw [BitVec.toNat_ofNat, Nat.mod_eq_of_lt (by omega)]

/-- The fields of an emitted word are the integer parts of the means, if these fit. -/
theorem toRawValue_fields {c : Cluster} (hx : 0 ≤ c.xmean ∧ c.xmean < 2 ^ 8)
    (hy : 0 ≤ c.ymean ∧ c.ymean < 2 ^ 8) (ht : 0 ≤ c.tmean ∧ c.tmean < 2 ^ 38) :
    (Packet.mk c.toRawValue).x = ⌊c.xmean⌋ ∧ (Packet.mk c.toRawValue).y = ⌊c.ymean⌋ ∧
      (Packet.mk c.toRawValue).t = ⌊c.tmean⌋ := by
  obtain ⟨hX, hXlt, hXcast⟩ := toNat_toUInt64 (by decide) hx.1 hx.2
  obtain ⟨hY, hYlt, hYcast⟩ := toNat_toUInt64 (by decide) hy.1 hy.2
  obtain ⟨hT, hTlt, hTcast⟩ := toNat_toUInt64 (by decide) ht.1 ht.2
  have hmx : (Cluster.toUInt64 c.xmean &&& 0xFF).toNat = ⌊c.xmean⌋.toNat := by
    rw [toNat_and_mask _ _ (n := 8) rfl, hX, Nat.mod_eq_of_lt hXlt]
  have hmy : (Cluster.toUInt64 c.ymean &&& 0xFF).toNat = ⌊c.ymean⌋.toNat := by
    rw [toNat_and_mask _ _ (n := 8) rfl, hY, Nat.mod_eq_of_lt hYlt]
  have hmt : (Cluster.toUInt64 c.tmean &&& 0x3FFFFFFFFF).toNat = ⌊c.tmean⌋.toNat := by
    rw [toNat_and_mask _ _ (n := 38) rfl, hT, Nat.mod_eq_of_lt hTlt]
  have hlow : ((Cluster.toUInt64 c.ymean &&& 0xFF) <<< 48 |||
      (Cluster.toUInt64 c.tmean &&& 0x3FFFFFFFFF)).toNat =
        ⌊c.ymean⌋.toNat * 2 ^ 48 + ⌊c.tmean⌋.toNat := by
    rw [toNat_shiftLeft_or (by omega) (by omega), hmy, hmt]
  have hword : c.toRawValue.toNat =
      ⌊c.xmean⌋.toNat * 2 ^ 56 + (⌊c.ymean⌋.toNat * 2 ^ 48 + ⌊c.tmean⌋.toNat) := by
    rw [Cluster.toRawValue, BitVec.or_assoc, toNat_shiftLeft_or (by omega) (by omega), hmx, hlow]
  refine ⟨?_, ?_, ?_⟩
  · rw [Packet.x_eq, hword]
    omega
  · rw [Packet.y_eq, hword]
    omega
  · rw [Packet.t_eq, hword]
    omega

end Word

/-! ## Means among the clicks -/

/-- The value lies between the least and the greatest coordinate of the clicks. -/
def Between (f : Packet → ℤ) (clicks : Multiset Packet) (v : ℚ) : Prop :=
  ∃ a b, IsLeast (values f clicks) a ∧ IsGreatest (values f clicks) b ∧ (a : ℚ) ≤ v ∧ v ≤ b

theorem between_totMean {f : Packet → ℤ} {clicks : Multiset Packet} {a b : ℤ} (hne : clicks ≠ 0)
    (htot : ∀ p ∈ clicks, 1 ≤ p.tot) (ha : IsLeast (values f clicks) a)
    (hb : IsGreatest (values f clicks) b) : Between f clicks (totMean f clicks) := by
  have hweight := fun p hp => weight_pos (htot p hp)
  refine ⟨a, b, ha, hb, ?_, ?_⟩
  · exact le_mean hweight hne fun p hp => by exact_mod_cast ha.2 ⟨p, hp, rfl⟩
  · exact mean_le hweight hne fun p hp => by exact_mod_cast hb.2 ⟨p, hp, rfl⟩

/-- A value between coordinates is in their range. -/
theorem Between.range {f : Packet → ℤ} {clicks : Multiset Packet} {v : ℚ} {n : ℕ}
    (h : Between f clicks v) (h0 : ∀ p, 0 ≤ f p) (h1 : ∀ p, f p < 2 ^ n) : 0 ≤ v ∧ v < 2 ^ n := by
  obtain ⟨a, b, ⟨⟨p, -, rfl⟩, -⟩, ⟨⟨q, -, rfl⟩, -⟩, hle, hle'⟩ := h
  have hp : (0 : ℚ) ≤ f p := by exact_mod_cast h0 p
  have hq : (f q : ℚ) < 2 ^ n := by exact_mod_cast h1 q
  exact ⟨hp.trans hle, hle'.trans_lt hq⟩

/-- The box contains the clicks, the means lie among them, and the word has their integer parts. -/
structure Centered (clicks : Multiset Packet) (c : Cluster) : Prop where
  contains : ∀ p ∈ clicks, c.Contains p
  x : Between Packet.x clicks c.xmean
  y : Between Packet.y clicks c.ymean
  t : Between Packet.t clicks c.tmean
  word_x : (Packet.mk c.toRawValue).x = ⌊c.xmean⌋
  word_y : (Packet.mk c.toRawValue).y = ⌊c.ymean⌋
  word_t : (Packet.mk c.toRawValue).t = ⌊c.tmean⌋

theorem centered_build {settings : ClusterSettings} (hs : settings.NonNegative) {k : Construction}
    (htot : ∀ p ∈ k.clicks, 1 ≤ p.tot) : Centered k.clicks (k.build settings) := by
  have hk := summarizes_build settings htot
  have hne := k.clicks_ne_zero
  have hx := between_totMean hne htot hk.xmin hk.xmax
  have hy := between_totMean hne htot hk.ymin hk.ymax
  have ht := between_totMean hne htot hk.tmin hk.tmax
  rw [← hk.xmean] at hx
  rw [← hk.ymean] at hy
  rw [← hk.tmean] at ht
  obtain ⟨hwx, hwy, hwt⟩ := toRawValue_fields (hx.range Packet.x_nonneg Packet.x_lt)
    (hy.range Packet.y_nonneg Packet.y_lt) (ht.range Packet.t_nonneg Packet.t_lt)
  exact ⟨fun p hp => hk.contains hs hp, hx, hy, ht, hwx, hwy, hwt⟩

/-- **Centroids.** In every run over clicks with ToT the clusters are those of the history, and each
of them contains its clicks, has its means among them and is emitted without loss. -/
theorem centroids_representable {settings : ClusterSettings} (hs : settings.NonNegative)
    {calls : List ClusteringManager.Call}
    (htot : ∀ p ∈ calls.flatMap ClusteringManager.Call.clicks, 1 ≤ p.tot) :
    Records settings (History.run settings {} calls)
        (({ settings := settings } : ClusteringManager).run calls) ∧
      ∀ k ∈ (History.run settings {} calls).opens ++ (History.run settings {} calls).emitted,
        Centered k.clicks (k.build settings) := by
  refine ⟨(records_start settings).run calls, fun k hk => ?_⟩
  have hclicks : ∀ k ∈ (History.run settings {} calls).opens ++
      (History.run settings {} calls).emitted, ∀ p ∈ k.clicks, 1 ≤ p.tot := by
    refine all_history_run (fun k k' h h' p hp => ?_) (fun p hp q hq => ?_)
      (fun p hp k h q hq => ?_) (fun k hk => absurd hk List.not_mem_nil)
    · exact (Multiset.mem_add.mp hp).elim (h p) (h' p)
    · exact Multiset.mem_singleton.mp hq ▸ htot p hp
    · exact (Multiset.mem_add.mp hq).elim (h q) fun hq => Multiset.mem_singleton.mp hq ▸ htot p hp
  exact centered_build hs (hclicks k hk)

/-- Two clusters are bridged by a click, and the cluster they become is flushed. -/
theorem centroids_representable_bridge :
    Records {} (History.run {} {} (bridge.map .handlePackets ++ [.flush]))
        (({} : ClusteringManager).run (bridge.map .handlePackets ++ [.flush])) ∧
      ∀ k ∈ (History.run {} {} (bridge.map .handlePackets ++ [.flush])).opens ++
          (History.run {} {} (bridge.map .handlePackets ++ [.flush])).emitted,
        Centered k.clicks (k.build {}) :=
  centroids_representable ClusterSettings.nonNegative_default (by decide)

end TpxServer.Clustering
