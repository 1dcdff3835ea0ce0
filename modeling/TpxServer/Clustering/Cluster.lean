import Mathlib.Data.Rat.Defs
import Mathlib.Algebra.Order.Field.Rat
import Mathlib.Tactic.Ring
import Mathlib.Tactic.FieldSimp
import Mathlib.Tactic.Positivity
import TpxServer.Common

/-!
# Clusters

A cluster keeps the ToT-weighted means of its clicks and a box around them, widened by the
separations of the settings. The `double` members are read as rational numbers. The `int` and
`int64_t` members are read as integers and their sums as exact. The sums of `int`s are those of the
box of a click; `BoxFits` says that none of them overflows, which the code leaves undefined, and a
statement that does not name it does not exclude the overflow. The comparison in `isStale` mixes
signed and unsigned operands, and its conversions are spelled out.
-/

namespace TpxServer.Clustering

structure ClusterSettings where
  xy_sep : ℤ := 5
  t_sep : ℤ := 20
  max_t_separation : ℕ := 50000
  deriving Repr, DecidableEq

/-- The parameters are not negative, and the separations in time are values of type `int`. There is
no upper bound on `xy_sep`: with a large one the box of a click does not fit (`BoxFits`). -/
structure ClusterSettings.NonNegative (s : ClusterSettings) : Prop where
  xy_sep_nonneg : 0 ≤ s.xy_sep
  t_sep_nonneg : 0 ≤ s.t_sep
  t_sep_lt : s.t_sep < 2 ^ 31
  max_t_separation_lt : s.max_t_separation < 2 ^ 31

theorem ClusterSettings.nonNegative_default : NonNegative {} :=
  ⟨by decide, by decide, by decide, by decide⟩

/-- The values of a 32-bit `int`. -/
def FitsInt (v : ℤ) : Prop := -2 ^ 31 ≤ v ∧ v < 2 ^ 31

instance (v : ℤ) : Decidable (FitsInt v) := inferInstanceAs (Decidable (_ ∧ _))

/-- The four sums of `int`s that the box of a click is made of do not overflow. -/
structure BoxFits (s : ClusterSettings) (p : Packet) : Prop where
  fits_x : FitsInt (p.x - s.xy_sep) ∧ FitsInt (p.x + s.xy_sep)
  fits_y : FitsInt (p.y - s.xy_sep) ∧ FitsInt (p.y + s.xy_sep)

instance (s : ClusterSettings) (p : Packet) : Decidable (BoxFits s p) :=
  decidable_of_iff (_ ∧ _) ⟨fun h => ⟨h.1, h.2⟩, fun h => ⟨h.fits_x, h.fits_y⟩⟩

/-- The mean of a value `m` of weight `w` and a value `m'` of weight `w'`. -/
def weightedMean (m w m' w' : ℚ) : ℚ := (m * w + m' * w') / (w + w')

theorem mul_weightedMean {m w m' w' : ℚ} (h : w + w' ≠ 0) :
    (w + w') * weightedMean m w m' w' = w * m + w' * m' := by
  unfold weightedMean
  field_simp

structure Cluster where
  xmean : ℚ
  ymean : ℚ
  tmean : ℚ
  tot_total : ℚ
  xmin : ℤ
  xmax : ℤ
  ymin : ℤ
  ymax : ℤ
  tmin : ℤ
  tmax : ℤ
  deriving Repr, DecidableEq

namespace Cluster

/-- The constructor of `Cluster`. -/
def ofPacket (settings : ClusterSettings) (p : Packet) : Cluster where
  xmean := p.x
  ymean := p.y
  tmean := p.t
  tot_total := p.tot
  xmin := p.x - settings.xy_sep
  xmax := p.x + settings.xy_sep
  ymin := p.y - settings.xy_sep
  ymax := p.y + settings.xy_sep
  tmin := p.t - settings.t_sep
  tmax := p.t + settings.t_sep

def addClick (settings : ClusterSettings) (c : Cluster) (p : Packet) : Cluster where
  xmean := weightedMean c.xmean c.tot_total p.x p.tot
  ymean := weightedMean c.ymean c.tot_total p.y p.tot
  tmean := weightedMean c.tmean c.tot_total p.t p.tot
  tot_total := c.tot_total + p.tot
  xmin := min c.xmin (p.x - settings.xy_sep)
  xmax := max c.xmax (p.x + settings.xy_sep)
  ymin := min c.ymin (p.y - settings.xy_sep)
  ymax := max c.ymax (p.y + settings.xy_sep)
  tmin := min c.tmin (p.t - settings.t_sep)
  tmax := max c.tmax (p.t + settings.t_sep)

def addCluster (c c' : Cluster) : Cluster where
  xmean := weightedMean c.xmean c.tot_total c'.xmean c'.tot_total
  ymean := weightedMean c.ymean c.tot_total c'.ymean c'.tot_total
  tmean := weightedMean c.tmean c.tot_total c'.tmean c'.tot_total
  tot_total := c.tot_total + c'.tot_total
  xmin := min c.xmin c'.xmin
  xmax := max c.xmax c'.xmax
  ymin := min c.ymin c'.ymin
  ymax := max c.ymax c'.ymax
  tmin := min c.tmin c'.tmin
  tmax := max c.tmax c'.tmax

/-- Adding a click is adding the cluster of this click. -/
theorem addClick_eq_addCluster (settings : ClusterSettings) (c : Cluster) (p : Packet) :
    c.addClick settings p = c.addCluster (ofPacket settings p) := rfl

/-- `static_cast<std::uint64_t>` of a non-negative `double`. -/
def toUInt64 (v : ℚ) : Word := BitVec.ofNat 64 v.floor.toNat

def toRawValue (c : Cluster) : Word :=
  ((toUInt64 c.xmean &&& 0xFF) <<< 56) ||| ((toUInt64 c.ymean &&& 0xFF) <<< 48) |||
    (toUInt64 c.tmean &&& 0x3FFFFFFFFF)

def containsClick (c : Cluster) (p : Packet) : Bool :=
  c.xmin ≤ p.x && c.xmax ≥ p.x && c.ymin ≤ p.y && c.ymax ≥ p.y && c.tmin ≤ p.t && c.tmax ≥ p.t

/-- `click.t() > tmax + max_t_separation`: `tmax` is converted to `size_t`, the sum is taken in
`size_t`, and the time of the click is converted to it. -/
def isStale (settings : ClusterSettings) (click : Packet) (c : Cluster) : Bool :=
  click.t % 2 ^ 64 > (c.tmax % 2 ^ 64 + settings.max_t_separation) % 2 ^ 64

/-! ## Boxes -/

/-- The click lies in the box. -/
structure Contains (c : Cluster) (p : Packet) : Prop where
  xmin_le : c.xmin ≤ p.x
  le_xmax : p.x ≤ c.xmax
  ymin_le : c.ymin ≤ p.y
  le_ymax : p.y ≤ c.ymax
  tmin_le : c.tmin ≤ p.t
  le_tmax : p.t ≤ c.tmax

theorem containsClick_iff {c : Cluster} {p : Packet} : c.containsClick p = true ↔ c.Contains p := by
  unfold containsClick
  simp only [Bool.and_eq_true, decide_eq_true_eq, ge_iff_le]
  constructor
  · rintro ⟨⟨⟨⟨⟨h1, h2⟩, h3⟩, h4⟩, h5⟩, h6⟩
    exact ⟨h1, h2, h3, h4, h5, h6⟩
  · rintro ⟨h1, h2, h3, h4, h5, h6⟩
    exact ⟨⟨⟨⟨⟨h1, h2⟩, h3⟩, h4⟩, h5⟩, h6⟩

section Boxes

variable {settings : ClusterSettings}

/-- For separations that are not negative only the upper ends of the box can overflow. -/
theorem boxFits_iff (hs : settings.NonNegative) (p : Packet) :
    BoxFits settings p ↔ p.x + settings.xy_sep < 2 ^ 31 ∧ p.y + settings.xy_sep < 2 ^ 31 := by
  have hxy := hs.xy_sep_nonneg
  have hx := p.x_nonneg
  have hy := p.y_nonneg
  constructor
  · rintro ⟨hfx, hfy⟩
    exact ⟨hfx.2.2, hfy.2.2⟩
  · rintro ⟨hx', hy'⟩
    constructor <;> simp only [FitsInt] <;> omega

/-- No box overflows if the separation leaves room for the columns and rows of the sensor. -/
theorem boxFits_of_le (hs : settings.NonNegative) (hxy : settings.xy_sep ≤ 2 ^ 31 - 256)
    (p : Packet) : BoxFits settings p := by
  have hx := p.x_lt
  have hy := p.y_lt
  rw [boxFits_iff hs]
  omega

theorem contains_ofPacket (hs : settings.NonNegative) (p : Packet) :
    (ofPacket settings p).Contains p := by
  have hxy := hs.xy_sep_nonneg
  have ht := hs.t_sep_nonneg
  constructor <;> simp only [ofPacket] <;> omega

/-- Merging widens the box of the first cluster. -/
theorem Contains.addCluster {c : Cluster} {p : Packet} (h : c.Contains p) (c' : Cluster) :
    (c.addCluster c').Contains p where
  xmin_le := le_trans (min_le_left _ _) h.xmin_le
  le_xmax := le_trans h.le_xmax (le_max_left _ _)
  ymin_le := le_trans (min_le_left _ _) h.ymin_le
  le_ymax := le_trans h.le_ymax (le_max_left _ _)
  tmin_le := le_trans (min_le_left _ _) h.tmin_le
  le_tmax := le_trans h.le_tmax (le_max_left _ _)

theorem Contains.addClick {c : Cluster} {p : Packet} (h : c.Contains p) (p' : Packet) :
    (c.addClick settings p').Contains p := h.addCluster (ofPacket settings p')

theorem tmax_addCluster_le {c c' : Cluster} {b : ℤ} (h : c.tmax ≤ b) (h' : c'.tmax ≤ b) :
    (c.addCluster c').tmax ≤ b := max_le h h'

/-- The end of the box of a click, and of all boxes made of clicks, is bounded. -/
theorem tmax_ofPacket_le (hs : settings.NonNegative) (p : Packet) :
    (ofPacket settings p).tmax ≤ 2 ^ 38 + 2 ^ 31 := by
  have ht := p.t_lt
  have hsep := hs.t_sep_lt
  simp only [ofPacket]
  omega

/-- As long as the sum fits, no conversion of the comparison wraps. -/
theorem isStale_iff_of_lt {c : Cluster} {click : Packet} (h0 : 0 ≤ c.tmax)
    (h1 : c.tmax + settings.max_t_separation < 2 ^ 64) :
    c.isStale settings click = true ↔ c.tmax + settings.max_t_separation < click.t := by
  have ht := click.t_lt
  have ht0 := click.t_nonneg
  have hclick : click.t % 2 ^ 64 = click.t := Int.emod_eq_of_lt ht0 (by omega)
  have htmax : c.tmax % 2 ^ 64 = c.tmax := Int.emod_eq_of_lt h0 (by omega)
  have hsum : (c.tmax + settings.max_t_separation) % 2 ^ 64 =
      c.tmax + settings.max_t_separation := Int.emod_eq_of_lt (by omega) h1
  unfold isStale
  rw [decide_eq_true_eq, hclick, htmax, hsum]

/-- Within the bounds of reachable boxes no conversion of the comparison wraps. -/
theorem isStale_iff (hs : settings.NonNegative) {c : Cluster} {click : Packet}
    (h0 : 0 ≤ c.tmax) (h1 : c.tmax ≤ 2 ^ 38 + 2 ^ 31) :
    c.isStale settings click = true ↔ c.tmax + settings.max_t_separation < click.t := by
  have hsep := hs.max_t_separation_lt
  exact isStale_iff_of_lt h0 (by omega)

/-- A cluster that contains the click is not closed by it. -/
theorem not_isStale_of_contains (hs : settings.NonNegative) {c : Cluster} {click : Packet}
    (h : c.Contains click) (h1 : c.tmax ≤ 2 ^ 38 + 2 ^ 31) : c.isStale settings click = false := by
  have ht0 := click.t_nonneg
  have hle := h.le_tmax
  rw [Bool.eq_false_iff, ne_eq, isStale_iff hs (by omega) h1]
  omega

end Boxes

end Cluster

end TpxServer.Clustering
