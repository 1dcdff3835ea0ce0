import Mathlib.Algebra.BigOperators.Group.List.Basic
import Mathlib.Algebra.Order.BigOperators.Group.List
import Mathlib.Tactic.Abel
import Mathlib.Tactic.Linarith
import TpxServer.Clustering.Manager

/-!
# Charge accounting

The charge of a cluster is its ToT together with its ToT-weighted coordinates. Merging adds charges,
and closing a cluster moves its charge from the open to the emitted clusters. A click adds its
charge once for every cluster it is added to before the merge, so the account balances exactly as
long as no click falls into two open boxes (`accounted_iff`).
-/

namespace TpxServer.Clustering

/-! ## Charges -/

/-- ToT, and ToT times column, row and time. -/
abbrev Charge := ℚ × ℚ × ℚ × ℚ

def clickCharge (p : Packet) : Charge := (p.tot, p.tot * p.x, p.tot * p.y, p.tot * p.t)

namespace Cluster

def charge (c : Cluster) : Charge :=
  (c.tot_total, c.tot_total * c.xmean, c.tot_total * c.ymean, c.tot_total * c.tmean)

theorem charge_ofPacket (settings : ClusterSettings) (p : Packet) :
    (ofPacket settings p).charge = clickCharge p := rfl

theorem charge_addCluster {c c' : Cluster} (hc : 0 < c.tot_total) (hc' : 0 < c'.tot_total) :
    (c.addCluster c').charge = c.charge + c'.charge := by
  have h : c.tot_total + c'.tot_total ≠ 0 := (add_pos hc hc').ne'
  unfold charge addCluster
  simp only [mul_weightedMean h, Prod.mk_add_mk]

theorem charge_addClick {settings : ClusterSettings} {c : Cluster} {p : Packet}
    (hc : 0 < c.tot_total) (hp : 1 ≤ p.tot) :
    (c.addClick settings p).charge = c.charge + clickCharge p := by
  rw [addClick_eq_addCluster, charge_addCluster hc, charge_ofPacket]
  show (0 : ℚ) < p.tot
  exact_mod_cast hp

end Cluster

def charges (cs : List Cluster) : Charge := (cs.map Cluster.charge).sum

theorem charges_cons (c : Cluster) (cs : List Cluster) :
    charges (c :: cs) = c.charge + charges cs := List.sum_cons

theorem charges_append (cs cs' : List Cluster) :
    charges (cs ++ cs') = charges cs + charges cs' := by
  unfold charges
  rw [List.map_append, List.sum_append]

theorem charges_perm {cs cs' : List Cluster} (h : cs.Perm cs') : charges cs = charges cs' :=
  (h.map Cluster.charge).sum_eq

/-! ## One click -/

/-- Every open cluster has charge. -/
def Charged (cs : List Cluster) : Prop := ∀ c ∈ cs, 0 < c.tot_total

section Click

variable {settings : ClusterSettings} {click : Packet}

theorem tot_addClick_pos {c : Cluster} (hc : 0 < c.tot_total) (p : Packet) :
    0 < (c.addClick settings p).tot_total := by
  have hp : (0 : ℚ) ≤ p.tot := by exact_mod_cast p.tot_nonneg
  exact add_pos_of_pos_of_nonneg hc hp

theorem charge_foldl (settings : ClusterSettings) (htot : 1 ≤ click.tot) (cs : List Cluster) :
    ∀ m : Cluster,
    0 < m.tot_total → Charged cs →
      0 < (cs.foldl (fun m c => m.addCluster (c.addClick settings click)) m).tot_total ∧
      (cs.foldl (fun m c => m.addCluster (c.addClick settings click)) m).charge =
        m.charge + (charges cs + cs.length • clickCharge click) := by
  induction cs with
  | nil =>
    intro m hm _
    refine ⟨hm, ?_⟩
    simp [charges]
  | cons c cs ih =>
    intro m hm hcs
    have hc : 0 < c.tot_total := hcs c List.mem_cons_self
    have hc' : 0 < (c.addClick settings click).tot_total := tot_addClick_pos hc click
    obtain ⟨hpos, hcharge⟩ := ih (m.addCluster (c.addClick settings click)) (add_pos hm hc')
      fun d hd => hcs d (List.mem_cons_of_mem c hd)
    refine ⟨hpos, ?_⟩
    rw [List.foldl_cons, hcharge, Cluster.charge_addCluster hm hc',
      Cluster.charge_addClick hc htot, charges_cons, List.length_cons, succ_nsmul]
    abel

/-- The merged cluster has the charges of its parts, and the charge of the click once for each. -/
theorem charge_mergeClusters (settings : ClusterSettings) (htot : 1 ≤ click.tot)
    {cs : List Cluster} (hcs : Charged cs) :
    0 < (mergeClusters settings click cs).tot_total ∧
    (mergeClusters settings click cs).charge =
      charges cs + max cs.length 1 • clickCharge click := by
  cases cs with
  | nil =>
    have hp : (0 : ℚ) < click.tot := by exact_mod_cast htot
    refine ⟨hp, ?_⟩
    show (Cluster.ofPacket settings click).charge = _
    rw [Cluster.charge_ofPacket, charges, List.map_nil, List.sum_nil, zero_add, List.length_nil,
      max_eq_right (Nat.zero_le 1), one_nsmul]
  | cons c cs =>
    have hc : 0 < c.tot_total := hcs c List.mem_cons_self
    obtain ⟨hpos, hcharge⟩ := charge_foldl settings htot cs
      (c.addClick settings click) (tot_addClick_pos hc click)
      fun d hd => hcs d (List.mem_cons_of_mem c hd)
    refine ⟨hpos, ?_⟩
    rw [mergeClusters, hcharge, Cluster.charge_addClick hc htot, charges_cons, List.length_cons,
      max_eq_left (by omega), succ_nsmul]
    abel

/-- **One click.** It adds its charge `n` times; `n = 1` exactly when at most one open cluster
contains it. -/
theorem handleClick_charges (settings : ClusterSettings) (htot : 1 ≤ click.tot)
    {list : ClusterList} (hlist : Charged list) :
    Charged (handleClick settings click list).1 ∧
    ∃ n : ℕ, 1 ≤ n ∧ (n = 1 ↔ list.countP (·.containsClick click) ≤ 1) ∧
      charges (handleClick settings click list).1 + charges (handleClick settings click list).2 =
        charges list + n • clickCharge click := by
  obtain ⟨taken, kept, hm⟩ := exists_matched settings click list
  have hperm := handleClick_perm settings click list
  have htaken : Charged taken := fun c hc =>
    hlist c (hm.before.subset (List.mem_append_left kept hc))
  obtain ⟨hpos, hcharge⟩ := charge_mergeClusters settings htot htaken
  refine ⟨fun c hc => ?_, max taken.length 1, le_max_right _ _, ?_, ?_⟩
  · have hmem := hm.after.subset (hperm.subset (List.mem_append_left _ hc))
    rcases List.mem_cons.mp hmem with rfl | hkept
    · exact hpos
    · exact hlist c (hm.before.subset (List.mem_append_right taken hkept))
  · rw [← hm.length_le_one_iff]
    omega
  · rw [← charges_append, charges_perm hperm, charges_perm hm.after, charges_cons, hcharge,
      ← charges_perm hm.before, charges_append]
    abel

end Click

/-! ## Runs -/

/-- No click of the run falls into two open boxes. -/
def SoleMatches (settings : ClusterSettings) : ClusterList → List Packet → Prop
  | _, [] => True
  | list, click :: clicks =>
    list.countP (·.containsClick click) ≤ 1 ∧
      SoleMatches settings (handleClick settings click list).1 clicks

instance decSoleMatches (settings : ClusterSettings) :
    ∀ list clicks, Decidable (SoleMatches settings list clicks)
  | _, [] => isTrue trivial
  | list, click :: clicks =>
    have := decSoleMatches settings (handleClick settings click list).1 clicks
    inferInstanceAs (Decidable (_ ∧ _))

def clickCharges (clicks : List Packet) : Charge := (clicks.map clickCharge).sum

/-- The charge of clicks that are counted `ns` times. -/
def countedCharges (ns : List ℕ) (clicks : List Packet) : Charge :=
  (List.zipWith (fun n p => n • clickCharge p) ns clicks).sum

theorem handleClicks_charges (settings : ClusterSettings) (clicks : List Packet) :
    ∀ list : ClusterList, Charged list → (∀ p ∈ clicks, 1 ≤ p.tot) →
      ∃ ns : List ℕ, ns.length = clicks.length ∧ (∀ n ∈ ns, 1 ≤ n) ∧
        ((∀ n ∈ ns, n = 1) ↔ SoleMatches settings list clicks) ∧
        charges (handleClicks settings list clicks).1 +
            charges (handleClicks settings list clicks).2 =
          charges list + countedCharges ns clicks := by
  induction clicks with
  | nil =>
    intro list _ _
    refine ⟨[], rfl, ?_, ?_, rfl⟩
    · exact fun n hn => absurd hn List.not_mem_nil
    · exact iff_of_true (fun n hn => absurd hn List.not_mem_nil) trivial
  | cons click clicks ih =>
    intro list hlist htot
    obtain ⟨hlist', n, hn, hone, hstep⟩ :=
      handleClick_charges settings (htot click List.mem_cons_self) hlist
    obtain ⟨ns, hlen, hns, hones, hrun⟩ :=
      ih _ hlist' fun p hp => htot p (List.mem_cons_of_mem click hp)
    refine ⟨n :: ns, ?_, ?_, ?_, ?_⟩
    · rw [List.length_cons, List.length_cons, hlen]
    · rw [List.forall_mem_cons]
      exact ⟨hn, hns⟩
    · rw [List.forall_mem_cons, hones, hone, SoleMatches]
    · rw [handleClicks, countedCharges, List.zipWith_cons_cons, List.sum_cons, ← add_assoc,
        ← hstep, charges_append]
      unfold countedCharges at hrun
      calc _ = charges (handleClick settings click list).2 +
            (charges (handleClicks settings (handleClick settings click list).1 clicks).1 +
              charges (handleClicks settings (handleClick settings click list).1 clicks).2) := by
            abel
        _ = _ := by
            rw [hrun]
            abel

/-- Clicks counted at least once weigh at least their charge, and exactly their charge only if each
is counted once. -/
theorem countedCharges_eq_iff : ∀ (ns : List ℕ) (clicks : List Packet),
    ns.length = clicks.length → (∀ n ∈ ns, 1 ≤ n) → (∀ p ∈ clicks, 1 ≤ p.tot) →
      (clickCharges clicks).1 ≤ (countedCharges ns clicks).1 ∧
      (countedCharges ns clicks = clickCharges clicks ↔ ∀ n ∈ ns, n = 1) := by
  intro ns
  induction ns with
  | nil =>
    intro clicks hlen _ _
    rw [List.eq_nil_of_length_eq_zero hlen.symm]
    exact ⟨le_rfl, iff_of_true rfl fun n hn => absurd hn List.not_mem_nil⟩
  | cons n ns ih =>
    intro clicks hlen hns htot
    cases clicks with
    | nil => exact absurd hlen (by simp)
    | cons p clicks =>
      rw [List.forall_mem_cons] at hns htot ⊢
      obtain ⟨hle, hiff⟩ := ih clicks (Nat.succ.inj hlen) hns.2 htot.2
      have hcounted : countedCharges (n :: ns) (p :: clicks) =
          n • clickCharge p + countedCharges ns clicks := List.sum_cons
      have hcharges : clickCharges (p :: clicks) = clickCharge p + clickCharges clicks :=
        List.sum_cons
      have htotp : (1 : ℚ) ≤ (clickCharge p).1 := by
        show (1 : ℚ) ≤ p.tot
        exact_mod_cast htot.1
      have hn : (1 : ℚ) ≤ n := by exact_mod_cast hns.1
      rw [hcounted, hcharges, Prod.fst_add, Prod.fst_add, Prod.smul_fst, nsmul_eq_mul]
      refine ⟨by nlinarith, fun h => ?_, fun ⟨h1, h⟩ => ?_⟩
      · -- the first component forces this click to be counted once
        have h1 := congrArg Prod.fst h
        rw [Prod.fst_add, Prod.fst_add, Prod.smul_fst, nsmul_eq_mul] at h1
        have hn1 : n = 1 := by
          by_contra hne
          have h2 : (2 : ℚ) ≤ n := by exact_mod_cast (by omega : 2 ≤ n)
          nlinarith
        rw [hn1, one_nsmul, add_right_inj] at h
        exact ⟨hn1, hiff.mp h⟩
      · rw [h1, one_nsmul, hiff.mpr h]

/-- The open and the emitted clusters together account for the clicks. -/
structure Accounted (m : ClusteringManager) (clicks : List Packet) : Prop where
  tot : (m.mOpenClusters.map fun c => c.tot_total).sum + (m.emitted.map fun c => c.tot_total).sum =
    (clicks.map fun p => (p.tot : ℚ)).sum
  x : (m.mOpenClusters.map fun c => c.tot_total * c.xmean).sum +
      (m.emitted.map fun c => c.tot_total * c.xmean).sum =
    (clicks.map fun p => (p.tot : ℚ) * p.x).sum
  y : (m.mOpenClusters.map fun c => c.tot_total * c.ymean).sum +
      (m.emitted.map fun c => c.tot_total * c.ymean).sum =
    (clicks.map fun p => (p.tot : ℚ) * p.y).sum
  t : (m.mOpenClusters.map fun c => c.tot_total * c.tmean).sum +
      (m.emitted.map fun c => c.tot_total * c.tmean).sum =
    (clicks.map fun p => (p.tot : ℚ) * p.t).sum

theorem charges_eq (cs : List Cluster) :
    charges cs = ((cs.map fun c => c.tot_total).sum, (cs.map fun c => c.tot_total * c.xmean).sum,
      (cs.map fun c => c.tot_total * c.ymean).sum,
      (cs.map fun c => c.tot_total * c.tmean).sum) := by
  induction cs with
  | nil => rfl
  | cons c cs ih => rw [charges_cons, ih]; rfl

theorem clickCharges_eq (clicks : List Packet) :
    clickCharges clicks = ((clicks.map fun p => (p.tot : ℚ)).sum,
      (clicks.map fun p => (p.tot : ℚ) * p.x).sum, (clicks.map fun p => (p.tot : ℚ) * p.y).sum,
      (clicks.map fun p => (p.tot : ℚ) * p.t).sum) := by
  induction clicks with
  | nil => rfl
  | cons p clicks ih =>
    have hcons : clickCharges (p :: clicks) = clickCharge p + clickCharges clicks := List.sum_cons
    rw [hcons, ih]
    rfl

theorem accounted_iff_charges {m : ClusteringManager} {clicks : List Packet} :
    Accounted m clicks ↔ charges m.mOpenClusters + charges m.emitted = clickCharges clicks := by
  rw [charges_eq, charges_eq, clickCharges_eq, Prod.mk_add_mk, Prod.mk_add_mk, Prod.mk_add_mk,
    Prod.mk.injEq, Prod.mk.injEq, Prod.mk.injEq]
  constructor
  · rintro ⟨htot, hx, hy, ht⟩
    exact ⟨htot, hx, hy, ht⟩
  · rintro ⟨htot, hx, hy, ht⟩
    exact ⟨htot, hx, hy, ht⟩

/-- **Charge accounting.** After any messages of clicks with ToT, from an empty manager, the open
and the emitted clusters account for the clicks exactly when no click fell into two open boxes. -/
theorem accounted_iff (settings : ClusterSettings) (msgs : List (List Word))
    (htot : ∀ p ∈ clicksOf msgs, 1 ≤ p.tot) :
    Accounted (({ settings := settings } : ClusteringManager).handleAll msgs) (clicksOf msgs) ↔
      SoleMatches settings [] (clicksOf msgs) := by
  obtain ⟨-, hopen, hemitted⟩ :=
    handleAll_eq ({ settings := settings } : ClusteringManager) msgs
  obtain ⟨ns, hlen, hns, hones, hrun⟩ := handleClicks_charges settings
    (clicksOf msgs) [] (fun c hc => absurd hc List.not_mem_nil) htot
  rw [accounted_iff_charges, hopen, hemitted, List.nil_append, hrun, ← hones]
  show 0 + _ = _ ↔ _
  rw [zero_add]
  exact (countedCharges_eq_iff ns _ hlen hns htot).2

/-- A word with the given column, row, ToT and time. -/
def clickAt (x y tot t : ℕ) : Word :=
  BitVec.ofNat 64 (x * 2 ^ 56 + y * 2 ^ 48 + tot * 2 ^ 38 + t)

/-- Two clicks 10 columns apart, then one in the middle, which lies in both boxes. -/
def bridge : List (List Word) :=
  [[clickAt 0 5 1 100, clickAt 10 5 1 100], [clickAt 5 5 1 100]]

theorem accounted_iff_bridge :
    Accounted (({ settings := {} } : ClusteringManager).handleAll bridge) (clicksOf bridge) ↔
      SoleMatches {} [] (clicksOf bridge) :=
  accounted_iff {} bridge (by decide)

/-- The click in the middle is counted twice: the one cluster left has ToT 4, the clicks 3. -/
theorem bridge_not_accounted :
    (∀ p ∈ clicksOf bridge, 1 ≤ p.tot) ∧ ClusterSettings.NonNegative {} ∧
      ¬ Accounted (({ settings := {} } : ClusteringManager).handleAll bridge)
        (clicksOf bridge) := by
  refine ⟨by decide, ClusterSettings.nonNegative_default, fun h => ?_⟩
  have htot := h.tot
  revert htot
  decide +kernel

end TpxServer.Clustering
