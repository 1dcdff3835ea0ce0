import TpxServer.Clustering.Charge
import TpxServer.Lib.Runs

/-!
# Stale clusters and the clock

The clock of the packets has 38 bits. The sweep and the test of the boxes compare the time of a
click with wrapped times of clicks before it, but how long a cluster has been silent is a matter of
true times. To speak of them the open clusters are tracked: with every cluster go the true times of
its members and the longest silence after which a click was added to it. The tracked loops do the
same as the loops of the manager (`run_eq`).
-/

namespace TpxServer.Clustering

open SwapRemove

/-! ## Tracked clusters -/

/-- A click at a true time, of which its packet has the lowest 38 bits. -/
structure TimedClick where
  packet : Packet
  time : ℕ
  time_eq : packet.t = (time % 2 ^ 38 : ℕ)

/-- `silence` is the longest time between a click and the latest member of the cluster it was added
to. -/
structure Tracked where
  cluster : Cluster
  members : List ℕ
  silence : ℕ := 0
  deriving Repr, DecidableEq

namespace Tracked

/-- The true time of the latest member. -/
def latest (c : Tracked) : ℕ := c.members.foldr max 0

section Operations

variable (settings : ClusterSettings) (click : TimedClick)

def ofClick : Tracked where
  cluster := Cluster.ofPacket settings click.packet
  members := [click.time]

def addClick (c : Tracked) : Tracked where
  cluster := c.cluster.addClick settings click.packet
  members := c.members ++ [click.time]
  silence := max c.silence (click.time - c.latest)

def addCluster (c c' : Tracked) : Tracked where
  cluster := c.cluster.addCluster c'.cluster
  members := c.members ++ c'.members
  silence := max c.silence c'.silence

def containsClick (c : Tracked) : Bool := c.cluster.containsClick click.packet

def isStale (c : Tracked) : Bool := c.cluster.isStale settings click.packet

/-- The click is added to the open clusters. -/
def addToClusters (list : List Tracked) : List Tracked :=
  gather (containsClick click) (addClick settings click) addCluster (ofClick settings click) list

/-- The clusters that stay open, and those that are closed. -/
def handleClick (list : List Tracked) : List Tracked × List Tracked :=
  let list := addToClusters settings click list
  sweep (isStale settings click) list.length list

end Operations

/-- Without the true times this is what the manager does. -/
theorem handleClick_erase (settings : ClusterSettings) (click : TimedClick) (list : List Tracked) :
    Clustering.handleClick settings click.packet (list.map cluster) =
      ((handleClick settings click list).1.map cluster,
        (handleClick settings click list).2.map cluster) :=
  handleClick_map cluster (ofClick settings click) (fun _ => rfl) (fun _ _ => rfl) rfl list

end Tracked

/-! ## Runs -/

/-- `now` is the true time of the last click. -/
structure TrackedState where
  now : ℕ := 0
  list : List Tracked := []
  closed : List Tracked := []
  deriving Repr, DecidableEq

/-- The true times of the clicks do not decrease. -/
def TrackedState.step (settings : ClusterSettings) (s : TrackedState) (click : TimedClick) :
    Option TrackedState :=
  if s.now ≤ click.time then
    let r := Tracked.handleClick settings click s.list
    some { now := click.time, list := r.1, closed := s.closed ++ r.2 }
  else none

theorem run_erase {settings : ClusterSettings} {clicks : List TimedClick} : ∀ {s s' : TrackedState},
    Runs.run (TrackedState.step settings) s clicks = some s' →
      s'.list.map Tracked.cluster =
        (handleClicks settings (s.list.map Tracked.cluster) (clicks.map TimedClick.packet)).1 ∧
      s'.closed.map Tracked.cluster = s.closed.map Tracked.cluster ++
        (handleClicks settings (s.list.map Tracked.cluster) (clicks.map TimedClick.packet)).2 := by
  induction clicks with
  | nil =>
    intro s s' hrun
    cases hrun
    simp [handleClicks]
  | cons click clicks ih =>
    intro s s' hrun
    obtain ⟨s₁, hstep, hrun⟩ := Runs.run_cons_eq_some.mp hrun
    unfold TrackedState.step at hstep
    split_ifs at hstep
    cases hstep
    obtain ⟨hlist, hclosed⟩ := ih hrun
    rw [List.map_cons, handleClicks, Tracked.handleClick_erase]
    refine ⟨hlist, ?_⟩
    rw [hclosed, List.map_append, List.append_assoc]

/-! ## The law -/

/-- After this time without a click a cluster is stale. -/
def staleAfter (settings : ClusterSettings) : ℕ := settings.t_sep.toNat + settings.max_t_separation

/-- No open cluster is stale in true time, and no click was added to a stale cluster. -/
structure NoneStale (settings : ClusterSettings) (s : TrackedState) : Prop where
  recent : ∀ c ∈ s.list, s.now ≤ c.latest + staleAfter settings
  silence : ∀ c ∈ s.list ++ s.closed, c.silence ≤ staleAfter settings

/-- If a cluster is stale at the true time of the click, the click is also late enough on the
wrapped clock, for each of its members. -/
def SeenStale (settings : ClusterSettings) (s : TrackedState) (click : TimedClick) : Prop :=
  ∀ c ∈ s.list, c.latest + staleAfter settings < click.time →
    ∀ m ∈ c.members, m % 2 ^ 38 + staleAfter settings < click.time % 2 ^ 38

/-- The end of the box is that of the member with the greatest wrapped time. -/
structure Tracks (settings : ClusterSettings) (c : Tracked) : Prop where
  le_tmax : ∀ m ∈ c.members, (m % 2 ^ 38 : ℕ) + settings.t_sep ≤ c.cluster.tmax
  tmax_mem : ∃ m ∈ c.members, c.cluster.tmax = (m % 2 ^ 38 : ℕ) + settings.t_sep

namespace Tracked

theorem le_latest {c : Tracked} {m : ℕ} (h : m ∈ c.members) : m ≤ c.latest := by
  unfold latest
  generalize c.members = l at h
  induction l with
  | nil => exact absurd h List.not_mem_nil
  | cons a l ih =>
    rcases List.mem_cons.mp h with rfl | h
    · exact le_max_left _ _
    · exact (ih h).trans (le_max_right _ _)

end Tracked

section Tracks

variable {settings : ClusterSettings} {click : TimedClick}

theorem tracks_ofClick (settings : ClusterSettings) (click : TimedClick) :
    Tracks settings (Tracked.ofClick settings click) := by
  have htmax : (Tracked.ofClick settings click).cluster.tmax =
      (click.time % 2 ^ 38 : ℕ) + settings.t_sep :=
    congrArg (· + settings.t_sep) click.time_eq
  refine ⟨fun m hm => ?_, click.time, List.mem_singleton_self _, htmax⟩
  rw [htmax, List.mem_singleton.mp hm]

theorem Tracks.addCluster {c c' : Tracked} (h : Tracks settings c) (h' : Tracks settings c') :
    Tracks settings (c.addCluster c') := by
  constructor
  · intro m hm
    rcases List.mem_append.mp hm with hm | hm
    · exact (h.le_tmax m hm).trans (le_max_left _ _)
    · exact (h'.le_tmax m hm).trans (le_max_right _ _)
  · obtain ⟨m, hm, htmax⟩ := h.tmax_mem
    obtain ⟨m', hm', htmax'⟩ := h'.tmax_mem
    rcases max_choice c.cluster.tmax c'.cluster.tmax with hmax | hmax
    · exact ⟨m, List.mem_append_left _ hm, hmax.trans htmax⟩
    · exact ⟨m', List.mem_append_right _ hm', hmax.trans htmax'⟩

theorem Tracks.addClick {c : Tracked} (h : Tracks settings c) :
    Tracks settings (c.addClick settings click) := by
  obtain ⟨hle, hmem⟩ := h.addCluster (tracks_ofClick settings click)
  exact ⟨hle, hmem⟩

theorem Tracks.nonneg (hs : settings.NonNegative) {c : Tracked} (h : Tracks settings c) :
    0 ≤ c.cluster.tmax := by
  obtain ⟨m, -, htmax⟩ := h.tmax_mem
  have hsep := hs.t_sep_nonneg
  omega

theorem Tracks.tmax_le (hs : settings.NonNegative) {c : Tracked} (h : Tracks settings c) :
    c.cluster.tmax ≤ 2 ^ 38 + 2 ^ 31 := by
  obtain ⟨m, -, htmax⟩ := h.tmax_mem
  have hlt : m % 2 ^ 38 < 2 ^ 38 := Nat.mod_lt _ (by positivity)
  have hsep := hs.t_sep_lt
  omega

/-- The sweep closes a cluster if the click is late enough on the wrapped clock. -/
theorem Tracks.isStale_iff (hs : settings.NonNegative) {c : Tracked} (h : Tracks settings c) :
    c.isStale settings click = true ↔
      ∀ m ∈ c.members, m % 2 ^ 38 + staleAfter settings < click.time % 2 ^ 38 := by
  have hsep : (settings.t_sep.toNat : ℤ) = settings.t_sep := Int.toNat_of_nonneg hs.t_sep_nonneg
  have hclick := click.time_eq
  unfold Tracked.isStale staleAfter
  rw [Cluster.isStale_iff hs (h.nonneg hs) (h.tmax_le hs), hclick]
  constructor
  · intro hlt m hm
    have hle := h.le_tmax m hm
    omega
  · intro hall
    obtain ⟨m, hm, htmax⟩ := h.tmax_mem
    have hlt := hall m hm
    omega

theorem Tracks.not_isStale (hs : settings.NonNegative) {c : Tracked} (h : Tracks settings c)
    (hcontains : c.containsClick click = true) : c.isStale settings click = false :=
  Cluster.not_isStale_of_contains hs (Cluster.containsClick_iff.mp hcontains) (h.tmax_le hs)

end Tracks

/-! ## One click -/

section Click

variable {settings : ClusterSettings} {click : TimedClick} {list : List Tracked}

/-- The cluster that the click belongs to in the end. -/
abbrev joined (settings : ClusterSettings) (click : TimedClick) (taken : List Tracked) : Tracked :=
  gathered (Tracked.addClick settings click) Tracked.addCluster (Tracked.ofClick settings click)
    taken

theorem time_mem_joined (taken : List Tracked) :
    click.time ∈ (joined settings click taken).members :=
  gathered_all (P := fun c : Tracked => click.time ∈ c.members)
    (fun _ b ha _ => List.mem_append_left b.members ha) (List.mem_singleton_self _)
    fun c _ => List.mem_append_right c.members (List.mem_singleton_self _)

/-- The longest silence is that of a cluster taken, before or at the click. -/
theorem silence_joined_le_iff {taken : List Tracked} {n : ℕ} :
    (joined settings click taken).silence ≤ n ↔
      ∀ c ∈ taken, c.silence ≤ n ∧ click.time ≤ c.latest + n := by
  constructor
  · intro h c hc
    by_contra hnot
    refine absurd h (Nat.not_le.mpr ?_)
    have hadd : n < (c.addClick settings click).silence := by
      show n < max c.silence (click.time - c.latest)
      rw [lt_max_iff]
      omega
    exact gathered_any (P := fun c : Tracked => n < c.silence)
      (fun a b (ha : n < a.silence) => (lt_max_of_lt_left ha : n < max a.silence b.silence))
      (fun a b (hb : n < b.silence) => (lt_max_of_lt_right hb : n < max a.silence b.silence))
      hc hadd
  · intro h
    refine gathered_all (P := fun c : Tracked => c.silence ≤ n) (fun a b ha hb => max_le ha hb)
      (Nat.zero_le n) fun c hc => ?_
    obtain ⟨hsilence, hlatest⟩ := h c hc
    exact max_le hsilence (by omega)

theorem tracks_joined {taken : List Tracked} (h : ∀ c ∈ taken, Tracks settings c) :
    Tracks settings (joined settings click taken) :=
  gathered_all (fun _ _ ha hb => ha.addCluster hb) (tracks_ofClick settings click)
    fun c hc => (h c hc).addClick

/-- The clusters after a click: those taken become one, and the sweep divides all that there are. -/
theorem exists_handleClick (settings : ClusterSettings) (click : TimedClick)
    (list : List Tracked) : ∃ taken kept,
    (taken ++ kept).Perm list ∧ (∀ c ∈ taken, c.containsClick click = true) ∧
    (∀ c, c ∈ (Tracked.handleClick settings click list).1 ↔
      c ∈ joined settings click taken :: kept ∧ c.isStale settings click = false) ∧
    ∀ c, c ∈ (Tracked.handleClick settings click list).2 ↔
      c ∈ joined settings click taken :: kept ∧ c.isStale settings click = true := by
  obtain ⟨taken, kept, h⟩ := exists_gathers (Tracked.containsClick click)
    (Tracked.addClick settings click) Tracked.addCluster (Tracked.ofClick settings click) list
  obtain ⟨hclosed, hopen⟩ := sweep_spec (p := Tracked.isStale settings click)
    (Tracked.addToClusters settings click list)
  refine ⟨taken, kept, h.before, h.holds, fun c => ?_, fun c => ?_⟩
  · rw [← h.after.mem_iff]
    unfold Tracked.handleClick
    rw [hopen.mem_iff]
    simp [Tracked.addToClusters]
  · rw [← h.after.mem_iff]
    unfold Tracked.handleClick
    rw [hclosed]
    simp [Tracked.addToClusters]

end Click

/-! ## Whole runs -/

section Run

variable {settings : ClusterSettings} (hs : settings.NonNegative) {s s' : TrackedState}
  {click : TimedClick}

theorem step_eq_some (hstep : s.step settings click = some s') :
    s.now ≤ click.time ∧ s'.now = click.time ∧
      s'.list = (Tracked.handleClick settings click s.list).1 ∧
      s'.closed = s.closed ++ (Tracked.handleClick settings click s.list).2 := by
  unfold TrackedState.step at hstep
  split_ifs at hstep with hnow
  cases hstep
  exact ⟨hnow, rfl, rfl, rfl⟩

theorem tracks_step (h : ∀ c ∈ s.list, Tracks settings c)
    (hstep : s.step settings click = some s') : ∀ c ∈ s'.list, Tracks settings c := by
  obtain ⟨-, -, hlist, -⟩ := step_eq_some hstep
  obtain ⟨taken, kept, hperm, -, hopen, -⟩ := exists_handleClick settings click s.list
  intro c hc
  rw [hlist, hopen] at hc
  rcases List.mem_cons.mp hc.1 with rfl | hkept
  · exact tracks_joined fun d hd => h d (hperm.subset (List.mem_append_left kept hd))
  · exact h c (hperm.subset (List.mem_append_right taken hkept))

include hs

/-- A step keeps the law exactly if every cluster stale in true time is also seen to be stale. -/
theorem noneStale_step_iff (htracks : ∀ c ∈ s.list, Tracks settings c)
    (h : NoneStale settings s) (hstep : s.step settings click = some s') :
    NoneStale settings s' ↔ SeenStale settings s click := by
  obtain ⟨-, hnow, hlist, hclosed⟩ := step_eq_some hstep
  obtain ⟨taken, kept, hperm, hcontains, hopen, hswept⟩ :=
    exists_handleClick settings click s.list
  have htaken : ∀ c ∈ taken, c ∈ s.list := fun c hc =>
    hperm.subset (List.mem_append_left kept hc)
  have hkept : ∀ c ∈ kept, c ∈ s.list := fun c hc =>
    hperm.subset (List.mem_append_right taken hc)
  have hjoined : joined settings click taken ∈ s'.list ++ s'.closed := by
    rw [hlist, hclosed, List.mem_append, List.mem_append, hopen, hswept]
    cases (joined settings click taken).isStale settings click with
    | false => exact Or.inl ⟨List.mem_cons_self, rfl⟩
    | true => exact Or.inr (Or.inr ⟨List.mem_cons_self, rfl⟩)
  constructor
  · intro h' c hc hsilent
    rw [← (htracks c hc).isStale_iff hs]
    by_contra hfresh
    rcases List.mem_append.mp (hperm.symm.subset hc) with hmem | hmem
    · -- the click was added to the silent cluster
      have hsilence := silence_joined_le_iff.mp (h'.silence _ hjoined) c hmem
      omega
    · -- the silent cluster stays open
      have hmem' : c ∈ s'.list := by
        rw [hlist, hopen]
        exact ⟨List.mem_cons_of_mem _ hmem, Bool.eq_false_iff.mpr hfresh⟩
      have hrecent := h'.recent c hmem'
      omega
  · intro hseen
    have hsound : ∀ c ∈ s.list, c.isStale settings click = false →
        click.time ≤ c.latest + staleAfter settings := by
      intro c hc hfresh
      by_contra hsilent
      have hstale := ((htracks c hc).isStale_iff hs).mpr (hseen c hc (by omega))
      rw [hfresh] at hstale
      cases hstale
    have hfine : (joined settings click taken).silence ≤ staleAfter settings := by
      refine silence_joined_le_iff.mpr fun c hc => ⟨?_, ?_⟩
      · exact h.silence c (List.mem_append_left _ (htaken c hc))
      · exact hsound c (htaken c hc) ((htracks c (htaken c hc)).not_isStale hs (hcontains c hc))
    have hall : ∀ c ∈ joined settings click taken :: kept, c.silence ≤ staleAfter settings := by
      intro c hc
      rcases List.mem_cons.mp hc with rfl | hmem
      · exact hfine
      · exact h.silence c (List.mem_append_left _ (hkept c hmem))
    refine ⟨fun c hc => ?_, fun c hc => ?_⟩
    · rw [hlist, hopen] at hc
      rw [hnow]
      rcases List.mem_cons.mp hc.1 with rfl | hmem
      · exact Nat.le_add_right_of_le (Tracked.le_latest (time_mem_joined taken))
      · exact hsound c (hkept c hmem) hc.2
    · rw [hlist, hclosed, List.mem_append, List.mem_append, hopen, hswept] at hc
      rcases hc with hc | hc | hc
      · exact hall c hc.1
      · exact h.silence c (List.mem_append_right _ hc)
      · exact hall c hc.1

end Run

/-- **Stale clusters.** The tracked run is that of the manager, however the clicks are divided into
messages. After every click all open clusters are recent in true time, and no click joined a stale
one, exactly if at every click the clusters stale in true time are so on the wrapped clock. -/
theorem none_stale_iff (settings : ClusterSettings) (hs : settings.NonNegative)
    (clicks : List TimedClick) (s : TrackedState)
    (hrun : Runs.run (TrackedState.step settings) {} clicks = some s) :
    (∀ msgs, clicksOf msgs = clicks.map TimedClick.packet →
      (({ settings := settings } : ClusteringManager).handleAll msgs).mOpenClusters =
          s.list.map Tracked.cluster ∧
        (({ settings := settings } : ClusteringManager).handleAll msgs).emitted =
          s.closed.map Tracked.cluster) ∧
    (Runs.Along (TrackedState.step settings) (NoneStale settings) {} clicks ↔
      Runs.EachStep (TrackedState.step settings) (SeenStale settings) {} clicks) := by
  constructor
  · intro msgs hmsgs
    obtain ⟨hlist, hclosed⟩ := run_erase hrun
    obtain ⟨-, hopen, hemitted⟩ :=
      handleAll_eq ({ settings := settings } : ClusteringManager) msgs
    rw [hmsgs] at hopen hemitted
    exact ⟨hopen.trans hlist.symm, hemitted.trans hclosed.symm⟩
  · exact Runs.along_iff_eachStep (J := fun _ => True)
      (I := fun s => ∀ c ∈ s.list, Tracks settings c) (fun _ _ _ _ _ => trivial)
      (fun s click s' h hstep => tracks_step h hstep)
      (fun s click s' h _ hP hstep => noneStale_step_iff hs h hP hstep)
      (fun c hc => absurd hc List.not_mem_nil)
      ⟨fun c hc => absurd hc List.not_mem_nil, fun c hc => absurd hc List.not_mem_nil⟩ hrun trivial

/-- A click at a true time. -/
def timedClick (x y tot time : ℕ) : TimedClick where
  packet := ⟨clickAt x y tot (time % 2 ^ 38)⟩
  time := time
  time_eq := by
    rw [Packet.t_eq]
    simp only [clickAt, BitVec.toNat_ofNat]
    omega

instance (settings : ClusterSettings) (s : TrackedState) (click : TimedClick) :
    Decidable (SeenStale settings s click) :=
  inferInstanceAs (Decidable (∀ c ∈ s.list, _ → ∀ m ∈ c.members, _))

/-- The second click closes the cluster of the first one. -/
theorem none_stale_iff_apart :
    Runs.Along (TrackedState.step {}) (NoneStale {}) {}
      [timedClick 7 7 1 100, timedClick 9 9 1 60000] := by
  obtain ⟨s, hrun⟩ : ∃ s, Runs.run (TrackedState.step {}) {}
      [timedClick 7 7 1 100, timedClick 9 9 1 60000] = some s := by
    rw [← Option.isSome_iff_exists]
    decide +kernel
  refine (none_stale_iff {} ClusterSettings.nonNegative_default _ s hrun).2.mpr ?_
  decide +kernel

/-- Two clicks whose times differ by 2^38 make one cluster. -/
theorem wrapped_clicks_joined :
    ∃ s, Runs.run (TrackedState.step {}) {}
        [timedClick 7 7 1 100, timedClick 7 7 1 (100 + 2 ^ 38)] = some s ∧
      s.list.map Tracked.members = [[100, 100 + 2 ^ 38]] ∧
      ¬ Runs.Along (TrackedState.step {}) (NoneStale {}) {}
        [timedClick 7 7 1 100, timedClick 7 7 1 (100 + 2 ^ 38)] := by
  have hevents : (Runs.run (TrackedState.step {}) {}
      [timedClick 7 7 1 100, timedClick 7 7 1 (100 + 2 ^ 38)]).map
        (fun s => s.list.map fun c => (c.members, c.silence)) =
      some [([100, 100 + 2 ^ 38], 2 ^ 38)] := by
    decide +kernel
  obtain ⟨s, hrun, hlist⟩ := Option.map_eq_some_iff.mp hevents
  obtain ⟨c, hc, hmembers⟩ := List.map_eq_singleton_iff.mp hlist
  obtain ⟨hmem, hsilence⟩ := Prod.mk.inj hmembers
  refine ⟨s, hrun, ?_, fun halong => ?_⟩
  · rw [hc, List.map_singleton, hmem]
  · have hle := (halong.last hrun).silence c (by simp [hc])
    rw [hsilence] at hle
    exact absurd hle (by decide)

end TpxServer.Clustering
