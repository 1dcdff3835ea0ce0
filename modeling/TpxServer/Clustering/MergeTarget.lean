import TpxServer.Clustering.Manager
import TpxServer.Lib.Traced

/-!
# The merge target

`matchLoop` once more, one iteration after the other, with the record of its accesses to the list.
The loop does not append, so `last_cluster` points to a slot of the vector as long as the loop runs;
to tell which cluster is in the slot, every cluster carries the place it had before the loop.

The loop removes only behind the first cluster containing the click, and so this cluster stays in
its slot (`target_stays_put`).
-/

namespace TpxServer.Clustering

open SwapRemove

/-! ## The loop with its accesses -/

/-- A cluster and its place before the loop. -/
structure PlacedCluster where
  origin : ℕ
  cluster : Cluster
  deriving Repr, DecidableEq

namespace PlacedCluster

def addClick (settings : ClusterSettings) (c : PlacedCluster) (p : Packet) : PlacedCluster :=
  { c with cluster := c.cluster.addClick settings p }

def addCluster (c c' : PlacedCluster) : PlacedCluster :=
  { c with cluster := c.cluster.addCluster c'.cluster }

@[simp] theorem origin_addClick (settings : ClusterSettings) (c : PlacedCluster) (p : Packet) :
    (c.addClick settings p).origin = c.origin := rfl

@[simp] theorem origin_addCluster (c c' : PlacedCluster) :
    (c.addCluster c').origin = c.origin := rfl

@[simp] theorem cluster_addClick (settings : ClusterSettings) (c : PlacedCluster) (p : Packet) :
    (c.addClick settings p).cluster = c.cluster.addClick settings p := rfl

@[simp] theorem cluster_addCluster (c c' : PlacedCluster) :
    (c.addCluster c').cluster = c.cluster.addCluster c'.cluster := rfl

/-- `ClusterList.remove`, the clusters carrying their places. -/
def remove (list : List PlacedCluster) (ix : ℕ) : List PlacedCluster :=
  if list.length > 1 then swapRemove list ix else []

theorem remove_eq (list : List PlacedCluster) (ix : ℕ) :
    remove list ix = swapRemove list ix :=
  ite_swapRemove list ix

end PlacedCluster

/-- Every cluster with its place. -/
def placed (list : ClusterList) : List PlacedCluster := list.mapIdx PlacedCluster.mk

inductive ListAccess where
  /-- `get(ix)` while the list has `size` clusters. -/
  | get (ix size : ℕ)
  /-- `*last_cluster`, which is slot `ix`, while the list has `size` clusters. -/
  | target (ix size : ℕ)
  /-- `remove(ix)` while the list has `size` clusters. -/
  | remove (ix size : ℕ)
  deriving Repr, DecidableEq

/-- All indices are below the size, `last_cluster` is the cluster at the index `first`, and removals
are behind it. -/
def ListAccess.Safe (first : Option ℕ) : ListAccess → Prop
  | get ix size => ix < size
  | target ix size => ix < size ∧ first = some ix
  | remove ix size => ix < size ∧ ∃ f, first = some f ∧ f < ix

/-- The variables of the loop. -/
structure MatchState where
  cix : ℕ := 0
  last_cluster : Option ℕ := none
  list : List PlacedCluster
  deriving Repr, DecidableEq

namespace MatchState

def origins (s : MatchState) : List ℕ := s.list.map PlacedCluster.origin

def clusters (s : MatchState) : ClusterList := s.list.map PlacedCluster.cluster

/-- The condition of the loop. -/
def Running (s : MatchState) : Prop := s.cix < s.list.length

instance (s : MatchState) : Decidable s.Running :=
  inferInstanceAs (Decidable (s.cix < s.list.length))

/-- `mOpenClusters->get(cix)`. -/
def get (s : MatchState) (h : s.Running) : PlacedCluster := s.list.get ⟨s.cix, h⟩

end MatchState

section Loop

variable (settings : ClusterSettings) (click : Packet)

/-- The body of the forward loop. -/
def matchBody (s : MatchState) (h : s.Running) : Traced ListAccess MatchState := do
  let cluster ← .record (.get s.cix s.list.length) (s.get h)
  if cluster.cluster.containsClick click then do
    let cluster := cluster.addClick settings click
    let list := s.list.set s.cix cluster
    match s.last_cluster with
    | some l => do
      let list ← .record (.target l list.length) (list.modify l (·.addCluster cluster))
      let list ← .record (.remove s.cix list.length) (PlacedCluster.remove list s.cix)
      pure { cix := s.cix + 1, last_cluster := some l, list := list }
    | none => pure { cix := s.cix + 1, last_cluster := some s.cix, list := list }
  else pure { s with cix := s.cix + 1 }

/-- One more iteration, if the loop has not ended. -/
def matchStep (s : MatchState) : Traced ListAccess MatchState :=
  if h : s.Running then matchBody settings click s h else pure s

/-- The first `n` iterations of the loop over `list`. -/
def matchRun (list : ClusterList) (n : ℕ) : Traced ListAccess MatchState :=
  .iterate (matchStep settings click) n { list := placed list }

end Loop

section Iterations

variable {settings : ClusterSettings} {click : Packet} {s : MatchState}

/-! ## One iteration -/

/-- The list after the click was added at `cix`, and the cluster there was merged into slot `l`. -/
def MatchState.merged (settings : ClusterSettings) (click : Packet) (s : MatchState)
    (h : s.Running) (l : ℕ) : List PlacedCluster :=
  (s.list.set s.cix ((s.get h).addClick settings click)).modify l
    (·.addCluster ((s.get h).addClick settings click))

theorem matchBody_skip (h : s.Running)
    (hc : ¬ (s.get h).cluster.containsClick click = true) :
    matchBody settings click s h =
      ⟨{ s with cix := s.cix + 1 }, [.get s.cix s.list.length]⟩ := by
  unfold matchBody
  simp only [Traced.record, bind, hc]
  rfl

theorem matchBody_first (h : s.Running)
    (hc : (s.get h).cluster.containsClick click = true)
    (hlast : s.last_cluster = none) :
    matchBody settings click s h =
      ⟨{ cix := s.cix + 1
         last_cluster := some s.cix
         list := s.list.set s.cix ((s.get h).addClick settings click) },
        [.get s.cix s.list.length]⟩ := by
  unfold matchBody
  simp only [Traced.record, bind, hc, if_true, hlast]
  rfl

theorem matchBody_again (h : s.Running)
    (hc : (s.get h).cluster.containsClick click = true) {l : ℕ}
    (hlast : s.last_cluster = some l) :
    matchBody settings click s h =
      ⟨{ cix := s.cix + 1
         last_cluster := some l
         list := PlacedCluster.remove (s.merged settings click h l) s.cix },
        [.get s.cix s.list.length, .target l s.list.length, .remove s.cix s.list.length]⟩ := by
  unfold matchBody MatchState.merged
  simp only [Traced.record, bind, hc, if_true, hlast, List.length_modify, List.length_set]
  rfl

theorem matchStep_running (h : s.Running) :
    matchStep settings click s = matchBody settings click s h := dif_pos h

theorem matchStep_ended (h : ¬ s.Running) : matchStep settings click s = pure s := dif_neg h

/-! ## Places -/

theorem origins_placed (list : ClusterList) :
    (placed list).map PlacedCluster.origin = List.range list.length := by
  unfold placed
  apply List.ext_getElem?
  intro i
  rw [List.getElem?_map, List.getElem?_mapIdx, Option.map_map]
  by_cases hi : i < list.length
  · simp [hi]
  · simp [hi]

theorem clusters_placed (list : ClusterList) :
    (placed list).map PlacedCluster.cluster = list := by
  unfold placed
  apply List.ext_getElem?
  intro i
  rw [List.getElem?_map, List.getElem?_mapIdx, Option.map_map]
  exact Option.map_id'

theorem origins_set (h : s.Running) :
    (s.list.set s.cix ((s.get h).addClick settings click)).map PlacedCluster.origin =
      s.origins := by
  have hset : s.list.set s.cix ((s.get h).addClick settings click) =
      s.list.modify s.cix (·.addClick settings click) :=
    set_eq_modify h (·.addClick settings click)
  rw [hset, map_modify_of_eq fun c => c.origin_addClick settings click]
  rfl

theorem origins_merged (h : s.Running) (l : ℕ) :
    (s.merged settings click h l).map PlacedCluster.origin = s.origins := by
  unfold MatchState.merged
  rw [map_modify_of_eq fun c => c.origin_addCluster _, origins_set]

theorem clusters_set (h : s.Running) :
    (s.list.set s.cix ((s.get h).addClick settings click)).map PlacedCluster.cluster =
      s.clusters.set s.cix ((s.get h).cluster.addClick settings click) :=
  List.map_set

theorem clusters_merged (h : s.Running) (l : ℕ) :
    (s.merged settings click h l).map PlacedCluster.cluster =
      (s.clusters.set s.cix ((s.get h).cluster.addClick settings click)).modify l
        (·.addCluster ((s.get h).cluster.addClick settings click)) := by
  have hmod : ∀ (list : List PlacedCluster) (c' : PlacedCluster),
      (list.map PlacedCluster.cluster).modify l (·.addCluster c'.cluster) =
        (list.modify l (·.addCluster c')).map PlacedCluster.cluster :=
    fun list c' => modify_map (fun c => c.cluster_addCluster c') list l
  unfold MatchState.merged
  rw [← hmod, clusters_set, PlacedCluster.cluster_addClick]

theorem clusters_remove (list : List PlacedCluster) (ix : ℕ) :
    (PlacedCluster.remove list ix).map PlacedCluster.cluster =
      ClusterList.remove (list.map PlacedCluster.cluster) ix := by
  rw [PlacedCluster.remove_eq, ClusterList.remove_eq, swapRemove_map]

/-- The iteration does to the clusters what the loop does to them. -/
theorem matchLoop_matchBody (h : s.Running) :
    matchLoop settings click s.cix s.last_cluster s.clusters =
      matchLoop settings click (matchBody settings click s h).value.cix
        (matchBody settings click s h).value.last_cluster
        (matchBody settings click s h).value.clusters := by
  have hlen : s.cix < s.clusters.length := by
    unfold MatchState.clusters
    rw [List.length_map]
    exact h
  have hget : s.clusters[s.cix] = (s.get h).cluster := List.getElem_map _
  by_cases hc : (s.get h).cluster.containsClick click = true
  · cases hlast : s.last_cluster with
    | none =>
      rw [matchLoop, dif_pos hlen, hget, if_pos hc, matchBody_first h hc hlast]
      exact congrArg (matchLoop settings click _ _) (clusters_set h).symm
    | some l =>
      rw [matchLoop, dif_pos hlen, hget, if_pos hc, matchBody_again h hc hlast]
      dsimp only
      rw [← clusters_merged h, ← clusters_remove]
      rfl
  · rw [matchLoop, dif_pos hlen, hget, if_neg hc, matchBody_skip h hc]
    rfl

/-! ## The invariant -/

/-- What holds before every iteration. -/
structure TargetInvariant (click : Packet) (list : ClusterList) (s : MatchState) : Prop where
  target : ∀ l, s.last_cluster = some l ↔
    list.findIdx? (·.containsClick click) = some l ∧ l < s.cix
  unset : s.last_cluster = none → s.list = placed list
  origin : ∀ l, s.last_cluster = some l → s.origins[l]? = some l
  nodup : s.origins.Nodup

variable {list : ClusterList} {l : ℕ}

theorem targetInvariant_placed (click : Packet) (list : ClusterList) :
    TargetInvariant click list { list := placed list } where
  target l := by simp
  unset _ := rfl
  origin l hlast := nomatch hlast
  nodup := by
    unfold MatchState.origins
    rw [origins_placed]
    exact List.nodup_range

namespace TargetInvariant

/-- As long as `last_cluster` is not set, nothing has happened to the cluster at `cix`. -/
theorem getElem?_unset (hinv : TargetInvariant click list s) (h : s.Running)
    (hlast : s.last_cluster = none) : list[s.cix]? = some (s.get h).cluster := by
  rw [← clusters_placed list, ← hinv.unset hlast, List.getElem?_map,
    List.getElem?_eq_getElem h]
  rfl

/-- As long as `last_cluster` is not set, no cluster before `cix` contains the click. -/
theorem le_of_unset (hinv : TargetInvariant click list s) (hlast : s.last_cluster = none) {i : ℕ}
    (hfind : list.findIdx? (·.containsClick click) = some i) : s.cix ≤ i := by
  by_contra hlt
  have htarget := (hinv.target i).mpr ⟨hfind, Nat.not_le.mp hlt⟩
  rw [hlast] at htarget
  cases htarget

/-- The cluster that sets `last_cluster` is the first one containing the click. -/
theorem findIdx?_of_contains (hinv : TargetInvariant click list s) (h : s.Running)
    (hlast : s.last_cluster = none) (hc : (s.get h).cluster.containsClick click = true) :
    list.findIdx? (·.containsClick click) = some s.cix := by
  have hget := hinv.getElem?_unset h hlast
  cases hfind : list.findIdx? (·.containsClick click) with
  | none =>
    have hmem := List.findIdx?_eq_none_iff.mp hfind _ (List.mem_of_getElem? hget)
    exact absurd hc (by simp [hmem])
  | some i =>
    obtain ⟨hi, -, hfirst⟩ := List.findIdx?_eq_some_iff_getElem.mp hfind
    obtain ⟨_, hval⟩ := List.getElem?_eq_some_iff.mp hget
    have hge : ¬ s.cix < i := fun hlt => hfirst s.cix hlt (hval ▸ hc)
    rw [Nat.le_antisymm (Nat.not_lt.mp hge) (hinv.le_of_unset hlast hfind)]

/-- A cluster that does not contain the click is not the first one that does. -/
theorem findIdx?_ne (hinv : TargetInvariant click list s) (h : s.Running)
    (hc : ¬ (s.get h).cluster.containsClick click = true) :
    list.findIdx? (·.containsClick click) ≠ some s.cix := by
  intro hfind
  cases hlast : s.last_cluster with
  | none =>
    obtain ⟨hi, hcontains, -⟩ := List.findIdx?_eq_some_iff_getElem.mp hfind
    obtain ⟨_, hval⟩ := List.getElem?_eq_some_iff.mp (hinv.getElem?_unset h hlast)
    exact hc (hval ▸ hcontains)
  | some l =>
    obtain ⟨hfind', hlt⟩ := (hinv.target l).mp hlast
    rw [hfind] at hfind'
    cases hfind'
    exact absurd hlt (lt_irrefl _)

/-! ### The cases of an iteration -/

theorem skip (hinv : TargetInvariant click list s) (h : s.Running)
    (hc : ¬ (s.get h).cluster.containsClick click = true) :
    TargetInvariant click list { s with cix := s.cix + 1 } where
  target l := by
    rw [hinv.target l]
    constructor
    · rintro ⟨hfind, hlt⟩
      exact ⟨hfind, Nat.lt_succ_of_lt hlt⟩
    · rintro ⟨hfind, hlt⟩
      refine ⟨hfind, lt_of_le_of_ne (Nat.le_of_lt_succ hlt) ?_⟩
      rintro rfl
      exact hinv.findIdx?_ne h hc hfind
  unset := hinv.unset
  origin := hinv.origin
  nodup := hinv.nodup

theorem first (hinv : TargetInvariant click list s) (h : s.Running)
    (hc : (s.get h).cluster.containsClick click = true) (hlast : s.last_cluster = none) :
    TargetInvariant click list
      { cix := s.cix + 1
        last_cluster := some s.cix
        list := s.list.set s.cix ((s.get h).addClick settings click) } where
  target l := by
    rw [hinv.findIdx?_of_contains h hlast hc]
    constructor
    · rintro ⟨⟩
      exact ⟨rfl, Nat.lt_succ_self _⟩
    · exact fun hl => hl.1
  unset hnone := nomatch hnone
  origin l := by
    rintro ⟨⟩
    obtain ⟨hlen, -⟩ := List.getElem?_eq_some_iff.mp (hinv.getElem?_unset h hlast)
    show ((s.list.set s.cix _).map PlacedCluster.origin)[s.cix]? = _
    rw [origins_set h, MatchState.origins, hinv.unset hlast, origins_placed,
      List.getElem?_range hlen]
  nodup := by
    show ((s.list.set s.cix _).map PlacedCluster.origin).Nodup
    rw [origins_set h]
    exact hinv.nodup

theorem again (hinv : TargetInvariant click list s) (h : s.Running)
    (hlast : s.last_cluster = some l) :
    TargetInvariant click list
      { cix := s.cix + 1
        last_cluster := some l
        list := PlacedCluster.remove (s.merged settings click h l) s.cix } := by
  obtain ⟨hfind, hlt⟩ := (hinv.target l).mp hlast
  have hlen : s.cix < s.origins.length := (List.length_map _).symm ▸ h
  have horigins : (PlacedCluster.remove (s.merged settings click h l) s.cix).map
      PlacedCluster.origin = swapRemove s.origins s.cix := by
    rw [PlacedCluster.remove_eq, ← swapRemove_map, origins_merged]
  constructor
  case target =>
    intro l'
    rw [hfind]
    constructor
    · rintro ⟨⟩
      exact ⟨rfl, Nat.lt_succ_of_lt hlt⟩
    · exact fun hl => hl.1
  case unset => exact fun hnone => nomatch hnone
  case origin =>
    -- the removal is behind the target
    rintro l' ⟨⟩
    rw [MatchState.origins, horigins, getElem?_swapRemove_of_lt hlt hlen]
    exact hinv.origin l hlast
  case nodup =>
    rw [MatchState.origins, horigins]
    exact nodup_swapRemove hlen hinv.nodup

/-- The accesses of an iteration are safe. -/
theorem body (hinv : TargetInvariant click list s) (h : s.Running) :
    (matchBody settings click s h).All
        (ListAccess.Safe (list.findIdx? (·.containsClick click))) ∧
      TargetInvariant click list (matchBody settings click s h).value := by
  by_cases hc : (s.get h).cluster.containsClick click = true
  · cases hlast : s.last_cluster with
    | none =>
      rw [matchBody_first h hc hlast]
      exact ⟨List.forall_mem_singleton.mpr h, hinv.first h hc hlast⟩
    | some l =>
      obtain ⟨hfind, hlt⟩ := (hinv.target l).mp hlast
      rw [matchBody_again h hc hlast]
      refine ⟨?_, hinv.again h hlast⟩
      have hcix : s.cix < s.list.length := h
      simp [Traced.All, ListAccess.Safe, hfind, hlt, hcix, hlt.trans hcix]
  · rw [matchBody_skip h hc]
    exact ⟨List.forall_mem_singleton.mpr h, hinv.skip h hc⟩

theorem step (hinv : TargetInvariant click list s) :
    (matchStep settings click s).All
        (ListAccess.Safe (list.findIdx? (·.containsClick click))) ∧
      TargetInvariant click list (matchStep settings click s).value := by
  by_cases h : s.Running
  · rw [matchStep_running h]
    exact hinv.body h
  · rw [matchStep_ended h]
    exact ⟨Traced.all_pure s, hinv⟩

end TargetInvariant

/-- The pointer is set once. -/
theorem last_cluster_matchBody (h : s.Running) (hlast : s.last_cluster = some l) :
    (matchBody settings click s h).value.last_cluster = some l := by
  by_cases hc : (s.get h).cluster.containsClick click = true
  · rw [matchBody_again h hc hlast]
  · rw [matchBody_skip h hc]
    exact hlast

/-! ## The end of the loop -/

/-- The number of clusters at `cix` and behind it decreases, whether one is removed or not. -/
theorem length_sub_matchBody (settings : ClusterSettings) (click : Packet) (h : s.Running) :
    (matchBody settings click s h).value.list.length - (matchBody settings click s h).value.cix <
      s.list.length - s.cix := by
  have hlt : s.cix < s.list.length := h
  by_cases hc : (s.get h).cluster.containsClick click = true
  · cases hlast : s.last_cluster with
    | none =>
      rw [matchBody_first h hc hlast]
      dsimp only
      rw [List.length_set]
      omega
    | some l =>
      have hmerged : (s.merged settings click h l).length = s.list.length := by
        rw [MatchState.merged, List.length_modify, List.length_set]
      rw [matchBody_again h hc hlast]
      dsimp only
      rw [PlacedCluster.remove_eq, length_swapRemove, hmerged]
      omega
  · rw [matchBody_skip h hc]
    dsimp only
    omega

end Iterations

/-! ## Runs -/

section Runs

variable {settings : ClusterSettings} {click : Packet} {list : ClusterList}

theorem matchRun_succ (n : ℕ) : (matchRun settings click list (n + 1)).value =
    (matchStep settings click (matchRun settings click list n).value).value := rfl

theorem invariant_matchRun (n : ℕ) :
    (matchRun settings click list n).All
        (ListAccess.Safe (list.findIdx? (·.containsClick click))) ∧
      TargetInvariant click list (matchRun settings click list n).value :=
  Traced.all_iterate (fun _ hinv => hinv.step) (targetInvariant_placed click list) n

theorem length_sub_matchRun (settings : ClusterSettings) (click : Packet) (list : ClusterList)
    (n : ℕ) : (matchRun settings click list n).value.list.length -
      (matchRun settings click list n).value.cix ≤ list.length - n := by
  induction n with
  | zero =>
    show (placed list).length - 0 ≤ _
    rw [placed, List.length_mapIdx]
  | succ n ih =>
    rw [matchRun_succ]
    by_cases h : (matchRun settings click list n).value.Running
    · rw [matchStep_running h]
      have hlt := length_sub_matchBody settings click h
      omega
    · rw [matchStep_ended h, Traced.value_pure]
      unfold MatchState.Running at h
      omega

/-- The loop has ended after as many iterations as there were clusters. -/
theorem not_running_matchRun {n : ℕ} (hn : list.length ≤ n) :
    ¬ (matchRun settings click list n).value.Running := by
  intro h
  have hle := length_sub_matchRun settings click list n
  unfold MatchState.Running at h
  omega

/-- What is left to do after some iterations is what the loop does. -/
theorem matchLoop_matchRun (n : ℕ) : matchLoop settings click 0 none list =
    matchLoop settings click (matchRun settings click list n).value.cix
      (matchRun settings click list n).value.last_cluster
      (matchRun settings click list n).value.clusters := by
  induction n with
  | zero =>
    show _ = matchLoop settings click 0 none ((placed list).map PlacedCluster.cluster)
    rw [clusters_placed]
  | succ n ih =>
    rw [ih, matchRun_succ]
    by_cases h : (matchRun settings click list n).value.Running
    · rw [matchStep_running h]
      exact matchLoop_matchBody h
    · rw [matchStep_ended h]
      rfl

/-- After its last iteration the loop has its result. -/
theorem matchLoop_eq_matchRun {n : ℕ} (hn : list.length ≤ n) :
    matchLoop settings click 0 none list =
      ((matchRun settings click list n).value.clusters,
        (matchRun settings click list n).value.last_cluster.isSome) := by
  have hend : ¬ (matchRun settings click list n).value.cix <
      (matchRun settings click list n).value.clusters.length := by
    unfold MatchState.clusters
    rw [List.length_map]
    exact not_running_matchRun hn
  rw [matchLoop_matchRun n, matchLoop, dif_neg hend]

theorem last_cluster_matchRun {n m l : ℕ} (hnm : n ≤ m)
    (hlast : (matchRun settings click list n).value.last_cluster = some l) :
    (matchRun settings click list m).value.last_cluster = some l := by
  induction m, hnm using Nat.le_induction with
  | base => exact hlast
  | succ m _ ih =>
    rw [matchRun_succ]
    by_cases h : (matchRun settings click list m).value.Running
    · rw [matchStep_running h]
      exact last_cluster_matchBody h ih
    · rw [matchStep_ended h]
      exact ih

end Runs

/-! ## The main result -/

/-- In the loop over `list`, all accesses are safe, and `last_cluster` designates the first cluster
containing the click from the iteration on in which `cix` comes to it: the cluster stays in its
slot. The loop ends with the result of `matchLoop`. -/
structure TargetStaysPut (settings : ClusterSettings) (click : Packet) (list : ClusterList) :
    Prop where
  safe : ∀ n, (matchRun settings click list n).All
    (ListAccess.Safe (list.findIdx? (·.containsClick click)))
  target : ∀ n l, (matchRun settings click list n).value.last_cluster = some l ↔
    list.findIdx? (·.containsClick click) = some l ∧
      l < (matchRun settings click list n).value.cix
  kept : ∀ n m l, n ≤ m → (matchRun settings click list n).value.last_cluster = some l →
    (matchRun settings click list m).value.last_cluster = some l
  origin : ∀ n l, (matchRun settings click list n).value.last_cluster = some l →
    (matchRun settings click list n).value.origins[l]? = some l
  nodup : ∀ n, (matchRun settings click list n).value.origins.Nodup
  ends : ∀ n, list.length ≤ n → ¬ (matchRun settings click list n).value.Running
  result : ∀ n, list.length ≤ n → matchLoop settings click 0 none list =
    ((matchRun settings click list n).value.clusters,
      (matchRun settings click list n).value.last_cluster.isSome)

theorem target_stays_put (settings : ClusterSettings) (click : Packet) (list : ClusterList) :
    TargetStaysPut settings click list where
  safe n := (invariant_matchRun n).1
  target n := (invariant_matchRun n).2.target
  kept _ _ _ hnm hlast := last_cluster_matchRun hnm hlast
  origin n := (invariant_matchRun n).2.origin
  nodup n := (invariant_matchRun n).2.nodup
  ends _ hn := not_running_matchRun hn
  result _ hn := matchLoop_eq_matchRun hn

end TpxServer.Clustering
