import TpxServer.Clustering.Cluster
import TpxServer.Lib.Gather
import TpxServer.Lib.Runs

/-!
# The clustering manager

`handlePackets` takes the clicks of a message one by one. `matchLoop` walks over the open clusters,
adds the click to every cluster it meets whose box contains it, and merges the later ones into the
first one; a click that was not added anywhere opens a new cluster. `sweepLoop` then walks backward
and closes the clusters that the time of the click has left behind.

The open clusters are stored without order. What one click does to them is described by `Matched`
(the forward loop gathers clusters, the backward loop is a sweep).
-/

namespace TpxServer.Clustering

open SwapRemove

/-! ## Open clusters -/

abbrev ClusterList := List Cluster

namespace ClusterList

def add (list : ClusterList) (c : Cluster) : ClusterList := list ++ [c]

/-- `std::iter_swap` with the last element, then `pop_back`. -/
def remove (list : ClusterList) (ix : ℕ) : ClusterList :=
  if list.length > 1 then swapRemove list ix else []

theorem remove_eq (list : ClusterList) (ix : ℕ) : list.remove ix = swapRemove list ix :=
  ite_swapRemove list ix

theorem length_remove (list : ClusterList) (ix : ℕ) :
    (list.remove ix).length = list.length - 1 := by
  rw [remove_eq]
  exact length_swapRemove list ix

end ClusterList

/-! ## One click -/

section Loops

variable (settings : ClusterSettings) (click : Packet)

/-- The forward loop from index `cix` on, `last` being the index `last_cluster` points to: the open
clusters after the loop, and `in_cluster`. -/
def matchLoop (cix : ℕ) (last : Option ℕ) (list : ClusterList) : ClusterList × Bool :=
  if h : cix < list.length then
    if list[cix].containsClick click then
      let cluster := list[cix].addClick settings click
      match last with
      | some l =>
        let merged : ClusterList := (list.set cix cluster).modify l (·.addCluster cluster)
        matchLoop (cix + 1) (some l) (merged.remove cix)
      | none => matchLoop (cix + 1) (some cix) (list.set cix cluster)
    else matchLoop (cix + 1) last list
  else (list, last.isSome)
termination_by list.length - cix
decreasing_by
  · have hlen : ((list.set cix (list[cix].addClick settings click)).modify l
        (·.addCluster (list[cix].addClick settings click))).length = list.length := by simp
    rw [ClusterList.length_remove, hlen]
    omega
  · rw [List.length_set]
    omega
  · omega

/-- The open clusters after the click was added to them. -/
def addToClusters (list : ClusterList) : ClusterList :=
  let r := matchLoop settings click 0 none list
  if r.2 then r.1 else r.1.add (Cluster.ofPacket settings click)

/-- The backward loop from index `n - 1` on: the clusters that stay open, and the clusters whose
raw values are pushed to `output`. -/
def sweepLoop : ℕ → ClusterList → ClusterList × List Cluster
  | 0, list => (list, [])
  | cix + 1, list =>
    match list[cix]? with
    | some cluster =>
      if cluster.isStale settings click then
        let r := sweepLoop cix (list.remove cix)
        (r.1, cluster :: r.2)
      else sweepLoop cix list
    | none => sweepLoop cix list

/-- The body of the loop over the clicks. -/
def handleClick (list : ClusterList) : ClusterList × List Cluster :=
  let list := addToClusters settings click list
  sweepLoop settings click list.length list

end Loops

/-- The loop over the clicks: the open clusters after it, and the clusters closed by it. -/
def handleClicks (settings : ClusterSettings) :
    ClusterList → List Packet → ClusterList × List Cluster
  | list, [] => (list, [])
  | list, click :: clicks =>
    let r := handleClick settings click list
    let r' := handleClicks settings r.1 clicks
    (r'.1, r.2 ++ r'.2)

/-! ## The manager -/

/-- `settings` is `Cluster::settings`. `mFile` is `some bytes` while a file is open. `emitted` is
not part of the program: it keeps the clusters behind the published words. -/
structure ClusteringManager where
  settings : ClusterSettings := {}
  mOpenClusters : ClusterList := []
  mFile : Option (List Byte) := none
  published : List (List Word) := []
  signals : List Signal := []
  emitted : List Cluster := []
  deriving Repr, DecidableEq

namespace ClusteringManager

def setClusterParameters (m : ClusteringManager) (max_sep_xy max_sep_t max_t_sep : BitVec 32) :
    ClusteringManager :=
  { m with
    settings :=
      { xy_sep := max_sep_xy.toInt
        t_sep := max_sep_t.toInt
        -- a negative `int` wraps when it is stored as `size_t`
        max_t_separation := (max_t_sep.toInt % 2 ^ 64).toNat } }

/-- `opened` tells whether the operating system opens the file. -/
def setSaveFile (m : ClusteringManager) (path : String) (opened : Bool) :
    ClusteringManager × Bool :=
  let m := { m with mFile := none }
  if path.isEmpty then (m, true)
  else if opened then
    ({ m with
        mFile := some [0x43, 0x4C, 0x55, 0x53, 0x54, 0x45, 0x52, 0x53] -- "CLUSTERS"
        signals := m.signals ++ [.log ("Saving clusters to " ++ path)] }, true)
  else (m, false)

/-- `mFile.write(bytes)`; lost while no file is open. -/
def write (m : ClusteringManager) (bytes : List Byte) : ClusteringManager :=
  { m with mFile := m.mFile.map (· ++ bytes) }

/-- Finishes all open clusters. -/
def flush (m : ClusteringManager) : ClusteringManager :=
  { m with
    mOpenClusters := []
    published := m.published ++ [m.mOpenClusters.map Cluster.toRawValue]
    emitted := m.emitted ++ m.mOpenClusters }

def handlePackets (m : ClusteringManager) (data : List Word) : ClusteringManager :=
  let r := handleClicks m.settings m.mOpenClusters (data.map Packet.mk)
  let output := r.2.map Cluster.toRawValue
  let m := { m with mOpenClusters := r.1, emitted := m.emitted ++ r.2 }
  let m :=
    if output ≠ [] then m.write (output.flatMap fun cluster => storeLE 8 (Io.htonll cluster)) else m
  { m with published := m.published ++ [output] }

def handleAll (m : ClusteringManager) (msgs : List (List Word)) : ClusteringManager :=
  msgs.foldl handlePackets m

/-- What makes the manager change its open clusters. -/
inductive Call where
  | handlePackets (data : List Word)
  | flush
  deriving Repr, DecidableEq

def call (m : ClusteringManager) : Call → ClusteringManager
  | .handlePackets data => m.handlePackets data
  | .flush => m.flush

def run (m : ClusteringManager) (calls : List Call) : ClusteringManager := calls.foldl call m

/-- A call as a step. -/
def step (m : ClusteringManager) (c : Call) : Option ClusteringManager := some (m.call c)

theorem eachStep_cons (C : ClusteringManager → Call → Prop) (m : ClusteringManager) (c : Call)
    (calls : List Call) : Runs.EachStep step C m (c :: calls) ↔
      C m c ∧ Runs.EachStep step C (m.call c) calls := by
  simp [Runs.EachStep, step]

end ClusteringManager

/-- The clicks of a sequence of messages. -/
def clicksOf (msgs : List (List Word)) : List Packet := msgs.flatten.map Packet.mk

theorem handleClicks_append (settings : ClusterSettings) (list : ClusterList)
    (clicks clicks' : List Packet) :
    handleClicks settings list (clicks ++ clicks') =
      ((handleClicks settings (handleClicks settings list clicks).1 clicks').1,
        (handleClicks settings list clicks).2 ++
          (handleClicks settings (handleClicks settings list clicks).1 clicks').2) := by
  induction clicks generalizing list with
  | nil => rfl
  | cons click clicks ih =>
    rw [List.cons_append, handleClicks, handleClicks, ih, List.append_assoc]

theorem handlePackets_eq (m : ClusteringManager) (data : List Word) :
    (m.handlePackets data).settings = m.settings ∧
    (m.handlePackets data).mOpenClusters =
      (handleClicks m.settings m.mOpenClusters (data.map Packet.mk)).1 ∧
    (m.handlePackets data).emitted =
      m.emitted ++ (handleClicks m.settings m.mOpenClusters (data.map Packet.mk)).2 := by
  unfold ClusteringManager.handlePackets
  by_cases h : (handleClicks m.settings m.mOpenClusters (data.map Packet.mk)).2.map
      Cluster.toRawValue ≠ []
  · dsimp only
    rw [if_pos h]
    exact ⟨rfl, rfl, rfl⟩
  · dsimp only
    rw [if_neg h]
    exact ⟨rfl, rfl, rfl⟩

theorem published_handlePackets (m : ClusteringManager) (data : List Word) :
    (m.handlePackets data).published = m.published ++
      [(handleClicks m.settings m.mOpenClusters (data.map Packet.mk)).2.map
        Cluster.toRawValue] := by
  unfold ClusteringManager.handlePackets
  dsimp only
  split_ifs
  · rfl
  · rfl

/-- How the clicks are split over messages does not matter. -/
theorem handleAll_eq (m : ClusteringManager) (msgs : List (List Word)) :
    (m.handleAll msgs).settings = m.settings ∧
    (m.handleAll msgs).mOpenClusters =
      (handleClicks m.settings m.mOpenClusters (clicksOf msgs)).1 ∧
    (m.handleAll msgs).emitted =
      m.emitted ++ (handleClicks m.settings m.mOpenClusters (clicksOf msgs)).2 := by
  induction msgs generalizing m with
  | nil => exact ⟨rfl, rfl, (List.append_nil _).symm⟩
  | cons data msgs ih =>
    obtain ⟨hsettings, hopen, hemitted⟩ := handlePackets_eq m data
    obtain ⟨h1, h2, h3⟩ := ih (m.handlePackets data)
    rw [hsettings] at h1 h2 h3
    rw [hopen] at h2 h3
    rw [hemitted, List.append_assoc] at h3
    unfold clicksOf at h2 h3 ⊢
    rw [List.flatten_cons, List.map_append, handleClicks_append]
    exact ⟨h1, h2, h3⟩

/-! ## The loops as traversals -/

section Traversals

variable {settings : ClusterSettings} {click : Packet}

theorem sweepLoop_eq (n : ℕ) : ∀ list : ClusterList,
    sweepLoop settings click n list = sweep (Cluster.isStale settings click) n list := by
  induction n with
  | zero => intro list; rfl
  | succ n ih =>
    intro list
    rw [sweepLoop, sweep]
    cases list[n]? with
    | none => exact ih list
    | some cluster =>
      simp only [ih, ClusterList.remove_eq]

/-- The forward loop gathers the clusters that contain the click. -/
theorem matchLoop_eq (cix : ℕ) (last : Option ℕ) (list : ClusterList) :
    matchLoop settings click cix last list =
      gatherLoop (·.containsClick click) (·.addClick settings click) Cluster.addCluster cix last
        list := by
  fun_induction matchLoop settings click cix last list with
  | case1 cix list h hc cluster l merged ih =>
    rw [gatherLoop, dif_pos h, if_pos hc, ih, ClusterList.remove_eq]
  | case2 cix list h hc cluster ih =>
    rw [gatherLoop, dif_pos h, if_pos hc]
    exact ih
  | case3 cix last list h hc ih =>
    rw [gatherLoop, dif_pos h, if_neg hc]
    exact ih
  | case4 cix last list h => rw [gatherLoop_end (Nat.not_lt.mp h)]

theorem addToClusters_eq (list : ClusterList) :
    addToClusters settings click list =
      gather (·.containsClick click) (·.addClick settings click) Cluster.addCluster
        (Cluster.ofPacket settings click) list := by
  unfold addToClusters gather
  rw [matchLoop_eq]
  rfl

/-- The click merged with the clusters it was added to, in the order of the loop. -/
def mergeClusters (settings : ClusterSettings) (click : Packet) : List Cluster → Cluster
  | [] => Cluster.ofPacket settings click
  | c :: cs =>
    cs.foldl (fun m c' => m.addCluster (c'.addClick settings click)) (c.addClick settings click)

theorem mergeClusters_eq (taken : List Cluster) :
    mergeClusters settings click taken =
      gathered (·.addClick settings click) Cluster.addCluster (Cluster.ofPacket settings click)
        taken := by
  cases taken with
  | nil => rfl
  | cons c cs => rfl

end Traversals

/-! ## What a click does to the open clusters -/

/-- The forward loop over `list` adds the click to the clusters `taken`, which become one cluster,
and leaves the clusters `kept` alone. -/
structure Matched (settings : ClusterSettings) (click : Packet)
    (list list' taken kept : ClusterList) : Prop where
  after : list'.Perm (mergeClusters settings click taken :: kept)
  before : (taken ++ kept).Perm list
  contains : ∀ c ∈ taken, c.containsClick click = true
  eq_nil_iff : taken = [] ↔ list.countP (·.containsClick click) = 0
  length_le_one_iff : taken.length ≤ 1 ↔ list.countP (·.containsClick click) ≤ 1
  complete_iff : kept.countP (·.containsClick click) = 0 ↔
    list.countP (·.containsClick click) ≤ trailing (·.containsClick click) list + 2

/-- The clusters the click is added to are those the loop reaches. -/
theorem exists_matched_reached (settings : ClusterSettings) (click : Packet) (list : ClusterList) :
    ∃ kept, Matched settings click list (addToClusters settings click list)
      (reached (·.containsClick click) list) kept := by
  obtain ⟨kept, h⟩ := exists_gathers_reached (·.containsClick click) (·.addClick settings click)
    Cluster.addCluster (Cluster.ofPacket settings click) list
  rw [← addToClusters_eq] at h
  refine ⟨kept, ?_, h.before, h.holds, h.eq_nil_iff, h.length_le_one_iff, h.complete_iff⟩
  rw [mergeClusters_eq]
  exact h.after

theorem exists_matched (settings : ClusterSettings) (click : Packet) (list : ClusterList) :
    ∃ taken kept, Matched settings click list (addToClusters settings click list) taken kept :=
  ⟨reached (·.containsClick click) list, exists_matched_reached settings click list⟩

/-- The backward loop closes the stale clusters and keeps the others. -/
theorem handleClick_spec (settings : ClusterSettings) (click : Packet) (list : ClusterList) :
    (handleClick settings click list).2.Perm
        ((addToClusters settings click list).filter (Cluster.isStale settings click)) ∧
      (handleClick settings click list).1.Perm
        ((addToClusters settings click list).filter fun c => !c.isStale settings click) := by
  unfold handleClick
  rw [sweepLoop_eq]
  obtain ⟨htaken, hkept⟩ :=
    sweep_spec (p := Cluster.isStale settings click) (addToClusters settings click list)
  exact ⟨htaken ▸ List.reverse_perm _, hkept⟩

theorem handleClick_perm (settings : ClusterSettings) (click : Packet) (list : ClusterList) :
    ((handleClick settings click list).1 ++ (handleClick settings click list).2).Perm
      (addToClusters settings click list) := by
  unfold handleClick
  rw [sweepLoop_eq]
  exact List.perm_append_comm.trans (sweep_perm _)

/-- Elements that carry more than a cluster are handled like their clusters. -/
theorem handleClick_map {α : Type*} {settings : ClusterSettings} {click : Packet} (f : α → Cluster)
    {add : α → α} {merge : α → α → α} (new : α)
    (hadd : ∀ a, f (add a) = (f a).addClick settings click)
    (hmerge : ∀ a b, f (merge a b) = (f a).addCluster (f b))
    (hnew : f new = Cluster.ofPacket settings click) (list : List α) :
    handleClick settings click (list.map f) =
      let list := gather (fun a => (f a).containsClick click) add merge new list
      let r := sweep (fun a => (f a).isStale settings click) list.length list
      (r.1.map f, r.2.map f) := by
  have hgather : addToClusters settings click (list.map f) =
      (gather (fun a => (f a).containsClick click) add merge new list).map f := by
    rw [addToClusters_eq, ← hnew]
    exact gather_map (fun _ => rfl) hadd hmerge new list
  unfold handleClick
  rw [sweepLoop_eq, hgather, List.length_map]
  exact sweep_map (fun _ => rfl) _ _

/-! ## Properties of clusters -/

section Properties

variable {settings : ClusterSettings} {P : Cluster → Prop}
  (hnew : ∀ p, P (Cluster.ofPacket settings p)) (hmerge : ∀ c c', P c → P c' → P (c.addCluster c'))
include hnew hmerge

/-- What merging preserves, the merger of a click with clusters has. -/
theorem mergeClusters_all (click : Packet) {taken : List Cluster} (h : ∀ c ∈ taken, P c) :
    P (mergeClusters settings click taken) := by
  rw [mergeClusters_eq]
  exact gathered_all hmerge (hnew click) fun c hc =>
    hmerge c (Cluster.ofPacket settings click) (h c hc) (hnew click)

theorem all_addToClusters (click : Packet) {list : ClusterList} (h : ∀ c ∈ list, P c) :
    ∀ c ∈ addToClusters settings click list, P c := by
  obtain ⟨taken, kept, hm⟩ := exists_matched settings click list
  intro c hc
  rcases List.mem_cons.mp (hm.after.subset hc) with rfl | hkept
  · exact mergeClusters_all hnew hmerge click fun d hd =>
      h d (hm.before.subset (List.mem_append_left kept hd))
  · exact h c (hm.before.subset (List.mem_append_right taken hkept))

theorem all_handleClicks (clicks : List Packet) : ∀ {list : ClusterList}, (∀ c ∈ list, P c) →
    ∀ c ∈ (handleClicks settings list clicks).1, P c := by
  induction clicks with
  | nil => exact fun h => h
  | cons click clicks ih =>
    intro list h
    refine ih fun c hc => ?_
    exact all_addToClusters hnew hmerge click h c
      ((handleClick_perm settings click list).subset (List.mem_append_left _ hc))

end Properties

/-! ## Runs -/

theorem settings_call (m : ClusteringManager) (c : ClusteringManager.Call) :
    (m.call c).settings = m.settings := by
  cases c with
  | handlePackets data => exact (handlePackets_eq m data).1
  | flush => rfl

theorem settings_run (m : ClusteringManager) (calls : List ClusteringManager.Call) :
    (m.run calls).settings = m.settings := by
  induction calls generalizing m with
  | nil => rfl
  | cons c calls ih => exact (ih (m.call c)).trans (settings_call m c)

section Runs

variable {P : Cluster → Prop} (hmerge : ∀ c c', P c → P c' → P (c.addCluster c'))
include hmerge

theorem all_call {m : ClusteringManager} (hnew : ∀ p, P (Cluster.ofPacket m.settings p))
    (h : ∀ c ∈ m.mOpenClusters, P c) (c : ClusteringManager.Call) :
    ∀ c' ∈ (m.call c).mOpenClusters, P c' := by
  cases c with
  | handlePackets data =>
    show ∀ c' ∈ (m.handlePackets data).mOpenClusters, P c'
    rw [(handlePackets_eq m data).2.1]
    exact all_handleClicks hnew hmerge _ h
  | flush => exact fun c hc => absurd hc List.not_mem_nil

/-- What the cluster of a click has, and merging preserves, all open clusters have. -/
theorem all_run {m : ClusteringManager} (hnew : ∀ p, P (Cluster.ofPacket m.settings p))
    (h : ∀ c ∈ m.mOpenClusters, P c) (calls : List ClusteringManager.Call) :
    ∀ c ∈ (m.run calls).mOpenClusters, P c := by
  induction calls generalizing m with
  | nil => exact h
  | cons c calls ih =>
    refine ih (fun p => ?_) (all_call hmerge hnew h c)
    rw [settings_call m c]
    exact hnew p

end Runs

end TpxServer.Clustering
