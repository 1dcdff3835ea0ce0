import TpxServer.Clustering.Construction
import TpxServer.Clustering.Manager

/-!
# Where the clusters of a run come from

The run of the manager on constructions instead of clusters: an entry of the list is not a cluster
but the way it was built, so it still has the clicks merged into it and the sums that were divided
by. What is built from the constructions are the clusters of the manager (`records_run`).
-/

namespace TpxServer.Clustering

open SwapRemove

namespace Construction

section Operations

variable (settings : ClusterSettings) (click : Packet)

def containsClick (k : Construction) : Bool := (k.build settings).containsClick click

def isStale (k : Construction) : Bool := (k.build settings).isStale settings click

/-- The click is added to the open clusters. -/
def addToClusters (list : List Construction) : List Construction :=
  gather (containsClick settings click) (·.addClick click) addCluster (ofPacket click) list

/-- The clusters that stay open, and those that are closed. -/
def handleClick (list : List Construction) : List Construction × List Construction :=
  let list := addToClusters settings click list
  sweep (isStale settings click) list.length list

end Operations

def handleClicks (settings : ClusterSettings) :
    List Construction → List Packet → List Construction × List Construction
  | list, [] => (list, [])
  | list, click :: clicks =>
    let r := handleClick settings click list
    let r' := handleClicks settings r.1 clicks
    (r'.1, r.2 ++ r'.2)

variable (settings : ClusterSettings)

/-- Built, the constructions are what the manager has. -/
theorem handleClick_build (click : Packet) (list : List Construction) :
    Clustering.handleClick settings click (list.map (build settings)) =
      ((handleClick settings click list).1.map (build settings),
        (handleClick settings click list).2.map (build settings)) :=
  handleClick_map (build settings) (ofPacket click) (fun _ => rfl) (fun _ _ => rfl) rfl list

theorem handleClicks_build (clicks : List Packet) : ∀ list : List Construction,
    Clustering.handleClicks settings (list.map (build settings)) clicks =
      ((handleClicks settings list clicks).1.map (build settings),
        (handleClicks settings list clicks).2.map (build settings)) := by
  induction clicks with
  | nil => exact fun list => rfl
  | cons click clicks ih =>
    intro list
    rw [Clustering.handleClicks, handleClick_build, handleClicks, ih, List.map_append]

/-- A click makes one construction of those it reaches, and leaves the others alone. -/
theorem exists_handleClick (click : Packet) (list : List Construction) :
    ∃ kept, (reached (containsClick settings click) list ++ kept).Perm list ∧
      ((handleClick settings click list).1 ++ (handleClick settings click list).2).Perm
        (gathered (·.addClick click) addCluster (ofPacket click)
          (reached (containsClick settings click) list) :: kept) := by
  obtain ⟨kept, h⟩ := exists_gathers_reached (containsClick settings click) (·.addClick click)
    addCluster (ofPacket click) list
  exact ⟨kept, h.before, (List.perm_append_comm.trans (sweep_perm _)).trans h.after⟩

section Preserved

variable {P : Construction → Prop} (hmerge : ∀ k k', P k → P k' → P (k.addCluster k'))
include hmerge

theorem all_handleClick {click : Packet} (hnew : P (ofPacket click))
    (hadd : ∀ k, P k → P (k.addClick click)) {list : List Construction} (h : ∀ k ∈ list, P k) :
    ∀ k ∈ (handleClick settings click list).1 ++ (handleClick settings click list).2, P k := by
  obtain ⟨kept, hbefore, hafter⟩ := exists_handleClick settings click list
  intro k hk
  rcases List.mem_cons.mp (hafter.subset hk) with rfl | hk
  · exact gathered_all hmerge hnew fun k hk =>
      hadd k (h k (hbefore.subset (List.mem_append_left kept hk)))
  · exact h k (hbefore.subset (List.mem_append_right _ hk))

/-- What the operations preserve at each click, all constructions have. -/
theorem all_handleClicks (clicks : List Packet) (hnew : ∀ p ∈ clicks, P (ofPacket p))
    (hadd : ∀ p ∈ clicks, ∀ k, P k → P (k.addClick p)) :
    ∀ {list : List Construction}, (∀ k ∈ list, P k) →
      ∀ k ∈ (handleClicks settings list clicks).1 ++
        (handleClicks settings list clicks).2, P k := by
  induction clicks with
  | nil =>
    intro list h k hk
    exact h k (by simpa [handleClicks] using hk)
  | cons click clicks ih =>
    intro list h
    rw [List.forall_mem_cons] at hnew hadd
    have hclick := all_handleClick settings hmerge hnew.1 hadd.1 h
    have hopens := fun k hk => hclick k (List.mem_append_left _ hk)
    intro k hk
    rw [handleClicks, List.mem_append, List.mem_append, or_left_comm, ← List.mem_append] at hk
    rcases hk with hk | hk
    · exact hclick k (List.mem_append_right _ hk)
    · exact ih hnew.2 hadd.2 hopens k hk

end Preserved

end Construction

/-! ## Runs -/

/-- The constructions of the open and of the emitted clusters. -/
structure History where
  opens : List Construction := []
  emitted : List Construction := []
  deriving Repr, DecidableEq

namespace History

def call (settings : ClusterSettings) (h : History) : ClusteringManager.Call → History
  | .handlePackets data =>
    let r := Construction.handleClicks settings h.opens (data.map Packet.mk)
    { opens := r.1, emitted := h.emitted ++ r.2 }
  | .flush => { opens := [], emitted := h.emitted ++ h.opens }

def run (settings : ClusterSettings) (h : History) (calls : List ClusteringManager.Call) :
    History := calls.foldl (call settings) h

end History

/-- The clicks handled by a call. -/
def ClusteringManager.Call.clicks : ClusteringManager.Call → List Packet
  | .handlePackets data => data.map Packet.mk
  | .flush => []

/-- The history has the open and the emitted clusters of the manager, which published the words of
the latter. -/
structure Records (settings : ClusterSettings) (h : History) (m : ClusteringManager) : Prop where
  settings_eq : m.settings = settings
  opens : m.mOpenClusters = h.opens.map (Construction.build settings)
  emitted : m.emitted = h.emitted.map (Construction.build settings)
  published : m.published.flatten = m.emitted.map Cluster.toRawValue

section Runs

variable {settings : ClusterSettings} {h : History} {m : ClusteringManager}

theorem Records.call (hr : Records settings h m) (c : ClusteringManager.Call) :
    Records settings (h.call settings c) (m.call c) := by
  obtain ⟨hsettings, hopens, hemitted, hpublished⟩ := hr
  cases c with
  | handlePackets data =>
    have hclicks := Construction.handleClicks_build settings (data.map Packet.mk) h.opens
    obtain ⟨hs', hopens', hemitted'⟩ := handlePackets_eq m data
    have hpublished' := published_handlePackets m data
    rw [hsettings, hopens, hclicks] at hopens' hemitted' hpublished'
    refine ⟨hs'.trans hsettings, hopens', ?_, ?_⟩
    · show (m.handlePackets data).emitted = (h.emitted ++ _).map _
      rw [hemitted', hemitted, List.map_append]
    · show (m.handlePackets data).published.flatten = (m.handlePackets data).emitted.map _
      rw [hpublished', hemitted', List.flatten_append, hpublished, List.map_append]
      simp
  | flush =>
    refine ⟨hsettings, rfl, ?_, ?_⟩
    · show m.emitted ++ m.mOpenClusters = (h.emitted ++ h.opens).map _
      rw [hemitted, hopens, List.map_append]
    · show (m.published ++ [_]).flatten = (m.emitted ++ m.mOpenClusters).map _
      rw [List.flatten_append, hpublished, List.map_append]
      simp

/-- The history of a run. -/
theorem Records.run (hr : Records settings h m) (calls : List ClusteringManager.Call) :
    Records settings (h.run settings calls) (m.run calls) := by
  induction calls generalizing h m with
  | nil => exact hr
  | cons c calls ih => exact ih (hr.call c)

theorem records_start (settings : ClusterSettings) :
    Records settings {} ({ settings := settings } : ClusteringManager) := ⟨rfl, rfl, rfl, rfl⟩

theorem all_history_call {P : Construction → Prop}
    (hmerge : ∀ k k', P k → P k' → P (k.addCluster k')) {c : ClusteringManager.Call}
    (hnew : ∀ p ∈ c.clicks, P (.ofPacket p)) (hadd : ∀ p ∈ c.clicks, ∀ k, P k → P (k.addClick p))
    (hall : ∀ k ∈ h.opens ++ h.emitted, P k) :
    ∀ k ∈ (h.call settings c).opens ++ (h.call settings c).emitted, P k := by
  cases c with
  | handlePackets data =>
    have hclicks := Construction.all_handleClicks settings hmerge _ hnew hadd
      fun k hk => hall k (List.mem_append_left _ hk)
    intro k hk
    rw [History.call, List.mem_append, List.mem_append, or_left_comm, ← List.mem_append] at hk
    rcases hk with hk | hk
    · exact hall k (List.mem_append_right _ hk)
    · exact hclicks k hk
  | flush =>
    intro k hk
    exact hall k (List.perm_append_comm.subset (by simpa [History.call] using hk))

/-- What the operations preserve at each click of the run, all its constructions have. -/
theorem all_history_run {P : Construction → Prop}
    (hmerge : ∀ k k', P k → P k' → P (k.addCluster k')) {calls : List ClusteringManager.Call}
    (hnew : ∀ p ∈ calls.flatMap ClusteringManager.Call.clicks, P (.ofPacket p))
    (hadd : ∀ p ∈ calls.flatMap ClusteringManager.Call.clicks, ∀ k, P k → P (k.addClick p))
    (hall : ∀ k ∈ h.opens ++ h.emitted, P k) :
    ∀ k ∈ (h.run settings calls).opens ++ (h.run settings calls).emitted, P k := by
  induction calls generalizing h with
  | nil => exact hall
  | cons c calls ih =>
    rw [List.flatMap_cons] at hnew hadd
    refine ih (fun p hp => hnew p (List.mem_append_right _ hp))
      (fun p hp => hadd p (List.mem_append_right _ hp)) ?_
    exact all_history_call hmerge (fun p hp => hnew p (List.mem_append_left _ hp))
      (fun p hp => hadd p (List.mem_append_left _ hp)) hall

end Runs

end TpxServer.Clustering
