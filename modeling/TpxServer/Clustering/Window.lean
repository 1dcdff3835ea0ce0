import TpxServer.Clustering.Merging

/-!
# Closing early

The sweep closes a cluster as soon as a click is later than its box by more than `max_t_separation`.
If no click is earlier than the latest one before it by more than that, no later click can lie in
the box: the cluster was not closed too early.
-/

namespace TpxServer.Clustering

/-- Every click is at most `max_t_separation` earlier than the latest one so far, `latest`. -/
def InWindow (settings : ClusterSettings) : ℤ → List Packet → Prop
  | _, [] => True
  | latest, p :: ps =>
    latest - settings.max_t_separation ≤ p.t ∧ InWindow settings (max latest p.t) ps

instance decInWindow (settings : ClusterSettings) :
    ∀ latest ps, Decidable (InWindow settings latest ps)
  | _, [] => inferInstanceAs (Decidable True)
  | latest, p :: ps =>
    have := decInWindow settings (max latest p.t) ps
    inferInstanceAs (Decidable (_ ∧ _))

/-- The sweep at a click closes the cluster. -/
def ClosedAt (settings : ClusterSettings) (before : List Packet) (click : Packet) (c : Cluster) :
    Prop :=
  c ∈ (handleClick settings click (handleClicks settings [] before).1).2

/-- All clicks are in the window of an earlier one. -/
theorem InWindow.le {settings : ClusterSettings} {clicks : List Packet} :
    ∀ {latest : ℤ}, InWindow settings latest clicks →
      ∀ p ∈ clicks, latest - settings.max_t_separation ≤ p.t := by
  induction clicks with
  | nil => exact fun _ p hp => absurd hp List.not_mem_nil
  | cons q clicks ih =>
    intro latest h p hp
    rcases List.mem_cons.mp hp with rfl | hp
    · exact h.1
    · have hle := ih h.2 p hp
      have hmax := le_max_left latest q.t
      omega

theorem InWindow.later {settings : ClusterSettings} {before after : List Packet} {click : Packet} :
    ∀ {latest : ℤ}, InWindow settings latest (before ++ click :: after) →
      ∀ p ∈ after, click.t - settings.max_t_separation ≤ p.t := by
  induction before with
  | nil =>
    intro latest h p hp
    have hle := h.2.le p hp
    have hmax := le_max_right latest click.t
    omega
  | cons q before ih => exact fun h => ih h.2

section Closed

variable {settings : ClusterSettings}

/-- The emitted clusters are those closed by the sweeps. -/
theorem mem_handleClicks_iff {clicks : List Packet} {c : Cluster} : ∀ {list : ClusterList},
    c ∈ (handleClicks settings list clicks).2 ↔ ∃ before click after,
      clicks = before ++ click :: after ∧
        c ∈ (handleClick settings click (handleClicks settings list before).1).2 := by
  induction clicks with
  | nil => simp [handleClicks]
  | cons p clicks ih =>
    intro list
    show c ∈ (handleClick settings p list).2 ++
      (handleClicks settings (handleClick settings p list).1 clicks).2 ↔ _
    rw [List.mem_append, ih]
    constructor
    · rintro (h | ⟨before, click, after, rfl, h⟩)
      · exact ⟨[], p, clicks, rfl, h⟩
      · exact ⟨p :: before, click, after, rfl, h⟩
    · rintro ⟨_ | ⟨q, before⟩, click, after, heq, h⟩
      · cases heq
        exact Or.inl h
      · cases heq
        exact Or.inr ⟨before, click, after, rfl, h⟩

/-- The box of a closed cluster ends more than the window before the click that closed it. -/
theorem ClosedAt.tmax_lt (hs : settings.NonNegative) {before : List Packet} {click : Packet}
    {c : Cluster} (h : ClosedAt settings before click c) :
    c.tmax + settings.max_t_separation < click.t := by
  have hmem := (handleClick_spec settings click _).1.subset h
  rw [List.mem_filter] at hmem
  obtain ⟨hopen, hstale⟩ := hmem
  have hbounded := bounded_addToClusters hs click
    (bounded_handleClicks hs before fun c hc => absurd hc List.not_mem_nil) c hopen
  have hnonneg : ∀ c ∈ addToClusters settings click (handleClicks settings [] before).1,
      0 ≤ c.tmax := by
    have hnew : ∀ p, 0 ≤ (Cluster.ofPacket settings p).tmax := fun p =>
      add_nonneg p.t_nonneg hs.t_sep_nonneg
    have hmerge : ∀ c c' : Cluster, 0 ≤ c.tmax → 0 ≤ c'.tmax → 0 ≤ (c.addCluster c').tmax :=
      fun c c' h _ => le_max_of_le_left h
    exact all_addToClusters hnew hmerge click
      (all_handleClicks hnew hmerge before fun c hc => absurd hc List.not_mem_nil)
  exact (Cluster.isStale_iff hs (hnonneg c hopen) hbounded).mp hstale

end Closed

/-- **Early closing.** Every emitted cluster was closed by the sweep at some click, and if the
clicks keep within the window, no click after that lies in its box. -/
theorem closed_not_split (settings : ClusterSettings) (hs : settings.NonNegative)
    (msgs : List (List Word)) (hwindow : InWindow settings 0 (clicksOf msgs)) :
    (∀ c ∈ (({ settings := settings } : ClusteringManager).handleAll msgs).emitted,
      ∃ before click after, clicksOf msgs = before ++ click :: after ∧
        ClosedAt settings before click c) ∧
    ∀ before click after c, clicksOf msgs = before ++ click :: after →
      ClosedAt settings before click c → ∀ later ∈ after, ¬ c.Contains later := by
  constructor
  · obtain ⟨-, -, hemitted⟩ := handleAll_eq ({ settings := settings } : ClusteringManager) msgs
    intro c hc
    rw [hemitted, List.nil_append] at hc
    exact mem_handleClicks_iff.mp hc
  · intro before click after c hsplit hclosed later hlater hcontains
    rw [hsplit] at hwindow
    have htime := hwindow.later later hlater
    have htmax := hclosed.tmax_lt hs
    have hle := hcontains.le_tmax
    omega

/-- A click at 60000 closes a cluster, and one at 20000 comes after it. -/
theorem closed_not_split_reordered :
    ClosedAt {} [⟨clickAt 7 7 1 100⟩] ⟨clickAt 9 9 1 60000⟩
        (Cluster.ofPacket {} ⟨clickAt 7 7 1 100⟩) ∧
      ¬ (Cluster.ofPacket {} ⟨clickAt 7 7 1 100⟩).Contains ⟨clickAt 7 7 1 20000⟩ := by
  have hclosed : ClosedAt {} [⟨clickAt 7 7 1 100⟩] ⟨clickAt 9 9 1 60000⟩
      (Cluster.ofPacket {} ⟨clickAt 7 7 1 100⟩) := by
    unfold ClosedAt
    decide +kernel
  refine ⟨hclosed, ?_⟩
  exact (closed_not_split {} ClusterSettings.nonNegative_default
    [[clickAt 7 7 1 100], [clickAt 9 9 1 60000, clickAt 7 7 1 20000]] (by decide)).2
    [⟨clickAt 7 7 1 100⟩] ⟨clickAt 9 9 1 60000⟩ [⟨clickAt 7 7 1 20000⟩] _ rfl hclosed _
    (List.mem_singleton_self _)

end TpxServer.Clustering
