import TpxServer.Measuring.Lossless
import TpxServer.Udp.Rollover

/-!
# Clusters of true hits

The clusters' input is connected to the hits, from time to time or all the time, and never to
another publisher, and nobody resets the rollover counter. Whatever is lost on the way and whatever
parameters are set, the clusters are made of hits of the detector, at their pixels, with their ToT
and at their true times (`clusters_of_true_hits`).
-/

namespace TpxServer.Measuring

open Clustering Udp Epochs
open Histogram (Received HistogramManager messageOf)

/-! ## True hits -/

/-- The packet is one of the hits, `Ts` being their true times. -/
def TrueHit (hits : List Word) (Ts : List ℕ) (p : Packet) : Prop :=
  ∃ (i : ℕ) (packet : Word) (T : ℕ), hits[i]? = some packet ∧ Ts[i]? = some T ∧
    p.x = (hitX packet).toNat ∧ p.y = (hitY packet).toNat ∧ p.tot = (hitTot packet).toNat ∧
    p.t = (T % 2 ^ 38 : ℕ)

section Decoding

variable {ps : List Word}

/-- A published word is that of the hit at its place. -/
theorem getElem?_publishLoop {s : RolloverState} (hs : s.mRolloverCounter.toNat < 16) {i : ℕ}
    {w : Word} (h : (publishLoop s ps).2[i]? = some w) :
    ∃ packet, (ps.filter IsHit)[i]? = some packet ∧
      ∃ c : BitVec 8, c.toNat < 16 ∧ w = parsedPacket c packet := by
  rw [publishLoop_snd, List.getElem?_zipWith_eq_some] at h
  obtain ⟨s', packet, hs', hpacket, rfl⟩ := h
  exact ⟨packet, hpacket, s'.mRolloverCounter,
    counter_lt_hitStates hs ps s' (List.mem_of_getElem? hs'), rfl⟩

/-- Without late hits the published times are the true ones. -/
theorem times_of_noneLate {G D T₁ : ℕ} {Ts : List ℕ} (hGD : G + D < 2 ^ 32) (hT₁ : T₁ < 2 ^ 32)
    (hdis : Disordered G D T₁ Ts) (hlate : NoneLate (2 ^ 34) T₁ Ts)
    (hhits : HitsAt ps (T₁ :: Ts)) :
    (publishLoop {} ps).2.map (fun w => (Packet.mk w).t) =
      (T₁ :: Ts).map (fun T => ((T % 2 ^ 38 : ℕ) : ℤ)) := by
  have hstates := refines_hitStates _ _ _ _ refines_fresh hhits
  have hfirst := tracks_first hT₁
  have hstamps := (stamps_eq_iff (n := 16) hGD (by decide) Ts _ T₁ T₁ hfirst
    (Nat.le_add_right _ _) hdis).mpr hlate
  have hstamp₁ :
      stamp (2 ^ 32) 16 ((⟨0, false, 0⟩ : Tracker).next (2 ^ 32) (T₁ % (4 * 2 ^ 32))).count
        (T₁ % (4 * 2 ^ 32)) = T₁ % 2 ^ 38 := by
    rw [hfirst.count_eq]
    exact (stamp_eq_iff (n := 16) (by decide) (Or.inl rfl) (by decide)).mpr rfl
  rw [publishLoop_snd, times_of_refines hstates hhits, trackAll, stamps, List.zipWith_cons_cons,
    hstamp₁, List.map_cons, List.map_cons]
  refine congrArg₂ List.cons rfl ?_
  unfold stamps at hstamps
  rw [hstamps, List.map_map]
  rfl

/-- Without late hits every published word is a true hit. -/
theorem trueHit_of_mem {G D T₁ : ℕ} {Ts : List ℕ} (hGD : G + D < 2 ^ 32) (hT₁ : T₁ < 2 ^ 32)
    (hdis : Disordered G D T₁ Ts) (hlate : NoneLate (2 ^ 34) T₁ Ts)
    (hhits : HitsAt ps (T₁ :: Ts)) {w : Word} (hw : w ∈ (publishLoop {} ps).2) :
    TrueHit (ps.filter IsHit) (T₁ :: Ts) ⟨w⟩ := by
  obtain ⟨i, hi⟩ := List.mem_iff_getElem?.mp hw
  obtain ⟨packet, hpacket, c, hc, rfl⟩ := getElem?_publishLoop (by decide) hi
  have hmem := List.mem_filter.mp (List.mem_of_getElem? hpacket)
  have hread := readBack hc (of_decide_eq_true hmem.2)
  have htimes := congrArg (·[i]?) (times_of_noneLate hGD hT₁ hdis hlate hhits)
  simp only [List.getElem?_map, hi, Option.map_some] at htimes
  obtain ⟨T, hT, ht⟩ := Option.map_eq_some_iff.mp htimes.symm
  exact ⟨i, packet, T, hpacket, hT, hread.x, hread.y, hread.tot, ht.symm⟩

end Decoding

/-! ## The stream of words -/

/-- The words of the datagrams that are not dropped. -/
def Event.heard : Event → List Word
  | .handleMessage d _ => d.heard
  | _ => []

/-- The event leaves the rollover counter alone. -/
def Event.SparesCounter : Event → Prop
  | .resetToaRolloverCounter => False
  | _ => True

/-- Without resets the decoder sees one stream of words. -/
theorem decoded_eq (events : List Event) (h : ∀ e ∈ events, e.SparesCounter) :
    ∀ s : RolloverState,
      decoded s events = (publishLoop s (events.flatMap Event.heard)).2 := by
  induction events with
  | nil => exact fun s => rfl
  | cons e events ih =>
    intro s
    rw [List.forall_mem_cons] at h
    have htail := ih h.2
    unfold decoded at htail ⊢
    rw [List.flatMap_cons, List.flatMap_cons, decode_append, List.flatten_append, htail,
      publishLoop_append]
    cases e with
    | handleMessage d accepts =>
      have hevents : (Event.handleMessage d accepts).decoderEvents =
          if d.size % 8 = 0 then [.datagram d] else [] := rfl
      have hheard : (Event.handleMessage d accepts).heard = d.heard := rfl
      rw [hevents, hheard, Datagram.heard]
      by_cases h8 : d.size % 8 = 0
      · have hdecode : decode s [.datagram d] =
            ((publishLoop s d.packets).1, [(publishLoop s d.packets).2]) := rfl
        rw [if_pos h8, if_pos h8, hdecode, List.flatten_singleton]
      · rw [if_neg h8, if_neg h8]
        rfl
    | resetToaRolloverCounter => exact absurd h.1 id
    | _ => rfl

/-! ## The clusters' input -/

/-- The clusters' input is connected to nothing but the hits. -/
def Event.ClustersHits : Event → Prop
  | .connect k topic => k = .clusters → ∀ t, topic = some t → t = .raw
  | _ => True

section Run

variable {s : Measurement} {P : Packet → Prop}

theorem confines_actions {e : Event} (h : e.ClustersHits) (s : Measurement) :
    ∀ a ∈ s.actions e, a.Confines .clusters (· = .raw) := by
  intro a ha
  rcases List.mem_append.mp ha with ha | ha
  · cases e with
    | pollClusters recvThrows accepts =>
      rw [Measurement.eq_take_of_mem ha]
      exact trivial
    | pollHistogram recvThrows new_time sendThrows accepts =>
      rw [Measurement.eq_take_of_mem ha]
      exact trivial
    | connect k topic =>
      rw [List.mem_singleton.mp ha]
      exact h
    | foreign message accepts =>
      rw [List.mem_singleton.mp ha]
      exact trivial
    | _ => exact absurd ha List.not_mem_nil
  · obtain ⟨p, -, rfl⟩ := List.mem_map.mp ha
    exact trivial

/-- A message that waits for the clusters was published by the decoder. -/
theorem mem_published_of_waiting (h : Consistent s)
    (hconfined : PubSub.Confined (· = .raw) (s.net.subscriber .clusters)) {p : Topic × List Byte}
    (hp : p ∈ (s.net.subscriber .clusters).inbox) : p.2 ∈ s.udp.published.map messageOf := by
  rw [← h.raw]
  exact (hconfined.sublist_published (h.faithful .clusters)).subset
    (List.mem_map_of_mem (List.mem_append_right _ hp))

/-- Polling keeps the clusters made of packets with the property, if all published ones have it. -/
theorem made_poll (htot : ∀ p, P p → 1 ≤ p.tot) (h : Consistent s)
    (hconfined : PubSub.Confined (· = .raw) (s.net.subscriber .clusters))
    (hmade : AllMadeOf P s.clusters) (hpublished : ∀ w ∈ s.udp.published.flatten, P ⟨w⟩)
    (recvThrows : Bool) :
    AllMadeOf P (s.clusters.poll (s.received .clusters recvThrows)) := by
  unfold Measurement.received
  cases recvThrows with
  | true => exact hmade
  | false =>
    cases hinbox : (s.net.subscriber .clusters).inbox with
    | nil => exact hmade
    | cons p inbox =>
      have hp : p ∈ (s.net.subscriber .clusters).inbox := hinbox ▸ List.mem_cons_self
      obtain ⟨data, hdata, hmsg⟩ := List.mem_map.mp (mem_published_of_waiting h hconfined hp)
      show AllMadeOf P (s.clusters.poll (.message p.2))
      rw [← hmsg, ClusteringManager.poll, Histogram.packetsOf_messageOf]
      split_ifs
      · exact hmade.handlePackets htot fun w hw =>
          hpublished w (List.mem_flatten_of_mem hdata hw)
      · exact hmade

theorem made_managers (htot : ∀ p, P p → 1 ≤ p.tot) (h : Consistent s)
    (hconfined : PubSub.Confined (· = .raw) (s.net.subscriber .clusters))
    (hmade : AllMadeOf P s.clusters) (hpublished : ∀ w ∈ s.udp.published.flatten, P ⟨w⟩)
    (e : Event) : AllMadeOf P (s.managers e).clusters := by
  cases e with
  | pollClusters recvThrows accepts => exact made_poll htot h hconfined hmade hpublished recvThrows
  | flush accepts => exact hmade.flush
  | setClusterPath path opened =>
    obtain ⟨file, signals, hfile⟩ := Clustering.setSaveFile_frame s.clusters path opened
    show AllMadeOf P (s.clusters.setSaveFile path opened).1
    rw [hfile]
    exact hmade
  | _ => exact hmade

/-- The clusters of a run are made of published packets. -/
theorem made_run (htot : ∀ p, P p → 1 ≤ p.tot) (events : List Event) :
    ∀ {s : Measurement}, Consistent s →
      PubSub.Confined (· = .raw) (s.net.subscriber .clusters) → AllMadeOf P s.clusters →
      (∀ e ∈ events, e.ClustersHits) → (∀ w ∈ (s.run events).udp.published.flatten, P ⟨w⟩) →
        AllMadeOf P (s.run events).clusters := by
  induction events with
  | nil => exact fun _ _ hmade _ _ => hmade
  | cons e events ih =>
    intro s h hconfined hmade hevents hpublished
    rw [List.forall_mem_cons] at hevents
    obtain ⟨-, new, hnew, -⟩ := udp_run (e :: events) s
    have hbefore : ∀ w ∈ s.udp.published.flatten, P ⟨w⟩ := fun w hw =>
      hpublished w (by rw [hnew, List.flatten_append]; exact List.mem_append_left _ hw)
    exact ih (h.step e) (PubSub.confined_acts _ hconfined (confines_actions hevents.1 s))
      (made_managers htot h hconfined hmade hbefore e) hevents.2 hpublished

end Run

/-- **Clusters of true hits.** Let the true times of the hits jitter within bounds, with none late
across a rollover, and let every hit have ToT. Let the rollover counter not be reset, and the
clusters' input be connected to the hits only. Then in every run, whatever is lost, flushed or set
otherwise, every cluster, open or emitted, averages hits of the detector at their pixels, with their
ToT and at their true times modulo `2 ^ 38`; it lies among them and is published without loss, its
means being rational numbers. -/
theorem clusters_of_true_hits (settings : ClusterSettings) (time : ℤ) (events : List Event)
    {G D T₁ : ℕ} {Ts : List ℕ} (hGD : G + D < 2 ^ 32) (hT₁ : T₁ < 2 ^ 32)
    (hdis : Disordered G D T₁ Ts) (hlate : NoneLate (2 ^ 34) T₁ Ts)
    (hhits : HitsAt (events.flatMap Event.heard) (T₁ :: Ts))
    (htot : ∀ packet ∈ (events.flatMap Event.heard).filter IsHit, 1 ≤ (hitTot packet).toNat)
    (hcounter : ∀ e ∈ events, e.SparesCounter) (hconnect : ∀ e ∈ events, e.ClustersHits) :
    let m := ((Measurement.start settings time).run events).clusters
    ∀ c ∈ m.mOpenClusters ++ m.emitted, ∃ members : Multiset Packet, members ≠ 0 ∧
      (∀ p ∈ members, TrueHit ((events.flatMap Event.heard).filter IsHit) (T₁ :: Ts) p) ∧
      Midst members c := by
  intro m c hc
  have htot' : ∀ p, TrueHit ((events.flatMap Event.heard).filter IsHit) (T₁ :: Ts) p →
      1 ≤ p.tot := by
    rintro p ⟨i, packet, T, hpacket, -, -, -, hp, -⟩
    rw [hp]
    exact_mod_cast htot packet (List.mem_of_getElem? hpacket)
  obtain ⟨-, new, hnew, hwords⟩ := udp_run events (Measurement.start settings time)
  have hpublished : ∀ w ∈ ((Measurement.start settings time).run events).udp.published.flatten,
      TrueHit ((events.flatMap Event.heard).filter IsHit) (T₁ :: Ts) ⟨w⟩ := by
    intro w hw
    have hstart : (Measurement.start settings time).udp.published = [] := rfl
    rw [hnew, hstart, List.nil_append, hwords, decoded_eq events hcounter] at hw
    exact trueHit_of_mem hGD hT₁ hdis hlate hhits hw
  have hconfined : PubSub.Confined (· = .raw)
      ((Measurement.start settings time).net.subscriber .clusters) :=
    ⟨fun t ht => absurd ht (by simp [Measurement.start]), fun p hp => absurd hp List.not_mem_nil⟩
  have hmade := made_run htot' events (consistent_start settings time) hconfined
    (fun c hc => absurd hc List.not_mem_nil) hconnect hpublished
  obtain ⟨members, hne, hmembers, haverages⟩ := hmade c hc
  exact ⟨members, hne, hmembers, haverages.midst hne fun p hp => htot' p (hmembers p hp)⟩

/-- Two hits with ToT 1; the second message to the clusters is lost. -/
def lossyRun : List Event :=
  [.connect .clusters (some .raw),
    .handleMessage (Datagram.ofBytes (storeLE 8 (hitAt 5 ||| 0x100000#64)) (by decide))
      fun _ => true,
    .handleMessage (Datagram.ofBytes (storeLE 8 (hitAt 9 ||| 0x100000#64)) (by decide))
      fun _ => false,
    .pollClusters false fun _ => true, .flush fun _ => true]

theorem tot_lossyRun :
    ∀ packet ∈ (lossyRun.flatMap Event.heard).filter IsHit, 1 ≤ (hitTot packet).toNat := by
  have hall : ((lossyRun.flatMap Event.heard).filter IsHit).all
      (fun packet => decide (1 ≤ (hitTot packet).toNat)) = true := by decide +kernel
  exact fun packet hp => of_decide_eq_true (List.all_eq_true.mp hall packet hp)

theorem clusters_of_true_hits_lossyRun :
    let m := ((Measurement.start {} 0).run lossyRun).clusters
    ∀ c ∈ m.mOpenClusters ++ m.emitted, ∃ members : Multiset Packet, members ≠ 0 ∧
      (∀ p ∈ members, TrueHit ((lossyRun.flatMap Event.heard).filter IsHit) [5, 9] p) ∧
      Midst members c :=
  clusters_of_true_hits {} 0 lossyRun (G := 10) (D := 0) (by decide) (by decide) (by decide)
    ⟨by decide, trivial⟩ (by decide +kernel) tot_lossyRun (by simp [lossyRun, Event.SparesCounter])
    (by simp [lossyRun, Event.ClustersHits])

end TpxServer.Measuring
