import Mathlib.Data.Nat.ModEq
import TpxServer.Measuring.Delivery
import TpxServer.Udp.Repacking

/-!
# Measuring without losses

From the moment an input socket is connected to the hits, and as long as it loses nothing, its
manager handles the published hits one after the other, however the threads are scheduled: what it
has computed is a function of the datagrams alone (`clusters_of_datagrams`, `counts_of_datagrams`).
-/

namespace TpxServer.Measuring

open Clustering Udp
open Histogram (Received Frame HistogramManager messageOf)

/-! ## The decoder's part -/

/-- What the decoder sees of an event. A datagram that does not consist of words is dropped. -/
def Event.decoderEvents : Event → List DecoderEvent
  | .handleMessage d _ => if d.size % 8 = 0 then [.datagram d] else []
  | .resetToaRolloverCounter => [.reset]
  | _ => []

/-- The words published for the events. -/
def decoded (s : RolloverState) (events : List Event) : List Word :=
  (decode s (events.flatMap Event.decoderEvents)).2.flatten

theorem decode_append (s : RolloverState) (es es' : List DecoderEvent) :
    decode s (es ++ es') =
      ((decode (decode s es).1 es').1, (decode s es).2 ++ (decode (decode s es).1 es').2) := by
  induction es generalizing s with
  | nil => rfl
  | cons e es ih =>
    cases e with
    | datagram d => rw [List.cons_append, decode, decode, ih]; rfl
    | reset => rw [List.cons_append, decode, decode, ih]

section Decoder

variable {s : Measurement}

/-- An event changes the decoder, and publishes words, as the decoder's part of it says. -/
theorem udp_managers (s : Measurement) (e : Event) :
    (s.managers e).udp.toRolloverState = (decode s.udp.toRolloverState e.decoderEvents).1 ∧
    ∃ new, (s.managers e).udp.published = s.udp.published ++ new ∧
      new.flatten = (decode s.udp.toRolloverState e.decoderEvents).2.flatten := by
  cases e with
  | handleMessage d accepts =>
    obtain ⟨hstate, new, hnew, hwords⟩ := handleMessage_eq s.udp d
    have hevents : (Event.handleMessage d accepts).decoderEvents =
        if d.size % 8 = 0 then [.datagram d] else [] := rfl
    unfold Datagram.heard at hstate hwords
    rw [hevents]
    by_cases h8 : d.size % 8 = 0
    · rw [if_pos h8] at hstate hwords ⊢
      exact ⟨hstate, new, hnew, hwords.trans (List.append_nil _).symm⟩
    · rw [if_neg h8] at hstate hwords ⊢
      exact ⟨hstate, new, hnew, hwords⟩
  | setRawTpxPath path opened =>
    obtain ⟨file, signals, h⟩ := Udp.setSaveFile_frame s.udp path opened
    show (s.udp.setSaveFile path opened).1.toRolloverState = _ ∧ ∃ new,
      (s.udp.setSaveFile path opened).1.published = s.udp.published ++ new ∧ _
    rw [h]
    exact ⟨rfl, [], (List.append_nil _).symm, rfl⟩
  | _ => exact ⟨rfl, [], (List.append_nil _).symm, rfl⟩

/-- The decoder after a run, and the words published in it. -/
theorem udp_run (events : List Event) : ∀ s : Measurement,
    (s.run events).udp.toRolloverState =
      (decode s.udp.toRolloverState (events.flatMap Event.decoderEvents)).1 ∧
    ∃ new, (s.run events).udp.published = s.udp.published ++ new ∧
      new.flatten = decoded s.udp.toRolloverState events := by
  induction events with
  | nil => exact fun s => ⟨rfl, [], (List.append_nil _).symm, rfl⟩
  | cons e events ih =>
    intro s
    obtain ⟨hstate, new, hnew, hwords⟩ := udp_managers s e
    obtain ⟨hstate', new', hnew', hwords'⟩ := ih (s.step e)
    have hudp : (s.step e).udp = (s.managers e).udp := rfl
    rw [hudp, hstate] at hstate' hwords'
    rw [hudp, hnew, List.append_assoc] at hnew'
    unfold decoded at hwords' ⊢
    rw [List.flatMap_cons, decode_append]
    refine ⟨hstate', new ++ new', hnew', ?_⟩
    rw [List.flatten_append, List.flatten_append, hwords, hwords']

end Decoder

/-! ## Attached input sockets -/

/-- The event neither loses a message to the input socket nor connects it anew. -/
def Event.Keeps (k : Input) : Event → Prop
  | .connect k' _ => k' ≠ k
  | e => e.accepts k = true

/-- The input socket is connected to the hits since the messages `before` were published and it had
taken `old`. -/
structure Attached (k : Input) (old : List (List Byte)) (before : List (List Word))
    (s : Measurement) : Prop where
  topic : (s.net.subscriber k).topic = some .raw
  line : ∃ new, s.udp.published = before ++ new ∧
    (s.net.subscriber k).line.map Prod.snd = old ++ new.map messageOf

section Attached

variable {k : Input} {s : Measurement} {old : List (List Byte)} {before : List (List Word)}

theorem keeps_actions {e : Event} (h : e.Keeps k) (s : Measurement) :
    ∀ a ∈ s.actions e, a.Keeps k := by
  intro a ha
  rcases List.mem_append.mp ha with ha | ha
  · cases e with
    | pollClusters recvThrows accepts =>
      rw [Measurement.eq_take_of_mem ha]
      exact trivial
    | pollHistogram recvThrows new_time sendThrows accepts =>
      rw [Measurement.eq_take_of_mem ha]
      exact trivial
    | connect k' topic =>
      rw [List.mem_singleton.mp ha]
      exact h
    | foreign message accepts =>
      rw [List.mem_singleton.mp ha]
      exact h
    | _ => exact absurd ha List.not_mem_nil
  · obtain ⟨p, -, rfl⟩ := List.mem_map.mp ha
    cases e with
    | connect k' topic => rfl
    | _ => exact h

theorem Attached.step (h : Attached k old before s) {e : Event} (he : e.Keeps k) :
    Attached k old before (s.step e) := by
  have hkeeps := keeps_actions he s
  obtain ⟨new, hnew, hline⟩ := h.line
  obtain ⟨hbegins, -, -⟩ := s.published_managers e
  refine ⟨(PubSub.topic_acts (fun a ha => (hkeeps a ha).stays) s.net).trans h.topic,
    new ++ news s.udp.published (s.managers e).udp.published, ?_, ?_⟩
  · rw [← List.append_assoc, ← hnew]
    exact (Measurement.append_news hbegins).symm
  · have hposts : ((s.actions e).flatMap PubSub.Action.posts).filter
        ((s.net.subscriber k).topic = some ·.1) =
          (Measurement.sent s (s.managers e)).filter (·.1 = .raw) := by
      rw [Measurement.posts_actions, h.topic]
      simp only [Option.some.injEq, eq_comm (a := Topic.raw)]
      rw [List.filter_append, Measurement.filter_atSockets e (by decide), List.nil_append]
    show ((s.net.acts (s.actions e)).subscriber k).line.map Prod.snd = _
    rw [PubSub.line_acts hkeeps, List.map_append, hline, hposts, Measurement.published_raw,
      List.map_append, List.append_assoc]

theorem Attached.run (events : List Event) : ∀ {s : Measurement}, Attached k old before s →
    (∀ e ∈ events, e.Keeps k) → Attached k old before (s.run events) := by
  induction events with
  | nil => exact fun h _ => h
  | cons e events ih =>
    intro s h hevents
    rw [List.forall_mem_cons] at hevents
    exact ih (h.step hevents.1) hevents.2

/-- Connecting attaches, whatever was before. -/
theorem attached_connect (k : Input) (s : Measurement) :
    Attached k ((s.net.subscriber k).taken.map Prod.snd) s.udp.published
      (s.step (.connect k (some .raw))) := by
  have hactions : s.actions (.connect k (some .raw)) = [.connect k (some .raw)] := by
    simp [Measurement.actions, Event.atSockets, Measurement.managers, Measurement.sent, news_self]
  have hsubscriber : ((s.step (.connect k (some .raw))).net.subscriber k) =
      (s.net.subscriber k).connect (some .raw) := by
    show ((s.net.acts (s.actions _)).subscriber k) = _
    rw [hactions]
    simp [PubSub.Network.acts, PubSub.Network.act]
  refine ⟨by rw [hsubscriber]; rfl, [], (List.append_nil _).symm, ?_⟩
  rw [hsubscriber]
  simp [PubSub.Subscriber.line, PubSub.Subscriber.connect]

end Attached

/-! ## The packets handled -/

theorem flatMap_packetsOf_messageOf (new : List (List Word)) :
    (new.map messageOf).flatMap HistogramManager.packetsOf = new.flatten := by
  rw [List.flatMap_map]
  exact congrArg List.flatten (List.map_id'' Histogram.packetsOf_messageOf new)

/-- **Nothing is lost on the way.** What a manager has taken since it was connected, and what waits
for it, is what the decoder made of the datagrams. -/
theorem packets_of_datagrams (k : Input) (s : Measurement) {events : List Event}
    (hkeeps : ∀ e ∈ events, e.Keeps k) :
    let t := (s.step (.connect k (some .raw))).run events
    t.packetsTaken k ++ t.packetsWaiting k =
      s.packetsTaken k ++ decoded s.udp.toRolloverState events := by
  intro t
  obtain ⟨-, new, hnew, hline⟩ := (attached_connect k s).run events hkeeps
  obtain ⟨-, new', hnew', hwords⟩ := udp_run events (s.step (.connect k (some .raw)))
  have hudp : (s.step (.connect k (some .raw))).udp = s.udp := rfl
  rw [hudp] at hnew' hwords
  have heq : new = new' := List.append_cancel_left (hnew.symm.trans hnew')
  have hpackets := congrArg (List.flatMap HistogramManager.packetsOf) hline
  rw [List.flatMap_append, flatMap_packetsOf_messageOf, heq, hwords, List.flatMap_map,
    List.flatMap_map, PubSub.Subscriber.line, List.flatMap_append] at hpackets
  exact hpackets

/-! ## Clusters -/

/-- The event neither flushes the clusters nor changes the parameters. -/
def Event.SparesClusters : Event → Prop
  | .flush _ => False
  | .setClusterParameters _ _ _ => False
  | _ => True

/-- The clusters after the packets taken since `s`. -/
structure HandledSince (s t : Measurement) : Prop where
  settings : t.clusters.settings = s.clusters.settings
  handled : ∃ handled, t.packetsTaken .clusters = s.packetsTaken .clusters ++ handled ∧
    t.clusters.mOpenClusters = (handleClicks s.clusters.settings s.clusters.mOpenClusters
      (handled.map Packet.mk)).1 ∧
    t.clusters.published.flatten = s.clusters.published.flatten ++
      (handleClicks s.clusters.settings s.clusters.mOpenClusters
        (handled.map Packet.mk)).2.map Cluster.toRawValue

section Clusters

variable {s t : Measurement}

theorem handledSince_refl (s : Measurement) : HandledSince s s :=
  ⟨rfl, [], (List.append_nil _).symm, rfl, (List.append_nil _).symm⟩

/-- A poll handles the packets received. -/
theorem poll_eq (m : ClusteringManager) (recv : Received) :
    (m.poll recv).settings = m.settings ∧
    (m.poll recv).mOpenClusters =
      (handleClicks m.settings m.mOpenClusters ((packetsReceived recv).map Packet.mk)).1 ∧
    (m.poll recv).published.flatten = m.published.flatten ++ (handleClicks m.settings
      m.mOpenClusters ((packetsReceived recv).map Packet.mk)).2.map Cluster.toRawValue := by
  cases recv with
  | nothing => exact ⟨rfl, rfl, (List.append_nil _).symm⟩
  | throws => exact ⟨rfl, rfl, (List.append_nil _).symm⟩
  | message msg =>
    unfold ClusteringManager.poll packetsReceived
    dsimp only
    split_ifs with hmsg
    · obtain ⟨hsettings, hopen, -⟩ := handlePackets_eq m (HistogramManager.packetsOf msg)
      refine ⟨hsettings, hopen, ?_⟩
      rw [published_handlePackets, List.flatten_append, List.flatten_singleton]
    · have hnil : msg = [] := List.length_eq_zero_iff.mp (not_not.mp hmsg)
      subst hnil
      exact ⟨rfl, rfl, (List.append_nil _).symm⟩

theorem HandledSince.poll (h : HandledSince s t) (recvThrows : Bool) (accepts : Input → Bool) :
    HandledSince s (t.step (.pollClusters recvThrows accepts)) := by
  obtain ⟨hsettings, handled, htaken, hopen, hpublished⟩ := h
  obtain ⟨hs, ho, hp⟩ := poll_eq t.clusters (t.received .clusters recvThrows)
  rw [hsettings, hopen] at ho hp
  refine ⟨hs.trans hsettings, handled ++ packetsReceived (t.received .clusters recvThrows),
    ?_, ?_, ?_⟩
  · rw [packetsTaken_poll rfl, htaken, List.append_assoc]
  · rw [List.map_append, handleClicks_append]
    exact ho
  · rw [List.map_append, handleClicks_append, List.map_append, ← List.append_assoc, ← hpublished]
    exact hp

/-- Where nothing is taken and the clusters stay, nothing is to show. -/
theorem HandledSince.of_eq (h : HandledSince s t) {t' : Measurement}
    (hclusters : t'.clusters.settings = t.clusters.settings ∧
      t'.clusters.mOpenClusters = t.clusters.mOpenClusters ∧
      t'.clusters.published = t.clusters.published)
    (htaken : t'.packetsTaken .clusters = t.packetsTaken .clusters) : HandledSince s t' := by
  obtain ⟨hsettings, handled, htaken', hopen, hpublished⟩ := h
  obtain ⟨hs, ho, hp⟩ := hclusters
  exact ⟨hs.trans hsettings, handled, htaken.trans htaken', ho.trans hopen, hp ▸ hpublished⟩

theorem HandledSince.step (h : HandledSince s t) {e : Event} (he : e.SparesClusters) :
    HandledSince s (t.step e) := by
  cases e with
  | pollClusters recvThrows accepts => exact h.poll recvThrows accepts
  | flush accepts => exact absurd he id
  | setClusterParameters max_sep_xy max_sep_t max_t_sep => exact absurd he id
  | setClusterPath path opened =>
    refine h.of_eq ?_ (packetsTaken_other rfl)
    obtain ⟨file, signals, hfile⟩ := Clustering.setSaveFile_frame t.clusters path opened
    show (t.clusters.setSaveFile path opened).1.settings = _ ∧
      (t.clusters.setSaveFile path opened).1.mOpenClusters = _ ∧
      (t.clusters.setSaveFile path opened).1.published = _
    rw [hfile]
    exact ⟨rfl, rfl, rfl⟩
  | pollHistogram recvThrows new_time sendThrows accepts =>
    exact h.of_eq ⟨rfl, rfl, rfl⟩ (packetsTaken_other (taken_takes (by decide) recvThrows))
  | connect k topic => exact h.of_eq ⟨rfl, rfl, rfl⟩ (packetsTaken_connect _ k topic)
  | foreign message accepts =>
    exact h.of_eq ⟨rfl, rfl, rfl⟩ (packetsTaken_foreign _ message accepts)
  | handleMessage | resetToaRolloverCounter | setRawTpxPath | setOutputPeriod =>
    exact h.of_eq ⟨rfl, rfl, rfl⟩ (packetsTaken_other rfl)

theorem HandledSince.run (events : List Event) : ∀ {t : Measurement}, HandledSince s t →
    (∀ e ∈ events, e.SparesClusters) → HandledSince s (t.run events) := by
  induction events with
  | nil => exact fun h _ => h
  | cons e events ih =>
    intro t h hevents
    rw [List.forall_mem_cons] at hevents
    exact ih (h.step hevents.1) hevents.2

end Clusters

/-- **Clusters are a function of the datagrams.** Let the clusters' input be connected to the hits,
lose nothing and stay connected, and let nobody flush or change parameters. Then, however the
threads are scheduled, the open clusters and the published ones are those of the clicks that the
decoder made of the datagrams, up to the packets that still wait. -/
theorem clusters_of_datagrams (s : Measurement) (events : List Event)
    (hkeeps : ∀ e ∈ events, e.Keeps .clusters) (hspares : ∀ e ∈ events, e.SparesClusters) :
    let t := (s.step (.connect .clusters (some .raw))).run events
    ∃ handled, handled ++ t.packetsWaiting .clusters = decoded s.udp.toRolloverState events ∧
      t.clusters.mOpenClusters = (handleClicks s.clusters.settings s.clusters.mOpenClusters
        (handled.map Packet.mk)).1 ∧
      t.clusters.published.flatten = s.clusters.published.flatten ++
        (handleClicks s.clusters.settings s.clusters.mOpenClusters
          (handled.map Packet.mk)).2.map Cluster.toRawValue := by
  intro t
  have hconnect : HandledSince s (s.step (.connect .clusters (some .raw))) :=
    (handledSince_refl s).step trivial
  have hrun : HandledSince s t := hconnect.run events hspares
  obtain ⟨-, handled, htaken, hopen, hpublished⟩ := hrun
  have hpackets : t.packetsTaken .clusters ++ t.packetsWaiting .clusters = _ :=
    packets_of_datagrams .clusters s hkeeps
  refine ⟨handled, ?_, hopen, hpublished⟩
  rw [htaken, List.append_assoc] at hpackets
  exact List.append_cancel_left hpackets

/-- A datagram of words. -/
def datagramOfWords (words : List Word) (h : (words.flatMap (storeLE 8)).length ≤ BUFFER_SIZE) :
    Datagram :=
  Datagram.ofBytes (words.flatMap (storeLE 8)) h

/-- Three hits of one particle in two datagrams, on two pixels, and a hit that comes much later. The
managers poll in between. -/
def burst : List Event :=
  [.handleMessage (datagramOfWords [0xB000000000100001, 0xB000100000100001] (by decide))
      fun _ => true,
    .pollClusters false fun _ => true,
    .handleMessage (datagramOfWords [0xB000000000200001] (by decide)) fun _ => true,
    .pollHistogram false 5 false fun _ => true,
    .pollClusters false fun _ => true,
    .handleMessage (datagramOfWords [0xB002000000100004] (by decide)) fun _ => true,
    .pollClusters false fun _ => true,
    .pollHistogram false 5 false fun _ => true,
    .pollHistogram false 5 false fun _ => true]

theorem clusters_of_datagrams_burst :
    let t := ((Measurement.start {} 0).step (.connect .clusters (some .raw))).run burst
    t.clusters.mOpenClusters = (handleClicks {} [] ((decoded {} burst).map Packet.mk)).1 ∧
      t.clusters.published.flatten =
        (handleClicks {} [] ((decoded {} burst).map Packet.mk)).2.map Cluster.toRawValue := by
  intro t
  obtain ⟨handled, hhandled, hopen, hpublished⟩ := clusters_of_datagrams (.start {} 0) burst
    (by simp [burst, Event.Keeps, Event.accepts]) (by simp [burst, Event.SparesClusters])
  have hdrained : t.packetsWaiting .clusters = [] := by decide +kernel
  rw [hdrained, List.append_nil] at hhandled
  subst hhandled
  exact ⟨hopen, hpublished⟩

/-- The three hits are merged, and published when the late one comes. -/
example : (handleClicks {} [] ((decoded {} burst).map Packet.mk)).2.length = 1 := by decide +kernel

/-! ## Counts -/

/-- The hit word is a hit on the pixel. -/
def OnPixel (x y : Fin 256) (packet : Word) : Prop :=
  (hitX packet).toNat = x ∧ (hitY packet).toNat = y

instance (x y : Fin 256) : DecidablePred (OnPixel x y) :=
  fun _ => inferInstanceAs (Decidable (_ ∧ _))

section Pixels

variable {x y : Fin 256}

theorem at_parsedPacket {c : BitVec 8} (hc : c.toNat < 16) (packet : Word) :
    Histogram.At x y (parsedPacket c packet) ↔ OnPixel x y packet := by
  have hx : (Packet.mk (parsedPacket c packet)).x = ((hitX packet).toNat : ℕ) :=
    congrArg (fun v : Word => (v.toNat : ℤ)) (packetX_parsedPacket hc packet)
  have hy : (Packet.mk (parsedPacket c packet)).y = ((hitY packet).toNat : ℕ) :=
    congrArg (fun v : Word => (v.toNat : ℤ)) (packetY_parsedPacket hc packet)
  rw [Histogram.At, OnPixel, hx, hy, Nat.cast_inj, Nat.cast_inj]

theorem hits_publishLoop {s : RolloverState} (hs : s.mRolloverCounter.toNat < 16)
    (ps : List Word) : Histogram.hits x y (publishLoop s ps).2 =
      (ps.filter IsHit).countP (OnPixel x y ·) := by
  induction ps generalizing s with
  | nil => rfl
  | cons p ps ih =>
    by_cases h : IsHit p
    · have hnext := counter_lt_next hs (fullToa p)
      rw [publishLoop_hit h, List.filter_cons_of_pos (by simpa using h), Histogram.hits_cons,
        ih hnext, List.countP_cons]
      simp only [at_parsedPacket hnext, decide_eq_true_eq]
    · rw [publishLoop_skip h, List.filter_cons_of_neg (by simpa using h), ih hs]

/-- The decoder moves no hit to another pixel. -/
theorem hits_decode (es : List DecoderEvent) : ∀ {s : RolloverState},
    s.mRolloverCounter.toNat < 16 →
      Histogram.hits x y (decode s es).2.flatten = (hitWords es).countP (OnPixel x y ·) := by
  induction es with
  | nil => exact fun _ => rfl
  | cons e es ih =>
    intro s hs
    cases e with
    | datagram d =>
      have htail := ih (counter_lt_publishLoop hs d.packets)
      rw [decode, List.flatten_cons, Histogram.hits_append, hitWords, List.countP_append]
      exact congrArg₂ (· + ·) (hits_publishLoop hs d.packets) htail
    | reset => exact ih (by decide : (0 : BitVec 8).toNat < 16)

end Pixels

theorem counter_lt_run (settings : ClusterSettings) (time : ℤ) (events : List Event) :
    (((Measurement.start settings time).run events).udp.mRolloverCounter).toNat < 16 := by
  rw [(udp_run events (Measurement.start settings time)).1]
  exact counter_lt_decode (by decide : (0 : BitVec 8).toNat < 16) _

/-- **Counts are those of the detector.** Let the histogram's input be connected to the hits, lose
nothing and stay connected, whatever happened before. Once nothing waits, frames and array show at
every pixel what they had received before and the hits on the pixel since, modulo 65536; and exactly
that if the pixel was hit fewer than 65536 times between any two frames. -/
theorem counts_of_datagrams (settings : ClusterSettings) (time : ℤ) (before events : List Event)
    (hkeeps : ∀ e ∈ events, e.Keeps .histogram) :
    let s := (Measurement.start settings time).run before
    let t := (s.step (.connect .histogram (some .raw))).run events
    t.packetsWaiting .histogram = [] → ∀ x y,
      let expected := Histogram.hits x y (s.packetsTaken .histogram) +
        (hitWords (events.flatMap Event.decoderEvents)).countP (OnPixel x y ·)
      t.histogram.shown x y ≡ expected [MOD 65536] ∧
      ((∀ data ∈ t.histogram.counted ++ [t.histogram.received],
        Histogram.hits x y data < 65536) → t.histogram.shown x y = expected) := by
  intro s t hdrained x y expected
  have hconsistent : Consistent t :=
    (((consistent_start settings time).run before).step _).run events
  have hpackets : t.packetsTaken .histogram ++ t.packetsWaiting .histogram =
      s.packetsTaken .histogram ++ decoded s.udp.toRolloverState events :=
    packets_of_datagrams .histogram s hkeeps
  have hexpected : Histogram.hits x y (t.packetsTaken .histogram) = expected := by
    rw [hdrained, List.append_nil] at hpackets
    rw [hpackets, Histogram.hits_append, decoded,
      hits_decode _ (counter_lt_run settings time before)]
  rw [← hexpected]
  exact ⟨hconsistent.accounted.shown_modEq x y, hconsistent.accounted.shown_eq⟩

theorem counts_of_datagrams_burst :
    let s := (Measurement.start {} 0).run []
    let t := (s.step (.connect .histogram (some .raw))).run burst
    t.histogram.shown 0 0 = 2 ∧ t.histogram.shown 1 0 = 1 := by
  intro s t
  have hcounts := counts_of_datagrams {} 0 [] burst
    (by simp [burst, Event.Keeps, Event.accepts]) (by decide +kernel)
  have hfirst := (hcounts 0 0).2 (by decide +kernel)
  have hsecond := (hcounts 1 0).2 (by decide +kernel)
  exact ⟨hfirst.trans (by decide +kernel), hsecond.trans (by decide +kernel)⟩

end TpxServer.Measuring
