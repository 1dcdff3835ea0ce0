import Mathlib.Data.List.Flatten
import TpxServer.Clustering.Session
import TpxServer.Measuring.System

/-!
# What the managers are given

Whatever the order of the events, and whatever is lost, refused or cut off by a new connection, the
packets that a manager takes are a subsequence of those that were published: no packet comes twice,
out of order or from nowhere. The log has the messages of each publisher (`Consistent`).
-/

namespace TpxServer

/-! ## What the managers publish -/

namespace Udp

/-- The words of a datagram, unless it is dropped. -/
def Datagram.heard (d : Datagram) : List Word := if d.size % 8 = 0 then d.packets else []

/-- A datagram that is not dropped is decoded into one message. -/
theorem handleMessage_eq (m : UdpConnectionManager) (d : Datagram) :
    (m.handleMessage d).toRolloverState = (publishLoop m.toRolloverState d.heard).1 ∧
    ∃ new, (m.handleMessage d).published = m.published ++ new ∧
      new.flatten = (publishLoop m.toRolloverState d.heard).2 := by
  unfold UdpConnectionManager.handleMessage UdpConnectionManager.parseBytes Datagram.heard
  by_cases h0 : d.size = 0
  · have hnil : d.packets = [] := by
      unfold Datagram.packets Udp.packets
      rw [h0]
      rfl
    rw [if_pos h0, hnil, ite_self]
    exact ⟨rfl, [], (List.append_nil _).symm, rfl⟩
  rw [if_neg h0]
  by_cases h8 : d.size % 8 = 0
  · rw [if_neg (not_not.mpr h8), if_pos h8]
    dsimp only
    split_ifs
    · exact ⟨rfl, [_], rfl, List.flatten_singleton⟩
    · exact ⟨rfl, [_], rfl, List.flatten_singleton⟩
  · rw [if_pos h8, if_neg h8]
    exact ⟨rfl, [], (List.append_nil _).symm, rfl⟩

/-- Opening and closing the save file changes nothing else. -/
theorem setSaveFile_frame (m : UdpConnectionManager) (path : String) (opened : Bool) :
    ∃ file signals,
      (m.setSaveFile path opened).1 = { m with mFile := file, signals := signals } := by
  unfold UdpConnectionManager.setSaveFile
  dsimp only
  split_ifs
  · exact ⟨none, m.signals, rfl⟩
  · exact ⟨some [], _, rfl⟩
  · exact ⟨none, m.signals, rfl⟩

end Udp

namespace Clustering

theorem published_poll (m : ClusteringManager) (recv : Histogram.Received) :
    m.published <+: (m.poll recv).published := by
  cases recv with
  | nothing => exact List.prefix_rfl
  | throws => exact List.prefix_rfl
  | message msg =>
    unfold ClusteringManager.poll
    dsimp only
    split_ifs
    · rw [published_handlePackets]
      exact List.prefix_append _ _
    · exact List.prefix_rfl

end Clustering

namespace Histogram

theorem published_poll (m : HistogramManager) (recv : Received) (new_time : ℤ)
    (sendThrows : Bool) : m.published <+: (m.poll recv new_time sendThrows).published := by
  cases recv with
  | nothing => exact List.prefix_rfl
  | throws => exact List.prefix_rfl
  | message msg =>
    unfold HistogramManager.poll
    dsimp only
    split_ifs
    · exact List.prefix_rfl
    · exact List.prefix_append _ _
    · exact List.prefix_rfl
    · exact List.prefix_rfl

end Histogram

namespace Measuring

open Clustering Udp
open Histogram (Received Frame HistogramManager messageOf)

namespace Measurement

/-- Managers do not take back what they published. -/
theorem published_managers (s : Measurement) (e : Event) :
    s.udp.published <+: (s.managers e).udp.published ∧
    s.clusters.published <+: (s.managers e).clusters.published ∧
    s.histogram.published <+: (s.managers e).histogram.published := by
  cases e with
  | handleMessage d accepts =>
    obtain ⟨-, new, hnew, -⟩ := handleMessage_eq s.udp d
    exact ⟨⟨new, hnew.symm⟩, List.prefix_rfl, List.prefix_rfl⟩
  | setRawTpxPath path opened =>
    obtain ⟨file, signals, h⟩ := Udp.setSaveFile_frame s.udp path opened
    refine ⟨?_, List.prefix_rfl, List.prefix_rfl⟩
    show s.udp.published <+: (s.udp.setSaveFile path opened).1.published
    rw [h]
  | pollClusters recvThrows accepts =>
    exact ⟨List.prefix_rfl, Clustering.published_poll _ _, List.prefix_rfl⟩
  | flush accepts => exact ⟨List.prefix_rfl, List.prefix_append _ _, List.prefix_rfl⟩
  | setClusterPath path opened =>
    obtain ⟨file, signals, h⟩ := Clustering.setSaveFile_frame s.clusters path opened
    refine ⟨List.prefix_rfl, ?_, List.prefix_rfl⟩
    show s.clusters.published <+: (s.clusters.setSaveFile path opened).1.published
    rw [h]
  | pollHistogram recvThrows new_time sendThrows accepts =>
    exact ⟨List.prefix_rfl, List.prefix_rfl, Histogram.published_poll _ _ _ _⟩
  | resetToaRolloverCounter => exact ⟨List.prefix_rfl, List.prefix_rfl, List.prefix_rfl⟩
  | setClusterParameters => exact ⟨List.prefix_rfl, List.prefix_rfl, List.prefix_rfl⟩
  | setOutputPeriod => exact ⟨List.prefix_rfl, List.prefix_rfl, List.prefix_rfl⟩
  | connect => exact ⟨List.prefix_rfl, List.prefix_rfl, List.prefix_rfl⟩
  | foreign => exact ⟨List.prefix_rfl, List.prefix_rfl, List.prefix_rfl⟩

theorem append_news {β : Type*} {before after : List β} (h : before <+: after) :
    before ++ news before after = after := by
  obtain ⟨new, rfl⟩ := h
  rw [news_append]

/-! ## The log -/

/-- What an event publishes: the messages of a server elsewhere, and those of the managers. -/
theorem posts_actions (s : Measurement) (e : Event) :
    (s.actions e).flatMap PubSub.Action.posts =
      e.atSockets.flatMap PubSub.Action.posts ++ sent s (s.managers e) := by
  unfold actions
  rw [List.flatMap_append, List.flatMap_map]
  simp [PubSub.Action.posts]

theorem log_step (s : Measurement) (e : Event) :
    (s.step e).net.log =
      s.net.log ++ (e.atSockets.flatMap PubSub.Action.posts ++ sent s (s.managers e)) := by
  rw [← posts_actions]
  exact PubSub.log_acts (s.actions e) s.net

theorem eq_take_of_mem {k : Input} {recvThrows : Bool}
    {a : PubSub.Action Topic Input (List Byte)} (h : a ∈ takes k recvThrows) : a = .take k := by
  cases recvThrows with
  | true => exact absurd h List.not_mem_nil
  | false => exact List.mem_singleton.mp h

/-- Only a server elsewhere publishes by itself. -/
theorem filter_atSockets (e : Event) {topic : Topic} (h : topic ≠ .elsewhere) :
    (e.atSockets.flatMap PubSub.Action.posts).filter (·.1 = topic) = [] := by
  cases e with
  | pollClusters recvThrows accepts => cases recvThrows <;> rfl
  | pollHistogram recvThrows new_time sendThrows accepts => cases recvThrows <;> rfl
  | foreign message accepts => simp [Event.atSockets, PubSub.Action.posts, h.symm]
  | _ => rfl

theorem published_step (s : Measurement) (e : Event) {topic : Topic} (h : topic ≠ .elsewhere) :
    (s.step e).net.published topic = s.net.published topic ++
      ((sent s (s.managers e)).filter (·.1 = topic)).map Prod.snd := by
  unfold PubSub.Network.published
  rw [log_step, List.filter_append, List.filter_append, filter_atSockets e h, List.nil_append,
    List.map_append]

theorem published_raw (s t : Measurement) :
    ((sent s t).filter (·.1 = .raw)).map Prod.snd =
      (news s.udp.published t.udp.published).map messageOf := by
  simp [sent, List.filter_map, Function.comp_def]

theorem published_clusters (s t : Measurement) :
    ((sent s t).filter (·.1 = .clusters)).map Prod.snd =
      (news s.clusters.published t.clusters.published).map messageOf := by
  simp [sent, List.filter_map, Function.comp_def]

theorem published_frames (s t : Measurement) :
    ((sent s t).filter (·.1 = .frames)).map Prod.snd =
      (news s.histogram.published t.histogram.published).map frameBytes := by
  simp [sent, List.filter_map, Function.comp_def]

end Measurement

/-! ## The invariant -/

/-- The log has what the managers published, the input sockets are faithful to it, and the histogram
manager accounts for what it took. -/
structure Consistent (s : Measurement) : Prop where
  raw : s.net.published .raw = s.udp.published.map messageOf
  clusters : s.net.published .clusters = s.clusters.published.map messageOf
  frames : s.net.published .frames = s.histogram.published.map frameBytes
  faithful : ∀ k, PubSub.Faithful s.net.log (s.net.subscriber k)
  accounted : Histogram.Accounted s.histogram (s.packetsTaken .histogram)

section Invariant

variable {s : Measurement}

/-- What a publisher has sent is in the log after the event as well. -/
theorem published_step_eq {β : Type*} {topic : Topic} (htopic : topic ≠ .elsewhere) (e : Event)
    (f : β → List Byte) {before after : List β} (hbegins : before <+: after)
    (hlog : s.net.published topic = before.map f)
    (hsent : ((Measurement.sent s (s.managers e)).filter (·.1 = topic)).map Prod.snd =
      (news before after).map f) :
    (s.step e).net.published topic = after.map f := by
  rw [Measurement.published_step s e htopic, hlog, hsent, ← List.map_append,
    Measurement.append_news hbegins]

/-- Only the event itself takes something from an inbox. -/
theorem taken_step (e : Event) (k : Input) :
    ((s.step e).net.subscriber k).taken = ((s.net.acts e.atSockets).subscriber k).taken := by
  show ((s.net.acts (s.actions e)).subscriber k).taken = _
  unfold Measurement.actions PubSub.Network.acts
  rw [List.foldl_append]
  exact PubSub.taken_publish _ _ _ _

/-- A manager takes what it polls. -/
theorem packetsTaken_poll {e : Event} {k : Input} {recvThrows : Bool}
    (h : e.atSockets = takes k recvThrows) :
    (s.step e).packetsTaken k =
      s.packetsTaken k ++ packetsReceived (s.received k recvThrows) := by
  unfold Measurement.packetsTaken
  rw [taken_step, h]
  cases recvThrows with
  | true => exact (List.append_nil _).symm
  | false =>
    have htake : (s.net.acts (takes k false)).subscriber k = (s.net.subscriber k).take := by
      simp [takes, PubSub.Network.acts, PubSub.Network.act]
    rw [htake]
    cases hinbox : (s.net.subscriber k).inbox with
    | nil => simp [PubSub.Subscriber.take, Measurement.received, hinbox, packetsReceived]
    | cons p inbox => simp [PubSub.Subscriber.take, Measurement.received, hinbox, packetsReceived]

/-- It takes nothing from the other's socket. -/
theorem taken_takes {k k' : Input} (h : k ≠ k') (recvThrows : Bool) :
    ((s.net.acts (takes k' recvThrows)).subscriber k).taken = (s.net.subscriber k).taken := by
  cases recvThrows with
  | true => rfl
  | false => simp [takes, PubSub.Network.acts, PubSub.Network.act, h]

theorem packetsTaken_other {e : Event} {k : Input}
    (h : ((s.net.acts e.atSockets).subscriber k).taken = (s.net.subscriber k).taken) :
    (s.step e).packetsTaken k = s.packetsTaken k := by
  unfold Measurement.packetsTaken
  rw [taken_step, h]

theorem packets_poll (recv : Received) (new_time : ℤ) (sendThrows : Bool) :
    (HistogramManager.Event.poll recv new_time sendThrows).packets = packetsReceived recv := by
  cases recv with
  | nothing => rfl
  | throws => rfl
  | message msg => rfl

/-- What the other events do not take. -/
theorem packetsTaken_connect (k k' : Input) (topic : Option Topic) :
    (s.step (.connect k' topic)).packetsTaken k = s.packetsTaken k := by
  refine packetsTaken_other ?_
  show ((s.net.acts [.connect k' topic]).subscriber k).taken = _
  by_cases hk : k = k'
  · subst hk
    simp [PubSub.Network.acts, PubSub.Network.act, PubSub.Subscriber.connect]
  · simp [PubSub.Network.acts, PubSub.Network.act, hk]

theorem packetsTaken_foreign (k : Input) (message : List Byte) (accepts : Input → Bool) :
    (s.step (.foreign message accepts)).packetsTaken k = s.packetsTaken k :=
  packetsTaken_other (PubSub.Subscriber.taken_offer _ _ _ _)

theorem accounted_step (h : Histogram.Accounted s.histogram (s.packetsTaken .histogram))
    (e : Event) :
    Histogram.Accounted (s.step e).histogram ((s.step e).packetsTaken .histogram) := by
  cases e with
  | pollHistogram recvThrows new_time sendThrows accepts =>
    rw [packetsTaken_poll rfl, ← packets_poll _ new_time sendThrows]
    exact h.poll _ new_time sendThrows
  | setOutputPeriod period_ms =>
    rw [packetsTaken_other rfl]
    exact ⟨h.frames, h.current, h.received⟩
  | pollClusters recvThrows accepts =>
    rw [packetsTaken_other (taken_takes (by decide) recvThrows)]
    exact h
  | connect k topic =>
    rw [packetsTaken_connect]
    exact h
  | foreign message accepts =>
    rw [packetsTaken_foreign]
    exact h
  | handleMessage | resetToaRolloverCounter | setRawTpxPath | flush | setClusterParameters
  | setClusterPath =>
    rw [packetsTaken_other rfl]
    exact h

/-- **Every event keeps the measuring path consistent.** -/
theorem Consistent.step (h : Consistent s) (e : Event) : Consistent (s.step e) where
  raw := published_step_eq (by decide) e messageOf (s.published_managers e).1 h.raw
    (Measurement.published_raw s _)
  clusters := published_step_eq (by decide) e messageOf (s.published_managers e).2.1 h.clusters
    (Measurement.published_clusters s _)
  frames := published_step_eq (by decide) e frameBytes (s.published_managers e).2.2 h.frames
    (Measurement.published_frames s _)
  faithful := PubSub.faithful_acts (s.actions e) h.faithful
  accounted := accounted_step h.accounted e

theorem Consistent.run (h : Consistent s) (events : List Event) : Consistent (s.run events) := by
  induction events generalizing s with
  | nil => exact h
  | cons e events ih => exact ih (h.step e)

theorem consistent_start (settings : ClusterSettings) (time : ℤ) :
    Consistent (.start settings time) where
  raw := rfl
  clusters := rfl
  frames := rfl
  faithful := PubSub.faithful_empty
  accounted := Histogram.accounted_start time

end Invariant

/-! ## At most once, in order -/

theorem Consistent.packets_sublist {s : Measurement} (h : Consistent s) (k : Input) :
    (s.packetsTaken k).Sublist s.packetsPublished :=
  ((List.sublist_append_left _ _).trans (h.faithful k).sublist).flatMap _

/-- **At most once, in order.** After any events in any order, what an input socket has taken and
has waiting is a subsequence of what was published; each publisher's part of that is exactly its
messages in order; the packets behind the frames and in the array are those the histogram manager
took, and nowhere does it show more hits than were published. -/
theorem delivered_at_most_once (settings : ClusterSettings) (time : ℤ) (events : List Event) :
    let s := (Measurement.start settings time).run events
    (∀ k, (s.net.subscriber k).line.Sublist s.net.log) ∧
    (s.net.published .raw = s.udp.published.map messageOf ∧
      s.net.published .clusters = s.clusters.published.map messageOf ∧
      s.net.published .frames = s.histogram.published.map frameBytes) ∧
    s.histogram.counted.flatten ++ s.histogram.received = s.packetsTaken .histogram ∧
    ∀ x y, s.histogram.shown x y ≤ Histogram.hits x y s.packetsPublished := by
  intro s
  have h : Consistent s := (consistent_start settings time).run events
  refine ⟨fun k => (h.faithful k).sublist, ⟨h.raw, h.clusters, h.frames⟩, h.accounted.received,
    fun x y => ?_⟩
  exact (h.accounted.shown_le x y).trans (h.packets_sublist .histogram).countP_le

end Measuring

end TpxServer
