import TpxServer.Clustering.Manager
import TpxServer.Histogram.Manager
import TpxServer.Lib.PubSub
import TpxServer.Udp.Manager

/-!
# The measuring path

The three managers and the sockets between them. The UDP manager publishes the hits it decodes, the
clustering manager publishes clusters and the histogram manager frames; the clustering manager and
the histogram manager each have an input socket, which can be connected to any of the three, or to a
server elsewhere. Each thread takes its steps when it likes, so the events come in any order.
-/

namespace TpxServer.Clustering.ClusteringManager

/-- `poll` with an input socket. -/
def poll (m : ClusteringManager) (recv : Histogram.Received) : ClusteringManager :=
  match recv with
  | .throws =>
    { m with
      signals :=
        m.signals ++ [.warn "Error occured while handling packets in clustering thread"] }
  | .nothing => m
  | .message msg =>
    if msg.length ≠ 0 then m.handlePackets (Histogram.HistogramManager.packetsOf msg) else m

end TpxServer.Clustering.ClusteringManager

namespace TpxServer.Measuring

open Clustering Udp
open Histogram (Received Frame HistogramManager messageOf)

/-- The packets that come with a poll. -/
def packetsReceived : Received → List Word
  | .message msg => HistogramManager.packetsOf msg
  | _ => []

/-! ## The sockets -/

/-- The publishers. -/
inductive Topic where
  | raw
  | clusters
  | frames
  | elsewhere
  deriving Repr, DecidableEq

/-- The input sockets. -/
inductive Input where
  | clusters
  | histogram
  deriving Repr, DecidableEq

abbrev Network := PubSub.Network Topic Input (List Byte)

/-- `zmq::buffer(mHistogram)`. -/
def frameBytes (frame : Frame) : List Byte := frame.toList.flatMap (storeLE 2)

/-- What was published beyond `before`. -/
def news {β : Type*} (before after : List β) : List β := after.drop before.length

theorem news_append {β : Type*} (before new : List β) : news before (before ++ new) = new :=
  List.drop_left

theorem news_self {β : Type*} (before : List β) : news before before = [] := List.drop_length

/-! ## The machine -/

structure Measurement where
  udp : UdpConnectionManager := {}
  clusters : ClusteringManager := {}
  histogram : HistogramManager
  net : Network := {}

/-- `accepts` tells which input sockets a message published by the step reaches, and `recvThrows`
whether receiving from the input socket fails. -/
inductive Event where
  | handleMessage (d : Datagram) (accepts : Input → Bool)
  | resetToaRolloverCounter
  | setRawTpxPath (path : String) (opened : Bool)
  | pollClusters (recvThrows : Bool) (accepts : Input → Bool)
  | flush (accepts : Input → Bool)
  | setClusterParameters (max_sep_xy max_sep_t max_t_sep : BitVec 32)
  | setClusterPath (path : String) (opened : Bool)
  | pollHistogram (recvThrows : Bool) (new_time : ℤ) (sendThrows : Bool) (accepts : Input → Bool)
  | setOutputPeriod (period_ms : BitVec 32)
  | connect (k : Input) (topic : Option Topic)
  | foreign (message : List Byte) (accepts : Input → Bool)

/-- A failing `recv` leaves the message where it is. -/
def takes (k : Input) (recvThrows : Bool) : List (PubSub.Action Topic Input (List Byte)) :=
  if recvThrows then [] else [.take k]

/-- What an event does at the sockets by itself. -/
def Event.atSockets : Event → List (PubSub.Action Topic Input (List Byte))
  | .pollClusters recvThrows _ => takes .clusters recvThrows
  | .pollHistogram recvThrows _ _ _ => takes .histogram recvThrows
  | .connect k topic => [.connect k topic]
  | .foreign message accepts => [.publish .elsewhere message accepts]
  | _ => []

def Event.accepts : Event → Input → Bool
  | .handleMessage _ accepts => accepts
  | .pollClusters _ accepts => accepts
  | .flush accepts => accepts
  | .pollHistogram _ _ _ accepts => accepts
  | .foreign _ accepts => accepts
  | _ => fun _ => true

namespace Measurement

/-- What a manager gets from its input socket. -/
def received (s : Measurement) (k : Input) (recvThrows : Bool) : Received :=
  if recvThrows then .throws
  else
    match (s.net.subscriber k).inbox with
    | [] => .nothing
    | p :: _ => .message p.2

/-- The managers after an event. -/
def managers (s : Measurement) : Event → Measurement
  | .handleMessage d _ => { s with udp := s.udp.handleMessage d }
  | .resetToaRolloverCounter =>
    { s with
      udp := { s.udp with
        toRolloverState := Udp.resetToaRolloverCounter s.udp.toRolloverState } }
  | .setRawTpxPath path opened => { s with udp := (s.udp.setSaveFile path opened).1 }
  | .pollClusters recvThrows _ =>
    { s with clusters := s.clusters.poll (s.received .clusters recvThrows) }
  | .flush _ => { s with clusters := s.clusters.flush }
  | .setClusterParameters max_sep_xy max_sep_t max_t_sep =>
    { s with clusters := s.clusters.setClusterParameters max_sep_xy max_sep_t max_t_sep }
  | .setClusterPath path opened => { s with clusters := (s.clusters.setSaveFile path opened).1 }
  | .pollHistogram recvThrows new_time sendThrows _ =>
    { s with
      histogram := s.histogram.poll (s.received .histogram recvThrows) new_time sendThrows }
  | .setOutputPeriod period_ms => { s with histogram := s.histogram.setOutputPeriod period_ms }
  | .connect _ _ => s
  | .foreign _ _ => s

/-- The messages that the managers of `t` have sent and those of `s` have not. -/
def sent (s t : Measurement) : List (Topic × List Byte) :=
  (news s.udp.published t.udp.published).map (fun data => (.raw, messageOf data)) ++
    (news s.clusters.published t.clusters.published).map
      (fun data => (.clusters, messageOf data)) ++
    (news s.histogram.published t.histogram.published).map
      (fun frame => (.frames, frameBytes frame))

/-- What an event does at the sockets. -/
def actions (s : Measurement) (e : Event) : List (PubSub.Action Topic Input (List Byte)) :=
  e.atSockets ++ (sent s (s.managers e)).map fun p => .publish p.1 p.2 e.accepts

def step (s : Measurement) (e : Event) : Measurement :=
  { s.managers e with net := s.net.acts (s.actions e) }

def run (s : Measurement) (events : List Event) : Measurement := events.foldl step s

/-- No input socket is connected, and nothing was received. -/
def start (settings : ClusterSettings) (time : ℤ) : Measurement where
  clusters := { settings := settings }
  histogram := { mLastOutputTime := time }

/-- The packets that a manager took from its input socket. -/
def packetsTaken (s : Measurement) (k : Input) : List Word :=
  (s.net.subscriber k).taken.flatMap fun p => HistogramManager.packetsOf p.2

/-- The packets that wait at an input socket. -/
def packetsWaiting (s : Measurement) (k : Input) : List Word :=
  (s.net.subscriber k).inbox.flatMap fun p => HistogramManager.packetsOf p.2

/-- All packets that were published. -/
def packetsPublished (s : Measurement) : List Word :=
  s.net.log.flatMap fun p => HistogramManager.packetsOf p.2

end Measurement

end TpxServer.Measuring
