import TpxServer.Comms.InputServers
import TpxServer.Measuring.Delivery

/-!
# The threads of the measuring path

The UDP thread, the cluster thread and the histogram thread as they run: each is in the loop of its
`execute`, where `pollCommands` and `poll` of the manager take turns until the thread is found
cancelled. Testing the flag and looking for a request are two steps, so a thread that is cancelled
in between still takes a request. Requests are any bytes, and exceptions are caught where the
program catches them. The managers of the cluster thread and the histogram thread catch what they
meet in `poll`; the UDP manager catches nothing, and the calls that it makes there are taken not to
fail.

Every step of a thread is a sequence of events of the measuring path (`abs_step`), so what holds
after any events holds for the threads after any requests (`threads_refine`).
-/

namespace TpxServer.Measuring

open Comms (SecondaryThread ServerCommand Surroundings ThreadResult UdpThread ClusterThread
  HistogramThread SubSocket pathString pathOf inputSocket)
open Clustering Udp
open Histogram (HistogramManager messageOf)

/-! ## The loop -/

inductive WorkerPhase where
  /-- Before the test of `shouldCancel`. -/
  | head
  /-- In the loop, before `pollCommands`. -/
  | commands
  /-- Before `poll` of the manager. -/
  | poll
  /-- `execute` has returned. -/
  | ended
  deriving Repr, DecidableEq

/-- A secondary thread in its loop. -/
structure Worker (μ : Type*) where
  phase : WorkerPhase := .head
  thread : SecondaryThread μ

namespace Worker

variable {μ : Type*}

/-- The catch-all handler of `execute`. -/
def unknownError (server : String) (t : SecondaryThread μ) : SecondaryThread μ :=
  { (t.signal (.err "An unknown error occurred.")).signal
      (.err (server ++ " is shutting down.")) with
    mShouldCancel := true }

/-- `while(!shouldCancel())`. -/
def test (server : String) (w : Worker μ) : Option (Worker μ) :=
  match w.phase with
  | .head =>
    if w.thread.mShouldCancel then
      some { phase := .ended, thread := w.thread.signal (.log (server ++ " shutting down")) }
    else some { w with phase := .commands }
  | _ => none

/-- `pollCommands`, when `request` waits at the socket. -/
def commands (server : String)
    (handleCommand : ServerCommand → DataVec → SecondaryThread μ → ThreadResult μ)
    (request : Option (List Byte)) (w : Worker μ) : Option (Worker μ) :=
  match w.phase with
  | .commands =>
    match w.thread.pollCommands handleCommand request with
    | .ok t => some { phase := .poll, thread := t }
    | .throws _ t => some { phase := .head, thread := unknownError server t }
    | .undefined => none
  | _ => none

/-- `poll` of the manager, which leaves it as `manager`. -/
def poll (manager : μ) (w : Worker μ) : Option (Worker μ) :=
  match w.phase with
  | .poll => some { phase := .head, thread := { w.thread with manager := manager } }
  | _ => none

def cancel (w : Worker μ) : Worker μ := { w with thread := { w.thread with mShouldCancel := true } }

/-- What `pollCommands` hands to `handleCommand`, if it comes to that. -/
def handles (request : Option (List Byte)) (w : Worker μ) : Option (ServerCommand × DataVec) :=
  if w.thread.mCommandSocket.recvError ≠ none then none
  else
    request.bind fun msg =>
      if msg.length < 4 ∨ msg.length % 2 ^ 32 % 4 ≠ 0 ∨ msg.length % 2 ^ 32 = 0 then none
      else some (⟨wordAt 4 msg 0⟩, SecondaryThread.commandData (msg.length % 2 ^ 32) msg)

end Worker

/-! ## The program -/

/-- The secondary threads and the sockets between them. -/
structure Program where
  udp : Worker UdpConnectionManager
  clusters : Worker (Comms.Subscriber ClusteringManager)
  histogram : Worker (Comms.Subscriber HistogramManager)
  net : Network

inductive Role where
  | udp
  | clusters
  | histogram
  deriving Repr, DecidableEq

/-- How a thread calls itself. -/
def Role.serverName : Role → String
  | .udp => "UDP server"
  | .clusters => "Clustering server"
  | .histogram => "Histogram server"

inductive ThreadEvent where
  | test (role : Role)
  | udpCommands (env : Surroundings) (request : Option (List Byte))
  | udpPoll (datagrams : List (Datagram × (Input → Bool)))
  | clusterCommands (env : Surroundings) (request : Option (List Byte)) (accepts : Input → Bool)
  | clusterPoll (recvThrows : Bool) (accepts : Input → Bool)
  | histogramCommands (env : Surroundings) (request : Option (List Byte))
  | histogramPoll (recvThrows : Bool) (new_time : ℤ) (sendThrows : Bool) (accepts : Input → Bool)
  | cancel (role : Role)
  | foreign (message : List Byte) (accepts : Input → Bool)

/-- The publisher that an input socket is connected to; `resolve` tells who publishes at an
address. -/
def endpoint (resolve : String → Option Topic) (socket : Option SubSocket) : Option Topic :=
  (socket.bind (·.connected)).bind resolve

/-- `connect` at the network if the handled command sets the input of `k`. -/
def reconnect (resolve : String → Option Topic) (code : ServerCommand) (k : Input)
    (handled : Option (ServerCommand × DataVec)) (socket : Option SubSocket) (net : Network) :
    Network :=
  match handled with
  | some (cmd, _) => if cmd = code then net.act (.connect k (endpoint resolve socket)) else net
  | none => net

namespace Program

variable (resolve : String → Option Topic)

/-- The managers and the sockets. -/
def abs (p : Program) : Measurement where
  udp := p.udp.thread.manager
  clusters := p.clusters.thread.manager.manager
  histogram := p.histogram.thread.manager.manager
  net := p.net

def step (p : Program) : ThreadEvent → Option Program
  | .test .udp => (p.udp.test Role.udp.serverName).map fun w => { p with udp := w }
  | .test .clusters =>
    (p.clusters.test Role.clusters.serverName).map fun w => { p with clusters := w }
  | .test .histogram =>
    (p.histogram.test Role.histogram.serverName).map fun w => { p with histogram := w }
  | .udpCommands env request =>
    (p.udp.commands Role.udp.serverName (UdpThread.handleCommand env) request).map fun w =>
      { p with udp := w }
  | .udpPoll datagrams =>
    let s := p.abs.run (datagrams.map fun d => .handleMessage d.1 d.2)
    (p.udp.poll s.udp).map fun w => { p with udp := w, net := s.net }
  | .clusterCommands env request accepts =>
    (p.clusters.commands Role.clusters.serverName (ClusterThread.handleCommand env)
      request).map fun w =>
      let net := reconnect resolve .SET_CLUSTER_INPUT_SERVER .clusters (p.clusters.handles request)
        w.thread.manager.socket p.net
      -- the messages that a handler has sent
      let sent := news p.clusters.thread.manager.manager.published
        w.thread.manager.manager.published
      { p with
        clusters := w
        net := net.acts (sent.map fun data => .publish .clusters (messageOf data) accepts) }
  | .clusterPoll recvThrows accepts =>
    let m := p.clusters.thread.manager
    match m.socket with
    | none => (p.clusters.poll m).map fun w => { p with clusters := w }
    | some _ =>
      let s := p.abs.step (.pollClusters recvThrows accepts)
      (p.clusters.poll { m with manager := s.clusters }).map fun w =>
        { p with clusters := w, net := s.net }
  | .histogramCommands env request =>
    (p.histogram.commands Role.histogram.serverName (HistogramThread.handleCommand env)
      request).map fun w =>
      { p with
        histogram := w
        net := reconnect resolve .SET_HISTOGRAM_INPUT_SERVER .histogram
          (p.histogram.handles request) w.thread.manager.socket p.net }
  | .histogramPoll recvThrows new_time sendThrows accepts =>
    let m := p.histogram.thread.manager
    match m.socket with
    | none => (p.histogram.poll m).map fun w => { p with histogram := w }
    | some _ =>
      let s := p.abs.step (.pollHistogram recvThrows new_time sendThrows accepts)
      (p.histogram.poll { m with manager := s.histogram }).map fun w =>
        { p with histogram := w, net := s.net }
  | .cancel .udp => some { p with udp := p.udp.cancel }
  | .cancel .clusters => some { p with clusters := p.clusters.cancel }
  | .cancel .histogram => some { p with histogram := p.histogram.cancel }
  | .foreign message accepts =>
    some { p with net := p.net.act (.publish .elsewhere message accepts) }

/-- `what()` of an exception, for the log window. -/
def lineBreaks (what : String) : String :=
  String.ofList (what.toList.flatMap fun c => if c = Char.ofNat 10 then "<br>".toList else [c])

/-- Before the loop of `UdpThread`; `bindError` is what `attemptConnection` catches. -/
def startUdp (host_port : ℕ) (bindError : Option String) : SecondaryThread UdpConnectionManager :=
  let t : SecondaryThread UdpConnectionManager :=
    { manager := {}, signals := [.log ("Launching UDP server on port " ++ toString host_port)] }
  match bindError with
  | none => t
  | some what =>
    { (t.signal (.err "An unknown error occurred in the UDP server thread.")).signal
        (.err (lineBreaks what)) with
      mShouldCancel := true }

def start (host_port : ℕ) (bindError : Option String) (settings : ClusterSettings) (time : ℤ) :
    Program where
  udp := { thread := startUdp host_port bindError }
  clusters :=
    { thread :=
        { manager := { manager := { settings := settings } }
          signals := [.log "Clustering server started"] } }
  histogram :=
    { thread :=
        { manager := { manager := { mLastOutputTime := time } }
          signals := [.log "Histogram server started"] } }
  net := {}

end Program

end TpxServer.Measuring
