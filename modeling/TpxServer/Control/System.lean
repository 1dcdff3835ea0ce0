import TpxServer.Comms.Forwarding
import TpxServer.Comms.StepFrames
import TpxServer.Lib.Rendezvous
import TpxServer.Measuring.Turns

/-!
# The communication thread and the secondary threads together

The communication thread forwards a request through the REQ socket of a secondary thread and blocks
until the reply arrives; meanwhile it takes no step, but its flag can be set and secondary threads
can end. A secondary thread waits in the thread pool for a place, runs its `execute` and polls its
REP socket and its manager in turn. What polling does to a manager is left open here.

`setMaxThreadCount` bounds the threads that the pool runs at a time, the communication thread among
them; the others wait in the order in which they were started. ZeroMQ can create and bind the
sockets of all threads.
-/

namespace TpxServer.Control

open Comms (SecondaryThread ServerCommand Surroundings ThreadResult UdpThread ClusterThread
  HistogramThread Server SecondaryThreads RepSocket ReqSocket Subscriber)
open Comms.PythonConnectionManager (requestCode requestData)
open Measuring (Role Worker Outline)
open Clustering Udp
open Histogram (HistogramManager)

/-! ## A secondary thread -/

abbrev Manager : Role → Type
  | .udp => UdpConnectionManager
  | .clusters => Subscriber ClusteringManager
  | .histogram => Subscriber HistogramManager

/-- The threads override `handleCommand`. -/
def Secondary.handleCommand : (role : Role) → Surroundings → ServerCommand → DataVec →
    SecondaryThread (Manager role) → ThreadResult (Manager role)
  | .udp => UdpThread.handleCommand
  | .clusters => ClusterThread.handleCommand
  | .histogram => HistogramThread.handleCommand

/-- `execute` before its loop; `bindError` is what `attemptConnection` of a UDP thread catches. -/
def enter (mHostPort : ℕ) (bindError : Option String) :
    (role : Role) → SecondaryThread (Manager role) → SecondaryThread (Manager role)
  | .udp, t =>
    let t := t.signal (.log ("Launching UDP server on port " ++ toString mHostPort))
    match bindError with
    | none => t
    | some what =>
      { (t.signal (.err "An unknown error occurred in the UDP server thread.")).signal
          (.err (Measuring.Program.lineBreaks what)) with
        mShouldCancel := true }
  | .clusters, t => t.signal (.log "Clustering server started")
  | .histogram, t => t.signal (.log "Histogram server started")

/-- `begun` tells whether the pool runs the thread already. -/
structure Secondary where
  role : Role
  worker : Worker (Manager role)
  mHostPort : ℕ := 0
  begun : Bool := false

namespace Secondary

variable (t : Secondary)

def outline : Outline := t.worker.outline

def socket : RepSocket := t.outline.socket

def cancel : Secondary := { t with worker := t.worker.cancel }

/-- The flag is set if the thread is one of those that were cancelled. -/
def mark (cancelled : Prop) [Decidable cancelled] : Secondary :=
  if cancelled then t.cancel else t

def run (bindError : Option String) : Option Secondary :=
  if t.begun then none
  else some { t with
    worker := { t.worker with thread := enter t.mHostPort bindError t.role t.worker.thread }
    begun := true }

def test : Option Secondary :=
  if t.begun then (t.worker.test t.role.serverName).map fun w => { t with worker := w } else none

def commands (env : Surroundings) (request : Option (List Byte)) : Option Secondary :=
  if t.begun then
    (t.worker.commands t.role.serverName (handleCommand t.role env) request).map fun w =>
      { t with worker := w }
  else none

def poll (manager : (role : Role) → Manager role) : Option Secondary :=
  if t.begun then (t.worker.poll (manager t.role)).map fun w => { t with worker := w } else none

/-- `UdpConnectionManager::poll` throws, and `execute` catches it. The other managers catch what
they meet themselves. -/
def pollThrows : Option Secondary :=
  if t.begun ∧ t.role = .udp ∧ t.worker.phase = .poll then
    some { t with worker :=
      { phase := .head, thread := Worker.unknownError t.role.serverName t.worker.thread } }
  else none

end Secondary

/-- A new thread. -/
def create (role : Role) (manager : Manager role) (mHostPort : ℕ) : Secondary where
  role := role
  worker := { thread := { manager := manager } }
  mHostPort := mHostPort

/-! ## The threads together -/

/-- The request that the communication thread waits for. -/
abbrev Waiting := Rendezvous.Waiting ℕ (List Byte) (List Byte)

/-- A request with what the client was sent for it. -/
abbrev Call := Rendezvous.Call ℕ (List Byte) (List Byte)

/-- The secondary threads stand under their numbers. `maxThreadCount` is that of the thread pool.
`calls` keeps the requests that were forwarded and answered. -/
structure System where
  maxThreadCount : ℕ
  server : Server
  threads : List Secondary
  waiting : Option Waiting := none
  calls : List Call := []

inductive Event where
  /-- The communication thread takes a step, or something happens to it. -/
  | comms (e : Comms.Event)
  /-- The reply of the secondary thread arrives. -/
  | reply
  /-- The thread pool begins to run a secondary thread. -/
  | run (id : ℕ) (bindError : Option String)
  /-- A secondary thread tests its flag. -/
  | test (id : ℕ)
  /-- `pollCommands` of a secondary thread; `arrived` tells whether a request that was sent to it
  has come already. -/
  | commands (id : ℕ) (env : Surroundings) (arrived : Bool)
  /-- `poll` of the manager, which leaves it as `manager` says. -/
  | poll (id : ℕ) (manager : (role : Role) → Manager role)
  /-- `poll` of the manager throws. -/
  | pollThrows (id : ℕ)

/-- The thread and the socket that a request is forwarded through. -/
def forwardsTo (server : Server) (msg : List Byte) : Option ℕ :=
  if Comms.Accepted server msg then
    (Comms.forwardTarget (requestCode msg) server.thread.threads).bind fun ref =>
      (ref.socket.filter ReqSocket.isOpen).map ReqSocket.thread
  else none

/-- The secondary threads after a step of the communication thread: the UDP thread is created that
it has launched, and the flags are set of those that it has cancelled. -/
def follow (threads : SecondaryThreads) (mHostPort : ℕ) (ts : List Secondary) : List Secondary :=
  (ts ++ List.replicate (threads.started - ts.length) (create .udp {} mHostPort)).mapIdx
    fun id t => t.mark (id ∈ threads.cancelled)

/-- The port that `bindUdpPort` is called with. -/
def portOf : Comms.Event → ℕ
  | .client (some msg) _ => ((requestData msg).headD 0).toNat
  | _ => 0

namespace System

variable (x : System)

/-- The communication thread has taken a step. -/
def proceed (mHostPort : ℕ) (server : Server) : System :=
  { x with
    server := server
    threads := follow server.thread.threads mHostPort x.threads }

def comms (e : Comms.Event) : Option System :=
  match e with
  | .cancel => (Server.step x.server e).map (x.proceed 0)
  | .finish id =>
    -- a thread that has ended deletes itself
    if (x.threads[id]?).any fun t => t.worker.phase = .ended then
      (Server.step x.server e).map (x.proceed 0)
    else none
  | .client (some msg) answer =>
    if x.waiting.isSome then none
    else
      match forwardsTo x.server msg with
      | some id => some { x with waiting := some { callee := id, request := msg } }
      | none => (Server.step x.server (.client (some msg) answer)).map (x.proceed (portOf e))
  | e => if x.waiting.isSome then none else (Server.step x.server e).map (x.proceed 0)

/-- The pool has a place for the thread beside those that were started before it: the communication
thread, until it returns, and the secondary threads that have not ended. -/
def hasRoom (id : ℕ) : Bool :=
  (if x.server.phase = .stopped then 0 else 1) +
    (x.threads.take id).countP (fun t => t.worker.phase ≠ .ended) < x.maxThreadCount

/-- What a step of a secondary thread is for the call it was asked for. -/
def progress (before after : RepSocket) (w : Waiting) : Waiting :=
  { w with
    taken := w.taken || decide (before.received.length < after.received.length)
    reply := w.reply <|> (Measuring.news before.sent after.sent).head? }

/-- The request that has come to the socket of a secondary thread. -/
def arriving (id : ℕ) : Option (List Byte) :=
  (x.waiting.filter fun w => w.callee = id ∧ w.taken = false).map (·.request)

def step : Event → Option System
  | .comms e => x.comms e
  | .reply =>
    x.waiting.bind fun w =>
      w.reply.bind fun reply =>
        (Server.step x.server (.client (some w.request) reply)).map fun server =>
          { x.proceed 0 server with
            waiting := none
            calls := x.calls ++ [{
              callee := w.callee
              request := w.request
              delivered := Measuring.news x.server.thread.mClientManager.mCommandSocket.sent
                server.thread.mClientManager.mCommandSocket.sent }] }
  | .run id bindError =>
    if x.hasRoom id then
      x.threads[id]?.bind fun t =>
        (t.run bindError).map fun t' => { x with threads := x.threads.set id t' }
    else none
  | .test id =>
    x.threads[id]?.bind fun t => t.test.map fun t' => { x with threads := x.threads.set id t' }
  | .commands id env arrived =>
    x.threads[id]?.bind fun t =>
      (t.commands env (if arrived then x.arriving id else none)).map fun t' =>
        { x with
          threads := x.threads.set id t'
          waiting := x.waiting.map fun w =>
            if w.callee = id then progress t.socket t'.socket w else w }
  | .poll id manager =>
    x.threads[id]?.bind fun t =>
      (t.poll manager).map fun t' => { x with threads := x.threads.set id t' }
  | .pollThrows id =>
    x.threads[id]?.bind fun t =>
      t.pollThrows.map fun t' => { x with threads := x.threads.set id t' }

/-- The cluster thread and the histogram thread have the numbers 0 and 1. -/
def start (maxThreadCount : ℕ) (openError : Option Comms.OpenError) (settings : ClusterSettings)
    (time : ℤ) : System :=
  let server := Server.start openError
  { maxThreadCount := maxThreadCount
    server := server
    threads := follow server.thread.threads 0
      [create .clusters { manager := { settings := settings } } 0,
        create .histogram { manager := { mLastOutputTime := time } } 0] }

end System

end TpxServer.Control
