import TpxServer.Comms.Client
import TpxServer.Lib.Runs

/-!
# The loop of the communication thread

`CommsThread::execute` as a machine. The phase tells where in the loop the thread is: at the test of
`shouldCancel`, in the call of `io_context::poll` on behalf of the Timepix manager, or before the
poll of the client manager. Everything that the environment decides is in the events: which
operation completes with which result, what a client sends, when the user stops the server.
-/

namespace TpxServer.Comms

open TimepixConnectionManager

inductive Phase where
  /-- At the head of the loop. -/
  | head
  /-- In `mAsioIO->poll()`. -/
  | asio
  /-- Before `mClientManager->poll()`. -/
  | client
  /-- `execute` has returned. -/
  | stopped
  /-- The program has done something that has no defined behaviour. -/
  | undefined
  deriving Repr, DecidableEq

structure Server where
  phase : Phase
  thread : CommsThread
  deriving Repr, DecidableEq

inductive Event where
  /-- The user stops the server. -/
  | cancel
  /-- A secondary thread ends. -/
  | finish (id : ℕ)
  /-- An iteration begins. -/
  | iterate (attempt : Attempt)
  /-- The asynchronous `connect` completes. -/
  | connected (err : Option ErrorCode) (attempt : Attempt)
  /-- `async_send` completes. -/
  | sent (err : Option ErrorCode) (bytes_sent : ℕ)
  /-- `async_read_some` completes. -/
  | received (err : Option ErrorCode) (bytes : List Byte)
  /-- No further operation has completed. -/
  | idle
  /-- The client manager is polled. -/
  | client (request : Option (List Byte)) (answer : List Byte)
  deriving Repr, DecidableEq

/-- What the SPIDR sends in one read. -/
def Event.response : Event → Option (List Byte)
  | .received none bytes => some bytes
  | _ => none

theorem Event.eq_received {e : Event} {bytes : List Byte} (h : bytes ∈ e.response) :
    e = .received none bytes := by
  cases e with
  | received err bytes' =>
    cases err with
    | none => cases h; rfl
    | some code => cases h
  | cancel => cases h
  | finish id => cases h
  | iterate attempt => cases h
  | connected err attempt => cases h
  | sent err bytes_sent => cases h
  | idle => cases h
  | client request answer => cases h

theorem Event.forall_response {P : List Byte → Prop} {bytes : List Byte} :
    (∀ b ∈ (Event.received none bytes).response, P b) ↔ P bytes :=
  ⟨fun h => h bytes rfl, fun h _ hb => Option.some.inj hb ▸ h⟩

theorem Event.forall_no_response {P : List Byte → Prop} {e : Event} (h : e.response = none) :
    ∀ b ∈ e.response, P b :=
  fun _ hb => nomatch h.symm.trans hb

namespace Server

/-! ## Leaving the loop -/

/-- Closing a command socket. -/
def closeSocket (socket : Option ReqSocket) : Option ReqSocket :=
  socket.map fun socket => { socket with isOpen := false }

/-- The secondary threads are cancelled and their sockets closed. -/
def closeThreads (s : CommsThread) : Result :=
  (s.cancelThread s.threads.mUdpThread).andThen fun s =>
    (s.cancelThread s.threads.mClusterThread).andThen fun s =>
      (s.cancelThread s.threads.mHistogramThread).andThen fun s =>
        .ok { s with
          threads := { s.threads with
            mUdpThread := none
            mUdpCommandSocket := closeSocket s.threads.mUdpCommandSocket
            mClusterThread := none
            mClusterCommandSocket := closeSocket s.threads.mClusterCommandSocket
            mHistogramThread := none
            mHistogramCommandSocket := closeSocket s.threads.mHistogramCommandSocket } }

/-- The end of `execute`. An exception here ends in `BgThread::run`. -/
def shutdown (s : CommsThread) : Server :=
  match (clearAnyClientRequest s).andThen fun s => closeThreads (terminateConnection s) with
  | .ok s => ⟨.stopped, s.sendLog "Server thread shutting down"⟩
  | .throws _ s => ⟨.stopped, s.sendErr "An unknown exception has occurred. Shutting down server."⟩
  | .undefined => ⟨.undefined, s⟩

/-- The exception handlers of the loop. -/
def handleException (e : Exn) (s : CommsThread) : Server :=
  match e with
  | .system_error code =>
    let s := s.sendErr ("A network error occurred while communicating with the Timepix (errcode=" ++
      toString code.value ++ ")")
    shutdown ((s.sendErr code.message).sendErr "Server is shutting down.")
  | .error_t _ what | .std_exception what =>
    let s := (s.sendErr "An unknown error occurred:").sendErr what
    shutdown (s.sendErr "Server is shutting down.").cancel

/-- The loop goes on after a call, unless the call threw an exception. -/
def resume (o : Result) (k : CommsThread → Server) (s₀ : CommsThread) : Server :=
  match o with
  | .ok s => k s
  | .throws e s => handleException e s
  | .undefined => ⟨.undefined, s₀⟩

/-! ## One iteration -/

/-- After `mTpxManager->poll()`. -/
def afterPoll (s : CommsThread) : Server :=
  ⟨if s.mTpxManager.mIsExecutingCommand then .head else .client, s⟩

/-- A new client manager replaces the one whose connection failed; its socket can be bound. -/
def renewClient (s : CommsThread) : CommsThread :=
  if s.mShouldResetClient then
    { s with mClientManager := { id := s.mClientManager.id + 1 }, mShouldResetClient := false }
  else s

/-- `mTpxManager->poll()` until it polls the `io_context`. -/
def beginPoll (attempt : Attempt) (s : CommsThread) : Server :=
  match nextCommand s with
  | none => ⟨.asio, s⟩
  | some next_command =>
    if next_command.command = .CMD_RESET_MODULE then
      resume (((pollQueue next_command s).andThen (resetModule attempt)).catching networkError)
        afterPoll s
    else resume ((pollQueue next_command s).catching networkError) (⟨.asio, ·⟩) s

/-- A handler is called by `mAsioIO->poll()`. An exception ends the poll. -/
def callback (o : Result) (s₀ : CommsThread) : Server :=
  match o with
  | .ok s => ⟨.asio, s⟩
  | o => resume (o.catching networkError) afterPoll s₀

/-- Before the handler of an operation is called, the operation is over. -/
def takeConnect (s : CommsThread) : CommsThread :=
  s.withTpx { s.mTpxManager with pendingConnect := false }

def takeSend (s : CommsThread) : CommsThread :=
  s.withTpx { s.mTpxManager with pendingSend := none }

/-- The bytes read are in the buffer. -/
def takeRead (bytes : List Byte) (s : CommsThread) : CommsThread :=
  s.withTpx { s.mTpxManager with
    pendingRead := false
    mResponseBuffer := fill s.mTpxManager.mResponseBuffer bytes }

def step (x : Server) (e : Event) : Option Server :=
  let s := x.thread
  match x.phase, e with
  | .stopped, _ => none
  | .undefined, _ => none
  | phase, .cancel => some ⟨phase, s.cancel⟩
  | phase, .finish id =>
    if id < s.threads.started then
      some ⟨phase, { s with threads := { s.threads with finished := s.threads.finished ++ [id] } }⟩
    else none
  | .head, .iterate attempt =>
    some (if s.mShouldCancel then shutdown s else beginPoll attempt (renewClient s))
  | .asio, .connected err attempt =>
    if s.mTpxManager.pendingConnect then
      some (callback (initializeConnection err attempt (takeConnect s)) (takeConnect s))
    else none
  | .asio, .sent err bytes_sent =>
    if s.mTpxManager.pendingSend.isSome then
      some (callback (commandSent err bytes_sent (takeSend s)) (takeSend s))
    else none
  | .asio, .received err bytes =>
    if s.mTpxManager.pendingRead ∧ bytes.length ≤ BUFFER_SIZE then
      some (callback (commandRecv err bytes.length (takeRead bytes s)) (takeRead bytes s))
    else none
  | .asio, .idle => some (afterPoll s)
  | .client, .client request answer =>
    some (resume (PythonConnectionManager.poll request answer s) (⟨.head, ·⟩) s)
  | _, _ => none

/-- Before the loop: the first connection attempt, the client socket, and the cluster and histogram
threads. The sockets of ZeroMQ can be created and bound; otherwise `execute` ends here. -/
def start (openError : Option OpenError) : Server :=
  let s : CommsThread :=
    { threads :=
        { mClusterThread := some 0
          mClusterCommandSocket := some { thread := 0 }
          mHistogramThread := some 1
          mHistogramCommandSocket := some { thread := 1 }
          started := 2 } }
  resume (attemptConnection false { openError := openError } s) (⟨.head, ·⟩) s

end Server

end TpxServer.Comms
