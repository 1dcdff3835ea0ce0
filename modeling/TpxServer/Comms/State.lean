import TpxServer.Comms.Codes
import TpxServer.Lib.Outcome

/-!
# The state of the communication thread

`CommsThread` owns the two managers: `TimepixConnectionManager` talks to the SPIDR over an
asynchronous TCP socket, `PythonConnectionManager` answers the clients on a ZeroMQ REP socket. The
managers call each other and the thread, so their functions act on the state of the thread as a
whole. `mExpectedReply` and `mTcpServerCommands`, which nothing reads, and the addresses are left
out.
-/

namespace TpxServer.Comms

/-! ## Exceptions -/

/-- `asio::error_code`. -/
structure ErrorCode where
  value : ℤ
  message : String
  deriving Repr, DecidableEq

inductive Exn where
  /-- `asio::system_error` -/
  | system_error (code : ErrorCode)
  /-- `zmq::error_t` -/
  | error_t (num : ℕ) (what : String)
  /-- Any other `std::exception`. -/
  | std_exception (what : String)
  deriving Repr, DecidableEq

/-- The error of a socket used in the wrong state. -/
def EFSM : ℕ := 156384763

/-- The error of a closed socket. -/
def ENOTSOCK : ℕ := 88

/-! ## The REP socket -/

/-- The words of a message in host order. -/
def wordsToBytes (data : DataVec) : List Byte := data.flatMap (storeLE 4)

theorem length_wordsToBytes (data : DataVec) : (wordsToBytes data).length = 4 * data.length := by
  induction data with
  | nil => rfl
  | cons w data ih =>
    unfold wordsToBytes at ih ⊢
    rw [List.flatMap_cons, List.length_append, ih, length_storeLE, List.length_cons]
    omega

/-- `replyOwed` is the state of the REP socket: a request was received and not yet answered. -/
structure RepSocket where
  isOpen : Bool := true
  replyOwed : Bool := false
  received : List (List Byte) := []
  sent : List (List Byte) := []
  deriving Repr, DecidableEq

namespace RepSocket

/-- The error of a call in this state, if it is not legal. -/
def recvError (socket : RepSocket) : Option Exn :=
  if socket.isOpen = false then some (.error_t ENOTSOCK "Socket operation on non-socket")
  else if socket.replyOwed then
    some (.error_t EFSM "Operation cannot be accomplished in current state")
  else none

def sendError (socket : RepSocket) : Option Exn :=
  if socket.isOpen = false then some (.error_t ENOTSOCK "Socket operation on non-socket")
  else if socket.replyOwed = false then
    some (.error_t EFSM "Operation cannot be accomplished in current state")
  else none

def recv (socket : RepSocket) (msg : List Byte) : RepSocket :=
  { socket with replyOwed := true, received := socket.received ++ [msg] }

def send (socket : RepSocket) (msg : List Byte) : RepSocket :=
  { socket with replyOwed := false, sent := socket.sent ++ [msg] }

end RepSocket

/-! ## The managers -/

/-- A queued command; the pointer to the sender is the number of its manager. -/
structure TimepixCommandInfo where
  command : TpxCommand
  data : DataVec
  sender : ℕ
  deriving Repr, DecidableEq

/-- `id` tells the managers apart that the thread creates one after the other. -/
structure PythonConnectionManager where
  id : ℕ := 0
  mLastCommand : ServerCommand := .ERROR_OCCURED
  mCommandSocket : RepSocket := {}
  deriving Repr, DecidableEq

def BUFFER_SIZE : ℕ := 1024

/-- The last three fields are the operations started on `mTpxSocket` whose handlers were not called
yet; `pendingSend` has the bytes handed to `async_send`. -/
structure TimepixConnectionManager where
  mIsConnected : Bool := false
  mIsCancelled : Bool := false
  mIsExecutingCommand : Bool := false
  mLastCommandSource : Option ℕ := none
  mCommandBuffer : List Byte := List.replicate BUFFER_SIZE 0
  mResponseBuffer : List Byte := List.replicate BUFFER_SIZE 0
  mQueuedCommands : List TimepixCommandInfo := []
  pendingConnect : Bool := false
  pendingSend : Option (List Byte) := none
  pendingRead : Bool := false
  deriving Repr, DecidableEq

/-! ## The secondary threads -/

/-- A REQ socket connected to the command socket of a secondary thread. -/
structure ReqSocket where
  thread : ℕ
  isOpen : Bool := true
  deriving Repr, DecidableEq

/-- The secondary threads are numbered in the order of their creation. `requests` are the messages
forwarded, each with the thread it went to. -/
structure SecondaryThreads where
  mUdpThread : Option ℕ := none
  mUdpCommandSocket : Option ReqSocket := none
  mClusterThread : Option ℕ := none
  mClusterCommandSocket : Option ReqSocket := none
  mHistogramThread : Option ℕ := none
  mHistogramCommandSocket : Option ReqSocket := none
  started : ℕ := 0
  cancelled : List ℕ := []
  finished : List ℕ := []
  requests : List (ℕ × List Byte) := []
  deriving Repr, DecidableEq

/-! ## The thread -/

structure CommsThread where
  mShouldCancel : Bool := false
  mShouldResetClient : Bool := false
  mTpxManager : TimepixConnectionManager := {}
  mClientManager : PythonConnectionManager := {}
  threads : SecondaryThreads := {}
  signals : List Signal := []
  deriving Repr, DecidableEq

abbrev Result := Outcome Exn CommsThread

namespace CommsThread

variable (s : CommsThread)

def signal (x : Signal) : CommsThread := { s with signals := s.signals ++ [x] }
def sendLog (str : String) : CommsThread := s.signal (.log str)
def sendWarn (str : String) : CommsThread := s.signal (.warn str)
def sendErr (str : String) : CommsThread := s.signal (.err str)
def cancel : CommsThread := { s with mShouldCancel := true }

def withTpx (t : TimepixConnectionManager) : CommsThread := { s with mTpxManager := t }
def withClient (c : PythonConnectionManager) : CommsThread := { s with mClientManager := c }

/-- `cancel` on a pointer to a secondary thread. A thread that has finished deletes itself. -/
def cancelThread (thread : Option ℕ) : Result :=
  match thread with
  | none => .ok s
  | some id =>
    if id ∈ s.threads.finished then .undefined
    else .ok { s with threads := { s.threads with cancelled := s.threads.cancelled ++ [id] } }

def resetClientConnection : Result :=
  let s := { s with mShouldResetClient := true }
  (s.cancelThread s.threads.mUdpThread).andThen fun s =>
    (s.cancelThread s.threads.mUdpThread).andThen fun s =>
      .ok { s with threads := { s.threads with mUdpThread := none } }

/-- The new thread takes the next number. -/
def bindUdpPort : Result :=
  (s.cancelThread s.threads.mUdpThread).andThen fun s =>
    let id := s.threads.started
    .ok { s with
      threads := { s.threads with
        mUdpThread := some id
        mUdpCommandSocket := some { thread := id }
        started := id + 1 } }

variable {s}

/-- Cancelling a thread changes nothing but the record of the cancelled threads. -/
theorem cancelThread_cases (thread : Option ℕ) :
    s.cancelThread thread = .undefined ∨
      s.cancelThread thread = .ok { s with
        threads := { s.threads with cancelled := s.threads.cancelled ++ thread.toList } } := by
  unfold cancelThread
  cases thread with
  | none => simp
  | some id =>
    dsimp only
    by_cases hid : id ∈ s.threads.finished
    · rw [if_pos hid]
      exact Or.inl rfl
    · rw [if_neg hid]
      exact Or.inr rfl

theorem bindUdpPort_cases : s.bindUdpPort = .undefined ∨
    s.bindUdpPort = .ok { s with
      threads := { s.threads with
        mUdpThread := some s.threads.started
        mUdpCommandSocket := some { thread := s.threads.started }
        started := s.threads.started + 1
        cancelled := s.threads.cancelled ++ s.threads.mUdpThread.toList } } := by
  unfold bindUdpPort
  rcases cancelThread_cases (s := s) s.threads.mUdpThread with h | h
  · rw [h]
    exact Or.inl rfl
  · rw [h]
    exact Or.inr rfl

theorem resetClientConnection_cases : s.resetClientConnection = .undefined ∨
    s.resetClientConnection = .ok { s with
      mShouldResetClient := true
      threads := { s.threads with
        mUdpThread := none
        cancelled := s.threads.cancelled ++ s.threads.mUdpThread.toList ++
          s.threads.mUdpThread.toList } } := by
  unfold resetClientConnection
  dsimp only
  rcases cancelThread_cases (s := { s with mShouldResetClient := true }) s.threads.mUdpThread with
    h | h
  · rw [h]
    exact Or.inl rfl
  · rw [h, Outcome.ok_andThen]
    dsimp only
    rcases cancelThread_cases (s := { s with
      mShouldResetClient := true
      threads := { s.threads with
        cancelled := s.threads.cancelled ++ s.threads.mUdpThread.toList } })
      s.threads.mUdpThread with h' | h'
    · rw [h']
      exact Or.inl rfl
    · rw [h']
      exact Or.inr rfl

end CommsThread

/-! ## Answering a client -/

namespace PythonConnectionManager

/-- `mCommandSocket->send`. -/
def send (msg : List Byte) (s : CommsThread) : Result :=
  match s.mClientManager.mCommandSocket.sendError with
  | some e => .throws e s
  | none => .ok (s.withClient { s.mClientManager with
      mCommandSocket := s.mClientManager.mCommandSocket.send msg })

def sendResponse (data : DataVec) (s : CommsThread) : Result :=
  send (wordsToBytes (s.mClientManager.mLastCommand.code :: data)) s

def sendError (errcode : ServerCommand) (s : CommsThread) : Result :=
  sendResponse [] (s.withClient { s.mClientManager with mLastCommand := errcode })

end PythonConnectionManager

end TpxServer.Comms
