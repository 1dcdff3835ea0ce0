import TpxServer.Comms.Timepix

/-!
# The Python connection manager

A request is answered at once, queued for the SPIDR, or handed on to a secondary thread. The main
thread waits for the answer of the secondary thread, so the answer is an argument here.
-/

namespace TpxServer.Comms

namespace PythonConnectionManager

/-- `mCommandSocket->close`. -/
def close (s : CommsThread) : CommsThread :=
  s.withClient { s.mClientManager with
    mCommandSocket := { s.mClientManager.mCommandSocket with isOpen := false } }

/-! ## Handlers -/

def genericForward (sz : ℕ) (cmd : TpxCommand) (data : DataVec) (s : CommsThread) : Result :=
  if data.length ≠ sz then
    sendError .INVALID_COMMAND_DATA (s.sendWarn ("An error occurred while executing command [0x" ++
      TimepixConnectionManager.hexUpper cmd.code ++ "]: expected command of size " ++ toString sz ++
      ", received " ++ toString data.length))
  else .ok (TimepixConnectionManager.queueCommand s.mClientManager.id cmd data s)

def sendPixelConfigData (data : DataVec) (s : CommsThread) : Result :=
  -- `data.size() - 1` wraps around for no data
  if (BitVec.ofNat 64 data.length - 1) % 48#64 ≠ 0 then sendError .INVALID_COMMAND_DATA s
  else .ok (TimepixConnectionManager.queueCommand s.mClientManager.id .CMD_SET_PIXCONF data s)

def bindUdpPort (data : DataVec) (s : CommsThread) : Result :=
  if data.length ≠ 1 then sendError .INVALID_COMMAND_DATA s
  else s.bindUdpPort.andThen (sendResponse [])

def callHandler : ClientHandler → DataVec → CommsThread → Result
  | .genericForward sz cmd => genericForward sz cmd
  | .sendPixelConfigData => sendPixelConfigData
  | .bindUdpPort => bindUdpPort

/-- The SPIDR command that a handler queues, if it accepts the data. -/
def handlerCommand : ClientHandler → Option TpxCommand
  | .genericForward _ cmd => some cmd
  | .sendPixelConfigData => some .CMD_SET_PIXCONF
  | .bindUdpPort => none

/-- All exceptions are caught; the request then stays unanswered. -/
def forwardToSecondaryThread (cmd_socket : Option ReqSocket) (msg answer : List Byte)
    (s : CommsThread) : Result :=
  let body : Result :=
    match cmd_socket with
    | none => sendError .THREAD_NOT_STARTED s
    | some socket =>
      if socket.isOpen = false then sendError .THREAD_NOT_CONNECTED s
      else send answer { s with
        threads := { s.threads with requests := s.threads.requests ++ [(socket.thread, msg)] } }
  body.catching fun _ => some .ok

/-! ## Requests -/

/-- The code of a request. -/
def requestCode (command : List Byte) : ServerCommand := ⟨wordAt 4 command 0⟩

def handleCommand (command answer : List Byte) (s : CommsThread) : Result :=
  if s.mTpxManager.mIsConnected = false then sendError .ERROR_OCCURED s
  -- the code is read past the end of the message
  else if command.length < 4 then .undefined
  else
    let command_code := requestCode command
    let com_size := command.length % 2 ^ 32
    if com_size % 4 ≠ 0 then sendError .INVALID_COMMAND_DATA s
    else
      match COMMAND_MAP.lookup command_code with
      | some handler =>
        -- `com_size / 4 - 1` wraps around
        if com_size = 0 then .throws (.std_exception "std::bad_alloc") s
        else
          let data : DataVec :=
            (List.range (com_size / 4 - 1)).map fun ix => wordAt 4 command (1 + ix)
          callHandler handler data
            (s.withClient { s.mClientManager with mLastCommand := command_code })
      | none =>
        if command_code ∈ UDP_THREAD_FORWARD_COMMANDS then
          forwardToSecondaryThread s.threads.mUdpCommandSocket command answer s
        else if command_code ∈ CLUSTER_THREAD_FORWARD_COMMANDS then
          forwardToSecondaryThread s.threads.mClusterCommandSocket command answer s
        else if command_code ∈ HISTOGRAM_THREAD_FORWARD_COMMANDS then
          forwardToSecondaryThread s.threads.mHistogramCommandSocket command answer s
        else sendError .UNKNOWN_COMMAND s

/-- The data words of a request. -/
def requestData (command : List Byte) : DataVec :=
  (List.range (command.length % 2 ^ 32 / 4 - 1)).map fun ix => wordAt 4 command (1 + ix)

/-- The request comes to the call of its handler. -/
structure Mapped (command : List Byte) (s : CommsThread) (handler : ClientHandler) : Prop where
  connected : s.mTpxManager.mIsConnected = true
  aligned : command.length % 2 ^ 32 % 4 = 0
  nonempty : command.length % 2 ^ 32 ≠ 0
  lookup : COMMAND_MAP.lookup (requestCode command) = some handler

/-- **Dispatch.** A request goes to its handler; without one, it is answered with an error or
forwarded, or there is trouble with its length. -/
theorem handleCommand_dispatch (command answer : List Byte) (s : CommsThread) :
    (∃ handler, Mapped command s handler ∧ handleCommand command answer s =
      callHandler handler (requestData command)
        (s.withClient { s.mClientManager with mLastCommand := requestCode command })) ∨
    (∀ handler, ¬ Mapped command s handler) ∧
      (handleCommand command answer s = .undefined ∨
        handleCommand command answer s = .throws (.std_exception "std::bad_alloc") s ∨
        (∃ errcode, handleCommand command answer s = sendError errcode s) ∨
        ∃ socket, handleCommand command answer s =
          forwardToSecondaryThread socket command answer s) := by
  unfold handleCommand
  by_cases hconn : s.mTpxManager.mIsConnected = false
  · rw [if_pos hconn]
    exact Or.inr ⟨fun _ h => ne_true_of_eq_false hconn h.connected,
      Or.inr (Or.inr (Or.inl ⟨_, rfl⟩))⟩
  rw [if_neg hconn]
  by_cases hshort : command.length < 4
  · rw [if_pos hshort]
    refine Or.inr ⟨fun _ h => ?_, Or.inl rfl⟩
    have haligned := h.aligned
    have hnonempty := h.nonempty
    omega
  rw [if_neg hshort]
  dsimp only
  by_cases halign : command.length % 2 ^ 32 % 4 ≠ 0
  · rw [if_pos halign]
    exact Or.inr ⟨fun _ h => halign h.aligned, Or.inr (Or.inr (Or.inl ⟨_, rfl⟩))⟩
  rw [if_neg halign]
  cases hlookup : COMMAND_MAP.lookup (requestCode command) with
  | some handler =>
    dsimp only
    by_cases hzero : command.length % 2 ^ 32 = 0
    · rw [if_pos hzero]
      exact Or.inr ⟨fun _ h => h.nonempty hzero, Or.inr (Or.inl rfl)⟩
    · rw [if_neg hzero]
      exact Or.inl ⟨handler,
        ⟨Bool.eq_true_of_not_eq_false hconn, not_not.mp halign, hzero, hlookup⟩, rfl⟩
  | none =>
    refine Or.inr ⟨fun _ h => (nomatch hlookup.symm.trans h.lookup), Or.inr (Or.inr ?_)⟩
    dsimp only
    split
    · exact Or.inr ⟨_, rfl⟩
    · split
      · exact Or.inr ⟨_, rfl⟩
      · split
        · exact Or.inr ⟨_, rfl⟩
        · exact Or.inl ⟨_, rfl⟩

/-- The exception handler of `poll`. -/
def clientError (e : Exn) : Option (CommsThread → Result) :=
  match e with
  | .error_t num what => some fun s =>
    (close (s.sendErr ("An exception occurred in managing client connections (errcode=" ++
      toString num ++ " - \"" ++ what ++ "\")"))).resetClientConnection
  | _ => none

/-- `request` is the message waiting at the socket, if there is one. -/
def poll (request : Option (List Byte)) (answer : List Byte) (s : CommsThread) : Result :=
  let body : Result :=
    match s.mClientManager.mCommandSocket.recvError with
    | some e => .throws e s
    | none =>
      match request with
      | none => .ok s
      | some msg =>
        handleCommand msg answer (s.withClient { s.mClientManager with
          mCommandSocket := s.mClientManager.mCommandSocket.recv msg })
  body.catching clientError

end PythonConnectionManager

end TpxServer.Comms
