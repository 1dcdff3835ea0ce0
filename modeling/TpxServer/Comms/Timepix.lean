import TpxServer.Comms.State

/-!
# The Timepix connection manager

Handlers of asynchronous operations are plain functions here; the loop calls them when the operation
completes. Waiting and the debug output are left out, and closing a socket does not fail.
-/

namespace TpxServer.Comms

/-! ## The connection -/

/-- What fails before the `connect`: opening or binding the socket to the host, or reading the
address of the Timepix. -/
inductive OpenError where
  | host (code : ErrorCode)
  | server (code : ErrorCode)
  deriving Repr, DecidableEq

namespace TimepixConnectionManager

/-- What a connection attempt meets: an error before the `connect`, an error of a blocking one, the
chunks that are read while the socket has data, and an error of doing so. -/
structure Attempt where
  openError : Option OpenError := none
  connectError : Option ErrorCode := none
  available : List (List Byte) := []
  readError : Option ErrorCode := none
  deriving Repr, DecidableEq

/-- A read into a buffer: the bytes read, then the old contents. -/
def fill (buffer bytes : List Byte) : List Byte := bytes ++ buffer.drop bytes.length

theorem take_fill (buffer : List Byte) {bytes : List Byte} {n : ℕ} (h : bytes.length = n) :
    (fill buffer bytes).take n = bytes := by
  rw [fill, ← h, List.take_left]

/-- The handlers that were not called yet go with the `io_context`. That `cancel()` or `shutdown()`
throws, which leaves the socket open and gives two warnings, is not modelled. -/
def terminateConnection (s : CommsThread) : CommsThread :=
  s.withTpx { s.mTpxManager with
    pendingConnect := false
    pendingSend := none
    pendingRead := false
    mIsConnected := false }

def initializeConnection (err : Option ErrorCode) (attempt : Attempt) (s : CommsThread) : Result :=
  if s.mTpxManager.mIsCancelled then .ok s
  else
    match err with
    | some code => .throws (.system_error code) s
    | none =>
      let s := s.withTpx { s.mTpxManager with
        mIsConnected := true
        mIsExecutingCommand := false
        mResponseBuffer := attempt.available.foldl fill s.mTpxManager.mResponseBuffer }
      match attempt.readError with
      | some code => .throws (.system_error code) s
      | none => .ok (s.sendLog "Successfully connected.")

/-- The exception handler of `attemptConnection`. -/
def connectionError (e : Exn) : Option (CommsThread → Result) :=
  match e with
  | .system_error code => some fun s =>
    .ok ((s.sendErr "An unknown error occurred in the server thread.").sendErr
      (code.message.replace "\n" "<br>")).cancel
  | _ => none

def attemptConnection (wait : Bool) (attempt : Attempt) (s : CommsThread) : Result :=
  -- a new `io_context` and a new socket
  let s := s.withTpx { s.mTpxManager with
    pendingConnect := false
    pendingSend := none
    pendingRead := false }
  let body : Result :=
    match attempt.openError with
    | some (.host code) => .throws (.system_error code) s
    | some (.server code) =>
      .throws (.system_error code) (s.sendLog "Connecting to Timepix...")
    | none =>
      let s := s.sendLog "Connecting to Timepix..."
      if wait then
        match attempt.connectError with
        | some code => .throws (.system_error code) s
        | none => initializeConnection none attempt s
      else .ok (s.withTpx { s.mTpxManager with pendingConnect := true })
  body.catching connectionError

/-! ## Sending a command -/

def queueCommand (sender : ℕ) (command : TpxCommand) (data : DataVec) (s : CommsThread) :
    CommsThread :=
  s.withTpx { s.mTpxManager with
    mQueuedCommands := s.mTpxManager.mQueuedCommands ++ [⟨command, data, sender⟩] }

/-- The size of a command in words. -/
def messageSize (data : DataVec) : ℕ := max (4 + data.length) 5

/-- The words of a command, in network order. -/
def message (cmd : TpxCommand) (data : DataVec) : DataVec :=
  [Io.htonl cmd.code, Io.htonl (BitVec.ofNat 32 (messageSize data * 4)), 0, 0] ++
    if data = [] then [0] else data.map Io.htonl

theorem length_message (cmd : TpxCommand) (data : DataVec) :
    (message cmd data).length = messageSize data := by
  unfold message messageSize
  cases data with
  | nil => rfl
  | cons w data =>
    rw [if_neg (List.cons_ne_nil w data), List.length_append, List.length_map]
    simp only [List.length_cons, List.length_nil]
    omega

def sendCommand (cmd : TpxCommand) (data : DataVec) (noreply : Bool) (s : CommsThread) : Result :=
  if s.mTpxManager.mIsCancelled then .ok s
  else
    let cmd : TpxCommand :=
      if noreply then ⟨cmd.code &&& TpxCommand.CMD_NOREPLY.code⟩ else cmd
    let byte_size := messageSize data * 4
    -- `memcpy` past the end of the buffer
    if byte_size > BUFFER_SIZE then .undefined
    else
      let buffer := fill s.mTpxManager.mCommandBuffer (wordsToBytes (message cmd data))
      .ok (s.withTpx { s.mTpxManager with
        mCommandBuffer := buffer
        mIsExecutingCommand := true
        pendingSend := some (buffer.take byte_size) })

/-- The handler of `async_send`. It looks neither at the error nor at the number of bytes sent. -/
def commandSent (_err : Option ErrorCode) (_bytes_sent : ℕ) (s : CommsThread) : Result :=
  if s.mTpxManager.mIsCancelled then .ok s
  else .ok (s.withTpx { s.mTpxManager with pendingRead := true })

/-! ## Receiving a response -/

def SPIDR_ERROR_MESSAGES : List String :=
  ["NO_ERROR", "ERR_UNKNOWN_CMD", "ERR_MSG_LENGTH", "ERR_SEQUENCE", "ERR_ILLEGAL_PAR",
    "ERR_NOT_IMPLEMENTED", "ERR_TPX3_HARDW", "ERR_ADC_HARDW", "ERR_DAC_HARDW", "ERR_MON_HARDW",
    "ERR_FLASH_STORAGE"]

def TIMEPIX_ERROR_MESSAGES : List String :=
  ["NO_ERROR", "TPX3_ERR_SC_ILLEGAL", "TPX3_ERR_SC_STATE", "TPX3_ERR_SC_ERRSTATE",
    "TPX3_ERR_SC_WORDS", "TPX3_ERR_TX_TIMEOUT", "TPX3_ERR_EMPTY", "TPX3_ERR_NOTEMPTY",
    "TPX3_ERR_FULL", "TPX3_ERR_UNEXP_REPLY", "TPX3_ERR_UNEXP_HEADER", "TPX3_ERR_LINKS_UNLOCKED"]

/-- `none` if an index is outside its table. -/
def getErrorString (err_code : BitVec 32) : Option String :=
  let err_byte := (err_code &&& 0xFF).toNat
  (SPIDR_ERROR_MESSAGES[err_byte]?).bind fun str =>
    if err_byte = 6 then
      (TIMEPIX_ERROR_MESSAGES[((err_code &&& 0xFF00) >>> 8).toNat]?).map fun str' =>
        str ++ ": " ++ str'
    else some str

/-- `std::hex << std::uppercase`. -/
def hexUpper (x : BitVec 32) : String :=
  String.ofList ((Nat.toDigits 16 x.toNat).map Char.toUpper)

/-- A call through `mLastCommandSource`. A manager that was replaced is no longer there. -/
def onLastCommandSource (f : CommsThread → Result) (s : CommsThread) : Result :=
  match s.mTpxManager.mLastCommandSource with
  | none => .undefined
  | some id => if id = s.mClientManager.id then f s else .undefined

/-- `genericHandler<sz>`. -/
def genericHandler (sz : ℕ) (data : DataVec) (s : CommsThread) : Result :=
  if data.length ≠ sz then
    onLastCommandSource (PythonConnectionManager.sendError .INVALID_COMMAND_DATA) s
  else onLastCommandSource (PythonConnectionManager.sendResponse data) s

/-- The end of `processRecv`. -/
def finishCommand (s : CommsThread) : Result :=
  match s.mTpxManager.mQueuedCommands with
  | [] => .undefined
  | _ :: queue =>
    .ok (s.withTpx { s.mTpxManager with
      mQueuedCommands := queue
      mIsExecutingCommand := false
      mLastCommandSource := none })

def processRecv (cmd : TpxCommand) (data : DataVec) (s : CommsThread) : Result :=
  if s.mTpxManager.mIsCancelled then .ok s
  else if s.mTpxManager.mLastCommandSource = none then
    .throws (.std_exception "Received response, and there is no client!") s
  else
    let handled : Result :=
      match HANDLER_MAP.lookup cmd with
      | none => .ok (s.sendWarn ("Did not recognise response from Timepix: " ++
          toString cmd.code.toNat))
      | some sz => genericHandler sz data s
    handled.andThen finishCommand

/-- A word of a response. -/
def responseWord (buffer : List Byte) (ix : ℕ) : BitVec 32 := Io.ntohl (wordAt 4 buffer ix)

/-- The command id of a response without the reply bit. -/
def responseCommand (buffer : List Byte) : TpxCommand :=
  ⟨responseWord buffer 0 ^^^ TpxCommand.CMD_REPLY.code⟩

/-- The length field of a response. -/
def responseSize (buffer : List Byte) : ℕ := (responseWord buffer 1).toNat

/-- The payload of a response. -/
def responseData (buffer : List Byte) : DataVec :=
  (List.range ((responseSize buffer - 16) / 4)).map fun i => responseWord buffer (4 + i)

/-- The message about an error code in a response; `none` if a table is indexed out of range. -/
def reportError (buffer : List Byte) (s : CommsThread) : Option CommsThread :=
  let error_int := responseWord buffer 2
  if error_int = 0 then some s
  else
    (getErrorString error_int).map fun str =>
      s.sendErr ("Timepix reported an error code (command=0x" ++
        hexUpper (responseCommand buffer).code ++ ", error=0x" ++ hexUpper error_int ++ " [" ++
        str ++ "])")

/-- The handler of `async_read_some`. -/
def commandRecv (err : Option ErrorCode) (bytes_received : ℕ) (s : CommsThread) : Result :=
  if s.mTpxManager.mIsCancelled then .ok s
  else
    match err with
    | some code => .throws (.system_error code) s
    | none =>
      let buffer := s.mTpxManager.mResponseBuffer
      if bytes_received < 20 ∨ bytes_received % 4 ≠ 0 then
        .ok (s.sendErr ("Received an incomplete packet (" ++ toString bytes_received ++ " bytes)"))
      else if responseWord buffer 0 &&& TpxCommand.CMD_REPLY.code = 0 then
        .ok (s.sendErr "Received a packet without the REPLY bit set")
      else
        match reportError buffer s with
        | none => .undefined
        | some s =>
          if responseWord buffer 3 ≠ 0 then
            .ok (s.sendErr ("Chip number in response was not zero (value=" ++
              toString (responseWord buffer 3).toNat ++ ")"))
          else if bytes_received < responseSize buffer then
            .ok (s.sendErr ("Timepix sent " ++ toString (responseSize buffer) ++
              " bytes, only received " ++ toString bytes_received ++ " bytes"))
          -- `num_bytes - 16` wraps around, and the loop runs past the end of the buffer
          else if responseSize buffer < 16 then .undefined
          else processRecv (responseCommand buffer) (responseData buffer) s

/-! ## Polling -/

def clearAnyClientRequest (s : CommsThread) : Result :=
  if s.mTpxManager.mLastCommandSource = none then .ok s
  else
    (onLastCommandSource (PythonConnectionManager.sendError .ERROR_OCCURED) s).andThen fun s =>
      .ok (s.withTpx { s.mTpxManager with mLastCommandSource := none })

/-- The exception handler of `poll`. -/
def networkError (e : Exn) : Option (CommsThread → Result) :=
  match e with
  | .system_error code => some fun s =>
    let s := s.sendErr ("A network error occurred while communicating with the Timepix (errcode=" ++
      toString code.value ++ ")")
    let s := s.sendErr code.message
    clearAnyClientRequest (terminateConnection s).cancel
  | _ => none

/-- The command that `poll` sends next, if it sends one. -/
def nextCommand (s : CommsThread) : Option TimepixCommandInfo :=
  if s.mTpxManager.mIsConnected && !s.mTpxManager.mIsExecutingCommand then
    s.mTpxManager.mQueuedCommands.head?
  else none

/-- `poll` up to the reset of the module. -/
def pollQueue (next_command : TimepixCommandInfo) (s : CommsThread) : Result :=
  (sendCommand next_command.command next_command.data false s).andThen fun s =>
    .ok (s.withTpx { s.mTpxManager with mLastCommandSource := some next_command.sender })

/-- The reset of the module: the connection is torn down, without an error of the socket, and built
up again. -/
def resetModule (attempt : Attempt) (s : CommsThread) : Result :=
  (onLastCommandSource (PythonConnectionManager.sendResponse []) (terminateConnection s)).andThen
    fun s =>
      let s := s.withTpx { s.mTpxManager with
        mQueuedCommands := s.mTpxManager.mQueuedCommands.tail }
      let s := s.sendLog "Resetting Timepix connection"
      let s := s.withTpx { s.mTpxManager with mLastCommandSource := none }
      attemptConnection true attempt s

end TimepixConnectionManager

end TpxServer.Comms
