import TpxServer.Clustering.Manager
import TpxServer.Comms.State
import TpxServer.Histogram.Manager
import TpxServer.Udp.Manager

/-!
# The secondary threads

A secondary thread polls its command socket and its manager in turn. `pollCommands` splits a request
into its code and its payload and hands them to `handleCommand` of the thread, whose handlers reply.
What ZeroMQ and the operating system decide for a command (`Surroundings`) is an argument.
-/

namespace TpxServer.Comms

open Clustering Udp
open Histogram (HistogramManager)

/-! ## Texts -/

/-- The bytes of a text literal. -/
def textBytes (str : String) : List Byte := str.toList.map fun c => BitVec.ofNat 8 c.toNat

/-- `std::string(path.data())`: every word gives a character, and the first zero ends the text. -/
def pathOf (data : DataVec) : List Byte := (data.map (BitVec.setWidth 8)).takeWhile (· ≠ 0)

def pathString (path : List Byte) : String := String.ofList (path.map fun b => Char.ofNat b.toNat)

/-- A text in a vector of words, which is zero behind the text. -/
def packText (text : List Byte) : DataVec :=
  (List.range (text.length / 4 + 1)).map fun ix => wordAt 4 text ix

/-- `last_endpoint` with the host replaced. -/
def getPublishServerAddress (last_endpoint : List Byte) : List Byte :=
  let port_str := (last_endpoint.reverse.takeWhile (· ≠ 0x3A)).reverse
  textBytes "tcp://localhost:" ++ port_str

/-! ## The thread -/

/-- `manager` is the state of `mUdpManager`, `mClusterManager` or `mHistogramManager`. -/
structure SecondaryThread (μ : Type*) where
  mShouldCancel : Bool := false
  mLastCommand : ServerCommand := .ERROR_OCCURED
  mCommandSocket : RepSocket := {}
  manager : μ
  signals : List Signal := []
  deriving Repr, DecidableEq

abbrev ThreadResult (μ : Type*) := Outcome Exn (SecondaryThread μ)

/-- `last_endpoint` is the address of the publishing socket, `opens` tells which files can be
opened, and the others are the errors of setting up the input socket. -/
structure Surroundings where
  last_endpoint : List Byte
  opens : String → Bool
  createError : Option Exn := none
  subscribeError : Option Exn := none
  connectError : Option Exn := none

namespace SecondaryThread

variable {μ : Type*}

def signal (x : Signal) (t : SecondaryThread μ) : SecondaryThread μ :=
  { t with signals := t.signals ++ [x] }

/-- `mCommandSocket->send`. -/
def send (msg : List Byte) (t : SecondaryThread μ) : ThreadResult μ :=
  match t.mCommandSocket.sendError with
  | some e => .throws e t
  | none => .ok { t with mCommandSocket := t.mCommandSocket.send msg }

def sendResponse (data : DataVec) (t : SecondaryThread μ) : ThreadResult μ :=
  send (wordsToBytes (t.mLastCommand.code :: data)) t

def sendError (errcode : ServerCommand) (t : SecondaryThread μ) : ThreadResult μ :=
  sendResponse [] { t with mLastCommand := errcode }

/-- The words behind the code of a request. -/
def commandData (com_size : ℕ) (msg : List Byte) : DataVec :=
  (List.range (com_size / 4 - 1)).map fun ix => wordAt 4 msg (1 + ix)

/-- The exception handler of `pollCommands`. -/
def pollError (e : Exn) : Option (SecondaryThread μ → ThreadResult μ) :=
  match e with
  | .error_t num what => some fun t =>
    .ok { t.signal (.err ("An exception occurred while polling commands in a secondary thread:" ++
      toString num ++ " - \"" ++ what ++ "\")")) with mShouldCancel := true }
  | _ => none

/-- `request` is the message waiting at the socket, if there is one. -/
def pollCommands (handleCommand : ServerCommand → DataVec → SecondaryThread μ → ThreadResult μ)
    (request : Option (List Byte)) (t : SecondaryThread μ) : ThreadResult μ :=
  let body : ThreadResult μ :=
    match t.mCommandSocket.recvError with
    | some e => .throws e t
    | none =>
      match request with
      | none => .ok t
      | some msg =>
        let t := { t with mCommandSocket := t.mCommandSocket.recv msg }
        -- the code is read past the end of the message
        if msg.length < 4 then .undefined
        else
          let command_code : ServerCommand := ⟨wordAt 4 msg 0⟩
          let com_size := msg.length % 2 ^ 32
          if com_size % 4 ≠ 0 then .ok t
          -- `com_size / 4 - 1` wraps around to 2^32 - 1, and so does the counter of the loop
          else if com_size = 0 then .undefined
          else handleCommand command_code (commandData com_size msg)
            { t with mLastCommand := command_code }
  body.catching pollError

/-! ## Handlers that the threads share -/

/-- The reply is the address of the publishing socket. -/
def sendServerPath (env : Surroundings) (data : DataVec) (t : SecondaryThread μ) : ThreadResult μ :=
  if data.length ≠ 0 then sendError .INVALID_COMMAND_DATA t
  else sendResponse (packText (getPublishServerAddress env.last_endpoint)) t

/-- A command without payload that changes the manager. -/
def callManager (f : μ → μ) (reply data : DataVec) (t : SecondaryThread μ) : ThreadResult μ :=
  if data.length ≠ 0 then sendError .INVALID_COMMAND_DATA t
  else sendResponse reply { t with manager := f t.manager }

/-- `setSaveFile` of the manager is called with the path in the payload. -/
def setFilePath (setSaveFile : μ → String → Bool → μ × Bool) (output : String)
    (env : Surroundings) (data : DataVec) (t : SecondaryThread μ) : ThreadResult μ :=
  let s := pathString (pathOf data)
  let r := setSaveFile t.manager s (env.opens s)
  let t := { t with manager := r.1 }
  if r.2 then sendResponse data t
  else sendError .CANT_OPEN_FILE
    (t.signal (.warn ("Unable to open path \"" ++ s ++ "\" for " ++ output)))

end SecondaryThread

/-! ## Input sockets -/

/-- A SUB socket. -/
structure SubSocket where
  subscribed : Bool := false
  connected : Option String := none
  deriving Repr, DecidableEq

/-- A manager with the socket that its packets come from. -/
structure Subscriber (μ : Type*) where
  manager : μ
  socket : Option SubSocket := none
  deriving Repr, DecidableEq

namespace SecondaryThread

variable {μ : Type*}

def withSocket (socket : Option SubSocket) (t : SecondaryThread (Subscriber μ)) :
    SecondaryThread (Subscriber μ) :=
  { t with manager := { t.manager with socket := socket } }

def withManager (f : μ → μ) (t : Subscriber μ) : Subscriber μ := { t with manager := f t.manager }

/-- The function of a manager that connects its input socket. All exceptions are caught. -/
def setInputAddress (connected unable : String) (env : Surroundings) (path : String)
    (t : SecondaryThread (Subscriber μ)) : ThreadResult (Subscriber μ) :=
  -- the old socket is closed
  let t := t.withSocket none
  if path = "" then .ok t
  else
    let body : ThreadResult (Subscriber μ) :=
      match env.createError with
      | some e => .throws e t
      | none =>
        let t := t.withSocket (some {})
        match env.subscribeError with
        | some e => .throws e t
        | none =>
          let t := t.withSocket (some { subscribed := true })
          match env.connectError with
          | some e => .throws e t
          | none =>
            .ok ((t.withSocket (some { subscribed := true, connected := some path })).signal
              (.log (connected ++ path)))
    body.catching fun _ => some fun t => .ok (t.signal (.warn (unable ++ path)))

/-- The handler of a command that sets the address of the input. -/
def setInputServer (connected unable failed : String) (env : Surroundings) (data : DataVec)
    (t : SecondaryThread (Subscriber μ)) : ThreadResult (Subscriber μ) :=
  let s := pathString (pathOf data)
  let body := (setInputAddress connected unable env s t).andThen (sendResponse data)
  body.catching fun _ => some fun t => sendError .ERROR_OCCURED (t.signal (.log failed))

end SecondaryThread

/-! ## The UDP thread -/

abbrev UdpThread := SecondaryThread UdpConnectionManager

namespace UdpThread

open SecondaryThread

def setRawTpxPath : Surroundings → DataVec → UdpThread → ThreadResult UdpConnectionManager :=
  setFilePath UdpConnectionManager.setSaveFile "image output"

def sendRawDataServerPath :
    Surroundings → DataVec → UdpThread → ThreadResult UdpConnectionManager := sendServerPath

def resetToaRolloverCounter (data : DataVec) : UdpThread → ThreadResult UdpConnectionManager :=
  callManager (fun m =>
    { m with toRolloverState := Udp.resetToaRolloverCounter m.toRolloverState }) data data

def handleCommand (env : Surroundings) (cmd : ServerCommand) (data : DataVec) (t : UdpThread) :
    ThreadResult UdpConnectionManager :=
  if cmd = .SET_RAW_TPX3_PATH then setRawTpxPath env data t
  else if cmd = .GET_RAW_DATA_SERVER_PATH then sendRawDataServerPath env data t
  else if cmd = .RESET_TOA_ROLLOVER_COUNTER then resetToaRolloverCounter data t
  else sendError .UNKNOWN_COMMAND t

end UdpThread

/-! ## The cluster thread -/

abbrev ClusterThread := SecondaryThread (Subscriber ClusteringManager)

namespace ClusterThread

open SecondaryThread

def sendClusterServerPath :
    Surroundings → DataVec → ClusterThread → ThreadResult (Subscriber ClusteringManager) :=
  sendServerPath

def setClusterInputServer :
    Surroundings → DataVec → ClusterThread → ThreadResult (Subscriber ClusteringManager) :=
  setInputServer "Connected clustering server to raw packet output at "
    "Unable to connect clustering server to raw packet output at "
    "An error occured while connecting to the raw packet server"

def setClusterParameters (data : DataVec) (t : ClusterThread) :
    ThreadResult (Subscriber ClusteringManager) :=
  match data with
  | max_sep_xy :: max_sep_t :: max_t_sep :: _ =>
    sendResponse data { t with
      manager := withManager (·.setClusterParameters max_sep_xy max_sep_t max_t_sep) t.manager }
  -- the payload is read past its end
  | _ => .undefined

def flushClusters (data : DataVec) : ClusterThread → ThreadResult (Subscriber ClusteringManager) :=
  callManager (withManager ClusteringManager.flush) [] data

def setClusterPath :
    Surroundings → DataVec → ClusterThread → ThreadResult (Subscriber ClusteringManager) :=
  setFilePath (fun m path opened =>
    let r := m.manager.setSaveFile path opened
    ({ m with manager := r.1 }, r.2)) "cluster output"

def handleCommand (env : Surroundings) (cmd : ServerCommand) (data : DataVec) (t : ClusterThread) :
    ThreadResult (Subscriber ClusteringManager) :=
  if cmd = .GET_CLUSTER_SERVER_PATH then sendClusterServerPath env data t
  else if cmd = .SET_CLUSTER_INPUT_SERVER then setClusterInputServer env data t
  else if cmd = .SET_CLUSTER_PARAMETERS then setClusterParameters data t
  else if cmd = .FLUSH_CLUSTERS then flushClusters data t
  else if cmd = .SET_CLUSTER_PATH then setClusterPath env data t
  else sendError .UNKNOWN_COMMAND t

end ClusterThread

/-! ## The histogram thread -/

abbrev HistogramThread := SecondaryThread (Subscriber HistogramManager)

namespace HistogramThread

open SecondaryThread

def sendHistogramServerPath :
    Surroundings → DataVec → HistogramThread → ThreadResult (Subscriber HistogramManager) :=
  sendServerPath

def setHistogramInputServer :
    Surroundings → DataVec → HistogramThread → ThreadResult (Subscriber HistogramManager) :=
  setInputServer "Connected histogram server to output at "
    "Unable to connect histogram server to output at "
    "An error occured while connecting to the histogram input server"

def setHistogramOutputPeriod (data : DataVec) (t : HistogramThread) :
    ThreadResult (Subscriber HistogramManager) :=
  match data with
  | [period] =>
    sendResponse data { t with
      manager := withManager (·.setOutputPeriod period) t.manager }
  | _ => sendError .INVALID_COMMAND_DATA t

def handleCommand (env : Surroundings) (cmd : ServerCommand) (data : DataVec)
    (t : HistogramThread) : ThreadResult (Subscriber HistogramManager) :=
  if cmd = .GET_HISTOGRAM_SERVER_PATH then sendHistogramServerPath env data t
  else if cmd = .SET_HISTOGRAM_INPUT_SERVER then setHistogramInputServer env data t
  else if cmd = .SET_HISTOGRAM_OUTPUT_PERIOD then setHistogramOutputPeriod data t
  else sendError .UNKNOWN_COMMAND t

end HistogramThread

end TpxServer.Comms
