import Mathlib.Data.Rat.Floor
import TpxServer.Comms.Spidr

/-!
# The test server

`DummySpidr` stands in for a SPIDR with a Timepix. Its handlers all want one data word and answer
from constants, but for the bias voltage, which is set and measured. Numbers of the type `double`
are rational here; what the server prints is left out.
-/

namespace TpxServer.Comms

open TimepixConnectionManager

/-- The reads started and not completed all go to `mTcpReceiveBuffer`; `pendingSends` has the sizes
handed to `async_send`, which all send from `mTcpSendBuffer`. -/
structure SpidrServer where
  mTcpReceiveBuffer : List Byte := List.replicate 1024 0
  mTcpSendBuffer : List Byte := List.replicate 1024 0
  mBiasVoltage : ℚ := 12
  pendingReads : ℕ := 0
  pendingSends : List ℕ := []
  deriving DecidableEq

namespace SpidrServer

/-! ## Reading and sending -/

def waitForTcpCommand (s : SpidrServer) : SpidrServer :=
  { s with pendingReads := s.pendingReads + 1 }

def acceptTcp (s : SpidrServer) : SpidrServer := s.waitForTcpCommand

/-- `none` if the payload is written past the end of the buffer. -/
def respond (command : TpxCommand) (data : DataVec) (s : SpidrServer) : Option SpidrServer :=
  (sendTcpResponse s.mTcpSendBuffer command data).map fun bytes =>
    { s with
      mTcpSendBuffer := fill s.mTcpSendBuffer bytes
      pendingSends := s.pendingSends ++ [bytes.length] }

def sendTcpError (s : SpidrServer) : SpidrServer :=
  { s with
    mTcpSendBuffer := fill s.mTcpSendBuffer (List.replicate 20 0)
    pendingSends := s.pendingSends ++ [20] }

/-! ## Handlers -/

/-- A handler tells whether it has sent a response. -/
abbrev Handler := DataVec → SpidrServer → Option (Bool × SpidrServer)

/-- All handlers want one data word. -/
def withWord (f : BitVec 32 → SpidrServer → Option SpidrServer) : Handler
  | [word], s => (f word s).map (true, ·)
  | _, s => some (false, s)

def getSoftwareVersionHandler : Handler := withWord fun _ => respond .CMD_GET_SOFTWVERSION [1]

def getFirmwareVersionHandler : Handler := withWord fun _ => respond .CMD_GET_FIRMWVERSION [1]

/-- The response has the command id of another command. -/
def getChipboardIdHandler : Handler := withWord fun _ => respond .CMD_GET_FIRMWVERSION [0x1010002]

def getDeviceIdsHandler : Handler :=
  withWord fun _ => respond .CMD_GET_DEVICEIDS [1, 2147483647, 2147483647, 2147483647]

def getRemoteTempHandler : Handler := withWord fun _ => respond .CMD_GET_REMOTETEMP [0]

def getLocalTempHandler : Handler := withWord fun _ => respond .CMD_GET_LOCALTEMP [0]

def getFpgaTempHandler : Handler := withWord fun _ => respond .CMD_GET_FPGATEMP [0]

def getFanSpeedHandler : Handler := withWord fun _ => respond .CMD_GET_FANSPEED [0]

def getPressureHandler : Handler := withWord fun _ => respond .CMD_GET_PRESSURE [0]

def getHumidityHandler : Handler := withWord fun _ => respond .CMD_GET_HUMIDITY [0]

/-- The voltage as the ADC measures it. -/
def adcCode (voltage : ℚ) : BitVec 32 :=
  BitVec.ofNat 32 ⌊(voltage * 10 * 4096 - 4095) / 1500⌋.toNat &&& 0xFFF

def getBiasVoltageHandler : Handler :=
  withWord fun _ s => respond .CMD_GET_SPIDR_ADC [adcCode s.mBiasVoltage] s

/-- The voltage that a DAC code stands for. -/
def dacVoltage (code : BitVec 32) : ℚ := code.toNat * (104 - 12) / 4095 + 12

def setBiasVoltageHandler : Handler :=
  withWord fun word s =>
    respond .CMD_SET_BIAS_ADJUST [word] { s with mBiasVoltage := dacVoltage word }

def HANDLER_MAP : List (TpxCommand × Handler) :=
  [(.CMD_GET_SOFTWVERSION, getSoftwareVersionHandler),
    (.CMD_GET_FIRMWVERSION, getFirmwareVersionHandler),
    (.CMD_GET_CHIPBOARDID, getChipboardIdHandler),
    (.CMD_GET_DEVICEIDS, getDeviceIdsHandler),
    (.CMD_GET_REMOTETEMP, getRemoteTempHandler),
    (.CMD_GET_LOCALTEMP, getLocalTempHandler),
    (.CMD_GET_FPGATEMP, getFpgaTempHandler),
    (.CMD_GET_FANSPEED, getFanSpeedHandler),
    (.CMD_GET_PRESSURE, getPressureHandler),
    (.CMD_GET_HUMIDITY, getHumidityHandler),
    (.CMD_GET_SPIDR_ADC, getBiasVoltageHandler),
    (.CMD_SET_BIAS_ADJUST, setBiasVoltageHandler)]

def handleTcpCommand (command : TpxCommand) (data : DataVec) (s : SpidrServer) :
    Option SpidrServer :=
  match HANDLER_MAP.lookup command with
  | none => some s.sendTcpError
  | some handler =>
    (handler data s).map fun (success, s) =>
      -- after a response there is a read from here and one from the end of `async_send`
      if success then s.waitForTcpCommand else s.sendTcpError

/-! ## Completions -/

/-- `async_read_some` completes with the bytes; no byte is the end of the connection. -/
def received (bytes : List Byte) (s : SpidrServer) : Option SpidrServer :=
  let s := { s with
    mTcpReceiveBuffer := fill s.mTcpReceiveBuffer bytes
    pendingReads := s.pendingReads - 1 }
  match readTcp s.mTcpReceiveBuffer bytes.length with
  | .ghost => some s
  | .error _ => some s.sendTcpError
  | .command command data => handleTcpCommand command data s

/-- The oldest `async_send` completes. -/
def sent (s : SpidrServer) : SpidrServer :=
  { s with pendingSends := s.pendingSends.tail }.waitForTcpCommand

/-! ## What a device is -/

/-- The commands with a constant answer. -/
def constants : List (TpxCommand × DataVec) :=
  [(.CMD_GET_SOFTWVERSION, [1]),
    (.CMD_GET_FIRMWVERSION, [1]),
    (.CMD_GET_CHIPBOARDID, [0x1010002]),
    (.CMD_GET_DEVICEIDS, [1, 2147483647, 2147483647, 2147483647]),
    (.CMD_GET_REMOTETEMP, [0]),
    (.CMD_GET_LOCALTEMP, [0]),
    (.CMD_GET_FPGATEMP, [0]),
    (.CMD_GET_FANSPEED, [0]),
    (.CMD_GET_PRESSURE, [0]),
    (.CMD_GET_HUMIDITY, [0])]

/-- A device is a voltage: what a command with one data word does to it, and the words of the
answer. -/
def tell (voltage : ℚ) (command : TpxCommand) (word : BitVec 32) : Option (ℚ × DataVec) :=
  if command = .CMD_SET_BIAS_ADJUST then some (dacVoltage word, [word])
  else if command = .CMD_GET_SPIDR_ADC then some (voltage, [adcCode voltage])
  else (constants.lookup command).map (voltage, ·)

/-- The same for any payload. -/
def serve (voltage : ℚ) (command : TpxCommand) : DataVec → Option (ℚ × DataVec)
  | [word] => tell voltage command word
  | _ => none

/-- The command id that a response is sent with. -/
def responseId (command : TpxCommand) : TpxCommand :=
  if command = .CMD_GET_CHIPBOARDID then .CMD_GET_FIRMWVERSION else command

/-- The bytes of a response. -/
def response (command : TpxCommand) (words : DataVec) : List Byte :=
  wire ((responseId command).code ||| TpxCommand.CMD_REPLY.code) words

/-- The server once the device has the command: a response under way, or an error. -/
def served (command : TpxCommand) (data : DataVec) (s : SpidrServer) : SpidrServer :=
  match serve s.mBiasVoltage command data with
  | some (voltage, words) =>
    { s with
      mTcpSendBuffer := fill s.mTcpSendBuffer (response command words)
      mBiasVoltage := voltage
      pendingReads := s.pendingReads + 1
      pendingSends := s.pendingSends ++ [(response command words).length] }
  | none => s.sendTcpError

/-! ## The handlers are those of a device -/

theorem messageSize_singleton_le (word : BitVec 32) :
    messageSize [word] * 4 ≤ BUFFER_SIZE := by
  show max (4 + 1) 5 * 4 ≤ 1024
  decide

theorem lookup_constants {command : TpxCommand} {words : DataVec}
    (h : constants.lookup command = some words) :
    HANDLER_MAP.lookup command = some (withWord fun _ => respond (responseId command) words) ∧
      command ≠ .CMD_SET_BIAS_ADJUST ∧ command ≠ .CMD_GET_SPIDR_ADC ∧
      messageSize words * 4 ≤ BUFFER_SIZE := by
  have hall : ∀ p ∈ constants,
      HANDLER_MAP.lookup p.1 = some (withWord fun _ => respond (responseId p.1) p.2) ∧
        p.1 ≠ .CMD_SET_BIAS_ADJUST ∧ p.1 ≠ .CMD_GET_SPIDR_ADC ∧
        messageSize p.2 * 4 ≤ BUFFER_SIZE := by
    simp only [constants, List.forall_mem_cons]
    refine ⟨?_, ?_, ?_, ?_, ?_, ?_, ?_, ?_, ?_, ?_, nofun⟩
    all_goals exact ⟨rfl, by decide, by decide, by decide⟩
  exact hall _ (mem_of_lookup h)

/-- A command that is no device command has no handler. -/
theorem lookup_of_tell_eq_none {voltage : ℚ} {command : TpxCommand} {word : BitVec 32}
    (h : tell voltage command word = none) : HANDLER_MAP.lookup command = none := by
  unfold tell at h
  split at h
  · cases h
  rename_i hset
  split at h
  · cases h
  rename_i hadc
  have hconstants : constants.lookup command = none := Option.map_eq_none_iff.mp h
  have hkeys : HANDLER_MAP.map Prod.fst =
      constants.map Prod.fst ++ [.CMD_GET_SPIDR_ADC, .CMD_SET_BIAS_ADJUST] := rfl
  rw [List.lookup_eq_none_iff] at hconstants ⊢
  intro p hp
  have hmem : p.1 ∈ HANDLER_MAP.map Prod.fst := List.mem_map_of_mem hp
  rw [hkeys, List.mem_append, List.mem_map] at hmem
  rcases hmem with ⟨q, hq, hkey⟩ | hmem
  · rw [← hkey]
    exact hconstants q hq
  · rw [List.mem_pair] at hmem
    rcases hmem with hkey | hkey
    · rw [hkey]
      simpa using hadc
    · rw [hkey]
      simpa using hset

theorem exists_withWord {command : TpxCommand} {handler : Handler}
    (h : HANDLER_MAP.lookup command = some handler) : ∃ f, handler = withWord f := by
  have hall : ∀ p ∈ HANDLER_MAP, ∃ f, p.2 = withWord f := by
    simp only [HANDLER_MAP, List.forall_mem_cons]
    refine ⟨?_, ?_, ?_, ?_, ?_, ?_, ?_, ?_, ?_, ?_, ?_, ?_, nofun⟩
    all_goals exact ⟨_, rfl⟩
  exact hall _ (mem_of_lookup h)

theorem withWord_of_length_ne {f : BitVec 32 → SpidrServer → Option SpidrServer} {data : DataVec}
    (h : data.length ≠ 1) (s : SpidrServer) : withWord f data s = some (false, s) := by
  unfold withWord
  split
  · exact absurd rfl h
  · rfl

theorem serve_of_length_ne {data : DataVec} (h : data.length ≠ 1) (voltage : ℚ)
    (command : TpxCommand) : serve voltage command data = none := by
  unfold serve
  split
  · exact absurd rfl h
  · rfl

/-- A command that is none of the device's. -/
theorem serve_eq_none {command : TpxCommand} (hset : command ≠ .CMD_SET_BIAS_ADJUST)
    (hadc : command ≠ .CMD_GET_SPIDR_ADC) (hconstants : constants.lookup command = none)
    (voltage : ℚ) (data : DataVec) : serve voltage command data = none := by
  unfold serve
  split
  · unfold tell
    rw [if_neg hset, if_neg hadc, hconstants]
    rfl
  · rfl

section Handlers

variable {s : SpidrServer} (hbuffer : s.mTcpSendBuffer.length = BUFFER_SIZE)
include hbuffer

theorem respond_eq {words : DataVec}
    (h : messageSize words * 4 ≤ BUFFER_SIZE) (command : TpxCommand) :
    respond command words s = some { s with
      mTcpSendBuffer :=
        fill s.mTcpSendBuffer (wire (command.code ||| TpxCommand.CMD_REPLY.code) words)
      pendingSends := s.pendingSends ++
        [(wire (command.code ||| TpxCommand.CMD_REPLY.code) words).length] } := by
  unfold respond
  rw [sendTcpResponse_eq h hbuffer, Option.map_some]

/-- A device command with one data word. -/
theorem handleTcpCommand_of_tell {command : TpxCommand} {word : BitVec 32}
    {answer : ℚ × DataVec} (h : tell s.mBiasVoltage command word = some answer) :
    handleTcpCommand command [word] s = some (s.served command [word]) := by
  have hserve : serve s.mBiasVoltage command [word] = some answer := h
  unfold served
  rw [hserve]
  unfold tell at h
  unfold handleTcpCommand
  split at h
  · rename_i hset
    cases h
    rw [hset, show HANDLER_MAP.lookup .CMD_SET_BIAS_ADJUST = some setBiasVoltageHandler from rfl]
    unfold setBiasVoltageHandler withWord
    dsimp only
    rw [respond_eq (s := { s with mBiasVoltage := dacVoltage word }) hbuffer
      (messageSize_singleton_le word)]
    rfl
  split at h
  · rename_i hadc
    cases h
    rw [hadc, show HANDLER_MAP.lookup .CMD_GET_SPIDR_ADC = some getBiasVoltageHandler from rfl]
    unfold getBiasVoltageHandler withWord
    dsimp only
    rw [respond_eq hbuffer (messageSize_singleton_le _)]
    rfl
  · obtain ⟨words, hwords, rfl⟩ := Option.map_eq_some_iff.mp h
    obtain ⟨hlookup, -, -, hsize⟩ := lookup_constants hwords
    rw [hlookup]
    unfold withWord
    dsimp only
    rw [respond_eq hbuffer hsize]
    rfl

/-- **The handlers are those of a device.** A command is answered as the device says, or with an
error if it has no answer. -/
theorem handleTcpCommand_eq (command : TpxCommand) (data : DataVec) :
    handleTcpCommand command data s = some (s.served command data) := by
  by_cases hlen : data.length = 1
  · obtain ⟨word, rfl⟩ := List.length_eq_one_iff.mp hlen
    cases htell : tell s.mBiasVoltage command word with
    | some answer => exact handleTcpCommand_of_tell hbuffer htell
    | none =>
      have hserve : serve s.mBiasVoltage command [word] = none := htell
      unfold handleTcpCommand served
      rw [lookup_of_tell_eq_none htell, hserve]
  · unfold handleTcpCommand served
    rw [serve_of_length_ne hlen]
    cases hlookup : HANDLER_MAP.lookup command with
    | none => rfl
    | some handler =>
      obtain ⟨f, rfl⟩ := exists_withWord hlookup
      dsimp only
      rw [withWord_of_length_ne hlen]
      rfl

end Handlers

/-! ## Responses -/

/-- What the other end needs to know of a response. -/
structure Proper (command : TpxCommand) (words : DataVec) : Prop where
  nonempty : words ≠ []
  fits : messageSize words * 4 ≤ BUFFER_SIZE
  known : Comms.HANDLER_MAP.lookup (responseId command) = some words.length
  unmarked : (responseId command).code &&& TpxCommand.CMD_REPLY.code = 0

theorem proper_constants {command : TpxCommand} {words : DataVec}
    (h : constants.lookup command = some words) : Proper command words := by
  have hall : ∀ p ∈ constants, p.2 ≠ [] ∧ messageSize p.2 * 4 ≤ BUFFER_SIZE ∧
      Comms.HANDLER_MAP.lookup (responseId p.1) = some p.2.length ∧
      (responseId p.1).code &&& TpxCommand.CMD_REPLY.code = 0 := by
    decide
  obtain ⟨hnonempty, hfits, hknown, hunmarked⟩ := hall _ (mem_of_lookup h)
  exact ⟨hnonempty, hfits, hknown, hunmarked⟩

/-- Every answer of the device has a command id and a size that the server knows. -/
theorem proper_of_serve {voltage : ℚ} {command : TpxCommand} {data : DataVec}
    {answer : ℚ × DataVec} (h : serve voltage command data = some answer) :
    Proper command answer.2 := by
  unfold serve at h
  split at h
  · unfold tell at h
    split at h
    · rename_i hset
      cases h
      rw [hset]
      exact ⟨List.cons_ne_nil _ _, messageSize_singleton_le _, rfl, by decide⟩
    split at h
    · rename_i hadc
      cases h
      rw [hadc]
      exact ⟨List.cons_ne_nil _ _, messageSize_singleton_le _, rfl, by decide⟩
    · obtain ⟨words, hwords, rfl⟩ := Option.map_eq_some_iff.mp h
      exact proper_constants hwords
  · cases h

end SpidrServer

/-- A word of a message on the wire. -/
theorem responseWord_wire (id : BitVec 32) (data : DataVec) (ix : ℕ) {w : BitVec 32}
    (h : ([id, BitVec.ofNat 32 (16 + 4 * (padded data).length), 0, 0] ++ padded data)[ix]? =
      some w) : responseWord (wire id data) ix = w := by
  have hword := ntohl_wordAt_wire id data [] ix h
  rwa [List.append_nil] at hword

section Responses

variable {data : DataVec} (h : messageSize data * 4 ≤ BUFFER_SIZE)
include h

theorem responseSize_wire (id : BitVec 32) :
    responseSize (wire id data) = (wire id data).length := by
  unfold responseSize
  rw [responseWord_wire id data 1 rfl, toNat_length_field h, length_wire]

theorem responseData_wire (id : BitVec 32) : responseData (wire id data) = padded data := by
  have hdata := map_ntohl_wire id data []
  rw [List.append_nil] at hdata
  unfold responseData
  rw [responseSize_wire h, length_wire,
    show (16 + 4 * (padded data).length - 16) / 4 = (padded data).length by omega]
  exact hdata

variable {cmd : TpxCommand} (hcmd : cmd.code &&& TpxCommand.CMD_REPLY.code = 0)

omit h in
include hcmd in
theorem responseCommand_wire :
    responseCommand (wire (cmd.code ||| TpxCommand.CMD_REPLY.code) data) = cmd := by
  unfold responseCommand
  rw [responseWord_wire _ data 0 rfl, or_xor_reply hcmd]

theorem completePacket_wire :
    CompletePacket (wire (cmd.code ||| TpxCommand.CMD_REPLY.code) data) := by
  have hlen := length_wire (cmd.code ||| TpxCommand.CMD_REPLY.code) data
  have hpad := length_padded data
  have hsize := responseSize_wire h (cmd.code ||| TpxCommand.CMD_REPLY.code)
  refine ⟨by omega, by omega, ?_, Or.inl ?_, ?_, hsize.le, by omega⟩
  · rw [responseWord_wire _ data 0 rfl, or_and_reply]
    decide
  · exact responseWord_wire _ data 2 rfl
  · exact responseWord_wire _ data 3 rfl

end Responses

namespace SpidrServer

/-! ## Reads -/

/-- A command on the wire comes to the device. -/
theorem received_wire {s : SpidrServer} (hbuffer : s.mTcpSendBuffer.length = BUFFER_SIZE)
    {data : DataVec} (h : messageSize data * 4 ≤ BUFFER_SIZE) (cmd : TpxCommand) :
    ∃ buffer, s.received (wire cmd.code data) = some
      ({ s with mTcpReceiveBuffer := buffer, pendingReads := s.pendingReads - 1 }.served cmd
        (padded data)) := by
  refine ⟨fill s.mTcpReceiveBuffer (wire cmd.code data), ?_⟩
  have hread : readTcp (fill s.mTcpReceiveBuffer (wire cmd.code data))
      (wire cmd.code data).length = .command cmd (padded data) := readTcp_wire h cmd.code _
  unfold received
  dsimp only
  rw [hread]
  exact handleTcpCommand_eq (s := { s with
    mTcpReceiveBuffer := fill s.mTcpReceiveBuffer (wire cmd.code data)
    pendingReads := s.pendingReads - 1 }) hbuffer cmd (padded data)

/-- After the end of the connection nothing is read any more. -/
theorem received_nil (s : SpidrServer) :
    s.received [] = some { s with pendingReads := s.pendingReads - 1 } := rfl

end SpidrServer

end TpxServer.Comms
