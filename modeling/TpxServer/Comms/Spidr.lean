import TpxServer.Comms.Calls

/-!
# The SPIDR end of the connection

The test server `SpidrServer` reads commands and sends responses over the same connection. What
either end writes, the other end reads: a command arrives with its payload, and so does a response,
an empty payload as a single zero word.
-/

namespace TpxServer.Comms

open TimepixConnectionManager

/-! ## The test server -/

namespace SpidrServer

/-- What `readTcp` makes of a read: nothing at all, a message and `sendTcpError`, or a call of
`handleTcpCommand`. -/
inductive Reading where
  | ghost
  | error (str : String)
  | command (command : TpxCommand) (data : DataVec)
  deriving Repr, DecidableEq

/-- `buffer` is `mTcpReceiveBuffer`. -/
def readTcp (buffer : List Byte) (bytes : ℕ) : Reading :=
  if bytes = 0 then .ghost
  else if bytes < 20 then
    .error ("TCP server received incomplete packet: size=" ++ toString bytes)
  else
    let com_int := Io.ntohl (wordAt 4 buffer 0)
    let packet_size := (Io.ntohl (wordAt 4 buffer 1)).toNat
    let zero := Io.ntohl (wordAt 4 buffer 2)
    let chip := Io.ntohl (wordAt 4 buffer 3)
    if zero ≠ 0 then .error ("TCP server expected zero byte but saw " ++ toString zero.toNat)
    else if chip ≠ 0 then .error ("TCP server expected chip ID=0 but saw" ++ toString chip.toNat)
    else if packet_size ≠ bytes then
      .error ("TCP server received " ++ toString bytes ++ " bytes but expected " ++
        toString packet_size ++ " bytes")
    else if packet_size % 4 ≠ 0 then
      .error ("TCP server received " ++ toString packet_size ++
        " bytes, which is not a multiple of 4")
    else
      let data_size := (packet_size - 16) / 4
      .command ⟨com_int⟩ ((List.range data_size).map fun i => Io.ntohl (wordAt 4 buffer (i + 4)))

/-- The bytes handed to `async_send`, `buffer` being `mTcpSendBuffer`; `none` if the payload is
written past its end. -/
def sendTcpResponse (buffer : List Byte) (command : TpxCommand) (data : DataVec) :
    Option (List Byte) :=
  let reply_cmd := command.code ||| TpxCommand.CMD_REPLY.code
  let buffer_size := max 20 ((16 + 4 * data.length) % 2 ^ 32)
  let response := [Io.htonl reply_cmd, Io.htonl (BitVec.ofNat 32 buffer_size), Io.htonl 0,
    Io.htonl 0] ++ if data = [] then [Io.htonl 0] else data.map Io.htonl
  if 4 * response.length > buffer.length then none
  else some ((fill buffer (wordsToBytes response)).take buffer_size)

end SpidrServer

/-! ## Messages on the wire -/

/-- The payload of a message on the wire is never empty. -/
def padded (data : DataVec) : DataVec := if data = [] then [0] else data

theorem length_padded (data : DataVec) : (padded data).length = max data.length 1 := by
  unfold padded
  cases data with
  | nil => rfl
  | cons w data =>
    rw [if_neg (List.cons_ne_nil w data), List.length_cons]
    omega

/-- A command or a response with the command id `id`, without an error and for chip 0. -/
def wire (id : BitVec 32) (data : DataVec) : List Byte :=
  wordsToBytes (([id, BitVec.ofNat 32 (16 + 4 * (padded data).length), 0, 0] ++ padded data).map
    Io.htonl)

theorem length_wire (id : BitVec 32) (data : DataVec) :
    (wire id data).length = 16 + 4 * (padded data).length := by
  unfold wire
  rw [length_wordsToBytes, List.length_map, List.length_append]
  simp only [List.length_cons, List.length_nil]
  omega

theorem map_htonl_padded (data : DataVec) :
    (padded data).map Io.htonl = if data = [] then [0] else data.map Io.htonl := by
  unfold padded
  split
  · rfl
  · rfl

/-- The words of a message, in the byte order of the host. -/
theorem ntohl_wordAt_wire (id : BitVec 32) (data : DataVec) (rest : List Byte) (ix : ℕ)
    {w : BitVec 32} (h : ([id, BitVec.ofNat 32 (16 + 4 * (padded data).length), 0, 0] ++
      padded data)[ix]? = some w) : Io.ntohl (wordAt 4 (wire id data ++ rest) ix) = w := by
  have hword : wordAt 4 (wire id data ++ rest) ix = Io.htonl w := by
    apply wordAt_stores
    rw [List.getElem?_map, h]
    rfl
  rw [hword, Io.ntohl_htonl]

/-- The payload of a message. -/
theorem map_ntohl_wire (id : BitVec 32) (data : DataVec) (rest : List Byte) :
    (List.range (padded data).length).map
        (fun i => Io.ntohl (wordAt 4 (wire id data ++ rest) (4 + i))) = padded data := by
  apply List.ext_getElem
  · rw [List.length_map, List.length_range]
  · intro i h1 h2
    rw [List.getElem_map, List.getElem_range]
    apply ntohl_wordAt_wire
    rw [List.getElem?_append_right (Nat.le_add_right 4 i)]
    show (padded data)[4 + i - 4]? = _
    rw [Nat.add_sub_cancel_left, List.getElem?_eq_getElem h2]

section RoundTrip

variable {data : DataVec}

/-- What fits the buffers fits the length field. -/
theorem toNat_length_field (h : messageSize data * 4 ≤ BUFFER_SIZE) :
    (BitVec.ofNat 32 (16 + 4 * (padded data).length)).toNat = 16 + 4 * (padded data).length := by
  unfold messageSize BUFFER_SIZE at h
  rw [length_padded, BitVec.toNat_ofNat]
  apply Nat.mod_eq_of_lt
  omega

/-! ## Commands -/

theorem wordsToBytes_message (cmd : TpxCommand) (data : DataVec) :
    wordsToBytes (message cmd data) = wire cmd.code data := by
  have hsize : messageSize data * 4 = 16 + 4 * (padded data).length := by
    rw [messageSize, length_padded]
    omega
  unfold wire message
  rw [List.map_append, map_htonl_padded, hsize]
  rfl

/-- A message on the wire passes the checks of the test server. -/
theorem readTcp_wire (h : messageSize data * 4 ≤ BUFFER_SIZE) (id : BitVec 32)
    (rest : List Byte) : SpidrServer.readTcp (wire id data ++ rest) (wire id data).length =
      .command ⟨id⟩ (padded data) := by
  have hlen := length_wire id data
  have hpad := length_padded data
  have hfield := toNat_length_field h
  unfold SpidrServer.readTcp
  rw [if_neg (by omega), if_neg (by omega)]
  dsimp only
  rw [ntohl_wordAt_wire id data rest 0 rfl, ntohl_wordAt_wire id data rest 1 rfl,
    ntohl_wordAt_wire id data rest 2 rfl, ntohl_wordAt_wire id data rest 3 rfl,
    hfield, hlen, if_neg (not_not.mpr rfl), if_neg (not_not.mpr rfl), if_neg (not_not.mpr rfl),
    if_neg (by omega),
    show (16 + 4 * (padded data).length - 16) / 4 = (padded data).length by omega]
  simp only [Nat.add_comm _ 4, map_ntohl_wire]

/-! ## Responses -/

/-- The length of a message on the wire. -/
theorem max_eq_length_wire (h : messageSize data * 4 ≤ BUFFER_SIZE) :
    max 20 ((16 + 4 * data.length) % 2 ^ 32) = 16 + 4 * (padded data).length := by
  unfold messageSize BUFFER_SIZE at h
  rw [length_padded, Nat.mod_eq_of_lt (by omega)]
  omega

theorem sendTcpResponse_eq (h : messageSize data * 4 ≤ BUFFER_SIZE) {buffer : List Byte}
    (hbuffer : buffer.length = BUFFER_SIZE) (command : TpxCommand) :
    SpidrServer.sendTcpResponse buffer command data =
      some (wire (command.code ||| TpxCommand.CMD_REPLY.code) data) := by
  have hwords : [Io.htonl (command.code ||| TpxCommand.CMD_REPLY.code),
      Io.htonl (BitVec.ofNat 32 (16 + 4 * (padded data).length)), Io.htonl 0, Io.htonl 0] ++
        (if data = [] then [Io.htonl 0] else data.map Io.htonl) =
      ([command.code ||| TpxCommand.CMD_REPLY.code,
        BitVec.ofNat 32 (16 + 4 * (padded data).length), 0, 0] ++ padded data).map Io.htonl := by
    rw [List.map_append, map_htonl_padded]
    rfl
  have hlen := length_wire (command.code ||| TpxCommand.CMD_REPLY.code) data
  have hfits : 16 + 4 * (padded data).length ≤ BUFFER_SIZE := by
    unfold messageSize at h
    rw [length_padded]
    omega
  unfold SpidrServer.sendTcpResponse
  dsimp only
  rw [max_eq_length_wire h, hwords, hbuffer, List.length_map, List.length_append, if_neg]
  · exact congrArg some (take_fill buffer hlen)
  · simp only [List.length_cons, List.length_nil]
    omega

/-- The reply bit is set and taken away again. -/
theorem or_xor_reply {c r : BitVec 32} (h : c &&& r = 0) : (c ||| r) ^^^ r = c := by
  apply BitVec.eq_of_getLsbD_eq
  intro i hi
  have hbit : (c.getLsbD i && r.getLsbD i) = false := by
    rw [← BitVec.getLsbD_and, h]
    exact BitVec.getLsbD_zero
  rw [BitVec.getLsbD_xor, BitVec.getLsbD_or]
  cases hc : c.getLsbD i with
  | false => simp
  | true =>
    rw [hc, Bool.true_and] at hbit
    rw [hbit]
    rfl

theorem or_and_reply (c r : BitVec 32) : (c ||| r) &&& r = r := by
  apply BitVec.eq_of_getLsbD_eq
  intro i hi
  rw [BitVec.getLsbD_and, BitVec.getLsbD_or]
  cases r.getLsbD i with
  | false => rw [Bool.and_false]
  | true => rw [Bool.or_true, Bool.and_self]

/-- A message on the wire passes the checks of `commandRecv`. -/
theorem commandRecv_wire (h : messageSize data * 4 ≤ BUFFER_SIZE) {cmd : TpxCommand}
    (hcmd : cmd.code &&& TpxCommand.CMD_REPLY.code = 0) {s : CommsThread}
    (halive : s.mTpxManager.mIsCancelled = false) {buffer : List Byte}
    (hbuffer : s.mTpxManager.mResponseBuffer =
      fill buffer (wire (cmd.code ||| TpxCommand.CMD_REPLY.code) data)) :
    commandRecv none (wire (cmd.code ||| TpxCommand.CMD_REPLY.code) data).length s =
      processRecv cmd (padded data) s := by
  have hlen := length_wire (cmd.code ||| TpxCommand.CMD_REPLY.code) data
  have hpad := length_padded data
  have hfield := toNat_length_field h
  have hword : ∀ ix w, ([cmd.code ||| TpxCommand.CMD_REPLY.code,
        BitVec.ofNat 32 (16 + 4 * (padded data).length), 0, 0] ++ padded data)[ix]? = some w →
      responseWord (wire (cmd.code ||| TpxCommand.CMD_REPLY.code) data) ix = w := by
    intro ix w hw
    have := ntohl_wordAt_wire _ data [] ix hw
    rwa [List.append_nil] at this
  have hsize : responseSize (wire (cmd.code ||| TpxCommand.CMD_REPLY.code) data) =
      16 + 4 * (padded data).length := by
    rw [responseSize, hword 1 _ rfl, hfield]
  have hcommand : responseCommand (wire (cmd.code ||| TpxCommand.CMD_REPLY.code) data) = cmd := by
    rw [responseCommand, hword 0 _ rfl, or_xor_reply hcmd]
  have hdata : responseData (fill buffer (wire (cmd.code ||| TpxCommand.CMD_REPLY.code) data)) =
      padded data := by
    rw [fill, responseData, responseSize_append _ (by omega), hsize,
      show (16 + 4 * (padded data).length - 16) / 4 = (padded data).length by omega]
    exact map_ntohl_wire _ data _
  have herror : reportError (wire (cmd.code ||| TpxCommand.CMD_REPLY.code) data) s = some s := by
    unfold reportError
    rw [hword 2 _ rfl]
    rfl
  rw [commandRecv_eq halive hbuffer (by omega), hword 0 _ rfl, hword 3 _ rfl, hsize, hcommand,
    hdata, herror, or_and_reply, if_neg (by omega), if_neg (by decide)]
  dsimp only
  rw [if_neg (not_not.mpr rfl), if_neg (by omega), if_neg (by omega)]

end RoundTrip

/-- **Both directions.** What `sendCommand` writes is read by the test server as the same command
and payload, and what the test server writes is read by `commandRecv` as the same command and
payload; an empty payload is read as a zero word. -/
theorem wire_round_trip (cmd : TpxCommand) (hcmd : cmd.code &&& TpxCommand.CMD_REPLY.code = 0)
    (data : DataVec) (hfits : messageSize data * 4 ≤ BUFFER_SIZE) :
    (∀ s : CommsThread, s.mTpxManager.mIsCancelled = false →
      ∃ s' bytes, sendCommand cmd data false s = .ok s' ∧
        s'.mTpxManager.pendingSend = some bytes ∧
        ∀ buffer, SpidrServer.readTcp (fill buffer bytes) bytes.length =
          .command cmd (padded data)) ∧
    (∀ sendBuffer : List Byte, sendBuffer.length = BUFFER_SIZE →
      ∃ bytes, SpidrServer.sendTcpResponse sendBuffer cmd data = some bytes ∧
        bytes.length ≤ BUFFER_SIZE ∧
        ∀ (s : CommsThread) (buffer : List Byte), s.mTpxManager.mIsCancelled = false →
          s.mTpxManager.mResponseBuffer = fill buffer bytes →
          commandRecv none bytes.length s = processRecv cmd (padded data) s) := by
  constructor
  · intro s halive
    have hlen : (wordsToBytes (message cmd data)).length = messageSize data * 4 := by
      rw [length_wordsToBytes, length_message, Nat.mul_comm]
    rw [sendCommand_eq halive, if_neg (Nat.not_lt.mpr hfits), take_fill _ hlen,
      wordsToBytes_message]
    exact ⟨_, _, rfl, rfl, fun buffer => readTcp_wire hfits cmd.code _⟩
  · intro sendBuffer hbuffer
    refine ⟨_, sendTcpResponse_eq hfits hbuffer cmd, ?_, fun s buffer halive hresponse => ?_⟩
    · unfold messageSize at hfits
      rw [length_wire, length_padded]
      omega
    · exact commandRecv_wire hfits hcmd halive hresponse

theorem wire_round_trip_dac :
    (∃ s' bytes, sendCommand .CMD_SET_DAC [0x0C0401FF] false {} = .ok s' ∧
      s'.mTpxManager.pendingSend = some bytes ∧
      SpidrServer.readTcp (fill [] bytes) bytes.length = .command .CMD_SET_DAC [0x0C0401FF]) ∧
    ∃ bytes, SpidrServer.sendTcpResponse (List.replicate BUFFER_SIZE 0) .CMD_SET_DAC
        [0x0C0401FF] = some bytes ∧
      commandRecv none bytes.length { mTpxManager := { mResponseBuffer := fill [] bytes } } =
        processRecv .CMD_SET_DAC [0x0C0401FF]
          { mTpxManager := { mResponseBuffer := fill [] bytes } } := by
  obtain ⟨hcommand, hresponse⟩ :=
    wire_round_trip .CMD_SET_DAC (by decide) [0x0C0401FF] (by decide)
  obtain ⟨s', bytes, hsend, hpending, hread⟩ := hcommand {} rfl
  obtain ⟨bytes', hsend', -, hrecv⟩ :=
    hresponse (List.replicate BUFFER_SIZE 0) (List.length_replicate ..)
  exact ⟨⟨s', bytes, hsend, hpending, hread []⟩, bytes', hsend', hrecv _ [] rfl rfl⟩

end TpxServer.Comms
