import TpxServer.Comms.Packets
import TpxServer.Lib.Traced

/-!
# What the response parser accesses

`commandRecv` and `getErrorString` once more, with the record of the bytes they read from the
response buffer, of their subtraction and of their look-ups. The handler has no defined behaviour
before it processes the response exactly when an access is not safe (`commandRecv_of_safe`,
`commandRecv_of_unsafe`).

The number of bytes received is compared with the length field from below only, and the error word
is not checked before it is looked up: the accesses are safe exactly when the error word is one of
the tables, and the length field is at least that of the header (`accesses_safe_iff`).
-/

namespace TpxServer.Comms

namespace TimepixConnectionManager

/-! ## The parser with its accesses -/

/-- `*reinterpret_cast<std::uint32_t*>(&mResponseBuffer[4 * ix])` in host order. -/
def readWord (buffer : List Byte) (ix : ℕ) : Traced Access (BitVec 32) :=
  .record (.read (4 * ix) 4) (responseWord buffer ix)

/-- `mResponseBuffer[ix]`. -/
def readByte (buffer : List Byte) (ix : ℕ) : Traced Access Byte :=
  .record (.read ix 1) (buffer.getD ix 0)

/-- `table[index]`. -/
def lookUp (table : List String) (index : ℕ) : Traced Access String :=
  .record (.lookup index table.length) (table.getD index "")

/-- `x - y` on `std::uint32_t`. -/
def subtract (x y : BitVec 32) : Traced Access (BitVec 32) :=
  .record (.subtract x.toNat y.toNat) (x - y)

/-- The index of the error of the SPIDR. -/
def errByte (err_code : BitVec 32) : ℕ := (err_code &&& 0xFF).toNat

/-- The index of the error of the Timepix. -/
def hardwareByte (err_code : BitVec 32) : ℕ := ((err_code &&& 0xFF00) >>> 8).toNat

/-- `getErrorString` with its accesses. -/
def errorStringTrace (err_code : BitVec 32) : Traced Access String := do
  let str ← lookUp SPIDR_ERROR_MESSAGES (errByte err_code)
  if errByte err_code = 6 then do
    let str' ← lookUp TIMEPIX_ERROR_MESSAGES (hardwareByte err_code)
    pure (str ++ ": " ++ str')
  else pure str

/-- The message about an error code with its accesses. -/
def reportTrace (cmd : TpxCommand) (error_int : BitVec 32) (s : CommsThread) :
    Traced Access CommsThread :=
  if error_int = 0 then pure s
  else do
    let str ← errorStringTrace error_int
    pure (s.sendErr ("Timepix reported an error code (command=0x" ++ hexUpper cmd.code ++
      ", error=0x" ++ hexUpper error_int ++ " [" ++ str ++ "])"))

/-- `commandRecv` from the check of the chip number on, with its accesses. -/
def payloadTrace (bytes_received : ℕ) (cmd : TpxCommand) (num_bytes chip_num : BitVec 32)
    (s : CommsThread) : Traced Access Result :=
  if chip_num ≠ 0 then
    pure (.ok (s.sendErr ("Chip number in response was not zero (value=" ++
      toString chip_num.toNat ++ ")")))
  else if bytes_received < num_bytes.toNat then
    pure (.ok (s.sendErr ("Timepix sent " ++ toString num_bytes.toNat ++ " bytes, only received " ++
      toString bytes_received ++ " bytes")))
  else do
    let data_bytes ← subtract num_bytes 16
    let data ← Traced.collect (data_bytes.toNat / 4) fun i =>
      readWord s.mTpxManager.mResponseBuffer (4 + i)
    pure (processRecv cmd data s)

/-- `commandRecv` with its accesses. The bytes are printed before the length field is checked. -/
def recvTrace (err : Option ErrorCode) (bytes_received : ℕ) (s : CommsThread) :
    Traced Access Result :=
  if s.mTpxManager.mIsCancelled then pure (.ok s)
  else
    match err with
    | some code => pure (.throws (.system_error code) s)
    | none =>
      let buffer := s.mTpxManager.mResponseBuffer
      if bytes_received < 20 ∨ bytes_received % 4 ≠ 0 then
        pure (.ok
          (s.sendErr ("Received an incomplete packet (" ++ toString bytes_received ++ " bytes)")))
      else do
        let cmd_int ← readWord buffer 0
        if cmd_int &&& TpxCommand.CMD_REPLY.code = 0 then
          pure (.ok (s.sendErr "Received a packet without the REPLY bit set"))
        else do
          let cmd : TpxCommand := ⟨cmd_int ^^^ TpxCommand.CMD_REPLY.code⟩
          let num_bytes ← readWord buffer 1
          let error_int ← readWord buffer 2
          let chip_num ← readWord buffer 3
          let s ← reportTrace cmd error_int s
          let _ ← Traced.collect bytes_received (readByte buffer)
          payloadTrace bytes_received cmd num_bytes chip_num s

/-! ## Conditions on the response -/

/-- The bytes received pass the checks made before the header is read. -/
structure HasHeader (bytes_received : ℕ) (buffer : List Byte) : Prop where
  size_ge : 20 ≤ bytes_received
  aligned : bytes_received % 4 = 0
  reply : responseWord buffer 0 &&& TpxCommand.CMD_REPLY.code ≠ 0

instance (bytes_received : ℕ) (buffer : List Byte) :
    Decidable (HasHeader bytes_received buffer) :=
  decidable_of_iff (20 ≤ bytes_received ∧ bytes_received % 4 = 0 ∧
      responseWord buffer 0 &&& TpxCommand.CMD_REPLY.code ≠ 0)
    ⟨fun ⟨h1, h2, h3⟩ => ⟨h1, h2, h3⟩, fun ⟨h1, h2, h3⟩ => ⟨h1, h2, h3⟩⟩

/-- The low byte is one of the errors of the SPIDR; if it is a hardware error of the Timepix, the
next byte is one of those. -/
def KnownError (error_int : BitVec 32) : Prop :=
  errByte error_int < SPIDR_ERROR_MESSAGES.length ∧
    (errByte error_int = 6 → hardwareByte error_int < TIMEPIX_ERROR_MESSAGES.length)

instance : DecidablePred KnownError := fun _ => inferInstanceAs (Decidable (_ ∧ _))

/-- No error is a known error. -/
theorem knownError_zero : KnownError 0 := by decide

/-! ## Safety of the parts -/

section Parts

variable {n : ℕ} {buffer : List Byte}

@[simp] theorem all_readWord {ix : ℕ} :
    (readWord buffer ix).All (Access.Safe n) ↔ 4 * ix + 4 ≤ n := Traced.all_record

@[simp] theorem all_readByte {ix : ℕ} :
    (readByte buffer ix).All (Access.Safe n) ↔ ix + 1 ≤ n := Traced.all_record

@[simp] theorem all_lookUp {table : List String} {index : ℕ} :
    (lookUp table index).All (Access.Safe n) ↔ index < table.length := Traced.all_record

@[simp] theorem all_subtract {x y : BitVec 32} :
    (subtract x y).All (Access.Safe n) ↔ y.toNat ≤ x.toNat := Traced.all_record

theorem all_errorStringTrace {err_code : BitVec 32} :
    (errorStringTrace err_code).All (Access.Safe n) ↔ KnownError err_code := by
  unfold errorStringTrace KnownError
  rw [Traced.all_bind, all_lookUp]
  refine and_congr_right fun _ => ?_
  by_cases h : errByte err_code = 6
  · rw [if_pos h, Traced.all_bind, all_lookUp]
    exact ⟨fun hsafe _ => hsafe.1, fun hknown => ⟨hknown h, Traced.all_pure _⟩⟩
  · rw [if_neg h]
    exact iff_of_true (Traced.all_pure _) fun h6 => absurd h6 h

theorem all_reportTrace {cmd : TpxCommand} {error_int : BitVec 32} {s : CommsThread} :
    (reportTrace cmd error_int s).All (Access.Safe n) ↔ KnownError error_int := by
  unfold reportTrace
  by_cases h : error_int = 0
  · rw [if_pos h, h]
    exact iff_of_true (Traced.all_pure s) knownError_zero
  · rw [if_neg h, Traced.all_bind, all_errorStringTrace]
    exact and_iff_left (Traced.all_pure _)

theorem value_lookUp {table : List String} {index : ℕ} (h : index < table.length) :
    table[index]? = some (lookUp table index).value := by
  rw [List.getElem?_eq_getElem h, lookUp, Traced.value_record, List.getD_eq_getElem _ _ h]

/-- Look-ups inside the tables give the text of `getErrorString`. -/
theorem getErrorString_eq (err_code : BitVec 32) :
    getErrorString err_code =
      if KnownError err_code then some (errorStringTrace err_code).value else none := by
  unfold getErrorString errorStringTrace
  change ((SPIDR_ERROR_MESSAGES[errByte err_code]?).bind fun str =>
    if errByte err_code = 6 then
      (TIMEPIX_ERROR_MESSAGES[hardwareByte err_code]?).map fun str' => str ++ ": " ++ str'
    else some str) = _
  by_cases hlow : errByte err_code < SPIDR_ERROR_MESSAGES.length
  · rw [value_lookUp hlow, Option.bind_some]
    by_cases h6 : errByte err_code = 6
    · rw [if_pos h6]
      by_cases hnext : hardwareByte err_code < TIMEPIX_ERROR_MESSAGES.length
      · have hknown : KnownError err_code := ⟨hlow, fun _ => hnext⟩
        rw [value_lookUp hnext, if_pos hknown, Traced.value_bind, if_pos h6]
        rfl
      · have hunknown : ¬ KnownError err_code := fun h => hnext (h.2 h6)
        rw [List.getElem?_eq_none (not_lt.mp hnext), if_neg hunknown]
        rfl
    · have hknown : KnownError err_code := ⟨hlow, fun h => absurd h h6⟩
      rw [if_neg h6, if_pos hknown, Traced.value_bind, if_neg h6]
      rfl
  · have hunknown : ¬ KnownError err_code := fun h => hlow h.1
    rw [List.getElem?_eq_none (not_lt.mp hlow), if_neg hunknown]
    rfl

theorem reportError_eq (buffer : List Byte) (s : CommsThread) :
    reportError buffer s =
      if KnownError (responseWord buffer 2) then
        some (reportTrace (responseCommand buffer) (responseWord buffer 2) s).value
      else none := by
  unfold reportError reportTrace
  by_cases h : responseWord buffer 2 = 0
  · rw [if_pos h, if_pos h, h, if_pos knownError_zero]
    rfl
  · rw [if_neg h, if_neg h, getErrorString_eq]
    split_ifs
    · rfl
    · rfl

end Parts

/-! ## Safety of the parser -/

section Parser

variable {n : ℕ} {s : CommsThread}

/-- The checks made before the header is read are safe, and nothing else happens if one fails. -/
theorem header_or_safe (err : Option ErrorCode) (n : ℕ) (s : CommsThread) :
    (s.mTpxManager.mIsCancelled = false ∧ err = none ∧
      HasHeader n s.mTpxManager.mResponseBuffer) ∨
    ((recvTrace err n s).All (Access.Safe n) ∧
      commandRecv err n s = (recvTrace err n s).value) := by
  unfold recvTrace commandRecv
  by_cases hcancel : s.mTpxManager.mIsCancelled = true
  · rw [if_pos hcancel, if_pos hcancel]
    exact Or.inr ⟨Traced.all_pure _, rfl⟩
  rw [if_neg hcancel, if_neg hcancel]
  cases err with
  | some code => exact Or.inr ⟨Traced.all_pure _, rfl⟩
  | none =>
    dsimp only
    by_cases hsize : n < 20 ∨ n % 4 ≠ 0
    · rw [if_pos hsize, if_pos hsize]
      exact Or.inr ⟨Traced.all_pure _, rfl⟩
    rw [if_neg hsize, if_neg hsize, Traced.all_bind, Traced.value_bind]
    by_cases hreply : responseWord s.mTpxManager.mResponseBuffer 0 &&& TpxCommand.CMD_REPLY.code = 0
    · have hvalue : (readWord s.mTpxManager.mResponseBuffer 0).value &&&
        TpxCommand.CMD_REPLY.code = 0 := hreply
      rw [if_pos hreply, if_pos hvalue]
      exact Or.inr ⟨⟨all_readWord.mpr (by omega), Traced.all_pure _⟩, rfl⟩
    · refine Or.inl ⟨Bool.eq_false_iff.mpr hcancel, rfl, ?_⟩
      exact { size_ge := by omega, aligned := by omega, reply := hreply }

/-- The payload is read safely exactly when the length field, if it comes to that, is not smaller
than the header. -/
theorem all_payloadTrace {cmd : TpxCommand} {num_bytes chip_num : BitVec 32} :
    (payloadTrace n cmd num_bytes chip_num s).All (Access.Safe n) ↔
      (chip_num = 0 → num_bytes.toNat ≤ n → 16 ≤ num_bytes.toNat) := by
  have h16 : (16 : BitVec 32).toNat = 16 := rfl
  unfold payloadTrace
  by_cases hchip : chip_num ≠ 0
  · rw [if_pos hchip]
    exact iff_of_true (Traced.all_pure _) fun h => absurd h hchip
  rw [if_neg hchip]
  by_cases hsize : n < num_bytes.toNat
  · rw [if_pos hsize]
    exact iff_of_true (Traced.all_pure _) fun _ h => absurd hsize (not_lt.mpr h)
  rw [if_neg hsize, Traced.all_bind, all_subtract, Traced.all_bind, h16]
  constructor
  · exact fun hsafe _ _ => hsafe.1
  · intro hsafe
    have hheader := hsafe (not_not.mp hchip) (not_lt.mp hsize)
    refine ⟨hheader, Traced.all_collect.mpr fun i hi => all_readWord.mpr ?_, Traced.all_pure _⟩
    have hdata : (subtract num_bytes 16).value.toNat = num_bytes.toNat - 16 :=
      BitVec.toNat_sub_of_le hheader
    rw [hdata] at hi
    omega

/-- A length field smaller than the header leaves no defined behaviour. -/
theorem payload_eq {buffer : List Byte} (hbuffer : s.mTpxManager.mResponseBuffer = buffer) :
    (if responseWord buffer 3 ≠ 0 then
        .ok (s.sendErr ("Chip number in response was not zero (value=" ++
          toString (responseWord buffer 3).toNat ++ ")"))
      else if n < responseSize buffer then
        .ok (s.sendErr ("Timepix sent " ++ toString (responseSize buffer) ++
          " bytes, only received " ++ toString n ++ " bytes"))
      else if responseSize buffer < 16 then .undefined
      else processRecv (responseCommand buffer) (responseData buffer) s) =
    if responseWord buffer 3 = 0 → responseSize buffer ≤ n → 16 ≤ responseSize buffer then
      (payloadTrace n (responseCommand buffer) (responseWord buffer 1) (responseWord buffer 3)
        s).value
    else .undefined := by
  unfold payloadTrace
  by_cases hchip : responseWord buffer 3 ≠ 0
  · rw [if_pos hchip, if_pos fun h => absurd h hchip, if_pos hchip]
    rfl
  rw [if_neg hchip, if_neg hchip]
  by_cases hsize : n < responseSize buffer
  · have hsize' : n < (responseWord buffer 1).toNat := hsize
    rw [if_pos hsize, if_pos fun _ h => absurd hsize (not_lt.mpr h), if_pos hsize']
    rfl
  have hsize' : ¬ n < (responseWord buffer 1).toNat := hsize
  rw [if_neg hsize, if_neg hsize']
  by_cases hheader : responseSize buffer < 16
  · have hsmall : ¬ (responseWord buffer 3 = 0 → responseSize buffer ≤ n →
        16 ≤ responseSize buffer) :=
      fun h => not_lt.mpr (h (not_not.mp hchip) (not_lt.mp hsize)) hheader
    rw [if_pos hheader, if_neg hsmall]
  · have hdata : (responseWord buffer 1 - 16).toNat = responseSize buffer - 16 :=
      BitVec.toNat_sub_of_le (not_lt.mp hheader)
    rw [if_neg hheader, if_pos fun _ _ => not_lt.mp hheader, hbuffer, responseData, ← hdata]
    rfl

theorem tpxManager_reportTrace (cmd : TpxCommand) (error_int : BitVec 32) :
    (reportTrace cmd error_int s).value.mTpxManager = s.mTpxManager := by
  unfold reportTrace
  split_ifs
  · rfl
  · rfl

section Header

variable (hcancel : s.mTpxManager.mIsCancelled = false)
  (h : HasHeader n s.mTpxManager.mResponseBuffer)
include hcancel h

/-- With a header, the look-ups and the subtraction decide. -/
theorem all_recvTrace_header : (recvTrace none n s).All (Access.Safe n) ↔
    KnownError (responseWord s.mTpxManager.mResponseBuffer 2) ∧
      (responseWord s.mTpxManager.mResponseBuffer 3 = 0 →
        responseSize s.mTpxManager.mResponseBuffer ≤ n →
          16 ≤ responseSize s.mTpxManager.mResponseBuffer) := by
  have hn := h.size_ge
  have halign := h.aligned
  have hreply : ¬ (readWord s.mTpxManager.mResponseBuffer 0).value &&&
    TpxCommand.CMD_REPLY.code = 0 := h.reply
  unfold recvTrace
  rw [if_neg (ne_true_of_eq_false hcancel)]
  dsimp only
  rw [if_neg (by omega), Traced.all_bind, if_neg hreply]
  simp only [Traced.all_bind, all_readWord, all_reportTrace, Traced.all_collect, all_readByte,
    all_payloadTrace]
  constructor
  · rintro ⟨-, -, -, -, hknown, -, hpayload⟩
    exact ⟨hknown, hpayload⟩
  · rintro ⟨hknown, hpayload⟩
    exact ⟨by omega, by omega, by omega, by omega, hknown, fun i hi => hi, hpayload⟩

/-- With a header, an access that is not safe leaves no defined behaviour. -/
theorem commandRecv_header : commandRecv none n s =
    if KnownError (responseWord s.mTpxManager.mResponseBuffer 2) ∧
      (responseWord s.mTpxManager.mResponseBuffer 3 = 0 →
        responseSize s.mTpxManager.mResponseBuffer ≤ n →
          16 ≤ responseSize s.mTpxManager.mResponseBuffer)
    then (recvTrace none n s).value else .undefined := by
  have hsize : ¬ (n < 20 ∨ n % 4 ≠ 0) :=
    not_or.mpr ⟨not_lt.mpr h.size_ge, not_not.mpr h.aligned⟩
  have hreply : ¬ (readWord s.mTpxManager.mResponseBuffer 0).value &&&
    TpxCommand.CMD_REPLY.code = 0 := h.reply
  unfold commandRecv recvTrace
  rw [if_neg (ne_true_of_eq_false hcancel), if_neg (ne_true_of_eq_false hcancel)]
  dsimp only
  rw [if_neg hsize, if_neg hsize, if_neg h.reply, Traced.value_bind, if_neg hreply,
    reportError_eq]
  by_cases hknown : KnownError (responseWord s.mTpxManager.mResponseBuffer 2)
  · rw [if_pos hknown]
    dsimp only
    rw [payload_eq (congrArg _ (tpxManager_reportTrace _ _))]
    simp only [hknown, true_and]
    rfl
  · rw [if_neg hknown, if_neg fun h => hknown h.1]

end Header

/-- **Unsafe means undefined.** The handler does what the recorded parser computes if all accesses
are safe, and has no defined behaviour otherwise. -/
theorem commandRecv_eq_trace (err : Option ErrorCode) (n : ℕ) (s : CommsThread) :
    commandRecv err n s =
      if (recvTrace err n s).All (Access.Safe n) then (recvTrace err n s).value
      else .undefined := by
  rcases header_or_safe err n s with ⟨hcancel, rfl, hheader⟩ | ⟨hsafe, hvalue⟩
  · simp only [all_recvTrace_header hcancel hheader, commandRecv_header hcancel hheader]
  · rw [if_pos hsafe, hvalue]

end Parser

/-- **Response safety.** Whatever the buffer holds and however many bytes were received, all
accesses of the handler are safe exactly when a response with a header has an error word of the
tables and, if its payload is read, a length field that counts the header. -/
theorem accesses_safe_iff (err : Option ErrorCode) (n : ℕ) (s : CommsThread) :
    (recvTrace err n s).All (Access.Safe n) ↔
      (s.mTpxManager.mIsCancelled = false → err = none →
        HasHeader n s.mTpxManager.mResponseBuffer →
          KnownError (responseWord s.mTpxManager.mResponseBuffer 2) ∧
            (responseWord s.mTpxManager.mResponseBuffer 3 = 0 →
              responseSize s.mTpxManager.mResponseBuffer ≤ n →
                16 ≤ responseSize s.mTpxManager.mResponseBuffer)) := by
  rcases header_or_safe err n s with ⟨hcancel, rfl, hheader⟩ | ⟨hsafe, -⟩
  · rw [all_recvTrace_header hcancel hheader]
    exact ⟨fun h _ _ _ => h, fun h => h hcancel rfl hheader⟩
  · refine iff_of_true hsafe fun hcancel herr hheader => ?_
    subst herr
    exact (all_recvTrace_header hcancel hheader).mp hsafe

/-- A response of 20 bytes to `CMD_GET_SOFTWVERSION` with the given length field and error word. -/
def responseWith (num_bytes error_int : BitVec 32) : CommsThread :=
  { mTpxManager :=
      { mIsConnected := true
        mIsExecutingCommand := true
        mResponseBuffer := fill (List.replicate BUFFER_SIZE 0)
          (wordsToBytes ([0x00010901, num_bytes, error_int, 0, 0].map Io.htonl)) } }

/-- Error 11 is looked up past the end of the table of the SPIDR, and for a length field of 0 the
size of the payload wraps around. -/
theorem accesses_unsafe :
    ¬ (recvTrace none 20 (responseWith 20 11)).All (Access.Safe 20) ∧
      ¬ (recvTrace none 20 (responseWith 0 0)).All (Access.Safe 20) := by
  decide +kernel

end TimepixConnectionManager

end TpxServer.Comms
