import TpxServer.Comms.Calls
import TpxServer.Comms.Replies
import TpxServer.Lib.Traced

/-!
# What the parsers of requests access

The parsers of `handleCommand` of the client manager and of `pollCommands` once more, with the
record of the bytes they read from the message and of the increments of their loop counter. The
functions have no defined behaviour exactly when an access is not safe (`handleCommand_eq_parse`,
`pollCommands_eq_parse`).

Both read the code before they look at the length, which they narrow to 32 bits: they do what they
should exactly for messages of four bytes and more that are below 4 GiB or not made of whole words
(`requests_parsed_iff`).
-/

namespace TpxServer.Comms

open PythonConnectionManager SecondaryThread

/-! ## Accesses -/

inductive RequestAccess where
  /-- A read of `size` bytes from `offset` on. -/
  | read (offset size : ℕ)
  /-- `++ix` on an `int`. -/
  | increment (ix : ℕ)
  deriving Repr, DecidableEq

/-- Only the `n` bytes of the message are read, and no counter overflows. -/
def RequestAccess.Safe (n : ℕ) : RequestAccess → Prop
  | read offset size => offset + size ≤ n
  | increment ix => ix + 1 < 2 ^ 31

instance (n : ℕ) : DecidablePred (RequestAccess.Safe n)
  | .read offset size => inferInstanceAs (Decidable (offset + size ≤ n))
  | .increment ix => inferInstanceAs (Decidable (ix + 1 < 2 ^ 31))

/-! ## The parsers with their accesses -/

/-- `command_int_ptr[ix]`. -/
def readRequestWord (msg : List Byte) (ix : ℕ) : Traced RequestAccess (BitVec 32) :=
  .record (.read (4 * ix) 4) (wordAt 4 msg ix)

/-- `++ix`. -/
def incrementCounter (ix : ℕ) : Traced RequestAccess ℕ := .record (.increment ix) (ix + 1)

/-- The loop that copies the data. -/
def copyData (data_size : ℕ) (msg : List Byte) : Traced RequestAccess DataVec :=
  Traced.collect data_size fun ix => do
    let word ← readRequestWord msg (1 + ix)
    let _ ← incrementCounter ix
    pure word

/-- `std::uint32_t com_size`. -/
def commandSize (msg : List Byte) : BitVec 32 := BitVec.ofNat 32 msg.length

/-- `(com_size / 4) - 1` on `std::uint32_t`. -/
def dataSize (com_size : BitVec 32) : ℕ := (com_size / 4 - 1).toNat

/-- What `handleCommand` of the client manager makes of a message. -/
inductive ClientRequest where
  /-- The size is not a multiple of 4. -/
  | invalid
  /-- There is no memory for the data. -/
  | noMemory
  | call (handler : ClientHandler) (code : ServerCommand) (data : DataVec)
  /-- The code has no handler. -/
  | other (code : ServerCommand)

/-- The parser of `PythonConnectionManager::handleCommand`. -/
def clientParse (command : List Byte) : Traced RequestAccess ClientRequest := do
  let com_code_int ← readRequestWord command 0
  let command_code : ServerCommand := ⟨com_code_int⟩
  let com_size := commandSize command
  if com_size.toNat % 4 ≠ 0 then pure .invalid
  else
    match COMMAND_MAP.lookup command_code with
    | some handler =>
      -- `reserve` is called for 2^32 - 1 words
      if com_size = 0 then pure .noMemory
      else do
        let data ← copyData (dataSize com_size) command
        pure (.call handler command_code data)
    | none => pure (.other command_code)

/-- The rest of `PythonConnectionManager::handleCommand`. -/
def ClientRequest.run (command answer : List Byte) (s : CommsThread) : ClientRequest → Result
  | invalid => PythonConnectionManager.sendError .INVALID_COMMAND_DATA s
  | noMemory => .throws (.std_exception "std::bad_alloc") s
  | call handler code data =>
    callHandler handler data (s.withClient { s.mClientManager with mLastCommand := code })
  | other code =>
    if code ∈ UDP_THREAD_FORWARD_COMMANDS then
      forwardToSecondaryThread s.threads.mUdpCommandSocket command answer s
    else if code ∈ CLUSTER_THREAD_FORWARD_COMMANDS then
      forwardToSecondaryThread s.threads.mClusterCommandSocket command answer s
    else if code ∈ HISTOGRAM_THREAD_FORWARD_COMMANDS then
      forwardToSecondaryThread s.threads.mHistogramCommandSocket command answer s
    else PythonConnectionManager.sendError .UNKNOWN_COMMAND s

/-- The parser of `SecondaryThread::pollCommands`; nothing is handed on if the size is not a
multiple of 4. -/
def secondaryParse (msg : List Byte) : Traced RequestAccess (Option (ServerCommand × DataVec)) := do
  let com_code_int ← readRequestWord msg 0
  let com_size := commandSize msg
  if com_size.toNat % 4 ≠ 0 then pure none
  else do
    let data ← copyData (dataSize com_size) msg
    pure (some (⟨com_code_int⟩, data))

/-! ## Sizes -/

section Sizes

variable (msg : List Byte)

theorem toNat_commandSize : (commandSize msg).toNat = msg.length % 2 ^ 32 := BitVec.toNat_ofNat ..

theorem commandSize_eq_zero_iff : commandSize msg = 0 ↔ msg.length % 2 ^ 32 = 0 := by
  rw [← toNat_commandSize, ← BitVec.toNat_inj]
  rfl

/-- The difference of the unsigned numbers wraps around for size zero. -/
theorem dataSize_commandSize : dataSize (commandSize msg) =
    if msg.length % 2 ^ 32 < 4 then 2 ^ 32 - 1 else msg.length % 2 ^ 32 / 4 - 1 := by
  have h4 : (4 : BitVec 32).toNat = 4 := rfl
  have h1 : (1 : BitVec 32).toNat = 1 := rfl
  unfold dataSize
  rw [BitVec.toNat_sub, BitVec.toNat_udiv, toNat_commandSize, h4, h1]
  split_ifs with hsmall
  · rw [Nat.div_eq_of_lt hsmall]
    rfl
  · omega

end Sizes

/-! ## Safety of the parts -/

section Parts

variable {n : ℕ} {msg : List Byte}

@[simp] theorem all_readRequestWord {ix : ℕ} :
    (readRequestWord msg ix).All (RequestAccess.Safe n) ↔ 4 * ix + 4 ≤ n := Traced.all_record

@[simp] theorem all_incrementCounter {ix : ℕ} :
    (incrementCounter ix).All (RequestAccess.Safe n) ↔ ix + 1 < 2 ^ 31 := Traced.all_record

/-- The loop stays inside the message if the message is large enough, and the counter if there are
not too many words. -/
theorem all_copyData {data_size : ℕ} : (copyData data_size msg).All (RequestAccess.Safe n) ↔
    ∀ ix < data_size, 4 * (1 + ix) + 4 ≤ n ∧ ix + 1 < 2 ^ 31 := by
  unfold copyData
  rw [Traced.all_collect]
  refine forall₂_congr fun ix _ => ?_
  rw [Traced.all_bind, all_readRequestWord, Traced.all_bind, all_incrementCounter]
  exact and_congr_right fun _ => and_iff_left (Traced.all_pure _)

/-- The data of a message with a size in 32 bits is read safely, unless the size is zero. -/
theorem all_copyData_message (hlen : 4 ≤ msg.length) (haligned : msg.length % 4 = 0) :
    (copyData (dataSize (commandSize msg)) msg).All (RequestAccess.Safe msg.length) ↔
      msg.length % 2 ^ 32 ≠ 0 := by
  rw [all_copyData, dataSize_commandSize]
  split_ifs with hsmall
  · refine iff_of_false (fun h => ?_) (by omega)
    have hlast := (h (2 ^ 31 - 1) (by norm_num)).2
    omega
  · refine iff_of_true (fun ix hix => ?_) (by omega)
    omega

theorem value_copyData (data_size : ℕ) :
    (copyData data_size msg).value = (List.range data_size).map fun ix => wordAt 4 msg (1 + ix) :=
  rfl

/-- The data is what `pollCommands` finds in the message. -/
theorem value_copyData_message (hzero : msg.length % 2 ^ 32 ≠ 0) (haligned : msg.length % 4 = 0) :
    (copyData (dataSize (commandSize msg)) msg).value =
      commandData (msg.length % 2 ^ 32) msg := by
  rw [value_copyData, dataSize_commandSize, if_neg (by omega)]
  rfl

end Parts

/-! ## The client manager -/

section Client

variable {command answer : List Byte} {s : CommsThread}

/-- What should be made of a code and the words behind it. -/
def requestOf (code : ServerCommand) (words : DataVec) : ClientRequest :=
  match COMMAND_MAP.lookup code with
  | some handler => .call handler code words
  | none => .other code

theorem all_clientParse :
    (clientParse command).All (RequestAccess.Safe command.length) ↔ 4 ≤ command.length := by
  unfold clientParse
  rw [Traced.all_bind, all_readRequestWord]
  constructor
  · rintro ⟨hcode, -⟩
    omega
  · intro hlen
    refine ⟨by omega, ?_⟩
    dsimp only
    by_cases halign : (commandSize command).toNat % 4 ≠ 0
    · rw [if_pos halign]
      exact Traced.all_pure _
    rw [if_neg halign]
    rw [toNat_commandSize] at halign
    split
    · by_cases hzero : commandSize command = 0
      · rw [if_pos hzero]
        exact Traced.all_pure _
      · rw [if_neg hzero, Traced.all_bind, all_copyData_message hlen (by omega)]
        rw [commandSize_eq_zero_iff] at hzero
        exact ⟨hzero, Traced.all_pure _⟩
    · exact Traced.all_pure _

theorem value_clientParse : (clientParse command).value =
    if command.length % 4 ≠ 0 then .invalid
    else if command.length % 2 ^ 32 = 0 ∧ (COMMAND_MAP.lookup (requestCode command)).isSome then
      .noMemory
    else requestOf (requestCode command) (requestData command) := by
  unfold clientParse requestOf
  rw [Traced.value_bind]
  dsimp only
  by_cases halign : command.length % 4 ≠ 0
  · rw [if_pos halign, if_pos (by rw [toNat_commandSize]; omega)]
    rfl
  rw [if_neg halign, if_neg (by rw [toNat_commandSize]; omega)]
  have hcode : (⟨(readRequestWord command 0).value⟩ : ServerCommand) = requestCode command := rfl
  rw [hcode]
  cases COMMAND_MAP.lookup (requestCode command) with
  | none =>
    rw [if_neg fun h => nomatch h.2]
    rfl
  | some handler =>
    dsimp only
    by_cases hzero : command.length % 2 ^ 32 = 0
    · rw [if_pos ((commandSize_eq_zero_iff command).mpr hzero), if_pos ⟨hzero, rfl⟩]
      rfl
    · rw [if_neg (mt (commandSize_eq_zero_iff command).mp hzero), if_neg fun h => hzero h.1,
        Traced.value_bind, value_copyData_message hzero (by omega)]
      rfl

/-- **Unsafe means undefined.** In the connected state the function does what the recorded parser
finds if all accesses are safe, and has no defined behaviour otherwise. -/
theorem handleCommand_eq_parse (hconn : s.mTpxManager.mIsConnected = true) :
    PythonConnectionManager.handleCommand command answer s =
      if (clientParse command).All (RequestAccess.Safe command.length) then
        (clientParse command).value.run command answer s
      else .undefined := by
  unfold PythonConnectionManager.handleCommand
  rw [if_neg (ne_false_of_eq_true hconn), value_clientParse]
  by_cases hshort : command.length < 4
  · rw [if_pos hshort, if_neg (mt all_clientParse.mp (not_le.mpr hshort))]
  rw [if_neg hshort, if_pos (all_clientParse.mpr (not_lt.mp hshort))]
  dsimp only
  by_cases halign : command.length % 4 ≠ 0
  · rw [if_pos halign, if_pos (by omega)]
    rfl
  rw [if_neg halign, if_neg (by omega)]
  unfold requestOf
  cases COMMAND_MAP.lookup (requestCode command) with
  | none =>
    have hsome : ¬ (command.length % 2 ^ 32 = 0 ∧ (none : Option ClientHandler).isSome = true) :=
      fun h => nomatch h.2
    rw [if_neg hsome]
    rfl
  | some handler =>
    dsimp only
    by_cases hzero : command.length % 2 ^ 32 = 0
    · rw [if_pos hzero, if_pos ⟨hzero, rfl⟩]
      rfl
    · rw [if_neg hzero, if_neg fun h => hzero h.1]
      rfl

end Client

/-! ## The secondary threads -/

section Secondary

variable {msg : List Byte}

theorem all_secondaryParse : (secondaryParse msg).All (RequestAccess.Safe msg.length) ↔
    4 ≤ msg.length ∧ (msg.length % 4 = 0 → msg.length % 2 ^ 32 ≠ 0) := by
  unfold secondaryParse
  rw [Traced.all_bind, all_readRequestWord]
  dsimp only
  by_cases hlen : 4 ≤ msg.length
  · by_cases halign : msg.length % 4 = 0
    · rw [if_neg (by rw [toNat_commandSize]; omega), Traced.all_bind,
        all_copyData_message hlen halign]
      constructor
      · rintro ⟨-, hzero, -⟩
        exact ⟨hlen, fun _ => hzero⟩
      · rintro ⟨-, hzero⟩
        exact ⟨by omega, hzero halign, Traced.all_pure _⟩
    · rw [if_pos (by rw [toNat_commandSize]; omega)]
      exact iff_of_true ⟨by omega, Traced.all_pure _⟩ ⟨hlen, fun h => absurd h halign⟩
  · exact iff_of_false (fun h => hlen (by omega)) fun h => hlen h.1

theorem value_secondaryParse (hsafe : (secondaryParse msg).All (RequestAccess.Safe msg.length)) :
    (secondaryParse msg).value =
      if msg.length % 4 ≠ 0 then none
      else some (firstWord msg, commandData (msg.length % 2 ^ 32) msg) := by
  obtain ⟨-, hzero⟩ := all_secondaryParse.mp hsafe
  unfold secondaryParse
  rw [Traced.value_bind]
  dsimp only
  by_cases halign : msg.length % 4 ≠ 0
  · rw [if_pos halign, if_pos (by rw [toNat_commandSize]; omega)]
    rfl
  · rw [if_neg halign, if_neg (by rw [toNat_commandSize]; omega), Traced.value_bind,
      value_copyData_message (hzero (not_not.mp halign)) (not_not.mp halign)]
    rfl

variable {μ : Type*} {t : SecondaryThread μ}

/-- What a poll does with the request that was found. -/
def handOn (handleCommand : ServerCommand → DataVec → SecondaryThread μ → ThreadResult μ)
    (t : SecondaryThread μ) : Option (ServerCommand × DataVec) → ThreadResult μ
  | none => .ok t
  | some (code, data) =>
    (handleCommand code data { t with mLastCommand := code }).catching pollError

/-- The poll hands on what the recorded parser finds if all accesses are safe, and has no defined
behaviour otherwise. -/
theorem pollCommands_eq_parse (ht : Idle t)
    (handleCommand : ServerCommand → DataVec → SecondaryThread μ → ThreadResult μ) :
    pollCommands handleCommand (some msg) t =
      if (secondaryParse msg).All (RequestAccess.Safe msg.length) then
        handOn handleCommand { t with mCommandSocket := t.mCommandSocket.recv msg }
          (secondaryParse msg).value
      else .undefined := by
  rw [pollCommands_some ht]
  by_cases hshort : msg.length < 4
  · rw [if_pos hshort, if_neg fun h => not_lt.mpr (all_secondaryParse.mp h).1 hshort]
  rw [if_neg hshort]
  by_cases halign : msg.length % 4 ≠ 0
  · have hsafe := all_secondaryParse.mpr ⟨not_lt.mp hshort, fun h => absurd h halign⟩
    rw [if_pos halign, if_pos hsafe, value_secondaryParse hsafe, if_pos halign]
    rfl
  rw [if_neg halign]
  by_cases hzero : msg.length % 2 ^ 32 = 0
  · rw [if_pos hzero, if_neg fun h => (all_secondaryParse.mp h).2 (not_not.mp halign) hzero]
  · have hsafe := all_secondaryParse.mpr ⟨not_lt.mp hshort, fun _ => hzero⟩
    rw [if_neg hzero, if_pos hsafe, value_secondaryParse hsafe, if_neg halign]
    rfl

end Secondary

/-! ## Messages of whole words -/

section Messages

variable {msg : List Byte}

/-- The code and the words behind it make up the message. -/
theorem wordsToBytes_words {k : ℕ} (hlen : msg.length = 4 * (k + 1)) :
    wordsToBytes (wordAt 4 msg 0 :: (List.range k).map fun ix => wordAt 4 msg (1 + ix)) = msg := by
  have hwords : loadWords 4 msg (k + 1) =
      wordAt 4 msg 0 :: (List.range k).map fun ix => wordAt 4 msg (1 + ix) := by
    unfold loadWords
    rw [List.range_succ_eq_map, List.map_cons, List.map_map]
    refine congrArg _ (List.map_congr_left fun ix _ => ?_)
    rw [Function.comp_apply, Nat.add_comm]
  rw [← hwords]
  exact flatMap_storeLE_loadWords hlen

/-- The client manager reads only the message, splits it into its code and exactly the words that
follow, and rejects it if it does not consist of whole words. -/
structure ParsedByClient (msg : List Byte) : Prop where
  safe : (clientParse msg).All (RequestAccess.Safe msg.length)
  split : ∀ k, msg.length = 4 * (k + 1) → ∃ code words, words.length = k ∧
    wordsToBytes (code.code :: words) = msg ∧ (clientParse msg).value = requestOf code words
  rejects : (∀ k, msg.length ≠ 4 * (k + 1)) → ∀ answer s, s.mTpxManager.mIsConnected = true →
    s.mClientManager.mCommandSocket.isOpen = true →
    s.mClientManager.mCommandSocket.replyOwed = true →
    ∃ s', PythonConnectionManager.handleCommand msg answer s = .ok s' ∧
      s'.mClientManager.mCommandSocket = s.mClientManager.mCommandSocket.send
        (wordsToBytes [ServerCommand.INVALID_COMMAND_DATA.code])

/-- A secondary thread reads only the message, and splits it likewise. -/
structure ParsedBySecondary (msg : List Byte) : Prop where
  safe : (secondaryParse msg).All (RequestAccess.Safe msg.length)
  split : ∀ k, msg.length = 4 * (k + 1) → ∃ code words, words.length = k ∧
    wordsToBytes (code.code :: words) = msg ∧ (secondaryParse msg).value = some (code, words)

/-- The words behind the code are all found below 4 GiB. -/
theorem requestData_eq {k : ℕ} (hlen : msg.length = 4 * (k + 1)) (hlt : msg.length < 2 ^ 32) :
    requestData msg = (List.range k).map fun ix => wordAt 4 msg (1 + ix) := by
  unfold requestData
  rw [Nat.mod_eq_of_lt hlt, hlen, Nat.mul_div_cancel_left _ (by decide), Nat.add_sub_cancel]

/-- From 4 GiB on words are missing. -/
theorem length_requestData_ne {k : ℕ} (hlen : msg.length = 4 * (k + 1))
    (hle : 2 ^ 32 ≤ msg.length) : (requestData msg).length ≠ k := by
  rw [requestData, List.length_map, List.length_range]
  omega

theorem requestOf_none {code : ServerCommand} (h : COMMAND_MAP.lookup code = none)
    (words words' : DataVec) : requestOf code words = requestOf code words' := by
  unfold requestOf
  rw [h]

theorem requestOf_ne_noMemory (code : ServerCommand) (words : DataVec) :
    requestOf code words ≠ .noMemory := by
  unfold requestOf
  split
  · exact nofun
  · exact nofun

/-- The handler of a request gets its words. -/
theorem words_of_requestOf {code code' : ServerCommand} {words words' : DataVec}
    (hmapped : COMMAND_MAP.lookup code ≠ none) (h : requestOf code words = requestOf code' words') :
    words = words' := by
  obtain ⟨handler, hhandler⟩ := Option.ne_none_iff_exists'.mp hmapped
  unfold requestOf at h
  rw [hhandler] at h
  dsimp only at h
  split at h
  · injection h
  · cases h

/-- All words are found if the size fits 32 bits, and none are looked for if there is no handler. -/
theorem value_clientParse_words {k : ℕ} (hk : msg.length = 4 * (k + 1))
    (hfits : msg.length < 2 ^ 32 ∨ COMMAND_MAP.lookup (requestCode msg) = none) :
    (clientParse msg).value =
      requestOf (requestCode msg) ((List.range k).map fun ix => wordAt 4 msg (1 + ix)) := by
  have hmemory : ¬ (msg.length % 2 ^ 32 = 0 ∧
      (COMMAND_MAP.lookup (requestCode msg)).isSome = true) := by
    rintro ⟨hzero, hsome⟩
    rcases hfits with hlt | hnone
    · omega
    · rw [hnone] at hsome
      cases hsome
  rw [value_clientParse, if_neg (by omega), if_neg hmemory]
  rcases hfits with hlt | hnone
  · rw [requestData_eq hk hlt]
  · exact requestOf_none hnone _ _

/-- Messages that are not made of whole words are answered. -/
theorem handleCommand_rejects (hlen : 4 ≤ msg.length) (halign : msg.length % 4 ≠ 0)
    (answer : List Byte) {s : CommsThread} (hconn : s.mTpxManager.mIsConnected = true)
    (hopen : s.mClientManager.mCommandSocket.isOpen = true)
    (howed : s.mClientManager.mCommandSocket.replyOwed = true) :
    ∃ s', PythonConnectionManager.handleCommand msg answer s = .ok s' ∧
      s'.mClientManager.mCommandSocket = s.mClientManager.mCommandSocket.send
        (wordsToBytes [ServerCommand.INVALID_COMMAND_DATA.code]) := by
  rw [handleCommand_eq_parse hconn, if_pos (all_clientParse.mpr hlen), value_clientParse,
    if_pos halign]
  exact ⟨_, sendError_eq hopen howed _, rfl⟩

theorem length_eq_words (hlen : 4 ≤ msg.length) (halign : msg.length % 4 = 0) :
    msg.length = 4 * (msg.length / 4 - 1 + 1) := by omega

/-- The client manager goes wrong with less than four bytes, and with whole words of 4 GiB or more
if the code has a handler. -/
theorem parsedByClient_iff : ParsedByClient msg ↔ 4 ≤ msg.length ∧ (msg.length % 4 = 0 →
    msg.length < 2 ^ 32 ∨ COMMAND_MAP.lookup (requestCode msg) = none) := by
  constructor
  · intro h
    have hlen := all_clientParse.mp h.safe
    refine ⟨hlen, fun halign => ?_⟩
    by_contra hnot
    obtain ⟨hle, hmapped⟩ := not_or.mp hnot
    have hk := length_eq_words hlen halign
    obtain ⟨code, words, hwords, -, hvalue⟩ := h.split _ hk
    rw [value_clientParse, if_neg (not_not.mpr halign)] at hvalue
    split_ifs at hvalue with hzero
    · exact requestOf_ne_noMemory code words hvalue.symm
    · rw [← words_of_requestOf hmapped hvalue] at hwords
      exact length_requestData_ne hk (not_lt.mp hle) hwords
  · rintro ⟨hlen, hfits⟩
    refine ⟨all_clientParse.mpr hlen, fun k hk => ?_, fun hodd answer s hconn hopen howed => ?_⟩
    · exact ⟨requestCode msg, (List.range k).map fun ix => wordAt 4 msg (1 + ix), by simp,
        wordsToBytes_words hk, value_clientParse_words hk (hfits (by omega))⟩
    · have halign : msg.length % 4 ≠ 0 := fun h => hodd _ (length_eq_words hlen h)
      exact handleCommand_rejects hlen halign answer hconn hopen howed

/-- A secondary thread goes wrong with less than four bytes, and with whole words of 4 GiB or
more. -/
theorem parsedBySecondary_iff : ParsedBySecondary msg ↔
    4 ≤ msg.length ∧ (msg.length % 4 = 0 → msg.length < 2 ^ 32) := by
  constructor
  · intro h
    have hlen := (all_secondaryParse.mp h.safe).1
    refine ⟨hlen, fun halign => ?_⟩
    by_contra hle
    have hk := length_eq_words hlen halign
    obtain ⟨code, words, hwords, -, hvalue⟩ := h.split _ hk
    rw [value_secondaryParse h.safe, if_neg (not_not.mpr halign)] at hvalue
    injection hvalue with hpair
    obtain ⟨-, rfl⟩ := Prod.mk.inj hpair
    exact length_requestData_ne hk (not_lt.mp hle) hwords
  · rintro ⟨hlen, hlt⟩
    have hsafe := all_secondaryParse.mpr ⟨hlen, fun halign => by have := hlt halign; omega⟩
    refine ⟨hsafe, fun k hk => ?_⟩
    have hdata : commandData (msg.length % 2 ^ 32) msg = _ := requestData_eq hk (hlt (by omega))
    refine ⟨firstWord msg, _, by simp, wordsToBytes_words hk, ?_⟩
    rw [value_secondaryParse hsafe, if_neg (by omega), hdata]

/-- **Request parsing.** The two functions do what their recorded parsers find, as long as all
accesses are safe. For every message, both parsers stay inside it, find the code and all words, and
messages of another length are rejected, exactly if the message has four bytes or more and, if it
consists of whole words, less than 4 GiB. -/
theorem requests_parsed_iff (msg : List Byte) :
    (∀ answer s, s.mTpxManager.mIsConnected = true →
      PythonConnectionManager.handleCommand msg answer s =
        if (clientParse msg).All (RequestAccess.Safe msg.length) then
          (clientParse msg).value.run msg answer s
        else .undefined) ∧
    (∀ (μ : Type) (handleCommand : ServerCommand → DataVec → SecondaryThread μ → ThreadResult μ)
      (t : SecondaryThread μ), Idle t → pollCommands handleCommand (some msg) t =
        if (secondaryParse msg).All (RequestAccess.Safe msg.length) then
          handOn handleCommand { t with mCommandSocket := t.mCommandSocket.recv msg }
            (secondaryParse msg).value
        else .undefined) ∧
    (ParsedByClient msg ∧ ParsedBySecondary msg ↔
      4 ≤ msg.length ∧ (msg.length % 4 = 0 → msg.length < 2 ^ 32)) := by
  refine ⟨fun answer s hconn => handleCommand_eq_parse hconn,
    fun μ handleCommand t ht => pollCommands_eq_parse ht handleCommand, ?_⟩
  rw [parsedByClient_iff, parsedBySecondary_iff]
  constructor
  · rintro ⟨-, hparsed⟩
    exact hparsed
  · rintro ⟨hlen, hlt⟩
    exact ⟨⟨hlen, fun halign => Or.inl (hlt halign)⟩, hlen, hlt⟩

/-- `FLUSH_CLUSTERS` with two words. -/
theorem requests_parsed_iff_words :
    ParsedByClient [0x5B, 2, 0, 0, 1, 0, 0, 0, 2, 0, 0, 0] ∧
      ParsedBySecondary [0x5B, 2, 0, 0, 1, 0, 0, 0, 2, 0, 0, 0] :=
  (requests_parsed_iff [0x5B, 2, 0, 0, 1, 0, 0, 0, 2, 0, 0, 0]).2.2.mpr
    ⟨by decide, fun _ => by decide⟩

/-- The code of an empty message is read past its end. -/
theorem empty_message_unsafe : ¬ (ParsedByClient [] ∧ ParsedBySecondary []) := by
  rintro ⟨hclient, -⟩
  exact absurd (all_clientParse.mp hclient.safe) (by decide)

end Messages

end TpxServer.Comms
