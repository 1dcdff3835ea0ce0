import TpxServer.Comms.Secondary

/-!
# The replies of the secondary threads

The main thread waits for the reply to a request that it forwards. Every handler replies once, also
if it cannot use the payload, but for that of `SET_CLUSTER_PARAMETERS`: it reads three words whether
they are there or not. The length of a request is taken modulo 2^32 by `pollCommands`, so that the
handlers see less than the payload of a request of 4 GiB or more.
-/

namespace TpxServer.Comms

open SecondaryThread

/-! ## What a reply should be -/

/-- The first word of a message: the code of a request, or the status in a reply. -/
def firstWord (msg : List Byte) : ServerCommand := ⟨wordAt 4 msg 0⟩

/-- The commands that set the path of a file. -/
def FILE_COMMANDS : List ServerCommand := [.SET_RAW_TPX3_PATH, .SET_CLUSTER_PATH]

/-- The commands without payload. -/
def BARE_COMMANDS : List ServerCommand :=
  [.GET_RAW_DATA_SERVER_PATH, .RESET_TOA_ROLLOVER_COUNTER, .GET_CLUSTER_SERVER_PATH,
    .FLUSH_CLUSTERS, .GET_HISTOGRAM_SERVER_PATH]

/-- The numbers of payload words that a command can be executed with. -/
def UsableSize (code : ServerCommand) (size : ℕ) : Prop :=
  if code ∈ BARE_COMMANDS then size = 0
  else if code = .SET_HISTOGRAM_OUTPUT_PERIOD then size = 1
  else if code = .SET_CLUSTER_PARAMETERS then 3 ≤ size
  else True

/-- A file is opened, if there is a path to open. Apart from ZeroMQ nothing else can fail. -/
def Succeeds (env : Surroundings) (code : ServerCommand) (data : DataVec) : Prop :=
  code ∈ FILE_COMMANDS →
    (pathString (pathOf data)).isEmpty = true ∨ env.opens (pathString (pathOf data)) = true

/-- The first word of a reply is the code on success, and tells the error otherwise. -/
structure GoodReply (env : Surroundings) (code : ServerCommand) (size : ℕ) (data : DataVec)
    (reply : List Byte) : Prop where
  word : 4 ≤ reply.length
  unusable : ¬ UsableSize code size → firstWord reply = .INVALID_COMMAND_DATA
  success : UsableSize code size → Succeeds env code data → firstWord reply = code
  failure : UsableSize code size → ¬ Succeeds env code data →
    firstWord reply ∈ ServerCommand.ERROR_CODES

/-- A thread at its command socket. -/
structure Idle {μ : Type*} (t : SecondaryThread μ) : Prop where
  isOpen : t.mCommandSocket.isOpen = true
  idle : t.mCommandSocket.replyOwed = false

/-- The ZeroMQ calls of the handlers succeed. -/
structure ZmqSucceeds (env : Surroundings) : Prop where
  create : env.createError = none
  subscribe : env.subscribeError = none
  connect : env.connectError = none

/-- The poll receives the request and sends one reply, a good one for the payload. -/
def RepliedOnce {μ : Type*}
    (handleCommand : Surroundings → ServerCommand → DataVec → SecondaryThread μ → ThreadResult μ)
    (env : Surroundings) (msg : List Byte) (t : SecondaryThread μ) : Prop :=
  ∃ t' reply, pollCommands (handleCommand env) (some msg) t = .ok t' ∧
    t'.mCommandSocket = (t.mCommandSocket.recv msg).send reply ∧
    GoodReply env (firstWord msg) (msg.length / 4 - 1)
      (commandData (msg.length % 2 ^ 32) msg) reply

/-- The number of payload words that `pollCommands` finds. -/
def foundSize (msg : List Byte) : ℕ := msg.length % 2 ^ 32 / 4 - 1

/-- The 32-bit length is not zero and does not make a payload usable or unusable, and three words
are found for `SET_CLUSTER_PARAMETERS`. -/
structure Manageable (msg : List Byte) : Prop where
  nonzero : msg.length % 2 ^ 32 ≠ 0
  size : UsableSize (firstWord msg) (foundSize msg) ↔
    UsableSize (firstWord msg) (msg.length / 4 - 1)
  parameters : firstWord msg = .SET_CLUSTER_PARAMETERS → 3 ≤ foundSize msg

/-- For requests below 4 GiB only `SET_CLUSTER_PARAMETERS` can go wrong. -/
theorem manageable_iff_of_lt {msg : List Byte} (hlen : 4 ≤ msg.length)
    (hlt : msg.length < 2 ^ 32) :
    Manageable msg ↔
      (firstWord msg = .SET_CLUSTER_PARAMETERS → 3 ≤ msg.length / 4 - 1) := by
  have hmod : msg.length % 2 ^ 32 = msg.length := Nat.mod_eq_of_lt hlt
  have hfound : foundSize msg = msg.length / 4 - 1 := by
    unfold foundSize
    rw [hmod]
  constructor
  · intro h hcode
    rw [← hfound]
    exact h.parameters hcode
  · intro h
    refine ⟨by omega, ?_, ?_⟩
    · rw [hfound]
    · rw [hfound]
      exact h

/-- Only with the commands that set a path can anything fail, and they take every payload. -/
theorem succeeds_or_usable (env : Surroundings) (code : ServerCommand) (data : DataVec) :
    Succeeds env code data ∨ ∀ size, UsableSize code size := by
  by_cases hfile : code ∈ FILE_COMMANDS
  · right
    simp only [FILE_COMMANDS, List.mem_cons, List.not_mem_nil, or_false] at hfile
    rcases hfile with rfl | rfl
    · exact fun _ => trivial
    · exact fun _ => trivial
  · exact Or.inl fun hmem => absurd hmem hfile

section GoodReply

variable {env : Surroundings} {code : ServerCommand} {k n : ℕ} {data : DataVec} {reply : List Byte}
  (hcode : code ≠ .INVALID_COMMAND_DATA)
include hcode

/-- A reply cannot be good both for a usable and for an unusable payload. -/
theorem usable_of_goodReply (hk : GoodReply env code k data reply)
    (hn : GoodReply env code n data reply) (husable : UsableSize code k) : UsableSize code n := by
  by_contra hunusable
  rcases succeeds_or_usable env code data with hsucceeds | hall
  · exact hcode ((hk.success husable hsucceeds).symm.trans (hn.unusable hunusable))
  · exact hunusable (hall n)

theorem goodReply_iff (hk : GoodReply env code k data reply) :
    GoodReply env code n data reply ↔ (UsableSize code k ↔ UsableSize code n) := by
  constructor
  · intro hn
    exact ⟨usable_of_goodReply hcode hk hn, usable_of_goodReply hcode hn hk⟩
  · intro hiff
    exact ⟨hk.word, fun h => hk.unusable (mt hiff.mp h), fun h => hk.success (hiff.mpr h),
      fun h => hk.failure (hiff.mpr h)⟩

end GoodReply

/-! ## Sending -/

/-- What was sent last can be told from the socket. -/
theorem RepSocket.send_injective {socket : RepSocket} {msg msg' : List Byte}
    (h : socket.send msg = socket.send msg') : msg = msg' :=
  List.singleton_injective (List.append_cancel_left (congrArg RepSocket.sent h))

/-- The call sends a single message, which begins with the word. -/
def RepliesWith {μ : Type*} (t : SecondaryThread μ) (code : ServerCommand) (o : ThreadResult μ) :
    Prop :=
  ∃ t' reply, o = .ok t' ∧ t'.mCommandSocket = t.mCommandSocket.send reply ∧
    4 ≤ reply.length ∧ firstWord reply = code

/-- The call sends a good reply. -/
def RepliesWell {μ : Type*} (env : Surroundings) (code : ServerCommand) (data : DataVec)
    (t : SecondaryThread μ) (o : ThreadResult μ) : Prop :=
  ∃ t' reply, o = .ok t' ∧ t'.mCommandSocket = t.mCommandSocket.send reply ∧
    GoodReply env code data.length data reply

section Sending

variable {μ : Type*} {t : SecondaryThread μ}

theorem sendResponse_eq (hopen : t.mCommandSocket.isOpen = true)
    (howed : t.mCommandSocket.replyOwed = true) (data : DataVec) :
    sendResponse data t = .ok { t with
      mCommandSocket := t.mCommandSocket.send (wordsToBytes (t.mLastCommand.code :: data)) } := by
  unfold sendResponse send RepSocket.sendError
  simp [hopen, howed]

theorem replies_sendResponse (hopen : t.mCommandSocket.isOpen = true)
    (howed : t.mCommandSocket.replyOwed = true) (data : DataVec) :
    RepliesWith t t.mLastCommand (sendResponse data t) := by
  refine ⟨_, _, sendResponse_eq hopen howed data, rfl, ?_, ?_⟩
  · rw [length_wordsToBytes, List.length_cons]
    omega
  · show (⟨wordAt 4 (wordsToBytes (t.mLastCommand.code :: data)) 0⟩ : ServerCommand) = _
    have hword := wordAt_stores (n := 4) (t.mLastCommand.code :: data) [] List.getElem?_cons_zero
    rw [List.append_nil] at hword
    unfold wordsToBytes
    rw [hword]

theorem replies_sendError (hopen : t.mCommandSocket.isOpen = true)
    (howed : t.mCommandSocket.replyOwed = true) (errcode : ServerCommand) :
    RepliesWith t errcode (sendError errcode t) :=
  replies_sendResponse (t := { t with mLastCommand := errcode }) hopen howed []

variable {env : Surroundings} {code : ServerCommand} {data : DataVec} {o : ThreadResult μ}

/-- A payload that cannot be used. -/
theorem handled_invalid (h : RepliesWith t .INVALID_COMMAND_DATA o)
    (husable : ¬ UsableSize code data.length) : RepliesWell env code data t o := by
  obtain ⟨t', reply, ho, hsocket, hlen, hword⟩ := h
  exact ⟨t', reply, ho, hsocket, hlen, fun _ => hword, fun h => absurd h husable,
    fun h => absurd h husable⟩

theorem handled_success (h : RepliesWith t code o) (husable : UsableSize code data.length)
    (hsucceeds : Succeeds env code data) : RepliesWell env code data t o := by
  obtain ⟨t', reply, ho, hsocket, hlen, hword⟩ := h
  exact ⟨t', reply, ho, hsocket, hlen, fun h => absurd husable h, fun _ _ => hword,
    fun _ h => absurd hsucceeds h⟩

theorem handled_failure {errcode : ServerCommand} (h : RepliesWith t errcode o)
    (herror : errcode ∈ ServerCommand.ERROR_CODES) (husable : UsableSize code data.length)
    (hfails : ¬ Succeeds env code data) : RepliesWell env code data t o := by
  obtain ⟨t', reply, ho, hsocket, hlen, rfl⟩ := h
  exact ⟨t', reply, ho, hsocket, hlen, fun h => absurd husable h, fun _ h => absurd h hfails,
    fun _ _ => herror⟩

end Sending

/-! ## The handlers -/

section Handlers

variable {μ : Type*} {t : SecondaryThread μ} {env : Surroundings} {data : DataVec}

/-- A request that is being handled. -/
structure Handling (t : SecondaryThread μ) (code : ServerCommand) : Prop where
  isOpen : t.mCommandSocket.isOpen = true
  owed : t.mCommandSocket.replyOwed = true
  last : t.mLastCommand = code

variable {code : ServerCommand}

theorem Handling.withManager (h : Handling t code) (m : μ) :
    Handling { t with manager := m } code := ⟨h.isOpen, h.owed, h.last⟩

theorem Handling.sendResponse_eq (h : Handling t code) (data : DataVec) :
    sendResponse data t = .ok { t with
      mCommandSocket := t.mCommandSocket.send (wordsToBytes (code.code :: data)) } := by
  rw [Comms.sendResponse_eq h.isOpen h.owed, h.last]

theorem Handling.replies (h : Handling t code) (reply : DataVec) :
    RepliesWith t code (sendResponse reply t) := by
  have := replies_sendResponse h.isOpen h.owed reply
  rwa [h.last] at this

theorem Handling.error (h : Handling t code) (errcode : ServerCommand) :
    RepliesWith t errcode (sendError errcode t) :=
  replies_sendError h.isOpen h.owed errcode

theorem handled_sendServerPath (h : Handling t code) (hbare : code ∈ BARE_COMMANDS)
    (hfile : code ∉ FILE_COMMANDS) : RepliesWell env code data t (sendServerPath env data t) := by
  have husable : UsableSize code data.length ↔ data.length = 0 := by
    unfold UsableSize
    rw [if_pos hbare]
  unfold sendServerPath
  split_ifs with hlen
  · exact handled_invalid (h.error _) (mt husable.mp hlen)
  · exact handled_success (h.replies _) (husable.mpr (not_not.mp hlen))
      fun hmem => absurd hmem hfile

theorem handled_callManager (h : Handling t code) (hbare : code ∈ BARE_COMMANDS)
    (hfile : code ∉ FILE_COMMANDS) (f : μ → μ) (reply : DataVec) :
    RepliesWell env code data t (callManager f reply data t) := by
  have husable : UsableSize code data.length ↔ data.length = 0 := by
    unfold UsableSize
    rw [if_pos hbare]
  unfold callManager
  split_ifs with hlen
  · exact handled_invalid (h.error _) (mt husable.mp hlen)
  · exact handled_success ((h.withManager _).replies reply) (husable.mpr (not_not.mp hlen))
      fun hmem => absurd hmem hfile

/-- `setSaveFile` of a manager tells whether the file was opened. -/
theorem handled_setFilePath (h : Handling t code) (hfile : code ∈ FILE_COMMANDS)
    (husable : UsableSize code data.length) {setSaveFile : μ → String → Bool → μ × Bool}
    (hsave : ∀ m path opened, (setSaveFile m path opened).2 = (path.isEmpty || opened))
    (output : String) :
    RepliesWell env code data t (setFilePath setSaveFile output env data t) := by
  unfold setFilePath
  dsimp only
  have h' : ∀ (m : μ) signals, Handling { t with manager := m, signals := signals } code :=
    fun m signals => ⟨h.isOpen, h.owed, h.last⟩
  rw [hsave]
  split_ifs with hopened
  · refine handled_success ((h' _ _).replies data) husable fun _ => ?_
    rwa [Bool.or_eq_true] at hopened
  · refine handled_failure ((h' _ _).error .CANT_OPEN_FILE) (by decide) husable fun hsucceeds => ?_
    have := hsucceeds hfile
    rw [← Bool.or_eq_true] at this
    exact hopened this

theorem handled_setInputServer {t : SecondaryThread (Subscriber μ)} (h : Handling t code)
    (hfile : code ∉ FILE_COMMANDS) (husable : UsableSize code data.length)
    (hzmq : ZmqSucceeds env) (connected unable failed : String) :
    RepliesWell env code data t (setInputServer connected unable failed env data t) := by
  obtain ⟨t', haddr, h', hsocket⟩ : ∃ t',
      setInputAddress connected unable env (pathString (pathOf data)) t = .ok t' ∧
      Handling t' code ∧ t'.mCommandSocket = t.mCommandSocket := by
    unfold setInputAddress
    rw [hzmq.create, hzmq.subscribe, hzmq.connect]
    split_ifs
    · exact ⟨_, rfl, ⟨h.isOpen, h.owed, h.last⟩, rfl⟩
    · exact ⟨_, rfl, ⟨h.isOpen, h.owed, h.last⟩, rfl⟩
  have hsucceeds : Succeeds env code data := fun hmem => absurd hmem hfile
  obtain ⟨t'', reply, hsend, hsocket'', hreply⟩ :=
    handled_success (h'.replies data) husable hsucceeds
  unfold setInputServer
  dsimp only
  rw [haddr, Outcome.ok_andThen, hsend, Outcome.ok_catching]
  exact ⟨t'', reply, rfl, hsocket ▸ hsocket'', hreply⟩

end Handlers

/-! ## The three threads -/

/-- Every command of the thread is handled well, but for `SET_CLUSTER_PARAMETERS` with less than
three words. -/
structure Handles {μ : Type*} (codes : List ServerCommand)
    (handleCommand : Surroundings → ServerCommand → DataVec → SecondaryThread μ → ThreadResult μ) :
    Prop where
  handled : ∀ {env code data t}, ZmqSucceeds env → code ∈ codes → Handling t code →
    (code = .SET_CLUSTER_PARAMETERS → 3 ≤ data.length) →
    RepliesWell env code data t (handleCommand env code data t)
  unusable : .SET_CLUSTER_PARAMETERS ∈ codes → ∀ {env data t}, data.length < 3 →
    handleCommand env .SET_CLUSTER_PARAMETERS data t = .undefined

theorem handles_udp : Handles UDP_THREAD_FORWARD_COMMANDS UdpThread.handleCommand where
  handled := by
    intro env code data t hzmq hcode h _
    simp only [UDP_THREAD_FORWARD_COMMANDS, List.mem_cons, List.not_mem_nil, or_false] at hcode
    rcases hcode with rfl | rfl | rfl
    · refine handled_setFilePath h (by decide) trivial (fun m path opened => ?_) _
      unfold Udp.UdpConnectionManager.setSaveFile
      cases path.isEmpty <;> cases opened <;> rfl
    · exact handled_sendServerPath h (by decide) (by decide)
    · show RepliesWell env _ data t (UdpThread.resetToaRolloverCounter data t)
      exact handled_callManager h (by decide) (by decide) _ _
  unusable := fun hmem => absurd hmem (by decide)

theorem handles_cluster :
    Handles CLUSTER_THREAD_FORWARD_COMMANDS ClusterThread.handleCommand where
  handled := by
    intro env code data t hzmq hcode h hsize
    simp only [CLUSTER_THREAD_FORWARD_COMMANDS, List.mem_cons, List.not_mem_nil, or_false] at hcode
    rcases hcode with rfl | rfl | rfl | rfl | rfl
    · exact handled_sendServerPath h (by decide) (by decide)
    · exact handled_setInputServer h (by decide) trivial hzmq _ _ _
    · have hlen : 3 ≤ data.length := hsize rfl
      match data, hlen with
      | max_sep_xy :: max_sep_t :: max_t_sep :: data, hlen =>
        exact handled_success ((h.withManager _).replies _) hlen fun hmem => absurd hmem (by decide)
    · show RepliesWell env _ data t (ClusterThread.flushClusters data t)
      exact handled_callManager h (by decide) (by decide) _ _
    · show RepliesWell env _ data t (ClusterThread.setClusterPath env data t)
      refine handled_setFilePath h (by decide) trivial (fun m path opened => ?_) _
      unfold Clustering.ClusteringManager.setSaveFile
      cases path.isEmpty <;> cases opened <;> rfl
  unusable := by
    intro _ env data t hlen
    match data, hlen with
    | [], _ => rfl
    | [_], _ => rfl
    | [_, _], _ => rfl

theorem handles_histogram :
    Handles HISTOGRAM_THREAD_FORWARD_COMMANDS HistogramThread.handleCommand where
  handled := by
    intro env code data t hzmq hcode h _
    simp only [HISTOGRAM_THREAD_FORWARD_COMMANDS, List.mem_cons, List.not_mem_nil, or_false]
      at hcode
    rcases hcode with rfl | rfl | rfl
    · exact handled_sendServerPath h (by decide) (by decide)
    · exact handled_setInputServer h (by decide) trivial hzmq _ _ _
    · show RepliesWell env _ data t (HistogramThread.setHistogramOutputPeriod data t)
      have husable : UsableSize .SET_HISTOGRAM_OUTPUT_PERIOD data.length ↔ data.length = 1 :=
        Iff.rfl
      unfold HistogramThread.setHistogramOutputPeriod
      split
      · exact handled_success ((h.withManager _).replies _) rfl fun hmem => absurd hmem (by decide)
      · rename_i hdata
        refine handled_invalid (h.error _) fun hlen => ?_
        obtain ⟨period, rfl⟩ := List.length_eq_one_iff.mp (husable.mp hlen)
        exact hdata period rfl
  unusable := fun hmem => absurd hmem (by decide)

/-! ## Polling -/

section Polling

variable {μ : Type*} {codes : List ServerCommand}
  {handleCommand : Surroundings → ServerCommand → DataVec → SecondaryThread μ → ThreadResult μ}
  {env : Surroundings} {msg : List Byte} {t : SecondaryThread μ}

/-- A request of whole words is handed to the handler with what is found in it, unless the 32-bit
length is zero. -/
theorem pollCommands_some (ht : Idle t)
    (handleCommand : ServerCommand → DataVec → SecondaryThread μ → ThreadResult μ) :
    pollCommands handleCommand (some msg) t =
      if msg.length < 4 then .undefined
      else if msg.length % 4 ≠ 0 then .ok { t with mCommandSocket := t.mCommandSocket.recv msg }
      else if msg.length % 2 ^ 32 = 0 then .undefined
      else (handleCommand (firstWord msg) (commandData (msg.length % 2 ^ 32) msg)
        { t with
          mCommandSocket := t.mCommandSocket.recv msg
          mLastCommand := firstWord msg }).catching pollError := by
  have hrecv : t.mCommandSocket.recvError = none := by
    unfold RepSocket.recvError
    simp [ht.isOpen, ht.idle]
  have halign : msg.length % 2 ^ 32 % 4 = msg.length % 4 := by omega
  unfold pollCommands
  rw [hrecv, ← halign]
  dsimp only
  split_ifs with hshort hodd hzero
  · rfl
  · rfl
  · rfl
  · rfl

theorem pollCommands_eq (ht : Idle t) (hlen : 4 ≤ msg.length) (haligned : msg.length % 4 = 0) :
    pollCommands (handleCommand env) (some msg) t =
      if msg.length % 2 ^ 32 = 0 then .undefined
      else (handleCommand env (firstWord msg) (commandData (msg.length % 2 ^ 32) msg)
        { t with
          mCommandSocket := t.mCommandSocket.recv msg
          mLastCommand := firstWord msg }).catching pollError := by
  rw [pollCommands_some ht, if_neg (not_lt.mpr hlen), if_neg (not_not.mpr haligned)]

theorem length_commandData (msg : List Byte) :
    (commandData (msg.length % 2 ^ 32) msg).length = foundSize msg := by
  simp [commandData, foundSize]

/-- A request is answered once exactly if it is manageable. -/
theorem repliedOnce_iff (hhandles : Handles codes handleCommand) (hzmq : ZmqSucceeds env)
    (ht : Idle t) (hlen : 4 ≤ msg.length) (haligned : msg.length % 4 = 0)
    (hcode : firstWord msg ∈ codes) (hnot : firstWord msg ≠ .INVALID_COMMAND_DATA) :
    RepliedOnce handleCommand env msg t ↔ Manageable msg := by
  unfold RepliedOnce
  rw [pollCommands_eq ht hlen haligned]
  by_cases hzero : msg.length % 2 ^ 32 = 0
  · rw [if_pos hzero]
    exact iff_of_false nofun fun h => h.nonzero hzero
  rw [if_neg hzero]
  by_cases hparameters : firstWord msg = .SET_CLUSTER_PARAMETERS → 3 ≤ foundSize msg
  · -- the handler sends a reply that is good for what it finds
    have hhandling : Handling { t with
      mCommandSocket := t.mCommandSocket.recv msg
      mLastCommand := firstWord msg } (firstWord msg) := ⟨ht.isOpen, rfl, rfl⟩
    obtain ⟨t', reply, hok, hsocket, hgood⟩ := hhandles.handled hzmq hcode hhandling
      (by rwa [length_commandData])
    rw [length_commandData] at hgood
    rw [hok, Outcome.ok_catching]
    constructor
    · rintro ⟨t'', reply', ht'', hsocket', hgood'⟩
      cases ht''
      obtain rfl := RepSocket.send_injective (hsocket'.symm.trans hsocket)
      exact ⟨hzero, (goodReply_iff hnot hgood).mp hgood', hparameters⟩
    · intro h
      exact ⟨t', reply, rfl, hsocket, (goodReply_iff hnot hgood).mpr h.size⟩
  · obtain ⟨hset, hfound⟩ := Classical.not_imp.mp hparameters
    rw [hset] at hcode ⊢
    rw [hhandles.unusable hcode (by rw [length_commandData]; omega)]
    exact iff_of_false nofun fun h => hparameters h.parameters

end Polling

/-- **Replies.** A forwarded request is answered once by its thread, with a reply that is good for
its payload, exactly if it is manageable. -/
theorem forwarded_answered_iff (env : Surroundings) (hzmq : ZmqSucceeds env) (msg : List Byte)
    (hlen : 4 ≤ msg.length) (haligned : msg.length % 4 = 0) :
    (∀ t : UdpThread, Idle t → firstWord msg ∈ UDP_THREAD_FORWARD_COMMANDS →
      (RepliedOnce UdpThread.handleCommand env msg t ↔ Manageable msg)) ∧
    (∀ t : ClusterThread, Idle t → firstWord msg ∈ CLUSTER_THREAD_FORWARD_COMMANDS →
      (RepliedOnce ClusterThread.handleCommand env msg t ↔ Manageable msg)) ∧
    (∀ t : HistogramThread, Idle t → firstWord msg ∈ HISTOGRAM_THREAD_FORWARD_COMMANDS →
      (RepliedOnce HistogramThread.handleCommand env msg t ↔ Manageable msg)) := by
  have hnot : ∀ codes : List ServerCommand, .INVALID_COMMAND_DATA ∉ codes →
      firstWord msg ∈ codes → firstWord msg ≠ .INVALID_COMMAND_DATA :=
    fun codes hmem hcode heq => hmem (heq ▸ hcode)
  refine ⟨fun t ht hcode => ?_, fun t ht hcode => ?_, fun t ht hcode => ?_⟩
  · exact repliedOnce_iff handles_udp hzmq ht hlen haligned hcode (hnot _ (by decide) hcode)
  · exact repliedOnce_iff handles_cluster hzmq ht hlen haligned hcode (hnot _ (by decide) hcode)
  · exact repliedOnce_iff handles_histogram hzmq ht hlen haligned hcode (hnot _ (by decide) hcode)

/-- An endpoint at port 80, and no file can be opened. -/
def quietSurroundings : Surroundings where
  last_endpoint := textBytes "tcp://0.0.0.0:80"
  opens := fun _ => false

/-- `FLUSH_CLUSTERS` is answered. -/
theorem forwarded_answered_iff_flush :
    RepliedOnce ClusterThread.handleCommand quietSurroundings [0x5B, 2, 0, 0]
      { manager := { manager := {} } } := by
  refine ((forwarded_answered_iff quietSurroundings ⟨rfl, rfl, rfl⟩ [0x5B, 2, 0, 0] (by decide)
    (by decide)).2.1 { manager := { manager := {} } } ⟨rfl, rfl⟩ (by decide)).mpr ?_
  exact (manageable_iff_of_lt (by decide) (by decide)).mpr fun h => absurd h (by decide)

/-- `SET_CLUSTER_PARAMETERS` without payload is forwarded, and read past its end. -/
theorem parameters_unanswered :
    ¬ RepliedOnce ClusterThread.handleCommand quietSurroundings [0x5A, 2, 0, 0]
      { manager := { manager := {} } } := by
  rintro ⟨t', reply, hpoll, -⟩
  rw [pollCommands_eq ⟨rfl, rfl⟩ (by decide) (by decide), if_neg (by decide)] at hpoll
  cases hpoll

end TpxServer.Comms
