import TpxServer.Comms.Cancel
import TpxServer.Comms.Pipeline

/-!
# What the calls do

One lemma for each function of the managers, in the states in which the loop calls it: the
connection of the client is open, it waits for a reply, and the command in execution is its own.
-/

namespace TpxServer.Comms

open TimepixConnectionManager PythonConnectionManager

/-! ## The Timepix manager -/

section Functions

variable {s : CommsThread}

theorem send_eq (hopen : s.mClientManager.mCommandSocket.isOpen = true)
    (howed : s.mClientManager.mCommandSocket.replyOwed = true) (msg : List Byte) :
    PythonConnectionManager.send msg s = .ok (s.withClient { s.mClientManager with
      mCommandSocket := s.mClientManager.mCommandSocket.send msg }) := by
  have herr : s.mClientManager.mCommandSocket.sendError = none := by
    unfold RepSocket.sendError
    rw [if_neg (ne_false_of_eq_true hopen), if_neg (ne_false_of_eq_true howed)]
  unfold PythonConnectionManager.send
  rw [herr]

theorem sendError_eq (hopen : s.mClientManager.mCommandSocket.isOpen = true)
    (howed : s.mClientManager.mCommandSocket.replyOwed = true) (errcode : ServerCommand) :
    PythonConnectionManager.sendError errcode s = .ok (s.withClient { s.mClientManager with
      mLastCommand := errcode
      mCommandSocket := s.mClientManager.mCommandSocket.send (wordsToBytes [errcode.code]) }) := by
  unfold PythonConnectionManager.sendError sendResponse
  rw [send_eq]
  · rfl
  · exact hopen
  · exact howed

theorem onLastCommandSource_eq (hsource : s.mTpxManager.mLastCommandSource =
    some s.mClientManager.id) (f : CommsThread → Result) : onLastCommandSource f s = f s := by
  unfold onLastCommandSource
  rw [hsource]
  exact if_pos rfl

theorem genericHandler_eq
    (hsource : s.mTpxManager.mLastCommandSource = some s.mClientManager.id)
    (hopen : s.mClientManager.mCommandSocket.isOpen = true)
    (howed : s.mClientManager.mCommandSocket.replyOwed = true) (sz : ℕ) (data : DataVec) :
    genericHandler sz data s = .ok (s.withClient (s.mClientManager.answered sz data)) := by
  unfold genericHandler PythonConnectionManager.answered
  rw [onLastCommandSource_eq hsource, onLastCommandSource_eq hsource]
  by_cases hlen : data.length ≠ sz
  · rw [if_pos hlen, if_pos hlen, sendError_eq hopen howed]
  · rw [if_neg hlen, if_neg hlen]
    unfold sendResponse
    rw [send_eq hopen howed]

theorem processRecv_eq (halive : s.mTpxManager.mIsCancelled = false)
    (hsource : s.mTpxManager.mLastCommandSource = some s.mClientManager.id) (cmd : TpxCommand)
    (data : DataVec) :
    processRecv cmd data s =
      (match HANDLER_MAP.lookup cmd with
        | none => Outcome.ok (s.sendWarn ("Did not recognise response from Timepix: " ++
            toString cmd.code.toNat))
        | some sz => genericHandler sz data s).andThen finishCommand := by
  unfold processRecv
  refine (if_neg ?_).trans (if_neg ?_)
  · rw [halive]
    decide
  · rw [hsource]
    exact Option.some_ne_none _

theorem finishCommand_eq {info : TimepixCommandInfo} {queue : List TimepixCommandInfo}
    (hqueue : s.mTpxManager.mQueuedCommands = info :: queue) :
    finishCommand s = .ok (s.withTpx { s.mTpxManager with
      mQueuedCommands := queue
      mIsExecutingCommand := false
      mLastCommandSource := none }) := by
  unfold finishCommand
  rw [hqueue]

theorem sendCommand_eq (halive : s.mTpxManager.mIsCancelled = false) (cmd : TpxCommand)
    (data : DataVec) :
    sendCommand cmd data false s =
      if messageSize data * 4 > BUFFER_SIZE then .undefined
      else .ok (s.withTpx { s.mTpxManager with
        mCommandBuffer := fill s.mTpxManager.mCommandBuffer (wordsToBytes (message cmd data))
        mIsExecutingCommand := true
        pendingSend := some ((fill s.mTpxManager.mCommandBuffer
          (wordsToBytes (message cmd data))).take (messageSize data * 4)) }) := by
  unfold sendCommand
  rw [if_neg (ne_true_of_eq_false halive)]
  rfl

theorem initializeConnection_eq (halive : s.mTpxManager.mIsCancelled = false)
    (attempt : Attempt) :
    initializeConnection none attempt s =
      match attempt.readError with
      | some code => .throws (.system_error code) (s.withTpx { s.mTpxManager with
          mIsConnected := true
          mIsExecutingCommand := false
          mResponseBuffer := attempt.available.foldl fill s.mTpxManager.mResponseBuffer })
      | none => .ok ((s.withTpx { s.mTpxManager with
          mIsConnected := true
          mIsExecutingCommand := false
          mResponseBuffer := attempt.available.foldl fill s.mTpxManager.mResponseBuffer }).sendLog
            "Successfully connected.") := by
  unfold initializeConnection
  exact if_neg (ne_true_of_eq_false halive)

theorem initializeConnection_error (halive : s.mTpxManager.mIsCancelled = false)
    (code : ErrorCode) (attempt : Attempt) :
    initializeConnection (some code) attempt s = .throws (.system_error code) s := by
  unfold initializeConnection
  rw [if_neg (ne_true_of_eq_false halive)]

theorem commandSent_eq (halive : s.mTpxManager.mIsCancelled = false) (err : Option ErrorCode)
    (bytes_sent : ℕ) :
    commandSent err bytes_sent s = .ok (s.withTpx { s.mTpxManager with pendingRead := true }) := by
  unfold commandSent
  rw [if_neg (ne_true_of_eq_false halive)]

/-- An error of the read is thrown. -/
theorem commandRecv_error (halive : s.mTpxManager.mIsCancelled = false) (code : ErrorCode)
    (bytes_received : ℕ) :
    commandRecv (some code) bytes_received s = .throws (.system_error code) s := by
  unfold commandRecv
  rw [if_neg (ne_true_of_eq_false halive)]

/-- A network error cancels the thread; whoever waits for a response gets an error code. -/
theorem networkError_eq (hsource : s.mTpxManager.mLastCommandSource = some s.mClientManager.id)
    (hopen : s.mClientManager.mCommandSocket.isOpen = true)
    (howed : s.mClientManager.mCommandSocket.replyOwed = true) (code : ErrorCode) :
    ∃ t, Outcome.catching (.throws (.system_error code) s) networkError = .ok t ∧ Cancelled t ∧
      t.mTpxManager.mIsExecutingCommand = s.mTpxManager.mIsExecutingCommand ∧
      t.mClientManager = { s.mClientManager with
        mLastCommand := .ERROR_OCCURED
        mCommandSocket := s.mClientManager.mCommandSocket.send
          (wordsToBytes [ServerCommand.ERROR_OCCURED.code]) } := by
  rw [Outcome.throws_catching (h := _) rfl]
  unfold clearAnyClientRequest
  rw [if_neg, onLastCommandSource_eq, sendError_eq]
  · exact ⟨_, rfl, rfl, rfl, rfl⟩
  · exact hopen
  · exact howed
  · exact hsource
  · exact fun hnone => Option.some_ne_none _ (hsource.symm.trans hnone)

/-- A blocking connection attempt connects or cancels the thread. -/
theorem attemptConnection_wait (halive : s.mTpxManager.mIsCancelled = false) (attempt : Attempt)
    (phase : Phase) :
    ∃ t, attemptConnection true attempt s = .ok t ∧ (Cancelled t ∨
      t.view phase = { s.view phase with
        connected := true
        executing := false
        connecting := false
        sending := false
        reading := false }) := by
  unfold attemptConnection
  dsimp only
  cases attempt.openError with
  | some e => cases e <;> exact ⟨_, rfl, Or.inl rfl⟩
  | none =>
    dsimp only
    rw [if_pos rfl]
    cases attempt.connectError with
    | some code => exact ⟨_, rfl, Or.inl rfl⟩
    | none =>
      dsimp only
      rw [initializeConnection_eq]
      · cases attempt.readError with
        | some code => exact ⟨_, rfl, Or.inl rfl⟩
        | none => exact ⟨_, rfl, Or.inr rfl⟩
      · exact halive

/-- `poll` sends the queued command, unless it does not fit into the buffer. -/
theorem pollQueue_cases (halive : s.mTpxManager.mIsCancelled = false) (info : TimepixCommandInfo)
    (phase : Phase) :
    (messageSize info.data * 4 > BUFFER_SIZE ∧ pollQueue info s = .undefined) ∨
    ∃ t, messageSize info.data * 4 ≤ BUFFER_SIZE ∧ pollQueue info s = .ok t ∧
      t.view phase = { s.view phase with
        executing := true
        source := some info.sender
        sending := true } := by
  unfold pollQueue
  rw [sendCommand_eq halive]
  by_cases hfits : messageSize info.data * 4 > BUFFER_SIZE
  · rw [if_pos hfits]
    exact Or.inl ⟨hfits, rfl⟩
  · rw [if_neg hfits]
    exact Or.inr ⟨_, Nat.not_lt.mp hfits, rfl, rfl⟩

/-- The reset answers the request and removes it from the queue. -/
theorem resetModule_cases (halive : s.mTpxManager.mIsCancelled = false)
    (hsource : s.mTpxManager.mLastCommandSource = some s.mClientManager.id)
    (hopen : s.mClientManager.mCommandSocket.isOpen = true)
    (howed : s.mClientManager.mCommandSocket.replyOwed = true) (attempt : Attempt)
    (phase : Phase) :
    ∃ t, resetModule attempt s = .ok t ∧ (Cancelled t ∨
      t.view phase = { s.view phase with
        client := { s.mClientManager with
          mCommandSocket := s.mClientManager.mCommandSocket.send
            (wordsToBytes [s.mClientManager.mLastCommand.code]) }
        connected := true
        executing := false
        source := none
        queue := s.mTpxManager.mQueuedCommands.tail
        connecting := false
        sending := false
        reading := false }) := by
  have hsend := send_eq (s := terminateConnection s) hopen howed
    (wordsToBytes [s.mClientManager.mLastCommand.code])
  have hsource' := onLastCommandSource_eq (s := terminateConnection s) hsource (sendResponse [])
  unfold resetModule
  rw [hsource']
  unfold sendResponse
  rw [show (terminateConnection s).mClientManager = s.mClientManager from rfl, hsend,
    Outcome.ok_andThen]
  apply attemptConnection_wait
  exact halive

end Functions

/-! ## The Python manager -/

/-- The request was answered by a single message and nothing else has changed in the managers. -/
structure Replied (s s' : CommsThread) : Prop where
  client : ∃ last reply, s'.mClientManager = { s.mClientManager with
    mLastCommand := last
    mCommandSocket := s.mClientManager.mCommandSocket.send reply }
  tpx : s'.mTpxManager = s.mTpxManager
  renew : s'.mShouldResetClient = s.mShouldResetClient

/-- A request of code `code` was queued for the SPIDR. -/
structure Enqueued (code : ServerCommand) (handler : ClientHandler) (s s' : CommsThread) :
    Prop where
  client : s'.mClientManager = { s.mClientManager with mLastCommand := code }
  tpx : ∃ info, s'.mTpxManager = { s.mTpxManager with
      mQueuedCommands := s.mTpxManager.mQueuedCommands ++ [info] } ∧
    handlerCommand handler = some info.command ∧ info.sender = s.mClientManager.id
  renew : s'.mShouldResetClient = s.mShouldResetClient

section Requests

variable {s : CommsThread}

theorem replied_sendError (hopen : s.mClientManager.mCommandSocket.isOpen = true)
    (howed : s.mClientManager.mCommandSocket.replyOwed = true) (errcode : ServerCommand) :
    ∃ s', PythonConnectionManager.sendError errcode s = .ok s' ∧ Replied s s' :=
  ⟨_, sendError_eq hopen howed errcode, ⟨_, _, rfl⟩, rfl, rfl⟩

theorem replied_forward (hopen : s.mClientManager.mCommandSocket.isOpen = true)
    (howed : s.mClientManager.mCommandSocket.replyOwed = true) (socket : Option ReqSocket)
    (msg answer : List Byte) :
    ∃ s', forwardToSecondaryThread socket msg answer s = .ok s' ∧ Replied s s' := by
  unfold forwardToSecondaryThread
  cases socket with
  | none =>
    obtain ⟨s', hs', hreplied⟩ := replied_sendError hopen howed .THREAD_NOT_STARTED
    exact ⟨s', by dsimp only; rw [hs']; rfl, hreplied⟩
  | some socket =>
    dsimp only
    by_cases hclosed : socket.isOpen = false
    · obtain ⟨s', hs', hreplied⟩ := replied_sendError hopen howed .THREAD_NOT_CONNECTED
      exact ⟨s', by rw [if_pos hclosed, hs']; rfl, hreplied⟩
    · rw [if_neg hclosed, send_eq]
      · exact ⟨_, rfl, ⟨_, _, rfl⟩, rfl, rfl⟩
      · exact hopen
      · exact howed

/-- What the handlers do with a request: it is answered, queued, or the server is in trouble. -/
inductive Handled (code : ServerCommand) (handler : ClientHandler) (s : CommsThread) :
    Result → Prop where
  | replied (s' : CommsThread) (h : Replied s s') : Handled code handler s (.ok s')
  | enqueued (s' : CommsThread) (h : Enqueued code handler s s') : Handled code handler s (.ok s')
  | undefined : Handled code handler s .undefined

theorem handled_sendError (hopen : s.mClientManager.mCommandSocket.isOpen = true)
    (howed : s.mClientManager.mCommandSocket.replyOwed = true) (code : ServerCommand)
    (handler : ClientHandler) (errcode : ServerCommand) :
    Handled code handler s (PythonConnectionManager.sendError errcode s) := by
  obtain ⟨s', hs', hreplied⟩ := replied_sendError hopen howed errcode
  rw [hs']
  exact .replied s' hreplied

theorem handled_callHandler (hopen : s.mClientManager.mCommandSocket.isOpen = true)
    (howed : s.mClientManager.mCommandSocket.replyOwed = true)
    (handler : ClientHandler) (data : DataVec) :
    Handled s.mClientManager.mLastCommand handler s (callHandler handler data s) := by
  cases handler with
  | genericForward sz cmd =>
    show Handled _ _ s (genericForward sz cmd data s)
    unfold genericForward
    by_cases hlen : data.length ≠ sz
    · rw [if_pos hlen, sendError_eq]
      · exact .replied _ ⟨⟨_, _, rfl⟩, rfl, rfl⟩
      · exact hopen
      · exact howed
    · rw [if_neg hlen]
      exact .enqueued _ ⟨rfl, ⟨_, rfl, rfl, rfl⟩, rfl⟩
  | sendPixelConfigData =>
    show Handled _ _ s (sendPixelConfigData data s)
    unfold sendPixelConfigData
    by_cases hlen : (BitVec.ofNat 64 data.length - 1) % 48#64 ≠ 0
    · rw [if_pos hlen]
      exact handled_sendError hopen howed _ _ _
    · rw [if_neg hlen]
      exact .enqueued _ ⟨rfl, ⟨_, rfl, rfl, rfl⟩, rfl⟩
  | bindUdpPort =>
    show Handled _ _ s (bindUdpPort data s)
    unfold bindUdpPort
    by_cases hlen : data.length ≠ 1
    · rw [if_pos hlen]
      exact handled_sendError hopen howed _ _ _
    · rw [if_neg hlen]
      rcases CommsThread.bindUdpPort_cases (s := s) with hbind | hbind
      · rw [hbind]
        exact .undefined
      · rw [hbind, Outcome.ok_andThen]
        unfold sendResponse
        rw [send_eq]
        · exact .replied _ ⟨⟨_, _, rfl⟩, rfl, rfl⟩
        · exact hopen
        · exact howed

/-- **Requests.** A request is answered or queued, unless an exception is thrown or the behaviour is
undefined. -/
theorem handleCommand_cases (hopen : s.mClientManager.mCommandSocket.isOpen = true)
    (howed : s.mClientManager.mCommandSocket.replyOwed = true) (command answer : List Byte) :
    handleCommand command answer s = .undefined ∨
    (∃ what t, handleCommand command answer s = .throws (.std_exception what) t) ∨
    (∃ s', handleCommand command answer s = .ok s' ∧ Replied s s') ∨
    (∃ s' handler, handleCommand command answer s = .ok s' ∧
      s.mTpxManager.mIsConnected = true ∧
      COMMAND_MAP.lookup (requestCode command) = some handler ∧
      Enqueued (requestCode command) handler s s') := by
  rcases handleCommand_dispatch command answer s with
    ⟨handler, hmapped, heq⟩ | ⟨-, heq | heq | ⟨errcode, heq⟩ | ⟨socket, heq⟩⟩
  · rw [heq]
    have hhandled := handled_callHandler
      (s := s.withClient { s.mClientManager with mLastCommand := requestCode command }) hopen howed
      handler (requestData command)
    generalize callHandler handler _ _ = o at hhandled
    cases hhandled with
    | replied s' h =>
      obtain ⟨⟨last, reply, hclient⟩, htpx, hrenew⟩ := h
      exact Or.inr (Or.inr (Or.inl ⟨s', rfl, ⟨last, reply, hclient⟩, htpx, hrenew⟩))
    | enqueued s' h =>
      obtain ⟨hclient, htpx, hrenew⟩ := h
      exact Or.inr (Or.inr (Or.inr ⟨s', handler, rfl, hmapped.connected, hmapped.lookup,
        hclient, htpx, hrenew⟩))
    | undefined => exact Or.inl rfl
  · exact Or.inl heq
  · exact Or.inr (Or.inl ⟨_, _, heq⟩)
  · rw [heq]
    exact Or.inr (Or.inr (Or.inl (replied_sendError hopen howed _)))
  · rw [heq]
    exact Or.inr (Or.inr (Or.inl (replied_forward hopen howed _ _ _)))

/-- While a reply is owed, a poll of the client gives the connection up. -/
theorem poll_owed (howed : s.mClientManager.mCommandSocket.replyOwed = true)
    (request : Option (List Byte)) (answer : List Byte) :
    PythonConnectionManager.poll request answer s = .undefined ∨
      ∃ str threads, PythonConnectionManager.poll request answer s =
        .ok { close (s.sendErr str) with mShouldResetClient := true, threads := threads } := by
  obtain ⟨num, what, herr⟩ : ∃ num what, s.mClientManager.mCommandSocket.recvError =
      some (.error_t num what) := by
    unfold RepSocket.recvError
    rw [if_pos howed]
    split
    · exact ⟨_, _, rfl⟩
    · exact ⟨_, _, rfl⟩
  unfold PythonConnectionManager.poll
  rw [herr]
  dsimp only
  rw [Outcome.throws_catching (h := _) rfl]
  rcases CommsThread.resetClientConnection_cases (s := close (s.sendErr _)) with hreset | hreset
  · exact Or.inl hreset
  · exact Or.inr ⟨_, _, hreset⟩

end Requests

end TpxServer.Comms
