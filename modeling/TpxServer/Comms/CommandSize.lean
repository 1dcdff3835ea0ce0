import TpxServer.Comms.Steps

/-!
# The size of a command

The handlers of the client manager check the number of data words of a request, `sendCommand` copies
the message it builds from them into a buffer of `BUFFER_SIZE` bytes. Of the checks, only that of
`sendPixelConfigData` leaves the number open: it accepts every multiple of 48 and one more. So an
accepted command fits the buffer unless it configures more than 252 words of pixels
(`accepted_fits_iff`), and along a run all queued commands fit exactly when no such request is
accepted (`queue_fits_along_iff`).
-/

namespace TpxServer.Comms

open TimepixConnectionManager PythonConnectionManager

/-! ## Commands that fit -/

/-- The message of the command is not longer than the buffer, and copying it there has a defined
behaviour. -/
structure Fits (info : TimepixCommandInfo) : Prop where
  length_le : (wordsToBytes (message info.command info.data)).length ≤ BUFFER_SIZE
  copied : ∀ t, sendCommand info.command info.data false t ≠ .undefined

theorem length_wordsToBytes_message (cmd : TpxCommand) (data : DataVec) :
    (wordsToBytes (message cmd data)).length = 4 * messageSize data := by
  rw [length_wordsToBytes, length_message]

theorem messageSize_le_iff {data : DataVec} :
    4 * messageSize data ≤ BUFFER_SIZE ↔ data.length ≤ 252 := by
  unfold messageSize BUFFER_SIZE
  omega

theorem sendCommand_ne_undefined {cmd : TpxCommand} {data : DataVec} (h : data.length ≤ 252)
    (s : CommsThread) : sendCommand cmd data false s ≠ .undefined := by
  have hsize := messageSize_le_iff.mpr h
  unfold sendCommand
  split
  · exact fun h => nomatch h
  · dsimp only
    rw [if_neg (by omega)]
    exact fun h => nomatch h

theorem fits_iff {info : TimepixCommandInfo} : Fits info ↔ info.data.length ≤ 252 := by
  constructor
  · intro h
    have hlen := h.length_le
    rwa [length_wordsToBytes_message, messageSize_le_iff] at hlen
  · intro h
    refine ⟨?_, sendCommand_ne_undefined h⟩
    rwa [length_wordsToBytes_message, messageSize_le_iff]

/-! ## Accepted requests -/

theorem length_requestData (command : List Byte) :
    (requestData command).length = command.length % 2 ^ 32 / 4 - 1 := by
  rw [requestData, List.length_map, List.length_range]

/-- The data words of a request are read as they were sent. -/
theorem requestData_wordsToBytes (code : BitVec 32) {data : DataVec}
    (h : data.length < 2 ^ 30 - 1) : requestData (wordsToBytes (code :: data)) = data := by
  have hlen : (requestData (wordsToBytes (code :: data))).length = data.length := by
    rw [length_requestData, length_wordsToBytes, List.length_cons]
    omega
  apply List.ext_getElem hlen
  intro i hi hi'
  have hword : (code :: data)[1 + i]? = some data[i] := by
    rw [Nat.add_comm, List.getElem?_cons_succ, List.getElem?_eq_getElem hi']
  have hread := wordAt_stores (n := 4) (code :: data) [] hword
  rw [List.append_nil] at hread
  simp only [requestData, List.getElem_map, List.getElem_range]
  exact hread

/-- The SPIDR command that a handler queues for the data. -/
def ClientHandler.accepted (handler : ClientHandler) (data : DataVec) : Option TpxCommand :=
  match handler with
  | .genericForward sz cmd => if data.length ≠ sz then none else some cmd
  | .sendPixelConfigData =>
    if (BitVec.ofNat 64 data.length - 1) % 48#64 ≠ 0 then none else some .CMD_SET_PIXCONF
  | .bindUdpPort => none

/-- What is queued for a request. -/
def acceptedCommand (command : List Byte) (s : CommsThread) : Option TimepixCommandInfo :=
  if s.mTpxManager.mIsConnected = false ∨ command.length % 2 ^ 32 % 4 ≠ 0 ∨
      command.length % 2 ^ 32 = 0 then none
  else
    ((COMMAND_MAP.lookup (requestCode command)).bind fun handler =>
      handler.accepted (requestData command)).map fun cmd =>
        ⟨cmd, requestData command, s.mClientManager.id⟩

section Accepted

variable {command : List Byte} {s : CommsThread}

theorem acceptedCommand_of_mapped {handler : ClientHandler} (h : Mapped command s handler) :
    acceptedCommand command s = (handler.accepted (requestData command)).map fun cmd =>
      ⟨cmd, requestData command, s.mClientManager.id⟩ := by
  unfold acceptedCommand
  rw [if_neg, h.lookup, Option.bind_some]
  exact not_or.mpr ⟨ne_false_of_eq_true h.connected,
    not_or.mpr ⟨not_not.mpr h.aligned, h.nonempty⟩⟩

theorem acceptedCommand_eq_none (h : ∀ handler, ¬ Mapped command s handler) :
    acceptedCommand command s = none := by
  unfold acceptedCommand
  split
  · rfl
  · rename_i hreads
    obtain ⟨hconn, hlength⟩ := not_or.mp hreads
    obtain ⟨halign, hzero⟩ := not_or.mp hlength
    cases hlookup : COMMAND_MAP.lookup (requestCode command) with
    | none => rfl
    | some handler =>
      exact absurd ⟨Bool.eq_true_of_not_eq_false hconn, not_not.mp halign, hzero, hlookup⟩
        (h handler)

/-- What is accepted went to its handler. -/
theorem mapped_of_accepted {info : TimepixCommandInfo}
    (h : acceptedCommand command s = some info) : ∃ handler, Mapped command s handler := by
  by_contra hunmapped
  rw [acceptedCommand_eq_none fun handler hmapped => hunmapped ⟨handler, hmapped⟩] at h
  cases h

end Accepted

/-- The commands queued before a call stay, and `info` is queued behind them. -/
def Queues (info : Option TimepixCommandInfo) (s : CommsThread) (o : Result) : Prop :=
  o.All fun t => t.mTpxManager.mQueuedCommands = s.mTpxManager.mQueuedCommands ++ info.toList

section Requests

variable {s : CommsThread}

theorem queues_none_of_tpx {t : CommsThread} (h : t.mTpxManager = s.mTpxManager) :
    t.mTpxManager.mQueuedCommands =
      s.mTpxManager.mQueuedCommands ++ (none : Option TimepixCommandInfo).toList := by
  rw [h]
  exact (List.append_nil _).symm

theorem queues_send (msg : List Byte) : Queues none s (PythonConnectionManager.send msg s) := by
  unfold PythonConnectionManager.send
  split
  · exact queues_none_of_tpx rfl
  · exact queues_none_of_tpx rfl

theorem queues_sendError (errcode : ServerCommand) : Queues none s (sendError errcode s) :=
  queues_send (s := s.withClient { s.mClientManager with mLastCommand := errcode }) _

theorem queues_forward (socket : Option ReqSocket) (msg answer : List Byte) :
    Queues none s (forwardToSecondaryThread socket msg answer s) := by
  unfold forwardToSecondaryThread
  refine Outcome.All.catching ?_ ?_
  · cases socket with
    | none => exact queues_sendError _
    | some socket =>
      dsimp only
      split
      · exact queues_sendError _
      · exact queues_send (s := { s with threads := { s.threads with
          requests := s.threads.requests ++ [(socket.thread, msg)] } }) answer
  · intro e f hf t ht
    cases hf
    exact ht

/-- A handler queues what passes its check. -/
theorem queues_callHandler (handler : ClientHandler) (data : DataVec) :
    Queues ((handler.accepted data).map fun cmd => ⟨cmd, data, s.mClientManager.id⟩) s
      (callHandler handler data s) := by
  cases handler with
  | genericForward sz cmd =>
    show Queues _ s (genericForward sz cmd data s)
    unfold genericForward ClientHandler.accepted
    by_cases hlen : data.length ≠ sz
    · simp only [if_pos hlen]
      exact queues_sendError (s := s.sendWarn _) _
    · simp only [if_neg hlen]
      exact rfl
  | sendPixelConfigData =>
    show Queues _ s (sendPixelConfigData data s)
    unfold sendPixelConfigData ClientHandler.accepted
    by_cases hlen : (BitVec.ofNat 64 data.length - 1) % 48#64 ≠ 0
    · simp only [if_pos hlen]
      exact queues_sendError _
    · simp only [if_neg hlen]
      exact rfl
  | bindUdpPort =>
    show Queues none s (bindUdpPort data s)
    unfold bindUdpPort
    split
    · exact queues_sendError _
    · rcases CommsThread.bindUdpPort_cases (s := s) with hbind | hbind
      · rw [hbind]
        trivial
      · rw [hbind, Outcome.ok_andThen]
        exact queues_send (s := { s with threads := _ }) _

/-- A request queues what is accepted. -/
theorem queues_handleCommand (command answer : List Byte) :
    Queues (acceptedCommand command s) s (handleCommand command answer s) := by
  rcases handleCommand_dispatch command answer s with
    ⟨handler, hmapped, heq⟩ | ⟨hunmapped, heq | heq | ⟨errcode, heq⟩ | ⟨socket, heq⟩⟩
  · rw [heq, acceptedCommand_of_mapped hmapped]
    exact queues_callHandler
      (s := s.withClient { s.mClientManager with mLastCommand := requestCode command }) _ _
  · rw [heq]
    trivial
  · rw [heq, acceptedCommand_eq_none hunmapped]
    exact queues_none_of_tpx rfl
  · rw [heq, acceptedCommand_eq_none hunmapped]
    exact queues_sendError _
  · rw [heq, acceptedCommand_eq_none hunmapped]
    exact queues_forward _ _ _

end Requests

/-! ## Accepted requests that fit -/

/-- The number of data words of the request, if the handler fixes it. -/
def ClientHandler.words : ClientHandler → Option ℕ
  | .genericForward sz _ => some sz
  | .sendPixelConfigData => none
  | .bindUdpPort => some 1

theorem length_of_accepted {handler : ClientHandler} {data : DataVec} {cmd : TpxCommand}
    (h : handler.accepted data = some cmd) : ∀ sz ∈ handler.words, data.length = sz := by
  intro sz hsz
  cases handler with
  | genericForward sz' cmd' =>
    cases hsz
    unfold ClientHandler.accepted at h
    dsimp only at h
    split at h
    · cases h
    · rename_i hlen
      exact not_not.mp hlen
  | sendPixelConfigData => cases hsz
  | bindUdpPort => cases h

/-- Only the handler of `SET_PIXEL_CONFIG` leaves the number of data words open. -/
theorem words_of_mem : ∀ p ∈ COMMAND_MAP,
    p.1 = .SET_PIXEL_CONFIG ∨ (p.1 ≠ .SET_PIXEL_CONFIG ∧ ∃ sz ∈ p.2.words, sz ≤ 252) := by
  decide

theorem fits_accepted_iff {command : List Byte} {s : CommsThread} {info : TimepixCommandInfo}
    (h : acceptedCommand command s = some info) :
    Fits info ↔ (requestCode command = .SET_PIXEL_CONFIG → (requestData command).length ≤ 252) := by
  obtain ⟨handler, hmapped⟩ := mapped_of_accepted h
  rw [acceptedCommand_of_mapped hmapped] at h
  obtain ⟨cmd, haccepted, rfl⟩ := Option.map_eq_some_iff.mp h
  have hmem : (requestCode command, handler) ∈ COMMAND_MAP := mem_of_lookup hmapped.lookup
  rw [fits_iff]
  dsimp only
  rcases words_of_mem _ hmem with hcode | ⟨hcode, sz, hsz, hle⟩
  · exact ⟨fun hlen _ => hlen, fun hlen => hlen hcode⟩
  · have hlen := length_of_accepted haccepted sz hsz
    exact iff_of_true (by omega) fun hcode' => absurd hcode' hcode

/-- **Accepted commands.** A command that `handleCommand` queues fits the buffer exactly when the
request, if it configures pixels, has at most 252 data words. -/
theorem accepted_fits_iff {command answer : List Byte} {s s' : CommsThread}
    {info : TimepixCommandInfo} (hok : handleCommand command answer s = .ok s')
    (hqueued : s'.mTpxManager.mQueuedCommands = s.mTpxManager.mQueuedCommands ++ [info]) :
    Fits info ↔
      (requestCode command = .SET_PIXEL_CONFIG → (requestData command).length ≤ 252) := by
  have hqueues := queues_handleCommand (s := s) command answer
  rw [hok] at hqueues
  have haccepted : acceptedCommand command s = some info := by
    cases hinfo : acceptedCommand command s with
    | none =>
      rw [hinfo] at hqueues
      simpa using hqueued.symm.trans hqueues
    | some info' =>
      rw [hinfo] at hqueues
      have heq := List.append_cancel_left (hqueued.symm.trans hqueues)
      cases heq
      rfl
  exact fits_accepted_iff haccepted

/-- A server connected to the SPIDR that has just read a request. -/
def connectedThread : CommsThread :=
  { mTpxManager := { mIsConnected := true }
    mClientManager := { mCommandSocket := { replyOwed := true } } }

/-- A pixel configuration of `n` words. -/
def pixelConfigRequest (n : ℕ) : List Byte :=
  wordsToBytes (ServerCommand.SET_PIXEL_CONFIG.code :: List.replicate n 0)

/-- The thread after a pixel configuration of `n` words was queued. -/
def afterPixelConfig (n : ℕ) : CommsThread :=
  { mTpxManager :=
      { mIsConnected := true
        mQueuedCommands := [⟨.CMD_SET_PIXCONF, List.replicate n 0, 0⟩] }
    mClientManager :=
      { mLastCommand := .SET_PIXEL_CONFIG
        mCommandSocket := { replyOwed := true } } }

section PixelConfig

variable {n : ℕ} (hn : n < 2 ^ 30 - 1)
include hn

theorem length_pixelConfigRequest : (pixelConfigRequest n).length % 2 ^ 32 = 4 * (n + 1) := by
  rw [pixelConfigRequest, length_wordsToBytes, List.length_cons, List.length_replicate]
  omega

/-- A pixel configuration that passes the check is queued. -/
theorem handleCommand_pixelConfig (h48 : (BitVec.ofNat 64 n - 1) % 48#64 = 0) :
    handleCommand (pixelConfigRequest n) [] connectedThread = .ok (afterPixelConfig n) := by
  have hlen := length_pixelConfigRequest hn
  have hcode : requestCode (pixelConfigRequest n) = .SET_PIXEL_CONFIG := by
    have hread := wordAt_stores (n := 4) (ServerCommand.SET_PIXEL_CONFIG.code :: List.replicate n 0)
      [] List.getElem?_cons_zero
    rw [List.append_nil] at hread
    exact congrArg ServerCommand.mk hread
  have hdata : requestData (pixelConfigRequest n) = List.replicate n 0 :=
    requestData_wordsToBytes _ (by rwa [List.length_replicate])
  have hlookup : COMMAND_MAP.lookup .SET_PIXEL_CONFIG = some .sendPixelConfigData := by decide
  unfold handleCommand
  rw [if_neg (by decide), if_neg (by omega)]
  dsimp only
  rw [if_neg (by omega), hcode, hlookup]
  dsimp only
  rw [if_neg (by omega)]
  show sendPixelConfigData (requestData (pixelConfigRequest n)) _ = _
  rw [hdata]
  unfold sendPixelConfigData
  rw [List.length_replicate, if_neg (not_not.mpr h48)]
  rfl

end PixelConfig

/-- The configuration of one column. -/
theorem accepted_fits_iff_column :
    Fits ⟨.CMD_SET_PIXCONF, List.replicate 49 0, 0⟩ ↔
      (requestCode (pixelConfigRequest 49) = .SET_PIXEL_CONFIG →
        (requestData (pixelConfigRequest 49)).length ≤ 252) :=
  accepted_fits_iff (handleCommand_pixelConfig (by decide) (by decide)) rfl

/-- The configuration of six columns is accepted, and its message is 1172 bytes long. -/
theorem six_columns_not_fit :
    handleCommand (pixelConfigRequest 289) [] connectedThread = .ok (afterPixelConfig 289) ∧
      (wordsToBytes (message .CMD_SET_PIXCONF (List.replicate 289 0))).length = 1172 ∧
      ¬ Fits ⟨.CMD_SET_PIXCONF, List.replicate 289 0, 0⟩ := by
  refine ⟨handleCommand_pixelConfig (by decide) (by decide), ?_, ?_⟩
  · rw [length_wordsToBytes_message, messageSize, List.length_replicate]
    rfl
  · rw [fits_iff, List.length_replicate]
    decide

/-! ## Runs -/

/-- All queued commands fit. -/
def QueueFits (x : Server) : Prop := ∀ info ∈ x.view.queue, Fits info

/-- A pixel configuration that is read and accepted has at most 252 data words. -/
def SmallPixelConfig (x : Server) : Event → Prop
  | .client (some msg) _ => x.thread.mClientManager.mCommandSocket.recvError = none →
    (acceptedCommand msg x.thread).isSome → requestCode msg = .SET_PIXEL_CONFIG →
      (requestData msg).length ≤ 252
  | _ => True

/-- What is queued when the client is polled. -/
def polledCommand (request : Option (List Byte)) (s : CommsThread) : Option TimepixCommandInfo :=
  if s.mClientManager.mCommandSocket.recvError = none then
    request.bind fun msg => acceptedCommand msg s
  else none

theorem queue_resetClientConnection {queue : List TimepixCommandInfo} (s : CommsThread)
    (h : s.mTpxManager.mQueuedCommands = queue) :
    s.resetClientConnection.All fun t => t.mTpxManager.mQueuedCommands = queue := by
  rcases CommsThread.resetClientConnection_cases (s := s) with hreset | hreset
  · rw [hreset]
    trivial
  · rw [hreset]
    exact h

theorem queues_poll (request : Option (List Byte)) (answer : List Byte) (s : CommsThread) :
    Queues (polledCommand request s) s (PythonConnectionManager.poll request answer s) := by
  unfold PythonConnectionManager.poll polledCommand
  refine Outcome.All.catching ?_ ?_
  · cases herr : s.mClientManager.mCommandSocket.recvError with
    | some e => exact queues_none_of_tpx rfl
    | none =>
      cases request with
      | none => exact queues_none_of_tpx rfl
      | some msg =>
        exact queues_handleCommand (s := s.withClient { s.mClientManager with
          mCommandSocket := s.mClientManager.mCommandSocket.recv msg }) msg answer
  · intro e f hf t ht
    cases e with
    | error_t num what =>
      cases hf
      exact queue_resetClientConnection (close (t.sendErr _)) ht
    | system_error code => cases hf
    | std_exception what => cases hf

/-- Any other move keeps the queue or empties it. -/
theorem queue_of_move {v v' : View} {e : Event} (h : Move v e v')
    (he : ∀ request answer, e ≠ .client request answer) : v'.queue = v.queue ∨ v'.queue = [] := by
  cases h with
  | cancel => exact Or.inl rfl
  | finish => exact Or.inl rfl
  | begin =>
    left
    unfold View.renewed
    split
    · rfl
    · rfl
  | send => exact Or.inl rfl
  | reset => exact Or.inr rfl
  | connected => exact Or.inl rfl
  | sent => exact Or.inl rfl
  | answer => exact Or.inr rfl
  | lose => exact Or.inr rfl
  | ignore => exact Or.inl rfl
  | idle => exact Or.inl rfl
  | noRequest => exact absurd rfl (he _ _)
  | reply => exact absurd rfl (he _ _)
  | enqueue => exact absurd rfl (he _ _)
  | giveUp => exact absurd rfl (he _ _)

/-- A poll of the client queues what it reads and accepts. -/
theorem queue_of_client {x x' : Server} {request : Option (List Byte)} {answer : List Byte}
    (hstep : Server.step x (.client request answer) = some x') (hx' : Alive x') :
    x'.view.queue = x.view.queue ++ (polledCommand request x.thread).toList := by
  obtain ⟨phase, s⟩ := x
  cases phase with
  | client =>
    cases hstep
    obtain ⟨t, ht, hresume⟩ := resume_alive hx'
    have hqueues := queues_poll request answer s
    rw [ht] at hqueues
    rw [hresume]
    exact hqueues
  | head => cases hstep
  | asio => cases hstep
  | stopped => cases hstep
  | undefined => cases hstep

theorem fits_polledCommand_iff {x : Server} {request : Option (List Byte)} {answer : List Byte} :
    (∀ info ∈ polledCommand request x.thread, Fits info) ↔
      SmallPixelConfig x (.client request answer) := by
  unfold polledCommand
  cases request with
  | none =>
    refine iff_of_true ?_ trivial
    split
    · exact fun info hinfo => nomatch hinfo
    · exact fun info hinfo => nomatch hinfo
  | some msg =>
    unfold SmallPixelConfig
    dsimp only
    by_cases herr : x.thread.mClientManager.mCommandSocket.recvError = none
    · rw [if_pos herr, Option.bind_some]
      cases haccepted : acceptedCommand msg x.thread with
      | none => exact iff_of_true (fun info hinfo => nomatch hinfo) fun _ h => nomatch h
      | some info =>
        simp only [Option.mem_some_iff, forall_eq', fits_accepted_iff haccepted]
        exact ⟨fun h _ _ => h, fun h => h herr rfl⟩
    · rw [if_neg herr]
      exact iff_of_true (fun info hinfo => nomatch hinfo) fun h => absurd h herr

/-- **One step.** A step keeps the queue free of commands that do not fit exactly when it accepts
none. -/
theorem queueFits_step_iff (x : Server) (e : Event) (x' : Server) (h : Inv x) (hx' : Alive x')
    (hfits : QueueFits x) (hstep : Server.step x e = some x') :
    QueueFits x' ↔ SmallPixelConfig x e := by
  by_cases he : ∀ request answer, e ≠ .client request answer
  · refine iff_of_true ?_ ?_
    · intro info hinfo
      rcases queue_of_move (move_of_step (h (alive_of_step hstep hx')) hstep hx') he with
        hqueue | hqueue
      · rw [hqueue] at hinfo
        exact hfits info hinfo
      · rw [hqueue] at hinfo
        cases hinfo
    · cases e with
      | client request answer => exact absurd rfl (he request answer)
      | _ => trivial
  · simp only [not_forall, not_not] at he
    obtain ⟨request, answer, rfl⟩ := he
    rw [← fits_polledCommand_iff, QueueFits, queue_of_client hstep hx']
    constructor
    · exact fun h info hinfo => h info (List.mem_append_right _ (Option.mem_toList.mpr hinfo))
    · intro hnew info hinfo
      rcases List.mem_append.mp hinfo with hold | hmem
      · exact hfits info hold
      · exact hnew info (Option.mem_toList.mp hmem)

/-- **Runs.** In a run of a server that is still alive, all queued commands fit at all times exactly
when every accepted pixel configuration has at most 252 data words. -/
theorem queue_fits_along_iff {openError : Option OpenError} {es : List Event} {x : Server}
    (hrun : Runs.run Server.step (Server.start openError) es = some x) (hx : Alive x) :
    Runs.Along Server.step QueueFits (Server.start openError) es ↔
      Runs.EachStep Server.step SmallPixelConfig (Server.start openError) es := by
  refine Runs.along_iff_eachStep (fun x e x' hstep => alive_of_step hstep) inv_step
    queueFits_step_iff (inv_start openError) ?_ hrun hx
  have hstart : Alive (Server.start openError) :=
    Runs.back_of_run (fun x e x' hstep => alive_of_step hstep) hrun hx
  cases openError with
  | none => exact fun info hinfo => nomatch hinfo
  | some e => cases e <;> exact absurd hstart (not_alive_of_cancelled rfl Phase.noConfusion)

end TpxServer.Comms
