import TpxServer.Comms.DummySpidr
import TpxServer.Comms.InFlight
import TpxServer.Comms.CommandSize

/-!
# Requests for the SPIDR

Which requests the server passes on, and as what: a request with a command and data that its handler
accepts is queued with these, and sent in this form. While the command is executed, only the ends of
socket operations change the managers.
-/

namespace TpxServer.Comms

open TimepixConnectionManager PythonConnectionManager

/-! ## The command of a request -/

/-- The SPIDR command that a request asks for, with its payload. -/
def commandOf (msg : List Byte) : Option (TpxCommand × DataVec) :=
  if msg.length % 2 ^ 32 % 4 ≠ 0 ∨ msg.length % 2 ^ 32 = 0 then none
  else
    (COMMAND_MAP.lookup (requestCode msg)).bind fun handler =>
      (handler.accepted (requestData msg)).map (·, requestData msg)

/-- With a connection, the command that is asked for is accepted. -/
theorem acceptedCommand_eq {s : CommsThread} (hconn : s.mTpxManager.mIsConnected = true)
    (msg : List Byte) : acceptedCommand msg s =
      (commandOf msg).map fun c => ⟨c.1, c.2, s.mClientManager.id⟩ := by
  unfold acceptedCommand commandOf
  by_cases hlen : msg.length % 2 ^ 32 % 4 ≠ 0 ∨ msg.length % 2 ^ 32 = 0
  · rw [if_pos hlen, if_pos (Or.inr hlen)]
    rfl
  · rw [if_neg hlen, if_neg (not_or.mpr ⟨ne_false_of_eq_true hconn, hlen⟩)]
    cases COMMAND_MAP.lookup (requestCode msg) with
    | none => rfl
    | some handler =>
      rw [Option.bind_some, Option.bind_some, Option.map_map]
      rfl

/-- A request queues the command it asks for, and nothing else. -/
theorem queue_handleCommand {s t : CommsThread} (hconn : s.mTpxManager.mIsConnected = true)
    {msg answer : List Byte} (hok : handleCommand msg answer s = .ok t) :
    t.mTpxManager.mQueuedCommands = s.mTpxManager.mQueuedCommands ++
      ((commandOf msg).map fun c => ⟨c.1, c.2, s.mClientManager.id⟩).toList := by
  have hqueues := queues_handleCommand (s := s) msg answer
  rw [hok, acceptedCommand_eq hconn] at hqueues
  exact hqueues

/-- Only the pixel configuration may be too long. -/
theorem fits_of_commandOf {msg : List Byte} {cmd : TpxCommand} {data : DataVec}
    (h : commandOf msg = some (cmd, data)) (hcmd : cmd ≠ .CMD_SET_PIXCONF) :
    messageSize data * 4 ≤ BUFFER_SIZE := by
  unfold commandOf at h
  split at h
  · cases h
  obtain ⟨handler, hlookup, hmap⟩ := Option.bind_eq_some_iff.mp h
  obtain ⟨cmd', haccepted, heq⟩ := Option.map_eq_some_iff.mp hmap
  cases heq
  rw [Nat.mul_comm, messageSize_le_iff]
  rcases words_of_mem _ (mem_of_lookup hlookup) with hcode | ⟨-, sz, hsz, hle⟩
  · dsimp only at hcode
    rw [hcode] at hlookup
    cases hlookup.symm.trans
      (show COMMAND_MAP.lookup .SET_PIXEL_CONFIG = some .sendPixelConfigData from rfl)
    unfold ClientHandler.accepted at haccepted
    dsimp only at haccepted
    split at haccepted
    · cases haccepted
    · cases haccepted
      exact absurd rfl hcmd
  · rw [length_of_accepted haccepted sz hsz]
    exact hle

theorem handleCommand_refused {s : CommsThread} (hconn : s.mTpxManager.mIsConnected = false)
    (msg answer : List Byte) :
    handleCommand msg answer s = PythonConnectionManager.sendError .ERROR_OCCURED s := by
  unfold handleCommand
  exact if_pos hconn

/-! ## The steps of an exchange -/

/-- A request was answered at once. -/
def View.replied (v : View) (msg reply : List Byte) (last : ServerCommand) : View :=
  { v with
    phase := .head
    client := { v.client with
      mLastCommand := last
      mCommandSocket := (v.client.mCommandSocket.recv msg).send reply } }

/-- A request was queued for the SPIDR. -/
def View.asked (v : View) (msg : List Byte) (cmd : TpxCommand) (data : DataVec) : View :=
  { v with
    phase := .head
    client := { v.client with
      mLastCommand := requestCode msg
      mCommandSocket := v.client.mCommandSocket.recv msg }
    queue := v.queue ++ [⟨cmd, data, v.client.id⟩] }

/-- The answer while there is no connection. -/
def refusal : List Byte := wordsToBytes [ServerCommand.ERROR_OCCURED.code]

/-- The thread once the request was received. -/
def CommsThread.recv (msg : List Byte) (s : CommsThread) : CommsThread :=
  s.withClient { s.mClientManager with
    mCommandSocket := s.mClientManager.mCommandSocket.recv msg }

/-- The poll of the client ends with the handling of the request. -/
theorem handled_of_client {x x' : Server} {msg answer : List Byte} (h : Pipeline x.view)
    (howed : x.view.client.mCommandSocket.replyOwed = false)
    (hstep : Server.step x (.client (some msg) answer) = some x') (hx' : Alive x') :
    x.phase = .client ∧ x.thread.mClientManager.mCommandSocket.isOpen = true ∧
      ∃ t, x' = ⟨.head, t⟩ ∧ handleCommand msg answer (x.thread.recv msg) = .ok t := by
  obtain ⟨phase, s⟩ := x
  cases phase with
  | client =>
    have hopen : s.mClientManager.mCommandSocket.isOpen = true :=
      h.isOpen (h.renew_eq_false Phase.noConfusion)
    have howed : s.mClientManager.mCommandSocket.replyOwed = false := howed
    have herr : s.mClientManager.mCommandSocket.recvError = none := by
      unfold RepSocket.recvError
      rw [if_neg (ne_false_of_eq_true hopen), if_neg (ne_true_of_eq_false howed)]
    cases hstep
    obtain ⟨t, ht, hresume⟩ := resume_alive hx'
    rw [hresume]
    refine ⟨rfl, hopen, t, rfl, ?_⟩
    unfold PythonConnectionManager.poll at ht
    rw [herr] at ht
    have ht : (handleCommand msg answer (s.recv msg)).catching clientError = .ok t := ht
    rcases handleCommand_cases (s := s.recv msg) hopen rfl msg answer with
      hundef | ⟨what, u, hthrows⟩ | ⟨u, hok, -⟩ | ⟨u, handler, hok, -⟩
    · rw [hundef] at ht
      cases ht
    · rw [hthrows, Outcome.throws_uncaught rfl] at ht
      cases ht
    · rw [hok] at ht
      exact hok.trans ht
    · rw [hok] at ht
      exact hok.trans ht
  | head => cases hstep
  | asio => cases hstep
  | stopped => cases hstep
  | undefined => cases hstep

/-- **A request.** Without a connection it is refused; otherwise it is queued as the command it asks
for, and answered at once if it asks for none. -/
theorem view_of_client {x x' : Server} {msg answer : List Byte} (h : Pipeline x.view)
    (howed : x.view.client.mCommandSocket.replyOwed = false)
    (hstep : Server.step x (.client (some msg) answer) = some x') (hx' : Alive x') :
    (x.view.connected = false ∧ ∃ last, x'.view = x.view.replied msg refusal last) ∨
    x.view.connected = true ∧
      ((commandOf msg = none ∧ ∃ reply last, x'.view = x.view.replied msg reply last) ∨
        ∃ cmd data, commandOf msg = some (cmd, data) ∧ x'.view = x.view.asked msg cmd data) := by
  obtain ⟨hphase, hopen, t, rfl, hok⟩ := handled_of_client h howed hstep hx'
  cases hconn : x.view.connected with
  | false =>
    have hrefused := handleCommand_refused (s := x.thread.recv msg) hconn msg answer
    rw [sendError_eq (s := x.thread.recv msg) hopen rfl] at hrefused
    cases hrefused.symm.trans hok
    exact Or.inl ⟨rfl, .ERROR_OCCURED, rfl⟩
  | true =>
    refine Or.inr ⟨rfl, ?_⟩
    have hqueue := queue_handleCommand (s := x.thread.recv msg) hconn hok
    have hmove := move_of_step h hstep hx'
    generalize hv : (Server.mk .head t).view = v' at hmove
    have hqueue' : v'.queue = x.view.queue ++
        ((commandOf msg).map fun c => ⟨c.1, c.2, x.view.client.id⟩).toList := by
      rw [← hv]
      exact hqueue
    cases hmove with
    | reply _ _ reply last _ _ =>
      refine Or.inl ⟨?_, reply, last, rfl⟩
      have hnil := List.self_eq_append_right.mp hqueue'
      rwa [Option.toList_eq_nil_iff, Option.map_eq_none_iff] at hnil
    | enqueue _ _ handler info _ _ _ hlookup hcommand hsender =>
      have hinfo := List.append_cancel_left hqueue'
      cases hcommand' : commandOf msg with
      | none =>
        rw [hcommand'] at hinfo
        cases hinfo
      | some c =>
        rw [hcommand'] at hinfo
        cases hinfo
        exact Or.inr ⟨c.1, c.2, rfl, rfl⟩
    | giveUp _ _ _ howed' => exact absurd howed' (ne_true_of_eq_false howed)

/-- What `poll` sends is the command on the wire. -/
theorem pendingSend_pollQueue {s t : CommsThread} (halive : s.mTpxManager.mIsCancelled = false)
    {info : TimepixCommandInfo} (hok : pollQueue info s = .ok t) :
    messageSize info.data * 4 ≤ BUFFER_SIZE ∧
      t.mTpxManager.pendingSend = some (wire info.command.code info.data) := by
  have hlen : (wordsToBytes (message info.command info.data)).length =
      messageSize info.data * 4 := by
    rw [length_wordsToBytes, length_message, Nat.mul_comm]
  unfold pollQueue at hok
  rw [sendCommand_eq halive, take_fill _ hlen, wordsToBytes_message] at hok
  split at hok
  · cases hok
  · rename_i hfits
    cases hok
    exact ⟨not_lt.mp hfits, rfl⟩

/-- **Sending.** Whatever an iteration puts in execution is on the wire. -/
theorem pendingSend_of_iterate {x x' : Server} {attempt : Attempt} (h : Pipeline x.view)
    (hstep : Server.step x (.iterate attempt) = some x') (hx' : Alive x')
    (hexec : x.view.executing = false) (hexec' : x'.view.executing = true) :
    ∃ info, x.view.queue = [info] ∧ messageSize info.data * 4 ≤ BUFFER_SIZE ∧
      x'.thread.mTpxManager.pendingSend = some (wire info.command.code info.data) := by
  have hmove := move_of_step h hstep hx'
  have hx := alive_of_step hstep hx'
  generalize hv' : x'.view = v' at hmove hexec'
  cases hmove with
  | begin _ hphase hready =>
    have hsame : x.view.renewed.executing = x.view.executing := by
      unfold View.renewed
      split
      · rfl
      · rfl
    exact absurd (hsame.symm.trans hexec') (ne_true_of_eq_false hexec)
  | reset => exact absurd hexec' Bool.false_ne_true
  | send _ info hphase _ hqueue hcommand =>
    refine ⟨info, hqueue, ?_⟩
    obtain ⟨phase, s⟩ := x
    cases hphase
    have hinfo := h.queuedBy hqueue
    have hnext : nextCommand s = some info := by
      have hconn : s.mTpxManager.mIsConnected = true := hinfo.connected
      have hexec : s.mTpxManager.mIsExecutingCommand = false := hexec
      have hqueue : s.mTpxManager.mQueuedCommands = [info] := hqueue
      unfold nextCommand
      rw [hconn, hexec, hqueue]
      rfl
    unfold Server.step at hstep
    dsimp only at hstep
    rw [if_neg (ne_true_of_eq_false (hx.not_cancelled.resolve_left Phase.noConfusion)),
      renewClient_eq hinfo.current] at hstep
    unfold Server.beginPoll at hstep
    rw [hnext] at hstep
    dsimp only at hstep
    rw [if_neg hcommand] at hstep
    rcases pollQueue_cases h.alive info .asio with ⟨-, hsend⟩ | ⟨t, -, hsend, -⟩
    · rw [hsend] at hstep
      cases hstep
      exact absurd rfl hx'.not_undefined
    · rw [hsend] at hstep
      cases hstep
      exact pendingSend_pollQueue h.alive hsend

/-- The end of an operation on the SPIDR socket. -/
def Event.ofSocket : Event → Bool
  | .connected _ _ | .sent _ _ | .received _ _ => true
  | _ => false

/-- **Waiting.** While a command is executed, the managers wait for the socket. -/
theorem view_of_busy {x x' : Server} {e : Event} (h : Pipeline x.view)
    (hexec : x.view.executing = true) (he : e.ofSocket = false)
    (hstep : Server.step x e = some x') (hx' : Alive x') :
    x'.thread.mTpxManager = x.thread.mTpxManager ∧
      x'.view = { x.view with phase := x'.phase } := by
  have hx := alive_of_step hstep hx'
  have hturn : x.thread.mShouldCancel = false → (∃ attempt, e = .iterate attempt) →
      x'.thread = x.thread :=
    fun hcancel he => (turn_eq h hcancel (Or.inl hexec) (Or.inr he) hstep).1
  obtain ⟨phase, s⟩ := x
  unfold Server.step at hstep
  dsimp only at hstep
  split at hstep
  · cases hstep
  · cases hstep
  · cases hstep
    exact ⟨rfl, rfl⟩
  · split at hstep
    · cases hstep
      exact ⟨rfl, rfl⟩
    · cases hstep
  · have hthread := hturn (hx.not_cancelled.resolve_left Phase.noConfusion) ⟨_, rfl⟩
    exact ⟨congrArg CommsThread.mTpxManager hthread, view_of_thread_eq hthread⟩
  · cases he
  · cases he
  · cases he
  · cases hstep
    exact ⟨rfl, rfl⟩
  · -- the client is polled only when no command is executed
    exact absurd (h.client rfl).1 (ne_false_of_eq_true hexec)
  · cases hstep

end TpxServer.Comms
