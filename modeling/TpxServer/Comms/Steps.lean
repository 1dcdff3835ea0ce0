import TpxServer.Comms.Calls

/-!
# What a step can do

Under the pipeline invariant every step into a server that is alive is a move (`move_of_step`).
Whatever else can happen stops the server. So the invariant holds in every server that is reached
and alive (`pipeline_of_run`).
-/

namespace TpxServer.Comms

open TimepixConnectionManager PythonConnectionManager

/-! ## The steps -/

theorem view_renewClient (s : CommsThread) (phase : Phase) :
    (Server.renewClient s).view phase = (s.view phase).renewed := by
  unfold Server.renewClient View.renewed
  by_cases h : s.mShouldResetClient = true
  · have h' : (s.view phase).renew = true := h
    rw [if_pos h, if_pos h']
    rfl
  · have h' : ¬ (s.view phase).renew = true := h
    rw [if_neg h, if_neg h']

section Moves

variable {s : CommsThread}

theorem nextCommand_eq_none_iff : nextCommand s = none ↔
    s.mTpxManager.mIsConnected = false ∨ s.mTpxManager.mIsExecutingCommand = true ∨
      s.mTpxManager.mQueuedCommands = [] := by
  unfold nextCommand
  cases s.mTpxManager.mIsConnected with
  | false => exact iff_of_true rfl (Or.inl rfl)
  | true =>
    cases s.mTpxManager.mIsExecutingCommand with
    | true => exact iff_of_true rfl (Or.inr (Or.inl rfl))
    | false => simp [List.head?_eq_none_iff]

theorem nextCommand_eq_some {info : TimepixCommandInfo} (h : nextCommand s = some info) :
    s.mTpxManager.mIsExecutingCommand = false ∧
      s.mTpxManager.mQueuedCommands.head? = some info := by
  unfold nextCommand at h
  cases hconn : s.mTpxManager.mIsConnected with
  | false =>
    rw [hconn] at h
    cases h
  | true =>
    cases hexec : s.mTpxManager.mIsExecutingCommand with
    | true =>
      rw [hconn, hexec] at h
      cases h
    | false =>
      rw [hconn, hexec] at h
      exact ⟨rfl, h⟩

theorem renewClient_eq (hcurrent : s.mShouldResetClient = false) : Server.renewClient s = s := by
  unfold Server.renewClient
  rw [if_neg (ne_true_of_eq_false hcurrent)]

theorem tpxManager_renewClient (s : CommsThread) :
    (Server.renewClient s).mTpxManager = s.mTpxManager := by
  unfold Server.renewClient
  split
  · rfl
  · rfl

theorem nextCommand_renewClient (s : CommsThread) :
    nextCommand (Server.renewClient s) = nextCommand s := by
  unfold nextCommand
  rw [tpxManager_renewClient]

/-- The command sent next is the only one queued. -/
theorem queue_of_nextCommand (h : Pipeline (s.view .head)) {info : TimepixCommandInfo}
    (hnext : nextCommand s = some info) : (s.view .head).executing = false ∧
      (s.view .head).queue = [info] ∧ QueuedBy (s.view .head) info := by
  obtain ⟨hexec, hhead⟩ := nextCommand_eq_some hnext
  rcases h.queued with hnil | ⟨info', hqueue, hinfo⟩
  · have hnil' : s.mTpxManager.mQueuedCommands = [] := hnil
    rw [hnil'] at hhead
    cases hhead
  · have hqueue' : s.mTpxManager.mQueuedCommands = [info'] := hqueue
    rw [hqueue'] at hhead
    cases hhead
    exact ⟨hexec, hqueue, hinfo⟩

theorem move_iterate (h : Pipeline (s.view .head)) (attempt : Attempt)
    (hx' : Alive (Server.beginPoll attempt (Server.renewClient s))) :
    Move (s.view .head) (.iterate attempt)
      (Server.beginPoll attempt (Server.renewClient s)).view := by
  cases hnext : nextCommand s with
  | none =>
    have hview : (Server.beginPoll attempt (Server.renewClient s)).view =
        { (s.view .head).renewed with phase := .asio } := by
      unfold Server.beginPoll
      rw [nextCommand_renewClient, hnext, ← view_renewClient]
      rfl
    rw [hview]
    exact .begin attempt rfl (nextCommand_eq_none_iff.mp hnext)
  | some info =>
    -- a queued command: the client manager is not renewed
    obtain ⟨hexec, hqueue, hinfo⟩ := queue_of_nextCommand h hnext
    rw [renewClient_eq hinfo.current] at hx' ⊢
    unfold Server.beginPoll at hx' ⊢
    rw [hnext] at hx' ⊢
    dsimp only at hx' ⊢
    rcases pollQueue_cases h.alive info .asio with ⟨-, hsend⟩ | ⟨t, -, hsend, hview⟩
    · rw [hsend] at hx'
      split at hx'
      · exact absurd rfl hx'.not_undefined
      · exact absurd rfl hx'.not_undefined
    rw [hsend, Outcome.ok_andThen, Outcome.ok_catching] at hx' ⊢
    have hclient : t.mClientManager = s.mClientManager := congrArg View.client hview
    by_cases hreset : info.command = .CMD_RESET_MODULE
    · rw [if_pos hreset] at hx' ⊢
      have hsource : t.mTpxManager.mLastCommandSource = some t.mClientManager.id := by
        rw [hclient]
        exact (congrArg View.source hview).trans (congrArg some hinfo.sender)
      obtain ⟨u, hu, hcases⟩ := resetModule_cases (s := t)
        ((congrArg View.cancelled hview).trans h.alive) hsource
        (by rw [hclient]; exact h.isOpen hinfo.current) (by rw [hclient]; exact hinfo.owed)
        attempt .client
      rw [hu, Outcome.ok_catching] at hx' ⊢
      rcases hcases with hcancelled | hview'
      · exact absurd hx' (not_alive_of_cancelled hcancelled (afterPoll_ne_asio u))
      · have hexec' : u.mTpxManager.mIsExecutingCommand = false := congrArg View.executing hview'
        have hafter : (Server.resume (.ok u) Server.afterPoll s).view = u.view .client := by
          show (Server.afterPoll u).view = _
          unfold Server.afterPoll
          rw [hexec']
          rfl
        have hqueue' : t.mTpxManager.mQueuedCommands = [info] :=
          (congrArg View.queue hview).trans hqueue
        have hviewC : t.view .client = { t.view .asio with phase := .client } := rfl
        rw [hafter, hview', hviewC, hview, hqueue', hclient]
        exact .reset attempt info rfl hexec hqueue hreset
    · rw [if_neg hreset]
      have hsender : info.sender = s.mClientManager.id := hinfo.sender
      show Move _ _ (t.view .asio)
      rw [hview, hsender]
      exact .send attempt info rfl hexec hqueue hreset

theorem move_connected (h : Pipeline (s.view .asio)) (hconn : s.mTpxManager.pendingConnect = true)
    (err : Option ErrorCode) (attempt : Attempt)
    (hx' : Alive (Server.callback (initializeConnection err attempt (Server.takeConnect s))
      (Server.takeConnect s))) :
    Move (s.view .asio) (.connected err attempt)
      (Server.callback (initializeConnection err attempt (Server.takeConnect s))
        (Server.takeConnect s)).view := by
  obtain ⟨t, ht, hcallback⟩ := callback_alive hx'
  rw [hcallback]
  cases err with
  | some code =>
    rw [initializeConnection_error (s := Server.takeConnect s) h.alive] at ht
    cases ht
  | none =>
    rw [initializeConnection_eq (s := Server.takeConnect s) h.alive] at ht
    cases hread : attempt.readError with
    | some code =>
      rw [hread] at ht
      cases ht
    | none =>
      rw [hread] at ht
      cases ht
      exact .connected attempt rfl hconn

/-- A complete packet of a known command ends the command with an answer. -/
theorem processRecv_known (h : Pipeline (s.view .asio)) (hexec : (s.view .asio).executing = true)
    {cmd : TpxCommand} {sz : ℕ} (hlookup : HANDLER_MAP.lookup cmd = some sz) (data : DataVec) :
    ∃ t, processRecv cmd data s = .ok t ∧ t.view .asio = { s.view .asio with
      client := s.mClientManager.answered sz data
      executing := false
      source := none
      queue := [] } ∧ t.mShouldCancel = s.mShouldCancel := by
  obtain ⟨info, hqueue, hinfo⟩ := h.queue_eq hexec
  have hsource : s.mTpxManager.mLastCommandSource = some s.mClientManager.id :=
    (h.executing hexec).2
  rw [processRecv_eq h.alive hsource, hlookup]
  dsimp only
  rw [genericHandler_eq hsource (h.isOpen hinfo.current) hinfo.owed, Outcome.ok_andThen,
    finishCommand_eq (s := s.withClient (s.mClientManager.answered sz data)) hqueue]
  exact ⟨_, rfl, rfl, rfl⟩

/-- A complete packet of an unknown command ends the command without an answer. -/
theorem processRecv_unknown (h : Pipeline (s.view .asio)) (hexec : (s.view .asio).executing = true)
    {cmd : TpxCommand} (hlookup : HANDLER_MAP.lookup cmd = none) (data : DataVec) :
    ∃ t, processRecv cmd data s = .ok t ∧ t.view .asio = { s.view .asio with
      executing := false
      source := none
      queue := [] } ∧ t.mShouldCancel = s.mShouldCancel := by
  obtain ⟨info, hqueue, -⟩ := h.queue_eq hexec
  rw [processRecv_eq h.alive (h.executing hexec).2, hlookup]
  dsimp only
  rw [Outcome.ok_andThen, finishCommand_eq (s := s.sendWarn _) hqueue]
  exact ⟨_, rfl, rfl, rfl⟩

theorem view_takeRead (bytes : List Byte) (s : CommsThread) (phase : Phase) :
    (Server.takeRead bytes s).view phase = { s.view phase with reading := false } := rfl

/-- A read that ends with a complete packet. -/
theorem commandRecv_takeRead_complete (h : Pipeline (s.view .asio)) {bytes : List Byte}
    (hcomplete : CompletePacket bytes) :
    ∃ s', s'.view .asio = { s.view .asio with reading := false } ∧
      s'.mShouldCancel = s.mShouldCancel ∧
      commandRecv none bytes.length (Server.takeRead bytes s) =
        processRecv (responseCommand bytes) (responseData bytes) s' := by
  obtain ⟨s', ⟨signals, rfl⟩, hrecv⟩ := commandRecv_complete (s := Server.takeRead bytes s)
    h.alive rfl hcomplete
  exact ⟨{ Server.takeRead bytes s with signals := signals }, rfl, rfl, hrecv⟩

theorem move_received (h : Pipeline (s.view .asio)) (hread : s.mTpxManager.pendingRead = true)
    (err : Option ErrorCode) (bytes : List Byte)
    (hx' : Alive (Server.callback (commandRecv err bytes.length (Server.takeRead bytes s))
      (Server.takeRead bytes s))) :
    Move (s.view .asio) (.received err bytes)
      (Server.callback (commandRecv err bytes.length (Server.takeRead bytes s))
        (Server.takeRead bytes s)).view := by
  obtain ⟨t, ht, hcallback⟩ := callback_alive hx'
  rw [hcallback]
  show Move _ _ (t.view .asio)
  have hexec : (s.view .asio).executing = true := h.executing_of_reading hread
  cases err with
  | some code =>
    rw [commandRecv_error (s := Server.takeRead bytes s) h.alive] at ht
    cases ht
  | none =>
    by_cases hcomplete : CompletePacket bytes
    · obtain ⟨s', hview, -, hrecv⟩ := commandRecv_takeRead_complete h hcomplete
      have h' : Pipeline (s'.view .asio) := by
        rw [hview]
        exact h.not_reading
      have hexec' : (s'.view .asio).executing = true := by
        rw [hview]
        exact hexec
      have hclient : s'.mClientManager = s.mClientManager := congrArg View.client hview
      rw [hrecv] at ht
      cases hlookup : HANDLER_MAP.lookup (responseCommand bytes) with
      | none =>
        obtain ⟨t', ht', hview', -⟩ := processRecv_unknown h' hexec' hlookup (responseData bytes)
        rw [ht'] at ht
        cases ht
        rw [hview', hview]
        exact .lose bytes rfl hread hcomplete hlookup
      | some sz =>
        obtain ⟨t', ht', hview', -⟩ := processRecv_known h' hexec' hlookup (responseData bytes)
        rw [ht'] at ht
        cases ht
        rw [hview', hview, hclient]
        exact .answer bytes sz rfl hread hcomplete hlookup
    · rcases commandRecv_incomplete (s := Server.takeRead bytes s) h.alive rfl hcomplete with
        hundef | ⟨s', hsame, hok⟩
      · rw [hundef] at ht
        cases ht
      · rw [hok] at ht
        cases ht
        rw [view_of_sameButSignals hsame, view_takeRead]
        exact .ignore bytes rfl hread hcomplete

theorem move_client (h : Pipeline (s.view .client)) (request : Option (List Byte))
    (answer : List Byte)
    (hx' : Alive (Server.resume (PythonConnectionManager.poll request answer s)
      (⟨.head, ·⟩) s)) :
    Move (s.view .client) (.client request answer)
      (Server.resume (PythonConnectionManager.poll request answer s) (⟨.head, ·⟩) s).view := by
  obtain ⟨t, ht, hresume⟩ := resume_alive hx'
  rw [hresume]
  show Move _ _ (t.view .head)
  have hcurrent : s.mShouldResetClient = false := by
    cases hrenew : s.mShouldResetClient with
    | false => rfl
    | true => exact absurd (h.renewing hrenew) Phase.noConfusion
  have hopen : s.mClientManager.mCommandSocket.isOpen = true := h.isOpen hcurrent
  cases howed : s.mClientManager.mCommandSocket.replyOwed with
  | true =>
    rcases poll_owed howed request answer with hundef | ⟨str, threads, hok⟩
    · rw [hundef] at ht
      cases ht
    · cases hok.symm.trans ht
      exact .giveUp request answer rfl howed
  | false =>
    have herr : s.mClientManager.mCommandSocket.recvError = none := by
      unfold RepSocket.recvError
      rw [if_neg (ne_false_of_eq_true hopen), if_neg (ne_true_of_eq_false howed)]
    unfold PythonConnectionManager.poll at ht
    rw [herr] at ht
    dsimp only at ht
    cases request with
    | none =>
      cases ht
      exact .noRequest answer rfl howed
    | some msg =>
      dsimp only at ht
      rcases handleCommand_cases (s := s.withClient { s.mClientManager with
        mCommandSocket := s.mClientManager.mCommandSocket.recv msg }) hopen rfl msg answer with
        hundef | ⟨what, u, hthrows⟩ | ⟨u, hok, hreplied⟩ |
        ⟨u, handler, hok, hconn, hlookup, hqueued⟩
      · rw [hundef] at ht
        cases ht
      · rw [hthrows, Outcome.throws_uncaught rfl] at ht
        cases ht
      · rw [hok] at ht
        cases ht
        obtain ⟨⟨last, reply, hclient⟩, htpx, hrenew⟩ := hreplied
        have hview : t.view .head = { s.view .client with
            phase := .head
            client := { s.mClientManager with
              mLastCommand := last
              mCommandSocket := (s.mClientManager.mCommandSocket.recv msg).send reply } } := by
          unfold CommsThread.view
          rw [hclient, htpx, hrenew]
          rfl
        rw [hview]
        exact .reply msg answer reply last rfl howed
      · rw [hok] at ht
        cases ht
        obtain ⟨hclient, ⟨info, htpx, hcommand, hsender⟩, hrenew⟩ := hqueued
        have hview : t.view .head = { s.view .client with
            phase := .head
            client := { s.mClientManager with
              mLastCommand := requestCode msg
              mCommandSocket := s.mClientManager.mCommandSocket.recv msg }
            queue := s.mTpxManager.mQueuedCommands ++ [info] } := by
          unfold CommsThread.view
          rw [hclient, htpx, hrenew]
          rfl
        rw [hview]
        exact .enqueue msg answer handler info rfl howed hconn hlookup hcommand hsender

end Moves

/-- **Inversion.** Under the pipeline invariant, a step into a server that is alive is a move. -/
theorem move_of_step {x x' : Server} {e : Event} (h : Pipeline x.view)
    (hstep : Server.step x e = some x') (hx' : Alive x') : Move x.view e x'.view := by
  obtain ⟨phase, s⟩ := x
  have hx := alive_of_step hstep hx'
  unfold Server.step at hstep
  dsimp only at hstep
  split at hstep
  · cases hstep
  · cases hstep
  · cases hstep
    exact .cancel (hx'.not_cancelled.resolve_right Bool.noConfusion)
  · split at hstep
    · cases hstep
      exact .finish _
    · cases hstep
  · rw [if_neg (ne_true_of_eq_false (hx.not_cancelled.resolve_left Phase.noConfusion))] at hstep
    cases hstep
    exact move_iterate h _ hx'
  · split at hstep
    · rename_i err attempt hconn
      cases hstep
      exact move_connected h hconn err attempt hx'
    · cases hstep
  · split at hstep
    · rename_i err bytes_sent hsend
      cases hstep
      rw [commandSent_eq (s := Server.takeSend s) h.alive] at hx' ⊢
      exact .sent err bytes_sent rfl hsend
    · cases hstep
  · split at hstep
    · rename_i err bytes hread
      cases hstep
      exact move_received h hread.1 err bytes hx'
    · cases hstep
  · cases hstep
    exact .idle rfl
  · cases hstep
    exact move_client h _ _ hx'
  · cases hstep

/-! ## The end of a read -/

theorem step_received {x x' : Server} {err : Option ErrorCode} {bytes : List Byte}
    (hstep : Server.step x (.received err bytes) = some x') :
    x.phase = .asio ∧ x.thread.mTpxManager.pendingRead = true ∧
      x' = Server.callback (commandRecv err bytes.length (Server.takeRead bytes x.thread))
        (Server.takeRead bytes x.thread) := by
  obtain ⟨phase, s⟩ := x
  cases phase with
  | asio =>
    unfold Server.step at hstep
    dsimp only at hstep
    split at hstep
    · rename_i hread
      cases hstep
      exact ⟨rfl, hread.1, rfl⟩
    · cases hstep
  | head => cases hstep
  | client => cases hstep
  | stopped => cases hstep
  | undefined => cases hstep

section Received

variable {x x' : Server} {bytes : List Byte} (h : Pipeline x.view)
  (hstep : Server.step x (.received none bytes) = some x')
include h hstep

theorem ok_of_complete (hcomplete : CompletePacket bytes) :
    x'.phase = .asio ∧ x'.thread.mShouldCancel = x.thread.mShouldCancel := by
  obtain ⟨phase, s⟩ := x
  obtain ⟨rfl, hread, rfl⟩ := step_received hstep
  have h : Pipeline (s.view .asio) := h
  have hexec : (s.view .asio).executing = true := h.executing_of_reading hread
  obtain ⟨s', hview, hcancel, hrecv⟩ := commandRecv_takeRead_complete h hcomplete
  have h' : Pipeline (s'.view .asio) := by
    rw [hview]
    exact h.not_reading
  have hexec' : (s'.view .asio).executing = true := by
    rw [hview]
    exact hexec
  rw [hrecv]
  cases hlookup : HANDLER_MAP.lookup (responseCommand bytes) with
  | none =>
    obtain ⟨t, ht, -, hcancel'⟩ := processRecv_unknown h' hexec' hlookup (responseData bytes)
    rw [ht]
    exact ⟨rfl, hcancel'.trans hcancel⟩
  | some sz =>
    obtain ⟨t, ht, -, hcancel'⟩ := processRecv_known h' hexec' hlookup (responseData bytes)
    rw [ht]
    exact ⟨rfl, hcancel'.trans hcancel⟩

theorem ok_of_incomplete (hcomplete : ¬ CompletePacket bytes) :
    x' = ⟨.undefined, Server.takeRead bytes x.thread⟩ ∨
      (x'.phase = .asio ∧ x'.thread.mShouldCancel = x.thread.mShouldCancel) := by
  obtain ⟨phase, s⟩ := x
  obtain ⟨rfl, hread, rfl⟩ := step_received hstep
  rcases commandRecv_incomplete (s := Server.takeRead bytes s) h.alive rfl hcomplete with
    hundef | ⟨s', ⟨signals, hsame⟩, hok⟩
  · left
    show Server.callback (commandRecv none bytes.length (Server.takeRead bytes s)) _ = _
    rw [hundef]
    rfl
  · right
    rw [hok, hsame]
    exact ⟨rfl, rfl⟩

/-- A complete packet is processed. -/
theorem view_of_complete (hcomplete : CompletePacket bytes) :
    x'.view = x.view.processed bytes := by
  have hx' := alive_of_asio (ok_of_complete h hstep hcomplete).1
  rcases (move_of_step h hstep hx').of_received with ⟨-, hview⟩ | ⟨hincomplete, -⟩
  · exact hview
  · exact absurd hcomplete hincomplete

/-- What is no complete packet changes nothing but that the read is over. -/
theorem view_of_incomplete (hcomplete : ¬ CompletePacket bytes) :
    (x'.phase = .undefined ∨ x'.phase = .asio) ∧
      x'.thread.mShouldCancel = x.thread.mShouldCancel ∧
      x'.view = { x.view with phase := x'.phase, reading := false } := by
  obtain ⟨hphase, -⟩ := step_received hstep
  rcases ok_of_incomplete h hstep hcomplete with rfl | ⟨hphase', hcancel⟩
  · exact ⟨Or.inl rfl, rfl, rfl⟩
  · rcases (move_of_step h hstep (alive_of_asio hphase')).of_received with
      ⟨hcomplete', -⟩ | ⟨-, hview⟩
    · exact absurd hcomplete' hcomplete
    · refine ⟨Or.inr hphase', hcancel, ?_⟩
      rw [hview, hphase', ← hphase]
      rfl

end Received

/-- A failed read cancels the thread and reports an error to the client. -/
theorem step_read_error {x x' : Server} {code : ErrorCode} {bytes : List Byte}
    (h : Pipeline x.view) (hstep : Server.step x (.received (some code) bytes) = some x') :
    x'.phase = .head ∧ Cancelled x'.thread ∧ x'.thread.mClientManager.mCommandSocket =
      x.thread.mClientManager.mCommandSocket.send
        (wordsToBytes [ServerCommand.ERROR_OCCURED.code]) := by
  obtain ⟨phase, s⟩ := x
  obtain ⟨rfl, hread, rfl⟩ := step_received hstep
  have hexec : (s.view .asio).executing = true := h.executing_of_reading hread
  obtain ⟨info, -, hinfo⟩ := h.queue_eq hexec
  have hsource : s.mTpxManager.mLastCommandSource = some s.mClientManager.id :=
    (h.executing hexec).2
  obtain ⟨t, ht, hcancelled, hexec', hclient⟩ := networkError_eq (s := Server.takeRead bytes s)
    hsource (h.isOpen hinfo.current) hinfo.owed code
  have hcallback : Server.callback (commandRecv (some code) bytes.length
      (Server.takeRead bytes s)) (Server.takeRead bytes s) = ⟨.head, t⟩ := by
    rw [commandRecv_error (s := Server.takeRead bytes s) h.alive]
    show Server.resume (Outcome.catching _ networkError) Server.afterPoll _ = _
    rw [ht]
    show Server.afterPoll t = _
    unfold Server.afterPoll
    rw [hexec']
    exact congrArg (Server.mk · t) (if_pos hexec)
  rw [hcallback]
  exact ⟨rfl, hcancelled, congrArg PythonConnectionManager.mCommandSocket hclient⟩

/-! ## Turns of the loop -/

/-- A turn of the loop does not touch the thread while a command is executed. -/
theorem turn_eq {x y : Server} {e : Event} (h : Pipeline x.view)
    (hcancel : x.thread.mShouldCancel = false)
    (hbusy : x.view.executing = true ∨ x.phase ≠ .head)
    (he : e = .idle ∨ ∃ attempt, e = .iterate attempt) (hstep : Server.step x e = some y) :
    y.thread = x.thread ∧ Alive y ∧ (y.view.executing = true ∨ y.phase ≠ .head) := by
  obtain ⟨phase, s⟩ := x
  rcases he with rfl | ⟨attempt, rfl⟩
  · cases phase with
    | asio =>
      cases hstep
      unfold Server.afterPoll
      cases hexec : s.mTpxManager.mIsExecutingCommand with
      | true => exact ⟨rfl, ⟨Or.inr hcancel, Phase.noConfusion, Phase.noConfusion⟩, Or.inl hexec⟩
      | false =>
        exact ⟨rfl, ⟨Or.inr hcancel, Phase.noConfusion, Phase.noConfusion⟩,
          Or.inr Phase.noConfusion⟩
    | head => cases hstep
    | client => cases hstep
    | stopped => cases hstep
    | undefined => cases hstep
  · cases phase with
    | head =>
      have hexec : (s.view .head).executing = true := hbusy.resolve_right (· rfl)
      obtain ⟨info, -, hinfo⟩ := h.queue_eq hexec
      have hcancel : s.mShouldCancel = false := hcancel
      have hrenew : Server.renewClient s = s := renewClient_eq hinfo.current
      have hnext : nextCommand s = none := nextCommand_eq_none_iff.mpr (Or.inr (Or.inl hexec))
      unfold Server.step at hstep
      dsimp only at hstep
      rw [if_neg (ne_true_of_eq_false hcancel), hrenew] at hstep
      unfold Server.beginPoll at hstep
      rw [hnext] at hstep
      cases hstep
      exact ⟨rfl, alive_of_asio rfl, Or.inr Phase.noConfusion⟩
    | asio => cases hstep
    | client => cases hstep
    | stopped => cases hstep
    | undefined => cases hstep

/-- The view after such a turn differs in the phase only. -/
theorem view_of_thread_eq {x y : Server} (h : y.thread = x.thread) :
    y.view = { x.view with phase := y.phase } := by
  unfold Server.view
  rw [h]
  rfl

/-! ## Reached servers -/

/-- The pipeline invariant of a server that is alive. -/
def Inv (x : Server) : Prop := Alive x → Pipeline x.view

theorem inv_start (openError : Option OpenError) : Inv (Server.start openError) := by
  cases openError with
  | none =>
    exact fun _ => Pipeline.of_quiet rfl rfl (fun _ => rfl) (fun _ => rfl) (fun _ => rfl) rfl rfl
      rfl rfl rfl
  | some e => cases e <;> exact fun h => absurd h (not_alive_of_cancelled rfl Phase.noConfusion)

theorem inv_step (x : Server) (e : Event) (x' : Server) (h : Inv x)
    (hstep : Server.step x e = some x') : Inv x' := by
  intro hx'
  have hx := h (alive_of_step hstep hx')
  exact pipeline_of_move hx (move_of_step hx hstep hx')

/-- **The invariant of the loop.** -/
theorem pipeline_of_run {openError : Option OpenError} {es : List Event} {x : Server}
    (hrun : Runs.run Server.step (Server.start openError) es = some x) (hx : Alive x) :
    Pipeline x.view :=
  Runs.inv_of_run inv_step (inv_start openError) hrun hx

/-! ## An exchange -/

/-- One client request that is forwarded to the SPIDR, up to the start of the read. -/
def forwardedRequest (request : List Byte) : List Event :=
  [.iterate {}, .connected none {}, .idle, .client (some request) [], .iterate {}, .sent none 20]

end TpxServer.Comms
