import TpxServer.Comms.Requests

/-!
# Success replies

The handler of a response is chosen by the command id in the response, and neither this id is
compared with that of the command sent nor the error word looked at, except for a message. So the
client is told of a success by any known packet of the right length.
-/

namespace TpxServer.Comms

open TimepixConnectionManager PythonConnectionManager

/-! ## Requests and replies -/

/-- The code of the last request, and the SPIDR command it is forwarded as. -/
def forwarded (v : View) : Option (ServerCommand × TpxCommand) :=
  v.client.mCommandSocket.received.getLast?.bind fun msg =>
    ((COMMAND_MAP.lookup (requestCode msg)).bind handlerCommand).map fun k => (requestCode msg, k)

/-- The request with code `c`, forwarded as `k`, is not answered yet and its connection not given
up. -/
structure Awaits (x : Server) (c : ServerCommand) (k : TpxCommand) : Prop where
  owed : x.view.client.mCommandSocket.replyOwed = true
  current : x.view.renew = false
  forwarded : forwarded x.view = some (c, k)
  no_reset : k ≠ .CMD_RESET_MODULE

/-- The response to `k` has its command id with the reply bit, no error, and the prescribed
length. -/
structure SoundFor (k : TpxCommand) (bytes : List Byte) : Prop where
  reply : responseWord bytes 0 &&& TpxCommand.CMD_REPLY.code ≠ 0
  command : responseCommand bytes = k
  no_error : responseWord bytes 2 = 0
  received : responseSize bytes ≤ bytes.length
  length : HANDLER_MAP.lookup k = some (responseData bytes).length

/-- **Sound reply.** An error code, or the code of the request with the payload of a sound response
that was just read. -/
def SoundReply (c : ServerCommand) (k : TpxCommand) (e : Event) (reply : List Byte) : Prop :=
  (∃ err ∈ ServerCommand.ERROR_CODES, reply = wordsToBytes [err.code]) ∨
    ∃ bytes ∈ e.response, SoundFor k bytes ∧ reply = wordsToBytes (c.code :: responseData bytes)

def Event.isRead : Event → Bool
  | .received _ _ => true
  | _ => false

/-- While a request waits, a read gives it a sound reply, and any other event none or a sound
one. -/
def AnswersSoundly (x : Server) (e : Event) : Prop :=
  ∀ c k, Awaits x c k → ∀ x', Server.step x e = some x' →
    (e.isRead = false ∧
      x'.view.client.mCommandSocket.sent = x.view.client.mCommandSocket.sent) ∨
    ∃ reply, x'.view.client.mCommandSocket.sent = x.view.client.mCommandSocket.sent ++ [reply] ∧
      SoundReply c k e reply

/-- What is read is a complete packet of a known command; if it has the length for its command, it
is that of the request and has no error. -/
def SoundResponse (x : Server) (e : Event) : Prop :=
  ∀ bytes ∈ e.response, ∀ c k, Awaits x c k →
    CompletePacket bytes ∧ ∃ sz, HANDLER_MAP.lookup (responseCommand bytes) = some sz ∧
      ((responseData bytes).length = sz → responseCommand bytes = k ∧ responseWord bytes 2 = 0)

instance (x : Server) (e : Event) : Decidable (SoundResponse x e) :=
  decidable_of_iff (∀ bytes ∈ e.response, ∀ p ∈ forwarded x.view,
      (x.view.client.mCommandSocket.replyOwed = true ∧ x.view.renew = false ∧
        p.2 ≠ .CMD_RESET_MODULE) →
      CompletePacket bytes ∧ ∃ sz ∈ HANDLER_MAP.lookup (responseCommand bytes),
        ((responseData bytes).length = sz →
          responseCommand bytes = p.2 ∧ responseWord bytes 2 = 0))
    ⟨fun h bytes hbytes c k hawaits => h bytes hbytes (c, k) hawaits.forwarded
        ⟨hawaits.owed, hawaits.current, hawaits.no_reset⟩,
      fun h bytes hbytes p hp hawaits =>
        h bytes hbytes p.1 p.2 ⟨hawaits.1, hawaits.2.1, hp, hawaits.2.2⟩⟩

/-- No response is empty. -/
theorem one_le_of_lookup {k : TpxCommand} {sz : ℕ} (h : HANDLER_MAP.lookup k = some sz) :
    1 ≤ sz := by
  have hall : ∀ p ∈ HANDLER_MAP, 1 ≤ p.2 := by decide
  exact hall _ (mem_of_lookup h)

theorem forwarded_of_queuedBy {v : View} {info : TimepixCommandInfo} (h : QueuedBy v info) :
    forwarded v = some (v.client.mLastCommand, info.command) := by
  obtain ⟨msg, handler, hlast, hlookup, hcommand, hcode⟩ := h.request
  unfold forwarded
  rw [hlast, Option.bind_some, hlookup, Option.bind_some, hcommand, Option.map_some, hcode]

/-! ## Replies to a response -/

theorem sent_answered (client : PythonConnectionManager) (sz : ℕ) (data : DataVec) :
    (client.answered sz data).mCommandSocket.sent = client.mCommandSocket.sent ++
      [if data.length = sz then wordsToBytes (client.mLastCommand.code :: data)
        else wordsToBytes [ServerCommand.INVALID_COMMAND_DATA.code]] := by
  unfold PythonConnectionManager.answered
  by_cases hlen : data.length = sz
  · rw [if_neg (not_not.mpr hlen), if_pos hlen]
    rfl
  · rw [if_pos hlen, if_neg hlen]
    rfl

/-- A success reply is sound exactly when the response is that to the request. -/
theorem sound_success_iff {c : ServerCommand} {k : TpxCommand} {bytes : List Byte}
    (hcomplete : CompletePacket bytes)
    (hlookup : HANDLER_MAP.lookup (responseCommand bytes) = some (responseData bytes).length) :
    SoundReply c k (.received none bytes) (wordsToBytes (c.code :: responseData bytes)) ↔
      responseCommand bytes = k ∧ responseWord bytes 2 = 0 := by
  constructor
  · rintro (⟨err, -, heq⟩ | ⟨bytes', hbytes, hsound, -⟩)
    · -- an error code comes without data
      have hlen := congrArg List.length heq
      have hpos := one_le_of_lookup hlookup
      rw [length_wordsToBytes, length_wordsToBytes, List.length_cons, List.length_singleton] at hlen
      omega
    · cases hbytes
      exact ⟨hsound.command, hsound.no_error⟩
  · rintro ⟨hcommand, herror⟩
    refine Or.inr ⟨bytes, rfl, ?_, rfl⟩
    exact {
      reply := hcomplete.reply
      command := hcommand
      no_error := herror
      received := hcomplete.size_le
      length := by rw [← hcommand, hlookup] }

/-- The reply to a packet of a known command is sound exactly when it reports an error, or the
response is that to the request. -/
theorem sound_answered_iff {c : ServerCommand} {k : TpxCommand} {bytes : List Byte} {sz : ℕ}
    (hcomplete : CompletePacket bytes)
    (hlookup : HANDLER_MAP.lookup (responseCommand bytes) = some sz)
    {client : PythonConnectionManager} (hc : client.mLastCommand = c) :
    (∃ reply, (client.answered sz (responseData bytes)).mCommandSocket.sent =
        client.mCommandSocket.sent ++ [reply] ∧ SoundReply c k (.received none bytes) reply) ↔
      ((responseData bytes).length = sz →
        responseCommand bytes = k ∧ responseWord bytes 2 = 0) := by
  rw [sent_answered, hc]
  by_cases hlen : (responseData bytes).length = sz
  · rw [if_pos hlen, ← sound_success_iff hcomplete (hlookup.trans (congrArg some hlen.symm))]
    constructor
    · rintro ⟨reply, hreply, hsound⟩ -
      cases List.append_cancel_left hreply
      exact hsound
    · exact fun hsound => ⟨_, rfl, hsound hlen⟩
  · rw [if_neg hlen]
    refine iff_of_true ⟨_, rfl, Or.inl ⟨.INVALID_COMMAND_DATA, ?_, rfl⟩⟩ fun h => absurd h hlen
    exact List.mem_cons_self

section Response

variable {x x' : Server} {c : ServerCommand} {k : TpxCommand} {bytes : List Byte}

/-- **The end of a read.** -/
theorem sound_received_iff (h : Pipeline x.view) (hawaits : Awaits x c k)
    (hstep : Server.step x (.received none bytes) = some x') :
    (∃ reply, x'.view.client.mCommandSocket.sent = x.view.client.mCommandSocket.sent ++ [reply] ∧
        SoundReply c k (.received none bytes) reply) ↔
      CompletePacket bytes ∧ ∃ sz, HANDLER_MAP.lookup (responseCommand bytes) = some sz ∧
        ((responseData bytes).length = sz →
          responseCommand bytes = k ∧ responseWord bytes 2 = 0) := by
  have hunanswered : x'.view.client = x.view.client →
      ¬ ∃ reply, x'.view.client.mCommandSocket.sent =
          x.view.client.mCommandSocket.sent ++ [reply] ∧
        SoundReply c k (.received none bytes) reply := by
    rintro hclient ⟨reply, hsent, -⟩
    rw [hclient] at hsent
    exact List.cons_ne_nil _ _ (List.self_eq_append_right.mp hsent)
  by_cases hcomplete : CompletePacket bytes
  · have hview := view_of_complete h hstep hcomplete
    unfold View.processed at hview
    cases hlookup : HANDLER_MAP.lookup (responseCommand bytes) with
    | none =>
      rw [hlookup] at hview
      refine iff_of_false (hunanswered (by rw [hview])) ?_
      rintro ⟨-, sz, hsz, -⟩
      cases hsz
    | some sz =>
      rw [hlookup] at hview
      obtain ⟨-, hread, -⟩ := step_received hstep
      obtain ⟨info, -, hinfo⟩ := h.queue_eq (h.executing_of_reading hread)
      have hc : x.view.client.mLastCommand = c := by
        have hforwarded := (forwarded_of_queuedBy hinfo).symm.trans hawaits.forwarded
        exact congrArg Prod.fst (Option.some.inj hforwarded)
      rw [hview]
      dsimp only
      rw [sound_answered_iff hcomplete hlookup hc]
      constructor
      · exact fun hsound => ⟨hcomplete, sz, rfl, hsound⟩
      · rintro ⟨-, sz', hsz, hsound⟩
        cases hsz
        exact hsound
  · obtain ⟨-, -, hview⟩ := view_of_incomplete h hstep hcomplete
    exact iff_of_false (hunanswered (by rw [hview])) fun hgood => hcomplete hgood.1

end Response

/-! ## The other events -/

/-- Nothing was sent since, or an error code. -/
def SentOrError (sent : List (List Byte)) (s : CommsThread) : Prop :=
  s.mClientManager.mCommandSocket.sent = sent ∨
    s.mClientManager.mCommandSocket.sent =
      sent ++ [wordsToBytes [ServerCommand.ERROR_OCCURED.code]]

section Sent

variable {sent : List (List Byte)} {s : CommsThread}

theorem sentOrError_cancelThread (h : SentOrError sent s) (thread : Option ℕ) :
    (s.cancelThread thread).All (SentOrError sent) := by
  rcases CommsThread.cancelThread_cases (s := s) thread with hundef | hok
  · rw [hundef]
    trivial
  · rw [hok]
    exact h

theorem sentOrError_closeThreads (h : SentOrError sent s) :
    (Server.closeThreads s).All (SentOrError sent) := by
  refine (sentOrError_cancelThread h _).andThen fun s hs => ?_
  refine (sentOrError_cancelThread hs _).andThen fun s hs => ?_
  exact (sentOrError_cancelThread hs _).andThen fun s hs => hs

theorem sentOrError_clearAnyClientRequest (s : CommsThread) :
    (clearAnyClientRequest s).All (SentOrError s.mClientManager.mCommandSocket.sent) := by
  unfold clearAnyClientRequest
  split
  · exact Or.inl rfl
  · refine Outcome.All.andThen ?_ fun s hs => hs
    unfold onLastCommandSource
    split
    · trivial
    · split
      · unfold PythonConnectionManager.sendError sendResponse PythonConnectionManager.send
        split
        · exact Or.inl rfl
        · exact Or.inr rfl
      · trivial

/-- Leaving the loop. -/
theorem sentOrError_shutdown (s : CommsThread) :
    SentOrError s.mClientManager.mCommandSocket.sent (Server.shutdown s).thread := by
  have hall : ((clearAnyClientRequest s).andThen fun s =>
      Server.closeThreads (terminateConnection s)).All
        (SentOrError s.mClientManager.mCommandSocket.sent) :=
    (sentOrError_clearAnyClientRequest s).andThen fun _ hs => sentOrError_closeThreads hs
  unfold Server.shutdown
  split
  · rename_i t ht
    rw [ht] at hall
    exact hall
  · rename_i e t ht
    rw [ht] at hall
    exact hall
  · exact Or.inl rfl

end Sent

/-- A network error while nobody waits for a response sends nothing. -/
theorem client_callback_throws {s s₀ : CommsThread}
    (hsource : s.mTpxManager.mLastCommandSource = none) (code : ErrorCode) :
    (Server.callback (.throws (.system_error code) s) s₀).thread.mClientManager =
      s.mClientManager := by
  show (Server.resume (Outcome.catching (.throws (.system_error code) s) networkError)
    Server.afterPoll s₀).thread.mClientManager = _
  rw [Outcome.throws_catching (h := _) rfl]
  unfold clearAnyClientRequest
  rw [if_pos]
  · rfl
  · exact hsource

theorem client_connected {s : CommsThread} (h : Pipeline (s.view .asio))
    (hconn : s.mTpxManager.pendingConnect = true) (err : Option ErrorCode) (attempt : Attempt) :
    (Server.callback (initializeConnection err attempt (Server.takeConnect s))
      (Server.takeConnect s)).thread.mClientManager = s.mClientManager := by
  have hsource := (h.waiting (h.not_executing_of_not_connected (h.connecting hconn))).1
  cases err with
  | some code =>
    rw [initializeConnection_error (s := Server.takeConnect s) h.alive]
    apply client_callback_throws
    exact hsource
  | none =>
    rw [initializeConnection_eq (s := Server.takeConnect s) h.alive]
    cases attempt.readError with
    | some code =>
      apply client_callback_throws
      exact hsource
    | none => rfl

/-- The beginning of a poll sends nothing for a request that is not a reset. -/
theorem client_beginPoll {s : CommsThread} (h : Pipeline (s.view .head)) {c : ServerCommand}
    {k : TpxCommand} (hforwarded : forwarded (s.view .head) = some (c, k))
    (hk : k ≠ .CMD_RESET_MODULE) (attempt : Attempt) :
    (Server.beginPoll attempt s).thread.mClientManager = s.mClientManager := by
  unfold Server.beginPoll
  cases hnext : nextCommand s with
  | none => rfl
  | some info =>
    obtain ⟨-, -, hinfo⟩ := queue_of_nextCommand h hnext
    have hcommand : info.command = k :=
      congrArg Prod.snd (Option.some.inj ((forwarded_of_queuedBy hinfo).symm.trans hforwarded))
    dsimp only
    rw [if_neg (by rw [hcommand]; exact hk)]
    rcases pollQueue_cases h.alive info .asio with ⟨-, hundef⟩ | ⟨t, -, hok, hview⟩
    · rw [hundef]
      rfl
    · rw [hok]
      exact congrArg View.client hview

/-- While a request waits, an event other than the end of a read sends at most an error. -/
theorem sentOrError_of_not_read {x x' : Server} {e : Event} {c : ServerCommand} {k : TpxCommand}
    (hinv : Inv x) (hawaits : Awaits x c k) (hread : e.isRead = false)
    (hstep : Server.step x e = some x') :
    SentOrError x.thread.mClientManager.mCommandSocket.sent x'.thread := by
  obtain ⟨phase, s⟩ := x
  unfold Server.step at hstep
  dsimp only at hstep
  split at hstep
  · cases hstep
  · cases hstep
  · cases hstep
    exact Or.inl rfl
  · split at hstep
    · cases hstep
      exact Or.inl rfl
    · cases hstep
  · cases hcancel : s.mShouldCancel with
    | true =>
      rw [if_pos hcancel] at hstep
      cases hstep
      exact sentOrError_shutdown s
    | false =>
      rw [if_neg (ne_true_of_eq_false hcancel), renewClient_eq hawaits.current] at hstep
      cases hstep
      have h := hinv ⟨Or.inr hcancel, Phase.noConfusion, Phase.noConfusion⟩
      left
      rw [client_beginPoll h hawaits.forwarded hawaits.no_reset]
  · split at hstep
    · rename_i hconn
      cases hstep
      left
      rw [client_connected (hinv (alive_of_asio rfl)) hconn]
    · cases hstep
  · split at hstep
    · cases hstep
      rw [commandSent_eq (s := Server.takeSend s) (hinv (alive_of_asio rfl)).alive]
      exact Or.inl rfl
    · cases hstep
  · cases hread
  · cases hstep
    exact Or.inl rfl
  · rename_i request answer
    cases hstep
    rcases poll_owed hawaits.owed request answer with hundef | ⟨str, threads, hok⟩
    · rw [hundef]
      exact Or.inl rfl
    · rw [hok]
      exact Or.inl rfl
  · cases hstep

/-! ## Whole runs -/

theorem error_occured_mem : ServerCommand.ERROR_OCCURED ∈ ServerCommand.ERROR_CODES := by decide

/-- **One step.** -/
theorem answersSoundly_iff {x x' : Server} {e : Event} (hinv : Inv x)
    (hstep : Server.step x e = some x') : AnswersSoundly x e ↔ SoundResponse x e := by
  constructor
  · intro h bytes hbytes c k hawaits
    cases Event.eq_received hbytes
    obtain ⟨hphase, -⟩ := step_received hstep
    refine (sound_received_iff (hinv (alive_of_asio hphase)) hawaits hstep).mp ?_
    exact (h c k hawaits x' hstep).resolve_left fun hread => Bool.noConfusion hread.1
  · intro h c k hawaits y hy
    cases hread : e.isRead with
    | false =>
      rcases sentOrError_of_not_read hinv hawaits hread hy with hsent | hsent
      · exact Or.inl ⟨rfl, hsent⟩
      · exact Or.inr ⟨_, hsent, Or.inl ⟨_, error_occured_mem, rfl⟩⟩
    | true =>
      cases e with
      | received err bytes =>
        obtain ⟨hphase, -⟩ := step_received hy
        have hpipeline := hinv (alive_of_asio hphase)
        cases err with
        | none =>
          exact Or.inr ((sound_received_iff hpipeline hawaits hy).mpr (h bytes rfl c k hawaits))
        | some code =>
          obtain ⟨-, -, hsocket⟩ := step_read_error hpipeline hy
          exact Or.inr ⟨_, congrArg RepSocket.sent hsocket, Or.inl ⟨_, error_occured_mem, rfl⟩⟩
      | cancel => cases hread
      | finish id => cases hread
      | iterate attempt => cases hread
      | connected err attempt => cases hread
      | sent err bytes_sent => cases hread
      | idle => cases hread
      | client request answer => cases hread

/-- **Success replies are sound** in exactly the runs in which every read that a request waits for
gives a complete packet of a known command, which is of the wrong length or, with the command id of
the request, free of errors. -/
theorem answers_soundly_iff (openError : Option OpenError) (es : List Event) (x : Server)
    (hrun : Runs.run Server.step (Server.start openError) es = some x) :
    Runs.EachStep Server.step AnswersSoundly (Server.start openError) es ↔
      Runs.EachStep Server.step SoundResponse (Server.start openError) es := by
  apply Runs.eachStep_congr inv_step ?_ (inv_start openError) hrun
  exact fun y e y' hinv hstep => answersSoundly_iff hinv hstep

theorem answers_soundly_iff_nop : Runs.EachStep Server.step AnswersSoundly (Server.start none)
    (forwardedRequest [0, 0, 0, 0] ++ [.received none nopResponse]) := by
  refine (answers_soundly_iff none _ _ rfl).mpr ?_
  decide +kernel

/-- The SPIDR reports the error `ERR_UNKNOWN_CMD` for `CMD_GET_SOFTWVERSION`. -/
def failedResponse : List Byte :=
  [0, 1, 9, 1] ++ [0, 0, 0, 20] ++ [0, 0, 0, 1] ++ [0, 0, 0, 0] ++ [0, 0, 0, 7]

/-- The client is told that the software version is 7. -/
theorem failed_command_succeeds : ∃ x,
    Runs.run Server.step (Server.start none)
      (forwardedRequest [1, 0, 0, 0] ++ [.received none failedResponse]) = some x ∧
    x.view.client.mCommandSocket.sent =
      [wordsToBytes [ServerCommand.GET_SOFTWARE_VERSION.code, 7]] ∧
    responseWord failedResponse 2 ≠ 0 := by
  refine ⟨_, rfl, rfl, ?_⟩
  decide

end TpxServer.Comms
