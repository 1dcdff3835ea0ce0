import TpxServer.Comms.Loop

/-!
# What the functions leave alone

A property of the thread that survives the elementary writes of the managers survives every call of
their functions. The functions of the Timepix manager write to both managers and signal to the user
(`TpxFrame`). Those of the client manager also forward requests and start and cancel the UDP thread
(`ClientFrame`). No function but `sendCommand` writes to the command buffer.
-/

namespace TpxServer.Comms

open TimepixConnectionManager PythonConnectionManager

/-- The writes of the Timepix manager. -/
structure TpxFrame (P : CommsThread → Prop) : Prop where
  client : ∀ {s}, P s → ∀ c, P (s.withClient c)
  signal : ∀ {s}, P s → ∀ x, P (s.signal x)
  cancel : ∀ {s}, P s → P s.cancel
  tpx : ∀ {s}, P s → ∀ t, t.mCommandBuffer = s.mTpxManager.mCommandBuffer → P (s.withTpx t)

/-- The writes of the client manager, and the end of a secondary thread. -/
structure ClientFrame (P : CommsThread → Prop) : Prop extends TpxFrame P where
  renew : ∀ {s}, P s → ∀ b, P { s with mShouldResetClient := b }
  requests : ∀ {s}, P s → ∀ requests,
    P { s with threads := { s.threads with requests := requests } }
  finished : ∀ {s}, P s → ∀ finished,
    P { s with threads := { s.threads with finished := finished } }
  bind : ∀ {s}, P s → s.bindUdpPort.All P
  reset : ∀ {s}, P s → s.resetClientConnection.All P

/-! ## The end of the loop -/

theorem phase_shutdown (s : CommsThread) :
    (Server.shutdown s).phase = .stopped ∨ (Server.shutdown s).phase = .undefined := by
  unfold Server.shutdown
  split
  · exact Or.inl rfl
  · exact Or.inl rfl
  · exact Or.inr rfl

theorem phase_handleException (e : Exn) (s : CommsThread) :
    (Server.handleException e s).phase = .stopped ∨
      (Server.handleException e s).phase = .undefined := by
  cases e with
  | system_error code => exact phase_shutdown _
  | error_t num what => exact phase_shutdown _
  | std_exception what => exact phase_shutdown _

/-- The loop has not been left. -/
theorem all_resume {P : CommsThread → Prop} {s : CommsThread} {o : Result}
    {k : CommsThread → Server} (ho : o.All P) (hk : ∀ s, P s → P (k s).thread)
    (hstopped : (Server.resume o k s).phase ≠ .stopped)
    (hundef : (Server.resume o k s).phase ≠ .undefined) : P (Server.resume o k s).thread := by
  cases o with
  | ok t => exact hk t ho
  | throws e t =>
    rcases phase_handleException e t with h | h
    · exact absurd h hstopped
    · exact absurd h hundef
  | undefined => exact absurd rfl hundef

/-! ## The functions of the Timepix manager -/

theorem all_onLastCommandSource {P : CommsThread → Prop} {f : CommsThread → Result}
    {s : CommsThread} (hf : (f s).All P) : (onLastCommandSource f s).All P := by
  unfold onLastCommandSource
  split
  · trivial
  · split
    · exact hf
    · trivial

namespace TpxFrame

variable {P : CommsThread → Prop} (hP : TpxFrame P) {s : CommsThread}
include hP

theorem send (h : P s) (msg : List Byte) : (PythonConnectionManager.send msg s).All P := by
  unfold PythonConnectionManager.send
  split
  · exact h
  · exact hP.client h _

theorem sendResponse (h : P s) (data : DataVec) :
    (PythonConnectionManager.sendResponse data s).All P := hP.send h _

theorem sendError (h : P s) (errcode : ServerCommand) :
    (PythonConnectionManager.sendError errcode s).All P := hP.sendResponse (hP.client h _) []

theorem terminateConnection (h : P s) : P (terminateConnection s) := hP.tpx h _ rfl

theorem initializeConnection (h : P s) (err : Option ErrorCode) (attempt : Attempt) :
    (initializeConnection err attempt s).All P := by
  unfold TimepixConnectionManager.initializeConnection
  split
  · exact h
  · split
    · exact h
    · dsimp only
      split
      · exact hP.tpx h _ rfl
      · apply hP.signal
        exact hP.tpx h _ rfl

theorem attemptConnection (h : P s) (wait : Bool) (attempt : Attempt) :
    (attemptConnection wait attempt s).All P := by
  unfold TimepixConnectionManager.attemptConnection
  refine Outcome.All.catching ?_ ?_
  · have h' := hP.tpx h { s.mTpxManager with
      pendingConnect := false, pendingSend := none, pendingRead := false } rfl
    have h'' := hP.signal h' (.log "Connecting to Timepix...")
    dsimp only
    split
    · exact h'
    · exact h''
    · split
      · split
        · exact h''
        · exact hP.initializeConnection h'' none attempt
      · exact hP.tpx h'' _ rfl
  · intro e f hf t ht
    cases e with
    | system_error code =>
      cases hf
      exact hP.cancel (hP.signal (hP.signal ht _) _)
    | error_t num what => cases hf
    | std_exception what => cases hf

theorem commandSent (h : P s) (err : Option ErrorCode) (bytes_sent : ℕ) :
    (commandSent err bytes_sent s).All P := by
  unfold TimepixConnectionManager.commandSent
  split
  · exact h
  · exact hP.tpx h _ rfl

theorem genericHandler (h : P s) (sz : ℕ) (data : DataVec) : (genericHandler sz data s).All P := by
  unfold TimepixConnectionManager.genericHandler
  split
  · exact all_onLastCommandSource (hP.sendError h _)
  · exact all_onLastCommandSource (hP.sendResponse h _)

theorem finishCommand (h : P s) : (finishCommand s).All P := by
  unfold TimepixConnectionManager.finishCommand
  split
  · trivial
  · exact hP.tpx h _ rfl

theorem processRecv (h : P s) (cmd : TpxCommand) (data : DataVec) :
    (processRecv cmd data s).All P := by
  unfold TimepixConnectionManager.processRecv
  split
  · exact h
  · split
    · exact h
    · refine Outcome.All.andThen ?_ fun s hs => hP.finishCommand hs
      split
      · exact hP.signal h _
      · exact hP.genericHandler h _ data

theorem reportError (h : P s) {buffer : List Byte} {s' : CommsThread}
    (herr : reportError buffer s = some s') : P s' := by
  unfold TimepixConnectionManager.reportError at herr
  dsimp only at herr
  split at herr
  · cases herr
    exact h
  · obtain ⟨str, -, rfl⟩ := Option.map_eq_some_iff.mp herr
    exact hP.signal h _

theorem commandRecv (h : P s) (err : Option ErrorCode) (bytes_received : ℕ) :
    (commandRecv err bytes_received s).All P := by
  unfold TimepixConnectionManager.commandRecv
  split
  · exact h
  · split
    · exact h
    · dsimp only
      split
      · exact hP.signal h _
      · split
        · exact hP.signal h _
        · split
          · trivial
          · rename_i s' herr
            have h' := hP.reportError h herr
            split
            · exact hP.signal h' _
            · split
              · exact hP.signal h' _
              · split
                · trivial
                · exact hP.processRecv h' _ _

theorem clearAnyClientRequest (h : P s) : (clearAnyClientRequest s).All P := by
  unfold TimepixConnectionManager.clearAnyClientRequest
  split
  · exact h
  · refine (all_onLastCommandSource (hP.sendError h _)).andThen fun s hs => ?_
    exact hP.tpx hs _ rfl

theorem networkError {e : Exn} {f : CommsThread → Result} (hf : networkError e = some f)
    (h : P s) : (f s).All P := by
  cases e with
  | system_error code =>
    cases hf
    apply hP.clearAnyClientRequest
    apply hP.cancel
    exact hP.terminateConnection (hP.signal (hP.signal h _) _)
  | error_t num what => cases hf
  | std_exception what => cases hf

theorem resetModule (h : P s) (attempt : Attempt) : (resetModule attempt s).All P := by
  unfold TimepixConnectionManager.resetModule
  refine (all_onLastCommandSource (hP.sendResponse (hP.terminateConnection h) [])).andThen
    fun s hs => ?_
  apply hP.attemptConnection
  refine hP.tpx (hP.signal (s := s.withTpx { s.mTpxManager with
    mQueuedCommands := s.mTpxManager.mQueuedCommands.tail }) ?_ _) _ rfl
  exact hP.tpx hs _ rfl

end TpxFrame

/-! ## The functions of the client manager -/

/-- A property that does not depend on the secondary threads at all. -/
theorem clientFrame_of_threads {P : CommsThread → Prop} (hP : TpxFrame P)
    (renew : ∀ {s}, P s → ∀ b, P { s with mShouldResetClient := b })
    (threads : ∀ {s}, P s → ∀ threads, P { s with threads := threads }) : ClientFrame P := by
  have hcancel : ∀ {s : CommsThread}, P s → ∀ thread, (s.cancelThread thread).All P := by
    intro s h thread
    rcases CommsThread.cancelThread_cases (s := s) thread with hundef | hok
    · rw [hundef]
      trivial
    · rw [hok]
      exact threads h _
  exact { hP with
    renew := renew
    requests := fun h _ => threads h _
    finished := fun h _ => threads h _
    bind := fun h => (hcancel h _).andThen fun s hs => threads hs _
    reset := fun h => (hcancel (renew h true) _).andThen fun s hs =>
      (hcancel hs _).andThen fun s hs => threads hs _ }

namespace ClientFrame

variable {P : CommsThread → Prop} (hP : ClientFrame P) {s : CommsThread}
include hP

theorem forward (h : P s) (socket : Option ReqSocket) (msg answer : List Byte) :
    (forwardToSecondaryThread socket msg answer s).All P := by
  unfold forwardToSecondaryThread
  refine Outcome.All.catching ?_ ?_
  · dsimp only
    split
    · exact hP.sendError h _
    · split
      · exact hP.sendError h _
      · exact hP.send (hP.requests h _) answer
  · intro e f hf t ht
    cases hf
    exact ht

theorem callHandler (h : P s) (handler : ClientHandler) (data : DataVec) :
    (callHandler handler data s).All P := by
  cases handler with
  | genericForward sz cmd =>
    show (genericForward sz cmd data s).All P
    unfold genericForward
    split
    · exact hP.sendError (hP.signal h _) _
    · exact hP.tpx h _ rfl
  | sendPixelConfigData =>
    show (sendPixelConfigData data s).All P
    unfold sendPixelConfigData
    split
    · exact hP.sendError h _
    · exact hP.tpx h _ rfl
  | bindUdpPort =>
    show (bindUdpPort data s).All P
    unfold bindUdpPort
    split
    · exact hP.sendError h _
    · exact (hP.bind h).andThen fun s hs => hP.sendResponse hs []

theorem handleCommand (h : P s) (command answer : List Byte) :
    (handleCommand command answer s).All P := by
  rcases handleCommand_dispatch command answer s with
    ⟨handler, -, heq⟩ | ⟨-, heq | heq | ⟨errcode, heq⟩ | ⟨socket, heq⟩⟩
  · rw [heq]
    exact hP.callHandler (hP.client h _) _ _
  · rw [heq]
    trivial
  · rw [heq]
    exact h
  · rw [heq]
    exact hP.sendError h _
  · rw [heq]
    exact hP.forward h _ _ _

theorem poll (h : P s) (request : Option (List Byte)) (answer : List Byte) :
    (PythonConnectionManager.poll request answer s).All P := by
  unfold PythonConnectionManager.poll
  refine Outcome.All.catching ?_ ?_
  · dsimp only
    split
    · exact h
    · cases request with
      | none => exact h
      | some msg => exact hP.handleCommand (hP.client h _) msg answer
  · intro e f hf t ht
    cases e with
    | error_t num what =>
      cases hf
      exact hP.reset (hP.client (hP.signal ht _) _)
    | system_error code => cases hf
    | std_exception what => cases hf

/-! ## The loop -/

theorem callback {o : Result} (ho : o.All P) (hstopped : (Server.callback o s).phase ≠ .stopped)
    (hundef : (Server.callback o s).phase ≠ .undefined) : P (Server.callback o s).thread := by
  have hcaught : (o.catching TimepixConnectionManager.networkError).All P :=
    ho.catching fun e f hf t ht => hP.networkError hf ht
  cases o with
  | ok t => exact ho
  | throws e t => exact all_resume hcaught (fun s hs => hs) hstopped hundef
  | undefined => exact absurd rfl hundef

/-- A step other than the begin of an iteration. -/
theorem step {x x' : Server} {e : Event} (he : ∀ attempt, e ≠ .iterate attempt) (h : P x.thread)
    (hstep : Server.step x e = some x') (hstopped : x'.phase ≠ .stopped)
    (hundef : x'.phase ≠ .undefined) : P x'.thread := by
  obtain ⟨phase, s⟩ := x
  unfold Server.step at hstep
  dsimp only at hstep
  split at hstep
  · cases hstep
  · cases hstep
  · cases hstep
    exact hP.cancel h
  · split at hstep
    · cases hstep
      exact hP.finished h _
    · cases hstep
  · exact absurd rfl (he _)
  · split at hstep
    · cases hstep
      have h' : P (Server.takeConnect s) := hP.tpx h _ rfl
      exact hP.callback (hP.initializeConnection h' _ _) hstopped hundef
    · cases hstep
  · split at hstep
    · cases hstep
      have h' : P (Server.takeSend s) := hP.tpx h _ rfl
      exact hP.callback (hP.commandSent h' _ _) hstopped hundef
    · cases hstep
  · split at hstep
    · rename_i err bytes hread
      cases hstep
      have h' : P (Server.takeRead bytes s) := hP.tpx h _ rfl
      exact hP.callback (hP.commandRecv h' _ _) hstopped hundef
    · cases hstep
  · cases hstep
    exact h
  · cases hstep
    exact all_resume (hP.poll h _ _) (fun s hs => hs) hstopped hundef
  · cases hstep

/-- The begin of an iteration, for a property that does not depend on the Timepix manager. -/
theorem iterate (htpx : ∀ {s}, P s → ∀ t, P (s.withTpx t)) {x x' : Server} {attempt : Attempt}
    (h : P x.thread) (hstep : Server.step x (.iterate attempt) = some x')
    (hstopped : x'.phase ≠ .stopped) (hundef : x'.phase ≠ .undefined) : P x'.thread := by
  obtain ⟨phase, s⟩ := x
  cases phase with
  | head =>
    unfold Server.step at hstep
    dsimp only at hstep
    cases hstep
    split at hstopped
    · rcases phase_shutdown s with hphase | hphase
      · exact absurd hphase hstopped
      · rename_i hcancel
        rw [if_pos hcancel] at hundef
        exact absurd hphase hundef
    · rename_i hcancel
      rw [if_neg hcancel] at hundef ⊢
      have hrenew : P (Server.renewClient s) := by
        unfold Server.renewClient
        split
        · exact hP.renew (s := s.withClient { id := s.mClientManager.id + 1 }) (hP.client h _) false
        · exact h
      have hsend : ∀ info, (pollQueue info (Server.renewClient s)).All P := by
        intro info
        unfold pollQueue
        refine Outcome.All.andThen ?_ fun s hs => htpx hs _
        unfold sendCommand
        split
        · exact hrenew
        · dsimp only
          split
          · trivial
          · exact htpx hrenew _
      unfold Server.beginPoll at hstopped hundef ⊢
      cases hnext : nextCommand (Server.renewClient s) with
      | none => exact hrenew
      | some info =>
        rw [hnext] at hstopped hundef
        dsimp only at hstopped hundef ⊢
        by_cases hreset : info.command = .CMD_RESET_MODULE
        · rw [if_pos hreset] at hstopped hundef ⊢
          refine all_resume ?_ (fun s hs => hs) hstopped hundef
          exact ((hsend info).andThen fun s hs => hP.resetModule hs attempt).catching
            fun e f hf t ht => hP.networkError hf ht
        · rw [if_neg hreset] at hstopped hundef ⊢
          refine all_resume ?_ (fun s hs => hs) hstopped hundef
          exact (hsend info).catching fun e f hf t ht => hP.networkError hf ht
  | asio => cases hstep
  | client => cases hstep
  | stopped => cases hstep
  | undefined => cases hstep

end ClientFrame

end TpxServer.Comms
