import TpxServer.Comms.Steps

/-!
# The command in flight

Until a command is over, the command buffer keeps the bytes that were sent for it. With the pipeline
invariant this settles what a response is taken for: an answer to the front of the queue, which is
the command that was sent, on behalf of the client manager that is there (`command_pipeline`).
-/

namespace TpxServer.Comms

open TimepixConnectionManager PythonConnectionManager

/-- The command buffer begins with the bytes of the command. -/
def Sent (x : Server) (info : TimepixCommandInfo) : Prop :=
  x.thread.mTpxManager.mCommandBuffer.take (messageSize info.data * 4) =
    wordsToBytes (message info.command info.data)

/-- A command that is executed was sent. -/
def InFlight (x : Server) : Prop := x.view.executing = true → ∀ info ∈ x.view.queue, Sent x info

theorem clientFrame_commandBuffer (buffer : List Byte) :
    ClientFrame fun s => s.mTpxManager.mCommandBuffer = buffer := by
  refine clientFrame_of_threads ?_ (fun h _ => h) (fun h _ => h)
  exact {
    client := fun h _ => h
    signal := fun h _ => h
    cancel := fun h => h
    tpx := fun h _ ht => ht.trans h }

/-! ## One step -/

/-- Commands are sent at the begin of an iteration only. -/
theorem executing_of_move {v v' : View} {e : Event} (h : Pipeline v) (hmove : Move v e v')
    (he : ∀ attempt, e ≠ .iterate attempt) (hexec : v'.executing = true) :
    v.executing = true ∧ v'.queue = v.queue := by
  cases hmove with
  | cancel hphase => exact ⟨hexec, rfl⟩
  | finish id => exact ⟨hexec, rfl⟩
  | begin attempt hphase hready => exact absurd rfl (he attempt)
  | send attempt info hphase hexec hqueue hcommand => exact absurd rfl (he attempt)
  | reset attempt info hphase hexec hqueue hcommand => exact absurd rfl (he attempt)
  | connected attempt hphase hconn => exact absurd hexec Bool.false_ne_true
  | sent err bytes_sent hphase hsend => exact ⟨hexec, rfl⟩
  | answer bytes sz hphase hread hcomplete hlookup => exact absurd hexec Bool.false_ne_true
  | lose bytes hphase hread hcomplete hlookup => exact absurd hexec Bool.false_ne_true
  | ignore bytes hphase hread hcomplete => exact ⟨hexec, rfl⟩
  | idle hphase => exact ⟨hexec, rfl⟩
  | noRequest answer hphase howed => exact ⟨hexec, rfl⟩
  | reply msg answer reply last hphase howed => exact ⟨hexec, rfl⟩
  | enqueue msg answer handler info hphase howed hconn hlookup hcommand hsender =>
    exact absurd hexec (ne_true_of_eq_false (h.client hphase).1)
  | giveUp request answer hphase howed => exact ⟨hexec, rfl⟩

/-- What `poll` sends is in the buffer. -/
theorem sent_pollQueue {s t : CommsThread} (halive : s.mTpxManager.mIsCancelled = false)
    {info : TimepixCommandInfo} (hok : pollQueue info s = .ok t) (phase : Phase) :
    Sent ⟨phase, t⟩ info ∧ t.mTpxManager.mQueuedCommands = s.mTpxManager.mQueuedCommands := by
  unfold pollQueue at hok
  rw [sendCommand_eq halive] at hok
  split at hok
  · cases hok
  · cases hok
    refine ⟨?_, rfl⟩
    apply take_fill
    rw [length_wordsToBytes, length_message, Nat.mul_comm]

/-- The begin of an iteration sends what it puts in execution. -/
theorem inFlight_iterate {x x' : Server} {attempt : Attempt} (h : Pipeline x.view)
    (hx : InFlight x) (hstep : Server.step x (.iterate attempt) = some x') (hx' : Alive x') :
    InFlight x' := by
  have hmove := move_of_step h hstep hx'
  have halive := alive_of_step hstep hx'
  obtain ⟨phase, s⟩ := x
  cases phase with
  | head =>
    have hcancel : s.mShouldCancel = false :=
      halive.not_cancelled.resolve_left Phase.noConfusion
    have hbegin : x' = Server.beginPoll attempt (Server.renewClient s) := by
      unfold Server.step at hstep
      dsimp only at hstep
      rw [if_neg (ne_true_of_eq_false hcancel)] at hstep
      exact (Option.some.inj hstep).symm
    unfold Server.beginPoll at hbegin
    rw [nextCommand_renewClient] at hbegin
    cases hnext : nextCommand s with
    | none =>
      -- the client manager may be renewed, but not the Timepix manager
      have htpx := tpxManager_renewClient s
      rw [hnext] at hbegin
      subst hbegin
      intro hexec info hinfo
      unfold Sent Server.view CommsThread.view at *
      dsimp only at *
      rw [htpx] at hexec hinfo ⊢
      exact hx hexec info hinfo
    | some info =>
      obtain ⟨-, hqueue, hinfo⟩ := queue_of_nextCommand h hnext
      rw [hnext, renewClient_eq hinfo.current] at hbegin
      dsimp only at hbegin
      by_cases hreset : info.command = .CMD_RESET_MODULE
      · -- nothing is executed after a reset
        generalize hv : x'.view = v' at hmove
        intro hexec
        rw [hv] at hexec
        cases hmove with
        | begin _ _ hready =>
          rw [nextCommand_eq_none_iff.mpr hready] at hnext
          cases hnext
        | send _ info' _ _ hqueue' hcommand =>
          cases hqueue'.symm.trans hqueue
          exact absurd hreset hcommand
        | reset => exact absurd hexec Bool.false_ne_true
      · rw [if_neg hreset] at hbegin
        rcases pollQueue_cases h.alive info .asio with ⟨-, hsend⟩ | ⟨t, -, hsend, -⟩
        · rw [hsend] at hbegin
          rw [hbegin] at hx'
          exact absurd rfl hx'.not_undefined
        · rw [hsend] at hbegin
          subst hbegin
          obtain ⟨hsent, hqueue'⟩ := sent_pollQueue h.alive hsend .asio
          intro _ info' hinfo'
          have hmem : info' ∈ t.mTpxManager.mQueuedCommands := hinfo'
          rw [hqueue', show s.mTpxManager.mQueuedCommands = [info] from hqueue,
            List.mem_singleton] at hmem
          subst hmem
          exact hsent
  | asio => cases hstep
  | client => cases hstep
  | stopped => cases hstep
  | undefined => cases hstep

/-- **One step.** -/
theorem inFlight_step {x x' : Server} {e : Event} (h : Pipeline x.view) (hx : InFlight x)
    (hstep : Server.step x e = some x') (hx' : Alive x') : InFlight x' := by
  by_cases he : ∃ attempt, e = .iterate attempt
  · obtain ⟨attempt, rfl⟩ := he
    exact inFlight_iterate h hx hstep hx'
  · have hne : ∀ attempt, e ≠ .iterate attempt := fun attempt heq => he ⟨attempt, heq⟩
    have hbuffer := (clientFrame_commandBuffer x.thread.mTpxManager.mCommandBuffer).step hne rfl
      hstep hx'.not_stopped hx'.not_undefined
    intro hexec info hinfo
    obtain ⟨hexec', hqueue⟩ := executing_of_move h (move_of_step h hstep hx') hne hexec
    rw [hqueue] at hinfo
    unfold Sent
    rw [hbuffer]
    exact hx hexec' info hinfo

/-! ## Whole runs -/

/-- **The command in flight.** -/
theorem inFlight_of_run {openError : Option OpenError} {es : List Event} {x : Server}
    (hrun : Runs.run Server.step (Server.start openError) es = some x) (hx : Alive x) :
    InFlight x := by
  have hinv : ∀ y e y', (Inv y ∧ (Alive y → InFlight y)) → Server.step y e = some y' →
      (Inv y' ∧ (Alive y' → InFlight y')) := by
    rintro y e y' ⟨hy, hflight⟩ hstep
    refine ⟨inv_step y e y' hy hstep, fun hy' => ?_⟩
    have halive := alive_of_step hstep hy'
    exact inFlight_step (hy halive) (hflight halive) hstep hy'
  refine (Runs.inv_of_run hinv ⟨inv_start openError, fun _ hexec => ?_⟩ hrun).2 hx
  cases openError with
  | none => exact absurd hexec Bool.false_ne_true
  | some e => cases e <;> exact absurd hexec Bool.false_ne_true

/-- The state of the command pipeline. -/
structure CommandPipeline (x : Server) : Prop where
  at_most_one : x.view.queue.length ≤ 1
  /-- A response is that to the front of the queue. -/
  response : x.view.reading = true → x.view.executing = true ∧
    (∃ info, x.view.queue.head? = some info ∧ Sent x info) ∧
    x.view.source = some x.view.client.id
  /-- What is queued was queued by the last request, whose code is remembered. -/
  request : ∀ info ∈ x.view.queue, info.sender = x.view.client.id ∧
    ∃ msg handler, x.view.client.mCommandSocket.received.getLast? = some msg ∧
      COMMAND_MAP.lookup (requestCode msg) = some handler ∧
      handlerCommand handler = some info.command ∧ x.view.client.mLastCommand = requestCode msg
  /-- A manager to be replaced is not referred to any more. -/
  replaced : x.view.renew = true → x.view.queue = [] ∧ x.view.source = none

theorem commandPipeline_of_pipeline {x : Server} (h : Pipeline x.view) (hflight : InFlight x) :
    CommandPipeline x where
  at_most_one := by
    rcases h.queued with hnil | ⟨info, hqueue, -⟩
    · rw [hnil]
      exact Nat.zero_le 1
    · rw [hqueue]
      exact le_rfl
  response := by
    intro hread
    have hexec := h.executing_of_reading hread
    obtain ⟨info, hqueue, -⟩ := h.queue_eq hexec
    refine ⟨hexec, ⟨info, ?_, hflight hexec info ?_⟩, (h.executing hexec).2⟩
    · rw [hqueue]
      rfl
    · rw [hqueue]
      exact List.mem_singleton_self info
  request := by
    intro info hinfo
    rcases h.queued with hnil | ⟨info', hqueue, hby⟩
    · rw [hnil] at hinfo
      exact absurd hinfo List.not_mem_nil
    · rw [hqueue, List.mem_singleton] at hinfo
      subst hinfo
      exact ⟨hby.sender, hby.request⟩
  replaced := by
    intro hrenew
    have hqueue := h.queue_eq_nil_of_renew hrenew
    exact ⟨hqueue, (h.waiting (h.not_executing_of_queue_eq_nil hqueue)).1⟩

/-- After a read a response can be processed: there is a client, and a command in the queue. -/
theorem processRecv_ok {x x' : Server} {bytes : List Byte} (h : Pipeline x.view)
    (hstep : Server.step x (.received none bytes) = some x') {s : CommsThread}
    (hsame : SameButSignals (Server.takeRead bytes x.thread) s) (cmd : TpxCommand)
    (data : DataVec) : ∃ t, processRecv cmd data s = .ok t := by
  obtain ⟨phase, s₀⟩ := x
  obtain ⟨rfl, hread, -⟩ := step_received hstep
  have hview := view_of_sameButSignals hsame .asio
  have h' : Pipeline (s.view .asio) := by
    rw [hview]
    exact h.not_reading
  have hexec : (s.view .asio).executing = true := by
    rw [hview]
    exact h.executing_of_reading hread
  cases hlookup : HANDLER_MAP.lookup cmd with
  | none =>
    obtain ⟨t, ht, -⟩ := processRecv_unknown h' hexec hlookup data
    exact ⟨t, ht⟩
  | some sz =>
    obtain ⟨t, ht, -⟩ := processRecv_known h' hexec hlookup data
    exact ⟨t, ht⟩

/-- **The command pipeline.** In a server that is reached and not cancelled, at most one command is
queued, and a pending read is for its response. So a response is always processed: `processRecv`
neither misses the client nor pops an empty queue. -/
theorem command_pipeline (openError : Option OpenError) (es : List Event) (x : Server)
    (hrun : Runs.run Server.step (Server.start openError) es = some x) :
    (Running x → CommandPipeline x) ∧
    ∀ bytes x', Server.step x (.received none bytes) = some x' →
      ∀ s, SameButSignals (Server.takeRead bytes x.thread) s →
        ∀ cmd data, ∃ t, processRecv cmd data s = .ok t := by
  refine ⟨fun hx => ?_, fun bytes x' hstep s hsame cmd data => ?_⟩
  · exact commandPipeline_of_pipeline (pipeline_of_run hrun hx.alive)
      (inFlight_of_run hrun hx.alive)
  · -- the handler of a read runs in the poll of the `io_context`
    obtain ⟨hphase, -⟩ := step_received hstep
    exact processRecv_ok (pipeline_of_run hrun (alive_of_asio hphase)) hstep hsame cmd data

/-- A `NOP` was sent and waits for its response. -/
theorem command_pipeline_nop : ∃ x,
    Runs.run Server.step (Server.start none) (forwardedRequest [0, 0, 0, 0]) = some x ∧
    x.view.reading = true ∧ CommandPipeline x := by
  refine ⟨_, rfl, rfl, (command_pipeline none (forwardedRequest [0, 0, 0, 0]) _ rfl).1
    ⟨rfl, ?_, ?_⟩⟩
  · exact Phase.noConfusion
  · exact Phase.noConfusion

end TpxServer.Comms
