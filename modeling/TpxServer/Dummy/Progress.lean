import TpxServer.Dummy.Refinement

/-!
# The test bench answers

The converse of the refinement: what the device at the desk would answer to the pending request, the
bench can answer as well, without another request. From each stage an operation leads to the next
one; before the thread can complete an operation, it may have to begin an iteration.
-/

namespace TpxServer.Dummy

open Comms Comms.TimepixConnectionManager Comms.PythonConnectionManager

/-! ## Continuations -/

/-- Whole transfers, and no further request, lead to the reply. -/
def Bench.Answers (b : Bench) (reply : List Byte) : Prop :=
  ∃ es b', Runs.run Bench.step b es = some b' ∧ Runs.EachStep Bench.step Whole b es ∧
    Alive b'.server ∧ b'.requests = b.requests ∧ b'.replies = b.replies ++ [reply]

namespace Bench.Answers

variable {b b' : Bench} {e : Event} {reply : List Byte}

theorem of_step (hstep : Bench.step b e = some b') (hwhole : Whole b e)
    (hrequests : b'.requests = b.requests) (hreplies : b'.replies = b.replies)
    (h : b'.Answers reply) : b.Answers reply := by
  obtain ⟨es, b'', hrun, heach, halive, hrequests', hreplies'⟩ := h
  refine ⟨e :: es, b'', Runs.run_cons_eq_some.mpr ⟨b', hstep, hrun⟩, ⟨hwhole, fun s hs => ?_⟩,
    halive, hrequests'.trans hrequests, ?_⟩
  · cases hstep.symm.trans hs
    exact heach
  · rw [hreplies', hreplies]

theorem of_last_step (hstep : Bench.step b e = some b') (hwhole : Whole b e)
    (halive : Alive b'.server) (hrequests : b'.requests = b.requests)
    (hreplies : b'.replies = b.replies ++ [reply]) : b.Answers reply :=
  ⟨[e], b', Runs.run_cons_eq_some.mpr ⟨b', hstep, rfl⟩, ⟨hwhole, fun _ _ => trivial⟩, halive,
    hrequests, hreplies⟩

end Bench.Answers

/-! ## The thread polls its sockets -/

/-- While a command is executed, the begin of an iteration sends nothing. -/
theorem step_iterate_busy {x : Server} {attempt : Attempt} (hx : Alive x) (hphase : x.phase = .head)
    (hcurrent : x.view.renew = false) (hexec : x.view.executing = true) :
    Server.step x (.iterate attempt) = some ⟨.asio, x.thread⟩ := by
  obtain ⟨phase, s⟩ := x
  cases hphase
  have hcancel : s.mShouldCancel = false := hx.not_cancelled.resolve_left Phase.noConfusion
  have hnext : nextCommand s = none := nextCommand_eq_none_iff.mpr (Or.inr (Or.inl hexec))
  unfold Server.step
  dsimp only
  rw [if_neg (ne_true_of_eq_false hcancel), renewClient_eq hcurrent]
  unfold Server.beginPoll
  rw [hnext]

/-- The bytes were sent, and the read of the response is started. -/
theorem step_sent {x : Server} (h : Pipeline x.view) (hphase : x.phase = .asio)
    (hsend : x.thread.mTpxManager.pendingSend.isSome = true) (bytes_sent : ℕ) :
    ∃ x', Server.step x (.sent none bytes_sent) = some x' ∧ x'.phase = .asio ∧
      x'.view = { x.view with sending := false, reading := true } := by
  obtain ⟨phase, s⟩ := x
  cases hphase
  unfold Server.step
  dsimp only
  rw [if_pos hsend, commandSent_eq (s := Server.takeSend s) h.alive]
  exact ⟨_, rfl, rfl, rfl⟩

/-- While a command is queued and not executed, the loop is at the begin of an iteration. -/
theorem head_of_queued {x : Server} (h : Pipeline x.view) (hx : Alive x)
    (hexec : x.view.executing = false) (hqueue : x.view.queue ≠ []) : x.phase = .head := by
  cases hphase : x.phase with
  | head => rfl
  | asio => exact absurd (h.asio hphase hexec) hqueue
  | client => exact absurd (h.client hphase).2 hqueue
  | stopped => exact absurd hphase hx.not_stopped
  | undefined => exact absurd hphase hx.not_undefined

section Functions

variable {s : CommsThread} (halive : s.mTpxManager.mIsCancelled = false)
include halive

theorem pollQueue_ok {info : TimepixCommandInfo} (hfits : messageSize info.data * 4 ≤ BUFFER_SIZE) :
    ∃ t, pollQueue info s = .ok t ∧ t.mShouldCancel = s.mShouldCancel ∧ ∀ phase,
      t.view phase = { s.view phase with
        executing := true
        source := some info.sender
        sending := true } := by
  unfold pollQueue
  rw [sendCommand_eq halive, if_neg (not_lt.mpr hfits)]
  exact ⟨_, rfl, rfl, fun _ => rfl⟩

/-- The reset succeeds if the connection can be built up again. -/
theorem resetModule_ok (hsource : s.mTpxManager.mLastCommandSource = some s.mClientManager.id)
    (hopen : s.mClientManager.mCommandSocket.isOpen = true)
    (howed : s.mClientManager.mCommandSocket.replyOwed = true) :
    ∃ t, resetModule {} s = .ok t ∧ t.mShouldCancel = s.mShouldCancel := by
  have hsend := send_eq (s := terminateConnection s) hopen howed
    (wordsToBytes [s.mClientManager.mLastCommand.code])
  have hsource' := onLastCommandSource_eq (s := terminateConnection s) hsource (sendResponse [])
  unfold resetModule
  rw [hsource']
  unfold sendResponse
  rw [show (terminateConnection s).mClientManager = s.mClientManager from rfl, hsend,
    Outcome.ok_andThen]
  unfold attemptConnection
  dsimp only
  rw [if_pos rfl, initializeConnection_eq]
  · exact ⟨_, rfl, rfl⟩
  · exact halive

end Functions

section Queued

variable {x : Server} {info : TimepixCommandInfo} (h : Pipeline x.view) (hx : Alive x)
  (hexec : x.view.executing = false) (hqueue : x.view.queue = [info])
  (hfits : messageSize info.data * 4 ≤ BUFFER_SIZE)
include h hx hexec hqueue hfits

/-- The queued command is sent. -/
theorem step_iterate_send (hcommand : info.command ≠ .CMD_RESET_MODULE) (attempt : Attempt) :
    ∃ x', Server.step x (.iterate attempt) = some x' ∧ x'.phase = .asio ∧
      x'.view = { x.view with
        phase := .asio
        executing := true
        source := some x.view.client.id
        sending := true } := by
  have hphase := head_of_queued h hx hexec (by rw [hqueue]; exact List.cons_ne_nil _ _)
  have hby := h.queuedBy hqueue
  obtain ⟨phase, s⟩ := x
  cases hphase
  have hcancel : s.mShouldCancel = false := hx.not_cancelled.resolve_left Phase.noConfusion
  have hnext : nextCommand s = some info := nextCommand_of_queue hby.connected hexec hqueue
  obtain ⟨t, hok, -, hview⟩ := pollQueue_ok (s := s) h.alive hfits
  refine ⟨⟨.asio, t⟩, ?_, rfl, ?_⟩
  · unfold Server.step
    dsimp only
    rw [if_neg (ne_true_of_eq_false hcancel), renewClient_eq hby.current]
    unfold Server.beginPoll
    rw [hnext]
    dsimp only
    rw [if_neg hcommand, hok]
    rfl
  · have hview' := hview .asio
    rw [hby.sender] at hview'
    exact hview'

/-- The module is reset. -/
theorem step_iterate_reset (hcommand : info.command = .CMD_RESET_MODULE) :
    ∃ x', Server.step x (.iterate {}) = some x' ∧ Alive x' := by
  have hphase := head_of_queued h hx hexec (by rw [hqueue]; exact List.cons_ne_nil _ _)
  have hby := h.queuedBy hqueue
  obtain ⟨phase, s⟩ := x
  cases hphase
  have hcancel : s.mShouldCancel = false := hx.not_cancelled.resolve_left Phase.noConfusion
  have hnext : nextCommand s = some info := nextCommand_of_queue hby.connected hexec hqueue
  obtain ⟨t, hok, hcancel', hview⟩ := pollQueue_ok (s := s) h.alive hfits
  have hview := hview .head
  have hclient : t.mClientManager = s.mClientManager := congrArg View.client hview
  obtain ⟨u, hreset, hcancel''⟩ := resetModule_ok (s := t)
    ((congrArg View.cancelled hview).trans h.alive)
    ((congrArg View.source hview).trans (by rw [hby.sender, hclient]; rfl))
    (by rw [hclient]; exact h.isOpen hby.current) (by rw [hclient]; exact hby.owed)
  refine ⟨Server.afterPoll u, ?_, ?_⟩
  · unfold Server.step
    dsimp only
    rw [if_neg (ne_true_of_eq_false hcancel), renewClient_eq hby.current]
    unfold Server.beginPoll
    rw [hnext]
    dsimp only
    rw [if_pos hcommand, hok, Outcome.ok_andThen, hreset]
    rfl
  · have hu : u.mShouldCancel = false := hcancel''.trans (hcancel'.trans hcancel)
    unfold Server.afterPoll
    split
    · exact ⟨Or.inr hu, Phase.noConfusion, Phase.noConfusion⟩
    · exact ⟨Or.inr hu, Phase.noConfusion, Phase.noConfusion⟩

end Queued

theorem step_server {b : Bench} {e : Comms.Event} {x' : Server} (he : e.ofSocket = false)
    (hstep : Server.step b.server e = some x') :
    Bench.step b (.server e) = some (b.afterStep (resets b.server e) x') := by
  unfold Bench.step
  dsimp only
  rw [if_neg (ne_true_of_eq_false he), hstep]
  rfl

theorem Turned.refl (b : Bench) : Turned b b := ⟨rfl, rfl, rfl, rfl, rfl, rfl, rfl, rfl⟩

theorem Turned.requests_eq {b b' : Bench} (h : Turned b b') : b'.requests = b.requests := by
  unfold Bench.requests
  rw [h.client]

theorem Turned.replies_eq {b b' : Bench} (h : Turned b b') : b'.replies = b.replies := by
  unfold Bench.replies
  rw [h.client]

section Stages

variable {b : Bench} {a : Desk} (h : Sim b a) (hready : Ready b) (hb : Alive b.server)
  {reply : List Byte}
include h hready hb

/-- What is done in the poll of the `io_context` can be done. -/
theorem Sim.poll (hexec : b.server.view.executing = true)
    (hpolled : ∀ b', Turned b b' → Sim b' a → Ready b' → b'.server.phase = .asio →
      b'.Answers reply) : b.Answers reply := by
  cases hphase : b.server.phase with
  | asio => exact hpolled b (.refl b) h hready hphase
  | client => exact absurd hexec (ne_true_of_eq_false (h.pipeline.client hphase).1)
  | stopped => exact absurd hphase hb.not_stopped
  | undefined => exact absurd hphase hb.not_undefined
  | head =>
    have hstep : Server.step b.server (.iterate {}) = some ⟨.asio, b.server.thread⟩ :=
      step_iterate_busy hb hphase h.current hexec
    have hnoreset : resets b.server (.iterate {}) = false := by
      unfold resets
      rw [nextCommand_eq_none_iff.mpr (Or.inr (Or.inl hexec)), Option.any_none, Bool.and_false]
    obtain ⟨hturned, hsim⟩ :=
      h.turn rfl hstep (alive_of_asio rfl) .asio rfl hnoreset
    have hbench := step_server rfl hstep
    refine .of_step hbench trivial hturned.requests_eq hturned.replies_eq ?_
    exact hpolled _ hturned hsim (ready_step hready hbench) (by rw [server_afterStep])

/-! ## From stage to stage -/

variable {answer : ℚ × List Byte} (ha : a.answer = some answer)
include ha

/-- The response is on its way. -/
theorem Sim.answers_of_down (hdown : b.down ≠ []) : b.Answers answer.2 := by
  obtain ⟨msg, cmd, data, voltage, awaited, device, up, down, sends, voltage'⟩ :=
    h.going_cases hdown
  refine h.poll hready hb (h.pipeline.executing_of_reading awaited.reading) ?_
  intro b' hturned hsim hready' hphase
  have hasked := hturned.asked awaited.asked
  rw [hasked.answer_eq device, Option.map_eq_some_iff] at ha
  obtain ⟨words, hserve, rfl⟩ := ha
  have hdown' : b'.down = SpidrServer.response cmd words.2 := by
    rw [hturned.down, down]
    unfold outcome
    rw [hserve]
  obtain ⟨hcomplete, hprocessed⟩ := processed_response (v := b'.server.view) hserve
  rw [← hdown'] at hcomplete hprocessed
  have hlen : b'.down.length ≤ BUFFER_SIZE := by
    rw [hturned.down, down]
    exact length_outcome_le voltage cmd (padded data)
  have hread : b'.server.thread.mTpxManager.pendingRead = true :=
    (hturned.awaited awaited).reading
  obtain ⟨x', hstep⟩ : ∃ x', Server.step b'.server (.received none b'.down) = some x' := by
    unfold Server.step
    dsimp only
    rw [hphase]
    exact ⟨_, if_pos ⟨hread, hlen⟩⟩
  have hview := view_of_complete hsim.pipeline hstep hcomplete
  rw [hprocessed] at hview
  have hpos : 0 < b'.down.length := by
    rw [hturned.down]
    exact List.length_pos_iff.mpr hdown
  have hbench : Bench.step b' (.serverReads b'.down.length) =
      some { b' with server := x', down := [] } := by
    unfold Bench.step
    dsimp only
    rw [if_pos ⟨hpos, le_rfl⟩, List.take_length, hstep, List.drop_length]
    rfl
  refine .of_last_step hbench rfl
    (alive_of_asio (ok_of_complete hsim.pipeline hstep hcomplete).1) ?_ ?_
  · unfold Bench.requests
    rw [hview]
    rfl
  · unfold Bench.replies
    rw [hview, ← hasked.last]
    rfl

/-- The test server sends the response. -/
theorem Sim.answers_of_sends (hsends : b.spidr.pendingSends ≠ []) : b.Answers answer.2 := by
  obtain ⟨msg, cmd, data, voltage, awaited, device, up, down, sends, buffer, voltage'⟩ :=
    h.served_cases hsends
  have hbench : Bench.step b (.spidrSends (outcome voltage cmd (padded data)).2.length) =
      some { b with
        spidr := b.spidr.sent
        down := b.carry b.down
          (b.spidr.mTcpSendBuffer.take (outcome voltage cmd (padded data)).2.length) } := by
    unfold Bench.step
    dsimp only
    rw [sends]
    exact if_pos le_rfl
  have hsim := h.spidrSends sends
  refine .of_step hbench ?_ rfl rfl
    (hsim.answers_of_down (ready_step hready hbench) hb ha ?_)
  · show b.spidr.pendingSends.head? = some _
    rw [sends]
    rfl
  · show b.carry b.down _ ≠ []
    unfold Bench.carry
    rw [if_pos awaited.link, down, buffer, List.nil_append, ← List.length_pos_iff]
    exact outcome_ne_nil _ _ _

/-- The test server reads the command once it has accepted the connection. -/
theorem Sim.answers_of_up_accepted (hup : b.up ≠ []) (haccepted : b.accepted = true) :
    b.Answers answer.2 := by
  obtain ⟨msg, cmd, data, awaited, fits, up, down, sends, device⟩ := h.coming_cases hup
  obtain ⟨s, hs⟩ : ∃ s, b.spidr.received b.up = some s := by
    obtain ⟨buffer, hreceived⟩ := SpidrServer.received_wire hready.buffer fits cmd
    rw [up, hreceived]
    exact ⟨_, rfl⟩
  have hpos : 0 < b.up.length := List.length_pos_iff.mpr hup
  have hroom : b.up.length ≤ b.spidr.mTcpReceiveBuffer.length := by
    rw [hready.receive, up, length_wire, length_padded]
    unfold messageSize at fits
    omega
  have hreads : 0 < b.spidr.pendingReads := by
    have hreads := hready.reads awaited.link haccepted
    rw [sends] at hreads
    exact hreads
  have hcan : b.CanRead b.up.length := ⟨hreads, le_rfl, hroom, Or.inl ⟨awaited.link, hpos⟩⟩
  have hbench : Bench.step b (.spidrReads b.up.length) =
      some { b with spidr := s, up := [] } := by
    unfold Bench.step
    dsimp only
    rw [if_pos hcan, List.take_length, hs, List.drop_length]
    rfl
  have hsim := h.spidrReads hready.buffer hs
  have hsends := (sends_of_received hready.buffer hs).2.2 hup
  exact .of_step hbench rfl rfl rfl
    (hsim.answers_of_sends (ready_step hready hbench) hb ha hsends)

theorem Sim.answers_of_up (hup : b.up ≠ []) : b.Answers answer.2 := by
  cases haccepted : b.accepted with
  | true => exact h.answers_of_up_accepted hready hb ha hup haccepted
  | false =>
    obtain ⟨msg, cmd, data, awaited, -⟩ := h.coming_cases hup
    have hbench : Bench.step b .accept =
        some { b with accepted := true, spidr := b.spidr.acceptTcp } := by
      unfold Bench.step
      dsimp only
      refine if_neg ?_
      rintro (hunconnected | haccepted')
      · cases awaited.link.symm.trans hunconnected
      · exact ne_true_of_eq_false haccepted haccepted'
    exact .of_step hbench trivial rfl rfl
      ((h.reads true (b.spidr.pendingReads + 1)).answers_of_up_accepted
        (ready_step hready hbench) hb ha hup rfl)

/-- The thread sends the command. -/
theorem Sim.answers_of_sending (hsending : b.server.view.sending = true) : b.Answers answer.2 := by
  refine h.poll hready hb (h.pipeline.executing_of_sending hsending) ?_
  intro b' hturned hsim hready' hphase
  obtain ⟨msg, cmd, data, asked, fits, send, silent, device⟩ :=
    hsim.sending_cases (by rw [hturned.view]; exact hsending)
  obtain ⟨x', hstep, hphase', hview⟩ := step_sent hsim.pipeline hphase (by rw [send]; rfl)
    (wire cmd.code data).length
  have hx' := alive_of_asio hphase'
  have hbench : Bench.step b' (.serverSends (wire cmd.code data).length) =
      some { b' with server := x', up := b'.carry b'.up (wire cmd.code data) } := by
    unfold Bench.step
    dsimp only
    rw [send]
    dsimp only
    rw [if_pos le_rfl, hstep, List.take_length]
    rfl
  have hsim' := hsim.serverSends send hstep hx'
  refine .of_step hbench ?_ ?_ ?_ (hsim'.answers_of_up (ready_step hready' hbench) hx' ha ?_)
  · show (wire cmd.code data).length = _
    rw [send]
    rfl
  · unfold Bench.requests
    rw [hview]
  · unfold Bench.replies
    rw [hview]
  · -- there is an answer, so there is a connection
    have hconn := (hsim.pipeline.queuedBy asked.queue).connected
    have hlink : b'.link = .connected := by
      refine (hsim.link_cases (hsim.connected.symm.trans hconn)).resolve_right fun hclosed => ?_
      unfold deviceOf at device
      rw [if_pos hclosed] at device
      unfold Desk.answer at ha
      rw [device] at ha
      cases ha
    show b'.carry b'.up (wire cmd.code data) ≠ []
    unfold Bench.carry
    rw [if_pos hlink, silent.up, List.nil_append, ← List.length_pos_iff, length_wire]
    omega

/-- **The device at the desk answers, and so does the bench.** -/
theorem Sim.answers : b.Answers answer.2 := by
  have hserve : ∀ {msg cmd data}, Asked b a msg cmd data →
      ∃ voltage words, SpidrServer.serve voltage cmd (padded data) = some words := by
    intro msg cmd data hasked
    obtain ⟨voltage, hdevice, -⟩ := Option.bind_eq_some_iff.mp ha
    rw [hasked.answer_eq hdevice, Option.map_eq_some_iff] at ha
    obtain ⟨words, hserve, -⟩ := ha
    exact ⟨voltage, words, hserve⟩
  cases h.stage with
  | idle pending =>
    obtain ⟨voltage, -, hpending⟩ := Option.bind_eq_some_iff.mp ha
    rw [pending] at hpending
    cases hpending
  | queued asked executing silent device =>
    rename_i msg cmd data
    obtain ⟨voltage, words, hserve⟩ := hserve asked
    have hreset : cmd ≠ .CMD_RESET_MODULE := by
      rintro rfl
      rw [SpidrServer.serve_eq_none (by decide) (by decide) rfl] at hserve
      cases hserve
    have hpixconf : cmd ≠ .CMD_SET_PIXCONF := by
      rintro rfl
      rw [SpidrServer.serve_eq_none (by decide) (by decide) rfl] at hserve
      cases hserve
    obtain ⟨x', hstep, hphase', hview⟩ := step_iterate_send h.pipeline hb executing asked.queue
      (fits_of_commandOf asked.command hpixconf) hreset {}
    have hx' := alive_of_asio hphase'
    have hbench := step_server rfl hstep
    have hserver := server_afterStep b (resets b.server (.iterate {})) x'
    have hsim := h.sends executing asked.queue hreset hstep hx' hview
    refine .of_step hbench trivial ?_ ?_
      (hsim.answers_of_sending (ready_step hready hbench) (by rw [hserver]; exact hx') ha ?_)
    · unfold Bench.requests
      rw [hserver, hview]
    · unfold Bench.replies
      rw [hserver, hview]
    · rw [hserver, hview]
  | sending asked fits send =>
    refine h.answers_of_sending hready hb ha ?_
    show b.server.thread.mTpxManager.pendingSend.isSome = true
    rw [send]
    rfl
  | coming awaited fits up =>
    refine h.answers_of_up hready hb ha ?_
    rw [up, ← List.length_pos_iff, length_wire]
    omega
  | served awaited device up down sends =>
    refine h.answers_of_sends hready hb ha ?_
    rw [sends]
    exact List.cons_ne_nil _ _
  | going awaited device up down =>
    refine h.answers_of_down hready hb ha ?_
    rw [down, ← List.length_pos_iff]
    exact outcome_ne_nil _ _ _
  | stuck _ answer =>
    rw [answer] at ha
    cases ha

end Stages

/-- The reset is answered at once. -/
theorem client_of_reset {v v' : View} {attempt : Attempt} {info : TimepixCommandInfo}
    (h : Pipeline v) (hmove : Move v (.iterate attempt) v') (hexec : v.executing = false)
    (hqueue : v.queue = [info]) (hcommand : info.command = .CMD_RESET_MODULE) :
    v'.client = { v.client with
      mCommandSocket :=
        v.client.mCommandSocket.send (wordsToBytes [v.client.mLastCommand.code]) } := by
  cases hmove with
  | begin _ hphase hready =>
    rcases hready with hconn | hexec' | hnil
    · exact absurd (h.queuedBy hqueue).connected (ne_true_of_eq_false hconn)
    · exact absurd hexec' (ne_true_of_eq_false hexec)
    · rw [hnil] at hqueue
      cases hqueue
  | send _ info' hphase hexec' hqueue' hcommand' =>
    cases hqueue.symm.trans hqueue'
    exact absurd hcommand hcommand'
  | reset => rfl

/-- The module is reset as soon as the loop comes to it. -/
theorem Sim.answers_of_reset {b : Bench} {a : Desk} (h : Sim b a) (hb : Alive b.server)
    {reply : List Byte} (hreply : a.resetAnswer = some reply) : b.Answers reply := by
  have hreset : ∀ {msg cmd data}, Asked b a msg cmd data →
      cmd = .CMD_RESET_MODULE ∧ wordsToBytes [(requestCode msg).code] = reply := by
    intro msg cmd data hasked
    rw [hasked.resetAnswer_eq] at hreply
    split at hreply
    · rename_i hcmd
      exact ⟨hcmd, Option.some.inj hreply⟩
    · cases hreply
  have hnot : ∀ {msg cmd data}, Asked b a msg cmd data → ¬ b.server.view.executing = true :=
    fun hasked hexec => hasked.executing hexec (hreset hasked).1
  cases h.stage with
  | idle pending =>
    unfold Desk.resetAnswer at hreply
    rw [pending] at hreply
    cases hreply
  | queued asked executing silent device =>
    obtain ⟨rfl, hreply⟩ := hreset asked
    obtain ⟨x', hstep, hx'⟩ := step_iterate_reset h.pipeline hb executing asked.queue
      (fits_of_commandOf asked.command (by decide)) rfl
    have hserver := server_afterStep b (resets b.server (.iterate {})) x'
    have hclient := client_of_reset h.pipeline (move_of_step h.pipeline hstep hx') executing
      asked.queue rfl
    refine .of_last_step (step_server rfl hstep) trivial (by rw [hserver]; exact hx') ?_ ?_
    · unfold Bench.requests
      rw [hserver, hclient]
      rfl
    · unfold Bench.replies
      rw [hserver, hclient, ← hreply, ← asked.last]
      rfl
  | sending asked fits send =>
    refine absurd (h.pipeline.executing_of_sending ?_) (hnot asked)
    show b.server.thread.mTpxManager.pendingSend.isSome = true
    rw [send]
    rfl
  | coming awaited =>
    exact absurd (h.pipeline.executing_of_reading awaited.reading) (hnot awaited.asked)
  | served awaited =>
    exact absurd (h.pipeline.executing_of_reading awaited.reading) (hnot awaited.asked)
  | going awaited =>
    exact absurd (h.pipeline.executing_of_reading awaited.reading) (hnot awaited.asked)
  | stuck asked _ executing => exact absurd executing (hnot asked)

/-! ## Whole runs -/

theorem sim_start : Sim {} {} where
  pipeline := @pipeline_of_run none [] _ rfl
    ⟨Or.inr rfl, Phase.noConfusion, Phase.noConfusion⟩
  current := rfl
  connected := rfl
  link := iff_of_true rfl rfl
  received := rfl
  sent := rfl
  stage := .idle rfl rfl rfl ⟨rfl, rfl, rfl⟩ rfl

theorem alive_of_bench_step {b b' : Bench} {e : Event} (h : Bench.step b e = some b')
    (hb' : Alive b'.server) : Alive b.server := by
  cases moves_of_step h with
  | server he hstep =>
    rw [server_afterStep] at hb'
    exact alive_of_step hstep hb'
  | connect hstep => exact alive_of_step hstep hb'
  | accept => exact hb'
  | serverSends hsend hle hstep => exact alive_of_step hstep hb'
  | spidrReads => exact hb'
  | spidrSends => exact hb'
  | serverReads hpos hle hstep => exact alive_of_step hstep hb'

/-- **The bench is a device at the desk.** As long as transfers are whole and the server is alive,
the requests and replies of the bench are those of a client that sits at the device; and what the
device would answer to the pending request, the bench can answer without another request. -/
theorem bench_refines (es : List Event) (b : Bench) (hrun : Runs.run Bench.step {} es = some b)
    (hb : Alive b.server) (hwhole : Runs.EachStep Bench.step Whole {} es) :
    ∃ a, Runs.Reaches Desk.step {} a ∧ b.requests = a.received ∧ b.replies = a.sent ∧
      ∀ reply, (∃ voltage, a.answer = some (voltage, reply)) ∨ a.resetAnswer = some reply →
        b.Answers reply := by
  obtain ⟨a, hreach, hready, hsim⟩ := Runs.reaches_of_run (J := fun b => Alive b.server)
    (R := fun b a => Ready b ∧ Sim b a) (fun _ _ _ hstep hb' => alive_of_bench_step hstep hb')
    (fun b e b' a hstep hb' hwhole hba => by
      obtain ⟨a', hreach, hsim⟩ := hba.2.step hba.1.buffer hstep hb' hwhole
      exact ⟨a', hreach, ready_step hba.1 hstep, hsim⟩)
    hrun hb hwhole ⟨ready_start, sim_start⟩
  refine ⟨a, hreach, hsim.received.symm, hsim.sent.symm, fun reply hreply => ?_⟩
  rcases hreply with ⟨voltage, ha⟩ | hreset
  · exact hsim.answers hready hb ha
  · exact hsim.answers_of_reset hb hreset

def setBiasVoltage : List Byte := wordsToBytes [ServerCommand.SET_BIAS_VOLTAGE.code, 100]

def getSpidrAdc : List Byte := wordsToBytes [ServerCommand.GET_SPIDR_ADC.code, 0]

/-- A request and its answer, from the poll of the client to the next one. -/
def exchange (msg : List Byte) : List Event :=
  [.server (.client (some msg) []), .server (.iterate {}), .serverSends 20, .spidrReads 20,
    .spidrSends 20, .serverReads 20, .server .idle]

/-- The bias voltage is set, then measured. -/
def biasVoltageSession : List Event :=
  [.server (.iterate {}), .connect, .accept, .server .idle] ++ exchange setBiasVoltage ++
    exchange getSpidrAdc

theorem bench_refines_biasVoltage : ∃ b, Runs.run Bench.step {} biasVoltageSession = some b ∧
    b.replies = [setBiasVoltage, wordsToBytes [ServerCommand.GET_SPIDR_ADC.code, 386]] ∧
    ∃ a, Runs.Reaches Desk.step {} a ∧ b.requests = a.received ∧ b.replies = a.sent ∧
      ∀ reply, (∃ voltage, a.answer = some (voltage, reply)) ∨ a.resetAnswer = some reply →
        b.Answers reply := by
  have hsession : (Runs.run Bench.step {} biasVoltageSession).map (fun b =>
      (b.replies, b.server.phase, b.server.thread.mShouldCancel)) =
      some ([setBiasVoltage, wordsToBytes [ServerCommand.GET_SPIDR_ADC.code, 386]], .client,
        false) := by
    decide +kernel
  obtain ⟨b, hrun, heq⟩ := Option.map_eq_some_iff.mp hsession
  obtain ⟨hreplies, heq⟩ := Prod.mk.inj heq
  obtain ⟨hphase, hcancel⟩ := Prod.mk.inj heq
  have hb : Alive b.server := by
    refine ⟨Or.inr hcancel, ?_, ?_⟩
    · rw [hphase]
      exact Phase.noConfusion
    · rw [hphase]
      exact Phase.noConfusion
  exact ⟨b, hrun, hreplies, bench_refines biasVoltageSession b hrun hb (by decide +kernel)⟩

end TpxServer.Dummy
