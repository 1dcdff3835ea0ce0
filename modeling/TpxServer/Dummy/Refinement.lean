import TpxServer.Dummy.Stages

/-!
# The test bench is a device at the client's desk

Every step of the bench is one of the desk, or none: a request is asked when it is queued, and
answered when the response is read. That transfers are whole keeps a message in one piece.
-/

namespace TpxServer.Dummy

open Comms Comms.TimepixConnectionManager Comms.PythonConnectionManager

/-! ## Steps of the server -/

/-- A step of the desk, or none. -/
def Follows (a : Desk) (b' : Bench) : Prop := ∃ a', Runs.Reaches Desk.step a a' ∧ Sim b' a'

theorem Follows.stay {a : Desk} {b' : Bench} (h : Sim b' a) : Follows a b' := ⟨a, .refl a, h⟩

theorem Follows.step {a : Desk} {b' : Bench} (e : Desk.Event) (a' : Desk)
    (ha : Desk.step a e = some a') (h : Sim b' a') : Follows a b' := ⟨a', .of_step ha, h⟩

section Steps

variable {b : Bench} {a : Desk} (h : Sim b a) {x' : Server} {e : Comms.Event}
include h

theorem Sim.connected_of_link (hlink : b.link = .connected) : a.connected = true := by
  cases hconn : a.connected with
  | true => rfl
  | false =>
    rw [h.link.mpr hconn] at hlink
    cases hlink

theorem Sim.link_ne (hconn : a.connected = true) : b.link ≠ .unconnected := by
  intro hlink
  rw [h.link.mp hlink] at hconn
  cases hconn

omit h in
theorem server_afterStep (b : Bench) (reset : Bool) (server : Server) :
    (b.afterStep reset server).server = server := by
  unfold Bench.afterStep
  dsimp only
  split
  · rfl
  · rfl

theorem Sim.link_cases (hconn : a.connected = true) : b.link = .connected ∨ b.link = .closed := by
  cases hlink : b.link with
  | unconnected => exact absurd hlink (h.link_ne hconn)
  | connected => exact Or.inl rfl
  | closed => exact Or.inr rfl

/-- Without a reset the connection stays. -/
theorem Sim.afterStep_eq (hconn : x'.view.connected = b.server.view.connected) :
    b.afterStep false x' = { b with server := x' } := by
  unfold Bench.afterStep
  refine if_neg ?_
  rintro ⟨hlink, hreset | hconn'⟩
  · cases hreset
  · have hconnected := h.connected_of_link hlink
    rw [← h.connected, ← hconn] at hconnected
    exact absurd hconn' (ne_false_of_eq_true hconnected)

/-- A reset closes the connection, if it was not closed before. -/
theorem Sim.afterStep_reset (hconn : a.connected = true) (hsilent : Silent b) :
    b.afterStep true x' = { b with server := x', link := .closed } := by
  have hne := h.link_ne hconn
  obtain ⟨server, spidr, link, accepted, up, down⟩ := b
  cases hsilent.up
  cases hsilent.down
  cases link with
  | unconnected => exact absurd rfl hne
  | connected => rfl
  | closed => rfl

/-- The thread has nothing to send but what it had. -/
theorem Sim.pendingSend_eq (he : e.ofSocket = false)
    (hstep : Server.step b.server e = some x') (hx' : Alive x')
    (hsending : x'.view.sending = b.server.view.sending) :
    x'.thread.mTpxManager.pendingSend = b.server.thread.mTpxManager.pendingSend := by
  cases hexec : b.server.view.executing with
  | true => rw [(view_of_busy h.pipeline hexec he hstep hx').1]
  | false =>
    have hnone : b.server.thread.mTpxManager.pendingSend.isSome = false :=
      (h.pipeline.waiting hexec).2.1
    have hnone' : x'.thread.mTpxManager.pendingSend.isSome = false := hsending.trans hnone
    rw [Option.isSome_eq_false_iff, Option.isNone_iff_eq_none] at hnone hnone'
    rw [hnone, hnone']

/-- A turn of the server's loop. -/
theorem Sim.turn (he : e.ofSocket = false) (hstep : Server.step b.server e = some x')
    (hx' : Alive x') (phase : Phase) (hview : x'.view = { b.server.view with phase := phase })
    (hreset : resets b.server e = false) :
    Turned b (b.afterStep (resets b.server e) x') ∧ Sim (b.afterStep (resets b.server e) x') a := by
  rw [hreset, h.afterStep_eq (by rw [hview])]
  have hpipeline := pipeline_of_move h.pipeline (move_of_step h.pipeline hstep hx')
  have hturned : Turned b { b with server := x' } := {
    view := by
      have hphase : x'.phase = phase := congrArg View.phase hview
      rw [hphase]
      exact hview
    send := h.pendingSend_eq he hstep hx' (by rw [hview])
    link := rfl
    up := rfl
    down := rfl
    sends := rfl
    buffer := rfl
    voltage := rfl }
  exact ⟨hturned, hturned.sim hpipeline h⟩

end Steps

theorem renewed_of_current {v : View} (h : v.renew = false) : v.renewed = v := by
  unfold View.renewed
  exact if_neg (ne_true_of_eq_false h)

/-- What the begin of an iteration sends. -/
theorem resets_iterate {x : Server} {attempt : Attempt} (hcancel : x.thread.mShouldCancel = false) :
    resets x (.iterate attempt) =
      (nextCommand x.thread).any (·.command = .CMD_RESET_MODULE) := by
  unfold resets
  rw [hcancel]
  rfl

theorem nextCommand_of_queue {s : CommsThread} {info : TimepixCommandInfo}
    (hconn : s.mTpxManager.mIsConnected = true) (hexec : s.mTpxManager.mIsExecutingCommand = false)
    (hqueue : s.mTpxManager.mQueuedCommands = [info]) : nextCommand s = some info := by
  unfold nextCommand
  rw [hconn, hexec, hqueue]
  rfl

/-- The queued command is sent. -/
theorem Sim.sends {b : Bench} {a : Desk} (h : Sim b a) {x' : Server} {attempt : Attempt}
    {info : TimepixCommandInfo} (hexec : b.server.view.executing = false)
    (hqueue : b.server.view.queue = [info]) (hcommand : info.command ≠ .CMD_RESET_MODULE)
    (hstep : Server.step b.server (.iterate attempt) = some x') (hx' : Alive x')
    (hview : x'.view = { b.server.view with
      phase := .asio
      executing := true
      source := some b.server.view.client.id
      sending := true }) :
    Sim (b.afterStep (resets b.server (.iterate attempt)) x') a := by
  have hby := h.pipeline.queuedBy hqueue
  obtain ⟨msg, hasked, hsilent, hdevice⟩ := h.queued_of_not_executing hqueue hexec
  obtain ⟨info', hqueue', hfits, hsend⟩ := pendingSend_of_iterate h.pipeline hstep hx' hexec
    (by rw [hview])
  cases hqueue.symm.trans hqueue'
  have hnoreset : resets b.server (.iterate attempt) = false := by
    unfold resets
    rw [nextCommand_of_queue hby.connected hexec hqueue, Option.any_some,
      decide_eq_false hcommand, Bool.and_false]
  rw [hnoreset, h.afterStep_eq (by rw [hview])]
  have hasked' : Asked { b with server := x' } a msg info.command info.data :=
    ⟨hasked.pending, hasked.command, by rw [hview]; exact hasked.queue,
      by rw [hview]; exact hasked.last, fun _ => hcommand⟩
  exact h.congr (pipeline_of_move h.pipeline (move_of_step h.pipeline hstep hx')) (by rw [hview])
    (by rw [hview]) (by rw [hview]) rfl
    (.sending hasked' hfits hsend ⟨hsilent.up, hsilent.down, hsilent.sends⟩ hdevice)

/-- The begin of an iteration. -/
theorem Sim.iterate {b : Bench} {a : Desk} (h : Sim b a) {x' : Server} {attempt : Attempt}
    (hstep : Server.step b.server (.iterate attempt) = some x') (hx' : Alive x') :
    Follows a (b.afterStep (resets b.server (.iterate attempt)) x') := by
  have hmove := move_of_step h.pipeline hstep hx'
  have hpipeline := pipeline_of_move h.pipeline hmove
  have hx := alive_of_step hstep hx'
  generalize hv' : x'.view = v' at hmove hpipeline
  cases hmove with
  | begin _ hphase hready =>
    have hcancel := hx.not_cancelled.resolve_left fun hasio => by cases hphase.symm.trans hasio
    rw [renewed_of_current h.current] at hv'
    refine .stay (h.turn rfl hstep hx' _ hv' ?_).2
    rw [resets_iterate hcancel, nextCommand_eq_none_iff.mpr hready]
    rfl
  | send _ info hphase hexec hqueue hcommand =>
    exact .stay (h.sends hexec hqueue hcommand hstep hx' hv')
  | reset _ info hphase hexec hqueue hcommand =>
    have hcancel := hx.not_cancelled.resolve_left fun hasio => by cases hphase.symm.trans hasio
    have hby := h.pipeline.queuedBy hqueue
    obtain ⟨msg, hasked, hsilent, hdevice⟩ := h.queued_of_not_executing hqueue hexec
    have hconn : a.connected = true := h.connected.symm.trans hby.connected
    rw [resets_iterate hcancel, nextCommand_of_queue hby.connected hexec hqueue, Option.any_some,
      decide_eq_true hcommand, h.afterStep_reset hconn hsilent]
    refine .step .reset { a with
      device := none
      pending := none
      sent := a.sent ++ [wordsToBytes [(requestCode msg).code]] } ?_ ?_
    · show a.resetAnswer.map _ = _
      rw [hasked.resetAnswer_eq, if_pos hcommand]
      rfl
    · exact {
        pipeline := by rw [hv']; exact hpipeline
        current := by rw [hv']; exact h.current
        connected := by rw [hv']; exact hconn.symm
        link := iff_of_false Link.noConfusion (ne_false_of_eq_true hconn)
        received := by unfold Bench.requests; rw [hv']; exact h.received
        sent := by
          unfold Bench.replies
          rw [hv', ← hasked.last]
          exact congrArg (· ++ _) h.sent
        stage := .idle rfl (by rw [hv']) (by rw [hv']; rfl)
          ⟨hsilent.up, hsilent.down, hsilent.sends⟩ rfl }

theorem phase_of_client {v v' : View} {request : Option (List Byte)} {answer : List Byte}
    (h : Move v (.client request answer) v') : v.phase = .client := by
  cases h with
  | noRequest _ hphase => exact hphase
  | reply _ _ _ _ hphase => exact hphase
  | enqueue _ _ _ _ hphase => exact hphase
  | giveUp _ _ hphase => exact hphase

section Requests

variable {b : Bench} {a : Desk} (h : Sim b a) {x' : Server} (hpipeline : Pipeline x'.view)
  (hqueue : b.server.view.queue = []) {msg : List Byte}
include h hpipeline hqueue

/-- A request that is answered at once. -/
theorem Sim.replied {reply : List Byte} {last : ServerCommand}
    (hview : x'.view = b.server.view.replied msg reply last) : Sim { b with server := x' }
      { a with received := a.received ++ [msg], sent := a.sent ++ [reply] } := by
  obtain ⟨hpending, -, hsilent, hdevice⟩ := h.idle_of_queue hqueue
  exact {
    pipeline := hpipeline
    current := by rw [hview]; exact h.current
    connected := by rw [hview]; exact h.connected
    link := h.link
    received := by
      unfold Bench.requests
      rw [hview]
      exact congrArg (· ++ [msg]) h.received
    sent := by
      unfold Bench.replies
      rw [hview]
      exact congrArg (· ++ [reply]) h.sent
    stage := .idle hpending (by rw [hview]; exact hqueue) (by rw [hview]; rfl)
      ⟨hsilent.up, hsilent.down, hsilent.sends⟩ hdevice }

/-- A request that is queued for the device. -/
theorem Sim.asked {cmd : TpxCommand} {data : DataVec} (hcommand : commandOf msg = some (cmd, data))
    (hexec : b.server.view.executing = false)
    (hview : x'.view = b.server.view.asked msg cmd data) : Sim { b with server := x' }
      { a with received := a.received ++ [msg], pending := some msg } := by
  obtain ⟨-, -, hsilent, hdevice⟩ := h.idle_of_queue hqueue
  have hexec' : x'.view.executing = false := by
    rw [hview]
    exact hexec
  have hasked : Asked { b with server := x' }
      { a with received := a.received ++ [msg], pending := some msg } msg cmd data := by
    refine ⟨rfl, hcommand, ?_, by rw [hview]; rfl, fun hexecuting => ?_⟩
    · rw [hview]
      unfold View.asked
      rw [hqueue]
      rfl
    · exact absurd hexecuting (ne_true_of_eq_false hexec')
  exact {
    pipeline := hpipeline
    current := by rw [hview]; exact h.current
    connected := by rw [hview]; exact h.connected
    link := h.link
    received := by
      unfold Bench.requests
      rw [hview]
      exact congrArg (· ++ [msg]) h.received
    sent := by unfold Bench.replies; rw [hview]; exact h.sent
    stage := .queued hasked hexec' ⟨hsilent.up, hsilent.down, hsilent.sends⟩ hdevice }

end Requests

/-- A request. -/
theorem Sim.client {b : Bench} {a : Desk} (h : Sim b a) {x' : Server} {msg answer : List Byte}
    (hstep : Server.step b.server (.client (some msg) answer) = some x') (hx' : Alive x') :
    Follows a (b.afterStep (resets b.server (.client (some msg) answer)) x') := by
  have hmove := move_of_step h.pipeline hstep hx'
  have hpipeline := pipeline_of_move h.pipeline hmove
  obtain ⟨hexec, hqueue⟩ := h.pipeline.client (phase_of_client hmove)
  obtain ⟨hpending, howed, -⟩ := h.idle_of_queue hqueue
  rw [show resets b.server (.client (some msg) answer) = false from rfl]
  rcases view_of_client h.pipeline howed hstep hx' with
    ⟨hconn, last, hview⟩ | ⟨hconn, ⟨hcommand, reply, last, hview⟩ | ⟨cmd, data, hcommand, hview⟩⟩
  · rw [h.afterStep_eq (by rw [hview]; rfl)]
    refine .step (.refuse msg) _ ?_ (h.replied hpipeline hqueue hview)
    exact if_neg (ne_true_of_eq_false (h.connected.symm.trans hconn))
  · rw [h.afterStep_eq (by rw [hview]; rfl)]
    refine .step (.other msg reply) _ ?_ (h.replied hpipeline hqueue hview)
    exact if_pos ⟨h.connected.symm.trans hconn, hpending, hcommand⟩
  · rw [h.afterStep_eq (by rw [hview]; rfl)]
    refine .step (.ask msg) _ ?_ (h.asked hpipeline hqueue hcommand hexec hview)
    exact if_pos ⟨h.connected.symm.trans hconn, hpending, by rw [hcommand]; rfl⟩

/-- A step of the thread that is no end of an operation on the socket. -/
theorem Sim.server {b : Bench} {a : Desk} (h : Sim b a) {x' : Server} {e : Comms.Event}
    (he : e.ofSocket = false) (hstep : Server.step b.server e = some x') (hx' : Alive x') :
    Follows a (b.afterStep (resets b.server e) x') := by
  have hmove := move_of_step h.pipeline hstep hx'
  cases e with
  | iterate attempt => exact h.iterate hstep hx'
  | client request answer =>
    cases request with
    | some msg => exact h.client hstep hx'
    | none =>
      generalize hv' : x'.view = v' at hmove
      cases hmove with
      | noRequest _ hphase howed => exact .stay (h.turn rfl hstep hx' _ hv' rfl).2
      | giveUp _ _ hphase howed =>
        -- the client manager waits for an answer only while a command is queued
        have hidle := h.idle_of_queue (h.pipeline.client hphase).2
        exact absurd howed (ne_true_of_eq_false hidle.2.1)
  | cancel =>
    generalize hv' : x'.view = v' at hmove
    cases hmove with
    | cancel hphase => exact .stay (h.turn rfl hstep hx' b.server.phase hv' rfl).2
  | finish id =>
    generalize hv' : x'.view = v' at hmove
    cases hmove with
    | finish => exact .stay (h.turn rfl hstep hx' b.server.phase hv' rfl).2
  | idle =>
    generalize hv' : x'.view = v' at hmove
    cases hmove with
    | idle hphase => exact .stay (h.turn rfl hstep hx' _ hv' rfl).2
  | connected err attempt => cases he
  | sent err bytes_sent => cases he
  | received err bytes => cases he

/-! ## The connection -/

theorem Sim.connect {b : Bench} {a : Desk} (h : Sim b a) {x' : Server}
    (hstep : Server.step b.server (.connected none {}) = some x') (hx' : Alive x') :
    Follows a { b with
      server := x'
      link := if b.link = .unconnected then .connected else b.link } := by
  have hmove := move_of_step h.pipeline hstep hx'
  have hpipeline := pipeline_of_move h.pipeline hmove
  generalize hv' : x'.view = v' at hmove hpipeline
  cases hmove with
  | connected _ hphase hconnecting =>
    have hconn := h.pipeline.connecting hconnecting
    have hconn' : a.connected = false := h.connected.symm.trans hconn
    have hlink := h.link.mpr hconn'
    have hqueue := h.pipeline.queue_eq_nil_of_not_connected hconn
    obtain ⟨hpending, howed, hsilent, hdevice⟩ := h.idle_of_queue hqueue
    rw [if_pos hlink]
    refine .step .connect { a with connected := true } (if_neg (ne_true_of_eq_false hconn')) ?_
    exact {
      pipeline := by rw [hv']; exact hpipeline
      current := by rw [hv']; exact h.current
      connected := by rw [hv']
      link := iff_of_false Link.noConfusion Bool.noConfusion
      received := by unfold Bench.requests; rw [hv']; exact h.received
      sent := by unfold Bench.replies; rw [hv']; exact h.sent
      stage := by
        refine .idle hpending (by rw [hv']; exact hqueue) (by rw [hv']; exact howed)
          ⟨hsilent.up, hsilent.down, hsilent.sends⟩ ?_
        unfold deviceOf at hdevice ⊢
        rw [hlink] at hdevice
        exact hdevice }

/-- The reads of the test server are no part of the stages. -/
theorem Sim.reads {b : Bench} {a : Desk} (h : Sim b a) (accepted : Bool) (reads : ℕ) :
    Sim { b with accepted := accepted, spidr := { b.spidr with pendingReads := reads } } a :=
  Turned.sim (b := b) ⟨rfl, rfl, rfl, rfl, rfl, rfl, rfl, rfl⟩ h.pipeline h

/-! ## Transfers -/

section Transfers

variable {b : Bench} {a : Desk} (h : Sim b a)
include h

/-- What the thread sends is the command that was asked for. -/
theorem Sim.serverSends {bytes : List Byte} {x' : Server}
    (hsend : b.server.thread.mTpxManager.pendingSend = some bytes)
    (hstep : Server.step b.server (.sent none bytes.length) = some x') (hx' : Alive x') :
    Sim { b with server := x', up := b.carry b.up bytes } a := by
  have hmove := move_of_step h.pipeline hstep hx'
  have hpipeline := pipeline_of_move h.pipeline hmove
  generalize hv' : x'.view = v' at hmove hpipeline
  cases hmove with
  | sent _ _ hphase hsending =>
    have hexec := h.pipeline.executing_of_sending hsending
    obtain ⟨msg, cmd, data, asked, fits, send, silent, device⟩ := h.sending_cases hsending
    cases send.symm.trans hsend
    have hasked : ∀ up, Asked { b with server := x', up := up } a msg cmd data := fun up =>
      asked.congr (by rw [hv']) (by rw [hv']) (by rw [hv'])
    have hconn := (h.pipeline.queuedBy asked.queue).connected
    have hstage : Stage { b with server := x', up := b.carry b.up (wire cmd.code data) } a := by
      unfold Bench.carry
      rw [silent.up]
      unfold deviceOf at device
      rcases h.link_cases (h.connected.symm.trans hconn) with hlink | hlink
      · rw [hlink] at device
        rw [if_pos hlink]
        exact .coming ⟨hasked _, hlink, by rw [hv']⟩ fits rfl silent.down silent.sends device
      · -- what is sent is lost
        rw [hlink] at device
        rw [if_neg (by rw [hlink]; exact Link.noConfusion)]
        refine .stuck (hasked _) ?_ (by rw [hv']; exact hexec) (by rw [hv'])
          ⟨rfl, silent.down, silent.sends⟩
        unfold Desk.answer
        rw [device]
        rfl
    exact h.congr (by rw [hv']; exact hpipeline) (by rw [hv']) (by rw [hv']) (by rw [hv']) rfl
      hstage

/-- The test server reads the command, or the end of the connection. -/
theorem Sim.spidrReads (hbuffer : b.spidr.mTcpSendBuffer.length = BUFFER_SIZE) {s : SpidrServer}
    (hs : b.spidr.received b.up = some s) : Sim { b with spidr := s, up := [] } a := by
  by_cases hup : b.up = []
  · rw [hup, SpidrServer.received_nil] at hs
    cases hs
    exact Turned.sim (b := b) ⟨rfl, rfl, rfl, hup.symm, rfl, rfl, rfl, rfl⟩ h.pipeline h
  · obtain ⟨msg, cmd, data, awaited, fits, up, down, sends, device⟩ := h.coming_cases hup
    obtain ⟨buffer, hreceived⟩ := SpidrServer.received_wire hbuffer fits cmd
    rw [up, hreceived] at hs
    obtain ⟨reads, hserved⟩ := served_eq { b.spidr with
      mTcpReceiveBuffer := buffer, pendingReads := b.spidr.pendingReads - 1 } cmd (padded data)
    rw [hserved] at hs
    cases hs
    refine h.congr h.pipeline rfl rfl rfl rfl (.served (awaited.of_server_eq rfl rfl) device rfl
      down ?_ (take_fill _ rfl) rfl)
    rw [sends, List.nil_append]

/-- What the test server sends is the outcome. -/
theorem Sim.spidrSends {size : ℕ} {sizes : List ℕ} (hsends : b.spidr.pendingSends = size :: sizes) :
    Sim { b with
      spidr := b.spidr.sent
      down := b.carry b.down (b.spidr.mTcpSendBuffer.take size) } a := by
  obtain ⟨msg, cmd, data, voltage, awaited, device, up, down, sends, buffer, voltage'⟩ :=
    h.served_cases (by rw [hsends]; exact List.cons_ne_nil _ _)
  cases hsends.symm.trans sends
  refine h.congr h.pipeline rfl rfl rfl rfl (.going (awaited.of_server_eq rfl rfl) device up ?_ ?_
    voltage')
  · unfold Bench.carry
    rw [if_pos awaited.link, down, buffer]
    rfl
  · show b.spidr.pendingSends.tail = []
    rw [hsends]
    rfl

end Transfers

/-! ## Responses -/

/-- No packet begins with zeros. -/
theorem not_completePacket_zeros : ¬ CompletePacket (List.replicate 20 0) := by
  intro h
  exact h.reply (by decide)

/-- An answer of the device is a complete packet, and is handed on as it is. -/
theorem processed_response {v : View} {voltage : ℚ} {cmd : TpxCommand} {data : DataVec}
    {answer : ℚ × DataVec} (h : SpidrServer.serve voltage cmd data = some answer) :
    CompletePacket (SpidrServer.response cmd answer.2) ∧
      (v.processed (SpidrServer.response cmd answer.2)) = { v with
        client := { v.client with
          mCommandSocket :=
            v.client.mCommandSocket.send (wordsToBytes (v.client.mLastCommand.code :: answer.2)) }
        executing := false
        source := none
        queue := []
        reading := false } := by
  obtain ⟨hnonempty, hfits, hknown, hunmarked⟩ := SpidrServer.proper_of_serve h
  refine ⟨completePacket_wire hfits, ?_⟩
  unfold View.processed SpidrServer.response
  rw [responseCommand_wire hunmarked, hknown, responseData_wire hfits]
  unfold padded PythonConnectionManager.answered
  rw [if_neg hnonempty]
  dsimp only
  rw [if_neg (not_not.mpr rfl)]

section Reads

variable {b : Bench} {a : Desk} (h : Sim b a) {x' : Server} {msg : List Byte} {cmd : TpxCommand}
  {data : DataVec} {voltage : ℚ} (hawaited : Awaited b a msg cmd data)
  (hdevice : a.device = some voltage) (hup : b.up = []) (hsends : b.spidr.pendingSends = [])
  (hmove : Move b.server.view (.received none b.down) x'.view)
include h hawaited hdevice hup hsends hmove

/-- The thread reads an answer. -/
theorem Sim.reads_answer {answer : ℚ × DataVec}
    (hserve : SpidrServer.serve voltage cmd (padded data) = some answer)
    (hdown : b.down = SpidrServer.response cmd answer.2)
    (hvoltage : b.spidr.mBiasVoltage = answer.1) :
    Follows a { b with server := x', down := [] } := by
  have hasked := hawaited.asked
  obtain ⟨hcomplete, hprocessed⟩ := processed_response (v := b.server.view) hserve
  have hview : x'.view = b.server.view.processed (SpidrServer.response cmd answer.2) := by
    rw [← hdown] at hcomplete ⊢
    exact (hmove.of_received.resolve_right fun hincomplete => hincomplete.1 hcomplete).2
  rw [hprocessed] at hview
  refine .step .answer { a with
    device := some answer.1
    pending := none
    sent := a.sent ++ [wordsToBytes ((requestCode msg).code :: answer.2)] } ?_ ?_
  · show a.answer.map _ = _
    rw [hasked.answer_eq hdevice, hserve]
    rfl
  · exact {
      pipeline := pipeline_of_move h.pipeline hmove
      current := by rw [hview]; exact h.current
      connected := by rw [hview]; exact h.connected
      link := h.link
      received := by unfold Bench.requests; rw [hview]; exact h.received
      sent := by
        unfold Bench.replies
        rw [hview, ← hasked.last]
        exact congrArg (· ++ _) h.sent
      stage := by
        refine .idle rfl (by rw [hview]) (by rw [hview]; rfl) ⟨hup, rfl, hsends⟩ ?_
        unfold deviceOf
        rw [show ({ b with server := x', down := [] } : Bench).link = .connected from
          hawaited.link, if_neg Link.noConfusion]
        exact congrArg some hvoltage.symm }

/-- The thread reads an error, and waits on. -/
theorem Sim.reads_error (hserve : SpidrServer.serve voltage cmd (padded data) = none)
    (hdown : b.down = List.replicate 20 0) : Sim { b with server := x', down := [] } a := by
  have hview : x'.view = { b.server.view with reading := false } := by
    refine (hmove.of_received.resolve_left fun hprocessed => ?_).2
    rw [hdown] at hprocessed
    exact not_completePacket_zeros hprocessed.1
  have hasked : Asked { b with server := x', down := [] } a msg cmd data :=
    hawaited.asked.congr (by rw [hview]) (by rw [hview]) (by rw [hview])
  refine h.congr (pipeline_of_move h.pipeline hmove) (by rw [hview]) (by rw [hview])
    (by rw [hview]) rfl (.stuck hasked ?_ ?_ ?_ ⟨hup, rfl, hsends⟩)
  · rw [hasked.answer_eq hdevice, hserve]
    rfl
  · rw [hview]
    exact h.pipeline.executing_of_reading hawaited.reading
  · rw [hview]
    exact h.pipeline.exclusive hawaited.reading

end Reads

/-- The thread reads the response. -/
theorem Sim.serverReads {b : Bench} {a : Desk} (h : Sim b a) {x' : Server}
    (hlen : 0 < b.down.length)
    (hstep : Server.step b.server (.received none b.down) = some x') (hx' : Alive x') :
    Follows a { b with server := x', down := [] } := by
  have hmove := move_of_step h.pipeline hstep hx'
  obtain ⟨msg, cmd, data, voltage, awaited, device, up, down, sends, voltage'⟩ :=
    h.going_cases (List.length_pos_iff.mp hlen)
  unfold outcome at down voltage'
  cases hserve : SpidrServer.serve voltage cmd (padded data) with
  | some answer =>
    rw [hserve] at down voltage'
    exact h.reads_answer awaited device up sends hmove hserve down voltage'
  | none =>
    rw [hserve] at down
    exact .stay (h.reads_error awaited device up sends hmove hserve down)

/-! ## The refinement -/

/-- **One step.** While transfers are whole, every step of the bench is one of the desk, or none. -/
theorem Sim.step {b b' : Bench} {a : Desk} {e : Event} (h : Sim b a)
    (hbuffer : b.spidr.mTcpSendBuffer.length = BUFFER_SIZE) (hbench : Bench.step b e = some b')
    (hb' : Alive b'.server) (hwhole : Whole b e) : Follows a b' := by
  cases moves_of_step hbench with
  | server he hstep => exact h.server he hstep (by rwa [server_afterStep] at hb')
  | connect hstep => exact h.connect hstep hb'
  | accept hlink haccepted => exact .stay (h.reads true (b.spidr.pendingReads + 1))
  | @serverSends n bytes x' hsend hle hstep =>
    have hn : n = bytes.length := by
      have hwhole : n = (b.server.thread.mTpxManager.pendingSend.getD []).length := hwhole
      rwa [hsend] at hwhole
    cases hn
    rw [List.take_length]
    exact .stay (h.serverSends hsend hstep hb')
  | @spidrReads n s hread hs =>
    have hn : n = b.up.length := hwhole
    cases hn
    rw [List.take_length] at hs
    rw [List.drop_length]
    exact .stay (h.spidrReads hbuffer hs)
  | @spidrSends n size sizes hsends hle =>
    have hwhole : b.spidr.pendingSends.head? = some n := hwhole
    rw [hsends] at hwhole
    cases hwhole
    exact .stay (h.spidrSends hsends)
  | @serverReads n x' hpos hle hstep =>
    have hn : n = b.down.length := hwhole
    cases hn
    rw [List.take_length] at hstep
    rw [List.drop_length]
    exact h.serverReads hpos hstep hb'

/-! ## The test server is ready -/

/-- The buffers keep their sizes, and as long as the connection is there, the test server reads, or
will read again after a send. -/
structure Ready (b : Bench) : Prop where
  buffer : b.spidr.mTcpSendBuffer.length = BUFFER_SIZE
  receive : b.spidr.mTcpReceiveBuffer.length = BUFFER_SIZE
  unconnected : b.link = .unconnected → b.accepted = false
  reads : b.link = .connected → b.accepted = true →
    0 < b.spidr.pendingReads + b.spidr.pendingSends.length

theorem ready_start : Ready {} where
  buffer := List.length_replicate
  receive := List.length_replicate
  unconnected := fun _ => rfl
  reads := fun hlink => by cases hlink

theorem eq_zero_of_readTcp_eq_ghost {buffer : List Byte} {bytes : ℕ}
    (h : SpidrServer.readTcp buffer bytes = .ghost) : bytes = 0 := by
  by_contra hbytes
  unfold SpidrServer.readTcp at h
  rw [if_neg hbytes] at h
  dsimp only at h
  split at h
  · cases h
  split at h
  · cases h
  split at h
  · cases h
  split at h
  · cases h
  split at h
  · cases h
  · cases h

/-- A read that is no end of the connection starts a send. -/
theorem sends_of_received {s s' : SpidrServer} (hbuffer : s.mTcpSendBuffer.length = BUFFER_SIZE)
    {bytes : List Byte} (hs : s.received bytes = some s') :
    s'.mTcpReceiveBuffer = fill s.mTcpReceiveBuffer bytes ∧
      s'.mTcpSendBuffer.length = BUFFER_SIZE ∧ (bytes ≠ [] → s'.pendingSends ≠ []) := by
  unfold SpidrServer.received at hs
  dsimp only at hs
  split at hs
  · rename_i hread
    cases hs
    exact ⟨rfl, hbuffer, fun hbytes =>
      absurd (List.length_eq_zero_iff.mp (eq_zero_of_readTcp_eq_ghost hread)) hbytes⟩
  · cases hs
    refine ⟨rfl, ?_, fun _ => List.append_ne_nil_of_right_ne_nil _ (List.cons_ne_nil _ _)⟩
    exact (length_fill (by rw [List.length_replicate, hbuffer]; decide)).trans hbuffer
  · rename_i cmd data hread
    rw [SpidrServer.handleTcpCommand_eq (s := { s with
      mTcpReceiveBuffer := fill s.mTcpReceiveBuffer bytes
      pendingReads := s.pendingReads - 1 }) hbuffer] at hs
    obtain ⟨reads, hserved⟩ := served_eq { s with
      mTcpReceiveBuffer := fill s.mTcpReceiveBuffer bytes
      pendingReads := s.pendingReads - 1 } cmd data
    rw [hserved] at hs
    cases hs
    refine ⟨rfl, ?_, fun _ => List.append_ne_nil_of_right_ne_nil _ (List.cons_ne_nil _ _)⟩
    have hlen := length_outcome_le s.mBiasVoltage cmd data
    exact (length_fill (hlen.trans hbuffer.ge)).trans hbuffer

/-- **One step.** -/
theorem ready_step {b b' : Bench} {e : Event} (h : Ready b) (hstep : Bench.step b e = some b') :
    Ready b' := by
  cases moves_of_step hstep with
  | server =>
    unfold Bench.afterStep
    dsimp only
    split
    · exact ⟨h.buffer, h.receive, Link.noConfusion, Link.noConfusion⟩
    · exact ⟨h.buffer, h.receive, h.unconnected, h.reads⟩
  | connect =>
    refine ⟨h.buffer, h.receive, fun hlink => ?_, fun hlink haccepted => ?_⟩
    · dsimp only at hlink
      split at hlink
      · cases hlink
      · exact h.unconnected hlink
    · dsimp only at hlink haccepted
      split at hlink
      · rename_i hunconnected
        rw [h.unconnected hunconnected] at haccepted
        cases haccepted
      · exact h.reads hlink haccepted
  | accept hlink haccepted =>
    exact ⟨h.buffer, h.receive, fun hunconnected => absurd hunconnected hlink, fun _ _ =>
      Nat.add_pos_left (Nat.succ_pos b.spidr.pendingReads) _⟩
  | serverSends => exact ⟨h.buffer, h.receive, h.unconnected, h.reads⟩
  | @spidrReads n s hread hs =>
    obtain ⟨hreceive, hbuffer, hsends⟩ := sends_of_received h.buffer hs
    obtain ⟨-, hup, hroom, hlink⟩ := hread
    have hlen : (b.up.take n).length = n := List.length_take_of_le hup
    refine ⟨hbuffer, ?_, h.unconnected, fun hconn _ => ?_⟩
    · rw [hreceive, length_fill (hlen.trans_le hroom)]
      exact h.receive
    · have hpos : 0 < n := by
        rcases hlink with ⟨-, hpos⟩ | ⟨hclosed, -⟩
        · exact hpos
        · cases hclosed.symm.trans hconn
      refine Nat.add_pos_right _ (List.length_pos_iff.mpr (hsends ?_))
      rw [← List.length_pos_iff, hlen]
      exact hpos
  | spidrSends =>
    exact ⟨h.buffer, h.receive, h.unconnected, fun _ _ =>
      Nat.add_pos_left (Nat.succ_pos b.spidr.pendingReads) _⟩
  | serverReads => exact ⟨h.buffer, h.receive, h.unconnected, h.reads⟩

end TpxServer.Dummy
