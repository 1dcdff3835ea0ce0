import TpxServer.Dummy.System

/-!
# The stages of a request

While every transfer is whole, a request goes through stages: it is queued, sent, on its way to the
test server, served there, on its way back, and answered, unless the device has no answer or the
connection was closed before. `Sim` relates the bench in each stage to the desk, where a request is
asked and answered in two steps.
-/

namespace TpxServer.Dummy

open Comms Comms.TimepixConnectionManager Comms.PythonConnectionManager

/-! ## What the test server sends -/

/-- The voltage after a command, and the bytes that are sent for it. -/
def outcome (voltage : ℚ) (cmd : TpxCommand) (data : DataVec) : ℚ × List Byte :=
  match SpidrServer.serve voltage cmd data with
  | some (voltage, words) => (voltage, SpidrServer.response cmd words)
  | none => (voltage, List.replicate 20 0)

theorem length_outcome_le (voltage : ℚ) (cmd : TpxCommand) (data : DataVec) :
    (outcome voltage cmd data).2.length ≤ BUFFER_SIZE := by
  unfold outcome
  cases hserve : SpidrServer.serve voltage cmd data with
  | none =>
    rw [List.length_replicate]
    decide
  | some answer =>
    have hfits := (SpidrServer.proper_of_serve hserve).fits
    show (wire _ answer.2).length ≤ BUFFER_SIZE
    rw [length_wire]
    have hpad := length_padded answer.2
    unfold messageSize at hfits
    omega

theorem outcome_ne_nil (voltage : ℚ) (cmd : TpxCommand) (data : DataVec) :
    0 < (outcome voltage cmd data).2.length := by
  unfold outcome
  cases hserve : SpidrServer.serve voltage cmd data with
  | none =>
    rw [List.length_replicate]
    decide
  | some answer =>
    show 0 < (wire _ answer.2).length
    rw [length_wire]
    omega

/-- The test server has the outcome in its buffer, and the send is started. -/
theorem served_eq (s : SpidrServer) (cmd : TpxCommand) (data : DataVec) :
    ∃ reads, s.served cmd data = { s with
      mTcpSendBuffer := fill s.mTcpSendBuffer (outcome s.mBiasVoltage cmd data).2
      mBiasVoltage := (outcome s.mBiasVoltage cmd data).1
      pendingReads := reads
      pendingSends := s.pendingSends ++ [(outcome s.mBiasVoltage cmd data).2.length] } := by
  unfold SpidrServer.served outcome
  cases SpidrServer.serve s.mBiasVoltage cmd data with
  | none => exact ⟨s.pendingReads, rfl⟩
  | some answer => exact ⟨s.pendingReads + 1, rfl⟩

theorem length_fill {buffer bytes : List Byte} (h : bytes.length ≤ buffer.length) :
    (fill buffer bytes).length = buffer.length := by
  unfold fill
  rw [List.length_append, List.length_drop]
  omega

/-! ## Stages of a request -/

/-- The request that the server passes on. -/
structure Asked (b : Bench) (a : Desk) (msg : List Byte) (cmd : TpxCommand) (data : DataVec) :
    Prop where
  pending : a.pending = some msg
  command : commandOf msg = some (cmd, data)
  queue : b.server.view.queue = [⟨cmd, data, b.server.view.client.id⟩]
  last : b.server.view.client.mLastCommand = requestCode msg
  /-- A reset is not sent. -/
  executing : b.server.view.executing = true → cmd ≠ .CMD_RESET_MODULE

/-- What the device answers. -/
theorem Asked.answer_eq {b : Bench} {a : Desk} {msg : List Byte} {cmd : TpxCommand}
    {data : DataVec} (h : Asked b a msg cmd data) {voltage : ℚ}
    (hdevice : a.device = some voltage) :
    a.answer = (SpidrServer.serve voltage cmd (padded data)).map fun answer =>
      (answer.1, wordsToBytes ((requestCode msg).code :: answer.2)) := by
  unfold Desk.answer
  rw [hdevice, Option.bind_some, h.pending, Option.bind_some, h.command, Option.bind_some]

theorem Asked.resetAnswer_eq {b : Bench} {a : Desk} {msg : List Byte} {cmd : TpxCommand}
    {data : DataVec} (h : Asked b a msg cmd data) : a.resetAnswer =
      if cmd = .CMD_RESET_MODULE then some (wordsToBytes [(requestCode msg).code]) else none := by
  unfold Desk.resetAnswer
  rw [h.pending, Option.bind_some, h.command, Option.bind_some]

theorem Asked.congr {b b' : Bench} {a : Desk} {msg : List Byte} {cmd : TpxCommand}
    {data : DataVec} (h : Asked b a msg cmd data)
    (hclient : b'.server.view.client = b.server.view.client)
    (hqueue : b'.server.view.queue = b.server.view.queue)
    (hexec : b'.server.view.executing = b.server.view.executing) : Asked b' a msg cmd data where
  pending := h.pending
  command := h.command
  queue := by rw [hqueue, hclient]; exact h.queue
  last := by rw [hclient]; exact h.last
  executing := by rw [hexec]; exact h.executing

/-- The same while the server waits for the response. -/
structure Awaited (b : Bench) (a : Desk) (msg : List Byte) (cmd : TpxCommand) (data : DataVec) :
    Prop where
  asked : Asked b a msg cmd data
  link : b.link = .connected
  reading : b.server.view.reading = true

theorem Awaited.of_server_eq {b b' : Bench} {a : Desk} {msg : List Byte} {cmd : TpxCommand}
    {data : DataVec} (h : Awaited b a msg cmd data) (hserver : b'.server = b.server)
    (hlink : b'.link = b.link) : Awaited b' a msg cmd data := by
  refine ⟨h.asked.congr ?_ ?_ ?_, hlink.trans h.link, ?_⟩
  · rw [hserver]
  · rw [hserver]
  · rw [hserver]
  · rw [hserver]
    exact h.reading

/-- Nothing is on its way. -/
structure Silent (b : Bench) : Prop where
  up : b.up = []
  down : b.down = []
  sends : b.spidr.pendingSends = []

/-- The device at the desk, for the test server. -/
def deviceOf (b : Bench) : Option ℚ :=
  if b.link = .closed then none else some b.spidr.mBiasVoltage

inductive Stage (b : Bench) (a : Desk) : Prop where
  | idle (pending : a.pending = none) (queue : b.server.view.queue = [])
      (owed : b.server.view.client.mCommandSocket.replyOwed = false) (silent : Silent b)
      (device : a.device = deviceOf b)
  | queued {msg : List Byte} {cmd : TpxCommand} {data : DataVec} (asked : Asked b a msg cmd data)
      (executing : b.server.view.executing = false) (silent : Silent b)
      (device : a.device = deviceOf b)
  | sending {msg : List Byte} {cmd : TpxCommand} {data : DataVec} (asked : Asked b a msg cmd data)
      (fits : messageSize data * 4 ≤ BUFFER_SIZE)
      (send : b.server.thread.mTpxManager.pendingSend = some (wire cmd.code data))
      (silent : Silent b) (device : a.device = deviceOf b)
  /-- The command is on its way to the test server. -/
  | coming {msg : List Byte} {cmd : TpxCommand} {data : DataVec}
      (awaited : Awaited b a msg cmd data) (fits : messageSize data * 4 ≤ BUFFER_SIZE)
      (up : b.up = wire cmd.code data) (down : b.down = []) (sends : b.spidr.pendingSends = [])
      (device : a.device = some b.spidr.mBiasVoltage)
  /-- The device has the command already, the desk not yet. -/
  | served {msg : List Byte} {cmd : TpxCommand} {data : DataVec} {voltage : ℚ}
      (awaited : Awaited b a msg cmd data) (device : a.device = some voltage) (up : b.up = [])
      (down : b.down = [])
      (sends : b.spidr.pendingSends = [(outcome voltage cmd (padded data)).2.length])
      (buffer : b.spidr.mTcpSendBuffer.take (outcome voltage cmd (padded data)).2.length =
        (outcome voltage cmd (padded data)).2)
      (voltage' : b.spidr.mBiasVoltage = (outcome voltage cmd (padded data)).1)
  /-- The response is on its way to the server. -/
  | going {msg : List Byte} {cmd : TpxCommand} {data : DataVec} {voltage : ℚ}
      (awaited : Awaited b a msg cmd data) (device : a.device = some voltage) (up : b.up = [])
      (down : b.down = (outcome voltage cmd (padded data)).2)
      (sends : b.spidr.pendingSends = [])
      (voltage' : b.spidr.mBiasVoltage = (outcome voltage cmd (padded data)).1)
  /-- The device has no answer, or the connection was closed: nothing will come. -/
  | stuck {msg : List Byte} {cmd : TpxCommand} {data : DataVec} (asked : Asked b a msg cmd data)
      (answer : a.answer = none) (executing : b.server.view.executing = true)
      (sending : b.server.view.sending = false) (silent : Silent b)

/-- The bench, and the desk that the client could think it sits at. -/
structure Sim (b : Bench) (a : Desk) : Prop where
  pipeline : Pipeline b.server.view
  current : b.server.view.renew = false
  connected : b.server.view.connected = a.connected
  link : b.link = .unconnected ↔ a.connected = false
  received : a.received = b.requests
  sent : a.sent = b.replies
  stage : Stage b a

/-- Client and connection are as they were. -/
theorem Sim.congr {b b' : Bench} {a : Desk} (h : Sim b a) (hpipeline : Pipeline b'.server.view)
    (hrenew : b'.server.view.renew = b.server.view.renew)
    (hconn : b'.server.view.connected = b.server.view.connected)
    (hclient : b'.server.view.client = b.server.view.client) (hlink : b'.link = b.link)
    (hstage : Stage b' a) : Sim b' a where
  pipeline := hpipeline
  current := hrenew.trans h.current
  connected := hconn.trans h.connected
  link := by rw [hlink]; exact h.link
  received := by unfold Bench.requests; rw [hclient]; exact h.received
  sent := by unfold Bench.replies; rw [hclient]; exact h.sent
  stage := hstage

/-! ## Steps that change nothing of a stage -/

/-- Only the phase of the server and the reads of the test server change. -/
structure Turned (b b' : Bench) : Prop where
  view : b'.server.view = { b.server.view with phase := b'.server.phase }
  send : b'.server.thread.mTpxManager.pendingSend = b.server.thread.mTpxManager.pendingSend
  link : b'.link = b.link
  up : b'.up = b.up
  down : b'.down = b.down
  sends : b'.spidr.pendingSends = b.spidr.pendingSends
  buffer : b'.spidr.mTcpSendBuffer = b.spidr.mTcpSendBuffer
  voltage : b'.spidr.mBiasVoltage = b.spidr.mBiasVoltage

namespace Turned

variable {b b' : Bench} {a : Desk} {msg : List Byte} {cmd : TpxCommand} {data : DataVec}
  (h : Turned b b')
include h

theorem client : b'.server.view.client = b.server.view.client := by rw [h.view]

theorem queue : b'.server.view.queue = b.server.view.queue := by rw [h.view]

theorem executing : b'.server.view.executing = b.server.view.executing := by rw [h.view]

theorem asked (hasked : Asked b a msg cmd data) : Asked b' a msg cmd data :=
  hasked.congr h.client h.queue h.executing

theorem awaited (hawaited : Awaited b a msg cmd data) : Awaited b' a msg cmd data where
  asked := h.asked hawaited.asked
  link := h.link.trans hawaited.link
  reading := (congrArg View.reading h.view).trans hawaited.reading

theorem silent (hsilent : Silent b) : Silent b' where
  up := h.up.trans hsilent.up
  down := h.down.trans hsilent.down
  sends := h.sends.trans hsilent.sends

theorem deviceOf_eq : deviceOf b' = deviceOf b := by
  unfold deviceOf
  rw [h.link, h.voltage]

theorem stage (hstage : Stage b a) : Stage b' a := by
  cases hstage with
  | idle pending queue owed silent device =>
    refine .idle pending (h.queue.trans queue) ?_ (h.silent silent)
      (device.trans h.deviceOf_eq.symm)
    rw [h.client]
    exact owed
  | queued asked executing silent device =>
    exact .queued (h.asked asked) (h.executing.trans executing) (h.silent silent)
      (device.trans h.deviceOf_eq.symm)
  | sending asked fits send silent device =>
    exact .sending (h.asked asked) fits (h.send.trans send) (h.silent silent)
      (device.trans h.deviceOf_eq.symm)
  | coming awaited fits up down sends device =>
    refine .coming (h.awaited awaited) fits (h.up.trans up) (h.down.trans down)
      (h.sends.trans sends) ?_
    rw [h.voltage]
    exact device
  | served awaited device up down sends buffer voltage' =>
    refine .served (h.awaited awaited) device (h.up.trans up) (h.down.trans down)
      (h.sends.trans sends) ?_ (h.voltage.trans voltage')
    rw [h.buffer]
    exact buffer
  | going awaited device up down sends voltage' =>
    exact .going (h.awaited awaited) device (h.up.trans up) (h.down.trans down)
      (h.sends.trans sends) (h.voltage.trans voltage')
  | stuck asked answer executing sending silent =>
    exact .stuck (h.asked asked) answer (h.executing.trans executing)
      ((congrArg View.sending h.view).trans sending) (h.silent silent)

theorem sim (hpipeline : Pipeline b'.server.view) (hsim : Sim b a) : Sim b' a :=
  hsim.congr hpipeline (by rw [h.view]) (by rw [h.view]) h.client h.link (h.stage hsim.stage)

end Turned

/-! ## What a stage excludes -/

theorem Asked.queue_ne_nil {b : Bench} {a : Desk} {msg : List Byte} {cmd : TpxCommand}
    {data : DataVec} (h : Asked b a msg cmd data) : b.server.view.queue ≠ [] := by
  rw [h.queue]
  exact List.cons_ne_nil _ _

section Stages

variable {b : Bench} {a : Desk} (h : Sim b a)
include h

/-- While no command is queued, the client is not waiting for an answer. -/
theorem Sim.idle_of_queue (hqueue : b.server.view.queue = []) : a.pending = none ∧
    b.server.view.client.mCommandSocket.replyOwed = false ∧ Silent b ∧ a.device = deviceOf b := by
  cases h.stage with
  | idle pending queue owed silent device => exact ⟨pending, owed, silent, device⟩
  | queued asked executing silent device => exact absurd hqueue asked.queue_ne_nil
  | sending asked fits send silent device => exact absurd hqueue asked.queue_ne_nil
  | coming awaited => exact absurd hqueue awaited.asked.queue_ne_nil
  | served awaited => exact absurd hqueue awaited.asked.queue_ne_nil
  | going awaited => exact absurd hqueue awaited.asked.queue_ne_nil
  | stuck asked => exact absurd hqueue asked.queue_ne_nil

/-- A command that is queued and not executed was not sent. -/
theorem Sim.queued_of_not_executing {info : TimepixCommandInfo}
    (hqueue : b.server.view.queue = [info]) (hexec : b.server.view.executing = false) :
    ∃ msg, Asked b a msg info.command info.data ∧ Silent b ∧ a.device = deviceOf b := by
  have hinfo : ∀ {msg cmd data}, Asked b a msg cmd data →
      ∃ msg, Asked b a msg info.command info.data := by
    intro msg cmd data hasked
    have heq := hasked.queue.symm.trans hqueue
    cases heq
    exact ⟨msg, hasked⟩
  have hnot : b.server.view.executing = true → False := ne_true_of_eq_false hexec
  cases h.stage with
  | idle pending queue =>
    rw [queue] at hqueue
    cases hqueue
  | queued asked executing silent device =>
    obtain ⟨msg, hasked⟩ := hinfo asked
    exact ⟨msg, hasked, silent, device⟩
  | sending asked fits send silent device =>
    refine absurd (h.pipeline.executing_of_sending ?_) hnot
    show b.server.thread.mTpxManager.pendingSend.isSome = true
    rw [send]
    rfl
  | coming awaited => exact absurd (h.pipeline.executing_of_reading awaited.reading) hnot
  | served awaited => exact absurd (h.pipeline.executing_of_reading awaited.reading) hnot
  | going awaited => exact absurd (h.pipeline.executing_of_reading awaited.reading) hnot
  | stuck asked answer executing => exact absurd executing hnot

/-- What is sent is the command that was asked for. -/
theorem Sim.sending_cases (hsending : b.server.view.sending = true) : ∃ msg cmd data,
    Asked b a msg cmd data ∧ messageSize data * 4 ≤ BUFFER_SIZE ∧
      b.server.thread.mTpxManager.pendingSend = some (wire cmd.code data) ∧ Silent b ∧
        a.device = deviceOf b := by
  have hexec := h.pipeline.executing_of_sending hsending
  have hnot : b.server.view.reading = true → False := fun hread =>
    ne_true_of_eq_false (h.pipeline.exclusive hread) hsending
  cases h.stage with
  | sending asked fits send silent device => exact ⟨_, _, _, asked, fits, send, silent, device⟩
  | idle _ queue =>
    exact absurd hexec (ne_true_of_eq_false (h.pipeline.not_executing_of_queue_eq_nil queue))
  | queued _ executing => exact absurd hexec (ne_true_of_eq_false executing)
  | coming awaited => exact absurd awaited.reading hnot
  | served awaited => exact absurd awaited.reading hnot
  | going awaited => exact absurd awaited.reading hnot
  | stuck _ _ _ sending => exact absurd hsending (ne_true_of_eq_false sending)

/-- What is on its way to the test server is the command. -/
theorem Sim.coming_cases (hup : b.up ≠ []) : ∃ msg cmd data,
    Awaited b a msg cmd data ∧ messageSize data * 4 ≤ BUFFER_SIZE ∧ b.up = wire cmd.code data ∧
      b.down = [] ∧ b.spidr.pendingSends = [] ∧ a.device = some b.spidr.mBiasVoltage := by
  cases h.stage with
  | coming awaited fits up down sends device =>
    exact ⟨_, _, _, awaited, fits, up, down, sends, device⟩
  | idle _ _ _ silent => exact absurd silent.up hup
  | queued _ _ silent => exact absurd silent.up hup
  | sending _ _ _ silent => exact absurd silent.up hup
  | served _ _ up => exact absurd up hup
  | going _ _ up => exact absurd up hup
  | stuck _ _ _ _ silent => exact absurd silent.up hup

/-- What the test server sends is the outcome. -/
theorem Sim.served_cases (hsends : b.spidr.pendingSends ≠ []) : ∃ msg cmd data voltage,
    Awaited b a msg cmd data ∧ a.device = some voltage ∧ b.up = [] ∧ b.down = [] ∧
      b.spidr.pendingSends = [(outcome voltage cmd (padded data)).2.length] ∧
      b.spidr.mTcpSendBuffer.take (outcome voltage cmd (padded data)).2.length =
        (outcome voltage cmd (padded data)).2 ∧
      b.spidr.mBiasVoltage = (outcome voltage cmd (padded data)).1 := by
  cases h.stage with
  | served awaited device up down sends buffer voltage' =>
    exact ⟨_, _, _, _, awaited, device, up, down, sends, buffer, voltage'⟩
  | idle _ _ _ silent => exact absurd silent.sends hsends
  | queued _ _ silent => exact absurd silent.sends hsends
  | sending _ _ _ silent => exact absurd silent.sends hsends
  | coming _ _ _ _ sends => exact absurd sends hsends
  | going _ _ _ _ sends => exact absurd sends hsends
  | stuck _ _ _ _ silent => exact absurd silent.sends hsends

/-- What is on its way to the thread is the outcome. -/
theorem Sim.going_cases (hdown : b.down ≠ []) : ∃ msg cmd data voltage,
    Awaited b a msg cmd data ∧ a.device = some voltage ∧ b.up = [] ∧
      b.down = (outcome voltage cmd (padded data)).2 ∧ b.spidr.pendingSends = [] ∧
      b.spidr.mBiasVoltage = (outcome voltage cmd (padded data)).1 := by
  cases h.stage with
  | going awaited device up down sends voltage' =>
    exact ⟨_, _, _, _, awaited, device, up, down, sends, voltage'⟩
  | idle _ _ _ silent => exact absurd silent.down hdown
  | queued _ _ silent => exact absurd silent.down hdown
  | sending _ _ _ silent => exact absurd silent.down hdown
  | coming _ _ _ down => exact absurd down hdown
  | served _ _ _ down => exact absurd down hdown
  | stuck _ _ _ _ silent => exact absurd silent.down hdown

end Stages

end TpxServer.Dummy
