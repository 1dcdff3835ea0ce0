import TpxServer.Comms.Loop
import TpxServer.Comms.Packets

/-!
# The command pipeline

The fields that decide how the loop goes on form the view of a server. The pipeline invariant says
how they hang together: at most one command is queued, for the one request that is not answered yet.
The moves are the steps of the loop as seen in the view, and preserve the invariant.
-/

namespace TpxServer.Comms

open TimepixConnectionManager PythonConnectionManager

/-! ## Views -/

structure View where
  phase : Phase
  renew : Bool
  client : PythonConnectionManager
  cancelled : Bool
  connected : Bool
  executing : Bool
  source : Option ℕ
  queue : List TimepixCommandInfo
  connecting : Bool
  sending : Bool
  reading : Bool
  deriving Repr, DecidableEq

def CommsThread.view (s : CommsThread) (phase : Phase) : View where
  phase := phase
  renew := s.mShouldResetClient
  client := s.mClientManager
  cancelled := s.mTpxManager.mIsCancelled
  connected := s.mTpxManager.mIsConnected
  executing := s.mTpxManager.mIsExecutingCommand
  source := s.mTpxManager.mLastCommandSource
  queue := s.mTpxManager.mQueuedCommands
  connecting := s.mTpxManager.pendingConnect
  sending := s.mTpxManager.pendingSend.isSome
  reading := s.mTpxManager.pendingRead

def Server.view (x : Server) : View := x.thread.view x.phase

theorem view_of_sameButSignals {s s' : CommsThread} (h : SameButSignals s s') (phase : Phase) :
    s'.view phase = s.view phase := by
  obtain ⟨signals, rfl⟩ := h
  rfl

/-! ## The pipeline invariant -/

/-- A queued command belongs to the request that is waiting for an answer. -/
structure QueuedBy (v : View) (info : TimepixCommandInfo) : Prop where
  sender : info.sender = v.client.id
  connected : v.connected = true
  owed : v.client.mCommandSocket.replyOwed = true
  current : v.renew = false
  request : ∃ msg handler, v.client.mCommandSocket.received.getLast? = some msg ∧
    COMMAND_MAP.lookup (requestCode msg) = some handler ∧
    handlerCommand handler = some info.command ∧ v.client.mLastCommand = requestCode msg

/-- **Pipeline invariant.** At most one command is queued. While it is executed, it is the front of
the queue and its sender the current client manager; otherwise nothing is pending. -/
structure Pipeline (v : View) : Prop where
  alive : v.cancelled = false
  count : v.client.mCommandSocket.received.length =
    v.client.mCommandSocket.sent.length + if v.client.mCommandSocket.replyOwed then 1 else 0
  isOpen : v.renew = false → v.client.mCommandSocket.isOpen = true
  renewing : v.renew = true → v.phase = .head
  queued : v.queue = [] ∨ ∃ info, v.queue = [info] ∧ QueuedBy v info
  executing : v.executing = true → v.queue ≠ [] ∧ v.source = some v.client.id
  waiting : v.executing = false → v.source = none ∧ v.sending = false ∧ v.reading = false
  exclusive : v.reading = true → v.sending = false
  connecting : v.connecting = true → v.connected = false
  asio : v.phase = .asio → v.executing = false → v.queue = []
  client : v.phase = .client → v.executing = false ∧ v.queue = []

namespace Pipeline

variable {v : View} (h : Pipeline v)
include h

/-- A command in execution is the only one queued. -/
theorem queue_eq (hexec : v.executing = true) : ∃ info, v.queue = [info] ∧ QueuedBy v info :=
  h.queued.resolve_left (h.executing hexec).1

theorem queuedBy {info : TimepixCommandInfo} (hqueue : v.queue = [info]) : QueuedBy v info := by
  rcases h.queued with hnil | ⟨info', hqueue', hinfo'⟩
  · rw [hnil] at hqueue
    cases hqueue
  · rw [hqueue'] at hqueue
    cases hqueue
    exact hinfo'

theorem queue_eq_nil_of_not_connected (hconn : v.connected = false) : v.queue = [] := by
  rcases h.queued with hnil | ⟨info, -, hinfo⟩
  · exact hnil
  · exact absurd hinfo.connected (ne_true_of_eq_false hconn)

theorem not_executing_of_not_connected (hconn : v.connected = false) : v.executing = false := by
  cases hexec : v.executing with
  | false => rfl
  | true => exact absurd (h.queue_eq_nil_of_not_connected hconn) (h.executing hexec).1

theorem executing_of_reading (hread : v.reading = true) : v.executing = true := by
  cases hexec : v.executing with
  | true => rfl
  | false => exact absurd hread (ne_true_of_eq_false (h.waiting hexec).2.2)

theorem executing_of_sending (hsend : v.sending = true) : v.executing = true := by
  cases hexec : v.executing with
  | true => rfl
  | false => exact absurd hsend (ne_true_of_eq_false (h.waiting hexec).2.1)

end Pipeline

/-! ## Moves -/

/-- A new client manager, if the old one is to be replaced. -/
def View.renewed (v : View) : View :=
  if v.renew then { v with client := { id := v.client.id + 1 }, renew := false } else v

/-- The client manager after `genericHandler<sz>` was called through it. -/
def PythonConnectionManager.answered (c : PythonConnectionManager) (sz : ℕ) (data : DataVec) :
    PythonConnectionManager :=
  if data.length ≠ sz then
    { c with
      mLastCommand := .INVALID_COMMAND_DATA
      mCommandSocket :=
        c.mCommandSocket.send (wordsToBytes [ServerCommand.INVALID_COMMAND_DATA.code]) }
  else
    { c with mCommandSocket := c.mCommandSocket.send (wordsToBytes (c.mLastCommand.code :: data)) }

/-- The steps of a server as long as it is alive. -/
inductive Move (v : View) : Event → View → Prop where
  /-- The server is cancelled while it polls the `io_context`. -/
  | cancel (hphase : v.phase = .asio) : Move v .cancel v
  /-- A secondary thread ends. -/
  | finish (id : ℕ) : Move v (.finish id) v
  /-- An iteration begins without sending a command. -/
  | begin (attempt : Attempt) (hphase : v.phase = .head)
      (hready : v.connected = false ∨ v.executing = true ∨ v.queue = []) :
      Move v (.iterate attempt) { v.renewed with phase := .asio }
  /-- The queued command is sent. -/
  | send (attempt : Attempt) (info : TimepixCommandInfo) (hphase : v.phase = .head)
      (hexec : v.executing = false) (hqueue : v.queue = [info])
      (hcommand : info.command ≠ .CMD_RESET_MODULE) :
      Move v (.iterate attempt)
        { v with phase := .asio, executing := true, source := some v.client.id, sending := true }
  /-- The module is reset: the request is answered at once, and the connection built up again. -/
  | reset (attempt : Attempt) (info : TimepixCommandInfo) (hphase : v.phase = .head)
      (hexec : v.executing = false) (hqueue : v.queue = [info])
      (hcommand : info.command = .CMD_RESET_MODULE) :
      Move v (.iterate attempt)
        { v with
          phase := .client
          client := { v.client with
            mCommandSocket :=
              v.client.mCommandSocket.send (wordsToBytes [v.client.mLastCommand.code]) }
          connected := true
          executing := false
          source := none
          queue := []
          connecting := false
          sending := false
          reading := false }
  | connected (attempt : Attempt) (hphase : v.phase = .asio) (hconn : v.connecting = true) :
      Move v (.connected none attempt)
        { v with connected := true, executing := false, connecting := false }
  | sent (err : Option ErrorCode) (bytes_sent : ℕ) (hphase : v.phase = .asio)
      (hsend : v.sending = true) :
      Move v (.sent err bytes_sent) { v with sending := false, reading := true }
  /-- A complete packet with a known command id is handed to the client. -/
  | answer (bytes : List Byte) (sz : ℕ) (hphase : v.phase = .asio) (hread : v.reading = true)
      (hcomplete : CompletePacket bytes)
      (hlookup : HANDLER_MAP.lookup (responseCommand bytes) = some sz) :
      Move v (.received none bytes)
        { v with
          client := v.client.answered sz (responseData bytes)
          executing := false
          source := none
          queue := []
          reading := false }
  /-- A complete packet with an unknown command id ends the command without an answer. -/
  | lose (bytes : List Byte) (hphase : v.phase = .asio) (hread : v.reading = true)
      (hcomplete : CompletePacket bytes)
      (hlookup : HANDLER_MAP.lookup (responseCommand bytes) = none) :
      Move v (.received none bytes)
        { v with executing := false, source := none, queue := [], reading := false }
  /-- What is no complete packet is ignored, and no new read is started. -/
  | ignore (bytes : List Byte) (hphase : v.phase = .asio) (hread : v.reading = true)
      (hcomplete : ¬ CompletePacket bytes) :
      Move v (.received none bytes) { v with reading := false }
  | idle (hphase : v.phase = .asio) :
      Move v .idle { v with phase := if v.executing then .head else .client }
  | noRequest (answer : List Byte) (hphase : v.phase = .client)
      (howed : v.client.mCommandSocket.replyOwed = false) :
      Move v (.client none answer) { v with phase := .head }
  /-- A request is answered at once. -/
  | reply (msg answer reply : List Byte) (last : ServerCommand) (hphase : v.phase = .client)
      (howed : v.client.mCommandSocket.replyOwed = false) :
      Move v (.client (some msg) answer)
        { v with
          phase := .head
          client := { v.client with
            mLastCommand := last
            mCommandSocket := (v.client.mCommandSocket.recv msg).send reply } }
  /-- A request is queued for the SPIDR. -/
  | enqueue (msg answer : List Byte) (handler : ClientHandler) (info : TimepixCommandInfo)
      (hphase : v.phase = .client) (howed : v.client.mCommandSocket.replyOwed = false)
      (hconn : v.connected = true)
      (hlookup : COMMAND_MAP.lookup (requestCode msg) = some handler)
      (hcommand : handlerCommand handler = some info.command)
      (hsender : info.sender = v.client.id) :
      Move v (.client (some msg) answer)
        { v with
          phase := .head
          client := { v.client with
            mLastCommand := requestCode msg
            mCommandSocket := v.client.mCommandSocket.recv msg }
          queue := v.queue ++ [info] }
  /-- A request is read although the last one was not answered: the connection is given up. -/
  | giveUp (request : Option (List Byte)) (answer : List Byte) (hphase : v.phase = .client)
      (howed : v.client.mCommandSocket.replyOwed = true) :
      Move v (.client request answer)
        { v with
          phase := .head
          renew := true
          client := { v.client with
            mCommandSocket := { v.client.mCommandSocket with isOpen := false } } }

/-- After a complete packet was read: the command is over, and answered if the command id of the
packet is known. -/
def View.processed (v : View) (bytes : List Byte) : View :=
  { v with
    client :=
      match HANDLER_MAP.lookup (responseCommand bytes) with
      | some sz => v.client.answered sz (responseData bytes)
      | none => v.client
    executing := false
    source := none
    queue := []
    reading := false }

theorem Move.of_received {v v' : View} {bytes : List Byte}
    (h : Move v (.received none bytes) v') :
    (CompletePacket bytes ∧ v' = v.processed bytes) ∨
      (¬ CompletePacket bytes ∧ v' = { v with reading := false }) := by
  cases h with
  | answer bytes sz hphase hread hcomplete hlookup =>
    refine Or.inl ⟨hcomplete, ?_⟩
    unfold View.processed
    rw [hlookup]
  | lose bytes hphase hread hcomplete hlookup =>
    refine Or.inl ⟨hcomplete, ?_⟩
    unfold View.processed
    rw [hlookup]
  | ignore bytes hphase hread hcomplete => exact Or.inr ⟨hcomplete, rfl⟩

/-! ## The moves preserve the invariant -/

/-- Whether a command is queued by the current request depends on the client and the connection
only. -/
theorem QueuedBy.congr {v v' : View} {info : TimepixCommandInfo} (h : QueuedBy v info)
    (hclient : v'.client = v.client) (hconn : v'.connected = v.connected)
    (hrenew : v'.renew = v.renew) : QueuedBy v' info where
  sender := by rw [hclient]; exact h.sender
  connected := hconn.trans h.connected
  owed := by rw [hclient]; exact h.owed
  current := hrenew.trans h.current
  request := by rw [hclient]; exact h.request

namespace Pipeline

variable {v : View}

theorem queued_congr (h : Pipeline v) {v' : View} (hqueue : v'.queue = v.queue)
    (hclient : v'.client = v.client) (hconn : v'.connected = v.connected)
    (hrenew : v'.renew = v.renew) :
    v'.queue = [] ∨ ∃ info, v'.queue = [info] ∧ QueuedBy v' info := by
  rcases h.queued with hnil | ⟨info, hinfo, hby⟩
  · exact Or.inl (hqueue.trans hnil)
  · exact Or.inr ⟨info, hqueue.trans hinfo, hby.congr hclient hconn hrenew⟩

/-- A view without a command, queued or in execution. -/
theorem of_quiet (alive : v.cancelled = false)
    (count : v.client.mCommandSocket.received.length =
      v.client.mCommandSocket.sent.length + if v.client.mCommandSocket.replyOwed then 1 else 0)
    (isOpen : v.renew = false → v.client.mCommandSocket.isOpen = true)
    (renewing : v.renew = true → v.phase = .head) (connecting : v.connecting = true →
      v.connected = false) (queue : v.queue = []) (executing : v.executing = false)
    (source : v.source = none) (sending : v.sending = false) (reading : v.reading = false) :
    Pipeline v where
  alive := alive
  count := count
  isOpen := isOpen
  renewing := renewing
  queued := Or.inl queue
  executing := fun hexec => absurd hexec (ne_true_of_eq_false executing)
  waiting := fun _ => ⟨source, sending, reading⟩
  exclusive := fun _ => sending
  connecting := connecting
  asio := fun _ _ => queue
  client := fun _ => ⟨executing, queue⟩

theorem renew_eq_false (h : Pipeline v) (hphase : v.phase ≠ .head) : v.renew = false := by
  cases hrenew : v.renew with
  | false => rfl
  | true => exact absurd (h.renewing hrenew) hphase

/-- The manager is replaced only when nothing is queued for it. -/
theorem queue_eq_nil_of_renew (h : Pipeline v) (hrenew : v.renew = true) : v.queue = [] := by
  rcases h.queued with hnil | ⟨info, -, hinfo⟩
  · exact hnil
  · exact absurd hrenew (ne_true_of_eq_false hinfo.current)

theorem not_executing_of_queue_eq_nil (h : Pipeline v) (hqueue : v.queue = []) :
    v.executing = false := by
  cases hexec : v.executing with
  | false => rfl
  | true => exact absurd hqueue (h.executing hexec).1

theorem renewed (h : Pipeline v)
    (hready : v.connected = false ∨ v.executing = true ∨ v.queue = []) :
    Pipeline { v.renewed with phase := .asio } := by
  unfold View.renewed
  by_cases hrenew : v.renew = true
  · have hqueue := h.queue_eq_nil_of_renew hrenew
    have hexec := h.not_executing_of_queue_eq_nil hqueue
    obtain ⟨hsource, hsend, hread⟩ := h.waiting hexec
    rw [if_pos hrenew]
    exact of_quiet h.alive rfl (fun _ => rfl) (fun h => absurd h Bool.false_ne_true) h.connecting
      hqueue hexec hsource hsend hread
  · rw [if_neg hrenew]
    exact {
      alive := h.alive
      count := h.count
      isOpen := h.isOpen
      renewing := fun h => absurd h hrenew
      queued := h.queued_congr rfl rfl rfl rfl
      executing := h.executing
      waiting := h.waiting
      exclusive := h.exclusive
      connecting := h.connecting
      asio := fun _ hexec => by
        rcases hready with hconn | hexec' | hnil
        · exact h.queue_eq_nil_of_not_connected hconn
        · exact absurd hexec' (ne_true_of_eq_false hexec)
        · exact hnil
      client := fun hphase => by cases hphase }

/-- The read is over: the pipeline invariant does not depend on it. -/
theorem not_reading (h : Pipeline v) : Pipeline { v with reading := false } where
  alive := h.alive
  count := h.count
  isOpen := h.isOpen
  renewing := h.renewing
  queued := h.queued_congr rfl rfl rfl rfl
  executing := h.executing
  waiting := fun hexec => ⟨(h.waiting hexec).1, (h.waiting hexec).2.1, rfl⟩
  exclusive := fun hread => absurd hread Bool.false_ne_true
  connecting := h.connecting
  asio := h.asio
  client := h.client

/-- The command that is executed is over, and the client stays or was answered. -/
theorem settled (h : Pipeline v) (hread : v.reading = true)
    {client : PythonConnectionManager} (hopen : client.mCommandSocket.isOpen = true)
    (hcount : client.mCommandSocket.received.length =
      client.mCommandSocket.sent.length + if client.mCommandSocket.replyOwed then 1 else 0) :
    Pipeline { v with
      client := client
      executing := false
      source := none
      queue := []
      reading := false } :=
  of_quiet h.alive hcount (fun _ => hopen) h.renewing h.connecting rfl rfl rfl
    (h.exclusive hread) rfl

end Pipeline

theorem answered_socket (c : PythonConnectionManager) (sz : ℕ) (data : DataVec) :
    ∃ reply, (c.answered sz data).mCommandSocket = c.mCommandSocket.send reply := by
  unfold PythonConnectionManager.answered
  split
  · exact ⟨_, rfl⟩
  · exact ⟨_, rfl⟩

/-- An answer settles the debt. -/
theorem RepSocket.count_send {socket : RepSocket}
    (h : socket.received.length = socket.sent.length + if socket.replyOwed then 1 else 0)
    (howed : socket.replyOwed = true) (msg : List Byte) :
    (socket.send msg).received.length =
      (socket.send msg).sent.length + if (socket.send msg).replyOwed then 1 else 0 := by
  rw [if_pos howed] at h
  show socket.received.length = (socket.sent ++ [msg]).length + 0
  rw [List.length_append, List.length_singleton, h]

theorem RepSocket.count_recv {socket : RepSocket}
    (h : socket.received.length = socket.sent.length + if socket.replyOwed then 1 else 0)
    (howed : socket.replyOwed = false) (msg : List Byte) :
    (socket.recv msg).received.length =
      (socket.recv msg).sent.length + if (socket.recv msg).replyOwed then 1 else 0 := by
  rw [if_neg (ne_true_of_eq_false howed)] at h
  show (socket.received ++ [msg]).length = socket.sent.length + 1
  rw [List.length_append, List.length_singleton, h]

/-- **Moves preserve the invariant.** -/
theorem pipeline_of_move {v v' : View} {e : Event} (h : Pipeline v) (hmove : Move v e v') :
    Pipeline v' := by
  cases hmove with
  | cancel hphase => exact h
  | finish id => exact h
  | begin attempt hphase hready => exact h.renewed hready
  | send attempt info hphase hexec hqueue hcommand =>
    have hby := h.queuedBy hqueue
    exact {
      alive := h.alive
      count := h.count
      isOpen := h.isOpen
      renewing := fun hrenew => absurd hrenew (ne_true_of_eq_false hby.current)
      queued := h.queued_congr rfl rfl rfl rfl
      executing := fun _ => ⟨by rw [hqueue]; exact List.cons_ne_nil _ _, rfl⟩
      waiting := fun hexec => by cases hexec
      exclusive := fun hread => absurd hread (ne_true_of_eq_false (h.waiting hexec).2.2)
      connecting := h.connecting
      asio := fun _ hexec => by cases hexec
      client := fun hphase => by cases hphase }
  | reset attempt info hphase hexec hqueue hcommand =>
    have hby := h.queuedBy hqueue
    exact Pipeline.of_quiet h.alive (RepSocket.count_send h.count hby.owed _)
      (fun hrenew => h.isOpen hrenew)
      (fun hrenew => absurd hrenew (ne_true_of_eq_false hby.current))
      (fun hconn => by cases hconn) rfl rfl rfl rfl rfl
  | connected attempt hphase hconn =>
    have hexec := h.not_executing_of_not_connected (h.connecting hconn)
    obtain ⟨hsource, hsend, hread⟩ := h.waiting hexec
    exact Pipeline.of_quiet h.alive h.count h.isOpen h.renewing (fun hconn => by cases hconn)
      (h.asio hphase hexec) rfl hsource hsend hread
  | sent err bytes_sent hphase hsend =>
    have hexec := h.executing_of_sending hsend
    exact {
      alive := h.alive
      count := h.count
      isOpen := h.isOpen
      renewing := h.renewing
      queued := h.queued_congr rfl rfl rfl rfl
      executing := h.executing
      waiting := fun hexec' => absurd hexec (ne_true_of_eq_false hexec')
      exclusive := fun _ => rfl
      connecting := h.connecting
      asio := h.asio
      client := h.client }
  | answer bytes sz hphase hread hcomplete hlookup =>
    obtain ⟨info, -, hby⟩ := h.queue_eq (h.executing_of_reading hread)
    obtain ⟨reply, hsocket⟩ := answered_socket v.client sz (responseData bytes)
    apply h.settled hread
    · rw [hsocket]
      exact h.isOpen hby.current
    · rw [hsocket]
      exact RepSocket.count_send h.count hby.owed _
  | lose bytes hphase hread hcomplete hlookup =>
    obtain ⟨info, -, hby⟩ := h.queue_eq (h.executing_of_reading hread)
    exact h.settled hread (h.isOpen hby.current) h.count
  | ignore bytes hphase hread hcomplete => exact h.not_reading
  | idle hphase =>
    have hrenew := h.renew_eq_false (by rw [hphase]; exact Phase.noConfusion)
    exact {
      alive := h.alive
      count := h.count
      isOpen := h.isOpen
      renewing := fun hrenew' => absurd hrenew' (ne_true_of_eq_false hrenew)
      queued := h.queued_congr rfl rfl rfl rfl
      executing := h.executing
      waiting := h.waiting
      exclusive := h.exclusive
      connecting := h.connecting
      asio := fun _ hexec => h.asio hphase hexec
      client := fun hclient => by
        cases hexec : v.executing with
        | false => exact ⟨rfl, h.asio hphase hexec⟩
        | true =>
          dsimp only at hclient
          rw [hexec] at hclient
          cases hclient }
  | noRequest answer hphase howed =>
    obtain ⟨hexec, hqueue⟩ := h.client hphase
    obtain ⟨hsource, hsend, hread⟩ := h.waiting hexec
    exact Pipeline.of_quiet h.alive h.count h.isOpen (fun _ => rfl) h.connecting hqueue hexec
      hsource hsend hread
  | reply msg answer reply last hphase howed =>
    obtain ⟨hexec, hqueue⟩ := h.client hphase
    obtain ⟨hsource, hsend, hread⟩ := h.waiting hexec
    exact Pipeline.of_quiet h.alive
      (RepSocket.count_send (RepSocket.count_recv h.count howed msg) rfl reply) h.isOpen
      (fun _ => rfl) h.connecting hqueue hexec hsource hsend hread
  | enqueue msg answer handler info hphase howed hconn hlookup hcommand hsender =>
    obtain ⟨hexec, hqueue⟩ := h.client hphase
    have hrenew := h.renew_eq_false (by rw [hphase]; exact Phase.noConfusion)
    exact {
      alive := h.alive
      count := RepSocket.count_recv h.count howed msg
      isOpen := h.isOpen
      renewing := fun _ => rfl
      queued := Or.inr ⟨info, by rw [hqueue]; rfl, {
        sender := hsender
        connected := hconn
        owed := rfl
        current := hrenew
        request := ⟨msg, handler, List.getLast?_concat, hlookup, hcommand, rfl⟩ }⟩
      executing := fun hexec' => absurd hexec' (ne_true_of_eq_false hexec)
      waiting := h.waiting
      exclusive := h.exclusive
      connecting := h.connecting
      asio := fun hphase => by cases hphase
      client := fun hphase => by cases hphase }
  | giveUp request answer hphase howed =>
    obtain ⟨hexec, hqueue⟩ := h.client hphase
    obtain ⟨hsource, hsend, hread⟩ := h.waiting hexec
    exact Pipeline.of_quiet h.alive h.count (fun hrenew => by cases hrenew) (fun _ => rfl)
      h.connecting hqueue hexec hsource hsend hread

end TpxServer.Comms
