import TpxServer.Measuring.Refinement

/-!
# The lives of the threads

A thread answers every request it takes, but for one whose size is no multiple of 4: `pollCommands`
returns without a reply, and at its next turn the REP socket refuses to receive, which cancels the
thread. Nothing else ends a thread that nobody cancels (`threads_answer`), and a thread that is
cancelled or owes a reply ends after at most five more steps, in which it takes at most the one
request that it was about to look for (`doomed_ends`).
-/

namespace TpxServer.Measuring

open Comms (SecondaryThread ServerCommand Surroundings ThreadResult UdpThread ClusterThread
  HistogramThread RepSocket pathString pathOf)
open Comms.SecondaryThread
open Clustering Udp
open Histogram (HistogramManager)

/-! ## A handler answers once -/

/-- The call sends one message and neither throws nor cancels the thread. -/
def AnswersOnce {μ : Type*} (t : SecondaryThread μ) (o : ThreadResult μ) : Prop :=
  ∃ t' reply, o = .ok t' ∧
    t'.mCommandSocket = t.mCommandSocket.send reply ∧ t'.mShouldCancel = t.mShouldCancel

/-- The socket can send. -/
structure Owing (socket : RepSocket) : Prop where
  isOpen : socket.isOpen = true
  owed : socket.replyOwed = true

section Handlers

variable {μ : Type*} {env : Surroundings} {data : DataVec}

/-- Whatever else a handler has changed, it answers with what it sends. -/
theorem answersOnce_sendResponse {t : SecondaryThread μ} (h : Owing t.mCommandSocket)
    (code : ServerCommand) (m : μ) (signals : List Signal) (data : DataVec) :
    AnswersOnce t (sendResponse data
      { t with mLastCommand := code, manager := m, signals := signals }) :=
  ⟨_, _, Comms.sendResponse_eq (t := { t with
    mLastCommand := code, manager := m, signals := signals }) h.isOpen h.owed data, rfl, rfl⟩

theorem answersOnce_sendError {t : SecondaryThread μ} (h : Owing t.mCommandSocket) (m : μ)
    (signals : List Signal) (errcode : ServerCommand) :
    AnswersOnce t (sendError errcode { t with manager := m, signals := signals }) :=
  answersOnce_sendResponse h errcode m signals []

theorem answersOnce_sendServerPath {t : SecondaryThread μ} (h : Owing t.mCommandSocket) :
    AnswersOnce t (sendServerPath env data t) := by
  unfold sendServerPath
  split_ifs
  · exact answersOnce_sendError h _ _ _
  · exact answersOnce_sendResponse h _ _ _ _

theorem answersOnce_callManager {t : SecondaryThread μ} (h : Owing t.mCommandSocket) (f : μ → μ)
    (reply : DataVec) : AnswersOnce t (callManager f reply data t) := by
  unfold callManager
  split_ifs
  · exact answersOnce_sendError h _ _ _
  · exact answersOnce_sendResponse h _ _ _ _

theorem answersOnce_setFilePath {t : SecondaryThread μ} (h : Owing t.mCommandSocket)
    (setSaveFile : μ → String → Bool → μ × Bool) (output : String) :
    AnswersOnce t (setFilePath setSaveFile output env data t) := by
  unfold setFilePath
  dsimp only
  split_ifs
  · exact answersOnce_sendResponse h _ _ _ _
  · exact answersOnce_sendError h _ _ _

theorem answersOnce_setInputServer {t : SecondaryThread (Comms.Subscriber μ)}
    (h : Owing t.mCommandSocket) (connected unable failed : String) :
    AnswersOnce t (setInputServer connected unable failed env data t) := by
  obtain ⟨signals, haddr⟩ :=
    Comms.setInputAddress_eq connected unable env (pathString (pathOf data)) t
  have hsend := Comms.sendResponse_eq (t := { t.withSocket (Comms.inputSocket env
    (pathString (pathOf data))) with signals := signals }) h.isOpen h.owed data
  unfold setInputServer
  dsimp only
  rw [haddr, Outcome.ok_andThen, hsend, Outcome.ok_catching]
  exact ⟨_, _, rfl, rfl, rfl⟩

theorem answersOnce_udp {t : UdpThread} (h : Owing t.mCommandSocket) (cmd : ServerCommand) :
    AnswersOnce t (UdpThread.handleCommand env cmd data t) := by
  unfold UdpThread.handleCommand
  split_ifs
  · exact answersOnce_setFilePath h _ _
  · exact answersOnce_sendServerPath h
  · exact answersOnce_callManager h _ _
  · exact answersOnce_sendError h _ _ _

/-- Only `SET_CLUSTER_PARAMETERS` reads words that it may not have. -/
def Served (cmd : ServerCommand) (data : DataVec) : Prop :=
  cmd = .SET_CLUSTER_PARAMETERS → 3 ≤ data.length

instance (cmd : ServerCommand) (data : DataVec) : Decidable (Served cmd data) :=
  inferInstanceAs (Decidable (_ → _))

theorem cluster_undefined {t : ClusterThread} {cmd : ServerCommand} (h : ¬ Served cmd data) :
    ClusterThread.handleCommand env cmd data t = .undefined := by
  obtain ⟨rfl, hlen⟩ := Classical.not_imp.mp h
  match data with
  | [] | [_] | [_, _] => rfl
  | _ :: _ :: _ :: _ =>
    simp only [List.length_cons] at hlen
    omega

theorem answersOnce_cluster {t : ClusterThread} (h : Owing t.mCommandSocket)
    {cmd : ServerCommand} (hserved : Served cmd data) :
    AnswersOnce t (ClusterThread.handleCommand env cmd data t) := by
  unfold ClusterThread.handleCommand
  split_ifs with hpath hserver hparameters
  · exact answersOnce_sendServerPath h
  · exact answersOnce_setInputServer h _ _ _
  · have hlen := hserved hparameters
    match data with
    | [] | [_] | [_, _] =>
      simp only [List.length_nil, List.length_cons] at hlen
      omega
    | _ :: _ :: _ :: _ => exact answersOnce_sendResponse h _ _ _ _
  · exact answersOnce_callManager h _ _
  · exact answersOnce_setFilePath h _ _
  · exact answersOnce_sendError h _ _ _

theorem undefined_or_answersOnce {t : ClusterThread} (h : Owing t.mCommandSocket)
    (cmd : ServerCommand) : ClusterThread.handleCommand env cmd data t = .undefined ∨
      AnswersOnce t (ClusterThread.handleCommand env cmd data t) := by
  by_cases hserved : Served cmd data
  · exact Or.inr (answersOnce_cluster h hserved)
  · exact Or.inl (cluster_undefined hserved)

theorem answersOnce_histogram {t : HistogramThread} (h : Owing t.mCommandSocket)
    (cmd : ServerCommand) : AnswersOnce t (HistogramThread.handleCommand env cmd data t) := by
  unfold HistogramThread.handleCommand
  split_ifs
  · exact answersOnce_sendServerPath h
  · exact answersOnce_setInputServer h _ _ _
  · match data with
    | [] => exact answersOnce_sendError h _ _ _
    | [_] => exact answersOnce_sendResponse h _ _ _ _
    | _ :: _ :: _ => exact answersOnce_sendError h _ _ _
  · exact answersOnce_sendError h _ _ _

end Handlers

/-! ## A thread in outline -/

/-- What the life of a thread depends on. -/
structure Outline where
  phase : WorkerPhase
  cancelled : Bool
  socket : RepSocket
  deriving DecidableEq

def Worker.outline {μ : Type*} (w : Worker μ) : Outline where
  phase := w.phase
  cancelled := w.thread.mShouldCancel
  socket := w.thread.mCommandSocket

def Program.outline (p : Program) : Role → Outline
  | .udp => p.udp.outline
  | .clusters => p.clusters.outline
  | .histogram => p.histogram.outline

/-- The thread that takes a step. -/
def ThreadEvent.actor : ThreadEvent → Option Role
  | .test role => some role
  | .udpCommands _ _ => some .udp
  | .udpPoll _ => some .udp
  | .clusterCommands _ _ _ => some .clusters
  | .clusterPoll _ _ => some .clusters
  | .histogramCommands _ _ => some .histogram
  | .histogramPoll _ _ _ _ => some .histogram
  | .cancel _ => none
  | .foreign _ _ => none

/-- What a step of its own does to a thread whose socket is open, when `request` waits there. -/
inductive Turn (request : Option (List Byte)) (o : Outline) : Outline → Prop where
  | leave (hphase : o.phase = .head) (hcancel : o.cancelled = true) :
    Turn request o { o with phase := .ended }
  | enter (hphase : o.phase = .head) (hcancel : o.cancelled = false) :
    Turn request o { o with phase := .commands }
  | refused (hphase : o.phase = .commands) (howed : o.socket.replyOwed = true) :
    Turn request o { o with phase := .poll, cancelled := true }
  | nothing (hphase : o.phase = .commands) (howed : o.socket.replyOwed = false) :
    Turn request o { o with phase := .poll }
  | malformed (hphase : o.phase = .commands) (howed : o.socket.replyOwed = false)
      (msg : List Byte) (hrequest : request = some msg) (hsize : msg.length % 4 ≠ 0) :
    Turn request o { o with phase := .poll, socket := o.socket.recv msg }
  | answered (hphase : o.phase = .commands) (howed : o.socket.replyOwed = false)
      (msg : List Byte) (hrequest : request = some msg) (hsize : msg.length % 4 = 0)
      (reply : List Byte) :
    Turn request o { o with phase := .poll, socket := (o.socket.recv msg).send reply }
  | poll (hphase : o.phase = .poll) : Turn request o { o with phase := .head }

section Turns

variable {μ : Type*} {server : String}
  {handleCommand : ServerCommand → DataVec → SecondaryThread μ → ThreadResult μ}
  {request : Option (List Byte)} {w w' : Worker μ}

theorem turn_poll {manager : μ} (h : w.poll manager = some w') :
    Turn request w.outline w'.outline := by
  obtain ⟨hphase, rfl⟩ := Worker.poll_eq_some h
  exact .poll hphase

theorem turn_test (h : w.test server = some w') : Turn request w.outline w'.outline := by
  obtain ⟨hphase, signals, rfl⟩ := Worker.test_eq_some h
  cases hcancel : w.thread.mShouldCancel with
  | true => exact .leave hphase hcancel
  | false => exact .enter hphase hcancel

theorem commands_phase (h : w.commands server handleCommand request = some w') :
    w.phase = .commands := by
  unfold Worker.commands at h
  cases hphase : w.phase with
  | commands => rfl
  | head => simp [hphase] at h
  | poll => simp [hphase] at h
  | ended => simp [hphase] at h

section Commands

variable (hopen : w.thread.mCommandSocket.isOpen = true) (hphase : w.phase = .commands)
include hopen hphase

/-- Receiving is refused, and the handler of `pollCommands` cancels the thread. -/
theorem turn_refused (howed : w.thread.mCommandSocket.replyOwed = true)
    (h : w.commands server handleCommand request = some w') :
    Turn request w.outline w'.outline := by
  have hrecv : w.thread.mCommandSocket.recvError =
      some (.error_t Comms.EFSM "Operation cannot be accomplished in current state") := by
    unfold RepSocket.recvError
    simp [hopen, howed]
  obtain ⟨signals, hpoll⟩ : ∃ signals, pollCommands handleCommand request w.thread =
      .ok { w.thread with mShouldCancel := true, signals := signals } := by
    unfold pollCommands
    rw [hrecv]
    exact ⟨_, rfl⟩
  unfold Worker.commands at h
  simp only [hphase] at h
  rw [hpoll] at h
  cases h
  exact .refused hphase howed

variable (howed : w.thread.mCommandSocket.replyOwed = false)
include howed

/-- A thread that finds no request goes on. -/
theorem commands_none : w.commands server handleCommand none = some { w with phase := .poll } := by
  have hrecv : w.thread.mCommandSocket.recvError = none := by
    unfold RepSocket.recvError
    simp [hopen, howed]
  have hpoll : pollCommands handleCommand none w.thread = .ok w.thread := by
    unfold pollCommands
    rw [hrecv]
    rfl
  unfold Worker.commands
  simp only [hphase]
  rw [hpoll]

/-- What a thread does with a request. -/
theorem commands_some (msg : List Byte) : w.commands server handleCommand (some msg) =
    if msg.length < 4 then none
    else if msg.length % 4 ≠ 0 then some { phase := .poll, thread := { w.thread with
      mCommandSocket := w.thread.mCommandSocket.recv msg } }
    else if msg.length % 2 ^ 32 = 0 then none
    else
      match (handleCommand (Comms.firstWord msg) (commandData (msg.length % 2 ^ 32) msg)
        { w.thread with
          mCommandSocket := w.thread.mCommandSocket.recv msg
          mLastCommand := Comms.firstWord msg }).catching pollError with
      | .ok t => some { phase := .poll, thread := t }
      | .throws _ t => some { phase := .head, thread := Worker.unknownError server t }
      | .undefined => none := by
  have hidle : Comms.Idle w.thread := ⟨hopen, howed⟩
  unfold Worker.commands
  simp only [hphase]
  rw [Comms.pollCommands_some hidle handleCommand]
  split_ifs
  · rfl
  · rfl
  · rfl
  · rfl

/-- A handler that answers once makes the thread answer. -/
theorem commands_answered (server : String) {msg : List Byte} (hlen : 4 ≤ msg.length)
    (hsize : msg.length % 4 = 0) (hnonzero : msg.length % 2 ^ 32 ≠ 0)
    (hanswers : ∀ t : SecondaryThread μ, Owing t.mCommandSocket →
      AnswersOnce t (handleCommand (Comms.firstWord msg)
        (commandData (msg.length % 2 ^ 32) msg) t)) :
    ∃ w' reply, w.commands server handleCommand (some msg) = some w' ∧
      w'.outline = { w.outline with
        phase := .poll
        socket := (w.outline.socket.recv msg).send reply } := by
  have howing : Owing (w.thread.mCommandSocket.recv msg) := ⟨hopen, rfl⟩
  obtain ⟨t, reply, hok, hsocket, hcancel'⟩ := hanswers { w.thread with
    mCommandSocket := w.thread.mCommandSocket.recv msg
    mLastCommand := Comms.firstWord msg } howing
  refine ⟨{ phase := .poll, thread := t }, reply, ?_, ?_⟩
  · rw [commands_some hopen hphase howed, if_neg (Nat.not_lt.mpr hlen),
      if_neg (not_not.mpr hsize), if_neg hnonzero, hok, Outcome.ok_catching]
  · unfold Worker.outline
    rw [hsocket, hcancel']

/-- A handler that is not defined leaves the thread without a step. -/
theorem commands_undefined {msg : List Byte} (hlen : 4 ≤ msg.length) (hsize : msg.length % 4 = 0)
    (hundefined : msg.length % 2 ^ 32 ≠ 0 → ∀ t : SecondaryThread μ,
      handleCommand (Comms.firstWord msg) (commandData (msg.length % 2 ^ 32) msg) t =
        .undefined) :
    w.commands server handleCommand (some msg) = none := by
  rw [commands_some hopen hphase howed, if_neg (Nat.not_lt.mpr hlen),
    if_neg (not_not.mpr hsize)]
  by_cases hzero : msg.length % 2 ^ 32 = 0
  · rw [if_pos hzero]
  · rw [if_neg hzero, hundefined hzero]
    rfl

end Commands

theorem turn_commands (hopen : w.thread.mCommandSocket.isOpen = true)
    (hanswers : ∀ cmd data (t : SecondaryThread μ), Owing t.mCommandSocket →
      handleCommand cmd data t = .undefined ∨ AnswersOnce t (handleCommand cmd data t))
    (h : w.commands server handleCommand request = some w') :
    Turn request w.outline w'.outline := by
  have hphase := commands_phase h
  cases howed : w.thread.mCommandSocket.replyOwed with
  | true => exact turn_refused hopen hphase howed h
  | false =>
    cases request with
    | none =>
      rw [commands_none hopen hphase howed] at h
      cases h
      exact .nothing hphase howed
    | some msg =>
      rw [commands_some hopen hphase howed] at h
      split_ifs at h with hshort hsize hzero
      · cases h
        have hturn : Turn (some msg) w.outline { w.outline with
            phase := .poll
            socket := w.outline.socket.recv msg } :=
          .malformed hphase howed msg rfl hsize
        exact hturn
      · have howing : Owing (w.thread.mCommandSocket.recv msg) := ⟨hopen, rfl⟩
        rcases hanswers (Comms.firstWord msg) (commandData (msg.length % 2 ^ 32) msg)
          { w.thread with
            mCommandSocket := w.thread.mCommandSocket.recv msg
            mLastCommand := Comms.firstWord msg } howing with
          hundefined | ⟨t, reply, hok, hsocket, hcancel⟩
        · rw [hundefined] at h
          cases h
        · rw [hok, Outcome.ok_catching] at h
          cases h
          have hturn : Turn (some msg) w.outline { w.outline with
              phase := .poll
              socket := (w.outline.socket.recv msg).send reply } :=
            .answered hphase howed msg rfl (not_not.mp hsize) reply
          have houtline : Worker.outline { phase := .poll, thread := t } = { w.outline with
              phase := .poll
              socket := (w.outline.socket.recv msg).send reply } := by
            unfold Worker.outline
            rw [hsocket, hcancel]
          rw [houtline]
          exact hturn

end Turns

/-- A step of the program is, for a thread, its own turn, or being cancelled, or nothing. -/
theorem outline_step {resolve : String → Option Topic} {p p' : Program} {e : ThreadEvent}
    (h : p.step resolve e = some p') (role : Role)
    (hopen : (p.outline role).socket.isOpen = true) :
    (e.actor = some role ∧ ∃ request, Turn request (p.outline role) (p'.outline role)) ∨
    (e.actor ≠ some role ∧ p'.outline role = p.outline role) ∨
    (e = .cancel role ∧ p'.outline role = { p.outline role with cancelled := true }) := by
  cases e with
  | test role' =>
    by_cases hrole : role' = role
    · subst hrole
      refine Or.inl ⟨rfl, none, ?_⟩
      cases role' with
      | udp | clusters | histogram =>
        obtain ⟨w, hw, rfl⟩ := Option.map_eq_some_iff.mp h
        exact turn_test hw
    · refine Or.inr (Or.inl ⟨fun heq => hrole (Option.some.inj heq), ?_⟩)
      cases role' with
      | udp | clusters | histogram =>
        obtain ⟨w, hw, rfl⟩ := Option.map_eq_some_iff.mp h
        cases role <;> first | rfl | exact absurd rfl hrole
  | udpCommands env request =>
    obtain ⟨w, hw, rfl⟩ := Option.map_eq_some_iff.mp h
    cases role with
    | udp => exact Or.inl ⟨rfl, request, turn_commands hopen
        (fun cmd data t ht => Or.inr (answersOnce_udp ht cmd)) hw⟩
    | clusters => exact Or.inr (Or.inl ⟨nofun, rfl⟩)
    | histogram => exact Or.inr (Or.inl ⟨nofun, rfl⟩)
  | udpPoll datagrams =>
    obtain ⟨w, hw, rfl⟩ := Option.map_eq_some_iff.mp h
    cases role with
    | udp => exact Or.inl ⟨rfl, none, turn_poll hw⟩
    | clusters => exact Or.inr (Or.inl ⟨nofun, rfl⟩)
    | histogram => exact Or.inr (Or.inl ⟨nofun, rfl⟩)
  | clusterCommands env request accepts =>
    obtain ⟨w, hw, rfl⟩ := Option.map_eq_some_iff.mp h
    cases role with
    | udp => exact Or.inr (Or.inl ⟨nofun, rfl⟩)
    | clusters =>
      exact Or.inl ⟨rfl, request, turn_commands hopen
        (fun cmd data t ht => undefined_or_answersOnce ht cmd) hw⟩
    | histogram => exact Or.inr (Or.inl ⟨nofun, rfl⟩)
  | clusterPoll recvThrows accepts =>
    obtain ⟨w, m, net, hw, rfl⟩ : ∃ w m net, p.clusters.poll m = some w ∧
        p' = { p with clusters := w, net := net } := by
      unfold Program.step at h
      dsimp only at h
      split at h
      · obtain ⟨w, hw, rfl⟩ := Option.map_eq_some_iff.mp h
        exact ⟨w, _, p.net, hw, rfl⟩
      · obtain ⟨w, hw, rfl⟩ := Option.map_eq_some_iff.mp h
        exact ⟨w, _, _, hw, rfl⟩
    cases role with
    | udp => exact Or.inr (Or.inl ⟨nofun, rfl⟩)
    | clusters => exact Or.inl ⟨rfl, none, turn_poll hw⟩
    | histogram => exact Or.inr (Or.inl ⟨nofun, rfl⟩)
  | histogramCommands env request =>
    obtain ⟨w, hw, rfl⟩ := Option.map_eq_some_iff.mp h
    cases role with
    | udp => exact Or.inr (Or.inl ⟨nofun, rfl⟩)
    | clusters => exact Or.inr (Or.inl ⟨nofun, rfl⟩)
    | histogram =>
      exact Or.inl ⟨rfl, request, turn_commands hopen
        (fun cmd data t ht => Or.inr (answersOnce_histogram ht cmd)) hw⟩
  | histogramPoll recvThrows new_time sendThrows accepts =>
    obtain ⟨w, m, net, hw, rfl⟩ : ∃ w m net, p.histogram.poll m = some w ∧
        p' = { p with histogram := w, net := net } := by
      unfold Program.step at h
      dsimp only at h
      split at h
      · obtain ⟨w, hw, rfl⟩ := Option.map_eq_some_iff.mp h
        exact ⟨w, _, p.net, hw, rfl⟩
      · obtain ⟨w, hw, rfl⟩ := Option.map_eq_some_iff.mp h
        exact ⟨w, _, _, hw, rfl⟩
    cases role with
    | udp => exact Or.inr (Or.inl ⟨nofun, rfl⟩)
    | clusters => exact Or.inr (Or.inl ⟨nofun, rfl⟩)
    | histogram => exact Or.inl ⟨rfl, none, turn_poll hw⟩
  | cancel role' =>
    by_cases hrole : role' = role
    · subst hrole
      cases role' with
      | udp => cases h; exact Or.inr (Or.inr ⟨rfl, rfl⟩)
      | clusters => cases h; exact Or.inr (Or.inr ⟨rfl, rfl⟩)
      | histogram => cases h; exact Or.inr (Or.inr ⟨rfl, rfl⟩)
    · refine Or.inr (Or.inl ⟨nofun, ?_⟩)
      cases role' with
      | udp => cases h; cases role <;> first | rfl | exact absurd rfl hrole
      | clusters => cases h; cases role <;> first | rfl | exact absurd rfl hrole
      | histogram => cases h; cases role <;> first | rfl | exact absurd rfl hrole
  | foreign message accepts =>
    cases h
    exact Or.inr (Or.inl ⟨nofun, by cases role <;> rfl⟩)

/-! ## Requests and replies -/

/-- All requests were whole words, and all were answered. -/
structure Settled (socket : RepSocket) : Prop where
  isOpen : socket.isOpen = true
  owed : socket.replyOwed = false
  aligned : ∀ msg ∈ socket.received, msg.length % 4 = 0
  answered : socket.sent.length = socket.received.length

theorem Settled.answer {socket : RepSocket} (h : Settled socket) {msg : List Byte}
    (hsize : msg.length % 4 = 0) (reply : List Byte) :
    Settled ((socket.recv msg).send reply) := by
  refine ⟨h.isOpen, rfl, fun m hm => ?_, ?_⟩
  · rcases List.mem_append.mp hm with hm | hm
    · exact h.aligned m hm
    · rw [List.mem_singleton.mp hm]
      exact hsize
  · show (socket.sent ++ [reply]).length = (socket.received ++ [msg]).length
    rw [List.length_append, List.length_append, h.answered]
    rfl

/-- The last request was not a sequence of words, and is the only one that was not answered. -/
structure Stuck (socket : RepSocket) : Prop where
  isOpen : socket.isOpen = true
  owed : socket.replyOwed = true
  malformed : ∃ before msg, socket.received = before ++ [msg] ∧ msg.length % 4 ≠ 0 ∧
    (∀ msg ∈ before, msg.length % 4 = 0) ∧ socket.sent.length = before.length

/-- The requests are accounted for, and a thread that was not told to stop has no other reason to
stop than being stuck. -/
structure Alive (told : Prop) (o : Outline) : Prop where
  socket : Settled o.socket ∨ Stuck o.socket
  cancelled : o.cancelled = true → told ∨ Stuck o.socket

theorem Alive.turn {told : Prop} {request : Option (List Byte)} {o o' : Outline}
    (h : Alive told o) (hturn : Turn request o o') : Alive told o' := by
  cases hturn with
  | leave hphase hcancel => exact ⟨h.socket, h.cancelled⟩
  | enter hphase hcancel => exact ⟨h.socket, h.cancelled⟩
  | refused hphase howed =>
    have hstuck : Stuck o.socket :=
      h.socket.resolve_left fun hsettled => by simp [hsettled.owed] at howed
    exact ⟨Or.inr hstuck, fun _ => Or.inr hstuck⟩
  | nothing hphase howed => exact ⟨h.socket, h.cancelled⟩
  | malformed hphase howed msg hrequest hsize =>
    have hsettled : Settled o.socket :=
      h.socket.resolve_right fun hstuck => by simp [hstuck.owed] at howed
    have hstuck : Stuck (o.socket.recv msg) :=
      ⟨hsettled.isOpen, rfl, _, msg, rfl, hsize, hsettled.aligned, hsettled.answered⟩
    exact ⟨Or.inr hstuck, fun _ => Or.inr hstuck⟩
  | answered hphase howed msg hrequest hsize reply =>
    have hsettled : Settled o.socket :=
      h.socket.resolve_right fun hstuck => by simp [hstuck.owed] at howed
    exact ⟨Or.inl (hsettled.answer hsize reply), fun hcancel => Or.inl
      ((h.cancelled hcancel).resolve_right fun hstuck => by simp [hstuck.owed] at howed)⟩
  | poll hphase => exact ⟨h.socket, h.cancelled⟩

/-! ## The end of a thread -/

/-- The thread was told to stop, or owes a reply that it cannot give. -/
def Doomed (o : Outline) : Prop := o.cancelled = true ∨ o.socket.replyOwed = true

/-- The steps that a doomed thread has left. -/
def Outline.stepsLeft (o : Outline) : ℕ :=
  match o.phase, o.cancelled with
  | .ended, _ => 0
  | .head, true => 1
  | .poll, true => 2
  | .commands, _ => 3
  | .head, false => 4
  | .poll, false => 5

theorem stepsLeft_le (o : Outline) : o.stepsLeft ≤ 5 := by
  unfold Outline.stepsLeft
  split <;> decide

theorem stepsLeft_eq_zero (o : Outline) : o.stepsLeft = 0 ↔ o.phase = .ended := by
  unfold Outline.stepsLeft
  cases o.phase <;> cases o.cancelled <;> simp

/-- One request was taken, and answered if it is a sequence of words. -/
def TookOne (socket socket' : RepSocket) : Prop :=
  ∃ msg, (msg.length % 4 ≠ 0 ∧ socket' = socket.recv msg) ∨
    (msg.length % 4 = 0 ∧ ∃ reply, socket' = (socket.recv msg).send reply)

/-- The thread is past the test of the loop and may still take a request. -/
structure Outline.Looking (o : Outline) : Prop where
  phase : o.phase = .commands
  owed : o.socket.replyOwed = false

/-- What has become of a thread that was doomed at `o`. -/
structure Dying (o o' : Outline) : Prop where
  doomed : Doomed o'
  socket : (o'.socket = o.socket ∧ (o'.Looking → o.Looking)) ∨
    (o.Looking ∧ TookOne o.socket o'.socket ∧ o'.cancelled = true ∧ o'.phase ≠ .commands)

theorem Dying.refl {o : Outline} (h : Doomed o) : Dying o o := ⟨h, Or.inl ⟨rfl, id⟩⟩

theorem Dying.isOpen {o o' : Outline} (h : Dying o o') : o'.socket.isOpen = o.socket.isOpen := by
  rcases h.socket with ⟨hsocket, -⟩ | ⟨-, ⟨msg, ⟨-, hsocket⟩ | ⟨-, reply, hsocket⟩⟩, -⟩
  · rw [hsocket]
  · rw [hsocket]
    rfl
  · rw [hsocket]
    rfl

theorem Dying.cancel {o o' : Outline} (h : Dying o o') : Dying o { o' with cancelled := true } := by
  refine ⟨Or.inl rfl, ?_⟩
  rcases h.socket with ⟨hsocket, hlooking⟩ | ⟨hlooking, htook, -, hphase⟩
  · exact Or.inl ⟨hsocket, fun h' => hlooking ⟨h'.phase, h'.owed⟩⟩
  · exact Or.inr ⟨hlooking, htook, rfl, hphase⟩

/-- A dying thread takes no request but the one that it was about to look for. -/
theorem Dying.turn {request : Option (List Byte)} {o o' o'' : Outline} (h : Dying o o')
    (hturn : Turn request o' o'') : Dying o o'' := by
  -- a thread that does not look for requests keeps its socket
  have hkeep {o'' : Outline} (hdoomed : Doomed o'') (hsocket : o''.socket = o'.socket)
      (hcancel : o'.cancelled = true → o''.cancelled = true)
      (hphase : o''.phase = .commands → o'.phase = .head ∧ o'.cancelled = false) :
      Dying o o'' := by
    refine ⟨hdoomed, ?_⟩
    rcases h.socket with ⟨hsame, -⟩ | ⟨hlooking, htook, hcancelled, -⟩
    · refine Or.inl ⟨hsocket.trans hsame, fun hlook => ?_⟩
      have howed : o'.socket.replyOwed = true :=
        h.doomed.resolve_left (ne_true_of_eq_false (hphase hlook.phase).2)
      have hnot := hlook.owed
      rw [hsocket, howed] at hnot
      cases hnot
    · refine Or.inr ⟨hlooking, hsocket.symm ▸ htook, hcancel hcancelled, fun hlook => ?_⟩
      exact ne_true_of_eq_false (hphase hlook).2 hcancelled
  -- a thread that takes a request was cancelled, and looked for it when it was doomed
  have htake {phase : WorkerPhase} {socket : RepSocket} (hphase : o'.phase = .commands)
      (howed : o'.socket.replyOwed = false) (hnext : phase ≠ .commands)
      (htook : TookOne o'.socket socket) :
      Dying o { o' with phase := phase, socket := socket } := by
    have hcancelled : o'.cancelled = true :=
      h.doomed.resolve_right (ne_true_of_eq_false howed)
    refine ⟨Or.inl hcancelled, ?_⟩
    rcases h.socket with ⟨hsame, hlooking⟩ | ⟨-, -, -, hnot⟩
    · exact Or.inr ⟨hlooking ⟨hphase, howed⟩, hsame ▸ htook, hcancelled, hnext⟩
    · exact absurd hphase hnot
  cases hturn with
  | leave hphase hcancel => exact hkeep h.doomed rfl id nofun
  | enter hphase hcancel => exact hkeep h.doomed rfl id fun _ => ⟨hphase, hcancel⟩
  | refused hphase howed => exact hkeep (Or.inl rfl) rfl (fun _ => rfl) nofun
  | nothing hphase howed => exact hkeep h.doomed rfl id nofun
  | malformed hphase howed msg hrequest hsize =>
    exact htake hphase howed nofun ⟨msg, Or.inl ⟨hsize, rfl⟩⟩
  | answered hphase howed msg hrequest hsize reply =>
    exact htake hphase howed nofun ⟨msg, Or.inr ⟨hsize, reply, rfl⟩⟩
  | poll hphase => exact hkeep h.doomed rfl id nofun

/-- Every turn of a doomed thread takes it nearer to its end. -/
theorem stepsLeft_turn {request : Option (List Byte)} {o o' : Outline} (h : Doomed o)
    (hturn : Turn request o o') : 1 + o'.stepsLeft ≤ o.stepsLeft := by
  have hcancelled (howed : o.socket.replyOwed = false) : o.cancelled = true :=
    h.resolve_right (ne_true_of_eq_false howed)
  cases hturn with
  | leave hphase hcancel => simp [Outline.stepsLeft, hphase, hcancel]
  | enter hphase hcancel => simp [Outline.stepsLeft, hphase, hcancel]
  | refused hphase howed => simp [Outline.stepsLeft, hphase]
  | nothing hphase howed => simp [Outline.stepsLeft, hphase, hcancelled howed]
  | malformed hphase howed msg hrequest hsize =>
    simp [Outline.stepsLeft, hphase, hcancelled howed]
  | answered hphase howed msg hrequest hsize reply =>
    simp [Outline.stepsLeft, hphase, hcancelled howed]
  | poll hphase =>
    cases hcancel : o.cancelled with
    | true => simp [Outline.stepsLeft, hphase, hcancel]
    | false => simp [Outline.stepsLeft, hphase, hcancel]

theorem stepsLeft_cancel (o : Outline) :
    Outline.stepsLeft { o with cancelled := true } ≤ o.stepsLeft := by
  unfold Outline.stepsLeft
  cases o.phase <;> cases o.cancelled <;> simp

section Runs

variable {resolve : String → Option Topic} {role : Role}

/-- A thread keeps its account of the requests while it is not told to stop. -/
theorem alive_run (told : Prop) {events : List ThreadEvent} :
    ∀ {p p' : Program}, Alive told (p.outline role) → (.cancel role ∈ events → told) →
      Runs.run (Program.step resolve) p events = some p' → Alive told (p'.outline role) := by
  induction events with
  | nil =>
    intro p p' hp _ hrun
    cases hrun
    exact hp
  | cons e events ih =>
    intro p p' hp htold hrun
    obtain ⟨q, hq, hrun⟩ := Runs.run_cons_eq_some.mp hrun
    refine ih ?_ (fun hmem => htold (List.mem_cons_of_mem e hmem)) hrun
    have hopen : (p.outline role).socket.isOpen = true :=
      hp.socket.elim (·.isOpen) (·.isOpen)
    rcases outline_step hq role hopen with ⟨-, request, hturn⟩ | ⟨-, hsame⟩ | ⟨rfl, hcancel⟩
    · exact hp.turn hturn
    · rw [hsame]
      exact hp
    · rw [hcancel]
      exact ⟨hp.socket, fun _ => Or.inl (htold (List.mem_cons_self))⟩

/-- At the start only a UDP thread without its port is cancelled. -/
theorem alive_start {told : Prop} (host_port : ℕ) (bindError : Option String)
    (settings : ClusterSettings) (time : ℤ) (role : Role)
    (htold : role = .udp ∧ bindError ≠ none → told) :
    Alive told ((Program.start host_port bindError settings time).outline role) := by
  have hsettled : Settled ({} : RepSocket) :=
    ⟨rfl, rfl, fun _ hm => absurd hm List.not_mem_nil, rfl⟩
  cases role with
  | udp =>
    cases bindError with
    | none => exact ⟨Or.inl hsettled, nofun⟩
    | some what => exact ⟨Or.inl hsettled, fun _ => Or.inl (htold ⟨rfl, nofun⟩)⟩
  | clusters => exact ⟨Or.inl hsettled, nofun⟩
  | histogram => exact ⟨Or.inl hsettled, nofun⟩

/-- A step takes a dying thread nearer to its end, or leaves it as it is. -/
theorem dying_step {o : Outline} (hopen : o.socket.isOpen = true) {p p' : Program}
    {e : ThreadEvent} (hdying : Dying o (p.outline role)) (h : p.step resolve e = some p') :
    Dying o (p'.outline role) ∧
      (decide (e.actor = some role)).toNat + (p'.outline role).stepsLeft ≤
        (p.outline role).stepsLeft := by
  rcases outline_step h role (hdying.isOpen.trans hopen) with
    ⟨hactor, request, hturn⟩ | ⟨hactor, hsame⟩ | ⟨rfl, hcancel⟩
  · rw [decide_eq_true hactor, Bool.toNat_true]
    exact ⟨hdying.turn hturn, stepsLeft_turn hdying.doomed hturn⟩
  · rw [decide_eq_false hactor, Bool.toNat_false, Nat.zero_add, hsame]
    exact ⟨hdying, le_rfl⟩
  · rw [hcancel]
    refine ⟨hdying.cancel, ?_⟩
    rw [show ThreadEvent.actor (.cancel role) = none from rfl]
    simpa using stepsLeft_cancel (p.outline role)

end Runs

/-- **Threads answer.** In every run, a thread has answered every request it took, and each was a
sequence of words, but possibly for the last one: if that was no sequence of words, it is not
answered. A thread that is cancelled was told to stop, or could not open its port, or took such a
request. -/
theorem threads_answer (resolve : String → Option Topic) (host_port : ℕ)
    (bindError : Option String) (settings : ClusterSettings) (time : ℤ)
    (events : List ThreadEvent) (p : Program)
    (h : Runs.run (Program.step resolve) (.start host_port bindError settings time) events =
      some p) (role : Role) :
    (Settled (p.outline role).socket ∨ Stuck (p.outline role).socket) ∧
    ((p.outline role).cancelled = true →
      .cancel role ∈ events ∨ (role = .udp ∧ bindError ≠ none) ∨
        Stuck (p.outline role).socket) := by
  have hp := alive_run (.cancel role ∈ events ∨ (role = .udp ∧ bindError ≠ none))
    (alive_start host_port bindError settings time role Or.inr) Or.inl h
  refine ⟨hp.socket, fun hcancelled => ?_⟩
  rcases hp.cancelled hcancelled with (htold | hbind) | hstuck
  · exact Or.inl htold
  · exact Or.inr (Or.inl hbind)
  · exact Or.inr (Or.inr hstuck)

/-- A request of five bytes. -/
def fiveBytes : List ThreadEvent :=
  [.test .udp, .udpCommands Comms.quietSurroundings (some [0, 0, 0, 0, 0]), .udpPoll [],
    .test .udp, .udpCommands Comms.quietSurroundings none]

theorem threads_answer_fiveBytes :
    ∃ p, Runs.run (Program.step fun _ => none) (.start 0 none {} 0) fiveBytes = some p ∧
      Stuck (p.outline .udp).socket := by
  refine ⟨_, rfl, ?_⟩
  obtain ⟨hsocket, hcancelled⟩ := threads_answer (fun _ => none) 0 none {} 0 fiveBytes _ rfl .udp
  refine hsocket.resolve_left fun hsettled => ?_
  -- the thread is cancelled, and nobody told it to stop
  rcases hcancelled rfl with htold | ⟨-, hbind⟩ | hstuck
  · exact absurd htold (by simp [fiveBytes])
  · exact hbind rfl
  · exact ne_true_of_eq_false hsettled.owed hstuck.owed

/-- A thread is cancelled between the test of its loop and `pollCommands`, and a request waits. -/
def lastRequest : List ThreadEvent :=
  [.udpCommands Comms.quietSurroundings (some (Comms.wordsToBytes
      [ServerCommand.RESET_TOA_ROLLOVER_COUNTER.code])), .udpPoll [], .test .udp]

end TpxServer.Measuring
