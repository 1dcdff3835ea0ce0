import TpxServer.Comms.Frames

/-!
# Forwarding to the secondary threads

A request for a secondary thread goes through the REQ socket of that thread, and its answer is
waited for. The pointer to a thread and its socket are separate fields, updated in different
functions: a new UDP thread sets both, and the reset of the client connection clears the pointer
only. What holds of both while the loop runs is `Paired`.
-/

namespace TpxServer.Comms

open PythonConnectionManager

/-! ## Forwarded requests -/

/-- A secondary thread as the main thread knows it. -/
structure ThreadRef where
  thread : Option ℕ
  socket : Option ReqSocket
  deriving Repr, DecidableEq

/-- The thread that a request is forwarded to. -/
def forwardTarget (code : ServerCommand) (threads : SecondaryThreads) : Option ThreadRef :=
  if code ∈ UDP_THREAD_FORWARD_COMMANDS then
    some ⟨threads.mUdpThread, threads.mUdpCommandSocket⟩
  else if code ∈ CLUSTER_THREAD_FORWARD_COMMANDS then
    some ⟨threads.mClusterThread, threads.mClusterCommandSocket⟩
  else if code ∈ HISTOGRAM_THREAD_FORWARD_COMMANDS then
    some ⟨threads.mHistogramThread, threads.mHistogramCommandSocket⟩
  else none

/-- The request comes to the point where `handleCommand` looks at its code. -/
structure Accepted (x : Server) (msg : List Byte) : Prop where
  phase : x.phase = .client
  legal : x.thread.mClientManager.mCommandSocket.recvError = none
  connected : x.thread.mTpxManager.mIsConnected = true
  length : 4 ≤ msg.length
  aligned : msg.length % 2 ^ 32 % 4 = 0

instance (x : Server) (msg : List Byte) : Decidable (Accepted x msg) :=
  decidable_of_iff (x.phase = .client ∧ x.thread.mClientManager.mCommandSocket.recvError = none ∧
      x.thread.mTpxManager.mIsConnected = true ∧ 4 ≤ msg.length ∧ msg.length % 2 ^ 32 % 4 = 0)
    ⟨fun ⟨h, h', h'', h''', h''''⟩ => ⟨h, h', h'', h''', h''''⟩,
      fun ⟨h, h', h'', h''', h''''⟩ => ⟨h, h', h'', h''', h''''⟩⟩

/-- The request was sent to the thread, and its answer passed on to the client. -/
def SentTo (s t : CommsThread) (id : ℕ) (msg answer : List Byte) : Prop :=
  t.threads.requests = s.threads.requests ++ [(id, msg)] ∧
    t.mClientManager.mCommandSocket.sent = s.mClientManager.mCommandSocket.sent ++ [answer]

/-- The request was answered without forwarding it. -/
def Refused (s t : CommsThread) (errcode : ServerCommand) : Prop :=
  t.threads.requests = s.threads.requests ∧ t.mClientManager.mCommandSocket.sent =
    s.mClientManager.mCommandSocket.sent ++ [wordsToBytes [errcode.code]]

instance (s t : CommsThread) (id : ℕ) (msg answer : List Byte) :
    Decidable (SentTo s t id msg answer) := inferInstanceAs (Decidable (_ ∧ _))

instance (s t : CommsThread) (errcode : ServerCommand) : Decidable (Refused s t errcode) :=
  inferInstanceAs (Decidable (_ ∧ _))

/-- No code is in `COMMAND_MAP` and forwarded at once. -/
theorem lookup_of_forwarded : ∀ code ∈ UDP_THREAD_FORWARD_COMMANDS ++
    CLUSTER_THREAD_FORWARD_COMMANDS ++ HISTOGRAM_THREAD_FORWARD_COMMANDS,
    COMMAND_MAP.lookup code = none := by
  decide

/-- A request with a target is forwarded to it. -/
theorem handleCommand_forward {s : CommsThread} {msg : List Byte} {ref : ThreadRef}
    (hconn : s.mTpxManager.mIsConnected = true) (hlen : 4 ≤ msg.length)
    (halign : msg.length % 2 ^ 32 % 4 = 0)
    (href : forwardTarget (requestCode msg) s.threads = some ref) (answer : List Byte) :
    handleCommand msg answer s = forwardToSecondaryThread ref.socket msg answer s := by
  have hmem : requestCode msg ∈ UDP_THREAD_FORWARD_COMMANDS ++
      CLUSTER_THREAD_FORWARD_COMMANDS ++ HISTOGRAM_THREAD_FORWARD_COMMANDS := by
    unfold forwardTarget at href
    split_ifs at href with hudp hcluster hhistogram
    · simp [hudp]
    · simp [hcluster]
    · simp [hhistogram]
  unfold handleCommand
  rw [if_neg (by simp [hconn]), if_neg (Nat.not_lt.mpr hlen)]
  dsimp only
  rw [if_neg (not_not.mpr halign), lookup_of_forwarded _ hmem]
  dsimp only
  unfold forwardTarget at href
  split_ifs at href with hudp hcluster hhistogram
  · cases href
    rw [if_pos hudp]
  · cases href
    rw [if_neg hudp, if_pos hcluster]
  · cases href
    rw [if_neg hudp, if_neg hcluster, if_pos hhistogram]

section Step

variable {x : Server} {msg : List Byte} {ref : ThreadRef} (answer : List Byte)
  (hacc : Accepted x msg)
  (href : ref ∈ forwardTarget (requestCode msg) x.thread.threads)
include hacc href

/-- The step forwards the request, after it was received. -/
theorem step_forward : ∃ s, s.threads = x.thread.threads ∧
    s.mClientManager.mCommandSocket.sent = x.thread.mClientManager.mCommandSocket.sent ∧
    s.mClientManager.mCommandSocket.sendError = none ∧
    Server.step x (.client (some msg) answer) =
      some (Server.resume ((forwardToSecondaryThread ref.socket msg answer s).catching clientError)
        (⟨.head, ·⟩) x.thread) := by
  obtain ⟨phase, s⟩ := x
  obtain ⟨hphase, hlegal, hconn, hlen, halign⟩ := hacc
  have hphase' : phase = .client := hphase
  subst hphase'
  have hlegal' : s.mClientManager.mCommandSocket.recvError = none := hlegal
  refine ⟨s.withClient { s.mClientManager with
    mCommandSocket := s.mClientManager.mCommandSocket.recv msg }, rfl, rfl, ?_, ?_⟩
  · unfold RepSocket.recvError at hlegal'
    split_ifs at hlegal' with hclosed howed
    unfold RepSocket.sendError
    rw [if_neg]
    · rfl
    · exact hclosed
  · have hforward := handleCommand_forward (s := s.withClient { s.mClientManager with
      mCommandSocket := s.mClientManager.mCommandSocket.recv msg }) hconn hlen halign href answer
    show some _ = some _
    unfold poll
    rw [hlegal']
    dsimp only
    rw [hforward]

theorem step_refused (hsocket : ref.socket = none) :
    ∃ x', Server.step x (.client (some msg) answer) = some x' ∧
      Refused x.thread x'.thread .THREAD_NOT_STARTED := by
  obtain ⟨s, hthreads, hsent, hlegal, hstep⟩ := step_forward answer hacc href
  refine ⟨_, hstep, ?_⟩
  rw [hsocket]
  unfold forwardToSecondaryThread sendError sendResponse send
  rw [show (s.withClient { s.mClientManager with
    mLastCommand := .THREAD_NOT_STARTED }).mClientManager.mCommandSocket.sendError = none from
      hlegal]
  exact ⟨congrArg SecondaryThreads.requests hthreads, congrArg (· ++ _) hsent⟩

theorem step_sent {socket : ReqSocket} (hsocket : ref.socket = some socket)
    (hopen : socket.isOpen = true) :
    ∃ x', Server.step x (.client (some msg) answer) = some x' ∧
      SentTo x.thread x'.thread socket.thread msg answer := by
  obtain ⟨s, hthreads, hsent, hlegal, hstep⟩ := step_forward answer hacc href
  refine ⟨_, hstep, ?_⟩
  rw [hsocket]
  unfold forwardToSecondaryThread send
  dsimp only
  rw [if_neg (by simp [hopen]), hlegal]
  exact ⟨congrArg (fun threads => threads.requests ++ _) hthreads, congrArg (· ++ _) hsent⟩

end Step

/-! ## The pointers and the sockets -/

/-- **Pairing.** The cluster and the histogram thread keep their sockets and are never cancelled.
The UDP socket is that of the UDP thread; if there is none, the socket's thread was cancelled. So
were all other UDP threads. -/
structure Paired (threads : SecondaryThreads) : Prop where
  started : 2 ≤ threads.started
  cancelled : ∀ id ∈ threads.cancelled, 2 ≤ id ∧ id < threads.started
  cluster : threads.mClusterThread = some 0 ∧
    threads.mClusterCommandSocket = some { thread := 0 }
  histogram : threads.mHistogramThread = some 1 ∧
    threads.mHistogramCommandSocket = some { thread := 1 }
  udp : ∀ id ∈ threads.mUdpThread, threads.mUdpCommandSocket = some { thread := id } ∧
    2 ≤ id ∧ id < threads.started ∧ id ∉ threads.cancelled
  noUdp : threads.mUdpThread = none → ∀ socket ∈ threads.mUdpCommandSocket,
    socket.isOpen = true ∧ socket.thread ∈ threads.cancelled
  others : ∀ id, 2 ≤ id → id < threads.started →
    id ∈ threads.cancelled ∨ threads.mUdpThread = some id

namespace Paired

variable {s : CommsThread} (h : Paired s.threads)
include h

/-- The old UDP thread is cancelled, and the new one takes its place. -/
theorem bind : s.bindUdpPort.All (Paired ·.threads) := by
  rcases CommsThread.bindUdpPort_cases (s := s) with hbind | hbind
  · rw [hbind]
    trivial
  rw [hbind]
  have hcancelled : ∀ id ∈ s.threads.cancelled ++ s.threads.mUdpThread.toList,
      2 ≤ id ∧ id < s.threads.started := by
    intro id hid
    rcases List.mem_append.mp hid with hid | hid
    · exact h.cancelled id hid
    · obtain ⟨-, htwo, hlt, -⟩ := h.udp id (Option.mem_toList.mp hid)
      exact ⟨htwo, hlt⟩
  refine ⟨Nat.le_succ_of_le h.started, fun id hid => ?_, h.cluster, h.histogram, ?_, nofun,
    fun id htwo hlt => ?_⟩
  · obtain ⟨htwo, hlt⟩ := hcancelled id hid
    exact ⟨htwo, Nat.lt_succ_of_lt hlt⟩
  · rintro id ⟨⟩
    exact ⟨rfl, h.started, Nat.lt_succ_self _, fun hid => Nat.lt_irrefl _ (hcancelled _ hid).2⟩
  · rcases Nat.lt_succ_iff_lt_or_eq.mp hlt with hlt | rfl
    · left
      rcases h.others id htwo hlt with hid | hid
      · exact List.mem_append_left _ hid
      · exact List.mem_append_right _ (Option.mem_toList.mpr hid)
    · exact Or.inr rfl

/-- The UDP thread is cancelled, and only its socket is left. -/
theorem reset : s.resetClientConnection.All (Paired ·.threads) := by
  rcases CommsThread.resetClientConnection_cases (s := s) with hreset | hreset
  · rw [hreset]
    trivial
  rw [hreset]
  refine ⟨h.started, fun id hid => ?_, h.cluster, h.histogram, nofun, fun _ socket hsocket => ?_,
    fun id htwo hlt => ?_⟩
  · simp only [List.mem_append, Option.mem_toList] at hid
    rcases hid with (hid | hid) | hid
    · exact h.cancelled id hid
    · exact ⟨(h.udp id hid).2.1, (h.udp id hid).2.2.1⟩
    · exact ⟨(h.udp id hid).2.1, (h.udp id hid).2.2.1⟩
  · have hsocket' : s.threads.mUdpCommandSocket = some socket := hsocket
    cases hthread : s.threads.mUdpThread with
    | none =>
      obtain ⟨hopen, hmem⟩ := h.noUdp hthread socket hsocket'
      exact ⟨hopen, List.mem_append_left _ (List.mem_append_left _ hmem)⟩
    | some id =>
      rw [(h.udp id hthread).1] at hsocket'
      cases hsocket'
      exact ⟨rfl, List.mem_append_right _ (by simp)⟩
  · left
    rcases h.others id htwo hlt with hid | hid
    · exact List.mem_append_left _ (List.mem_append_left _ hid)
    · exact List.mem_append_right _ (Option.mem_toList.mpr hid)

/-- The socket is that of the thread pointed to, or of a cancelled one. -/
theorem target {code : ServerCommand} {ref : ThreadRef}
    (href : ref ∈ forwardTarget code s.threads) :
    (ref.thread = none ∧ ∀ socket ∈ ref.socket,
      socket.isOpen = true ∧ socket.thread ∈ s.threads.cancelled) ∨
    ∃ id, ref.thread = some id ∧ ref.socket = some { thread := id } ∧
      id ∉ s.threads.cancelled := by
  have hfixed : ∀ id < 2, id ∉ s.threads.cancelled :=
    fun id hlt hid => absurd (h.cancelled id hid).1 (Nat.not_le.mpr hlt)
  rw [Option.mem_def] at href
  unfold forwardTarget at href
  split_ifs at href
  · cases href
    cases hthread : s.threads.mUdpThread with
    | none => exact Or.inl ⟨rfl, h.noUdp hthread⟩
    | some id =>
      obtain ⟨hsocket, -, -, hid⟩ := h.udp id hthread
      exact Or.inr ⟨id, rfl, hsocket, hid⟩
  · cases href
    exact Or.inr ⟨0, h.cluster.1, h.cluster.2, hfixed 0 Nat.zero_lt_two⟩
  · cases href
    exact Or.inr ⟨1, h.histogram.1, h.histogram.2, hfixed 1 Nat.one_lt_two⟩

end Paired

theorem clientFrame_paired : ClientFrame (Paired ·.threads) where
  client := fun h _ => h
  signal := fun h _ => h
  cancel := fun h => h
  tpx := fun h _ _ => h
  renew := fun h _ => h
  requests := fun h _ =>
    ⟨h.started, h.cancelled, h.cluster, h.histogram, h.udp, h.noUdp, h.others⟩
  finished := fun h _ =>
    ⟨h.started, h.cancelled, h.cluster, h.histogram, h.udp, h.noUdp, h.others⟩
  bind := Paired.bind
  reset := Paired.reset

/-! ## Whole runs -/

/-- The communication thread is still in its loop. -/
structure InLoop (x : Server) : Prop where
  notStopped : x.phase ≠ .stopped
  defined : x.phase ≠ .undefined

theorem inLoop_of_client {x : Server} (h : x.phase = .client) : InLoop x := by
  refine ⟨?_, ?_⟩
  · rw [h]
    exact Phase.noConfusion
  · rw [h]
    exact Phase.noConfusion

/-- A step is taken in the loop. -/
theorem inLoop_of_step {x x' : Server} {e : Event} (h : Server.step x e = some x') :
    InLoop x := by
  refine ⟨fun hphase => ?_, fun hphase => ?_⟩
  · unfold Server.step at h
    rw [hphase] at h
    cases h
  · unfold Server.step at h
    rw [hphase] at h
    cases h

/-- **One step.** As long as the loop has not been left, the pointers and the sockets are paired. -/
theorem paired_step {x x' : Server} {e : Event} (h : InLoop x → Paired x.thread.threads)
    (hstep : Server.step x e = some x') (hloop : InLoop x') : Paired x'.thread.threads := by
  have hpaired : Paired x.thread.threads := h (inLoop_of_step hstep)
  by_cases he : ∃ attempt, e = .iterate attempt
  · obtain ⟨attempt, rfl⟩ := he
    exact clientFrame_paired.iterate (fun h _ => h) hpaired hstep hloop.notStopped
      hloop.defined
  · exact clientFrame_paired.step (fun attempt heq => he ⟨attempt, heq⟩) hpaired hstep
      hloop.notStopped hloop.defined

theorem threads_start (openError : Option OpenError) : (Server.start openError).thread.threads =
    { mClusterThread := some 0
      mClusterCommandSocket := some { thread := 0 }
      mHistogramThread := some 1
      mHistogramCommandSocket := some { thread := 1 }
      started := 2 } := by
  cases openError with
  | none => rfl
  | some e => cases e <;> rfl

theorem paired_start (openError : Option OpenError) :
    Paired (Server.start openError).thread.threads := by
  rw [threads_start]
  exact ⟨le_rfl, nofun, ⟨rfl, rfl⟩, ⟨rfl, rfl⟩, nofun, nofun,
    fun id htwo hlt => absurd hlt (Nat.not_lt.mpr htwo)⟩

end TpxServer.Comms
