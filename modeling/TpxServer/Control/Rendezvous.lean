import TpxServer.Control.System

/-!
# Every call is accounted for

Only whole words are forwarded, so no secondary thread ever owes a reply. What a thread has received
and sent are the requests and the replies of the calls that were made to it, in order, and a client
is sent the reply of the thread and nothing else (`calls_account`).
-/

namespace TpxServer.Control

open Comms (Server CommsThread SecondaryThreads RepSocket ReqSocket Accepted Paired InLoop
  forwardTarget ClientFrame TpxFrame StepFrame)
open Comms.PythonConnectionManager hiding handleCommand
open Measuring (Role Outline Turn Settled AnswersOnce)
open Rendezvous (requestsTo repliesOf)
open Clustering

/-! ## The steps of a secondary thread -/

namespace Secondary

variable {t t' : Secondary}

section Mark

variable (t) (cancelled : Prop) [Decidable cancelled]

@[simp] theorem mark_role : (t.mark cancelled).role = t.role := by
  unfold mark
  split_ifs
  · rfl
  · rfl

@[simp] theorem mark_begun : (t.mark cancelled).begun = t.begun := by
  unfold mark
  split_ifs
  · rfl
  · rfl

@[simp] theorem mark_outline : (t.mark cancelled).outline =
    { t.outline with cancelled := t.outline.cancelled || decide cancelled } := by
  unfold mark
  split_ifs with h
  · simp only [h, decide_true, Bool.or_true]
    rfl
  · simp only [h, decide_false, Bool.or_false]

@[simp] theorem mark_socket : (t.mark cancelled).socket = t.socket := by
  unfold socket
  rw [mark_outline]

end Mark

/-- Being run changes at most the flag, and only that of a UDP thread. -/
theorem run_eq_some {bindError : Option String} (h : t.run bindError = some t') :
    t'.role = t.role ∧ t'.begun = true ∧ t'.outline = { t.outline with
      cancelled := t.outline.cancelled || decide (t.role = .udp ∧ bindError.isSome) } := by
  unfold run at h
  split_ifs at h
  cases h
  obtain ⟨role, ⟨phase, thread⟩, mHostPort, begun⟩ := t
  refine ⟨rfl, rfl, ?_⟩
  cases role with
  | udp =>
    cases bindError with
    | none => simp [outline, Measuring.Worker.outline, enter, Comms.SecondaryThread.signal]
    | some what => simp [outline, Measuring.Worker.outline, enter, Comms.SecondaryThread.signal]
  | clusters => simp [outline, Measuring.Worker.outline, enter, Comms.SecondaryThread.signal]
  | histogram => simp [outline, Measuring.Worker.outline, enter, Comms.SecondaryThread.signal]

theorem undefined_or_answersOnce (env : Comms.Surroundings) (role : Role)
    (cmd : Comms.ServerCommand) (data : DataVec) (t : Comms.SecondaryThread (Manager role))
    (h : Measuring.Owing t.mCommandSocket) :
    handleCommand role env cmd data t = .undefined ∨
      AnswersOnce t (handleCommand role env cmd data t) := by
  cases role with
  | udp => exact Or.inr (Measuring.answersOnce_udp h cmd)
  | clusters => exact Measuring.undefined_or_answersOnce h cmd
  | histogram => exact Or.inr (Measuring.answersOnce_histogram h cmd)

theorem test_eq_some (h : t.test = some t') :
    t'.role = t.role ∧ t.begun = true ∧ t'.begun = true ∧ t.outline.phase = .head ∧ t'.outline =
      { t.outline with phase := if t.outline.cancelled then .ended else .commands } := by
  unfold test at h
  split_ifs at h with hbegun
  obtain ⟨w, hw, rfl⟩ := Option.map_eq_some_iff.mp h
  obtain ⟨hphase, signals, rfl⟩ := Measuring.Worker.test_eq_some hw
  exact ⟨rfl, hbegun, hbegun, hphase, rfl⟩

theorem commands_eq_some {env : Comms.Surroundings} {request : Option (List Byte)}
    (hopen : t.socket.isOpen = true) (h : t.commands env request = some t') :
    t'.role = t.role ∧ t.begun = true ∧ t'.begun = true ∧ t.outline.phase = .commands ∧
      Turn request t.outline t'.outline := by
  unfold commands at h
  split_ifs at h with hbegun
  obtain ⟨w, hw, rfl⟩ := Option.map_eq_some_iff.mp h
  exact ⟨rfl, hbegun, hbegun, Measuring.commands_phase hw, Measuring.turn_commands hopen
    (fun cmd data t ht => undefined_or_answersOnce _ _ cmd data t ht) hw⟩

theorem poll_eq_some {manager : (role : Role) → Manager role} (h : t.poll manager = some t') :
    t'.role = t.role ∧ t.begun = true ∧ t'.begun = true ∧ t.outline.phase = .poll ∧
      t'.outline = { t.outline with phase := .head } := by
  unfold poll at h
  split_ifs at h with hbegun
  obtain ⟨w, hw, rfl⟩ := Option.map_eq_some_iff.mp h
  obtain ⟨hphase, rfl⟩ := Measuring.Worker.poll_eq_some hw
  exact ⟨rfl, hbegun, hbegun, hphase, rfl⟩

theorem pollThrows_eq_some (h : t.pollThrows = some t') :
    t'.role = t.role ∧ t.begun = true ∧ t'.begun = true ∧ t.role = .udp ∧
      t'.outline = { t.outline with phase := .head, cancelled := true } := by
  unfold pollThrows at h
  split_ifs at h with hthrows
  cases h
  exact ⟨rfl, hthrows.1, hthrows.1, hthrows.2.1, rfl⟩

end Secondary

/-! ## The steps of the communication thread -/

theorem stepFrame_started (n : ℕ) : StepFrame fun s => n ≤ s.threads.started where
  client := fun h _ => h
  signal := fun h _ => h
  cancel := fun h => h
  tpx := fun h _ _ => h
  anyTpx := fun h _ => h
  renew := fun h _ => h
  finished := fun h _ => h
  close := by
    intro s h
    rcases Comms.closeThreads_cases s with hundef | hok
    · rw [hundef]
      trivial
    · rw [hok]
      exact h

theorem clientFrame_started (n : ℕ) : ClientFrame fun s => n ≤ s.threads.started where
  toTpxFrame := (stepFrame_started n).toTpxFrame
  renew := fun h _ => h
  requests := fun h _ => h
  finished := fun h _ => h
  bind := by
    intro s h
    rcases CommsThread.bindUdpPort_cases (s := s) with hundef | hok
    · rw [hundef]
      trivial
    · rw [hok]
      exact Nat.le_succ_of_le h
  reset := by
    intro s h
    rcases CommsThread.resetClientConnection_cases (s := s) with hundef | hok
    · rw [hundef]
      trivial
    · rw [hok]
      exact h

/-- Threads are only added. -/
theorem started_step {server server' : Server} {e : Comms.Event}
    (h : Server.step server e = some server') :
    server.thread.threads.started ≤ server'.thread.threads.started :=
  (stepFrame_started _).step_of_client (clientFrame_started _) (Nat.le_refl _) h

/-- The requests forwarded so far. -/
def Requested (requests : List (ℕ × List Byte)) (s : CommsThread) : Prop :=
  s.threads.requests = requests

theorem stepFrame_requested (requests : List (ℕ × List Byte)) :
    StepFrame (Requested requests) where
  client := fun h _ => h
  signal := fun h _ => h
  cancel := fun h => h
  tpx := fun h _ _ => h
  anyTpx := fun h _ => h
  renew := fun h _ => h
  finished := fun h _ => h
  close := by
    intro s h
    rcases Comms.closeThreads_cases s with hundef | hok
    · rw [hundef]
      trivial
    · rw [hok]
      exact h

section Requested

variable {requests : List (ℕ × List Byte)} {s : CommsThread}

theorem requested_callHandler (h : Requested requests s) (handler : Comms.ClientHandler)
    (data : DataVec) : (callHandler handler data s).All (Requested requests) := by
  have hP := (stepFrame_requested requests).toTpxFrame
  cases handler with
  | genericForward sz cmd =>
    show (genericForward sz cmd data s).All _
    unfold genericForward
    split
    · exact hP.sendError (hP.signal h _) _
    · exact hP.tpx h _ rfl
  | sendPixelConfigData =>
    show (sendPixelConfigData data s).All _
    unfold sendPixelConfigData
    split
    · exact hP.sendError h _
    · exact hP.tpx h _ rfl
  | bindUdpPort =>
    show (bindUdpPort data s).All _
    unfold bindUdpPort
    split
    · exact hP.sendError h _
    · refine Outcome.All.andThen ?_ fun s hs => hP.sendResponse hs []
      rcases CommsThread.bindUdpPort_cases (s := s) with hundef | hok
      · rw [hundef]
        trivial
      · rw [hok]
        exact h

theorem requested_reset (h : Requested requests s) :
    s.resetClientConnection.All (Requested requests) := by
  rcases CommsThread.resetClientConnection_cases (s := s) with hundef | hok
  · rw [hundef]
    trivial
  · rw [hok]
    exact h

/-- A request without a target, or whose target has no open socket, is not forwarded. -/
theorem requested_handleCommand (h : Requested requests s) {msg : List Byte}
    (hnone : s.mTpxManager.mIsConnected = true → 4 ≤ msg.length → msg.length % 2 ^ 32 % 4 = 0 →
      (forwardTarget (requestCode msg) s.threads).bind (fun ref =>
        (ref.socket.filter ReqSocket.isOpen).map ReqSocket.thread) = none)
    (answer : List Byte) :
    (Comms.PythonConnectionManager.handleCommand msg answer s).All (Requested requests) := by
  have hP := (stepFrame_requested requests).toTpxFrame
  unfold Comms.PythonConnectionManager.handleCommand
  by_cases hconn : s.mTpxManager.mIsConnected = false
  · rw [if_pos hconn]
    exact hP.sendError h _
  by_cases hlen : msg.length < 4
  · rw [if_neg hconn, if_pos hlen]
    trivial
  rw [if_neg hconn, if_neg hlen]
  dsimp only
  by_cases halign : msg.length % 2 ^ 32 % 4 ≠ 0
  · rw [if_pos halign]
    exact hP.sendError h _
  rw [if_neg halign]
  have hnone := hnone (Bool.eq_true_of_not_eq_false hconn) (Nat.le_of_not_lt hlen)
    (not_not.mp halign)
  have hforward : ∀ ref : Comms.ThreadRef,
      (ref.socket.filter ReqSocket.isOpen).map ReqSocket.thread = none →
      (forwardToSecondaryThread ref.socket msg answer s).All (Requested requests) := by
    intro ref href
    unfold forwardToSecondaryThread
    refine Outcome.All.catching ?_ fun e f hf t ht => ?_
    · cases hsocket : ref.socket with
      | none => exact hP.sendError h _
      | some socket =>
        rw [hsocket] at href
        by_cases hopen : socket.isOpen = true
        · simp [Option.filter, hopen] at href
        · dsimp only
          rw [if_pos (Bool.eq_false_of_not_eq_true hopen)]
          exact hP.sendError h _
    · cases hf
      exact ht
  split
  · split_ifs
    · exact h
    · exact requested_callHandler (hP.client h _) _ _
  · unfold forwardTarget at hnone
    split_ifs with hudp hcluster hhistogram
    · rw [if_pos hudp] at hnone
      exact hforward ⟨_, _⟩ hnone
    · rw [if_neg hudp, if_pos hcluster] at hnone
      exact hforward ⟨_, _⟩ hnone
    · rw [if_neg hudp, if_neg hcluster, if_pos hhistogram] at hnone
      exact hforward ⟨_, _⟩ hnone
    · exact hP.sendError h _

end Requested

theorem phase_of_client {server server' : Server} {request : Option (List Byte)}
    {answer : List Byte} (h : Server.step server (.client request answer) = some server') :
    server.phase = .client := by
  obtain ⟨phase, s⟩ := server
  cases phase with
  | client => rfl
  | head => cases h
  | asio => cases h
  | stopped => cases h
  | undefined => cases h

theorem forwardsTo_eq_some {server : Server} {msg : List Byte} {id : ℕ} :
    forwardsTo server msg = some id ↔ Accepted server msg ∧
      ∃ ref ∈ forwardTarget (requestCode msg) server.thread.threads,
        ∃ socket ∈ ref.socket, socket.isOpen = true ∧ socket.thread = id := by
  unfold forwardsTo
  by_cases hacc : Accepted server msg
  · rw [if_pos hacc]
    simp only [Option.bind_eq_some_iff, Option.map_eq_some_iff, Option.filter_eq_some_iff,
      Option.mem_def, hacc, true_and, and_assoc]
  · rw [if_neg hacc]
    simp [hacc]

/-- A step that forwards nothing leaves the forwarded requests as they are. -/
theorem requests_step {server server' : Server} {e : Comms.Event}
    (hnone : ∀ msg answer, e = .client (some msg) answer → forwardsTo server msg = none)
    (h : Server.step server e = some server') :
    server'.thread.threads.requests = server.thread.threads.requests := by
  have hP := stepFrame_requested server.thread.threads.requests
  refine hP.step (fun request answer he => ?_) rfl h
  subst he
  have hphase := phase_of_client h
  unfold Comms.PythonConnectionManager.poll
  refine Outcome.All.catching ?_ fun e f hf t ht => ?_
  · cases hrecv : server.thread.mClientManager.mCommandSocket.recvError with
    | some e => exact rfl
    | none =>
      cases request with
      | none => exact rfl
      | some msg =>
        refine requested_handleCommand (s := server.thread.withClient _) rfl ?_ answer
        intro hconn hlen halign
        have hacc : Accepted server msg := ⟨hphase, hrecv, hconn, hlen, halign⟩
        have hnone := hnone msg answer rfl
        unfold forwardsTo at hnone
        rw [if_pos hacc] at hnone
        exact hnone
  · cases e with
    | error_t num what =>
      cases hf
      exact requested_reset ht
    | system_error code => cases hf
    | std_exception what => cases hf

theorem step_cancel {server server' : Server} (h : Server.step server .cancel = some server') :
    server' = ⟨server.phase, server.thread.cancel⟩ := by
  obtain ⟨phase, s⟩ := server
  cases phase <;> cases h <;> rfl

theorem step_finish {server server' : Server} {id : ℕ}
    (h : Server.step server (.finish id) = some server') :
    server' = ⟨server.phase, { server.thread with
      threads := { server.thread.threads with
        finished := server.thread.threads.finished ++ [id] } }⟩ := by
  obtain ⟨phase, s⟩ := server
  cases phase with
  | stopped => cases h
  | undefined => cases h
  | head | asio | client =>
    simp only [Server.step, Option.ite_none_right_eq_some] at h
    exact (Option.some.inj h.2).symm

/-! ## The invariant -/

/-- The kinds of the threads by their numbers. -/
def roleOf : ℕ → Role
  | 0 => .clusters
  | 1 => .histogram
  | _ => .udp

/-- What is known about the thread with number `id`. -/
structure Good (x : System) (id : ℕ) (t : Secondary) : Prop where
  role : t.role = roleOf id
  settled : Settled t.socket
  received : t.socket.received = requestsTo x.calls x.waiting id
  sent : t.socket.sent = repliesOf x.calls x.waiting id
  spared : InLoop x.server → id < 2 → t.outline.cancelled = false
  marked : id ∈ x.server.thread.threads.cancelled → t.outline.cancelled = true
  ended : t.outline.phase = .ended → t.outline.cancelled = true
  idle : t.begun = false → t.outline.phase = .head
  room : InLoop x.server → t.begun = true → min id 2 + 1 < x.maxThreadCount

/-- What is known about the request that is waited for. -/
structure Waits (server : Server) (count : ℕ) (w : Waiting) : Prop where
  forwards : forwardsTo server w.request = some w.callee
  lt : w.callee < count
  taken_iff : w.taken = w.reply.isSome

structure Inv (x : System) : Prop where
  paired : InLoop x.server → Paired x.server.thread.threads
  length : x.threads.length = x.server.thread.threads.started
  fixed : 2 ≤ x.threads.length
  good : ∀ id t, x.threads[id]? = some t → Good x id t
  waits : ∀ w ∈ x.waiting, Waits x.server x.threads.length w
  requests : x.server.thread.threads.requests = x.calls.map fun c => (c.callee, c.request)
  calls : ∀ c ∈ x.calls, c.callee < x.threads.length ∧ c.delivered.length = 1

/-! ## Steps of the communication thread -/

theorem getElem?_follow {threads : SecondaryThreads} {mHostPort : ℕ} {ts : List Secondary}
    {id : ℕ} {t : Secondary} (h : (follow threads mHostPort ts)[id]? = some t) :
    ∃ t₀, (ts[id]? = some t₀ ∨ ts.length ≤ id ∧ t₀ = create .udp {} mHostPort) ∧
      t = t₀.mark (id ∈ threads.cancelled) := by
  unfold follow at h
  rw [List.getElem?_mapIdx] at h
  obtain ⟨t₀, ht₀, rfl⟩ := Option.map_eq_some_iff.mp h
  refine ⟨t₀, ?_, rfl⟩
  rw [List.getElem?_append] at ht₀
  split_ifs at ht₀ with hlt
  · exact Or.inl ht₀
  · rw [List.getElem?_replicate] at ht₀
    split_ifs at ht₀
    cases ht₀
    exact Or.inr ⟨Nat.le_of_not_lt hlt, rfl⟩

theorem length_follow {threads : SecondaryThreads} {mHostPort : ℕ} {ts : List Secondary}
    (h : ts.length ≤ threads.started) : (follow threads mHostPort ts).length = threads.started := by
  unfold follow
  rw [List.length_mapIdx, List.length_append, List.length_replicate]
  omega

section Comms

variable {x : System} (h : Inv x) {e : Comms.Event} {server : Server}
include h

/-- Nothing was asked of a thread that does not exist. -/
theorem account_of_length_le {id : ℕ} (hid : x.threads.length ≤ id) :
    requestsTo x.calls x.waiting id = [] ∧ repliesOf x.calls x.waiting id = [] := by
  have hcalls : x.calls.filter (·.callee = id) = [] := by
    refine List.filter_eq_nil_iff.mpr fun c hc => ?_
    have hlt := (h.calls c hc).1
    simp only [decide_eq_true_eq]
    omega
  have hwaiting : ∀ w ∈ x.waiting.toList, w.callee ≠ id := by
    intro w hw heq
    have hlt := (h.waits w (Option.mem_toList.mp hw)).lt
    omega
  unfold requestsTo repliesOf
  rw [hcalls]
  refine ⟨?_, ?_⟩
  · rw [List.filter_eq_nil_iff.mpr fun w hw => by simp [hwaiting w hw]]
    rfl
  · rw [List.filter_eq_nil_iff.mpr fun w hw => by simp [hwaiting w hw]]
    rfl

/-- The communication thread takes a step after which the account is the same. -/
theorem inv_proceed (hstep : Server.step x.server e = some server) {waiting : Option Waiting}
    {calls : List Call}
    (hrequests : server.thread.threads.requests = calls.map fun c => (c.callee, c.request))
    (hcalls : ∀ c ∈ calls, c.callee < x.threads.length ∧ c.delivered.length = 1)
    (hreceived : ∀ id, requestsTo calls waiting id = requestsTo x.calls x.waiting id)
    (hsent : ∀ id, repliesOf calls waiting id = repliesOf x.calls x.waiting id)
    (hwaits : ∀ w ∈ waiting, Waits server x.threads.length w) (mHostPort : ℕ) :
    Inv { x.proceed mHostPort server with waiting := waiting, calls := calls } := by
  have hstarted : x.threads.length ≤ server.thread.threads.started :=
    h.length.le.trans (started_step hstep)
  have hlength : (x.proceed mHostPort server).threads.length = server.thread.threads.started :=
    length_follow hstarted
  refine {
    paired := Comms.paired_step h.paired hstep
    length := hlength
    fixed := h.fixed.trans (hstarted.trans hlength.ge)
    good := fun id t ht => ?_
    waits := fun w hw => ?_
    requests := hrequests
    calls := fun c hc =>
      ⟨(hcalls c hc).1.trans_le (hstarted.trans hlength.ge), (hcalls c hc).2⟩ }
  · have hloop := Comms.inLoop_of_step hstep
    obtain ⟨t₀, ht₀, rfl⟩ := getElem?_follow ht
    have hunmarked (hloop' : InLoop server) (hid : id < 2) :
        id ∉ server.thread.threads.cancelled := fun hmem => by
      have htwo := ((Comms.paired_step h.paired hstep hloop').cancelled id hmem).1
      omega
    rcases ht₀ with ht₀ | ⟨hid, rfl⟩
    · have hgood := h.good id t₀ ht₀
      exact {
        role := (Secondary.mark_role _ _).trans hgood.role
        settled := by rw [Secondary.mark_socket]; exact hgood.settled
        received := by rw [Secondary.mark_socket, hgood.received]; exact (hreceived id).symm
        sent := by rw [Secondary.mark_socket, hgood.sent]; exact (hsent id).symm
        spared := fun hloop' hid => by
          simp [hgood.spared hloop hid, hunmarked hloop' hid]
        marked := fun hmem => by
          rw [Secondary.mark_outline]
          exact (congrArg _ (decide_eq_true hmem)).trans (Bool.or_true _)
        ended := fun hended => by
          rw [Secondary.mark_outline] at hended ⊢
          simp only [hgood.ended hended, Bool.true_or]
        idle := fun hbegun => by
          rw [Secondary.mark_begun] at hbegun
          rw [Secondary.mark_outline]
          exact hgood.idle hbegun
        room := fun _ hbegun => hgood.room hloop ((Secondary.mark_begun _ _).symm.trans hbegun) }
    · obtain ⟨hnoRequest, hnoReply⟩ := account_of_length_le h hid
      have htwo : 2 ≤ id := h.fixed.trans hid
      have hrole : Role.udp = roleOf id := by
        match id with
        | 0 | 1 => omega
        | _ + 2 => rfl
      exact {
        role := (Secondary.mark_role _ _).trans hrole
        settled := by
          rw [Secondary.mark_socket]
          exact ⟨rfl, rfl, fun _ hm => absurd hm List.not_mem_nil, rfl⟩
        received := by
          rw [Secondary.mark_socket]
          exact ((hreceived id).trans hnoRequest).symm
        sent := by
          rw [Secondary.mark_socket]
          exact ((hsent id).trans hnoReply).symm
        spared := fun _ hid => absurd hid (Nat.not_lt.mpr htwo)
        marked := fun hmem => by
          rw [Secondary.mark_outline]
          exact decide_eq_true hmem
        ended := fun hended => by
          rw [Secondary.mark_outline] at hended
          cases hended
        idle := fun _ => by
          rw [Secondary.mark_outline]
          rfl
        room := fun _ hbegun => by
          rw [Secondary.mark_begun] at hbegun
          cases hbegun }
  · have hwaits := hwaits w hw
    exact ⟨hwaits.forwards, hwaits.lt.trans_le (hstarted.trans hlength.ge), hwaits.taken_iff⟩

end Comms

/-- The events that a waiting thread can be met with. -/
def Quiet (e : Comms.Event) : Prop := e = .cancel ∨ ∃ id, e = .finish id

theorem forwardsTo_quiet {server server' : Server} {e : Comms.Event} (he : Quiet e)
    (h : Server.step server e = some server') (msg : List Byte) (id : ℕ) :
    forwardsTo server' msg = some id ↔ forwardsTo server msg = some id := by
  rw [forwardsTo_eq_some, forwardsTo_eq_some]
  rcases he with rfl | ⟨id, rfl⟩
  · rw [step_cancel h]
    refine and_congr_left' ?_
    exact ⟨fun h => ⟨h.1, h.2, h.3, h.4, h.5⟩, fun h => ⟨h.1, h.2, h.3, h.4, h.5⟩⟩
  · rw [step_finish h]
    refine and_congr ?_ Iff.rfl
    exact ⟨fun h => ⟨h.1, h.2, h.3, h.4, h.5⟩, fun h => ⟨h.1, h.2, h.3, h.4, h.5⟩⟩

section Steps

variable {x x' : System}

/-- What a step of the communication thread can be. -/
theorem comms_eq_some {e : Comms.Event} (h : x.comms e = some x') :
    (∃ server mHostPort, Server.step x.server e = some server ∧ x' = x.proceed mHostPort server ∧
      (Quiet e ∨ x.waiting = none ∧
        ∀ msg answer, e = .client (some msg) answer → forwardsTo x.server msg = none)) ∨
    ∃ msg answer id, e = .client (some msg) answer ∧ x.waiting = none ∧
      forwardsTo x.server msg = some id ∧
        x' = { x with waiting := some { callee := id, request := msg } } := by
  have hother : (∀ msg answer, e ≠ .client (some msg) answer) →
      (if x.waiting.isSome then none else (Server.step x.server e).map (x.proceed 0)) = some x' →
      ∃ server mHostPort, Server.step x.server e = some server ∧ x' = x.proceed mHostPort server ∧
        (Quiet e ∨ x.waiting = none ∧
          ∀ msg answer, e = .client (some msg) answer → forwardsTo x.server msg = none) := by
    intro he h
    split_ifs at h with hwaiting
    obtain ⟨server, hstep, rfl⟩ := Option.map_eq_some_iff.mp h
    exact ⟨server, 0, hstep, rfl, Or.inr ⟨Option.not_isSome_iff_eq_none.mp hwaiting,
      fun msg answer heq => absurd heq (he msg answer)⟩⟩
  cases e with
  | cancel =>
    obtain ⟨server, hstep, rfl⟩ := Option.map_eq_some_iff.mp h
    exact Or.inl ⟨server, 0, hstep, rfl, Or.inl (Or.inl rfl)⟩
  | finish id =>
    simp only [System.comms, Option.ite_none_right_eq_some] at h
    obtain ⟨server, hstep, rfl⟩ := Option.map_eq_some_iff.mp h.2
    exact Or.inl ⟨server, 0, hstep, rfl, Or.inl (Or.inr ⟨id, rfl⟩)⟩
  | iterate attempt => exact Or.inl (hother (fun _ _ => Comms.Event.noConfusion) h)
  | connected err attempt => exact Or.inl (hother (fun _ _ => Comms.Event.noConfusion) h)
  | sent err bytes_sent => exact Or.inl (hother (fun _ _ => Comms.Event.noConfusion) h)
  | received err bytes => exact Or.inl (hother (fun _ _ => Comms.Event.noConfusion) h)
  | idle => exact Or.inl (hother (fun _ _ => Comms.Event.noConfusion) h)
  | client request answer =>
    cases request with
    | none => exact Or.inl (hother (fun _ _ => nofun) h)
    | some msg =>
      unfold System.comms at h
      dsimp only at h
      split_ifs at h with hwaiting
      have hwaiting := Option.not_isSome_iff_eq_none.mp hwaiting
      cases hforward : forwardsTo x.server msg with
      | some id =>
        rw [hforward] at h
        cases h
        exact Or.inr ⟨msg, answer, id, rfl, hwaiting, hforward, rfl⟩
      | none =>
        rw [hforward] at h
        obtain ⟨server, hstep, rfl⟩ := Option.map_eq_some_iff.mp h
        refine Or.inl ⟨server, _, hstep, rfl, Or.inr ⟨hwaiting, ?_⟩⟩
        rintro msg' answer' ⟨⟩
        exact hforward

/-- The thread that is asked exists, and only the cluster thread is asked to set its parameters. -/
theorem forwardsTo_target {server : Server} (hpaired : Paired server.thread.threads)
    {msg : List Byte} {id : ℕ} (h : forwardsTo server msg = some id) :
    id < server.thread.threads.started ∧
      (requestCode msg = .SET_CLUSTER_PARAMETERS → id = 0) := by
  obtain ⟨-, ref, href, socket, hsocket, -, rfl⟩ := forwardsTo_eq_some.mp h
  have hstarted := hpaired.started
  rw [Option.mem_def] at href hsocket
  unfold forwardTarget at href
  split_ifs at href with hudp hcluster hhistogram
  · cases href
    refine ⟨?_, fun hcode => absurd (hcode ▸ hudp) (by decide)⟩
    cases hthread : server.thread.threads.mUdpThread with
    | none => exact (hpaired.cancelled _ (hpaired.noUdp hthread socket hsocket).2).2
    | some id =>
      obtain ⟨heq, -, hlt, -⟩ := hpaired.udp id hthread
      cases hsocket.symm.trans heq
      exact hlt
  · cases href
    cases hsocket.symm.trans hpaired.cluster.2
    exact ⟨Nat.zero_lt_of_lt hstarted, fun _ => rfl⟩
  · cases href
    cases hsocket.symm.trans hpaired.histogram.2
    exact ⟨hstarted, fun hcode => absurd (hcode ▸ hhistogram) (by decide)⟩

theorem paired_of_forwardsTo (hx : Inv x) {msg : List Byte} {id : ℕ}
    (h : forwardsTo x.server msg = some id) : Paired x.server.thread.threads := by
  have hphase : x.server.phase = .client := (forwardsTo_eq_some.mp h).1.phase
  refine hx.paired ⟨?_, ?_⟩
  · rw [hphase]
    exact Comms.Phase.noConfusion
  · rw [hphase]
    exact Comms.Phase.noConfusion

theorem inv_comms (hx : Inv x) {e : Comms.Event} (h : x.comms e = some x') : Inv x' := by
  rcases comms_eq_some h with
    ⟨server, mHostPort, hstep, rfl, hquiet⟩ | ⟨msg, answer, id, rfl, hwaiting, hforward, rfl⟩
  · have hrequests : server.thread.threads.requests = x.server.thread.threads.requests := by
      refine requests_step (fun msg answer he => ?_) hstep
      subst he
      rcases hquiet with (he | ⟨id, he⟩) | ⟨-, hnone⟩
      · cases he
      · cases he
      · exact hnone msg answer rfl
    refine inv_proceed hx hstep (hrequests.trans hx.requests) hx.calls (fun _ => rfl)
      (fun _ => rfl) (fun w hw => ?_) mHostPort
    rcases hquiet with hquiet | ⟨hnone, -⟩
    · have hwaits := hx.waits w hw
      exact ⟨(forwardsTo_quiet hquiet hstep _ _).mpr hwaits.forwards, hwaits.lt, hwaits.taken_iff⟩
    · rw [hnone] at hw
      cases hw
  · have hlt : id < x.threads.length :=
      hx.length ▸ (forwardsTo_target (paired_of_forwardsTo hx hforward) hforward).1
    refine ⟨hx.paired, hx.length, hx.fixed, fun id' t ht => ?_, ?_, hx.requests, hx.calls⟩
    · have hgood := hx.good id' t ht
      refine ⟨hgood.role, hgood.settled, ?_, ?_, hgood.spared, hgood.marked, hgood.ended,
        hgood.idle, hgood.room⟩
      · rw [Rendezvous.requestsTo_ask, hgood.received, hwaiting]
      · rw [Rendezvous.repliesOf_ask, hgood.sent, hwaiting]
    · rintro w ⟨⟩
      exact ⟨hforward, hlt, rfl⟩

/-! ## Steps of the secondary threads -/

theorem getElem?_set {id : ℕ} {t : Secondary} (ht : x.threads[id]? = some t) (t' : Secondary) :
    (x.threads.set id t')[id]? = some t' :=
  List.getElem?_set_self (List.getElem?_eq_some_iff.mp ht).1

/-- A step of one thread. -/
theorem inv_set (hx : Inv x) {id : ℕ} {t : Secondary} {waiting : Option Waiting}
    (hgood : Good { x with waiting := waiting } id t)
    (hreceived : ∀ id', id' ≠ id → requestsTo x.calls waiting id' =
      requestsTo x.calls x.waiting id')
    (hsent : ∀ id', id' ≠ id → repliesOf x.calls waiting id' = repliesOf x.calls x.waiting id')
    (hwaits : ∀ w ∈ waiting, Waits x.server x.threads.length w) :
    Inv { x with threads := x.threads.set id t, waiting := waiting } := by
  have hlength : (x.threads.set id t).length = x.threads.length := List.length_set
  refine ⟨hx.paired, hlength.trans hx.length, hx.fixed.trans hlength.ge, fun id' t' ht' => ?_,
    fun w hw => ?_, hx.requests, fun c hc =>
      ⟨(hx.calls c hc).1.trans_le hlength.ge, (hx.calls c hc).2⟩⟩
  · by_cases hid : id' = id
    · subst hid
      obtain rfl : t = t' := by
        rw [List.getElem?_set, if_pos rfl] at ht'
        split_ifs at ht'
        exact Option.some.inj ht'
      exact ⟨hgood.role, hgood.settled, hgood.received, hgood.sent, hgood.spared, hgood.marked,
        hgood.ended, hgood.idle, hgood.room⟩
    · rw [List.getElem?_set_ne (Ne.symm hid)] at ht'
      have hgood' := hx.good id' t' ht'
      exact ⟨hgood'.role, hgood'.settled, hgood'.received.trans (hreceived id' hid).symm,
        hgood'.sent.trans (hsent id' hid).symm, hgood'.spared, hgood'.marked, hgood'.ended,
        hgood'.idle, hgood'.room⟩
  · have hwaits := hwaits w hw
    exact ⟨hwaits.forwards, hwaits.lt.trans_le hlength.ge, hwaits.taken_iff⟩

/-- What a thread may become by a step of its own that leaves its socket as it is. -/
structure Moved (x : System) (id : ℕ) (t t' : Secondary) : Prop where
  role : t'.role = t.role
  socket : t'.socket = t.socket
  cancelled : t.outline.cancelled = true → t'.outline.cancelled = true
  spared : t.role ≠ .udp → t.outline.cancelled = false → t'.outline.cancelled = false
  ended : t'.outline.phase = .ended → t'.outline.cancelled = true
  begun : t'.begun = true
  room : t.begun = true ∨ (InLoop x.server → min id 2 + 1 < x.maxThreadCount)

theorem inv_set_moved (hx : Inv x) {id : ℕ} {t t' : Secondary} (ht : x.threads[id]? = some t)
    (h : Moved x id t t') : Inv { x with threads := x.threads.set id t' } := by
  have hgood := hx.good id t ht
  refine inv_set hx ?_ (fun _ _ => rfl) (fun _ _ => rfl) hx.waits
  exact {
    role := h.role.trans hgood.role
    settled := h.socket ▸ hgood.settled
    received := by rw [h.socket]; exact hgood.received
    sent := by rw [h.socket]; exact hgood.sent
    spared := fun hloop hid => by
      refine h.spared ?_ (hgood.spared hloop hid)
      rw [hgood.role]
      match id with
      | 0 => exact Role.noConfusion
      | 1 => exact Role.noConfusion
      | _ + 2 => omega
    marked := fun hmem => h.cancelled (hgood.marked hmem)
    ended := h.ended
    idle := fun hbegun => absurd (hbegun.symm.trans h.begun) Bool.noConfusion
    room := fun hloop _ => h.room.elim (hgood.room hloop) fun hroom => hroom hloop }

theorem progress_self (socket : Comms.RepSocket) (w : Waiting) :
    System.progress socket socket w = w := by
  unfold System.progress
  rw [Measuring.news_self]
  simp

/-- A thread whose socket stays as it is does nothing for the call. -/
theorem map_progress_self (socket : Comms.RepSocket) (id : ℕ) (waiting : Option Waiting) :
    (waiting.map fun w => if w.callee = id then System.progress socket socket w else w) =
      waiting := by
  simp [progress_self]

/-- The thread takes the request and replies to it. -/
theorem progress_answered (socket : Comms.RepSocket) (msg reply : List Byte) {w : Waiting}
    (hreply : w.reply = none) : System.progress socket ((socket.recv msg).send reply) w =
      { w with taken := true, reply := some reply } := by
  unfold System.progress Comms.RepSocket.recv Comms.RepSocket.send
  dsimp only
  rw [Measuring.news_append, hreply]
  simp

theorem arriving_eq_some {id : ℕ} {arrived : Bool} {msg : List Byte}
    (h : (if arrived then x.arriving id else none) = some msg) :
    arrived = true ∧ ∃ w ∈ x.waiting, w.callee = id ∧ w.taken = false ∧ w.request = msg := by
  split_ifs at h with harrived
  unfold System.arriving at h
  obtain ⟨w, hw, rfl⟩ := Option.map_eq_some_iff.mp h
  obtain ⟨hw, hcond⟩ := Option.filter_eq_some_iff.mp hw
  obtain ⟨hcallee, htaken⟩ := of_decide_eq_true hcond
  exact ⟨harrived, w, hw, hcallee, htaken, rfl⟩

theorem inv_commands (hx : Inv x) {id : ℕ} {env : Comms.Surroundings} {arrived : Bool}
    (h : x.step (.commands id env arrived) = some x') : Inv x' := by
  obtain ⟨t, ht, h⟩ := Option.bind_eq_some_iff.mp h
  obtain ⟨t', ht', rfl⟩ := Option.map_eq_some_iff.mp h
  have hgood := hx.good id t ht
  obtain ⟨hrole, hbegun, hbegun', hcommands, hturn⟩ :=
    Secondary.commands_eq_some hgood.settled.isOpen ht'
  generalize ho : t'.outline = o at hturn
  have hsocket : t'.socket = o.socket := congrArg Outline.socket ho
  cases hturn with
  | leave hphase _ | enter hphase _ | poll hphase => cases hphase.symm.trans hcommands
  | refused hphase howed =>
    exact absurd howed (ne_true_of_eq_false hgood.settled.owed)
  | nothing hphase howed =>
    have hcancelled : t'.outline.cancelled = t.outline.cancelled := by rw [ho]
    have hsame : t'.socket = t.socket := hsocket
    rw [hsame, map_progress_self]
    refine inv_set_moved hx ht ⟨hrole, hsame, hcancelled.trans, fun _ => hcancelled.trans,
      fun hended => ?_, hbegun', Or.inl hbegun⟩
    rw [ho] at hended
    cases hended
  | malformed hphase howed msg hrequest hsize =>
    -- only whole words are forwarded
    obtain ⟨-, w, hw, -, -, rfl⟩ := arriving_eq_some hrequest
    have haligned := (forwardsTo_eq_some.mp (hx.waits w hw).forwards).1.aligned
    omega
  | answered hphase howed msg hrequest hsize reply =>
    obtain ⟨-, w, hw, rfl, htaken, rfl⟩ := arriving_eq_some hrequest
    have hwaits := hx.waits w hw
    have hreply : w.reply = none := by
      rw [← Option.not_isSome_iff_eq_none, ← hwaits.taken_iff, htaken]
      exact Bool.false_ne_true
    have hcancelled : t'.outline.cancelled = t.outline.cancelled := by rw [ho]
    rw [Option.mem_def] at hw
    rw [hsocket, hw, Option.map_some, if_pos rfl]
    show Inv { x with
      threads := x.threads.set w.callee t'
      waiting := some (System.progress t.socket ((t.socket.recv w.request).send reply) w) }
    rw [progress_answered _ _ _ hreply]
    refine inv_set hx ?_ (fun id hid => ?_) (fun id hid => ?_) ?_
    · exact {
        role := hrole.trans hgood.role
        settled := by rw [hsocket]; exact hgood.settled.answer hsize reply
        received := by
          rw [hsocket, Rendezvous.requestsTo_answer htaken, if_pos rfl, ← hw, ← hgood.received]
          rfl
        sent := by
          rw [hsocket, Rendezvous.repliesOf_answer hreply, if_pos rfl, ← hw, ← hgood.sent]
          rfl
        spared := fun hloop hid => hcancelled.trans (hgood.spared hloop hid)
        marked := fun hmem => hcancelled.trans (hgood.marked hmem)
        ended := fun hended => by
          rw [ho] at hended
          cases hended
        idle := fun h => absurd (h.symm.trans hbegun') Bool.noConfusion
        room := fun hloop _ => hgood.room hloop hbegun }
    · rw [hw, Rendezvous.requestsTo_answer htaken, if_neg (Ne.symm hid), List.append_nil]
    · rw [hw, Rendezvous.repliesOf_answer hreply, if_neg (Ne.symm hid), List.append_nil]
    · rintro w' ⟨⟩
      exact ⟨hwaits.forwards, hwaits.lt, rfl⟩

/-- The cluster thread and the histogram thread keep their places in the pool. -/
theorem min_le_countP (hx : Inv x) (hloop : InLoop x.server) (id : ℕ) :
    min id 2 ≤ (x.threads.take id).countP fun t => t.worker.phase ≠ .ended := by
  have hfixed : ∀ id < 2, ∀ t, x.threads[id]? = some t → t.worker.phase ≠ .ended := by
    intro id hid t ht hended
    have hgood := hx.good id t ht
    have hcancelled := hgood.ended hended
    rw [hgood.spared hloop hid] at hcancelled
    cases hcancelled
  obtain ⟨t₀, t₁, rest, hthreads⟩ : ∃ t₀ t₁ rest, x.threads = t₀ :: t₁ :: rest := by
    have htwo := hx.fixed
    match hlist : x.threads with
    | [] | [_] => simp [hlist] at htwo
    | t₀ :: t₁ :: rest => exact ⟨t₀, t₁, rest, rfl⟩
  have h₀ : t₀.worker.phase ≠ .ended := hfixed 0 Nat.zero_lt_two t₀ (by rw [hthreads]; rfl)
  have h₁ : t₁.worker.phase ≠ .ended := hfixed 1 Nat.one_lt_two t₁ (by rw [hthreads]; rfl)
  rw [hthreads]
  match id with
  | 0 => exact Nat.zero_le _
  | 1 => simp [h₀]
  | _ + 2 => simp [h₀, h₁]

theorem inv_run (hx : Inv x) {id : ℕ} {bindError : Option String}
    (h : x.step (.run id bindError) = some x') : Inv x' := by
  obtain ⟨hroom, h⟩ := Option.ite_none_right_eq_some.mp h
  obtain ⟨t, ht, h⟩ := Option.bind_eq_some_iff.mp h
  obtain ⟨t', ht', rfl⟩ := Option.map_eq_some_iff.mp h
  obtain ⟨hrole, hbegun, houtline⟩ := Secondary.run_eq_some ht'
  refine inv_set_moved hx ht ⟨hrole, ?_, fun htrue => ?_, fun hudp hfalse => ?_, fun hended => ?_,
    hbegun, Or.inr fun hloop => ?_⟩
  · unfold Secondary.socket
    rw [houtline]
  · rw [houtline]
    simp [htrue]
  · rw [houtline]
    simp [hfalse, hudp]
  · rw [houtline] at hended ⊢
    simp [(hx.good id t ht).ended hended]
  · have hcount := min_le_countP hx hloop id
    unfold System.hasRoom at hroom
    rw [if_neg hloop.notStopped, decide_eq_true_eq] at hroom
    omega

theorem inv_test (hx : Inv x) {id : ℕ} (h : x.step (.test id) = some x') : Inv x' := by
  obtain ⟨t, ht, h⟩ := Option.bind_eq_some_iff.mp h
  obtain ⟨t', ht', rfl⟩ := Option.map_eq_some_iff.mp h
  obtain ⟨hrole, hbegun, hbegun', -, houtline⟩ := Secondary.test_eq_some ht'
  have hcancelled : t'.outline.cancelled = t.outline.cancelled := by rw [houtline]
  refine inv_set_moved hx ht ⟨hrole, ?_, hcancelled.trans, fun _ => hcancelled.trans,
    fun hended => ?_, hbegun', Or.inl hbegun⟩
  · unfold Secondary.socket
    rw [houtline]
  · rw [hcancelled]
    by_contra hnot
    rw [houtline] at hended
    simp [hnot] at hended

theorem inv_poll (hx : Inv x) {id : ℕ} {manager : (role : Role) → Manager role}
    (h : x.step (.poll id manager) = some x') : Inv x' := by
  obtain ⟨t, ht, h⟩ := Option.bind_eq_some_iff.mp h
  obtain ⟨t', ht', rfl⟩ := Option.map_eq_some_iff.mp h
  obtain ⟨hrole, hbegun, hbegun', -, houtline⟩ := Secondary.poll_eq_some ht'
  have hcancelled : t'.outline.cancelled = t.outline.cancelled := by rw [houtline]
  refine inv_set_moved hx ht ⟨hrole, ?_, hcancelled.trans, fun _ => hcancelled.trans,
    fun hended => ?_, hbegun', Or.inl hbegun⟩
  · unfold Secondary.socket
    rw [houtline]
  · rw [houtline] at hended
    cases hended

theorem inv_pollThrows (hx : Inv x) {id : ℕ} (h : x.step (.pollThrows id) = some x') : Inv x' := by
  obtain ⟨t, ht, h⟩ := Option.bind_eq_some_iff.mp h
  obtain ⟨t', ht', rfl⟩ := Option.map_eq_some_iff.mp h
  obtain ⟨hrole, hbegun, hbegun', hudp, houtline⟩ := Secondary.pollThrows_eq_some ht'
  refine inv_set_moved hx ht ⟨hrole, ?_, fun _ => ?_, fun hnot => absurd hudp hnot,
    fun hended => ?_, hbegun', Or.inl hbegun⟩
  · unfold Secondary.socket
    rw [houtline]
  · rw [houtline]
  · rw [houtline] at hended
    cases hended

/-- The reply is passed on to the client. -/
theorem reply_eq_some (hx : Inv x) (h : x.step .reply = some x') :
    ∃ w ∈ x.waiting, ∃ reply ∈ w.reply, ∃ server,
      Server.step x.server (.client (some w.request) reply) = some server ∧
      Comms.SentTo x.server.thread server.thread w.callee w.request reply ∧
      x' = { x.proceed 0 server with
        waiting := none
        calls := x.calls ++ [{
          callee := w.callee, request := w.request, delivered := [reply] }] } := by
  obtain ⟨w, hw, h⟩ := Option.bind_eq_some_iff.mp h
  obtain ⟨reply, hreply, h⟩ := Option.bind_eq_some_iff.mp h
  obtain ⟨server, hstep, rfl⟩ := Option.map_eq_some_iff.mp h
  obtain ⟨hacc, ref, href, socket, hsocket, hopen, hthread⟩ :=
    forwardsTo_eq_some.mp (hx.waits w hw).forwards
  obtain ⟨server', hstep', hsent⟩ := Comms.step_sent reply hacc href hsocket hopen
  cases hstep'.symm.trans hstep
  rw [hthread] at hsent
  refine ⟨w, hw, reply, hreply, server, hstep, hsent, ?_⟩
  have hnews : Measuring.news x.server.thread.mClientManager.mCommandSocket.sent
      server.thread.mClientManager.mCommandSocket.sent = [reply] :=
    (congrArg _ hsent.2).trans (Measuring.news_append _ _)
  rw [hnews]

theorem inv_reply (hx : Inv x) (h : x.step .reply = some x') : Inv x' := by
  obtain ⟨w, hw, reply, hreply, server, hstep, ⟨hrequests, -⟩, rfl⟩ := reply_eq_some hx h
  have hwaits := hx.waits w hw
  rw [Option.mem_def] at hw hreply
  have htaken : w.taken = true := by
    rw [hwaits.taken_iff, hreply]
    rfl
  refine inv_proceed hx hstep ?_ (fun c hc => ?_) (fun id => ?_) (fun id => ?_)
    (fun w hw => absurd hw (Option.not_mem_none w)) 0
  · rw [hrequests, hx.requests, List.map_append]
    rfl
  · rcases List.mem_append.mp hc with hc | hc
    · exact hx.calls c hc
    · rw [List.mem_singleton.mp hc]
      exact ⟨hwaits.lt, rfl⟩
  · rw [Rendezvous.requestsTo_return htaken, hw]
  · rw [Rendezvous.repliesOf_return _ (by rw [hreply]; rfl), hw]

end Steps

/-! ## Whole runs -/

/-- **One step.** -/
theorem inv_step (x : System) (e : Event) (x' : System) (hx : Inv x) (h : x.step e = some x') :
    Inv x' := by
  cases e with
  | comms e => exact inv_comms hx h
  | reply => exact inv_reply hx h
  | run id bindError => exact inv_run hx h
  | test id => exact inv_test hx h
  | commands id env arrived => exact inv_commands hx h
  | poll id manager => exact inv_poll hx h
  | pollThrows id => exact inv_pollThrows hx h

theorem inv_start (maxThreadCount : ℕ) (openError : Option Comms.OpenError)
    (settings : ClusterSettings) (time : ℤ) :
    Inv (System.start maxThreadCount openError settings time) := by
  have hthreads := Comms.threads_start openError
  have hsettled : Settled ({} : Comms.RepSocket) :=
    ⟨rfl, rfl, fun _ hm => absurd hm List.not_mem_nil, rfl⟩
  have hlist : (System.start maxThreadCount openError settings time).threads =
      [create .clusters { manager := { settings := settings } } 0,
        create .histogram { manager := { mLastOutputTime := time } } 0] := by
    show follow (Server.start openError).thread.threads 0 _ = _
    rw [hthreads]
    rfl
  refine {
    paired := fun _ => Comms.paired_start openError
    length := ?_
    fixed := ?_
    good := fun id t ht => ?_
    waits := nofun
    requests := ?_
    calls := nofun }
  · show _ = (Server.start openError).thread.threads.started
    rw [hlist, hthreads]
    rfl
  · rw [hlist]
    exact Nat.le_refl 2
  · have hmarked : id ∉ (Server.start openError).thread.threads.cancelled := by
      rw [hthreads]
      exact List.not_mem_nil
    rw [hlist] at ht
    match id with
    | 0 =>
      cases ht
      exact ⟨rfl, hsettled, rfl, rfl, fun _ _ => rfl, fun h => absurd h hmarked, nofun,
        fun _ => rfl, nofun⟩
    | 1 =>
      cases ht
      exact ⟨rfl, hsettled, rfl, rfl, fun _ _ => rfl, fun h => absurd h hmarked, nofun,
        fun _ => rfl, nofun⟩
    | _ + 2 => cases ht
  · show (Server.start openError).thread.threads.requests = []
    rw [hthreads]

/-- **Calls.** After any events in any order, what the communication thread has forwarded are the
calls in order, each with one reply passed on to the client; what a secondary thread has received
and sent are the requests and the replies of the calls made to it, in order, and of the one under
way; and it has replied to every request that it took. -/
theorem calls_account (maxThreadCount : ℕ) (openError : Option Comms.OpenError)
    (settings : ClusterSettings) (time : ℤ) (events : List Event) (x : System)
    (h : Runs.run System.step (.start maxThreadCount openError settings time) events = some x) :
    x.server.thread.threads.requests = (x.calls.map fun c => (c.callee, c.request)) ∧
    (∀ c ∈ x.calls, c.delivered.length = 1) ∧
    ∀ id t, x.threads[id]? = some t →
      t.socket.received = requestsTo x.calls x.waiting id ∧
      t.socket.sent = repliesOf x.calls x.waiting id ∧
      t.socket.sent.length = t.socket.received.length ∧
      ∀ msg ∈ t.socket.received, msg.length % 4 = 0 := by
  have hx : Inv x := Runs.inv_of_run inv_step (inv_start maxThreadCount openError settings time) h
  refine ⟨hx.requests, fun c hc => (hx.calls c hc).2, fun id t ht => ?_⟩
  have hgood := hx.good id t ht
  exact ⟨hgood.received, hgood.sent, hgood.settled.answered, hgood.settled.aligned⟩

/-- A client has the clusters flushed. -/
def flushed : List Event :=
  [.comms (.iterate {}), .comms (.connected none {}), .comms .idle,
    .comms (.client (some [0x5B, 2, 0, 0]) []), .run 0 none, .test 0,
    .commands 0 Comms.quietSurroundings true, .reply]

theorem calls_account_flushed :
    ∃ x, Runs.run System.step (.start 4 none {} 0) flushed = some x ∧
      x.calls = [{ callee := 0, request := [0x5B, 2, 0, 0], delivered := [[0x5B, 2, 0, 0]] }] ∧
      ∀ c ∈ x.calls, c.delivered.length = 1 :=
  ⟨_, rfl, rfl, (calls_account 4 none {} 0 flushed _ rfl).2.1⟩

end TpxServer.Control
