import TpxServer.Comms.Steps

/-!
# Every request is answered

The REP socket allows neither a second request before the answer to the first nor an answer without
a request. The server keeps to this order as long as the SPIDR answers with command ids that
`HANDLER_MAP` has: for any other id `processRecv` drops the command that is executed without an
answer to its client.
-/

namespace TpxServer.Comms

open TimepixConnectionManager PythonConnectionManager

/-- **Answered once.** The requests received are those answered and those queued, so that the next
receive and the next send are legal. -/
structure AnsweredOnce (v : View) : Prop where
  balanced : v.client.mCommandSocket.received.length =
    v.client.mCommandSocket.sent.length + v.queue.length
  recv_legal : v.phase = .client → v.client.mCommandSocket.recvError = none
  send_legal : v.queue ≠ [] → v.client.mCommandSocket.sendError = none

/-- The command id of a complete packet is one that the server handles. -/
def RecognisedResponse (e : Event) : Prop :=
  ∀ bytes ∈ e.response,
    CompletePacket bytes → (HANDLER_MAP.lookup (responseCommand bytes)).isSome = true

instance : DecidablePred RecognisedResponse :=
  fun e => inferInstanceAs (Decidable (∀ bytes ∈ e.response, _))

theorem recognised_received_iff {bytes : List Byte} :
    RecognisedResponse (.received none bytes) ↔
      (CompletePacket bytes → (HANDLER_MAP.lookup (responseCommand bytes)).isSome = true) :=
  Event.forall_response

/-! ## The debt -/

section Debt

variable {v v' : View} {e : Event} (h : Pipeline v)
include h

/-- Under the invariant, all is well if the debt is that of a queued command. -/
theorem answeredOnce_iff :
    AnsweredOnce v ↔ (v.client.mCommandSocket.replyOwed = true → v.queue ≠ []) := by
  have hcount := h.count
  constructor
  · rintro ⟨hbalanced, -, -⟩ howed hnil
    rw [if_pos howed] at hcount
    rw [hnil, List.length_nil] at hbalanced
    omega
  · intro hdebt
    refine ⟨?_, ?_, ?_⟩
    · rw [hcount]
      rcases h.queued with hnil | ⟨info, hqueue, hinfo⟩
      · rw [if_neg (fun howed => hdebt howed hnil), hnil, List.length_nil]
      · rw [if_pos hinfo.owed, hqueue, List.length_singleton]
    · intro hphase
      have hopen := h.isOpen (h.renew_eq_false (by rw [hphase]; exact Phase.noConfusion))
      have howed : ¬ v.client.mCommandSocket.replyOwed = true :=
        fun howed => hdebt howed (h.client hphase).2
      unfold RepSocket.recvError
      rw [if_neg (ne_false_of_eq_true hopen), if_neg howed]
    · intro hqueue
      obtain ⟨info, -, hinfo⟩ := h.queued.resolve_left hqueue
      have hopen := h.isOpen hinfo.current
      unfold RepSocket.sendError
      rw [if_neg (ne_false_of_eq_true hopen), if_neg (ne_false_of_eq_true hinfo.owed)]

/-- **One step.** Only an unknown command id leaves a debt without a command. -/
theorem answeredOnce_of_move (hv : AnsweredOnce v) (hmove : Move v e v') :
    AnsweredOnce v' ↔ RecognisedResponse e := by
  have hdebt := (answeredOnce_iff h).mp hv
  rw [answeredOnce_iff (pipeline_of_move h hmove)]
  cases hmove with
  | cancel hphase => exact iff_of_true hdebt (Event.forall_no_response rfl)
  | finish id => exact iff_of_true hdebt (Event.forall_no_response rfl)
  | begin attempt hphase hready =>
    refine iff_of_true ?_ (Event.forall_no_response rfl)
    unfold View.renewed
    split
    · exact fun howed => absurd howed Bool.false_ne_true
    · exact hdebt
  | send attempt info hphase hexec hqueue hcommand =>
    exact iff_of_true hdebt (Event.forall_no_response rfl)
  | reset attempt info hphase hexec hqueue hcommand =>
    exact iff_of_true (fun howed => absurd howed Bool.false_ne_true) (Event.forall_no_response rfl)
  | connected attempt hphase hconn => exact iff_of_true hdebt (Event.forall_no_response rfl)
  | sent err bytes_sent hphase hsend => exact iff_of_true hdebt (Event.forall_no_response rfl)
  | answer bytes sz hphase hread hcomplete hlookup =>
    obtain ⟨reply, hsocket⟩ := answered_socket v.client sz (responseData bytes)
    refine iff_of_true (fun howed => ?_) (recognised_received_iff.mpr fun _ => ?_)
    · dsimp only at howed
      rw [hsocket] at howed
      exact absurd howed Bool.false_ne_true
    · rw [hlookup]
      rfl
  | lose bytes hphase hread hcomplete hlookup =>
    -- the client still waits, but its command is gone
    obtain ⟨info, -, hinfo⟩ := h.queue_eq (h.executing_of_reading hread)
    refine iff_of_false (fun hdebt' => hdebt' hinfo.owed rfl) fun hrecognised => ?_
    have hsome := recognised_received_iff.mp hrecognised hcomplete
    rw [hlookup] at hsome
    exact absurd hsome Bool.false_ne_true
  | ignore bytes hphase hread hcomplete =>
    exact iff_of_true hdebt (recognised_received_iff.mpr fun hcomplete' =>
      absurd hcomplete' hcomplete)
  | idle hphase => exact iff_of_true hdebt (Event.forall_no_response rfl)
  | noRequest answer hphase howed => exact iff_of_true hdebt (Event.forall_no_response rfl)
  | reply msg answer reply last hphase howed =>
    exact iff_of_true (fun howed => absurd howed Bool.false_ne_true) (Event.forall_no_response rfl)
  | enqueue msg answer handler info hphase howed hconn hlookup hcommand hsender =>
    exact iff_of_true (fun _ => by simp) (Event.forall_no_response rfl)
  | giveUp request answer hphase howed =>
    -- never reached: the request would be received while a reply is owed
    exact absurd (h.client hphase).2 (hdebt howed)

end Debt

/-! ## Whole runs -/

theorem answeredOnce_start (openError : Option OpenError) :
    AnsweredOnce (Server.start openError).view := by
  cases openError with
  | none => exact ⟨rfl, fun _ => rfl, fun h => absurd rfl h⟩
  | some e => cases e <;> exact ⟨rfl, fun _ => rfl, fun h => absurd rfl h⟩

/-- **Every request is answered once.** In a run to a server that is not cancelled, requests and
answers are balanced all the time exactly when every complete packet has a known command id. -/
theorem answered_once_iff (openError : Option OpenError) (es : List Event) (x : Server)
    (hrun : Runs.run Server.step (Server.start openError) es = some x) (hx : Running x) :
    Runs.Along Server.step (fun x => AnsweredOnce x.view) (Server.start openError) es ↔
      Runs.EachStep Server.step (fun _ e => RecognisedResponse e) (Server.start openError) es := by
  apply Runs.along_iff_eachStep (fun _ _ _ hstep hx' => alive_of_step hstep hx') inv_step ?_
    (inv_start openError) (answeredOnce_start openError) hrun hx.alive
  intro y e y' hinv hy' hy hstep
  have h : Pipeline y.view := hinv (alive_of_step hstep hy')
  exact answeredOnce_of_move h hy (move_of_step h hstep hy')

/-- The SPIDR answers a `NOP` with a packet of the command id 1. -/
def unknownResponse : List Byte :=
  [0, 1, 0, 1] ++ [0, 0, 0, 20] ++ [0, 0, 0, 0] ++ [0, 0, 0, 0] ++ [0, 0, 0, 0]

def nopResponse : List Byte :=
  [0, 1, 0, 0] ++ [0, 0, 0, 20] ++ [0, 0, 0, 0] ++ [0, 0, 0, 0] ++ [0, 0, 0, 0]

theorem answered_once_iff_nop :
    Runs.Along Server.step (fun x => AnsweredOnce x.view) (Server.start none)
      (forwardedRequest [0, 0, 0, 0] ++ [.received none nopResponse]) := by
  refine (answered_once_iff none _ _ rfl ⟨rfl, ?_, ?_⟩).mpr ?_
  · exact Phase.noConfusion
  · exact Phase.noConfusion
  · decide +kernel

theorem unknown_response_unanswered : ∃ x,
    Runs.run Server.step (Server.start none)
      (forwardedRequest [0, 0, 0, 0] ++ [.received none unknownResponse]) = some x ∧
    Running x ∧ x.view.client.mCommandSocket.received.length = 1 ∧
    x.view.client.mCommandSocket.sent.length = 0 ∧ x.view.queue.length = 0 := by
  refine ⟨_, rfl, ⟨rfl, ?_, ?_⟩, rfl, rfl, rfl⟩
  · exact Phase.noConfusion
  · exact Phase.noConfusion

end TpxServer.Comms
