import TpxServer.Comms.Requests

/-!
# The server does not wedge

While a command is executed, the loop neither sends the next command nor polls the client, so only
the completion of an operation on the SPIDR socket can bring it on. After a read the command is over
or the thread cancelled, except for what is no complete packet: `commandRecv` then returns without
another read, and the server waits for nothing.
-/

namespace TpxServer.Comms

open TimepixConnectionManager PythonConnectionManager

/-- A command that is executed has an operation pending. -/
def Pending (v : View) : Prop := v.executing = true → v.sending = true ∨ v.reading = true

/-- What is read is a complete packet. -/
def CompleteResponse (e : Event) : Prop := ∀ bytes ∈ e.response, CompletePacket bytes

instance : DecidablePred CompleteResponse :=
  fun e => inferInstanceAs (Decidable (∀ bytes ∈ e.response, _))

/-! ## Pending operations -/

section Moves

variable {v v' : View} {e : Event} (h : Pipeline v)
include h

/-- **One step.** Only a read that is no complete packet leaves a command without an operation. -/
theorem pending_of_move (hv : Pending v) (hmove : Move v e v') :
    Pending v' ↔ CompleteResponse e := by
  have hover : ∀ {w : View}, w.executing = false → Pending w :=
    fun hexec hexec' => absurd hexec' (ne_true_of_eq_false hexec)
  cases hmove with
  | cancel hphase => exact iff_of_true hv (Event.forall_no_response rfl)
  | finish id => exact iff_of_true hv (Event.forall_no_response rfl)
  | begin attempt hphase hready =>
    refine iff_of_true ?_ (Event.forall_no_response rfl)
    unfold View.renewed
    split
    · exact hv
    · exact hv
  | send attempt info hphase hexec hqueue hcommand =>
    exact iff_of_true (fun _ => Or.inl rfl) (Event.forall_no_response rfl)
  | reset attempt info hphase hexec hqueue hcommand =>
    exact iff_of_true (hover rfl) (Event.forall_no_response rfl)
  | connected attempt hphase hconn =>
    exact iff_of_true (hover rfl) (Event.forall_no_response rfl)
  | sent err bytes_sent hphase hsend =>
    exact iff_of_true (fun _ => Or.inr rfl) (Event.forall_no_response rfl)
  | answer bytes sz hphase hread hcomplete hlookup =>
    exact iff_of_true (hover rfl) (Event.forall_response.mpr hcomplete)
  | lose bytes hphase hread hcomplete hlookup =>
    exact iff_of_true (hover rfl) (Event.forall_response.mpr hcomplete)
  | ignore bytes hphase hread hcomplete =>
    -- the command goes on, but nothing is pending any more
    refine iff_of_false (fun hpending => ?_) (fun hresponse => ?_)
    · rcases hpending (h.executing_of_reading hread) with hsend | hread'
      · exact absurd hsend (ne_true_of_eq_false (h.exclusive hread))
      · exact absurd hread' Bool.false_ne_true
    · exact hcomplete (Event.forall_response.mp hresponse)
  | idle hphase => exact iff_of_true hv (Event.forall_no_response rfl)
  | noRequest answer hphase howed => exact iff_of_true hv (Event.forall_no_response rfl)
  | reply msg answer reply last hphase howed =>
    exact iff_of_true hv (Event.forall_no_response rfl)
  | enqueue msg answer handler info hphase howed hconn hlookup hcommand hsender =>
    exact iff_of_true hv (Event.forall_no_response rfl)
  | giveUp request answer hphase howed => exact iff_of_true hv (Event.forall_no_response rfl)

/-- Between two heads of the loop, a command that has nothing pending stays so. -/
theorem pending_before_move (hhead : v.phase ≠ .head) (hv' : Pending v') (hmove : Move v e v') :
    Pending v := by
  intro hexec
  have hclient : v.phase ≠ .client := fun hphase =>
    absurd hexec (ne_true_of_eq_false (h.client hphase).1)
  cases hmove with
  | cancel hphase => exact hv' hexec
  | finish id => exact hv' hexec
  | begin attempt hphase hready => exact absurd hphase hhead
  | send attempt info hphase hexec hqueue hcommand => exact absurd hphase hhead
  | reset attempt info hphase hexec hqueue hcommand => exact absurd hphase hhead
  | connected attempt hphase hconn =>
    have hexec' := h.not_executing_of_not_connected (h.connecting hconn)
    exact absurd hexec (ne_true_of_eq_false hexec')
  | sent err bytes_sent hphase hsend => exact Or.inl hsend
  | answer bytes sz hphase hread hcomplete hlookup => exact Or.inr hread
  | lose bytes hphase hread hcomplete hlookup => exact Or.inr hread
  | ignore bytes hphase hread hcomplete => exact Or.inr hread
  | idle hphase => exact hv' hexec
  | noRequest answer hphase howed => exact absurd hphase hclient
  | reply msg answer reply last hphase howed => exact absurd hphase hclient
  | enqueue msg answer handler info hphase howed hconn hlookup hcommand hsender =>
    exact absurd hphase hclient
  | giveUp request answer hphase howed => exact absurd hphase hclient

end Moves

theorem pending_start (openError : Option OpenError) : Pending (Server.start openError).view := by
  cases openError with
  | none => exact fun hexec => absurd hexec Bool.false_ne_true
  | some e => cases e <;> exact fun hexec => absurd hexec Bool.false_ne_true

section Runs

variable {openError : Option OpenError} {es : List Event} {x : Server}
  (hrun : Runs.run Server.step (Server.start openError) es = some x) (hx : Running x)
include hrun hx

/-- Something is pending in all states of a run exactly when only complete packets are read. -/
theorem along_pending_iff :
    Runs.Along Server.step (fun x => Pending x.view) (Server.start openError) es ↔
      Runs.EachStep Server.step (fun _ e => CompleteResponse e) (Server.start openError) es := by
  apply Runs.along_iff_eachStep (fun _ _ _ hstep hx' => alive_of_step hstep hx') inv_step ?_
    (inv_start openError) (pending_start openError) hrun hx.alive
  intro y e y' hinv hy' hy hstep
  have h : Pipeline y.view := hinv (alive_of_step hstep hy')
  exact pending_of_move h hy (move_of_step h hstep hy')

/-- It is enough to look at the heads of the loop. -/
theorem along_pending_of_head (hhead : x.phase = .head)
    (h : Runs.Along Server.step (fun x => x.phase = .head → Pending x.view)
      (Server.start openError) es) :
    Runs.Along Server.step (fun x => Pending x.view) (Server.start openError) es := by
  apply Runs.along_of_checkpoints (fun _ _ _ hstep hx' => alive_of_step hstep hx') inv_step ?_
    (inv_start openError) hrun hx.alive hhead h
  intro y e y' hinv hy' hstep hhead hpending
  have h : Pipeline y.view := hinv (alive_of_step hstep hy')
  exact pending_before_move h hhead hpending (move_of_step h hstep hy')

end Runs

/-! ## The end of a call -/

/-- How `commandRecv` should end: the client has its answer and the command is over, or another read
was started, or the thread is cancelled. -/
def EndsWell (x x' : Server) : Prop :=
  x'.phase ≠ .undefined ∧
    (((∃ reply, x'.view.client.mCommandSocket.sent =
        x.view.client.mCommandSocket.sent ++ [reply]) ∧ x'.view.executing = false) ∨
      x'.view.reading = true ∨ x'.thread.mShouldCancel = true)

section Call

variable {x x' : Server} (h : Pipeline x.view) (hx : Running x)
include h hx

/-- A complete packet is answered exactly if its command id is known. -/
theorem endsWell_complete {bytes : List Byte} (hcomplete : CompletePacket bytes)
    (hstep : Server.step x (.received none bytes) = some x') :
    EndsWell x x' ↔ (HANDLER_MAP.lookup (responseCommand bytes)).isSome = true := by
  obtain ⟨hphase, hcancel⟩ := ok_of_complete h hstep hcomplete
  have hview := view_of_complete h hstep hcomplete
  unfold View.processed at hview
  cases hlookup : HANDLER_MAP.lookup (responseCommand bytes) with
  | some sz =>
    rw [hlookup] at hview
    obtain ⟨reply, hsocket⟩ := answered_socket x.view.client sz (responseData bytes)
    refine iff_of_true ⟨(alive_of_asio hphase).not_undefined, Or.inl ⟨⟨reply, ?_⟩, ?_⟩⟩ rfl
    · rw [hview]
      exact congrArg RepSocket.sent hsocket
    · rw [hview]
  | none =>
    rw [hlookup] at hview
    refine iff_of_false ?_ Bool.false_ne_true
    rintro ⟨-, ⟨⟨reply, hsent⟩, -⟩ | hread | hcancelled⟩
    · rw [hview] at hsent
      exact absurd (List.self_eq_append_right.mp hsent) (List.cons_ne_nil _ _)
    · rw [hview] at hread
      exact Bool.false_ne_true hread
    · exact ne_true_of_eq_false hx.not_cancelled (hcancel.symm.trans hcancelled)

/-- Anything else leaves the call without a good end. -/
theorem not_endsWell_incomplete {bytes : List Byte} (hcomplete : ¬ CompletePacket bytes)
    (hstep : Server.step x (.received none bytes) = some x') : ¬ EndsWell x x' := by
  obtain ⟨-, hread, -⟩ := step_received hstep
  obtain ⟨-, hcancel, hview⟩ := view_of_incomplete h hstep hcomplete
  rintro ⟨-, ⟨-, hexec⟩ | hread' | hcancelled⟩
  · rw [hview] at hexec
    exact ne_true_of_eq_false hexec (h.executing_of_reading hread)
  · rw [hview] at hread'
    exact Bool.false_ne_true hread'
  · exact ne_true_of_eq_false hx.not_cancelled (hcancel.symm.trans hcancelled)

theorem endsWell_iff {err : Option ErrorCode} {bytes : List Byte}
    (hstep : Server.step x (.received err bytes) = some x') :
    EndsWell x x' ↔ (err = none →
      CompletePacket bytes ∧ (HANDLER_MAP.lookup (responseCommand bytes)).isSome = true) := by
  cases err with
  | some code =>
    obtain ⟨hphase, hcancelled, -⟩ := step_read_error h hstep
    refine iff_of_true ⟨?_, Or.inr (Or.inr hcancelled)⟩ nofun
    rw [hphase]
    exact Phase.noConfusion
  | none =>
    by_cases hcomplete : CompletePacket bytes
    · rw [endsWell_complete h hx hcomplete hstep]
      exact ⟨fun hsome _ => ⟨hcomplete, hsome⟩, fun hgood => (hgood rfl).2⟩
    · exact iff_of_false (not_endsWell_incomplete h hx hcomplete hstep)
        fun hgood => hcomplete (hgood rfl).1

end Call

/-- **The server does not wedge.** At the heads of the loop a command that is executed has an
operation pending, exactly when only complete packets are read; and a call of `commandRecv` ends
well exactly when the read failed or gave a complete packet with a known command id. -/
theorem never_wedges_iff (openError : Option OpenError) (es : List Event) (x : Server)
    (hrun : Runs.run Server.step (Server.start openError) es = some x) (hx : Running x) :
    (x.phase = .head →
      (Runs.Along Server.step (fun x => x.phase = .head → Pending x.view)
          (Server.start openError) es ↔
        Runs.EachStep Server.step (fun _ e => CompleteResponse e) (Server.start openError) es)) ∧
    ∀ err bytes x', Server.step x (.received err bytes) = some x' →
      (EndsWell x x' ↔ (err = none →
        CompletePacket bytes ∧
          (HANDLER_MAP.lookup (responseCommand bytes)).isSome = true)) := by
  refine ⟨fun hhead => ⟨fun halong => ?_, fun heach => ?_⟩, fun err bytes x' hstep => ?_⟩
  · exact (along_pending_iff hrun hx).mp (along_pending_of_head hrun hx hhead halong)
  · apply ((along_pending_iff hrun hx).mpr heach).mono
    exact fun y hpending _ => hpending
  · exact endsWell_iff (pipeline_of_run hrun hx.alive) hx hstep

theorem never_wedges_iff_nop :
    Runs.Along Server.step (fun x => x.phase = .head → Pending x.view) (Server.start none)
      (forwardedRequest [0, 0, 0, 0] ++
        [.received none nopResponse, .idle, .client none []]) ∧
    ∃ x x', Runs.run Server.step (Server.start none) (forwardedRequest [0, 0, 0, 0]) = some x ∧
      Server.step x (.received none nopResponse) = some x' ∧ EndsWell x x' := by
  constructor
  · refine ((never_wedges_iff none _ _ rfl ⟨rfl, ?_, ?_⟩).1 rfl).mpr ?_
    · exact Phase.noConfusion
    · exact Phase.noConfusion
    · decide +kernel
  · refine ⟨_, _, rfl, rfl, ((never_wedges_iff none (forwardedRequest [0, 0, 0, 0]) _ rfl
      ⟨rfl, ?_, ?_⟩).2 none nopResponse _ rfl).mpr fun _ => ?_⟩
    · exact Phase.noConfusion
    · exact Phase.noConfusion
    · decide +kernel

/-- The first 16 bytes of a response, as TCP may deliver them: the server is back at the head of its
loop, with a command in execution and nothing pending. -/
theorem short_read_wedges : ∃ x,
    Runs.run Server.step (Server.start none)
      (forwardedRequest [0, 0, 0, 0] ++ [.received none (nopResponse.take 16), .idle]) = some x ∧
    Running x ∧ x.phase = .head ∧ x.view.executing = true ∧ x.view.sending = false ∧
    x.view.reading = false := by
  refine ⟨_, rfl, ⟨rfl, ?_, ?_⟩, rfl, rfl, rfl, rfl⟩
  · exact Phase.noConfusion
  · exact Phase.noConfusion

end TpxServer.Comms
