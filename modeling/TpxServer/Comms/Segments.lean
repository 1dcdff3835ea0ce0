import TpxServer.Comms.Requests

/-!
# Segments of a response

TCP may deliver a response in pieces. The handler of the first read takes it for the whole response,
so the result is that of the whole response only if the first piece passes all its checks. While no
read is pending, the other pieces stay in the socket.
-/

namespace TpxServer.Comms

open TimepixConnectionManager PythonConnectionManager

/-- The pieces of a response arrive one after the other, while the loop goes on uncancelled. -/
inductive Delivered : Server → List (List Byte) → Server → Prop where
  | done (x : Server) : Delivered x [] x
  /-- A read completes with the next piece. -/
  | read {x y z : Server} {piece : List Byte} {pieces : List (List Byte)}
      (hstep : Server.step x (.received none piece) = some y) (hrest : Delivered y pieces z) :
      Delivered x (piece :: pieces) z
  /-- Without a read, the piece stays in the socket. -/
  | stays {x z : Server} {piece : List Byte} {pieces : List (List Byte)}
      (hread : x.view.reading = false) (hrest : Delivered x pieces z) :
      Delivered x (piece :: pieces) z
  /-- The loop goes on without a completed operation. -/
  | turn {x y z : Server} {pieces : List (List Byte)} {e : Event}
      (hcancel : x.thread.mShouldCancel = false) (he : e = .idle ∨ ∃ attempt, e = .iterate attempt)
      (hstep : Server.step x e = some y) (hrest : Delivered y pieces z) : Delivered x pieces z

/-- The client was sent the same, and the manager is in the same state. -/
structure SameResult (x y : Server) : Prop where
  sent : x.view.client.mCommandSocket.sent = y.view.client.mCommandSocket.sent
  queue : x.view.queue = y.view.queue
  executing : x.view.executing = y.view.executing
  source : x.view.source = y.view.source

theorem sameResult_of_view {x y : Server} {phase : Phase}
    (h : x.view = { y.view with phase := phase }) : SameResult x y where
  sent := by rw [h]
  queue := by rw [h]
  executing := by rw [h]
  source := by rw [h]

/-! ## Deliveries -/

/-- Without a read the pieces change nothing. -/
theorem thread_of_delivered {x z : Server} {pieces : List (List Byte)} (h : Delivered x pieces z)
    (hread : x.view.reading = false)
    (hx : x.phase = .undefined ∨
      (Pipeline x.view ∧ (x.view.executing = true ∨ x.phase ≠ .head))) :
    z.thread = x.thread := by
  induction h with
  | done x => rfl
  | read hstep hrest ih =>
    obtain ⟨-, hread', -⟩ := step_received hstep
    exact absurd hread' (ne_true_of_eq_false hread)
  | stays _ hrest ih => exact ih hread hx
  | @turn x y z pieces e hcancel he hstep hrest ih =>
    rcases hx with hundef | ⟨hpipeline, hbusy⟩
    · obtain ⟨phase, s⟩ := x
      cases hundef
      cases hstep
    · obtain ⟨hthread, hy, hbusy'⟩ := turn_eq hpipeline hcancel hbusy he hstep
      rw [← hthread]
      refine ih ?_ (Or.inr ⟨inv_step x e y (fun _ => hpipeline) hstep hy, hbusy'⟩)
      rw [view_of_thread_eq hthread]
      exact hread

/-- Until the first piece is read, nothing changes. -/
theorem read_of_delivered {x z : Server} {piece : List Byte} {pieces : List (List Byte)}
    (h : Delivered x (piece :: pieces) z) (hpipeline : Pipeline x.view)
    (hread : x.view.reading = true) :
    ∃ y, Server.step ⟨.asio, x.thread⟩ (.received none piece) = some y ∧ Delivered y pieces z := by
  generalize hall : piece :: pieces = all at h
  induction h with
  | done x => cases hall
  | @read x y z _ _ hstep hrest ih =>
    cases hall
    obtain ⟨phase, s⟩ := x
    obtain ⟨hphase, -⟩ := step_received hstep
    cases hphase
    exact ⟨y, hstep, hrest⟩
  | stays hread' hrest ih => exact absurd hread (ne_true_of_eq_false hread')
  | @turn x y z _ e hcancel he hstep hrest ih =>
    have hexec := hpipeline.executing_of_reading hread
    obtain ⟨hthread, hy, -⟩ := turn_eq hpipeline hcancel (Or.inl hexec) he hstep
    rw [← hthread]
    refine ih (inv_step x e y (fun _ => hpipeline) hstep hy) ?_ hall
    rw [view_of_thread_eq hthread]
    exact hread

/-! ## The whole response and its first piece -/

/-- A packet is processed by its prefix, if the prefix is complete. -/
theorem processed_append {piece : List Byte} (h : CompletePacket piece) (rest : List Byte)
    (v : View) : v.processed (piece ++ rest) = v.processed piece := by
  unfold View.processed
  rw [responseCommand_append rest h.size_ge, responseData_append rest h.size_ge h.size_le]

/-- **Segmentation.** Delivered in pieces, a response has the effect of the whole response exactly
when its first piece is a complete packet of its own. -/
theorem same_result_iff (openError : Option OpenError) (es : List Event) (x w z : Server)
    (hrun : Runs.run Server.step (Server.start openError) es = some x)
    (piece : List Byte) (pieces : List (List Byte))
    (hwhole : Server.step x (.received none (piece :: pieces).flatten) = some w)
    (hcomplete : CompletePacket (piece :: pieces).flatten)
    (hdelivered : Delivered x (piece :: pieces) z) :
    SameResult z w ↔ CompletePacket piece := by
  obtain ⟨hphase, hread, -⟩ := step_received hwhole
  have h := pipeline_of_run hrun (alive_of_asio hphase)
  have hview_w := view_of_complete h hwhole hcomplete
  obtain ⟨y, hpiece, hrest⟩ := read_of_delivered hdelivered h hread
  have hx : (⟨.asio, x.thread⟩ : Server) = x := by rw [← hphase]
  rw [hx] at hpiece
  have hinv := inv_step x _ y (fun _ => h) hpiece
  by_cases hfirst : CompletePacket piece
  · obtain ⟨hphase_y, -⟩ := ok_of_complete h hpiece hfirst
    have hview_y := view_of_complete h hpiece hfirst
    have hthread : z.thread = y.thread := by
      refine thread_of_delivered hrest (congrArg View.reading hview_y)
        (Or.inr ⟨hinv (alive_of_asio hphase_y), Or.inr ?_⟩)
      rw [hphase_y]
      exact Phase.noConfusion
    have hview : z.view = { w.view with phase := z.phase } := by
      rw [view_of_thread_eq hthread, hview_y, hview_w, List.flatten_cons,
        processed_append hfirst]
    exact iff_of_true (sameResult_of_view hview) hfirst
  · -- the command is still executed, and nothing will end it
    obtain ⟨hphase_y, -, hview_y⟩ := view_of_incomplete h hpiece hfirst
    have hexec : y.view.executing = true := by
      rw [hview_y]
      exact h.executing_of_reading hread
    have hthread : z.thread = y.thread := by
      refine thread_of_delivered hrest (congrArg View.reading hview_y) ?_
      exact hphase_y.imp_right fun hphase_y => ⟨hinv (alive_of_asio hphase_y), Or.inl hexec⟩
    refine iff_of_false (fun hsame => ?_) hfirst
    have hexec_z : z.view.executing = true := by
      rw [view_of_thread_eq hthread]
      exact hexec
    have hexec_w : w.view.executing = false := congrArg View.executing hview_w
    exact ne_true_of_eq_false hexec_w (hsame.executing.symm.trans hexec_z)

/-- A response with four bytes behind it, which are ignored, arrives in two pieces. -/
theorem same_result_iff_padded : ∃ x w z,
    Runs.run Server.step (Server.start none) (forwardedRequest [0, 0, 0, 0]) = some x ∧
    Server.step x (.received none (nopResponse ++ [0, 0, 0, 0])) = some w ∧
    Delivered x [nopResponse, [0, 0, 0, 0]] z ∧ SameResult z w := by
  refine ⟨_, _, _, rfl, rfl, .read rfl (.stays rfl (.done _)), ?_⟩
  refine (same_result_iff none (forwardedRequest [0, 0, 0, 0]) _ _ _ rfl nopResponse
    [[0, 0, 0, 0]] rfl ?_ (.read rfl (.stays rfl (.done _)))).mpr ?_
  · decide +kernel
  · decide +kernel

/-- A response that arrives as 16 and 4 bytes is never processed. -/
theorem split_response_unanswered : ∃ x w z,
    Runs.run Server.step (Server.start none) (forwardedRequest [0, 0, 0, 0]) = some x ∧
    Running x ∧ Server.step x (.received none nopResponse) = some w ∧
    Delivered x [nopResponse.take 16, nopResponse.drop 16] z ∧
    w.view.client.mCommandSocket.sent.length = 1 ∧ w.view.executing = false ∧
    z.view.client.mCommandSocket.sent.length = 0 ∧ z.view.executing = true := by
  refine ⟨_, _, _, rfl, ⟨rfl, ?_, ?_⟩, rfl, .read rfl (.stays rfl (.done _)), rfl, rfl, rfl, rfl⟩
  · exact Phase.noConfusion
  · exact Phase.noConfusion

end TpxServer.Comms
