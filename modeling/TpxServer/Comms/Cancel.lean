import TpxServer.Comms.Frames

/-!
# Cancellation is final

`mShouldCancel` is looked at in the head of the loop only and never cleared. So a server that was
told to stop leaves the loop at the next head (`alive_of_step`).
-/

namespace TpxServer.Comms

open TimepixConnectionManager PythonConnectionManager

/-! ## The functions of the managers -/

def Cancelled (s : CommsThread) : Prop := s.mShouldCancel = true

theorem tpxFrame_cancelled : TpxFrame Cancelled where
  client := fun h _ => h
  signal := fun h _ => h
  cancel := fun _ => rfl
  tpx := fun h _ _ => h

theorem clientFrame_cancelled : ClientFrame Cancelled :=
  clientFrame_of_threads tpxFrame_cancelled (fun h _ => h) (fun h _ => h)

theorem cancelled_networkError {e : Exn} {f : CommsThread → Result} (hf : networkError e = some f)
    (s : CommsThread) : (f s).All Cancelled := by
  cases e with
  | system_error code =>
    cases hf
    exact tpxFrame_cancelled.clearAnyClientRequest rfl
  | error_t num what => cases hf
  | std_exception what => cases hf

/-! ## The loop -/

/-- The loop is not cancelled and has not been left. -/
structure Running (x : Server) : Prop where
  not_cancelled : x.thread.mShouldCancel = false
  not_stopped : x.phase ≠ .stopped
  not_undefined : x.phase ≠ .undefined

/-- The loop goes on as usual: it is running, or was cancelled while it polls the `io_context`. -/
structure Alive (x : Server) : Prop where
  not_cancelled : x.phase = .asio ∨ x.thread.mShouldCancel = false
  not_stopped : x.phase ≠ .stopped
  not_undefined : x.phase ≠ .undefined

theorem Running.alive {x : Server} (h : Running x) : Alive x :=
  ⟨Or.inr h.not_cancelled, h.not_stopped, h.not_undefined⟩

theorem alive_of_asio {x : Server} (h : x.phase = .asio) : Alive x := by
  refine ⟨Or.inl h, ?_, ?_⟩
  · rw [h]
    exact Phase.noConfusion
  · rw [h]
    exact Phase.noConfusion

theorem not_alive_of_cancelled {x : Server} (h : Cancelled x.thread) (hphase : x.phase ≠ .asio) :
    ¬ Alive x :=
  fun hx => ne_true_of_eq_false (hx.not_cancelled.resolve_left hphase) h

theorem not_alive_shutdown (s : CommsThread) : ¬ Alive (Server.shutdown s) :=
  fun h => (phase_shutdown s).elim h.not_stopped h.not_undefined

theorem not_alive_handleException (e : Exn) (s : CommsThread) :
    ¬ Alive (Server.handleException e s) :=
  fun h => (phase_handleException e s).elim h.not_stopped h.not_undefined

theorem resume_alive {o : Result} {k : CommsThread → Server} {s₀ : CommsThread}
    (h : Alive (Server.resume o k s₀)) : ∃ s, o = .ok s ∧ Server.resume o k s₀ = k s := by
  cases o with
  | ok s => exact ⟨s, rfl, rfl⟩
  | throws e s => exact absurd h (not_alive_handleException e s)
  | undefined => exact absurd rfl h.not_undefined

theorem afterPoll_ne_asio (s : CommsThread) : (Server.afterPoll s).phase ≠ .asio := by
  unfold Server.afterPoll
  split
  · exact Phase.noConfusion
  · exact Phase.noConfusion

/-- Only a handler that returns lets the poll go on. -/
theorem callback_alive {o : Result} {s₀ : CommsThread} (h : Alive (Server.callback o s₀)) :
    ∃ s, o = .ok s ∧ Server.callback o s₀ = ⟨.asio, s⟩ := by
  cases o with
  | ok s => exact ⟨s, rfl, rfl⟩
  | throws e s =>
    have h' : Alive (Server.resume (Outcome.catching (.throws e s) networkError)
      Server.afterPoll s₀) := h
    obtain ⟨t, ht, hresume⟩ := resume_alive h'
    rw [hresume] at h'
    cases hcatch : networkError e with
    | none =>
      rw [Outcome.throws_uncaught hcatch] at ht
      cases ht
    | some f =>
      rw [Outcome.throws_catching hcatch] at ht
      have hcancelled : (f s).All Cancelled := cancelled_networkError hcatch s
      rw [ht] at hcancelled
      exact absurd h' (not_alive_of_cancelled hcancelled (afterPoll_ne_asio t))
  | undefined => exact absurd rfl h.not_undefined

/-- Outside of the poll of the `io_context`, a cancelled server has only the rest of an iteration
left. -/
theorem not_alive_of_step {x x' : Server} {e : Event} (hcancelled : Cancelled x.thread)
    (hphase : x.phase ≠ .asio) (h : Server.step x e = some x') : ¬ Alive x' := by
  obtain ⟨phase, s⟩ := x
  unfold Server.step at h
  dsimp only at h
  split at h
  · cases h
  · cases h
  · cases h
    exact not_alive_of_cancelled rfl hphase
  · split at h
    · cases h
      exact not_alive_of_cancelled hcancelled hphase
    · cases h
  · cases h
    have hcancelled' : s.mShouldCancel = true := hcancelled
    rw [if_pos hcancelled']
    exact not_alive_shutdown s
  · exact absurd rfl hphase
  · exact absurd rfl hphase
  · exact absurd rfl hphase
  · exact absurd rfl hphase
  · rename_i request answer
    cases h
    intro hx'
    obtain ⟨t, ht, hresume⟩ := resume_alive hx'
    rw [hresume] at hx'
    have hpoll := clientFrame_cancelled.poll hcancelled request answer
    rw [ht] at hpoll
    exact not_alive_of_cancelled (x := ⟨.head, t⟩) hpoll Phase.noConfusion hx'
  · cases h

/-- **Cancellation is final.** A step into a server that is alive starts from one. -/
theorem alive_of_step {x x' : Server} {e : Event} (h : Server.step x e = some x')
    (hx' : Alive x') : Alive x := by
  by_cases hphase : x.phase = .asio
  · exact alive_of_asio hphase
  refine ⟨Or.inr ?_, ?_, ?_⟩
  · by_contra hcancelled
    exact not_alive_of_step (Bool.eq_true_of_not_eq_false hcancelled) hphase h hx'
  · intro hstopped
    unfold Server.step at h
    rw [hstopped] at h
    cases h
  · intro hundef
    unfold Server.step at h
    rw [hundef] at h
    cases h

end TpxServer.Comms
