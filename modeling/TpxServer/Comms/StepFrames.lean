import TpxServer.Comms.Frames

/-!
# What a step leaves alone

A `ClientFrame` speaks about the steps after which the loop goes on. A property that also survives
the cancellation of the secondary threads survives every step, whether the loop goes on, is left, or
is left with an exception (`StepFrame.step`).
-/

namespace TpxServer.Comms

open TimepixConnectionManager PythonConnectionManager

/-! ## Leaving the loop -/

/-- The three threads are cancelled, and nothing but the pointers and the sockets changes. -/
theorem closeThreads_cases (s : CommsThread) : Server.closeThreads s = .undefined ∨
    Server.closeThreads s = .ok { s with
      threads := { s.threads with
        mUdpThread := none
        mUdpCommandSocket := Server.closeSocket s.threads.mUdpCommandSocket
        mClusterThread := none
        mClusterCommandSocket := Server.closeSocket s.threads.mClusterCommandSocket
        mHistogramThread := none
        mHistogramCommandSocket := Server.closeSocket s.threads.mHistogramCommandSocket
        cancelled := s.threads.cancelled ++ s.threads.mUdpThread.toList ++
          s.threads.mClusterThread.toList ++ s.threads.mHistogramThread.toList } } := by
  unfold Server.closeThreads
  rcases CommsThread.cancelThread_cases (s := s) s.threads.mUdpThread with hudp | hudp
  · exact Or.inl (by rw [hudp]; rfl)
  rw [hudp, Outcome.ok_andThen]
  dsimp only
  generalize hs₁ : ({ s with
    threads := { s.threads with
      cancelled := s.threads.cancelled ++ s.threads.mUdpThread.toList } } : CommsThread) = s₁
  rcases CommsThread.cancelThread_cases (s := s₁) s.threads.mClusterThread with hcluster | hcluster
  · exact Or.inl (by rw [hcluster]; rfl)
  rw [hcluster, Outcome.ok_andThen]
  dsimp only
  generalize hs₂ : ({ s₁ with
    threads := { s₁.threads with
      cancelled := s₁.threads.cancelled ++ s.threads.mClusterThread.toList } } : CommsThread) = s₂
  have hhistogram : s₁.threads.mHistogramThread = s.threads.mHistogramThread := by rw [← hs₁]
  rw [hhistogram]
  rcases CommsThread.cancelThread_cases (s := s₂) s.threads.mHistogramThread with h | h
  · exact Or.inl (by rw [h]; rfl)
  rw [h]
  subst hs₂ hs₁
  exact Or.inr rfl

/-- The writes of a step of the loop, but for what the client manager does with a request. -/
structure StepFrame (P : CommsThread → Prop) : Prop extends TpxFrame P where
  anyTpx : ∀ {s}, P s → ∀ t, P (s.withTpx t)
  renew : ∀ {s}, P s → ∀ b, P { s with mShouldResetClient := b }
  finished : ∀ {s}, P s → ∀ finished,
    P { s with threads := { s.threads with finished := finished } }
  close : ∀ {s}, P s → (Server.closeThreads s).All P

namespace StepFrame

variable {P : CommsThread → Prop} (hP : StepFrame P) {s : CommsThread}
include hP

theorem shutdown (h : P s) : P (Server.shutdown s).thread := by
  have hclose : ((clearAnyClientRequest s).andThen fun s =>
      Server.closeThreads (terminateConnection s)).All P :=
    (hP.clearAnyClientRequest h).andThen fun s hs => hP.close (hP.terminateConnection hs)
  unfold Server.shutdown
  split
  · rename_i t ht
    rw [ht] at hclose
    exact hP.signal hclose _
  · rename_i e t ht
    rw [ht] at hclose
    exact hP.signal hclose _
  · exact h

theorem handleException (h : P s) (e : Exn) : P (Server.handleException e s).thread := by
  cases e with
  | system_error code => exact hP.shutdown (hP.signal (hP.signal (hP.signal h _) _) _)
  | error_t num what => exact hP.shutdown (hP.cancel (hP.signal (hP.signal (hP.signal h _) _) _))
  | std_exception what =>
    exact hP.shutdown (hP.cancel (hP.signal (hP.signal (hP.signal h _) _) _))

theorem resume {o : Result} {k : CommsThread → Server} (h : P s) (ho : o.All P)
    (hk : ∀ s, P s → P (k s).thread) : P (Server.resume o k s).thread := by
  cases o with
  | ok t => exact hk t ho
  | throws e t => exact hP.handleException ho e
  | undefined => exact h

theorem callback {o : Result} (h : P s) (ho : o.All P) : P (Server.callback o s).thread := by
  have hcaught : (o.catching networkError).All P :=
    ho.catching fun e f hf t ht => hP.networkError hf ht
  cases o with
  | ok t => exact ho
  | throws e t => exact hP.resume h hcaught fun s hs => hs
  | undefined => exact h

/-! ## The steps -/

theorem iterate (h : P s) (attempt : Attempt) :
    P (if s.mShouldCancel then Server.shutdown s
      else Server.beginPoll attempt (Server.renewClient s)).thread := by
  split
  · exact hP.shutdown h
  have hrenew : P (Server.renewClient s) := by
    unfold Server.renewClient
    split
    · exact hP.renew (s := s.withClient { id := s.mClientManager.id + 1 }) (hP.client h _) false
    · exact h
  have hsend : ∀ info, (pollQueue info (Server.renewClient s)).All P := by
    intro info
    unfold pollQueue
    refine Outcome.All.andThen ?_ fun s hs => hP.anyTpx hs _
    unfold sendCommand
    split
    · exact hrenew
    · dsimp only
      split
      · trivial
      · exact hP.anyTpx hrenew _
  unfold Server.beginPoll
  split
  · exact hrenew
  · split
    · refine hP.resume hrenew ?_ fun s hs => hs
      exact ((hsend _).andThen fun s hs => hP.resetModule hs attempt).catching
        fun e f hf t ht => hP.networkError hf ht
    · refine hP.resume hrenew ?_ fun s hs => hs
      exact (hsend _).catching fun e f hf t ht => hP.networkError hf ht

/-- **One step.** -/
theorem step {x x' : Server} {e : Event}
    (hpoll : ∀ request answer, e = .client request answer →
      (PythonConnectionManager.poll request answer x.thread).All P)
    (h : P x.thread) (hstep : Server.step x e = some x') : P x'.thread := by
  obtain ⟨phase, s⟩ := x
  unfold Server.step at hstep
  dsimp only at hstep
  split at hstep
  · cases hstep
  · cases hstep
  · cases hstep
    exact hP.cancel h
  · split at hstep
    · cases hstep
      exact hP.finished h _
    · cases hstep
  · cases hstep
    exact hP.iterate h _
  · split at hstep
    · cases hstep
      have ht : P (Server.takeConnect s) := hP.tpx h _ rfl
      exact hP.callback ht (hP.initializeConnection ht _ _)
    · cases hstep
  · split at hstep
    · cases hstep
      have ht : P (Server.takeSend s) := hP.tpx h _ rfl
      exact hP.callback ht (hP.commandSent ht _ _)
    · cases hstep
  · split at hstep
    · rename_i err bytes hread
      cases hstep
      have ht : P (Server.takeRead bytes s) := hP.tpx h _ rfl
      exact hP.callback ht (hP.commandRecv ht _ _)
    · cases hstep
  · cases hstep
    exact h
  · cases hstep
    exact hP.resume h (hpoll _ _ rfl) fun s hs => hs
  · cases hstep

/-- A property that requests do not affect. -/
theorem step_of_client {x x' : Server} {e : Event} (hclient : ClientFrame P) (h : P x.thread)
    (hstep : Server.step x e = some x') : P x'.thread :=
  hP.step (fun request answer _ => hclient.poll h request answer) h hstep

end StepFrame

/-! ## Signals -/

/-- The thread has emitted these signals first. -/
def Began (signals : List Signal) (s : CommsThread) : Prop := signals <+: s.signals

theorem tpxFrame_began (signals : List Signal) : TpxFrame (Began signals) where
  client := fun h _ => h
  signal := fun h _ => h.trans (List.prefix_append _ _)
  cancel := fun h => h
  tpx := fun h _ _ => h

theorem stepFrame_began (signals : List Signal) : StepFrame (Began signals) where
  toTpxFrame := tpxFrame_began signals
  anyTpx := fun h _ => h
  renew := fun h _ => h
  finished := fun h _ => h
  close := by
    intro s h
    rcases closeThreads_cases s with hundef | hok
    · rw [hundef]
      trivial
    · rw [hok]
      exact h

/-- **Signals are only appended.** -/
theorem signals_step {x x' : Server} {e : Event} (h : Server.step x e = some x') :
    x.thread.signals <+: x'.thread.signals :=
  (stepFrame_began x.thread.signals).step_of_client
    (clientFrame_of_threads (tpxFrame_began _) (fun h _ => h) fun h _ => h) List.prefix_rfl h

end TpxServer.Comms
