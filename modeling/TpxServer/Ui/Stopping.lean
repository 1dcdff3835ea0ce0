import TpxServer.Comms.Cancel
import TpxServer.Ui.Lifecycle

/-!
# Stopping the server

`stopServer` does not wait for the server. It sets the flag that the server looks at in the head of
its loop, so the server begins at most one more iteration, which leaves the loop; and it remembers
that the user stopped the server, so that nothing but the user launches another one.
-/

namespace TpxServer.Ui

open Comms (Server OpenError)

/-! ## A server that is stopping -/

/-- The server has no iteration of its loop before it but the one that leaves it. -/
def Stage.Stopping : Stage → Prop
  | .queued mShouldCancel => mShouldCancel = true
  | .running server => server.thread.mShouldCancel = true ∨ server.phase = .stopped
  | .ended _ => True
  | .deleted _ => True

/-- The iterations that a stopping server can still begin. -/
def Stage.iterationsLeft : Stage → ℕ
  | .queued _ => 1
  | .running server => if server.phase = .stopped then 0 else 1
  | .ended _ => 0
  | .deleted _ => 0

def isIterate : Comms.Event → Bool
  | .iterate _ => true
  | _ => false

/-- A step of a cancelled server: it stays cancelled or leaves the loop, and leaves it at the
head. -/
theorem stopping_step {server server' : Server} {e : Comms.Event}
    (h : Stage.Stopping (.running server)) (hstep : server.step e = some server')
    (hdefined : server'.phase ≠ .undefined) :
    (Stage.running server').Stopping ∧
      (isIterate e).toNat + (Stage.running server').iterationsLeft ≤
        (Stage.running server).iterationsLeft := by
  have hphase : server.phase ≠ .stopped := by
    intro hstopped
    unfold Server.step at hstep
    rw [hstopped] at hstep
    cases hstep
  have hcancelled : Comms.Cancelled server.thread := h.resolve_right hphase
  have hleft : (Stage.running server).iterationsLeft = 1 := if_neg hphase
  rw [hleft]
  by_cases hstopped : server'.phase = .stopped
  · have hleft' : (Stage.running server').iterationsLeft = 0 := if_pos hstopped
    refine ⟨Or.inr hstopped, ?_⟩
    rw [hleft', Nat.add_zero]
    exact Bool.toNat_le _
  have hleft' : (Stage.running server').iterationsLeft = 1 := if_neg hstopped
  have he : ∀ attempt, e ≠ .iterate attempt := by
    -- at the head a cancelled server leaves the loop
    rintro attempt rfl
    obtain ⟨phase, s⟩ := server
    have hcancel : s.mShouldCancel = true := hcancelled
    cases phase with
    | head =>
      unfold Server.step at hstep
      dsimp only at hstep
      rw [if_pos hcancel, Option.some.injEq] at hstep
      subst hstep
      exact (Comms.phase_shutdown s).elim hstopped hdefined
    | asio => cases hstep
    | client => cases hstep
    | stopped => cases hstep
    | undefined => cases hstep
  refine ⟨Or.inl (Comms.clientFrame_cancelled.step he hcancelled hstep hstopped hdefined), ?_⟩
  rw [hleft']
  cases e with
  | iterate attempt => exact absurd rfl (he attempt)
  | _ => exact le_rfl

theorem stopping_cancel {stage stage' : Stage} (h : stage.cancel = some stage') :
    stage'.Stopping ∧ stage'.iterationsLeft = stage.iterationsLeft := by
  cases stage with
  | queued mShouldCancel =>
    cases h
    exact ⟨rfl, rfl⟩
  | running server =>
    cases h
    exact ⟨Or.inl rfl, rfl⟩
  | ended server =>
    cases h
    exact ⟨trivial, rfl⟩
  | deleted server => cases h

/-! ## A program that was told to stop -/

/-- The user has stopped the last server, which has the number `id` if it was active. -/
structure ToldToStop (id : Option ℕ) (servers : ℕ) (a : App) : Prop extends Consistent a where
  manual : a.window.mManuallyCancelled = true
  servers : a.pool.length = servers
  stopping : ∀ i ∈ id, ∃ task, a.pool[i]? = some task ∧ task.stage.Stopping

/-- The iterations that the stopped server can still begin. -/
def App.iterationsLeft (a : App) (i : ℕ) : ℕ := ((a.pool[i]?).map (·.stage.iterationsLeft)).getD 0

/-- An iteration of the server begins. -/
def App.Event.iterates (i : ℕ) : App.Event → Bool
  | .serve id e => id = i ∧ isIterate e
  | _ => false

/-- What becomes of the servers at an event: they stay, one gets another stage, or one is new. -/
inductive PoolStep (a : App) (e : App.Event) (a' : App) : Prop where
  | same (hpool : a'.pool = a.pool) (he : ∀ i, e.iterates i = false)
  | stage (id : ℕ) (task : Task) (stage : Stage) (htask : a.pool[id]? = some task)
    (hpool : a'.pool = (a.setStage id stage).pool)
    (hstage : task.stage.Stopping → stage.Stopping ∧
      (e.iterates id).toNat + stage.iterationsLeft ≤ task.stage.iterationsLeft)
    (he : ∀ i, i ≠ id → e.iterates i = false)
  | started (hlaunch : e = .launch ∨ a.window.mManuallyCancelled = false)

theorem handle_of_step {a a' : App} {e : App.Event} (h : a.step e = some a') :
    a.handle e = some (.ok a') := by
  unfold App.step at h
  split at h
  · rename_i b hb
    cases h
    exact hb
  · cases h

section Step

variable {a a' : App} {e : App.Event}

/-- Whatever else stopping does, it cancels the active server. -/
theorem poolStep_stop (he : ∀ i, e.iterates i = false)
    (h : a.window.mActiveThread = none ∧ a'.pool = a.pool ∨
      ∃ id task stage, a.window.mActiveThread = some id ∧ a.pool[id]? = some task ∧
        task.stage.cancel = some stage ∧ a'.pool = (a.setStage id stage).pool) :
    PoolStep a e a' := by
  rcases h with ⟨-, hpool⟩ | ⟨id, task, stage, -, htask, hcancel, hpool⟩
  · exact .same hpool he
  · refine .stage id task stage htask hpool (fun _ => ?_) fun i _ => he i
    obtain ⟨hstopping, hleft⟩ := stopping_cancel hcancel
    rw [he id, hleft, Bool.toNat_false, Nat.zero_add]
    exact ⟨hstopping, le_rfl⟩

/-- A click on the button, and closing the window. -/
theorem exists_stopServer (he : e = .stop ∨ e = .close) (h : a.handle e = some (.ok a')) :
    ∃ b, a.stopServer = .ok b ∧ a'.window = b.window ∧ a'.pool = b.pool ∧
      a'.posted = b.posted := by
  rcases he with rfl | rfl
  · unfold App.handle at h
    dsimp only at h
    split_ifs at h
    exact ⟨a', Option.some.inj h, rfl, rfl, rfl⟩
  · unfold App.handle App.closeEvent at h
    dsimp only at h
    split_ifs at h
    cases hstop : a.stopServer with
    | ok b =>
      rw [hstop] at h
      cases h
      exact ⟨b, rfl, rfl, rfl, rfl⟩
    | throws failure b => simp [hstop, Outcome.andThen] at h
    | undefined => simp [hstop, Outcome.andThen] at h

/-- They cancel the active server, and the window remembers. -/
theorem stop_cases (h : Consistent a) (he : e = .stop ∨ e = .close)
    (hhandle : a.handle e = some (.ok a')) :
    a'.window.mManuallyCancelled = true ∧
      (a.window.mActiveThread = none ∧ a'.pool = a.pool ∨
        ∃ id task stage, a.window.mActiveThread = some id ∧ a.pool[id]? = some task ∧
          task.stage.cancel = some stage ∧ a'.pool = (a.setStage id stage).pool) := by
  obtain ⟨b, hstop, hwindow, hpool, -⟩ := exists_stopServer he hhandle
  rw [hwindow, hpool]
  rcases h.stopServer_cases with ⟨id, -, -, hundef⟩ | ⟨c, hok, -, hmanual, -, hpool⟩
  · cases hstop.symm.trans hundef
  · cases hstop.symm.trans hok
    exact ⟨hmanual, hpool⟩

theorem pool_step (h : Consistent a) (hstep : a.step e = some a') :
    PoolStep a e a' ∧ (a.window.mManuallyCancelled = true → e ≠ .launch →
      a'.window.mManuallyCancelled = true) := by
  have hhandle := handle_of_step hstep
  cases e with
  | launch => exact ⟨.started (Or.inl rfl), fun _ he => absurd rfl he⟩
  | stop =>
    obtain ⟨hmanual, hpool⟩ := stop_cases h (Or.inl rfl) hhandle
    exact ⟨poolStep_stop (fun _ => rfl) hpool, fun _ _ => hmanual⟩
  | edit e =>
    unfold App.handle at hhandle
    dsimp only at hhandle
    split_ifs at hhandle
    cases hhandle
    exact ⟨.same rfl fun _ => rfl, fun hmanual _ => hmanual⟩
  | close =>
    obtain ⟨hmanual, hpool⟩ := stop_cases h (Or.inr rfl) hhandle
    exact ⟨poolStep_stop (fun _ => rfl) hpool, fun _ _ => hmanual⟩
  | deliver =>
    unfold App.handle at hhandle
    dsimp only at hhandle
    split at hhandle
    · rename_i p posted hclosed hposted
      cases p with
      | line id x =>
        cases hhandle
        exact ⟨.same rfl fun _ => rfl, fun hmanual _ => hmanual⟩
      | relayed id thread x =>
        cases hhandle
        exact ⟨.same rfl fun _ => rfl, fun hmanual _ => hmanual⟩
      | threadDone id =>
        obtain ⟨b, hok, -, hrestart⟩ := h.serverDone_ok hposted
        have hb : (Outcome.ok b : Outcome Failure App) = .ok a' :=
          hok.symm.trans (Option.some.inj hhandle)
        cases hb
        refine ⟨?_, fun hmanual _ => (hrestart hmanual).2⟩
        cases hmanual : a.window.mManuallyCancelled with
        | true => exact .same (hrestart hmanual).1 fun _ => rfl
        | false => exact .started (Or.inr hmanual)
    · cases hhandle
  | begin id openError =>
    obtain ⟨⟨settings, stage⟩, htask, hbegin⟩ := Option.bind_eq_some_iff.mp hhandle
    cases stage with
    | queued mShouldCancel =>
      cases hbegin
      refine ⟨.stage id _ (.running _) htask rfl ?_ fun _ _ => rfl, fun hmanual _ => hmanual⟩
      rintro rfl
      refine ⟨Or.inl rfl, ?_⟩
      show 0 + (if _ then 0 else 1) ≤ 1
      split_ifs <;> omega
    | running server => cases hbegin
    | ended server => cases hbegin
    | deleted server => cases hbegin
  | serve id e =>
    obtain ⟨⟨settings, stage⟩, htask, hserve⟩ := Option.bind_eq_some_iff.mp hhandle
    cases stage with
    | running server =>
      dsimp only at hserve
      split_ifs at hserve with hcancel
      obtain ⟨server', hserver, hok⟩ := Option.map_eq_some_iff.mp hserve
      split_ifs at hok with hundef
      cases hok
      refine ⟨.stage id _ (.running server') htask rfl (fun hstopping => ?_) fun i hi => ?_,
        fun hmanual _ => hmanual⟩
      · have hiterates : App.Event.iterates id (.serve id e) = isIterate e := by
          simp [App.Event.iterates]
        rw [hiterates]
        exact stopping_step hstopping hserver hundef
      · simp [App.Event.iterates, hi.symm]
    | queued mShouldCancel => cases hserve
    | ended server => cases hserve
    | deleted server => cases hserve
  | relay id thread x =>
    rcases relay_cases hhandle with ⟨-, hok⟩ | ⟨-, hok⟩
    · cases hok
      exact ⟨.same rfl fun _ => rfl, fun hmanual _ => hmanual⟩
    · cases hok
      exact ⟨.same rfl fun _ => rfl, fun hmanual _ => hmanual⟩
  | finish id =>
    obtain ⟨⟨settings, stage⟩, htask, hfinish⟩ := Option.bind_eq_some_iff.mp hhandle
    cases stage with
    | running server =>
      dsimp only at hfinish
      split_ifs at hfinish
      cases hfinish
      exact ⟨.stage id _ (.ended server) htask rfl (fun _ => ⟨trivial, Nat.zero_le _⟩)
        fun _ _ => rfl, fun hmanual _ => hmanual⟩
    | queued mShouldCancel => cases hfinish
    | ended server => cases hfinish
    | deleted server => cases hfinish
  | delete id =>
    obtain ⟨⟨settings, stage⟩, htask, hdelete⟩ := Option.bind_eq_some_iff.mp hhandle
    cases stage with
    | ended server =>
      cases hdelete
      exact ⟨.stage id _ (.deleted server) htask rfl (fun _ => ⟨trivial, le_rfl⟩) fun _ _ => rfl,
        fun hmanual _ => hmanual⟩
    | queued mShouldCancel => cases hdelete
    | running server => cases hdelete
    | deleted server => cases hdelete

/-- Without a launch, no server is added, and the stopped one comes nearer to its end. -/
theorem toldToStop_step {id : Option ℕ} {servers : ℕ} (he : e ≠ .launch)
    (h : ToldToStop id servers a) (hstep : a.step e = some a') :
    ToldToStop id servers a' ∧ ∀ i ∈ id,
      (e.iterates i).toNat + a'.iterationsLeft i ≤ a.iterationsLeft i := by
  obtain ⟨hpoolStep, hmanual⟩ := pool_step h.toConsistent hstep
  have hconsistent : Consistent a' := Consistent.step a e a' h.toConsistent hstep
  have hmanual' := hmanual h.manual he
  cases hpoolStep with
  | same hpool hno =>
    refine ⟨⟨hconsistent, hmanual', hpool ▸ h.servers, hpool ▸ h.stopping⟩, fun i _ => ?_⟩
    rw [hno i, App.iterationsLeft, App.iterationsLeft, hpool, Bool.toNat_false, Nat.zero_add]
  | stage j task stage htask hpool hstage hno =>
    refine ⟨⟨hconsistent, hmanual', ?_, fun i hi => ?_⟩, fun i hi => ?_⟩
    · rw [hpool, App.length_setStage]
      exact h.servers
    · obtain ⟨task', htask', hstopping⟩ := h.stopping i hi
      rw [hpool, App.getElem?_setStage, htask', Option.map_some]
      refine ⟨_, rfl, ?_⟩
      by_cases hij : j = i
      · subst hij
        cases htask.symm.trans htask'
        rw [if_pos rfl]
        exact (hstage hstopping).1
      · rw [if_neg hij]
        exact hstopping
    · obtain ⟨task', htask', hstopping⟩ := h.stopping i hi
      rw [App.iterationsLeft, App.iterationsLeft, hpool, App.getElem?_setStage, htask',
        Option.map_some, Option.map_some, Option.map_some, Option.getD_some, Option.getD_some]
      by_cases hij : j = i
      · subst hij
        cases htask.symm.trans htask'
        rw [if_pos rfl]
        exact (hstage hstopping).2
      · rw [if_neg hij, hno i (Ne.symm hij), Bool.toNat_false, Nat.zero_add]
  | started hlaunch =>
    rcases hlaunch with hlaunch | hlaunch
    · exact absurd hlaunch he
    · rw [h.manual] at hlaunch
      cases hlaunch

theorem toldToStop_of_stop (h : Consistent a) (he : e = .stop ∨ e = .close)
    (hstep : a.step e = some a') : ToldToStop a.window.mActiveThread a.pool.length a' := by
  have hconsistent : Consistent a' := Consistent.step a e a' h hstep
  obtain ⟨hmanual, hpool⟩ := stop_cases h he (handle_of_step hstep)
  rcases hpool with ⟨hnone, hpool⟩ | ⟨id, task, stage, hactive, htask, hcancel, hpool⟩
  · exact ⟨hconsistent, hmanual, by rw [hpool], by rw [hnone]; nofun⟩
  · refine ⟨hconsistent, hmanual, by rw [hpool, App.length_setStage], fun i hi => ?_⟩
    rw [hactive] at hi
    cases hi
    rw [hpool, App.getElem?_setStage, htask, Option.map_some, if_pos rfl]
    exact ⟨_, rfl, (stopping_cancel hcancel).1⟩

end Step

theorem iterationsLeft_le (a : App) (i : ℕ) : a.iterationsLeft i ≤ 1 := by
  unfold App.iterationsLeft
  cases a.pool[i]? with
  | none => exact Nat.zero_le 1
  | some task =>
    show task.stage.iterationsLeft ≤ 1
    unfold Stage.iterationsLeft
    split
    · exact le_rfl
    · split_ifs <;> omega
    · exact Nat.zero_le 1
    · exact Nat.zero_le 1

/-- **Stopping is final.** Once the user has stopped the server or closed the window, no server is
started until the user launches one, whatever the servers do and whether or not they are to restart
by themselves, and the server that was stopped begins at most one more iteration of its loop. -/
theorem stop_is_final (autostart : Bool) (host_ip : String) (a₀ : App)
    (hstart : App.start autostart host_ip = .ok a₀) (before after : List App.Event)
    (e : App.Event) (he : e = .stop ∨ e = .close) (a b c : App)
    (ha : Runs.run App.step a₀ before = some a) (hb : a.step e = some b)
    (hc : Runs.run App.step b after = some c) (hafter : .launch ∉ after) :
    c.pool.length = a.pool.length ∧
      ∀ i, a.window.mActiveThread = some i → after.countP (·.iterates i) ≤ 1 := by
  obtain ⟨a₁, hstart₁, h₀⟩ := consistent_start autostart host_ip
  cases hstart.symm.trans hstart₁
  have h : Consistent a := Runs.inv_of_run Consistent.step h₀ ha
  have htold := toldToStop_of_stop h he hb
  have hevents : ∀ e ∈ after, e ≠ .launch := fun e hmem heq => hafter (heq ▸ hmem)
  have hend := Runs.inv_of_run_of
    (fun _ _ _ hne htold' hs => (toldToStop_step hne htold' hs).1) htold hevents hc
  refine ⟨hend.servers, fun i hi => ?_⟩
  have hcount : after.countP (·.iterates i) + c.iterationsLeft i ≤ b.iterationsLeft i :=
    Runs.countP_add_rank_le (R := fun a => a.iterationsLeft i)
      (fun _ _ _ hne htold' hs => (toldToStop_step hne htold' hs).1)
      (fun _ _ _ hne htold' hs => (toldToStop_step hne htold' hs).2 i hi) htold hevents hc
  have hleft := iterationsLeft_le b i
  omega

/-- The server is stopped in the queue and leaves its loop at once. -/
theorem stop_is_final_queued :
    ∃ a₀ a b c, App.start true "127.0.0.1" = .ok a₀ ∧ Runs.run App.step a₀ [] = some a ∧
      a.step .stop = some b ∧
      Runs.run App.step b [.begin 0 none, .serve 0 (.iterate {}), .finish 0] = some c ∧
      c.pool.length = a.pool.length :=
  ⟨_, _, _, _, rfl, rfl, rfl, rfl, (stop_is_final true "127.0.0.1" _ rfl []
    [.begin 0 none, .serve 0 (.iterate {}), .finish 0] .stop (Or.inl rfl) _ _ _ rfl rfl rfl
    (by decide)).1⟩

end TpxServer.Ui
