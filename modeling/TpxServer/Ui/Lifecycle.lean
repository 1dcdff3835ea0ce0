import TpxServer.Ui.MainWindow

/-!
# The window and its servers agree

Whatever the user, the pool and the servers do, the buttons, the fields and the status of the window
tell whether a server is active (`window_consistent`). At most one server is not over, and it runs
with the settings that the fields show, so a new server is never started while one exists, and a
restart never fails. What can go wrong is told exactly by `app_failures`: a port that is no number
at a launch, and a click or a close that finds the server deleted before its end was heard of.
-/

namespace TpxServer.Ui

open Comms (Server OpenError)

/-! ## Servers that are over -/

def Stage.over : Stage → Bool
  | .queued _ => false
  | .running _ => false
  | .ended _ => true
  | .deleted _ => true

def Stage.gone : Stage → Bool
  | .deleted _ => true
  | _ => false

theorem Stage.cancel_eq_none (stage : Stage) : stage.cancel = none ↔ stage.gone = true := by
  cases stage <;> simp [Stage.cancel, Stage.gone]

theorem Stage.over_cancel {stage stage' : Stage} (h : stage.cancel = some stage') :
    stage'.over = stage.over := by
  cases stage <;> cases h <;> rfl

theorem Stage.gone_of_not_over {stage : Stage} (h : stage.over = false) : stage.gone = false := by
  cases stage <;> first | rfl | cases h

/-- The server whose end is told. -/
def Posted.doneOf : Posted → Option ℕ
  | .line _ _ => none
  | .relayed _ _ _ => none
  | .threadDone id => some id

/-- The end of a server is not posted to its object. -/
theorem doneOf_filter (id : ℕ) (posted : List Posted) :
    (posted.filter fun p => !p.isFor id).filterMap Posted.doneOf =
      posted.filterMap Posted.doneOf := by
  rw [List.filterMap_filter]
  refine List.filterMap_congr fun p _ => ?_
  cases p with
  | line id' x => rfl
  | relayed id' thread x => simp [Posted.doneOf]
  | threadDone id' => rfl

/-- `execute` of the server has returned. -/
def App.over (a : App) (id : ℕ) : Bool := (a.pool[id]?).any (·.stage.over)

/-- The object of the server was deleted. -/
def App.gone (a : App) (id : ℕ) : Bool := (a.pool[id]?).any (·.stage.gone)

/-- The window shows whether a server is active. The active server is the last one, runs with the
settings in the fields, and its end is posted once it is over; all others are over. -/
structure Consistent (a : App) : Prop where
  launchButton : a.window.mLaunchServerButton = a.window.mActiveThread.isNone
  stopButton : a.window.mStopServerButton = a.window.mActiveThread.isSome
  fields : a.window.mSettingsPanel.enabled = a.window.mActiveThread.isNone
  status : a.window.mStatusPanel = setServerRunning a.window.mActiveThread.isSome
  current : ∀ id, a.window.mActiveThread = some id → id + 1 = a.pool.length
  others : ∀ id, id < a.pool.length → a.window.mActiveThread ≠ some id → a.over id = true
  done : a.posted.filterMap Posted.doneOf = (a.window.mActiveThread.filter a.over).toList
  settings : ∀ id, a.window.mActiveThread = some id →
    (a.pool[id]?).map Task.settings = a.window.mSettingsPanel.getSettings

namespace App

variable {a : App} {id : ℕ}

theorem getElem?_setStage (id id' : ℕ) (stage : Stage) (a : App) :
    (a.setStage id stage).pool[id']? =
      (a.pool[id']?).map fun task => if id = id' then { task with stage := stage } else task := by
  show (a.pool.modify id _)[id']? = _
  rw [List.getElem?_modify]
  cases a.pool[id']? with
  | none => rfl
  | some task => split_ifs <;> rfl

theorem any_setStage {task : Task} (htask : a.pool[id]? = some task) (stage : Stage) (id' : ℕ)
    (f : Stage → Bool) : (((a.setStage id stage).pool[id']?).any fun task => f task.stage) =
      if id = id' then f stage else (a.pool[id']?).any fun task => f task.stage := by
  rw [getElem?_setStage]
  by_cases hid : id = id'
  · subst hid
    rw [htask]
    simp
  · cases a.pool[id']? with
    | none => simp [hid]
    | some task => simp [hid]

theorem over_setStage {task : Task} (htask : a.pool[id]? = some task) (stage : Stage) (id' : ℕ) :
    (a.setStage id stage).over id' = if id = id' then stage.over else a.over id' :=
  any_setStage htask stage id' Stage.over

theorem gone_setStage {task : Task} (htask : a.pool[id]? = some task) (stage : Stage) (id' : ℕ) :
    (a.setStage id stage).gone id' = if id = id' then stage.gone else a.gone id' :=
  any_setStage htask stage id' Stage.gone

theorem settings_setStage (stage : Stage) (id' : ℕ) :
    ((a.setStage id stage).pool[id']?).map Task.settings = (a.pool[id']?).map Task.settings := by
  rw [getElem?_setStage]
  cases a.pool[id']? with
  | none => rfl
  | some task =>
    show some _ = some _
    split_ifs <;> rfl

theorem length_setStage (stage : Stage) : (a.setStage id stage).pool.length = a.pool.length :=
  List.length_modify _ _ _

end App

/-! ## The functions of the window -/

namespace Consistent

variable {a : App} (h : Consistent a) {id : ℕ}
include h

/-- A server that is not over is the active one. -/
theorem active_of_not_over (hid : id < a.pool.length) (hover : a.over id = false) :
    a.window.mActiveThread = some id := by
  by_contra hactive
  rw [h.others id hid hactive] at hover
  cases hover

theorem log (msg : String) : Consistent (a.log msg) :=
  ⟨h.launchButton, h.stopButton, h.fields, h.status, h.current, h.others, h.done, h.settings⟩

theorem lines {posted : List Posted} (hposted : posted.filterMap Posted.doneOf = []) :
    Consistent { a with posted := a.posted ++ posted } where
  launchButton := h.launchButton
  stopButton := h.stopButton
  fields := h.fields
  status := h.status
  current := h.current
  others := h.others
  done := by
    show (a.posted ++ posted).filterMap Posted.doneOf = _
    rw [List.filterMap_append, hposted, List.append_nil]
    exact h.done
  settings := h.settings

/-- A line comes to the log window. -/
theorem append {p : Posted} {posted : List Posted} (hposted : a.posted = p :: posted)
    (hp : p.doneOf = none) {source : Source} {x : Signal} :
    Consistent (App.append source x { a with posted := posted }) where
  launchButton := h.launchButton
  stopButton := h.stopButton
  fields := h.fields
  status := h.status
  current := h.current
  others := h.others
  done := by
    have hdone := h.done
    rw [hposted, List.filterMap_cons_none hp] at hdone
    exact hdone
  settings := h.settings

/-- What was posted to the object of a server is dropped. -/
theorem drop (id : ℕ) :
    Consistent { a with posted := a.posted.filter fun p => !p.isFor id } where
  launchButton := h.launchButton
  stopButton := h.stopButton
  fields := h.fields
  status := h.status
  current := h.current
  others := h.others
  done := by
    show (a.posted.filter fun p => !p.isFor id).filterMap Posted.doneOf = _
    rw [doneOf_filter]
    exact h.done
  settings := h.settings

/-- A stage of a server that does not change whether it is over. -/
theorem setStage {task : Task} (htask : a.pool[id]? = some task) (stage : Stage)
    (hstage : stage.over = task.stage.over) : Consistent (a.setStage id stage) := by
  have hover : (a.setStage id stage).over = a.over := by
    funext id'
    rw [App.over_setStage htask]
    split_ifs with hid
    · subst hid
      rw [hstage, App.over, htask]
      rfl
    · rfl
  refine ⟨h.launchButton, h.stopButton, h.fields, h.status, ?_, ?_, ?_, ?_⟩
  · rw [App.length_setStage]
    exact h.current
  · rw [App.length_setStage, hover]
    exact h.others
  · rw [hover]
    exact h.done
  · intro id' hactive
    rw [App.settings_setStage]
    exact h.settings id' hactive

/-- The active server ends. -/
theorem finish {task : Task} (htask : a.pool[id]? = some task) (hrunning : task.stage.over = false)
    (server : Server) :
    Consistent { a.setStage id (.ended server) with
      posted := a.posted ++ [.threadDone id] } := by
  have hlt : id < a.pool.length := (List.getElem?_eq_some_iff.mp htask).1
  have hover : a.over id = false := by
    rw [App.over, htask]
    exact hrunning
  have hactive := h.active_of_not_over hlt hover
  have hover' := App.over_setStage htask (.ended server)
  refine ⟨h.launchButton, h.stopButton, h.fields, h.status, ?_, ?_, ?_, ?_⟩
  · show ∀ id', _ → id' + 1 = (a.setStage id (.ended server)).pool.length
    rw [App.length_setStage]
    exact h.current
  · show ∀ id', id' < (a.setStage id (.ended server)).pool.length → _ →
      (a.setStage id (.ended server)).over id' = true
    rw [App.length_setStage]
    intro id' hid' hne
    rw [hover', if_neg fun heq : id = id' => hne (heq ▸ hactive)]
    exact h.others id' hid' hne
  · show (a.posted ++ [Posted.threadDone id]).filterMap Posted.doneOf =
      (a.window.mActiveThread.filter (a.setStage id (.ended server)).over).toList
    rw [List.filterMap_append, h.done, hactive]
    simp [Option.filter, hover, hover', Stage.over, Posted.doneOf]
  · intro id' hid'
    show ((a.setStage id (.ended server)).pool[id']?).map Task.settings = _
    rw [App.settings_setStage]
    exact h.settings id' hid'

/-- A launch with readable ports. -/
theorem startTask (hactive : a.window.mActiveThread = none) {settings : CommsSettings}
    (hsettings : a.window.mSettingsPanel.getSettings = some settings) :
    Consistent (a.showLaunched.startTask settings) := by
  have hpool : (a.showLaunched.startTask settings).pool =
      a.pool ++ [{ settings := settings }] := rfl
  have hover (id : ℕ) (hid : id < a.pool.length) :
      (a.showLaunched.startTask settings).over id = a.over id := by
    unfold App.over
    rw [hpool, List.getElem?_append_left hid]
  have hnew : (a.showLaunched.startTask settings).over a.pool.length = false := by
    unfold App.over
    rw [hpool, List.getElem?_concat_length]
    rfl
  refine ⟨rfl, rfl, rfl, rfl, ?_, ?_, ?_, ?_⟩
  · rintro id ⟨⟩
    rw [hpool, List.length_append]
    rfl
  · intro id hid hne
    rw [hpool, List.length_append] at hid
    have hlt : id < a.pool.length :=
      lt_of_le_of_ne (Nat.le_of_lt_succ hid) fun heq => hne (heq ▸ rfl)
    rw [hover id hlt]
    exact h.others id hlt (by rw [hactive]; nofun)
  · show a.posted.filterMap Posted.doneOf =
      ((some a.pool.length).filter (a.showLaunched.startTask settings).over).toList
    rw [h.done, hactive]
    simp [Option.filter, hnew]
  · rintro id ⟨⟩
    show ((a.showLaunched.startTask settings).pool[a.pool.length]?).map Task.settings =
      a.window.mSettingsPanel.getSettings
    rw [hpool, List.getElem?_concat_length, hsettings]
    rfl

/-- The end of the active server is heard of. -/
theorem showDone {posted : List Posted} (hposted : a.posted = .threadDone id :: posted) :
    Consistent { a with posted := posted }.showDone ∧ a.window.mActiveThread = some id ∧
      a.over id = true := by
  have hdone : id :: posted.filterMap Posted.doneOf =
      (a.window.mActiveThread.filter a.over).toList := by
    rw [← h.done, hposted]
    rfl
  obtain ⟨hactive, hover, hrest⟩ : a.window.mActiveThread = some id ∧ a.over id = true ∧
      posted.filterMap Posted.doneOf = [] := by
    cases hactive : a.window.mActiveThread with
    | none => simp [hactive] at hdone
    | some id' =>
      cases hover : a.over id' with
      | false => simp [hactive, Option.filter, hover] at hdone
      | true =>
        simp only [hactive, Option.filter, hover, if_true, Option.toList_some,
          List.cons.injEq] at hdone
        obtain ⟨rfl, hrest⟩ := hdone
        exact ⟨rfl, hover, hrest⟩
  refine ⟨⟨rfl, rfl, rfl, rfl, nofun, fun id' hid' _ => ?_, hrest, nofun⟩, hactive, hover⟩
  show a.over id' = true
  by_cases hid : id = id'
  · exact hid ▸ hover
  · refine h.others id' hid' ?_
    rw [hactive]
    exact fun heq => hid (Option.some.inj heq)

theorem exists_task (hactive : a.window.mActiveThread = some id) :
    ∃ task, a.pool[id]? = some task := by
  have hlt : id < a.pool.length := by
    rw [← h.current id hactive]
    exact Nat.lt_succ_self id
  exact ⟨_, List.getElem?_eq_getElem hlt⟩

/-- `stopServer` goes wrong exactly if the active server was deleted. -/
theorem stopServer_cases :
    (∃ id, a.window.mActiveThread = some id ∧ a.gone id = true ∧ a.stopServer = .undefined) ∨
      ∃ a', a.stopServer = .ok a' ∧ Consistent a' ∧ a'.window.mManuallyCancelled = true ∧
        a'.window.mActiveThread = a.window.mActiveThread ∧
        (a.window.mActiveThread = none ∧ a'.pool = a.pool ∨
          ∃ id task stage, a.window.mActiveThread = some id ∧ a.pool[id]? = some task ∧
            task.stage.cancel = some stage ∧ a'.pool = (a.setStage id stage).pool) := by
  let b : App := { a.log "Stopping server..." with
    window := { (a.log "Stopping server...").window with mManuallyCancelled := true } }
  have hb : Consistent b :=
    ⟨h.launchButton, h.stopButton, h.fields, h.status, h.current, h.others, h.done, h.settings⟩
  cases hactive : a.window.mActiveThread with
  | none =>
    have hactive' : (a.log "Stopping server...").window.mActiveThread = none := hactive
    have hstop : a.stopServer = .ok b := by
      unfold App.stopServer
      dsimp only
      split
      next => rfl
      next id hsome => cases hactive'.symm.trans hsome
    exact Or.inr ⟨b, hstop, hb, rfl, hactive, Or.inl ⟨rfl, rfl⟩⟩
  | some id =>
    obtain ⟨task, htask⟩ := h.exists_task hactive
    have hactive' : (a.log "Stopping server...").window.mActiveThread = some id := hactive
    have hstop : a.stopServer = b.cancelTask id := by
      unfold App.stopServer
      dsimp only
      split
      next hnone => cases hactive'.symm.trans hnone
      next id' hsome => rw [Option.some.inj (hactive'.symm.trans hsome)]
    have htask' : b.pool[id]? = some task := htask
    rw [hstop]
    unfold App.cancelTask
    rw [htask', Option.bind_some]
    cases hstage : task.stage.cancel with
    | none =>
      refine Or.inl ⟨id, rfl, ?_, rfl⟩
      rw [App.gone, htask]
      exact (Stage.cancel_eq_none _).mp hstage
    | some stage =>
      exact Or.inr ⟨_, rfl, hb.setStage htask _ (Stage.over_cancel hstage), rfl, hactive,
        Or.inr ⟨id, task, stage, rfl, htask, hstage, rfl⟩⟩

/-- A launch goes wrong exactly if a port cannot be read. -/
theorem launchServer_cases (hactive : a.window.mActiveThread = none) :
    (a.window.mSettingsPanel.getSettings = none ∧
        a.launchServer = .throws .conversion a.showLaunched) ∨
      ∃ settings, a.window.mSettingsPanel.getSettings = some settings ∧
        a.launchServer = .ok (a.showLaunched.startTask settings) ∧
        Consistent (a.showLaunched.startTask settings) := by
  have hnone : a.showLaunched.window.mActiveThread = none := hactive
  have hpanel : a.showLaunched.window.mSettingsPanel.getSettings =
      a.window.mSettingsPanel.getSettings := rfl
  unfold App.launchServer
  dsimp only
  rw [hnone, hpanel]
  cases hsettings : a.window.mSettingsPanel.getSettings with
  | none => exact Or.inl ⟨rfl, rfl⟩
  | some settings => exact Or.inr ⟨settings, rfl, rfl, h.startTask hactive hsettings⟩

/-- The window hears of the end. A restart finds the ports as they were read before. -/
theorem serverDone_ok {posted : List Posted} (hposted : a.posted = .threadDone id :: posted) :
    ∃ a', App.serverDone { a with posted := posted } = .ok a' ∧ Consistent a' ∧
      (a.window.mManuallyCancelled = true → a'.pool = a.pool ∧
        a'.window.mManuallyCancelled = true) := by
  obtain ⟨hdone, hactive, -⟩ := h.showDone hposted
  unfold App.serverDone
  dsimp only
  split_ifs with hrestart
  · obtain ⟨task, htask⟩ := h.exists_task hactive
    have hsettings := h.settings id hactive
    rw [htask] at hsettings
    have hmanual : a.window.mManuallyCancelled = false := hrestart.1
    rcases (hdone.log "Restarting server...").launchServer_cases rfl with
      ⟨hnone, -⟩ | ⟨settings, -, hok, hconsistent⟩
    · have hnone' : a.window.mSettingsPanel.getSettings = none := hnone
      rw [hnone'] at hsettings
      cases hsettings
    · exact ⟨_, hok, hconsistent, fun htrue => by simp [hmanual] at htrue⟩
  · exact ⟨_, rfl, hdone, fun htrue => ⟨rfl, htrue⟩⟩

end Consistent

/-! ## Every event -/

theorem doneOf_emitted (id : ℕ) (before : List Signal) (server : Server) :
    (App.emitted id before server).filterMap Posted.doneOf = [] := by
  rw [List.filterMap_eq_nil_iff]
  intro p hp
  obtain ⟨x, -, rfl⟩ := List.mem_map.mp hp
  rfl

/-- A line of a secondary thread is posted to the object of its server, if that is still there. -/
theorem relay_cases {a : App} {id thread : ℕ} {x : Signal} {o : Outcome Failure App}
    (ho : a.handle (.relay id thread x) = some o) :
    (a.gone id = false ∧ o = .ok { a with posted := a.posted ++ [.relayed id thread x] }) ∨
      (a.gone id = true ∧ o = .ok a) := by
  obtain ⟨⟨settings, stage⟩, htask, ho⟩ := Option.bind_eq_some_iff.mp ho
  rw [App.gone, htask]
  cases stage with
  | queued mShouldCancel => cases ho
  | running server =>
    dsimp only at ho
    split_ifs at ho
    cases ho
    exact Or.inl ⟨rfl, rfl⟩
  | ended server =>
    dsimp only at ho
    split_ifs at ho
    cases ho
    exact Or.inl ⟨rfl, rfl⟩
  | deleted server =>
    dsimp only at ho
    split_ifs at ho
    cases ho
    exact Or.inr ⟨rfl, rfl⟩

/-- What an event can do. -/
theorem handle_cases {a : App} (h : Consistent a) {e : App.Event} {o : Outcome Failure App}
    (ho : a.handle e = some o) :
    (∃ a', o = .ok a' ∧ Consistent a') ∨
    (e = .launch ∧ a.window.mSettingsPanel.getSettings = none ∧
      o = .throws .conversion a.showLaunched) ∨
    ((e = .stop ∨ e = .close) ∧ (∃ id, a.window.mActiveThread = some id ∧ a.gone id = true) ∧
      o = .undefined) ∨
    (∃ id e', e = .serve id e' ∧ o = .undefined) := by
  cases e with
  | launch =>
    unfold App.handle at ho
    dsimp only at ho
    split_ifs at ho with hclick
    cases ho
    have hactive : a.window.mActiveThread = none := by
      rw [← Option.isNone_iff_eq_none, ← h.launchButton]
      exact hclick.2
    rcases h.launchServer_cases hactive with ⟨hnone, hthrows⟩ | ⟨settings, -, hok, hconsistent⟩
    · exact Or.inr (Or.inl ⟨rfl, hnone, hthrows⟩)
    · exact Or.inl ⟨_, hok, hconsistent⟩
  | stop =>
    unfold App.handle at ho
    dsimp only at ho
    split_ifs at ho with hclick
    cases ho
    rcases h.stopServer_cases with ⟨id, hactive, hgone, hundef⟩ | ⟨a', hok, hconsistent, -⟩
    · exact Or.inr (Or.inr (Or.inl ⟨Or.inl rfl, ⟨id, hactive, hgone⟩, hundef⟩))
    · exact Or.inl ⟨a', hok, hconsistent⟩
  | edit e =>
    unfold App.handle at ho
    dsimp only at ho
    split_ifs at ho with hclick
    cases ho
    refine Or.inl ⟨_, rfl, ?_⟩
    have hactive : a.window.mActiveThread = none := by
      rw [← Option.isNone_iff_eq_none, ← h.fields]
      exact hclick.2
    have henabled : (a.window.mSettingsPanel.edit e).enabled = a.window.mSettingsPanel.enabled := by
      cases e <;> rfl
    refine ⟨h.launchButton, h.stopButton, henabled.trans h.fields, h.status, h.current, h.others,
      h.done, fun id hid => ?_⟩
    rw [show _ = a.window.mActiveThread from rfl, hactive] at hid
    cases hid
  | close =>
    unfold App.handle at ho
    dsimp only at ho
    split_ifs at ho with hopen
    cases ho
    unfold App.closeEvent
    rcases h.stopServer_cases with ⟨id, hactive, hgone, hundef⟩ | ⟨a', hok, hconsistent, -⟩
    · rw [hundef]
      exact Or.inr (Or.inr (Or.inl ⟨Or.inr rfl, ⟨id, hactive, hgone⟩, rfl⟩))
    · rw [hok]
      exact Or.inl ⟨_, rfl, ⟨hconsistent.launchButton, hconsistent.stopButton, hconsistent.fields,
        hconsistent.status, hconsistent.current, hconsistent.others, hconsistent.done,
        hconsistent.settings⟩⟩
  | deliver =>
    unfold App.handle at ho
    dsimp only at ho
    split at ho
    · rename_i p posted hclosed hposted
      cases ho
      cases p with
      | line id x => exact Or.inl ⟨_, rfl, h.append hposted rfl⟩
      | relayed id thread x => exact Or.inl ⟨_, rfl, h.append hposted rfl⟩
      | threadDone id =>
        obtain ⟨a', hok, hconsistent, -⟩ := h.serverDone_ok hposted
        exact Or.inl ⟨a', hok, hconsistent⟩
    · cases ho
  | begin id openError =>
    obtain ⟨⟨settings, stage⟩, htask, ho⟩ := Option.bind_eq_some_iff.mp ho
    cases stage with
    | queued mShouldCancel =>
      cases ho
      refine Or.inl ⟨_, rfl, ?_⟩
      refine (h.setStage htask (.running _) rfl).lines ?_
      exact doneOf_emitted id [] _
    | running server => cases ho
    | ended server => cases ho
    | deleted server => cases ho
  | serve id e =>
    obtain ⟨⟨settings, stage⟩, htask, ho⟩ := Option.bind_eq_some_iff.mp ho
    cases stage with
    | running server =>
      dsimp only at ho
      split_ifs at ho with hcancel
      obtain ⟨server', hstep, rfl⟩ := Option.map_eq_some_iff.mp ho
      split_ifs with hundef
      · exact Or.inr (Or.inr (Or.inr ⟨id, e, rfl, rfl⟩))
      · refine Or.inl ⟨_, rfl, ?_⟩
        exact (h.setStage htask (.running server') rfl).lines (doneOf_emitted id _ _)
    | queued mShouldCancel => cases ho
    | ended server => cases ho
    | deleted server => cases ho
  | relay id thread x =>
    rcases relay_cases ho with ⟨-, rfl⟩ | ⟨-, rfl⟩
    · exact Or.inl ⟨_, rfl, h.lines rfl⟩
    · exact Or.inl ⟨a, rfl, h⟩
  | finish id =>
    obtain ⟨⟨settings, stage⟩, htask, ho⟩ := Option.bind_eq_some_iff.mp ho
    cases stage with
    | running server =>
      dsimp only at ho
      split_ifs at ho
      cases ho
      exact Or.inl ⟨_, rfl, h.finish htask rfl server⟩
    | queued mShouldCancel => cases ho
    | ended server => cases ho
    | deleted server => cases ho
  | delete id =>
    obtain ⟨⟨settings, stage⟩, htask, ho⟩ := Option.bind_eq_some_iff.mp ho
    cases stage with
    | ended server =>
      cases ho
      exact Or.inl ⟨_, rfl, (h.setStage htask (.deleted server) rfl).drop id⟩
    | queued mShouldCancel => cases ho
    | running server => cases ho
    | deleted server => cases ho

/-! ## Runs -/

theorem Consistent.step (a : App) (e : App.Event) (a' : App) (h : Consistent a)
    (hstep : a.step e = some a') : Consistent a' := by
  unfold App.step at hstep
  split at hstep
  · rename_i a'' hhandle
    cases hstep
    rcases handle_cases h hhandle with ⟨b, hb, hconsistent⟩ | ⟨-, -, hthrows⟩ |
      ⟨-, -, hundef⟩ | ⟨_, _, -, hundef⟩
    · cases hb
      exact hconsistent
    · cases hthrows
    · cases hundef
    · cases hundef
  · cases hstep

theorem consistent_initial (host_ip : String) :
    Consistent { window := { mSettingsPanel := { mHostIpSettingEdit := host_ip } } } :=
  ⟨rfl, rfl, rfl, rfl, nofun, nofun, rfl, nofun⟩

/-- The ports that the fields begin with can be read. -/
theorem getSettings_initial (host_ip : String) :
    SettingsPanel.getSettings { mHostIpSettingEdit := host_ip } =
      some { host_ip, host_port := 0, timepix_ip := "192.168.100.10", timepix_port := 50000,
             outgoing_port := 48288 } := by
  have hhost : stoul "0".toList = some 0 := by decide
  have htimepix : stoul "50000".toList = some 50000 := by decide
  have houtgoing : stoul "48288".toList = some 48288 := by decide
  unfold SettingsPanel.getSettings
  rw [hhost, htimepix, houtgoing]
  rfl

theorem consistent_start (autostart : Bool) (host_ip : String) :
    ∃ a, App.start autostart host_ip = .ok a ∧ Consistent a := by
  have hinitial := consistent_initial host_ip
  cases autostart with
  | false => exact ⟨_, rfl, hinitial⟩
  | true =>
    rcases hinitial.launchServer_cases rfl with ⟨hnone, -⟩ | ⟨settings, -, hok, hconsistent⟩
    · cases hnone.symm.trans (getSettings_initial host_ip)
    · exact ⟨_, hok, hconsistent⟩

/-- **The window is right.** The program starts, and in every state that it reaches the buttons, the
fields and the status tell whether a server is active; every server that is not over is the active
one, which runs with the settings that the fields show; and no event makes the window start a server
while it has one. -/
theorem window_consistent (autostart : Bool) (host_ip : String) :
    ∃ a₀, App.start autostart host_ip = .ok a₀ ∧
      ∀ events a, Runs.run App.step a₀ events = some a →
        (a.window.mLaunchServerButton = a.window.mActiveThread.isNone ∧
          a.window.mStopServerButton = a.window.mActiveThread.isSome ∧
          a.window.mSettingsPanel.enabled = a.window.mActiveThread.isNone ∧
          a.window.mStatusPanel = setServerRunning a.window.mActiveThread.isSome) ∧
        (∀ id < a.pool.length, a.over id = false → a.window.mActiveThread = some id) ∧
        (∀ id, a.window.mActiveThread = some id →
          (a.pool[id]?).map Task.settings = a.window.mSettingsPanel.getSettings) ∧
        ∀ e what a', a.handle e ≠ some (.throws (.runtime_error what) a') := by
  obtain ⟨a₀, hstart, h₀⟩ := consistent_start autostart host_ip
  refine ⟨a₀, hstart, fun events a hrun => ?_⟩
  have h : Consistent a := Runs.inv_of_run Consistent.step h₀ hrun
  refine ⟨⟨h.launchButton, h.stopButton, h.fields, h.status⟩,
    fun id hid hover => h.active_of_not_over hid hover, h.settings, fun e what a' hhandle => ?_⟩
  rcases handle_cases h hhandle with ⟨b, hb, -⟩ | ⟨-, -, hthrows⟩ | ⟨-, -, hundef⟩ |
    ⟨_, _, -, hundef⟩
  · cases hb
  · cases hthrows
  · cases hundef
  · cases hundef

/-- The server was stopped and is over, and the window has not heard of it. -/
theorem window_consistent_stopped :
    ∃ a₀ a, App.start true "127.0.0.1" = .ok a₀ ∧
      Runs.run App.step a₀ [.begin 0 none, .stop, .serve 0 (.iterate {}), .finish 0] = some a ∧
      a.over 0 = true ∧ a.window.mStopServerButton = a.window.mActiveThread.isSome ∧
      (a.pool[0]?).map Task.settings = a.window.mSettingsPanel.getSettings ∧
      a.handle .deliver ≠ some (.throws
        (.runtime_error "Attempted to start a new server thread while one already exists") a) := by
  obtain ⟨a₀, hstart, h⟩ := window_consistent true "127.0.0.1"
  have ha₀ : a₀ = _ := Outcome.ok.inj (hstart.symm.trans rfl)
  subst ha₀
  obtain ⟨⟨-, hstop, -⟩, -, hsettings, hnever⟩ := h
    [.begin 0 none, .stop, .serve 0 (.iterate {}), .finish 0] _ rfl
  exact ⟨_, _, rfl, rfl, rfl, hstop, hsettings 0 rfl, hnever _ _ _⟩

/-! ## What can go wrong -/

/-- A step of a running server that has no defined behaviour. -/
def ServesUndefined (a : App) (e : App.Event) : Prop :=
  ∃ id e' task server server', e = .serve id e' ∧ e' ≠ .cancel ∧ a.pool[id]? = some task ∧
    task.stage = .running server ∧ server.step e' = some server' ∧ server'.phase = .undefined

section Failures

variable {a : App} (h : Consistent a) {e : App.Event}
include h

theorem throws_iff : (∃ a', a.handle e = some (.throws .conversion a')) ↔
    e = .launch ∧ a.closed = false ∧ a.window.mActiveThread = none ∧
      a.window.mSettingsPanel.getSettings = none := by
  have hbutton : a.window.mLaunchServerButton = true ↔ a.window.mActiveThread = none := by
    rw [h.launchButton, Option.isNone_iff_eq_none]
  constructor
  · rintro ⟨a', hhandle⟩
    rcases handle_cases h hhandle with ⟨b, hb, -⟩ | ⟨rfl, hnone, -⟩ | ⟨-, -, hundef⟩ |
      ⟨_, _, -, hundef⟩
    · cases hb
    · have hclick : a.closed = false ∧ a.window.mLaunchServerButton = true := by
        by_contra hno
        rw [App.handle, if_neg hno] at hhandle
        cases hhandle
      exact ⟨rfl, hclick.1, hbutton.mp hclick.2, hnone⟩
    · cases hundef
    · cases hundef
  · rintro ⟨rfl, hopen, hactive, hnone⟩
    rw [App.handle, if_pos ⟨hopen, hbutton.mpr hactive⟩]
    rcases h.launchServer_cases hactive with ⟨-, hthrows⟩ | ⟨settings, hsome, -⟩
    · exact ⟨_, congrArg some hthrows⟩
    · rw [hnone] at hsome
      cases hsome

theorem undefined_iff : a.handle e = some .undefined ↔
    ((e = .stop ∨ e = .close) ∧ a.closed = false ∧
      ∃ id, a.window.mActiveThread = some id ∧ a.gone id = true) ∨ ServesUndefined a e := by
  constructor
  · intro hhandle
    rcases handle_cases h hhandle with ⟨b, hb, -⟩ | ⟨-, -, hthrows⟩ |
      ⟨he, hgone, -⟩ | ⟨id, e', rfl, -⟩
    · cases hb
    · cases hthrows
    · refine Or.inl ⟨he, ?_, hgone⟩
      by_contra hclosed
      rcases he with rfl | rfl
      · rw [App.handle, if_neg fun hclick => hclosed hclick.1] at hhandle
        cases hhandle
      · rw [App.handle, if_neg hclosed] at hhandle
        cases hhandle
    · right
      obtain ⟨task, htask, hserve⟩ := Option.bind_eq_some_iff.mp hhandle
      cases hstage : task.stage with
      | running server =>
        rw [hstage] at hserve
        dsimp only at hserve
        split_ifs at hserve with hcancel
        obtain ⟨server', hstep, hundef⟩ := Option.map_eq_some_iff.mp hserve
        split_ifs at hundef with hphase
        exact ⟨id, e', task, server, server', rfl, hcancel, htask, hstage, hstep, hphase⟩
      | queued mShouldCancel => simp [hstage] at hserve
      | ended server => simp [hstage] at hserve
      | deleted server => simp [hstage] at hserve
  · rintro (⟨he, hopen, id, hactive, hgone⟩ | ⟨id, e', task, server, server', rfl, hcancel, htask,
      hstage, hstep, hphase⟩)
    · have hstop : a.stopServer = .undefined := by
        rcases h.stopServer_cases with ⟨_, -, -, hundef⟩ |
          ⟨a', -, -, -, -, ⟨hnone, -⟩ | ⟨id', task, stage, hactive', htask, hcancel, -⟩⟩
        · exact hundef
        · rw [hnone] at hactive
          cases hactive
        · cases hactive.symm.trans hactive'
          rw [App.gone, htask, Option.any_some] at hgone
          rw [(Stage.cancel_eq_none _).mpr hgone] at hcancel
          cases hcancel
      rcases he with rfl | rfl
      · have hbutton : a.window.mStopServerButton = true := by
          rw [h.stopButton, hactive]
          rfl
        rw [App.handle, if_pos ⟨hopen, hbutton⟩, hstop]
      · rw [App.handle, if_pos hopen, App.closeEvent, hstop]
        rfl
    · rw [App.handle, htask, Option.bind_some, hstage]
      dsimp only
      rw [if_neg hcancel, hstep, Option.map_some, if_pos hphase]

/-- A server that was deleted has told its end, which the window has not heard of yet. -/
theorem posted_of_gone {id : ℕ} (hactive : a.window.mActiveThread = some id)
    (hgone : a.gone id = true) : .threadDone id ∈ a.posted := by
  have hover : a.over id = true := by
    unfold App.gone at hgone
    unfold App.over
    cases htask : a.pool[id]? with
    | none => simp [htask] at hgone
    | some task =>
      rw [htask, Option.any_some] at hgone
      rw [Option.any_some]
      cases hstage : task.stage with
      | deleted server => rfl
      | queued mShouldCancel => simp [hstage, Stage.gone] at hgone
      | running server => simp [hstage, Stage.gone] at hgone
      | ended server => rfl
  have hmem : id ∈ a.posted.filterMap Posted.doneOf := by
    rw [h.done, hactive]
    simp [Option.filter, hover]
  obtain ⟨p, hp, hdone⟩ := List.mem_filterMap.mp hmem
  cases p with
  | line id' x => cases hdone
  | relayed id' thread x => cases hdone
  | threadDone id' =>
    cases hdone
    exact hp

end Failures

/-- **What can go wrong.** In every state that the program reaches, an event throws exactly if it is
a launch with a port that cannot be read; and it has no defined behaviour exactly if the user stops
the server or closes the window while the object of the active server is deleted already, its end
being posted but not delivered, or if the step of a server has none. -/
theorem app_failures (autostart : Bool) (host_ip : String) :
    ∃ a₀, App.start autostart host_ip = .ok a₀ ∧
      ∀ events a, Runs.run App.step a₀ events = some a → ∀ e,
        ((∃ failure a', a.handle e = some (.throws failure a')) ↔
          e = .launch ∧ a.closed = false ∧ a.window.mActiveThread = none ∧
            a.window.mSettingsPanel.getSettings = none) ∧
        (a.handle e = some .undefined ↔
          ((e = .stop ∨ e = .close) ∧ a.closed = false ∧
            ∃ id, a.window.mActiveThread = some id ∧ a.gone id = true ∧
              .threadDone id ∈ a.posted) ∨ ServesUndefined a e) := by
  obtain ⟨a₀, hstart, h₀⟩ := consistent_start autostart host_ip
  refine ⟨a₀, hstart, fun events a hrun e => ?_⟩
  have h : Consistent a := Runs.inv_of_run Consistent.step h₀ hrun
  constructor
  · rw [← throws_iff h]
    constructor
    · rintro ⟨failure, a', hhandle⟩
      rcases handle_cases h hhandle with ⟨b, hb, -⟩ | ⟨-, -, hthrows⟩ | ⟨-, -, hundef⟩ |
        ⟨_, _, -, hundef⟩
      · cases hb
      · cases hthrows
        exact ⟨_, hhandle⟩
      · cases hundef
      · cases hundef
    · rintro ⟨a', hhandle⟩
      exact ⟨_, a', hhandle⟩
  · rw [undefined_iff h]
    refine or_congr_left (and_congr_right fun _ => and_congr_right fun _ => ?_)
    constructor
    · rintro ⟨id, hactive, hgone⟩
      exact ⟨id, hactive, hgone, posted_of_gone h hactive hgone⟩
    · rintro ⟨id, hactive, hgone, -⟩
      exact ⟨id, hactive, hgone⟩

/-- A launch with a port that is no number, and a close that finds the server deleted. -/
theorem app_failures_portAndDeleted :
    (∃ a₀ a, App.start false "127.0.0.1" = .ok a₀ ∧
      Runs.run App.step a₀ [.edit (.outgoingPort "x")] = some a ∧
      ∃ failure a', a.handle .launch = some (.throws failure a')) ∧
    ∃ a₀ a, App.start true "127.0.0.1" = .ok a₀ ∧
      Runs.run App.step a₀ [.begin 0 none, .stop, .serve 0 (.iterate {}), .finish 0,
        .delete 0] = some a ∧
      a.handle .close = some .undefined := by
  constructor
  · obtain ⟨a₀, hstart, h⟩ := app_failures false "127.0.0.1"
    have ha₀ : a₀ = _ := Outcome.ok.inj (hstart.symm.trans rfl)
    subst ha₀
    exact ⟨_, _, rfl, rfl,
      (h [.edit (.outgoingPort "x")] _ rfl .launch).1.mpr ⟨rfl, rfl, rfl, by decide⟩⟩
  · obtain ⟨a₀, hstart, h⟩ := app_failures true "127.0.0.1"
    have ha₀ : a₀ = _ := Outcome.ok.inj (hstart.symm.trans rfl)
    subst ha₀
    refine ⟨_, _, rfl, rfl, (h
      [.begin 0 none, .stop, .serve 0 (.iterate {}), .finish 0, .delete 0] _ rfl
      .close).2.mpr ?_⟩
    exact Or.inl ⟨Or.inr rfl, rfl, 0, rfl, rfl, by decide⟩

end TpxServer.Ui
