import TpxServer.Comms.StepFrames
import TpxServer.Ui.Stopping

/-!
# The log

The lines of the servers come to the log window one server after the other, each with all that it
has emitted and in this order. The lines of the secondary threads of a server come in the order in
which they were said, and are lost only with the object of the server, which has to emit them anew.
The lines of the window itself stand in between.
-/

namespace TpxServer.Ui

open Comms (Server OpenError)

/-! ## What was said -/

/-- The signals of a server, with the one that `execute` begins with. -/
def Task.output (task : Task) : List Signal :=
  match task.stage with
  | .queued _ => []
  | .running server => .log (startupText task.settings) :: server.thread.signals
  | .ended server => .log (startupText task.settings) :: server.thread.signals
  | .deleted server => .log (startupText task.settings) :: server.thread.signals

/-- The lines of one server after the other. -/
def linesOf (outputs : List (List Signal)) : List (ℕ × String) :=
  outputs.zipIdx.flatMap fun p => p.1.map fun x => (p.2, html x)

/-- The line of a secondary thread of the server, with the number of the thread. -/
def App.Event.saidOf (id : ℕ) : App.Event → Option (ℕ × String)
  | .relay id' thread x => if id' = id then some (thread, html x) else none
  | _ => none

/-- What the secondary threads of a server say in a run. -/
def said (id : ℕ) (events : List App.Event) : List (ℕ × String) :=
  events.filterMap (App.Event.saidOf id)

/-! ## What was heard -/

def Source.isWindow : Source → Bool
  | .window => true
  | _ => false

def Posted.lineOf : Posted → Option (Source × String)
  | .line id x => some (.server id, html x)
  | .relayed id thread x => some (.secondary id thread, html x)
  | .threadDone _ => none

/-- A line that a server says itself. -/
def ofServer : Source × String → Option (ℕ × String)
  | (.server id, line) => some (id, line)
  | _ => none

/-- A line of a secondary thread of the server. -/
def ofSecondary (id : ℕ) : Source × String → Option (ℕ × String)
  | (.secondary id' thread, line) => if id' = id then some (thread, line) else none
  | _ => none

namespace App

/-- The lines in the log window but those of the window itself. -/
def shown (a : App) : List (Source × String) :=
  (a.window.mLogWindow.filter fun line => !line.source.isWindow).map fun line =>
    (line.source, line.html)

/-- The lines that were not delivered yet. -/
def waiting (a : App) : List (Source × String) := a.posted.filterMap Posted.lineOf

def heard (a : App) : List (Source × String) := a.shown ++ a.waiting

def outputs (a : App) : List (List Signal) := a.pool.map Task.output

end App

theorem linesOf_append (outputs : List (List Signal)) (output : List Signal) :
    linesOf (outputs ++ [output]) =
      linesOf outputs ++ output.map fun x => (outputs.length, html x) := by
  unfold linesOf
  rw [List.zipIdx_append, List.flatMap_append]
  simp

theorem lineOf_emitted (id : ℕ) (before : List Signal) (server : Server) :
    (App.emitted id before server).filterMap Posted.lineOf =
      (server.thread.signals.drop before.length).map fun x => (.server id, html x) := by
  unfold App.emitted
  rw [List.filterMap_map]
  exact congrFun List.filterMap_eq_map _

/-! ## What a step does to the log -/

section Steps

variable {a a' : App} {id : ℕ}

theorem outputs_setStage {task : Task} (htask : a.pool[id]? = some task) {stage : Stage}
    (hstage : Task.output { task with stage := stage } = task.output) :
    (a.setStage id stage).outputs = a.outputs := by
  unfold App.outputs
  apply List.ext_getElem?
  intro i
  rw [List.getElem?_map, List.getElem?_map, App.getElem?_setStage]
  by_cases hi : id = i
  · subst hi
    rw [htask, Option.map_some, Option.map_some, Option.map_some, if_pos rfl, hstage]
  · cases a.pool[i]? with
    | none => rfl
    | some task' => rw [Option.map_some, Option.map_some, Option.map_some, if_neg hi]

/-- The last server says more. -/
theorem linesOf_setStage {task : Task} (htask : a.pool[id]? = some task)
    (hlast : id + 1 = a.pool.length) {stage : Stage} (new : List Signal)
    (hstage : Task.output { task with stage := stage } = task.output ++ new) :
    linesOf (a.setStage id stage).outputs =
      linesOf a.outputs ++ new.map fun x => (id, html x) := by
  have hlt : id < a.pool.length := by omega
  have htask' : a.pool[id] = task := (List.getElem?_eq_some_iff.mp htask).2
  have hdrop : a.pool.drop (id + 1) = [] := by rw [hlast, List.drop_length]
  have hbefore : a.outputs = (a.pool.take id).map Task.output ++ [task.output] := by
    rw [App.outputs, ← List.map_singleton, ← List.map_append]
    congr 1
    rw [← htask', List.take_append_getElem, hlast, List.take_length]
  have houtputs : (a.setStage id stage).outputs =
      (a.pool.take id).map Task.output ++ [Task.output { task with stage := stage }] := by
    show (a.pool.modify id _).map Task.output = _
    rw [List.modify_eq_take_cons_drop hlt, hdrop, htask', List.map_append]
    rfl
  have hlength : ((a.pool.take id).map Task.output).length = id := by
    rw [List.length_map, List.length_take]
    omega
  rw [houtputs, hbefore, linesOf_append, linesOf_append, hstage, List.map_append, hlength,
    List.append_assoc]

theorem output_cancel {task : Task} {stage : Stage} (h : task.stage.cancel = some stage) :
    Task.output { task with stage := stage } = task.output := by
  obtain ⟨settings, stage'⟩ := task
  cases stage' <;> cases h <;> rfl

theorem gone_cancel {stage stage' : Stage} (h : stage.cancel = some stage') :
    stage'.gone = stage.gone := by
  cases stage <;> cases h <;> rfl

/-- A server that is not over is the last one. -/
theorem Consistent.last {task : Task} (h : Consistent a) (htask : a.pool[id]? = some task)
    (hover : task.stage.over = false) : id + 1 = a.pool.length := by
  have hlt : id < a.pool.length := (List.getElem?_eq_some_iff.mp htask).1
  refine h.current id (h.active_of_not_over hlt ?_)
  rw [App.over, htask]
  exact hover

/-- Nothing is said, and no server is deleted. -/
structure Quiet (a a' : App) : Prop where
  heard : a'.heard = a.heard
  outputs : linesOf a'.outputs = linesOf a.outputs
  gone : ∀ i, a'.gone i = a.gone i

theorem Quiet.trans {a'' : App} (h : Quiet a a') (h' : Quiet a' a'') : Quiet a a'' :=
  ⟨h'.heard.trans h.heard, h'.outputs.trans h.outputs, fun i => (h'.gone i).trans (h.gone i)⟩

/-- What an event does to the lines heard and to what was said. -/
inductive LogStep (a : App) (e : App.Event) (a' : App) : Prop where
  /-- A server says something, or nobody does. -/
  | speaks (id : ℕ) (new : List Signal)
    (heard : a'.heard = a.heard ++ new.map fun x => (.server id, html x))
    (outputs : linesOf a'.outputs = linesOf a.outputs ++ new.map fun x => (id, html x))
    (gone : ∀ i, a'.gone i = a.gone i) (said : ∀ i, e.saidOf i = none)
  /-- A secondary thread says something. -/
  | relays (id thread : ℕ) (x : Signal) (he : e = .relay id thread x) (hgone : a.gone id = false)
    (heard : a'.heard = a.heard ++ [(.secondary id thread, html x)])
    (outputs : a'.outputs = a.outputs) (gone : ∀ i, a'.gone i = a.gone i)
  /-- A secondary thread says something that nobody hears. -/
  | unheard (id thread : ℕ) (x : Signal) (he : e = .relay id thread x) (hgone : a.gone id = true)
    (ha : a' = a)
  /-- A server is deleted. -/
  | deletes (id : ℕ) (shown : a'.shown = a.shown)
    (waiting : a'.waiting = (a.posted.filter fun p => !p.isFor id).filterMap Posted.lineOf)
    (outputs : linesOf a'.outputs = linesOf a.outputs)
    (gone : ∀ i, a'.gone i = if id = i then true else a.gone i) (said : ∀ i, e.saidOf i = none)

theorem LogStep.of_quiet {e : App.Event} (h : Quiet a a') (he : ∀ i, e.saidOf i = none) :
    LogStep a e a' :=
  LogStep.speaks 0 [] (h.heard.trans (List.append_nil _).symm)
    (h.outputs.trans (List.append_nil _).symm) h.gone he

/-- The window says a line itself. -/
theorem quiet_window {line : String}
    (hlog : a'.window.mLogWindow =
      a.window.mLogWindow ++ [{ source := .window, html := line }])
    (hpool : a'.pool = a.pool) (hposted : a'.posted = a.posted) : Quiet a a' := by
  refine ⟨?_, ?_, fun i => ?_⟩
  · unfold App.heard App.shown App.waiting
    rw [hlog, hposted, List.filter_append, List.map_append]
    exact congrArg (· ++ _) (List.append_nil _)
  · rw [App.outputs, hpool, App.outputs]
  · rw [App.gone, hpool, App.gone]

/-- A new server has not said anything. -/
theorem quiet_startTask (a : App) (settings : CommsSettings) : Quiet a (a.startTask settings) := by
  refine ⟨rfl, ?_, fun i => ?_⟩
  · show linesOf ((a.pool ++ [_]).map Task.output) = _
    rw [List.map_append, List.map_singleton, linesOf_append]
    exact List.append_nil _
  · show ((a.pool ++ [_])[i]?).any _ = (a.pool[i]?).any _
    rcases Nat.lt_trichotomy i a.pool.length with hlt | rfl | hlt
    · rw [List.getElem?_append_left hlt]
    · rw [List.getElem?_concat_length, List.getElem?_eq_none le_rfl]
      rfl
    · rw [List.getElem?_eq_none (by rw [List.length_append]; exact hlt),
        List.getElem?_eq_none hlt.le]

theorem quiet_setStage {task : Task} (htask : a.pool[id]? = some task) {stage : Stage}
    (hstage : Task.output { task with stage := stage } = task.output)
    (hgone : stage.gone = task.stage.gone) : Quiet a (a.setStage id stage) := by
  refine ⟨rfl, congrArg linesOf (outputs_setStage htask hstage), fun i => ?_⟩
  rw [App.gone_setStage htask]
  split_ifs with hi
  · subst hi
    rw [hgone, App.gone, htask]
    rfl
  · rfl

theorem quiet_launchServer (hok : a.launchServer = .ok a') : Quiet a a' := by
  unfold App.launchServer at hok
  dsimp only at hok
  split_ifs at hok
  split at hok
  · cases hok
  · cases hok
    have hshown : Quiet a a.showLaunched := quiet_window rfl rfl rfl
    exact hshown.trans (quiet_startTask a.showLaunched _)

theorem quiet_stopServer (hok : a.stopServer = .ok a') : Quiet a a' := by
  unfold App.stopServer at hok
  dsimp only at hok
  split at hok
  · cases hok
    exact quiet_window rfl rfl rfl
  · unfold App.cancelTask at hok
    split at hok
    · cases hok
    · rename_i stage hstage
      obtain ⟨task, htask, hcancel⟩ := Option.bind_eq_some_iff.mp hstage
      cases hok
      refine Quiet.trans ?_ (quiet_setStage htask (output_cancel hcancel) (gone_cancel hcancel))
      exact quiet_window rfl rfl rfl

theorem quiet_serverDone (hok : a.serverDone = .ok a') : Quiet a a' := by
  unfold App.serverDone at hok
  dsimp only at hok
  split_ifs at hok
  · refine Quiet.trans ?_ (quiet_launchServer hok)
    exact quiet_window rfl rfl rfl
  · cases hok
    exact ⟨rfl, rfl, fun _ => rfl⟩

theorem quiet_stop {e : App.Event} (he : e = .stop ∨ e = .close)
    (hhandle : a.handle e = some (.ok a')) : Quiet a a' := by
  obtain ⟨b, hok, hwindow, hpool, hposted⟩ := exists_stopServer he hhandle
  refine (quiet_stopServer hok).trans ⟨?_, ?_, fun i => ?_⟩
  · unfold App.heard App.shown App.waiting
    rw [hwindow, hposted]
  · rw [App.outputs, hpool, App.outputs]
  · rw [App.gone, hpool, App.gone]

/-- A line comes from those on their way to those in the window. -/
theorem heard_append {p : Posted} {posted : List Posted} (hposted : a.posted = p :: posted)
    {source : Source} {x : Signal} (hsource : source.isWindow = false)
    (hp : p.lineOf = some (source, html x)) :
    (App.append source x { a with posted := posted }).heard = a.heard := by
  unfold App.heard App.shown App.waiting App.append
  dsimp only
  rw [hposted, List.filterMap_cons_some hp, List.filter_append,
    List.filter_cons_of_pos (by rw [hsource]; rfl), List.map_append, List.append_assoc]
  rfl

theorem quiet_deliver {p : Posted} {posted : List Posted} (hposted : a.posted = p :: posted)
    (hok : App.deliver { a with posted := posted } p = .ok a') : Quiet a a' := by
  cases p with
  | line id x =>
    cases hok
    exact ⟨heard_append hposted rfl rfl, rfl, fun _ => rfl⟩
  | relayed id thread x =>
    cases hok
    exact ⟨heard_append hposted rfl rfl, rfl, fun _ => rfl⟩
  | threadDone id =>
    have hheard : Quiet a { a with posted := posted } := by
      refine ⟨?_, rfl, fun _ => rfl⟩
      unfold App.heard App.waiting
      rw [hposted]
      rfl
    exact hheard.trans (quiet_serverDone hok)

/-- A server that is not over says more. -/
theorem logStep_speaks (hconsistent : Consistent a) {e : App.Event} {task : Task}
    (htask : a.pool[id]? = some task) (hover : task.stage.over = false) {server : Server}
    (new : List Signal) {posted : List Posted}
    (hposted : posted.filterMap Posted.lineOf = new.map fun x => (.server id, html x))
    (houtput : Task.output { task with stage := .running server } = task.output ++ new)
    (he : ∀ i, e.saidOf i = none) :
    LogStep a e { a.setStage id (.running server) with posted := a.posted ++ posted } := by
  refine .speaks id new ?_ ?_ (fun i => ?_) he
  · show a.shown ++ (a.posted ++ posted).filterMap Posted.lineOf = _
    rw [List.filterMap_append, hposted, ← List.append_assoc]
    rfl
  · exact linesOf_setStage htask (hconsistent.last htask hover) new houtput
  · show (a.setStage id (.running server)).gone i = _
    rw [App.gone_setStage htask]
    split_ifs with hi
    · subst hi
      rw [App.gone, htask]
      exact (Stage.gone_of_not_over hover).symm
    · rfl

/-- What each event does. -/
theorem log_step {e : App.Event} (hconsistent : Consistent a) (hstep : a.step e = some a') :
    LogStep a e a' := by
  have hhandle := handle_of_step hstep
  cases e with
  | launch =>
    unfold App.handle at hhandle
    dsimp only at hhandle
    split_ifs at hhandle
    exact .of_quiet (quiet_launchServer (Option.some.inj hhandle)) fun _ => rfl
  | stop => exact .of_quiet (quiet_stop (Or.inl rfl) hhandle) fun _ => rfl
  | edit e =>
    unfold App.handle at hhandle
    dsimp only at hhandle
    split_ifs at hhandle
    cases hhandle
    exact .of_quiet ⟨rfl, rfl, fun _ => rfl⟩ fun _ => rfl
  | close => exact .of_quiet (quiet_stop (Or.inr rfl) hhandle) fun _ => rfl
  | deliver =>
    unfold App.handle at hhandle
    dsimp only at hhandle
    split at hhandle
    · rename_i p posted hclosed hposted
      exact .of_quiet (quiet_deliver hposted (Option.some.inj hhandle)) fun _ => rfl
    · cases hhandle
  | begin id openError =>
    obtain ⟨⟨settings, stage⟩, htask, hbegin⟩ := Option.bind_eq_some_iff.mp hhandle
    cases stage with
    | queued mShouldCancel =>
      cases hbegin
      refine logStep_speaks hconsistent htask rfl (.log (startupText settings) ::
        (App.beginServer mShouldCancel openError).thread.signals) ?_ rfl fun _ => rfl
      rw [List.filterMap_cons, lineOf_emitted]
      rfl
    | running server => cases hbegin
    | ended server => cases hbegin
    | deleted server => cases hbegin
  | serve id e =>
    obtain ⟨⟨settings, stage⟩, htask, hserve⟩ := Option.bind_eq_some_iff.mp hhandle
    cases stage with
    | running server =>
      dsimp only at hserve
      split_ifs at hserve with hcancel
      obtain ⟨server', hserver, hok⟩ := Option.map_eq_some_iff.mp hserve
      split_ifs at hok with hundef
      cases hok
      obtain ⟨new, hnew⟩ := Comms.signals_step hserver
      refine logStep_speaks hconsistent htask rfl new ?_ ?_ fun _ => rfl
      · rw [lineOf_emitted, ← hnew, List.drop_left]
      · show _ :: server'.thread.signals = _ :: (server.thread.signals ++ new)
        rw [hnew]
    | queued mShouldCancel => cases hserve
    | ended server => cases hserve
    | deleted server => cases hserve
  | relay id thread x =>
    rcases relay_cases hhandle with ⟨hgone, hok⟩ | ⟨hgone, hok⟩
    · cases hok
      refine .relays id thread x rfl hgone ?_ rfl fun _ => rfl
      show a.shown ++ (a.posted ++ [_]).filterMap Posted.lineOf = _
      rw [List.filterMap_append, ← List.append_assoc]
      rfl
    · cases hok
      exact .unheard id thread x rfl hgone rfl
  | finish id =>
    obtain ⟨⟨settings, stage⟩, htask, hfinish⟩ := Option.bind_eq_some_iff.mp hhandle
    cases stage with
    | running server =>
      dsimp only at hfinish
      split_ifs at hfinish
      cases hfinish
      have hended : Quiet a (a.setStage id (.ended server)) := quiet_setStage htask rfl rfl
      refine .of_quiet ⟨?_, hended.outputs, hended.gone⟩ fun _ => rfl
      show a.shown ++ (a.posted ++ [_]).filterMap Posted.lineOf = _
      rw [List.filterMap_append]
      exact congrArg _ (List.append_nil _)
    | queued mShouldCancel => cases hfinish
    | ended server => cases hfinish
    | deleted server => cases hfinish
  | delete id =>
    obtain ⟨⟨settings, stage⟩, htask, hdelete⟩ := Option.bind_eq_some_iff.mp hhandle
    cases stage with
    | ended server =>
      cases hdelete
      exact .deletes id rfl rfl (congrArg linesOf (outputs_setStage htask rfl))
        (App.gone_setStage htask (.deleted server)) fun _ => rfl
    | queued mShouldCancel => cases hdelete
    | running server => cases hdelete
    | deleted server => cases hdelete

end Steps

/-! ## The accounts -/

/-- The lines of the servers are all heard, and so are those of the secondary threads of a server
that was not deleted. -/
structure Recorded (events : List App.Event) (a : App) : Prop where
  servers : a.heard.filterMap ofServer = linesOf a.outputs
  kept : ∀ id, a.heard.filterMap (ofSecondary id) <+: said id events
  complete : ∀ id, a.gone id = false → a.heard.filterMap (ofSecondary id) = said id events

theorem ofServer_lines (id : ℕ) (new : List Signal) :
    (new.map fun x => (Source.server id, html x)).filterMap ofServer =
      new.map fun x => (id, html x) := by
  rw [List.filterMap_map]
  exact congrFun List.filterMap_eq_map _

theorem ofSecondary_lines (id i : ℕ) (new : List Signal) :
    (new.map fun x => (Source.server id, html x)).filterMap (ofSecondary i) = [] := by
  rw [List.filterMap_map, List.filterMap_eq_nil_iff]
  exact fun _ _ => rfl

/-- The lines that servers have posted do not go with the object of one. -/
theorem ofServer_dropped (id : ℕ) (posted : List Posted) :
    ((posted.filter fun p => !p.isFor id).filterMap Posted.lineOf).filterMap ofServer =
      (posted.filterMap Posted.lineOf).filterMap ofServer := by
  rw [List.filterMap_filterMap, List.filterMap_filterMap, List.filterMap_filter]
  refine List.filterMap_congr fun p _ => ?_
  cases p with
  | line id' x => rfl
  | relayed id' thread x => simp [Posted.lineOf, ofServer]
  | threadDone id' => rfl

/-- Those of its secondary threads do, and no others. -/
theorem ofSecondary_dropped (id i : ℕ) (posted : List Posted) :
    ((posted.filter fun p => !p.isFor id).filterMap Posted.lineOf).filterMap (ofSecondary i) =
      if id = i then [] else (posted.filterMap Posted.lineOf).filterMap (ofSecondary i) := by
  rw [List.filterMap_filterMap, List.filterMap_filterMap, List.filterMap_filter]
  split_ifs with hi
  · rw [List.filterMap_eq_nil_iff]
    intro p _
    cases p with
    | line id' x => rfl
    | relayed id' thread x =>
      by_cases hid : id' = i <;> simp [Posted.isFor, Posted.lineOf, ofSecondary, hi, hid]
    | threadDone id' => rfl
  · refine List.filterMap_congr fun p _ => ?_
    cases p with
    | line id' x => rfl
    | relayed id' thread x =>
      by_cases hid : id' = id
      · simp [Posted.isFor, Posted.lineOf, ofSecondary, hid, hi]
      · simp [Posted.isFor, hid]
    | threadDone id' => rfl

theorem said_concat (id : ℕ) (events : List App.Event) (e : App.Event) :
    said id (events ++ [e]) = said id events ++ (e.saidOf id).toList := by
  unfold said
  rw [List.filterMap_append]
  cases he : e.saidOf id with
  | none => rw [List.filterMap_cons_none he]; rfl
  | some line => rw [List.filterMap_cons_some he]; rfl

section Accounts

variable {events : List App.Event} {a a' : App} {e : App.Event}

theorem Recorded.quiet (h : Recorded events a) (hquiet : Quiet a a') : Recorded events a' := by
  refine ⟨?_, fun i => ?_, fun i hi => ?_⟩
  · rw [hquiet.heard, h.servers, hquiet.outputs]
  · rw [hquiet.heard]
    exact h.kept i
  · rw [hquiet.heard]
    exact h.complete i ((hquiet.gone i).symm.trans hi)

theorem Recorded.step (h : Recorded events a) (hstep : LogStep a e a') :
    Recorded (events ++ [e]) a' := by
  cases hstep with
  | speaks id new heard outputs gone hsaid =>
    have hrelayed (i : ℕ) : a'.heard.filterMap (ofSecondary i) =
        a.heard.filterMap (ofSecondary i) := by
      rw [heard, List.filterMap_append, ofSecondary_lines, List.append_nil]
    have hevents (i : ℕ) : said i (events ++ [e]) = said i events := by
      rw [said_concat, hsaid i]
      exact List.append_nil _
    refine ⟨?_, fun i => ?_, fun i hi => ?_⟩
    · rw [heard, List.filterMap_append, h.servers, ofServer_lines, outputs]
    · rw [hrelayed, hevents]
      exact h.kept i
    · rw [hrelayed, hevents]
      exact h.complete i ((gone i).symm.trans hi)
  | relays id thread x he hgone heard outputs gone =>
    subst he
    have hrelayed (i : ℕ) : a'.heard.filterMap (ofSecondary i) =
        a.heard.filterMap (ofSecondary i) ++
          (App.Event.saidOf i (.relay id thread x)).toList := by
      rw [heard, List.filterMap_append]
      by_cases hi : id = i <;> simp [ofSecondary, App.Event.saidOf, hi]
    refine ⟨?_, fun i => ?_, fun i hi => ?_⟩
    · rw [heard, List.filterMap_append, h.servers, outputs]
      simp [ofServer]
    · rw [hrelayed, said_concat]
      by_cases hi : id = i
      · subst hi
        simp only [h.complete id hgone, List.prefix_rfl]
      · simp only [App.Event.saidOf, if_neg hi, Option.toList_none, List.append_nil]
        exact h.kept i
    · rw [hrelayed, said_concat, h.complete i ((gone i).symm.trans hi)]
  | unheard id thread x he hgone ha =>
    subst he ha
    refine ⟨h.servers, fun i => ?_, fun i hi => ?_⟩
    · rw [said_concat]
      exact (h.kept i).trans (List.prefix_append _ _)
    · have hne : id ≠ i := by
        rintro rfl
        cases hgone.symm.trans hi
      rw [said_concat, App.Event.saidOf, if_neg hne, h.complete i hi]
      exact (List.append_nil _).symm
  | deletes id shown waiting outputs gone hsaid =>
    have hrelayed (i : ℕ) : a'.heard.filterMap (ofSecondary i) =
        a.shown.filterMap (ofSecondary i) ++
          if id = i then [] else a.waiting.filterMap (ofSecondary i) := by
      rw [App.heard, shown, waiting, List.filterMap_append, ofSecondary_dropped]
      rfl
    have hevents (i : ℕ) : said i (events ++ [e]) = said i events := by
      rw [said_concat, hsaid i]
      exact List.append_nil _
    refine ⟨?_, fun i => ?_, fun i hi => ?_⟩
    · rw [App.heard, shown, waiting, List.filterMap_append, ofServer_dropped, outputs,
        ← h.servers, App.heard, List.filterMap_append]
      rfl
    · rw [hrelayed, hevents]
      refine List.IsPrefix.trans ?_ (h.kept i)
      rw [App.heard, List.filterMap_append]
      split_ifs
      · rw [List.append_nil]
        exact List.prefix_append _ _
      · exact List.prefix_rfl
    · rw [gone i] at hi
      split_ifs at hi with hid
      rw [hrelayed, if_neg hid, hevents, ← h.complete i hi, App.heard, List.filterMap_append]

end Accounts

/-- **The log is complete and in order.** In every state that the program reaches, the lines in the
log window, followed by those on their way to it, are: of the servers, all that they have said, one
server after the other in the order of their launches, and each line once, in the order in which the
server emitted it; of the secondary threads of a server, those that they have said first, in order,
and all of them as long as the object of the server was not deleted. -/
theorem log_in_order (autostart : Bool) (host_ip : String) :
    ∃ a₀, App.start autostart host_ip = .ok a₀ ∧
      ∀ events a, Runs.run App.step a₀ events = some a →
        (a.shown ++ a.waiting).filterMap ofServer = linesOf (a.pool.map Task.output) ∧
        ∀ id, (a.shown ++ a.waiting).filterMap (ofSecondary id) <+: said id events ∧
          (a.gone id = false →
            (a.shown ++ a.waiting).filterMap (ofSecondary id) = said id events) := by
  obtain ⟨a₀, hstart, h₀⟩ := consistent_start autostart host_ip
  refine ⟨a₀, hstart, fun events a hrun => ?_⟩
  have hinitial :
      Recorded [] { window := { mSettingsPanel := { mHostIpSettingEdit := host_ip } } } :=
    ⟨rfl, fun _ => List.prefix_rfl, fun _ _ => rfl⟩
  have hrecorded : Recorded [] a₀ := by
    cases autostart with
    | false =>
      cases hstart
      exact hinitial
    | true =>
      have hlaunch : App.launchServer
          { window := { mSettingsPanel := { mHostIpSettingEdit := host_ip } } } = .ok a₀ := hstart
      exact hinitial.quiet (quiet_launchServer hlaunch)
  have h := Runs.inv_of_run_after (H := fun before a => Consistent a ∧ Recorded before a)
    (fun before a e a' h hs => ⟨Consistent.step a e a' h.1 hs, h.2.step (log_step h.1 hs)⟩)
    ⟨h₀, hrecorded⟩ hrun
  exact ⟨h.2.servers, fun id => ⟨h.2.kept id, h.2.complete id⟩⟩

/-- The histogram thread of the server speaks, and its line waits behind the first one. -/
theorem log_in_order_relayed :
    ∃ a₀ a, App.start true "127.0.0.1" = .ok a₀ ∧
      Runs.run App.step a₀ [.begin 0 none, .relay 0 1 (.log "Setting output period to 500"),
        .deliver] = some a ∧
      (a.shown ++ a.waiting).filterMap ofServer = linesOf (a.pool.map Task.output) ∧
      (a.shown ++ a.waiting).filterMap (ofSecondary 0) =
        [(1, "<b>Log:</b> Setting output period to 500")] := by
  obtain ⟨a₀, hstart, h⟩ := log_in_order true "127.0.0.1"
  have ha₀ : a₀ = _ := Outcome.ok.inj (hstart.symm.trans rfl)
  subst ha₀
  obtain ⟨hservers, hsecondary⟩ := h
    [.begin 0 none, .relay 0 1 (.log "Setting output period to 500"), .deliver] _ rfl
  exact ⟨_, _, rfl, rfl, hservers, (hsecondary 0).2 rfl⟩

end TpxServer.Ui
