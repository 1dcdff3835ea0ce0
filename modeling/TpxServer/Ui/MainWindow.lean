import TpxServer.Comms.Loop
import TpxServer.Ui.Panels

/-!
# The main window and its servers

The window starts a `CommsThread` in the thread pool and hears of its end by the signal
`threadDone`. The signals of a thread are delivered by the event loop of the window, in the order in
which they were emitted; the pool deletes the object of a thread some time after it has ended, maybe
before the window hears of the end.

The secondary threads are connected to the `CommsThread` by `connectThread`. What they say is posted
to its object, which emits it anew in the event loop; with the object, what was posted to it goes.
-/

namespace TpxServer.Ui

open Comms (Server OpenError)

/-! ## The servers -/

/-- The object of a `CommsThread`. -/
inductive Stage where
  /-- It waits in the pool; `mShouldCancel` may be set already. -/
  | queued (mShouldCancel : Bool)
  | running (server : Server)
  /-- `execute` has returned and `threadDone` was emitted. -/
  | ended (server : Server)
  /-- The pool has deleted the object. -/
  | deleted (server : Server)
  deriving Repr, DecidableEq

/-- `cancel` on the object, as long as it is there. -/
def Stage.cancel : Stage → Option Stage
  | .queued _ => some (.queued true)
  | .running server => some (.running { server with thread := server.thread.cancel })
  | .ended server => some (.ended { server with thread := server.thread.cancel })
  | .deleted _ => none

structure Task where
  settings : CommsSettings
  stage : Stage := .queued false
  deriving Repr, DecidableEq

/-- The first line in the log. -/
def startupText (settings : CommsSettings) : String :=
  "Timepix server has started" ++
    "<br>Host: " ++ settings.host_ip ++ ":" ++ toString settings.host_port ++
    "<br>Timepix: " ++ settings.timepix_ip ++ ":" ++ toString settings.timepix_port ++
    "<br>Outgoing data: tcp://localhost:" ++ toString settings.outgoing_port

/-- The slots that the event loop of the window is to call; servers and their secondary threads are
known by their numbers. -/
inductive Posted where
  | line (id : ℕ) (x : Signal)
  /-- A line of a secondary thread, for the object of its server. -/
  | relayed (id thread : ℕ) (x : Signal)
  | threadDone (id : ℕ)
  deriving Repr, DecidableEq

/-- It is posted to the object of the server. -/
def Posted.isFor (id : ℕ) : Posted → Bool
  | .relayed id' _ _ => id' = id
  | _ => false

/-! ## The window -/

/-- The buttons are given by whether they are enabled. -/
structure MainWindow where
  mSettingsPanel : SettingsPanel
  mStatusPanel : StatusPanel := setServerRunning false
  mLogWindow : List LogLine := []
  mLaunchServerButton : Bool := true
  mStopServerButton : Bool := false
  mActiveThread : Option ℕ := none
  mManuallyCancelled : Bool := false
  deriving Repr, DecidableEq

/-- `pool` has all servers that were started, by their numbers. -/
structure App where
  window : MainWindow
  pool : List Task := []
  posted : List Posted := []
  closed : Bool := false
  deriving Repr, DecidableEq

/-- The exceptions that leave a slot. -/
inductive Failure where
  | runtime_error (what : String)
  /-- `std::stoul` throws. -/
  | conversion
  deriving Repr, DecidableEq

namespace App

/-- `logger::log`. -/
def log (msg : String) (a : App) : App :=
  { a with
    window := { a.window with
      mLogWindow := a.window.mLogWindow ++ [{ source := .window, html := html (.log msg) }] } }

/-- The first statements of `launchServer`. -/
def showLaunched (a : App) : App :=
  log "Starting server..."
    { a with
      window := { a.window with
        mManuallyCancelled := false
        mSettingsPanel := a.window.mSettingsPanel.setEnabled false
        mLaunchServerButton := false
        mStopServerButton := true
        mStatusPanel := setServerRunning true } }

/-- `new CommsThread`, which is handed to the pool. -/
def startTask (settings : CommsSettings) (a : App) : App :=
  { a with
    window := { a.window with mActiveThread := some a.pool.length }
    pool := a.pool ++ [{ settings := settings }] }

def launchServer (a : App) : Outcome Failure App :=
  let a := a.showLaunched
  if a.window.mActiveThread.isSome then
    .throws (.runtime_error "Attempted to start a new server thread while one already exists") a
  else
    match a.window.mSettingsPanel.getSettings with
    | none => .throws .conversion a
    | some settings => .ok (a.startTask settings)

def setStage (id : ℕ) (stage : Stage) (a : App) : App :=
  { a with pool := a.pool.modify id fun task => { task with stage := stage } }

/-- `cancel` on the pointer to a server. -/
def cancelTask (id : ℕ) (a : App) : Outcome Failure App :=
  match (a.pool[id]?).bind (·.stage.cancel) with
  | none => .undefined
  | some stage => .ok (a.setStage id stage)

def stopServer (a : App) : Outcome Failure App :=
  let a := log "Stopping server..." a
  let a := { a with window := { a.window with mManuallyCancelled := true } }
  match a.window.mActiveThread with
  | none => .ok a
  | some id => a.cancelTask id

/-- The first statements of `serverDone`. -/
def showDone (a : App) : App :=
  { a with
    window := { a.window with
      mSettingsPanel := a.window.mSettingsPanel.setEnabled true
      mLaunchServerButton := true
      mStopServerButton := false
      mActiveThread := none
      mStatusPanel := setServerRunning false } }

def serverDone (a : App) : Outcome Failure App :=
  let a := a.showDone
  if a.window.mManuallyCancelled = false ∧ a.window.mSettingsPanel.autoRestartChecked then
    (log "Restarting server..." a).launchServer
  else .ok a

def closeEvent (a : App) : Outcome Failure App :=
  a.stopServer.andThen fun a => .ok { a with closed := true }

/-! ## The machine -/

inductive Event where
  /-- The button "Launch Server" is clicked. -/
  | launch
  /-- The button "Stop Server" is clicked. -/
  | stop
  | edit (e : Edit)
  /-- The window is closed. -/
  | close
  /-- The event loop calls the next slot. -/
  | deliver
  /-- The pool runs a server. -/
  | begin (id : ℕ) (openError : Option OpenError)
  /-- The server takes a step. -/
  | serve (id : ℕ) (e : Comms.Event)
  /-- A secondary thread of the server says something. -/
  | relay (id thread : ℕ) (x : Signal)
  /-- `execute` has returned. -/
  | finish (id : ℕ)
  /-- The pool deletes the object. -/
  | delete (id : ℕ)
  deriving Repr, DecidableEq

/-- The signals that a server has emitted beyond those of `before`. -/
def emitted (id : ℕ) (before : List Signal) (server : Server) : List Posted :=
  (server.thread.signals.drop before.length).map (.line id)

/-- A server that was cancelled in the queue starts all the same. -/
def beginServer (mShouldCancel : Bool) (openError : Option OpenError) : Server :=
  let server := Server.start openError
  if mShouldCancel then { server with thread := server.thread.cancel } else server

/-- The slots of `LogWindow`. -/
def append (source : Source) (x : Signal) (a : App) : App :=
  { a with
    window := { a.window with
      mLogWindow := a.window.mLogWindow ++ [{ source := source, html := html x }] } }

def deliver (a : App) : Posted → Outcome Failure App
  | .line id x => .ok (a.append (.server id) x)
  | .relayed id thread x => .ok (a.append (.secondary id thread) x)
  | .threadDone _ => a.serverDone

/-- What an event does, if it can happen. -/
def handle (a : App) : Event → Option (Outcome Failure App)
  | .launch =>
    if a.closed = false ∧ a.window.mLaunchServerButton then some a.launchServer else none
  | .stop => if a.closed = false ∧ a.window.mStopServerButton then some a.stopServer else none
  | .edit e =>
    if a.closed = false ∧ a.window.mSettingsPanel.enabled then
      some (.ok { a with
        window := { a.window with mSettingsPanel := a.window.mSettingsPanel.edit e } })
    else none
  | .close => if a.closed = false then some a.closeEvent else none
  | .deliver =>
    match a.closed, a.posted with
    | false, p :: posted => some (deliver { a with posted := posted } p)
    | _, _ => none
  | .begin id openError =>
    (a.pool[id]?).bind fun task =>
      match task.stage with
      | .queued mShouldCancel =>
        let server := beginServer mShouldCancel openError
        let a := a.setStage id (.running server)
        some (.ok { a with
          posted := a.posted ++ .line id (.log (startupText task.settings)) ::
            emitted id [] server })
      | _ => none
  | .serve id e =>
    (a.pool[id]?).bind fun task =>
      match task.stage with
      | .running server =>
        -- only the window cancels a server
        if e = .cancel then none
        else
          (server.step e).map fun server' =>
            if server'.phase = .undefined then .undefined
            else
              let a := a.setStage id (.running server')
              .ok { a with posted := a.posted ++ emitted id server.thread.signals server' }
      | _ => none
  | .relay id thread x =>
    (a.pool[id]?).bind fun task =>
      match task.stage with
      | .queued _ => none
      | .running server =>
        if thread < server.thread.threads.started then
          some (.ok { a with posted := a.posted ++ [.relayed id thread x] })
        else none
      | .ended server =>
        if thread < server.thread.threads.started then
          some (.ok { a with posted := a.posted ++ [.relayed id thread x] })
        else none
      -- nobody is connected any more
      | .deleted server =>
        if thread < server.thread.threads.started then some (.ok a) else none
  | .finish id =>
    (a.pool[id]?).bind fun task =>
      match task.stage with
      | .running server =>
        if server.phase = .stopped then
          let a := a.setStage id (.ended server)
          some (.ok { a with posted := a.posted ++ [.threadDone id] })
        else none
      | _ => none
  | .delete id =>
    (a.pool[id]?).bind fun task =>
      match task.stage with
      | .ended server =>
        let a := a.setStage id (.deleted server)
        some (.ok { a with posted := a.posted.filter fun p => !p.isFor id })
      | _ => none

/-- The program goes on after an event that does not end it. -/
def step (a : App) (e : Event) : Option App :=
  match a.handle e with
  | some (.ok a') => some a'
  | _ => none

/-- The constructor of `MainWindow`, for a computer with the given address. -/
def start (autostart : Bool) (host_ip : String) : Outcome Failure App :=
  let a : App := { window := { mSettingsPanel := { mHostIpSettingEdit := host_ip } } }
  if autostart then a.launchServer else .ok a

end App

end TpxServer.Ui
