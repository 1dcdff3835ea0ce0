import TpxServer.Comms.Replies

/-!
# Connecting the input sockets

`SET_CLUSTER_INPUT_SERVER` and `SET_HISTOGRAM_INPUT_SERVER` close the input socket of the manager
and connect a new one. What ZeroMQ throws on the way is caught in the manager, which warns, so that
the handler of the command never comes to its own reply of `ERROR_OCCURED`. It echoes the command
however the attempt ends (`setInputServer_echoes`).

The reply is therefore true exactly if there was nothing to connect or the attempt succeeds.
-/

namespace TpxServer.Comms

open SecondaryThread

variable {μ : Type*}

/-! ## The input socket -/

/-- The manager takes its packets from the path, and from nowhere for the empty path. -/
def Subscriber.ConnectedTo (path : String) (m : Subscriber μ) : Prop :=
  m.socket = if path = "" then none else some { subscribed := true, connected := some path }

/-- There is nothing to connect, or nothing fails. -/
def Connectable (env : Surroundings) (path : String) : Prop := path = "" ∨ ZmqSucceeds env

/-- The socket that an attempt to connect leaves behind. -/
def inputSocket (env : Surroundings) (path : String) : Option SubSocket :=
  if path = "" then none
  else
    match env.createError, env.subscribeError, env.connectError with
    | some _, _, _ => none
    | none, some _, _ => some {}
    | none, none, some _ => some { subscribed := true }
    | none, none, none => some { subscribed := true, connected := some path }

/-- The new socket is set up whatever the old one was, and no exception leaves the manager. -/
theorem setInputAddress_eq (connected unable : String) (env : Surroundings) (path : String)
    (t : SecondaryThread (Subscriber μ)) :
    ∃ signals, setInputAddress connected unable env path t =
      .ok { t.withSocket (inputSocket env path) with signals := signals } := by
  unfold setInputAddress inputSocket
  by_cases hpath : path = ""
  · rw [if_pos hpath, if_pos hpath]
    exact ⟨_, rfl⟩
  rw [if_neg hpath, if_neg hpath]
  -- the cases are the calls that can be the first to fail
  cases env.createError with
  | some e => exact ⟨_, rfl⟩
  | none =>
    cases env.subscribeError with
    | some e => exact ⟨_, rfl⟩
    | none =>
      cases env.connectError with
      | some e => exact ⟨_, rfl⟩
      | none => exact ⟨_, rfl⟩

/-- A socket that is not connected is left as soon as one of the three calls fails. -/
theorem connectedTo_inputSocket (env : Surroundings) (path : String) (m : Subscriber μ)
    (hm : m.socket = inputSocket env path) : m.ConnectedTo path ↔ Connectable env path := by
  unfold Subscriber.ConnectedTo Connectable
  rw [hm]
  unfold inputSocket
  by_cases hpath : path = ""
  · rw [if_pos hpath, if_pos hpath]
    exact iff_of_true rfl (Or.inl hpath)
  rw [if_neg hpath, if_neg hpath, or_iff_right hpath]
  constructor
  · intro hsocket
    cases hcreate : env.createError with
    | some e => simp [hcreate] at hsocket
    | none =>
      cases hsubscribe : env.subscribeError with
      | some e => simp [hcreate, hsubscribe] at hsocket
      | none =>
        cases hconnect : env.connectError with
        | some e => simp [hcreate, hsubscribe, hconnect] at hsocket
        | none => exact ⟨hcreate, hsubscribe, hconnect⟩
  · rintro ⟨hcreate, hsubscribe, hconnect⟩
    simp [hcreate, hsubscribe, hconnect]

/-! ## The reply -/

/-- The call sends one reply. The reply echoes the command exactly if the manager ends up connected
to the path in the payload, and is `ERROR_OCCURED` otherwise. -/
def ReportsTruthfully (code : ServerCommand) (data : DataVec)
    (t : SecondaryThread (Subscriber μ)) (o : ThreadResult (Subscriber μ)) : Prop :=
  ∃ t' reply, o = .ok t' ∧ t'.mCommandSocket = t.mCommandSocket.send reply ∧
    (reply = wordsToBytes (code.code :: data) ↔
      t'.manager.ConnectedTo (pathString (pathOf data))) ∧
    (¬ t'.manager.ConnectedTo (pathString (pathOf data)) →
      reply = wordsToBytes [ServerCommand.ERROR_OCCURED.code])

section Reply

variable {code : ServerCommand} {t : SecondaryThread (Subscriber μ)}

/-- **The echo.** However the attempt ends, the command is echoed. -/
theorem setInputServer_echoes (h : Handling t code) (connected unable failed : String)
    (env : Surroundings) (data : DataVec) :
    ∃ t', setInputServer connected unable failed env data t = .ok t' ∧
      t'.mCommandSocket = t.mCommandSocket.send (wordsToBytes (code.code :: data)) ∧
      t'.manager.socket = inputSocket env (pathString (pathOf data)) := by
  obtain ⟨signals, haddr⟩ :=
    setInputAddress_eq connected unable env (pathString (pathOf data)) t
  have h' : Handling
      { t.withSocket (inputSocket env (pathString (pathOf data))) with signals := signals } code :=
    ⟨h.isOpen, h.owed, h.last⟩
  unfold setInputServer
  dsimp only
  rw [haddr, Outcome.ok_andThen, h'.sendResponse_eq data, Outcome.ok_catching]
  exact ⟨_, rfl, rfl, rfl⟩

/-- The echo is a true report exactly if the manager could be connected. -/
theorem setInputServer_truthful_iff (h : Handling t code) (connected unable failed : String)
    (env : Surroundings) (data : DataVec) :
    ReportsTruthfully code data t (setInputServer connected unable failed env data t) ↔
      Connectable env (pathString (pathOf data)) := by
  obtain ⟨t', hok, hsocket, hinput⟩ :=
    setInputServer_echoes h connected unable failed env data
  have hconnected := connectedTo_inputSocket env (pathString (pathOf data)) t'.manager hinput
  rw [hok, ← hconnected]
  constructor
  · rintro ⟨t'', reply, ht'', hsocket', hecho, -⟩
    cases ht''
    exact hecho.mp (RepSocket.send_injective (hsocket'.symm.trans hsocket))
  · intro hpath
    exact ⟨t', _, rfl, hsocket, iff_of_true rfl hpath, fun hnot => absurd hpath hnot⟩

end Reply

/-- **Input servers.** For every payload, previous socket and failing call, the replies to the two
commands are true exactly if the path is empty or no call fails. -/
theorem inputServer_truthful_iff (env : Surroundings) (data : DataVec) :
    (∀ t : ClusterThread, Handling t .SET_CLUSTER_INPUT_SERVER →
      (ReportsTruthfully .SET_CLUSTER_INPUT_SERVER data t
          (ClusterThread.setClusterInputServer env data t) ↔
        Connectable env (pathString (pathOf data)))) ∧
    (∀ t : HistogramThread, Handling t .SET_HISTOGRAM_INPUT_SERVER →
      (ReportsTruthfully .SET_HISTOGRAM_INPUT_SERVER data t
          (HistogramThread.setHistogramInputServer env data t) ↔
        Connectable env (pathString (pathOf data)))) := by
  constructor
  · intro t h
    exact setInputServer_truthful_iff h _ _ _ env data
  · intro t h
    exact setInputServer_truthful_iff h _ _ _ env data

/-- A thread that handles a request, with a manager that is connected elsewhere. -/
def subscribedThread (code : ServerCommand) (manager : μ) : SecondaryThread (Subscriber μ) where
  mLastCommand := code
  mCommandSocket := { replyOwed := true, received := [wordsToBytes [code.code]] }
  manager := { manager, socket := some { subscribed := true, connected := some "tcp://old:81" } }

/-- The histogram manager leaves its server for another one. -/
theorem inputServer_truthful_iff_moved :
    ReportsTruthfully .SET_HISTOGRAM_INPUT_SERVER (packText (textBytes "tcp://new:82"))
      (subscribedThread .SET_HISTOGRAM_INPUT_SERVER { mLastOutputTime := 0 })
      (HistogramThread.setHistogramInputServer quietSurroundings
        (packText (textBytes "tcp://new:82"))
        (subscribedThread .SET_HISTOGRAM_INPUT_SERVER { mLastOutputTime := 0 })) :=
  ((inputServer_truthful_iff quietSurroundings (packText (textBytes "tcp://new:82"))).2 _
    ⟨rfl, rfl, rfl⟩).mpr (Or.inr ⟨rfl, rfl, rfl⟩)

/-- ZeroMQ refuses to connect "x". The command is echoed, and the old server is lost. -/
theorem refused_path_echoed :
    ¬ ReportsTruthfully .SET_CLUSTER_INPUT_SERVER [0x78]
      (subscribedThread .SET_CLUSTER_INPUT_SERVER {})
      (ClusterThread.setClusterInputServer
        { quietSurroundings with connectError := some (.error_t 22 "Invalid argument") } [0x78]
        (subscribedThread .SET_CLUSTER_INPUT_SERVER {})) := by
  intro htruthful
  have hhandling : Handling (subscribedThread .SET_CLUSTER_INPUT_SERVER
    ({} : Clustering.ClusteringManager)) .SET_CLUSTER_INPUT_SERVER := ⟨rfl, rfl, rfl⟩
  rcases (setInputServer_truthful_iff hhandling _ _ _ _ _).mp htruthful with hpath | hzmq
  · exact absurd hpath (by decide)
  · exact nomatch hzmq.connect

end TpxServer.Comms
