import TpxServer.Measuring.Threads

/-!
# The threads refine the measuring path

A handler does to its manager what one event of the measuring path does, or nothing
(`udp_handleCommand`, `cluster_handleCommand`, `histogram_handleCommand`). So does a turn of a loop,
wherever an exception ends it (`commands_manager`), and a run of the threads is a run of the
measuring path (`abs_run`).
-/

namespace TpxServer.Measuring

open Comms (SecondaryThread ServerCommand Surroundings ThreadResult UdpThread ClusterThread
  HistogramThread SubSocket pathString pathOf inputSocket)
open Comms.SecondaryThread
open Clustering Udp
open Histogram (HistogramManager messageOf)

/-! ## What a turn of the loop does to the manager -/

section Turn

variable {μ : Type*} {Q : μ → Prop}

theorem sendResponse_manager (data : DataVec) {t : SecondaryThread μ} (h : Q t.manager) :
    (sendResponse data t).All (Q ·.manager) := by
  unfold sendResponse SecondaryThread.send
  cases t.mCommandSocket.sendError with
  | some e => exact h
  | none => exact h

theorem sendError_manager (errcode : ServerCommand) {t : SecondaryThread μ} (h : Q t.manager) :
    (sendError errcode t).All (Q ·.manager) :=
  sendResponse_manager [] h

/-- A handler that finds no payload where none belongs answers with an error. -/
theorem sendServerPath_manager (env : Surroundings) (data : DataVec) {t : SecondaryThread μ}
    (h : Q t.manager) : (sendServerPath env data t).All (Q ·.manager) := by
  unfold sendServerPath
  split_ifs
  · exact sendError_manager _ h
  · exact sendResponse_manager _ h

theorem callManager_manager {f : μ → μ} {reply data : DataVec} {t : SecondaryThread μ}
    (hcall : data = [] → Q (f t.manager)) (hrefused : data ≠ [] → Q t.manager) :
    (callManager f reply data t).All (Q ·.manager) := by
  unfold callManager
  by_cases hdata : data = []
  · rw [if_neg (not_not.mpr (List.length_eq_zero_iff.mpr hdata))]
    exact sendResponse_manager _ (hcall hdata)
  · rw [if_pos fun h => hdata (List.length_eq_zero_iff.mp h)]
    exact sendError_manager _ (hrefused hdata)

theorem setFilePath_manager {setSaveFile : μ → String → Bool → μ × Bool} {output : String}
    {env : Surroundings} {data : DataVec} {t : SecondaryThread μ}
    (h : Q (setSaveFile t.manager (pathString (pathOf data))
      (env.opens (pathString (pathOf data)))).1) :
    (setFilePath setSaveFile output env data t).All (Q ·.manager) := by
  unfold setFilePath
  dsimp only
  split_ifs
  · exact sendResponse_manager data h
  · exact sendError_manager _ h

/-- Whatever fails on the way, the manager is left with its new socket. -/
theorem setInputServer_manager {Q : Comms.Subscriber μ → Prop} {connected unable failed : String}
    {env : Surroundings} {data : DataVec} {t : SecondaryThread (Comms.Subscriber μ)}
    (h : Q { t.manager with socket := inputSocket env (pathString (pathOf data)) }) :
    (setInputServer connected unable failed env data t).All (Q ·.manager) := by
  obtain ⟨signals, haddr⟩ :=
    Comms.setInputAddress_eq connected unable env (pathString (pathOf data)) t
  unfold setInputServer
  dsimp only
  rw [haddr, Outcome.ok_andThen]
  refine Outcome.All.catching (sendResponse_manager data h) ?_
  rintro e handler ⟨⟩ t' ht'
  exact sendError_manager _ ht'

/-- `pollCommands` touches the manager through the handler only. -/
theorem pollCommands_manager
    {handleCommand : ServerCommand → DataVec → SecondaryThread μ → ThreadResult μ}
    {request : Option (List Byte)} {w : Worker μ}
    (hnone : w.handles request = none → Q w.thread.manager)
    (hsome : ∀ c, w.handles request = some c → ∀ t : SecondaryThread μ,
      t.manager = w.thread.manager → (handleCommand c.1 c.2 t).All (Q ·.manager)) :
    (w.thread.pollCommands handleCommand request).All (Q ·.manager) := by
  unfold pollCommands
  refine Outcome.All.catching ?_ ?_
  · unfold Worker.handles at hnone hsome
    cases hrecv : w.thread.mCommandSocket.recvError with
    | some e =>
      rw [if_pos (by rw [hrecv]; exact Option.some_ne_none e)] at hnone
      exact hnone rfl
    | none =>
      rw [if_neg (by simp [hrecv])] at hnone hsome
      cases request with
      | none => exact hnone rfl
      | some msg =>
        dsimp only [Option.bind_some] at hnone hsome ⊢
        by_cases hshort : msg.length < 4
        · rw [if_pos hshort]
          trivial
        rw [if_neg hshort]
        by_cases hsize : msg.length % 2 ^ 32 % 4 ≠ 0
        · rw [if_pos hsize]
          rw [if_pos (Or.inr (Or.inl hsize))] at hnone
          exact hnone rfl
        rw [if_neg hsize]
        by_cases hzero : msg.length % 2 ^ 32 = 0
        · rw [if_pos hzero]
          trivial
        rw [if_neg hzero]
        rw [if_neg (by tauto)] at hsome
        exact hsome _ rfl _ rfl
  · intro e handler he t ht
    cases e with
    | error_t num what =>
      cases he
      exact ht
    | system_error code => cases he
    | std_exception what => cases he

/-- The test of the loop touches neither the manager nor the socket. -/
theorem Worker.test_eq_some {server : String} {w w' : Worker μ} (h : w.test server = some w') :
    w.phase = .head ∧ ∃ signals, w' =
      { phase := if w.thread.mShouldCancel then .ended else .commands
        thread := { w.thread with signals := signals } } := by
  unfold Worker.test at h
  cases hphase : w.phase with
  | head =>
    simp only [hphase] at h
    split_ifs at h with hcancel
    · cases h
      rw [if_pos hcancel]
      exact ⟨rfl, _, rfl⟩
    · cases h
      rw [if_neg hcancel]
      exact ⟨rfl, _, rfl⟩
  | commands => simp [hphase] at h
  | poll => simp [hphase] at h
  | ended => simp [hphase] at h

/-- However a turn ends, it touches the manager through the handler only. -/
theorem commands_manager {server : String}
    {handleCommand : ServerCommand → DataVec → SecondaryThread μ → ThreadResult μ}
    {request : Option (List Byte)} {w w' : Worker μ}
    (hnone : w.handles request = none → Q w.thread.manager)
    (hsome : ∀ c, w.handles request = some c → ∀ t : SecondaryThread μ,
      t.manager = w.thread.manager → (handleCommand c.1 c.2 t).All (Q ·.manager))
    (h : w.commands server handleCommand request = some w') : Q w'.thread.manager := by
  unfold Worker.commands at h
  cases hphase : w.phase with
  | head => simp [hphase] at h
  | poll => simp [hphase] at h
  | ended => simp [hphase] at h
  | commands =>
    simp only [hphase] at h
    have hall : (w.thread.pollCommands handleCommand request).All (Q ·.manager) :=
      pollCommands_manager hnone hsome
    cases hpoll : w.thread.pollCommands handleCommand request with
    | ok t =>
      rw [hpoll] at h hall
      cases h
      exact hall
    | throws e t =>
      rw [hpoll] at h hall
      cases h
      exact hall
    | undefined => simp [hpoll] at h

end Turn

/-! ## The events behind a command -/

section Commands

variable (resolve : String → Option Topic) (env : Surroundings)

def udpEvents (c : ServerCommand × DataVec) : List Event :=
  let path := pathString (pathOf c.2)
  if c.1 = .SET_RAW_TPX3_PATH then [.setRawTpxPath path (env.opens path)]
  else if c.1 = .RESET_TOA_ROLLOVER_COUNTER ∧ c.2 = [] then [.resetToaRolloverCounter]
  else []

def clusterEvents (accepts : Input → Bool) (c : ServerCommand × DataVec) : List Event :=
  let path := pathString (pathOf c.2)
  if c.1 = .SET_CLUSTER_INPUT_SERVER then
    [.connect .clusters (endpoint resolve (inputSocket env path))]
  else if c.1 = .SET_CLUSTER_PARAMETERS then
    match c.2 with
    | max_sep_xy :: max_sep_t :: max_t_sep :: _ =>
      [.setClusterParameters max_sep_xy max_sep_t max_t_sep]
    | _ => []
  else if c.1 = .FLUSH_CLUSTERS ∧ c.2 = [] then [.flush accepts]
  else if c.1 = .SET_CLUSTER_PATH then [.setClusterPath path (env.opens path)]
  else []

def histogramEvents (c : ServerCommand × DataVec) : List Event :=
  let path := pathString (pathOf c.2)
  if c.1 = .SET_HISTOGRAM_INPUT_SERVER then
    [.connect .histogram (endpoint resolve (inputSocket env path))]
  else if c.1 = .SET_HISTOGRAM_OUTPUT_PERIOD then
    match c.2 with
    | [period] => [.setOutputPeriod period]
    | _ => []
  else []

end Commands

/-- The network after a handler of the cluster thread. -/
def clusterNet (resolve : String → Option Topic) (accepts : Input → Bool)
    (handled : Option (ServerCommand × DataVec)) (s : Measurement)
    (m : Comms.Subscriber ClusteringManager) : Network :=
  (reconnect resolve .SET_CLUSTER_INPUT_SERVER .clusters handled m.socket s.net).acts
    ((news s.clusters.published m.manager.published).map fun data =>
      .publish .clusters (messageOf data) accepts)

/-- An event that makes no manager send anything. -/
theorem step_of_silent {s : Measurement} {e : Event}
    (hudp : (s.managers e).udp.published = s.udp.published)
    (hclusters : (s.managers e).clusters.published = s.clusters.published)
    (hhistogram : (s.managers e).histogram.published = s.histogram.published) :
    s.step e = { s.managers e with net := s.net.acts e.atSockets } := by
  have hsent : Measurement.sent s (s.managers e) = [] := by
    unfold Measurement.sent
    rw [hudp, hclusters, hhistogram, news_self, news_self, news_self]
    rfl
  unfold Measurement.step Measurement.actions
  rw [hsent, List.map_nil, List.append_nil]

/-- The cluster manager has sent nothing, and its input socket stays. -/
theorem clusterNet_silent {resolve : String → Option Topic} {accepts : Input → Bool}
    {c : ServerCommand × DataVec} (hc : c.1 ≠ .SET_CLUSTER_INPUT_SERVER) (s : Measurement)
    {m : Comms.Subscriber ClusteringManager} (hm : m.manager.published = s.clusters.published) :
    clusterNet resolve accepts (some c) s m = s.net := by
  unfold clusterNet reconnect
  dsimp only
  rw [if_neg hc, hm, news_self]
  rfl

/-! ## The handlers -/

/-- The UDP manager `m` is what the events make of the one of `s`. -/
def UdpDoes (s : Measurement) (events : List Event) (m : UdpConnectionManager) : Prop :=
  { s with udp := m } = s.run events

/-- So is the cluster manager `m`, together with the network. -/
def ClustersDo (resolve : String → Option Topic) (accepts : Input → Bool)
    (handled : Option (ServerCommand × DataVec)) (s : Measurement) (events : List Event)
    (m : Comms.Subscriber ClusteringManager) : Prop :=
  { s with clusters := m.manager, net := clusterNet resolve accepts handled s m } = s.run events

/-- So is the histogram manager `m`, together with the network. -/
def HistogramDoes (resolve : String → Option Topic)
    (handled : Option (ServerCommand × DataVec)) (s : Measurement) (events : List Event)
    (m : Comms.Subscriber HistogramManager) : Prop :=
  { s with
    histogram := m.manager
    net := reconnect resolve .SET_HISTOGRAM_INPUT_SERVER .histogram handled m.socket s.net } =
  s.run events

section Handlers

variable {resolve : String → Option Topic} {env : Surroundings} {cmd : ServerCommand}
  {data : DataVec} {s : Measurement}

theorem udp_handleCommand {t : UdpThread} (ht : t.manager = s.udp) :
    (UdpThread.handleCommand env cmd data t).All
      (UdpDoes s (udpEvents env (cmd, data)) ·.manager) := by
  have hstay : UdpDoes s [] t.manager := by
    unfold UdpDoes
    rw [ht]
    rfl
  unfold UdpThread.handleCommand udpEvents
  by_cases hpath : cmd = .SET_RAW_TPX3_PATH
  · rw [if_pos hpath, if_pos hpath]
    obtain ⟨file, signals, hfile⟩ := Udp.setSaveFile_frame s.udp (pathString (pathOf data))
      (env.opens (pathString (pathOf data)))
    have hstep : s.step (.setRawTpxPath (pathString (pathOf data))
        (env.opens (pathString (pathOf data)))) = _ :=
      step_of_silent (by
        show (s.udp.setSaveFile _ _).1.published = _
        rw [hfile]) rfl rfl
    refine setFilePath_manager ?_
    rw [ht]
    exact hstep.symm
  rw [if_neg hpath, if_neg hpath]
  by_cases hget : cmd = .GET_RAW_DATA_SERVER_PATH
  · subst hget
    rw [if_pos rfl, if_neg fun h => nomatch h.1]
    exact sendServerPath_manager env data hstay
  rw [if_neg hget]
  by_cases hreset : cmd = .RESET_TOA_ROLLOVER_COUNTER
  · rw [if_pos hreset]
    have hstep : s.step .resetToaRolloverCounter = _ := step_of_silent rfl rfl rfl
    refine callManager_manager (fun hdata => ?_) fun hdata => ?_
    · rw [if_pos ⟨hreset, hdata⟩, ht]
      exact hstep.symm
    · rw [if_neg fun h => hdata h.2]
      exact hstay
  · rw [if_neg hreset, if_neg fun h => hreset h.1]
    exact sendError_manager _ hstay

theorem cluster_handleCommand {accepts : Input → Bool} {t : ClusterThread}
    (ht : t.manager.manager = s.clusters) :
    (ClusterThread.handleCommand env cmd data t).All
      (ClustersDo resolve accepts (some (cmd, data)) s
        (clusterEvents resolve env accepts (cmd, data)) ·.manager) := by
  -- a handler that sends nothing and leaves the input socket alone
  have hsilent {m : Comms.Subscriber ClusteringManager} {e : Event}
      (hcmd : cmd ≠ .SET_CLUSTER_INPUT_SERVER) (hnet : e.atSockets = [])
      (hm : s.managers e = { s with clusters := m.manager })
      (hpublished : m.manager.published = s.clusters.published) :
      ClustersDo resolve accepts (some (cmd, data)) s [e] m := by
    have hstep : s.step e = _ := step_of_silent (by rw [hm]) (by rw [hm]; exact hpublished)
      (by rw [hm])
    unfold ClustersDo
    rw [clusterNet_silent hcmd s hpublished]
    show _ = s.step e
    rw [hstep, hm, hnet]
    rfl
  have hstay (hcmd : cmd ≠ .SET_CLUSTER_INPUT_SERVER) :
      ClustersDo resolve accepts (some (cmd, data)) s [] t.manager := by
    unfold ClustersDo
    rw [clusterNet_silent hcmd s (by rw [ht]), ht]
    rfl
  unfold ClusterThread.handleCommand
  by_cases hget : cmd = .GET_CLUSTER_SERVER_PATH
  · subst hget
    rw [if_pos rfl]
    exact sendServerPath_manager env data (hstay (by decide))
  rw [if_neg hget]
  unfold clusterEvents
  dsimp only
  by_cases hinput : cmd = .SET_CLUSTER_INPUT_SERVER
  · subst hinput
    rw [if_pos rfl, if_pos rfl]
    have hstep : s.step (.connect .clusters
        (endpoint resolve (inputSocket env (pathString (pathOf data))))) = _ :=
      step_of_silent rfl rfl rfl
    refine setInputServer_manager (Eq.trans ?_ hstep.symm)
    unfold clusterNet
    rw [ht, news_self]
    rfl
  rw [if_neg hinput, if_neg hinput]
  by_cases hparams : cmd = .SET_CLUSTER_PARAMETERS
  · rw [if_pos hparams, if_pos hparams]
    match data with
    | [] | [_] | [_, _] => trivial
    | max_sep_xy :: max_sep_t :: max_t_sep :: rest =>
      refine sendResponse_manager _ (hsilent hinput rfl ?_ ?_)
      · show { s with clusters := s.clusters.setClusterParameters _ _ _ } =
          { s with clusters := t.manager.manager.setClusterParameters _ _ _ }
        rw [ht]
      · show t.manager.manager.published = _
        rw [ht]
  rw [if_neg hparams, if_neg hparams]
  by_cases hflush : cmd = .FLUSH_CLUSTERS
  · rw [if_pos hflush]
    refine callManager_manager (fun hdata => ?_) fun hdata => ?_
    · rw [if_pos ⟨hflush, hdata⟩]
      unfold ClustersDo clusterNet reconnect
      dsimp only
      rw [if_neg hinput]
      show { s with clusters := t.manager.manager.flush, net := _ } = s.step (.flush accepts)
      unfold Measurement.step Measurement.actions Measurement.sent
      simp [Measurement.managers, news_self, withManager, ht, Event.atSockets, Event.accepts,
        Function.comp_def]
    · rw [if_neg fun h => hdata h.2, if_neg (by rw [hflush]; decide)]
      exact hstay hinput
  rw [if_neg hflush, if_neg fun h => hflush h.1]
  by_cases hpath : cmd = .SET_CLUSTER_PATH
  · rw [if_pos hpath, if_pos hpath]
    obtain ⟨file, signals, hfile⟩ := Clustering.setSaveFile_frame s.clusters
      (pathString (pathOf data)) (env.opens (pathString (pathOf data)))
    refine setFilePath_manager (hsilent hinput rfl ?_ ?_)
    · show { s with clusters := (s.clusters.setSaveFile _ _).1 } =
        { s with clusters := (t.manager.manager.setSaveFile _ _).1 }
      rw [ht]
    · show (t.manager.manager.setSaveFile _ _).1.published = _
      rw [ht, hfile]
  · rw [if_neg hpath, if_neg hpath]
    exact sendError_manager _ (hstay hinput)

theorem histogram_handleCommand {t : HistogramThread} (ht : t.manager.manager = s.histogram) :
    (HistogramThread.handleCommand env cmd data t).All
      (HistogramDoes resolve (some (cmd, data)) s
        (histogramEvents resolve env (cmd, data)) ·.manager) := by
  have hstay (hcmd : cmd ≠ .SET_HISTOGRAM_INPUT_SERVER) :
      HistogramDoes resolve (some (cmd, data)) s [] t.manager := by
    unfold HistogramDoes reconnect
    dsimp only
    rw [if_neg hcmd, ht]
    rfl
  unfold HistogramThread.handleCommand
  by_cases hget : cmd = .GET_HISTOGRAM_SERVER_PATH
  · subst hget
    rw [if_pos rfl]
    exact sendServerPath_manager env data (hstay (by decide))
  rw [if_neg hget]
  unfold histogramEvents
  dsimp only
  by_cases hinput : cmd = .SET_HISTOGRAM_INPUT_SERVER
  · subst hinput
    rw [if_pos rfl, if_pos rfl]
    have hstep : s.step (.connect .histogram
        (endpoint resolve (inputSocket env (pathString (pathOf data))))) = _ :=
      step_of_silent rfl rfl rfl
    refine setInputServer_manager (Eq.trans ?_ hstep.symm)
    rw [ht]
    rfl
  rw [if_neg hinput, if_neg hinput]
  by_cases hperiod : cmd = .SET_HISTOGRAM_OUTPUT_PERIOD
  · rw [if_pos hperiod, if_pos hperiod]
    match data with
    | [] => exact sendError_manager _ (hstay hinput)
    | [period] =>
      have hstep : s.step (.setOutputPeriod period) = _ := step_of_silent rfl rfl rfl
      refine sendResponse_manager _ (Eq.trans ?_ hstep.symm)
      unfold reconnect
      dsimp only
      rw [if_neg hinput]
      show { s with histogram := t.manager.manager.setOutputPeriod period } = _
      rw [ht]
      rfl
    | _ :: _ :: _ => exact sendError_manager _ (hstay hinput)
  · rw [if_neg hperiod, if_neg hperiod]
    exact sendError_manager _ (hstay hinput)

end Handlers

/-! ## Steps and runs -/

section Steps

variable (resolve : String → Option Topic)

/-- The events of the measuring path that an event of the threads stands for. -/
def measured (p : Program) : ThreadEvent → List Event
  | .test _ => []
  | .udpCommands env request => (p.udp.handles request).elim [] (udpEvents env)
  | .udpPoll datagrams => datagrams.map fun d => .handleMessage d.1 d.2
  | .clusterCommands env request accepts =>
    (p.clusters.handles request).elim [] (clusterEvents resolve env accepts)
  | .clusterPoll recvThrows accepts =>
    p.clusters.thread.manager.socket.elim [] fun _ => [.pollClusters recvThrows accepts]
  | .histogramCommands env request =>
    (p.histogram.handles request).elim [] (histogramEvents resolve env)
  | .histogramPoll recvThrows new_time sendThrows accepts =>
    p.histogram.thread.manager.socket.elim [] fun _ =>
      [.pollHistogram recvThrows new_time sendThrows accepts]
  | .cancel _ => []
  | .foreign message accepts => [.foreign message accepts]

variable {resolve} {p p' : Program}

theorem udp_run_datagrams (datagrams : List (Datagram × (Input → Bool))) : ∀ s : Measurement,
    { s with
      udp := (s.run (datagrams.map fun d => .handleMessage d.1 d.2)).udp
      net := (s.run (datagrams.map fun d => .handleMessage d.1 d.2)).net } =
    s.run (datagrams.map fun d => .handleMessage d.1 d.2) := by
  induction datagrams with
  | nil => exact fun s => rfl
  | cons d datagrams ih => exact fun s => ih (s.step (.handleMessage d.1 d.2))

theorem Worker.poll_eq_some {μ : Type*} {w w' : Worker μ} {manager : μ}
    (h : w.poll manager = some w') :
    w.phase = .poll ∧ w' = { phase := .head, thread := { w.thread with manager := manager } } := by
  unfold Worker.poll at h
  cases hphase : w.phase with
  | poll =>
    rw [hphase] at h
    exact ⟨rfl, (Option.some.inj h).symm⟩
  | head => simp [hphase] at h
  | commands => simp [hphase] at h
  | ended => simp [hphase] at h

/-- **One step.** What a thread does is what the events make of the managers and the sockets. -/
theorem abs_step {e : ThreadEvent} (h : p.step resolve e = some p') :
    p'.abs = p.abs.run (measured resolve p e) := by
  cases e with
  | test role =>
    cases role with
    | udp =>
      obtain ⟨w, hw, rfl⟩ := Option.map_eq_some_iff.mp h
      obtain ⟨-, signals, rfl⟩ := Worker.test_eq_some hw
      rfl
    | clusters =>
      obtain ⟨w, hw, rfl⟩ := Option.map_eq_some_iff.mp h
      obtain ⟨-, signals, rfl⟩ := Worker.test_eq_some hw
      rfl
    | histogram =>
      obtain ⟨w, hw, rfl⟩ := Option.map_eq_some_iff.mp h
      obtain ⟨-, signals, rfl⟩ := Worker.test_eq_some hw
      rfl
  | udpCommands env request =>
    obtain ⟨w, hw, rfl⟩ := Option.map_eq_some_iff.mp h
    refine commands_manager
      (Q := UdpDoes p.abs ((p.udp.handles request).elim [] (udpEvents env)))
      (fun hnone => ?_) (fun c hc t ht => ?_) hw
    · rw [hnone]
      rfl
    · rw [hc]
      exact udp_handleCommand (s := p.abs) ht
  | udpPoll datagrams =>
    obtain ⟨w, hw, rfl⟩ := Option.map_eq_some_iff.mp h
    obtain ⟨-, rfl⟩ := Worker.poll_eq_some hw
    exact udp_run_datagrams datagrams p.abs
  | clusterCommands env request accepts =>
    obtain ⟨w, hw, rfl⟩ := Option.map_eq_some_iff.mp h
    refine commands_manager (Q := ClustersDo resolve accepts (p.clusters.handles request) p.abs
      ((p.clusters.handles request).elim [] (clusterEvents resolve env accepts)))
      (fun hnone => ?_) (fun c hc t ht => ?_) hw
    · rw [hnone]
      simp [ClustersDo, clusterNet, reconnect, Program.abs, news_self, PubSub.Network.acts,
        Measurement.run]
    · rw [hc]
      exact cluster_handleCommand (s := p.abs) (congrArg Comms.Subscriber.manager ht)
  | clusterPoll recvThrows accepts =>
    unfold measured
    unfold Program.step at h
    dsimp only at h
    cases hsocket : p.clusters.thread.manager.socket with
    | none =>
      rw [hsocket] at h
      obtain ⟨w, hw, rfl⟩ := Option.map_eq_some_iff.mp h
      obtain ⟨-, rfl⟩ := Worker.poll_eq_some hw
      rfl
    | some socket =>
      rw [hsocket] at h
      obtain ⟨w, hw, rfl⟩ := Option.map_eq_some_iff.mp h
      obtain ⟨-, rfl⟩ := Worker.poll_eq_some hw
      rfl
  | histogramCommands env request =>
    obtain ⟨w, hw, rfl⟩ := Option.map_eq_some_iff.mp h
    refine commands_manager (Q := HistogramDoes resolve (p.histogram.handles request) p.abs
      ((p.histogram.handles request).elim [] (histogramEvents resolve env)))
      (fun hnone => ?_) (fun c hc t ht => ?_) hw
    · rw [hnone]
      rfl
    · rw [hc]
      exact histogram_handleCommand (s := p.abs) (congrArg Comms.Subscriber.manager ht)
  | histogramPoll recvThrows new_time sendThrows accepts =>
    unfold measured
    unfold Program.step at h
    dsimp only at h
    cases hsocket : p.histogram.thread.manager.socket with
    | none =>
      rw [hsocket] at h
      obtain ⟨w, hw, rfl⟩ := Option.map_eq_some_iff.mp h
      obtain ⟨-, rfl⟩ := Worker.poll_eq_some hw
      rfl
    | some socket =>
      rw [hsocket] at h
      obtain ⟨w, hw, rfl⟩ := Option.map_eq_some_iff.mp h
      obtain ⟨-, rfl⟩ := Worker.poll_eq_some hw
      rfl
  | cancel role =>
    cases role with
    | udp => cases h; rfl
    | clusters => cases h; rfl
    | histogram => cases h; rfl
  | foreign message accepts =>
    have hstep : p.abs.step (.foreign message accepts) = _ := step_of_silent rfl rfl rfl
    cases h
    exact hstep.symm

/-- **A run of the threads is a run of the measuring path.** -/
theorem abs_run {events : List ThreadEvent}
    (h : Runs.run (Program.step resolve) p events = some p') :
    p'.abs =
      p.abs.run (Runs.trace (Program.step resolve) (measured resolve) p events) :=
  Runs.run_trace (fun _ _ _ => abs_step) h

end Steps

/-! ## The input sockets -/

/-- The input sockets are connected as the managers have them. -/
structure Linked (resolve : String → Option Topic) (p : Program) : Prop where
  clusters : (p.net.subscriber .clusters).topic =
    endpoint resolve p.clusters.thread.manager.socket
  histogram : (p.net.subscriber .histogram).topic =
    endpoint resolve p.histogram.thread.manager.socket

/-- The manager has the input socket. -/
def HasSocket {μ : Type*} (socket : Option SubSocket) (m : Comms.Subscriber μ) : Prop :=
  m.socket = socket

section Linked

variable {resolve : String → Option Topic} {env : Surroundings} {cmd : ServerCommand}
  {data : DataVec} {socket : Option SubSocket}

theorem cluster_socket {t : ClusterThread} (hcmd : cmd ≠ .SET_CLUSTER_INPUT_SERVER)
    (ht : HasSocket socket t.manager) :
    (ClusterThread.handleCommand env cmd data t).All (HasSocket socket ·.manager) := by
  unfold ClusterThread.handleCommand
  split_ifs
  · exact sendServerPath_manager env data ht
  · match data with
    | [] | [_] | [_, _] => trivial
    | _ :: _ :: _ :: _ => exact sendResponse_manager _ ht
  · exact callManager_manager (fun _ => ht) fun _ => ht
  · exact setFilePath_manager ht
  · exact sendError_manager _ ht

theorem histogram_socket {t : HistogramThread} (hcmd : cmd ≠ .SET_HISTOGRAM_INPUT_SERVER)
    (ht : HasSocket socket t.manager) :
    (HistogramThread.handleCommand env cmd data t).All (HasSocket socket ·.manager) := by
  unfold HistogramThread.handleCommand
  split_ifs
  · exact sendServerPath_manager env data ht
  · match data with
    | [] => exact sendError_manager _ ht
    | [_] => exact sendResponse_manager _ ht
    | _ :: _ :: _ => exact sendError_manager _ ht
  · exact sendError_manager _ ht

/-- A turn of a loop replaces the input socket by the command for that only. -/
theorem socket_commands {μ : Type*} {server : String} (code : ServerCommand)
    {handleCommand : ServerCommand → DataVec → SecondaryThread (Comms.Subscriber μ) →
      ThreadResult (Comms.Subscriber μ)}
    (hother : ∀ cmd data t socket, cmd ≠ code → HasSocket socket t.manager →
      (handleCommand cmd data t).All (HasSocket socket ·.manager))
    {request : Option (List Byte)} {w w' : Worker (Comms.Subscriber μ)}
    (h : w.commands server handleCommand request = some w') :
    w'.thread.manager.socket = w.thread.manager.socket ∨
      ∃ data, w.handles request = some (code, data) := by
  by_cases hcode : ∃ data, w.handles request = some (code, data)
  · exact Or.inr hcode
  · refine Or.inl (commands_manager (Q := HasSocket w.thread.manager.socket)
      (fun _ => rfl) (fun c hc t ht => ?_) h)
    exact hother c.1 c.2 t _ (fun hcmd => hcode ⟨c.2, hcmd ▸ hc⟩) (congrArg _ ht)

/-- Setting the input connects the socket that the manager has afterwards. -/
theorem topic_reconnect {code : ServerCommand} {k : Input}
    {handled : Option (ServerCommand × DataVec)} {socket socket' : Option SubSocket} {net : Network}
    (hnet : (net.subscriber k).topic = endpoint resolve socket)
    (h : socket' = socket ∨ ∃ data, handled = some (code, data)) :
    ((reconnect resolve code k handled socket' net).subscriber k).topic =
      endpoint resolve socket' := by
  unfold reconnect
  cases handled with
  | none =>
    rcases h with rfl | ⟨data, hdata⟩
    · exact hnet
    · cases hdata
  | some c =>
    dsimp only
    by_cases hcode : c.1 = code
    · rw [if_pos hcode]
      simp [PubSub.Network.act, PubSub.Subscriber.connect]
    · rw [if_neg hcode]
      rcases h with rfl | ⟨data, hdata⟩
      · exact hnet
      · cases hdata
        exact absurd rfl hcode

theorem topic_reconnect_other {code : ServerCommand} {k k' : Input} (hk : k ≠ k')
    (handled : Option (ServerCommand × DataVec)) (socket : Option SubSocket) (net : Network) :
    ((reconnect resolve code k' handled socket net).subscriber k).topic =
      (net.subscriber k).topic := by
  unfold reconnect
  cases handled with
  | none => rfl
  | some c =>
    dsimp only
    split_ifs
    · simp [PubSub.Network.act, hk]
    · rfl

theorem topic_publish {β : Type*} (net : Network) (topic : Topic) (f : β → List Byte)
    (sent : List β) (accepts : Input → Bool) (k : Input) :
    ((net.acts (sent.map fun data => .publish topic (f data) accepts)).subscriber k).topic =
      (net.subscriber k).topic := by
  refine PubSub.topic_acts ?_ net
  intro a ha
  obtain ⟨data, -, rfl⟩ := List.mem_map.mp ha
  trivial

/-- Polling does not touch the connections. -/
theorem topic_step {s : Measurement} {e : Event} (h : ∀ k, ∀ a ∈ e.atSockets, a.Stays k)
    (k : Input) : ((s.step e).net.subscriber k).topic = (s.net.subscriber k).topic := by
  refine PubSub.topic_acts (fun a ha => ?_) s.net
  rcases List.mem_append.mp ha with ha | ha
  · exact h k a ha
  · obtain ⟨q, -, rfl⟩ := List.mem_map.mp ha
    trivial

theorem topic_poll {s : Measurement} {e : Event} {k' : Input} {recvThrows : Bool}
    (h : e.atSockets = takes k' recvThrows) (k : Input) :
    ((s.step e).net.subscriber k).topic = (s.net.subscriber k).topic := by
  refine topic_step (fun k a ha => ?_) k
  rw [h] at ha
  rw [Measurement.eq_take_of_mem ha]
  trivial

theorem topic_datagrams (datagrams : List (Datagram × (Input → Bool))) (k : Input) :
    ∀ s : Measurement,
      ((s.run (datagrams.map fun d => .handleMessage d.1 d.2)).net.subscriber k).topic =
        (s.net.subscriber k).topic := by
  induction datagrams with
  | nil => exact fun s => rfl
  | cons d datagrams ih =>
    intro s
    exact (ih (s.step (.handleMessage d.1 d.2))).trans
      (topic_step (fun _ _ ha => absurd ha List.not_mem_nil) k)

theorem Linked.step (p : Program) (e : ThreadEvent) (p' : Program) (hp : Linked resolve p)
    (h : p.step resolve e = some p') : Linked resolve p' := by
  cases e with
  | test role =>
    cases role with
    | udp =>
      obtain ⟨w, hw, rfl⟩ := Option.map_eq_some_iff.mp h
      exact ⟨hp.clusters, hp.histogram⟩
    | clusters =>
      obtain ⟨w, hw, rfl⟩ := Option.map_eq_some_iff.mp h
      obtain ⟨-, signals, rfl⟩ := Worker.test_eq_some hw
      exact ⟨hp.clusters, hp.histogram⟩
    | histogram =>
      obtain ⟨w, hw, rfl⟩ := Option.map_eq_some_iff.mp h
      obtain ⟨-, signals, rfl⟩ := Worker.test_eq_some hw
      exact ⟨hp.clusters, hp.histogram⟩
  | udpCommands env request =>
    obtain ⟨w, hw, rfl⟩ := Option.map_eq_some_iff.mp h
    exact ⟨hp.clusters, hp.histogram⟩
  | udpPoll datagrams =>
    obtain ⟨w, hw, rfl⟩ := Option.map_eq_some_iff.mp h
    exact ⟨(topic_datagrams datagrams .clusters p.abs).trans hp.clusters,
      (topic_datagrams datagrams .histogram p.abs).trans hp.histogram⟩
  | clusterCommands env request accepts =>
    obtain ⟨w, hw, rfl⟩ := Option.map_eq_some_iff.mp h
    have hsocket := socket_commands .SET_CLUSTER_INPUT_SERVER
      (fun cmd data t socket => cluster_socket) hw
    exact ⟨(topic_publish _ _ _ _ _ _).trans (topic_reconnect hp.clusters hsocket),
      (topic_publish _ _ _ _ _ _).trans
        ((topic_reconnect_other (by decide) _ _ _).trans hp.histogram)⟩
  | clusterPoll recvThrows accepts =>
    unfold Program.step at h
    dsimp only at h
    cases hsocket : p.clusters.thread.manager.socket with
    | none =>
      rw [hsocket] at h
      obtain ⟨w, hw, rfl⟩ := Option.map_eq_some_iff.mp h
      obtain ⟨-, rfl⟩ := Worker.poll_eq_some hw
      exact ⟨hp.clusters, hp.histogram⟩
    | some socket =>
      rw [hsocket] at h
      obtain ⟨w, hw, rfl⟩ := Option.map_eq_some_iff.mp h
      obtain ⟨-, rfl⟩ := Worker.poll_eq_some hw
      have htopic := topic_poll (s := p.abs) (e := .pollClusters recvThrows accepts) rfl
      refine ⟨(htopic .clusters).trans ?_, (htopic .histogram).trans hp.histogram⟩
      rw [← hsocket]
      exact hp.clusters
  | histogramCommands env request =>
    obtain ⟨w, hw, rfl⟩ := Option.map_eq_some_iff.mp h
    have hsocket := socket_commands .SET_HISTOGRAM_INPUT_SERVER
      (fun cmd data t socket => histogram_socket) hw
    exact ⟨(topic_reconnect_other (by decide) _ _ _).trans hp.clusters,
      topic_reconnect hp.histogram hsocket⟩
  | histogramPoll recvThrows new_time sendThrows accepts =>
    unfold Program.step at h
    dsimp only at h
    cases hsocket : p.histogram.thread.manager.socket with
    | none =>
      rw [hsocket] at h
      obtain ⟨w, hw, rfl⟩ := Option.map_eq_some_iff.mp h
      obtain ⟨-, rfl⟩ := Worker.poll_eq_some hw
      exact ⟨hp.clusters, hp.histogram⟩
    | some socket =>
      rw [hsocket] at h
      obtain ⟨w, hw, rfl⟩ := Option.map_eq_some_iff.mp h
      obtain ⟨-, rfl⟩ := Worker.poll_eq_some hw
      have htopic := topic_poll (s := p.abs)
        (e := .pollHistogram recvThrows new_time sendThrows accepts) rfl
      refine ⟨(htopic .clusters).trans hp.clusters, (htopic .histogram).trans ?_⟩
      rw [← hsocket]
      exact hp.histogram
  | cancel role =>
    cases role with
    | udp => cases h; exact ⟨hp.clusters, hp.histogram⟩
    | clusters => cases h; exact ⟨hp.clusters, hp.histogram⟩
    | histogram => cases h; exact ⟨hp.clusters, hp.histogram⟩
  | foreign message accepts =>
    cases h
    exact ⟨(PubSub.Subscriber.topic_offer _ _ _ _).trans hp.clusters,
      (PubSub.Subscriber.topic_offer _ _ _ _).trans hp.histogram⟩

end Linked

/-- **The threads refine the measuring path.** After any requests, polls and cancellations in any
order, the managers and the sockets are as the commands handled and the polls, taken as events of
the measuring path, leave them; each manager listens where its own input socket is connected; and
what it is given is a subsequence of what was published. -/
theorem threads_refine (resolve : String → Option Topic) (host_port : ℕ)
    (bindError : Option String) (settings : ClusterSettings) (time : ℤ)
    (events : List ThreadEvent) (p : Program)
    (h : Runs.run (Program.step resolve) (.start host_port bindError settings time) events =
      some p) :
    p.abs = (Measurement.start settings time).run (Runs.trace (Program.step resolve)
      (measured resolve) (.start host_port bindError settings time) events) ∧
    (p.net.subscriber .clusters).topic = endpoint resolve p.clusters.thread.manager.socket ∧
    (p.net.subscriber .histogram).topic = endpoint resolve p.histogram.thread.manager.socket ∧
    ∀ k, (p.abs.packetsTaken k).Sublist p.abs.packetsPublished := by
  have hstart : (Program.start host_port bindError settings time).abs = .start settings time := by
    cases bindError with
    | none => rfl
    | some what => rfl
  have hlinked : Linked resolve p := Runs.inv_of_run Linked.step ⟨rfl, rfl⟩ h
  have habs := abs_run h
  rw [hstart] at habs
  have hconsistent : Consistent p.abs := habs ▸ (consistent_start settings time).run _
  exact ⟨habs, hlinked.clusters, hlinked.histogram, hconsistent.packets_sublist⟩

/-- `RESET_TOA_ROLLOVER_COUNTER`, a poll, and `FLUSH_CLUSTERS` at the other thread. -/
def twoCommands : List ThreadEvent :=
  [.test .udp, .test .clusters,
    .udpCommands Comms.quietSurroundings (some (Comms.wordsToBytes
      [ServerCommand.RESET_TOA_ROLLOVER_COUNTER.code])),
    .udpPoll [],
    .clusterCommands Comms.quietSurroundings (some (Comms.wordsToBytes
      [ServerCommand.FLUSH_CLUSTERS.code])) fun _ => true]

theorem threads_refine_twoCommands :
    ∃ p, Runs.run (Program.step fun _ => none) (.start 0 none {} 0) twoCommands = some p ∧
      p.abs = (Measurement.start {} 0).run (Runs.trace (Program.step fun _ => none)
        (measured fun _ => none) (.start 0 none {} 0) twoCommands) :=
  ⟨_, rfl, (threads_refine (fun _ => none) 0 none {} 0 twoCommands _ rfl).1⟩

end TpxServer.Measuring
