import TpxServer.Control.Rendezvous

/-!
# Forwarding to live threads

A thread is live while it has neither been cancelled nor finished. The communication thread should
send a request, and block for its answer, only where the thread behind the socket is live, and
refuse the request otherwise. It looks at the socket alone. So this holds in a run exactly if every
request finds no socket at all, or a thread that the pointer is still set to and that has not
cancelled itself, and if no thread cancels itself while it is waited for (`forwards_to_live_iff`).
-/

namespace TpxServer.Control

open Comms (Server ReqSocket Accepted Paired InLoop ThreadRef Refused forwardTarget)
open Comms.PythonConnectionManager (requestCode)
open Measuring (Role Outline)
open Clustering

/-- The thread has neither been cancelled nor finished. -/
def Live (x : System) (id : ℕ) : Prop :=
  ∃ t ∈ x.threads[id]?, t.outline.cancelled = false ∧ t.outline.phase ≠ .ended

/-- The communication thread blocks for live threads only. -/
def BlocksOnLive (x : System) : Prop := ∀ w ∈ x.waiting, Live x w.callee

/-- A request for a secondary thread is sent to it if it is live, and refused otherwise. -/
def ForwardsToLive (x : System) : Event → Prop
  | .comms (.client (some msg) answer) =>
    x.waiting = none → Accepted x.server msg →
      ∀ ref ∈ forwardTarget (requestCode msg) x.server.thread.threads,
        ∃ x' ∈ x.step (.comms (.client (some msg) answer)),
          (∃ socket ∈ ref.socket, Live x socket.thread ∧
            x'.waiting = some { callee := socket.thread, request := msg }) ∨
          ((∀ socket ∈ ref.socket, ¬ Live x socket.thread) ∧ x'.waiting = none ∧
            (Refused x.server.thread x'.server.thread .THREAD_NOT_STARTED ∨
              Refused x.server.thread x'.server.thread .THREAD_NOT_CONNECTED))
  | _ => True

/-- A request finds no socket, or a pointer to a thread that has not cancelled itself. No UDP thread
that is waited for fails to bind its port or meets an exception. -/
def TargetLives (x : System) : Event → Prop
  | .comms (.client (some msg) _) =>
    x.waiting = none → Accepted x.server msg →
      ∀ ref ∈ forwardTarget (requestCode msg) x.server.thread.threads,
        ref.socket = none ∨ ∃ id ∈ ref.thread, ∀ t ∈ x.threads[id]?, t.outline.cancelled = false
  | .run id (some _) => ∀ w ∈ x.waiting, w.callee = id → roleOf id ≠ .udp
  | .pollThrows id => ∀ w ∈ x.waiting, w.callee ≠ id
  | _ => True

instance (x : System) : ∀ e, Decidable (TargetLives x e)
  | .comms (.client (some msg) _) =>
    inferInstanceAs (Decidable (x.waiting = none → Accepted x.server msg →
      ∀ ref ∈ forwardTarget (requestCode msg) x.server.thread.threads, _ ∨
        ∃ id ∈ ref.thread, ∀ t ∈ x.threads[id]?, t.outline.cancelled = false))
  | .run id (some _) => inferInstanceAs (Decidable (∀ w ∈ x.waiting, w.callee = id → _))
  | .pollThrows id => inferInstanceAs (Decidable (∀ w ∈ x.waiting, w.callee ≠ id))
  | .comms (.client none _) | .comms .cancel | .comms (.finish _) | .comms (.iterate _)
  | .comms (.connected _ _) | .comms (.sent _ _) | .comms (.received _ _) | .comms .idle
  | .reply | .run _ none | .test _ | .commands _ _ _ | .poll _ _ => isTrue trivial

section Steps

variable {x x' : System} (hx : Inv x)
include hx

/-! ## A request -/

/-- The thread behind the socket is live exactly if the pointer is set to a thread that has not
cancelled itself. -/
theorem live_iff {msg : List Byte} (hacc : Accepted x.server msg) {ref : ThreadRef}
    (href : ref ∈ forwardTarget (requestCode msg) x.server.thread.threads) {socket : ReqSocket}
    (hsocket : ref.socket = some socket) : Live x socket.thread ↔
      ∃ id ∈ ref.thread, ∀ t ∈ x.threads[id]?, t.outline.cancelled = false := by
  have hpaired := hx.paired (Comms.inLoop_of_client hacc.phase)
  rcases hpaired.target href with ⟨hthread, hsockets⟩ | ⟨id, hthread, hid, hunmarked⟩
  · refine iff_of_false ?_ ?_
    · rintro ⟨t, ht, hcancel, -⟩
      rw [(hx.good _ t ht).marked (hsockets socket hsocket).2] at hcancel
      cases hcancel
    · rw [hthread]
      rintro ⟨id, hid, -⟩
      cases hid
  · cases hsocket.symm.trans hid
    constructor
    · rintro ⟨t, ht, hcancel, -⟩
      refine ⟨id, hthread, fun t' ht' => ?_⟩
      cases Option.mem_unique ht ht'
      exact hcancel
    · rintro ⟨id', hid', hcancel⟩
      cases Option.mem_unique hthread hid'
      have hforwards : forwardsTo x.server msg = some id :=
        forwardsTo_eq_some.mpr ⟨hacc, ref, href, _, hsocket, rfl, rfl⟩
      have hlt : id < x.threads.length :=
        (forwardsTo_target hpaired hforwards).1.trans_le hx.length.ge
      have ht : x.threads[id] ∈ x.threads[id]? := List.getElem?_eq_getElem hlt
      refine ⟨x.threads[id], ht, hcancel _ ht, fun hended => ?_⟩
      have hcancelled := (hx.good id _ ht).ended hended
      rw [hcancel _ ht] at hcancelled
      cases hcancelled

/-- A request is sent to a live thread or refused exactly if it finds no socket or a live target. -/
theorem forwardsToLive_iff (msg answer : List Byte) :
    ForwardsToLive x (.comms (.client (some msg) answer)) ↔
      TargetLives x (.comms (.client (some msg) answer)) := by
  unfold ForwardsToLive TargetLives
  refine forall_congr' fun hwaiting => forall_congr' fun hacc => forall_congr' fun ref =>
    forall_congr' fun href => ?_
  have hidle : ¬ x.waiting.isSome := by simp [hwaiting]
  cases hsocket : ref.socket with
  | none =>
    refine iff_of_true ?_ (Or.inl rfl)
    have hforwards : forwardsTo x.server msg = none := by
      unfold forwardsTo
      rw [if_pos hacc, Option.mem_def.mp href, Option.bind_some, hsocket]
      rfl
    obtain ⟨server, hserver, hrefused⟩ := Comms.step_refused answer hacc href hsocket
    refine ⟨x.proceed (portOf (.client (some msg) answer)) server, ?_,
      Or.inr ⟨nofun, hwaiting, Or.inl hrefused⟩⟩
    unfold System.step System.comms
    dsimp only
    rw [if_neg hidle, hforwards]
    exact Option.map_eq_some_iff.mpr ⟨server, hserver, rfl⟩
  | some socket =>
    have hopen : socket.isOpen = true := by
      rcases (hx.paired (Comms.inLoop_of_client hacc.phase)).target href with
        ⟨-, hsockets⟩ | ⟨id, -, hid, -⟩
      · exact (hsockets socket hsocket).1
      · cases hsocket.symm.trans hid
        rfl
    have hstep : x.step (.comms (.client (some msg) answer)) =
        some { x with waiting := some { callee := socket.thread, request := msg } } := by
      unfold System.step System.comms
      dsimp only
      rw [if_neg hidle, forwardsTo_eq_some.mpr ⟨hacc, ref, href, socket, hsocket, hopen, rfl⟩]
    rw [← live_iff hx hacc href hsocket]
    constructor
    · rintro ⟨x', hx', ⟨socket', ⟨⟩, hlive, -⟩ | ⟨-, hnone, -⟩⟩
      · exact Or.inr hlive
      · cases hstep.symm.trans hx'
        cases hnone
    · rintro (hnone | hlive)
      · cases hnone
      · exact ⟨_, hstep, Or.inl ⟨socket, rfl, hlive, rfl⟩⟩

/-! ## What becomes of the thread that is waited for -/

variable (h : BlocksOnLive x)
include h

omit hx in
/-- A step of a thread that stays live. -/
theorem blocksOnLive_set {id : ℕ} {t t' : Secondary} (ht : x.threads[id]? = some t)
    {waiting : Option Waiting} (hwaiting : ∀ w' ∈ waiting, ∃ w ∈ x.waiting, w.callee = w'.callee)
    (hlive : waiting.any (·.callee = id) = true → t.outline.cancelled = false →
      t.outline.phase ≠ .ended → t'.outline.cancelled = false ∧ t'.outline.phase ≠ .ended) :
    BlocksOnLive { x with threads := x.threads.set id t', waiting := waiting } := by
  intro w' hw'
  obtain ⟨w, hw, hcallee⟩ := hwaiting w' hw'
  obtain ⟨t₀, ht₀, hcancel, hphase⟩ := h w hw
  rw [hcallee] at ht₀
  by_cases hid : id = w'.callee
  · subst hid
    cases Option.mem_unique ht ht₀
    refine ⟨t', getElem?_set ht t', hlive ?_ hcancel hphase⟩
    exact (Option.any_eq_true _ _).mpr ⟨w', hw', decide_eq_true rfl⟩
  · exact ⟨t₀, (List.getElem?_set_ne hid).trans ht₀, hcancel, hphase⟩

/-- A thread that is waited for is not cancelled from outside. -/
theorem blocksOnLive_quiet {e : Comms.Event} (he : Quiet e) {server : Server}
    (hstep : Server.step x.server e = some server) (mHostPort : ℕ) :
    BlocksOnLive (x.proceed mHostPort server) := by
  have hcancelled : server.thread.threads.cancelled = x.server.thread.threads.cancelled := by
    rcases he with rfl | ⟨id, rfl⟩
    · rw [step_cancel hstep]
      rfl
    · rw [step_finish hstep]
  intro w hw
  obtain ⟨t, ht, hcancel, hphase⟩ := h w hw
  have hunmarked : w.callee ∉ server.thread.threads.cancelled := fun hmem => by
    rw [hcancelled] at hmem
    rw [(hx.good _ t ht).marked hmem] at hcancel
    cases hcancel
  have hlt : w.callee < (x.proceed mHostPort server).threads.length :=
    (hx.waits w hw).lt.trans_le
      (hx.length.le.trans ((started_step hstep).trans
        (length_follow (hx.length.le.trans (started_step hstep))).ge))
  have ht' := List.getElem?_eq_getElem hlt
  obtain ⟨t₀, ht₀ | ⟨hle, -⟩, heq⟩ := getElem?_follow ht'
  · cases Option.mem_unique ht ht₀
    refine ⟨_, ht', ?_⟩
    rw [heq, Secondary.mark_outline]
    simp only [hcancel, hunmarked, decide_false, Bool.or_false, true_and]
    exact hphase
  · exact absurd (hx.waits w hw).lt (Nat.not_lt.mpr hle)

theorem blocksOnLive_request {msg answer : List Byte}
    (hstep : x.step (.comms (.client (some msg) answer)) = some x')
    (htarget : TargetLives x (.comms (.client (some msg) answer))) : BlocksOnLive x' := by
  have hcomms : x.comms (.client (some msg) answer) = some x' := hstep
  rcases comms_eq_some hcomms with
    ⟨server, mHostPort, hserver, rfl, hquiet⟩ | ⟨msg', answer', id, ⟨⟩, hwaiting, hforwards, rfl⟩
  · rcases hquiet with hquiet | ⟨hnone, -⟩
    · exact blocksOnLive_quiet hx h hquiet hserver mHostPort
    · intro w hw
      rw [show (x.proceed mHostPort server).waiting = x.waiting from rfl, hnone] at hw
      cases hw
  · rintro w ⟨⟩
    obtain ⟨hacc, ref, href, socket, hsocket, -, rfl⟩ := forwardsTo_eq_some.mp hforwards
    refine (live_iff hx hacc href hsocket).mpr ?_
    refine (htarget hwaiting hacc ref href).resolve_left fun hnone => ?_
    rw [hnone] at hsocket
    cases hsocket

/-- A thread that begins to run is cancelled if it is a UDP thread that cannot bind its port. -/
theorem blocksOnLive_run {id : ℕ} {bindError : Option String}
    (hstep : x.step (.run id bindError) = some x') :
    BlocksOnLive x' ↔ TargetLives x (.run id bindError) := by
  obtain ⟨-, hstep⟩ := Option.ite_none_right_eq_some.mp hstep
  obtain ⟨t, ht, hstep⟩ := Option.bind_eq_some_iff.mp hstep
  obtain ⟨t', ht', rfl⟩ := Option.map_eq_some_iff.mp hstep
  obtain ⟨-, -, houtline⟩ := Secondary.run_eq_some ht'
  have hrole := (hx.good id t ht).role
  have hset : (∀ w ∈ x.waiting, w.callee = id → ¬ (t.role = .udp ∧ bindError.isSome)) →
      BlocksOnLive { x with threads := x.threads.set id t' } := by
    intro hbinds
    refine blocksOnLive_set h ht (fun w hw => ⟨w, hw, rfl⟩) fun hcallee hcancel hphase => ?_
    obtain ⟨w, hw, heq⟩ := (Option.any_eq_true _ _).mp hcallee
    rw [houtline]
    simp only [hcancel, hbinds w hw (of_decide_eq_true heq), decide_false, Bool.or_false, true_and]
    exact hphase
  cases bindError with
  | none => exact iff_of_true (hset fun w _ _ hbind => nomatch hbind.2) trivial
  | some what =>
    constructor
    · rintro hlive w hw rfl hudp
      obtain ⟨t'', ht'', hcancel, -⟩ := hlive w hw
      cases Option.mem_unique (getElem?_set ht t') ht''
      rw [houtline] at hcancel
      simp [hrole, hudp] at hcancel
    · exact fun htarget => hset fun w hw hcallee hbind => htarget w hw hcallee (hrole ▸ hbind.1)

omit hx in
theorem blocksOnLive_pollThrows {id : ℕ} (hstep : x.step (.pollThrows id) = some x') :
    BlocksOnLive x' ↔ TargetLives x (.pollThrows id) := by
  obtain ⟨t, ht, hstep⟩ := Option.bind_eq_some_iff.mp hstep
  obtain ⟨t', ht', rfl⟩ := Option.map_eq_some_iff.mp hstep
  obtain ⟨-, -, -, -, houtline⟩ := Secondary.pollThrows_eq_some ht'
  constructor
  · rintro hlive w hw rfl
    obtain ⟨t'', ht'', hcancel, -⟩ := hlive w hw
    cases Option.mem_unique (getElem?_set ht t') ht''
    rw [houtline] at hcancel
    cases hcancel
  · intro htarget
    refine blocksOnLive_set h ht (fun w hw => ⟨w, hw, rfl⟩) fun hcallee _ _ => ?_
    obtain ⟨w, hw, heq⟩ := (Option.any_eq_true _ _).mp hcallee
    exact absurd (of_decide_eq_true heq) (htarget w hw)

omit hx in
/-- No other step of a secondary thread ends it while it is waited for. -/
theorem blocksOnLive_test {id : ℕ} (hstep : x.step (.test id) = some x') : BlocksOnLive x' := by
  obtain ⟨t, ht, hstep⟩ := Option.bind_eq_some_iff.mp hstep
  obtain ⟨t', ht', rfl⟩ := Option.map_eq_some_iff.mp hstep
  obtain ⟨-, -, -, -, houtline⟩ := Secondary.test_eq_some ht'
  refine blocksOnLive_set h ht (fun w hw => ⟨w, hw, rfl⟩) fun _ hcancel _ => ?_
  rw [houtline, hcancel]
  exact ⟨rfl, nofun⟩

omit hx in
theorem blocksOnLive_poll {id : ℕ} {manager : (role : Role) → Manager role}
    (hstep : x.step (.poll id manager) = some x') : BlocksOnLive x' := by
  obtain ⟨t, ht, hstep⟩ := Option.bind_eq_some_iff.mp hstep
  obtain ⟨t', ht', rfl⟩ := Option.map_eq_some_iff.mp hstep
  obtain ⟨-, -, -, -, houtline⟩ := Secondary.poll_eq_some ht'
  refine blocksOnLive_set h ht (fun w hw => ⟨w, hw, rfl⟩) fun _ hcancel _ => ?_
  rw [houtline]
  exact ⟨hcancel, nofun⟩

theorem blocksOnLive_commands {id : ℕ} {env : Comms.Surroundings} {arrived : Bool}
    (hstep : x.step (.commands id env arrived) = some x') : BlocksOnLive x' := by
  obtain ⟨t, ht, hstep⟩ := Option.bind_eq_some_iff.mp hstep
  obtain ⟨t', ht', rfl⟩ := Option.map_eq_some_iff.mp hstep
  have hsettled := (hx.good id t ht).settled
  obtain ⟨-, -, -, hphase, hturn⟩ := Secondary.commands_eq_some hsettled.isOpen ht'
  refine blocksOnLive_set h ht (fun w' hw' => ?_) fun _ hcancel _ => ?_
  · obtain ⟨w, hw, rfl⟩ := Option.map_eq_some_iff.mp hw'
    refine ⟨w, hw, ?_⟩
    split_ifs
    · rfl
    · rfl
  · generalize t'.outline = o at hturn
    cases hturn with
    | leave hhead _ | enter hhead _ | poll hhead => cases hhead.symm.trans hphase
    | refused _ howed => exact absurd howed (ne_true_of_eq_false hsettled.owed)
    | nothing _ _ | malformed _ _ _ _ _ | answered _ _ _ _ _ _ => exact ⟨hcancel, nofun⟩

/-- **One step.** -/
theorem live_step_iff {e : Event} (hstep : x.step e = some x') :
    ForwardsToLive x e ∧ BlocksOnLive x' ↔ TargetLives x e := by
  have hother (e : Comms.Event) (he : ∀ msg answer, e ≠ .client (some msg) answer)
      (hstep : x.step (.comms e) = some x') : BlocksOnLive x' := by
    have hcomms : x.comms e = some x' := hstep
    rcases comms_eq_some hcomms with
      ⟨server, mHostPort, hserver, rfl, hquiet⟩ | ⟨msg, answer, id, rfl, -⟩
    · rcases hquiet with hquiet | ⟨hnone, -⟩
      · exact blocksOnLive_quiet hx h hquiet hserver mHostPort
      · intro w hw
        rw [show (x.proceed mHostPort server).waiting = x.waiting from rfl, hnone] at hw
        cases hw
    · exact absurd rfl (he msg answer)
  cases e with
  | comms e =>
    cases e with
    | client request answer =>
      cases request with
      | none =>
        have hnot : ∀ msg answer', Comms.Event.client none answer ≠ .client (some msg) answer' := by
          rintro msg answer' ⟨⟩
        exact iff_of_true ⟨trivial, hother _ hnot hstep⟩ trivial
      | some msg =>
        rw [forwardsToLive_iff hx]
        exact and_iff_left_of_imp (blocksOnLive_request hx h hstep)
    | cancel | finish id | iterate attempt | connected err attempt | sent err bytes_sent
    | received err bytes | idle =>
      exact iff_of_true ⟨trivial, hother _ (fun _ _ => Comms.Event.noConfusion) hstep⟩ trivial
  | reply =>
    obtain ⟨w, -, reply, -, server, -, -, rfl⟩ := reply_eq_some hx hstep
    exact iff_of_true ⟨trivial, fun w hw => absurd hw (Option.not_mem_none w)⟩ trivial
  | run id bindError =>
    rw [← blocksOnLive_run hx h hstep]
    exact and_iff_right trivial
  | pollThrows id =>
    rw [← blocksOnLive_pollThrows h hstep]
    exact and_iff_right trivial
  | test id => exact iff_of_true ⟨trivial, blocksOnLive_test h hstep⟩ trivial
  | poll id manager => exact iff_of_true ⟨trivial, blocksOnLive_poll h hstep⟩ trivial
  | commands id env arrived =>
    exact iff_of_true ⟨trivial, blocksOnLive_commands hx h hstep⟩ trivial

end Steps

/-- The server is connected, and `SET_UDP_PORT` has started a UDP thread, number 2. -/
def udpStarted : List Event :=
  [.comms (.iterate {}), .comms (.connected none {}), .comms .idle,
    .comms (.client (some [0xF4, 1, 0, 0, 0x89, 0x13, 0, 0]) []), .comms (.iterate {}),
    .comms .idle]

/-- `GET_RAW_DATA_SERVER_PATH` is answered by the UDP thread, which meets an exception then. -/
def pathAnswered : List Event :=
  udpStarted ++ [.run 2 none, .comms (.client (some [0xF6, 1, 0, 0]) []), .test 2,
    .commands 2 Comms.quietSurroundings true, .reply, .pollThrows 2]

end TpxServer.Control
