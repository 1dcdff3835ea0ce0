import TpxServer.Control.Rendezvous

/-!
# When the server hangs

The communication thread waits for the reply of a secondary thread without a limit. The reply can
come exactly as long as that thread will look for the request: it has a place in the thread pool and
has not been cancelled, or was cancelled after it had tested its flag for the last time. Places are
short if the pool has fewer than four of them. Cancelled are UDP threads only: one that could not
bind its port or met an exception, or whose client connection was given up. Then the communication
thread waits for good, and the user cannot stop it (`answer_comes_iff`).
-/

namespace TpxServer.Control

open Comms (Server RepSocket InLoop)
open Comms.PythonConnectionManager hiding handleCommand poll
open Measuring (Role Outline Turn Owing Served AnswersOnce)
open Runs (Reaches)
open Clustering

/-- A secondary thread has a defined behaviour for the request: it is not so long that its size in
32 bits is zero, and has the words that its handler reads. -/
def Servable (msg : List Byte) : Prop :=
  msg.length % 2 ^ 32 ≠ 0 ∧ Served (requestCode msg) (requestData msg)

instance (msg : List Byte) : Decidable (Servable msg) := inferInstanceAs (Decidable (_ ∧ _))

/-- The thread with this number comes to `pollCommands` with what has been sent to it. A place in
the pool is found beside the communication thread, the cluster thread and the histogram thread, as
far as these come before it. -/
def WillLook (x : System) (id : ℕ) (t : Secondary) : Prop :=
  (t.outline.cancelled = false ∧ min id 2 + 1 < x.maxThreadCount) ∨ t.outline.phase = .commands

instance (x : System) (id : ℕ) (t : Secondary) : Decidable (WillLook x id t) :=
  inferInstanceAs (Decidable (_ ∨ _))

/-- There is a way to the end of the call. -/
def Answerable (x : System) : Prop := ∃ y, Reaches System.step x y ∧ y.waiting = none

variable {x x' : System} {w : Waiting}

theorem Answerable.of_reaches (h : Reaches System.step x x') (hx' : Answerable x') :
    Answerable x := by
  obtain ⟨y, hreach, hy⟩ := hx'
  exact ⟨y, h.trans hreach, hy⟩

theorem Answerable.of_step {e : Event} (h : x.step e = some x') (hx' : Answerable x') :
    Answerable x := hx'.of_reaches (.of_step h)

/-! ## The loop of a thread -/

/-- Some managers. -/
def managers : (role : Role) → Manager role
  | .udp => {}
  | .clusters => { manager := {} }
  | .histogram => { manager := { mLastOutputTime := 0 } }

section Thread

variable {id : ℕ} {t : Secondary} (ht : x.threads[id]? = some t)
include ht

theorem step_run (hbegun : t.begun = false) (hroom : x.hasRoom id = true) :
    ∃ t', x.step (.run id none) = some { x with threads := x.threads.set id t' } ∧
      t'.begun = true ∧ t'.outline = t.outline := by
  obtain ⟨t', ht'⟩ : ∃ t', t.run none = some t' := by
    unfold Secondary.run
    rw [hbegun]
    exact ⟨_, rfl⟩
  obtain ⟨-, hbegun', houtline⟩ := Secondary.run_eq_some ht'
  refine ⟨t', ?_, hbegun', by simpa using houtline⟩
  unfold System.step
  dsimp only
  rw [if_pos hroom, ht, Option.bind_some, ht']
  rfl

variable (hbegun : t.begun = true)
include hbegun

theorem step_test (hphase : t.outline.phase = .head) :
    ∃ t', x.step (.test id) = some { x with threads := x.threads.set id t' } ∧
      t'.begun = true ∧ t'.outline =
        { t.outline with phase := if t.outline.cancelled then .ended else .commands } := by
  have hphase' : t.worker.phase = .head := hphase
  obtain ⟨t', ht'⟩ : ∃ t', t.test = some t' := by
    unfold Secondary.test Measuring.Worker.test
    rw [if_pos hbegun, hphase']
    dsimp only
    split_ifs
    · exact ⟨_, rfl⟩
    · exact ⟨_, rfl⟩
  obtain ⟨-, -, hbegun', -, houtline⟩ := Secondary.test_eq_some ht'
  refine ⟨t', ?_, hbegun', houtline⟩
  unfold System.step
  dsimp only
  rw [ht, Option.bind_some, ht']
  rfl

theorem step_poll (hphase : t.outline.phase = .poll) :
    ∃ t', x.step (.poll id managers) = some { x with threads := x.threads.set id t' } ∧
      t'.begun = true ∧ t'.outline = { t.outline with phase := .head } := by
  have hphase' : t.worker.phase = .poll := hphase
  obtain ⟨t', ht'⟩ : ∃ t', t.poll managers = some t' := by
    unfold Secondary.poll Measuring.Worker.poll
    rw [if_pos hbegun, hphase']
    exact ⟨_, rfl⟩
  obtain ⟨-, -, hbegun', -, houtline⟩ := Secondary.poll_eq_some ht'
  refine ⟨t', ?_, hbegun', houtline⟩
  unfold System.step
  dsimp only
  rw [ht, Option.bind_some, ht']
  rfl

/-- A thread that finds no request goes on. -/
theorem step_look (hphase : t.outline.phase = .commands)
    (hsettled : Measuring.Settled t.socket) : ∃ t',
    x.step (.commands id Comms.quietSurroundings false) =
        some { x with threads := x.threads.set id t' } ∧
      t'.begun = true ∧ t'.outline = { t.outline with phase := .poll } := by
  have hsame : Secondary.socket { t with worker := { t.worker with phase := .poll } } = t.socket :=
    rfl
  refine ⟨{ t with worker := { t.worker with phase := .poll } }, ?_, hbegun, rfl⟩
  unfold System.step
  dsimp only
  rw [ht, Option.bind_some]
  unfold Secondary.commands
  rw [if_pos hbegun, if_neg Bool.false_ne_true,
    Measuring.commands_none hsettled.isOpen hphase hsettled.owed, Option.map_some, Option.map_some,
    hsame, map_progress_self]

end Thread

/-! ## Making room -/

section Ended

/-- Only the first of a list can satisfy what nothing behind them does. -/
theorem countP_take_le {α : Type*} (p : α → Bool) {l : List α} {m k : ℕ}
    (h : ∀ j a, m ≤ j → j < k → l[j]? = some a → p a = false) : (l.take k).countP p ≤ m := by
  have hrest : ((l.take k).drop m).countP p = 0 := by
    rw [List.countP_eq_zero]
    intro a ha
    obtain ⟨i, hi⟩ := List.mem_iff_getElem?.mp ha
    rw [List.getElem?_drop, List.getElem?_take] at hi
    split_ifs at hi with hlt
    rw [h (m + i) a (Nat.le_add_right m i) hlt hi]
    exact Bool.false_ne_true
  rw [← List.take_append_drop m (l.take k), List.countP_append, hrest, Nat.add_zero]
  exact List.countP_le_length.trans (List.length_take_le m _)

theorem hasRoom_of_ended (hloop : InLoop x.server) (hmax : 4 ≤ x.maxThreadCount) {id : ℕ}
    (hended : ∀ j t, 2 ≤ j → j < id → x.threads[j]? = some t → t.worker.phase = .ended) :
    x.hasRoom id = true := by
  have hcount : (x.threads.take id).countP (fun t => t.worker.phase ≠ .ended) ≤ 2 :=
    countP_take_le _ fun j t htwo hj ht => by simp [hended j t htwo hj ht]
  unfold System.hasRoom
  rw [if_neg hloop.notStopped, decide_eq_true_eq]
  omega

/-- A cancelled thread can end. -/
theorem reaches_ended_of_begun (hx : Inv x) {id : ℕ} {t : Secondary}
    (ht : x.threads[id]? = some t) (hbegun : t.begun = true)
    (hcancel : t.outline.cancelled = true) :
    ∃ t', Reaches System.step x { x with threads := x.threads.set id t' } ∧
      t'.outline.phase = .ended := by
  -- from the head of the loop, from `poll`, and from `pollCommands`
  have hhead : ∀ x : System, ∀ t, x.threads[id]? = some t → t.begun = true →
      t.outline.cancelled = true → t.outline.phase = .head →
      ∃ t', Reaches System.step x { x with threads := x.threads.set id t' } ∧
        t'.outline.phase = .ended := by
    intro x t ht hbegun hcancel hphase
    obtain ⟨t', hstep, -, houtline⟩ := step_test ht hbegun hphase
    rw [hcancel] at houtline
    exact ⟨t', .of_step hstep, by rw [houtline]; rfl⟩
  have hpoll : ∀ x : System, ∀ t, x.threads[id]? = some t → t.begun = true →
      t.outline.cancelled = true → t.outline.phase = .poll →
      ∃ t', Reaches System.step x { x with threads := x.threads.set id t' } ∧
        t'.outline.phase = .ended := by
    intro x t ht hbegun hcancel hphase
    obtain ⟨t', hstep, hbegun', houtline⟩ := step_poll ht hbegun hphase
    obtain ⟨t'', hreach, hended⟩ := hhead { x with threads := x.threads.set id t' } t'
      (getElem?_set ht t') hbegun' (by rw [houtline]; exact hcancel) (by rw [houtline])
    rw [List.set_set] at hreach
    exact ⟨t'', (Reaches.of_step hstep).trans hreach, hended⟩
  cases hphase : t.outline.phase with
  | head => exact hhead x t ht hbegun hcancel hphase
  | poll => exact hpoll x t ht hbegun hcancel hphase
  | commands =>
    obtain ⟨t', hstep, hbegun', houtline⟩ :=
      step_look ht hbegun hphase (hx.good id t ht).settled
    obtain ⟨t'', hreach, hended⟩ := hpoll { x with threads := x.threads.set id t' } t'
      (getElem?_set ht t') hbegun' (by rw [houtline]; exact hcancel) (by rw [houtline])
    rw [List.set_set] at hreach
    exact ⟨t'', (Reaches.of_step hstep).trans hreach, hended⟩
  | ended =>
    obtain ⟨hlt, rfl⟩ := List.getElem?_eq_some_iff.mp ht
    refine ⟨x.threads[id], ?_, hphase⟩
    rw [List.set_getElem_self]
    exact .refl x

theorem reaches_ended (hx : Inv x) {id : ℕ} {t : Secondary} (ht : x.threads[id]? = some t)
    (hcancel : t.outline.cancelled = true) (hroom : x.hasRoom id = true) :
    ∃ t', Reaches System.step x { x with threads := x.threads.set id t' } ∧
      t'.outline.phase = .ended := by
  cases hbegun : t.begun with
  | true => exact reaches_ended_of_begun hx ht hbegun hcancel
  | false =>
    obtain ⟨t', hstep, hbegun', houtline⟩ := step_run ht hbegun hroom
    obtain ⟨t'', hreach, hended⟩ := reaches_ended_of_begun (inv_step x _ _ hx hstep)
      (getElem?_set ht t') hbegun' (by rw [houtline]; exact hcancel)
    rw [List.set_set] at hreach
    exact ⟨t'', (Reaches.of_step hstep).trans hreach, hended⟩

/-- The secondary threads from number 2 on that come before `k` can all end, if they were cancelled
and the pool has four places. -/
theorem reaches_ended_below (hx : Inv x) (hloop : InLoop x.server)
    (hmax : 4 ≤ x.maxThreadCount) {k : ℕ} (hk : k ≤ x.threads.length)
    (hcancelled : ∀ j t, 2 ≤ j → j < k → x.threads[j]? = some t → t.outline.cancelled = true) :
    ∃ ts, Reaches System.step x { x with threads := ts } ∧ Inv { x with threads := ts } ∧
      (∀ j, k ≤ j → ts[j]? = x.threads[j]?) ∧
      ∀ j t, 2 ≤ j → j < k → ts[j]? = some t → t.worker.phase = .ended := by
  induction k with
  | zero =>
    exact ⟨x.threads, .refl x, hx, fun _ _ => rfl,
      fun j t _ hj => absurd hj (Nat.not_lt_zero j)⟩
  | succ k ih =>
    obtain ⟨ts, hreach, hinv, hsame, hended⟩ := ih (Nat.le_of_succ_le hk)
      fun j t htwo hj => hcancelled j t htwo (Nat.lt_succ_of_lt hj)
    by_cases hfixed : k < 2
    · exact ⟨ts, hreach, hinv, fun j hj => hsame j (Nat.le_of_succ_le hj),
        fun j t htwo hj => by omega⟩
    · have htwo : 2 ≤ k := Nat.not_lt.mp hfixed
      have ht : x.threads[k]? = some x.threads[k] := List.getElem?_eq_getElem hk
      have hroom : System.hasRoom { x with threads := ts } k = true :=
        hasRoom_of_ended (x := { x with threads := ts }) hloop hmax hended
      have htk : ts[k]? = some x.threads[k] := (hsame k le_rfl).trans ht
      obtain ⟨t', hreach', hphase⟩ := reaches_ended hinv htk
        (hcancelled k _ htwo (Nat.lt_succ_self k) ht) hroom
      obtain ⟨events, hrun⟩ := hreach'
      have hset : (ts.set k t')[k]? = some t' := getElem?_set (x := { x with threads := ts }) htk t'
      refine ⟨ts.set k t', hreach.trans ⟨events, hrun⟩, Runs.inv_of_run inv_step hinv hrun,
        fun j hj => ?_, fun j t htwo hj hjt => ?_⟩
      · rw [List.getElem?_set_ne (Nat.ne_of_lt hj)]
        exact hsame j (Nat.le_of_succ_le hj)
      · rcases Nat.lt_succ_iff_lt_or_eq.mp hj with hj | rfl
        · rw [List.getElem?_set_ne (Nat.ne_of_gt hj)] at hjt
          exact hended j t htwo hj hjt
        · cases hset.symm.trans hjt
          exact hphase

end Ended

/-! ## The way to the reply -/

theorem answerable_of_reply (hx : Inv x) (hw : x.waiting = some w) {reply : List Byte}
    (hreply : w.reply = some reply) : Answerable x := by
  obtain ⟨hacc, ref, href, socket, hsocket, hopen, -⟩ :=
    forwardsTo_eq_some.mp (hx.waits w hw).forwards
  obtain ⟨server, hserver, -⟩ := Comms.step_sent reply hacc href hsocket hopen
  have hstep : ∃ y, x.step .reply = some y ∧ y.waiting = none := by
    unfold System.step
    dsimp only
    rw [hw, Option.bind_some, hreply, Option.bind_some, hserver]
    exact ⟨_, rfl, rfl⟩
  obtain ⟨y, hstep, hy⟩ := hstep
  exact ⟨y, .of_step hstep, hy⟩

/-- Every handler answers a request that it is given the words for. -/
theorem answersOnce_of_served (env : Comms.Surroundings) {role : Role}
    {cmd : Comms.ServerCommand} {data : DataVec} (hserved : role = .clusters → Served cmd data)
    (t : Comms.SecondaryThread (Manager role)) (h : Owing t.mCommandSocket) :
    AnswersOnce t (Secondary.handleCommand role env cmd data t) := by
  cases role with
  | udp => exact Measuring.answersOnce_udp h cmd
  | clusters => exact Measuring.answersOnce_cluster h (hserved rfl)
  | histogram => exact Measuring.answersOnce_histogram h cmd

section Way

variable (hx : Inv x) (hw : x.waiting = some w) (hreply : w.reply = none)
  (hservable : Servable w.request) {t : Secondary} (ht : x.threads[w.callee]? = some t)
include hx hw hreply hservable ht

/-- Before `pollCommands`, the thread takes the request, whether or not it is cancelled. -/
theorem answerable_of_commands (hbegun : t.begun = true) (hphase : t.outline.phase = .commands) :
    Answerable x := by
  have hgood := hx.good _ t ht
  have hwaits := hx.waits w hw
  have hacc := (forwardsTo_eq_some.mp hwaits.forwards).1
  have haligned : w.request.length % 4 = 0 := by
    have haligned := hacc.aligned
    omega
  have htaken : w.taken = false := by
    rw [hwaits.taken_iff, hreply]
    rfl
  obtain ⟨worker, reply, hcommands, houtline⟩ := Measuring.commands_answered
    hgood.settled.isOpen hphase hgood.settled.owed t.role.serverName hacc.length haligned
    hservable.1 (answersOnce_of_served Comms.quietSurroundings fun _ => hservable.2)
  have hrequest : x.arriving w.callee = some w.request := by
    unfold System.arriving
    rw [hw]
    simp [htaken]
  have hstep : x.step (.commands w.callee Comms.quietSurroundings true) = some { x with
      threads := x.threads.set w.callee { t with worker := worker }
      waiting := some { w with taken := true, reply := some reply } } := by
    unfold System.step
    dsimp only
    rw [ht, Option.bind_some, if_pos rfl, hrequest]
    unfold Secondary.commands
    rw [if_pos hbegun, hcommands, hw]
    show some { x with
      threads := x.threads.set w.callee { t with worker := worker }
      waiting := some (if w.callee = w.callee then
        System.progress t.socket worker.outline.socket w else w) } = _
    rw [if_pos rfl, houtline]
    show some { x with
      threads := x.threads.set w.callee { t with worker := worker }
      waiting := some (System.progress t.socket ((t.socket.recv w.request).send reply) w) } = _
    rw [progress_answered _ _ _ hreply]
  exact .of_step hstep (answerable_of_reply (inv_step x _ _ hx hstep) rfl rfl)

section Uncancelled

variable (hcancel : t.outline.cancelled = false)
include hcancel

theorem answerable_of_head (hbegun : t.begun = true) (hphase : t.outline.phase = .head) :
    Answerable x := by
  obtain ⟨t', hstep, hbegun', houtline⟩ := step_test ht hbegun hphase
  refine .of_step hstep (answerable_of_commands (inv_step x _ _ hx hstep) hw hreply hservable
    (getElem?_set ht t') hbegun' ?_)
  rw [houtline, hcancel]
  rfl

theorem answerable_of_begun (hbegun : t.begun = true) : Answerable x := by
  cases hphase : t.outline.phase with
  | head => exact answerable_of_head hx hw hreply hservable ht hcancel hbegun hphase
  | commands => exact answerable_of_commands hx hw hreply hservable ht hbegun hphase
  | poll =>
    obtain ⟨t', hstep, hbegun', houtline⟩ := step_poll ht hbegun hphase
    refine .of_step hstep (answerable_of_head (inv_step x _ _ hx hstep) hw hreply hservable
      (getElem?_set ht t') ?_ hbegun' ?_)
    · rw [houtline]
      exact hcancel
    · rw [houtline]
  | ended =>
    rw [(hx.good _ t ht).ended hphase] at hcancel
    exact absurd hcancel Bool.noConfusion

theorem answerable_of_hasRoom (hroom : x.hasRoom w.callee = true) : Answerable x := by
  cases hbegun : t.begun with
  | true => exact answerable_of_begun hx hw hreply hservable ht hcancel hbegun
  | false =>
    obtain ⟨t', hstep, hbegun', houtline⟩ := step_run ht hbegun hroom
    refine .of_step hstep (answerable_of_begun (inv_step x _ _ hx hstep) hw hreply hservable
      (getElem?_set ht t') ?_ hbegun')
    rw [houtline]
    exact hcancel

omit hreply hservable in
/-- The UDP threads that come before the one that is asked were cancelled. -/
theorem cancelled_of_lt {j : ℕ} {t' : Secondary} (htwo : 2 ≤ j) (hj : j < w.callee)
    (ht' : x.threads[j]? = some t') : t'.outline.cancelled = true := by
  have hforwards := (hx.waits w hw).forwards
  have hothers := (paired_of_forwardsTo hx hforwards).others
  have hstarted : w.callee < x.server.thread.threads.started :=
    (hx.waits w hw).lt.trans_le hx.length.le
  have hudp : x.server.thread.threads.mUdpThread = some w.callee := by
    refine (hothers w.callee (htwo.trans hj.le) hstarted).resolve_left fun hmem => ?_
    rw [(hx.good _ t ht).marked hmem] at hcancel
    cases hcancel
  refine (hx.good j t' ht').marked ?_
  refine (hothers j htwo (hj.trans hstarted)).resolve_right fun heq => ?_
  rw [hudp] at heq
  exact Nat.ne_of_gt hj (Option.some.inj heq)

theorem answerable_of_room (hroom : min w.callee 2 + 1 < x.maxThreadCount) : Answerable x := by
  have hwaits := hx.waits w hw
  have hloop : InLoop x.server :=
    Comms.inLoop_of_client (forwardsTo_eq_some.mp hwaits.forwards).1.phase
  by_cases hfixed : w.callee < 2
  · refine answerable_of_hasRoom hx hw hreply hservable ht hcancel ?_
    have hcount : (x.threads.take w.callee).countP (fun t => t.worker.phase ≠ .ended) ≤ w.callee :=
      List.countP_le_length.trans (List.length_take_le _ _)
    unfold System.hasRoom
    rw [if_neg hloop.notStopped, decide_eq_true_eq]
    omega
  · have hmax : 4 ≤ x.maxThreadCount := by omega
    obtain ⟨ts, hreach, hinv, hsame, hended⟩ := reaches_ended_below hx hloop hmax hwaits.lt.le
      fun j t' htwo hj ht' => cancelled_of_lt hx hw ht hcancel htwo hj ht'
    refine .of_reaches hreach (answerable_of_hasRoom hinv hw hreply hservable
      ((hsame w.callee le_rfl).trans ht) hcancel ?_)
    exact hasRoom_of_ended (x := { x with threads := ts }) hloop hmax hended

end Uncancelled

theorem answerable (hlook : WillLook x w.callee t) : Answerable x := by
  rcases hlook with ⟨hcancel, hroom⟩ | hphase
  · exact answerable_of_room hx hw hreply hservable ht hcancel hroom
  · refine answerable_of_commands hx hw hreply hservable ht ?_ hphase
    by_contra hnot
    rw [(hx.good _ t ht).idle (Bool.eq_false_of_not_eq_true hnot)] at hphase
    cases hphase

end Way

/-! ## Waiting for good -/

/-- The thread that was asked will not look for the request, or has no defined behaviour for it. -/
structure Hopeless (w : Waiting) (x : System) : Prop where
  inv : Inv x
  waiting : x.waiting = some w
  reply : w.reply = none
  cause : (∃ t, x.threads[w.callee]? = some t ∧ ¬ WillLook x w.callee t) ∨ ¬ Servable w.request

section Hopeless

variable (h : Hopeless w x)
include h

theorem Hopeless.inLoop : InLoop x.server :=
  Comms.inLoop_of_client (forwardsTo_eq_some.mp (h.inv.waits w h.waiting).forwards).1.phase

/-- A thread takes a step and does not reply. -/
theorem Hopeless.set {id : ℕ} {t t' : Secondary} (ht : x.threads[id]? = some t)
    (hlook : ¬ WillLook x id t → ¬ WillLook x id t')
    (hinv : Inv { x with threads := x.threads.set id t' }) :
    Hopeless w { x with threads := x.threads.set id t' } := by
  refine ⟨hinv, h.waiting, h.reply, h.cause.imp_left ?_⟩
  rintro ⟨t₀, ht₀, hnot⟩
  by_cases hid : id = w.callee
  · subst hid
    cases ht.symm.trans ht₀
    exact ⟨t', getElem?_set ht t', hlook hnot⟩
  · exact ⟨t₀, (List.getElem?_set_ne hid).trans ht₀, hnot⟩

/-- A thread that finds its flag not set has a place in the pool, and looks for requests next. -/
theorem Hopeless.test {id : ℕ} {t t' : Secondary} (ht : x.threads[id]? = some t)
    (ht' : t.test = some t') (hnot : ¬ WillLook x id t) : ¬ WillLook x id t' := by
  obtain ⟨-, hbegun, -, -, houtline⟩ := Secondary.test_eq_some ht'
  have hcancel : t.outline.cancelled = true := by
    by_contra hcancel
    exact hnot (Or.inl ⟨Bool.eq_false_of_not_eq_true hcancel,
      (h.inv.good id t ht).room h.inLoop hbegun⟩)
  unfold WillLook
  rw [houtline, hcancel]
  simp

/-- No request is taken. -/
theorem Hopeless.socket_eq {id : ℕ} {env : Comms.Surroundings} {arrived : Bool}
    {t t' : Secondary} (ht : x.threads[id]? = some t)
    (ht' : t.commands env (if arrived then x.arriving id else none) = some t') :
    t'.socket = t.socket := by
  have hgood := h.inv.good id t ht
  obtain ⟨-, -, -, hphase, hturn⟩ := Secondary.commands_eq_some hgood.settled.isOpen ht'
  generalize ho : t'.outline = o at hturn
  have hsocket : t'.socket = o.socket := congrArg Outline.socket ho
  have hnone : ¬ ∃ msg, (if arrived then x.arriving id else none) = some msg := by
    rintro ⟨msg, hrequest⟩
    obtain ⟨harrived, w', hw', rfl, -, rfl⟩ := arriving_eq_some hrequest
    cases h.waiting.symm.trans hw'
    rcases h.cause with ⟨t₀, ht₀, hnot⟩ | hservable
    · cases ht.symm.trans ht₀
      exact hnot (Or.inr hphase)
    · -- only the cluster thread is asked for what it cannot do
      have hforwards := (h.inv.waits w h.waiting).forwards
      have hacc := (forwardsTo_eq_some.mp hforwards).1
      have haligned : w.request.length % 4 = 0 := by
        have haligned := hacc.aligned
        omega
      have hundefined : t.worker.commands t.role.serverName
          (Secondary.handleCommand t.role env) (some w.request) = none := by
        refine Measuring.commands_undefined hgood.settled.isOpen hphase hgood.settled.owed
          hacc.length haligned fun hnonzero thread => ?_
        have hserved : ¬ Served (requestCode w.request) (requestData w.request) :=
          fun hserved => hservable ⟨hnonzero, hserved⟩
        have hzero := (forwardsTo_target (paired_of_forwardsTo h.inv hforwards) hforwards).2
          (Classical.not_imp.mp hserved).1
        have hrole := hgood.role
        rw [hzero] at hrole
        obtain ⟨role, worker, mHostPort, begun⟩ := t
        cases hrole
        exact Measuring.cluster_undefined hserved
      unfold Secondary.commands at ht'
      rw [hrequest, hundefined] at ht'
      simp at ht'
  cases hturn with
  | leave _ _ | enter _ _ | nothing _ _ | poll _ => exact hsocket
  | refused _ howed => exact absurd howed (ne_true_of_eq_false hgood.settled.owed)
  | malformed _ _ msg hrequest _ => exact absurd ⟨msg, hrequest⟩ hnone
  | answered _ _ msg hrequest _ _ => exact absurd ⟨msg, hrequest⟩ hnone

/-- The communication thread stays where it is. -/
theorem Hopeless.step {e : Event} (hstep : x.step e = some x') :
    Hopeless w x' ∧ x'.server.phase = x.server.phase ∧
      x'.server.thread.mClientManager = x.server.thread.mClientManager := by
  have hinv := inv_step x e x' h.inv hstep
  cases e with
  | comms e =>
    rcases comms_eq_some hstep with
      ⟨server, mHostPort, hserver, rfl, hquiet⟩ | ⟨msg, answer, id, rfl, hwaiting, -, -⟩
    · have hquiet : Quiet e := hquiet.resolve_right fun hnone => by
        rw [h.waiting] at hnone
        cases hnone.1
      have hserver' : server.phase = x.server.phase ∧
          server.thread.mClientManager = x.server.thread.mClientManager := by
        rcases hquiet with rfl | ⟨id, rfl⟩
        · rw [step_cancel hserver]
          exact ⟨rfl, rfl⟩
        · rw [step_finish hserver]
          exact ⟨rfl, rfl⟩
      refine ⟨⟨hinv, h.waiting, h.reply, h.cause.imp_left ?_⟩, hserver'⟩
      rintro ⟨t, ht, hnot⟩
      have hlt : w.callee < (x.proceed mHostPort server).threads.length :=
        (hinv.waits w h.waiting).lt
      obtain ⟨t', ht'⟩ : ∃ t', (x.proceed mHostPort server).threads[w.callee]? = some t' :=
        ⟨_, List.getElem?_eq_getElem hlt⟩
      obtain ⟨t₀, ht₀ | ⟨hle, -⟩, rfl⟩ := getElem?_follow ht'
      · cases ht.symm.trans ht₀
        refine ⟨_, ht', fun hlook => hnot ?_⟩
        rcases hlook with ⟨hcancel, hroom⟩ | hphase
        · rw [Secondary.mark_outline] at hcancel
          exact Or.inl ⟨(Bool.or_eq_false_iff.mp hcancel).1, hroom⟩
        · rw [Secondary.mark_outline] at hphase
          exact Or.inr hphase
      · exact absurd (h.inv.waits w h.waiting).lt (Nat.not_lt.mpr hle)
    · rw [h.waiting] at hwaiting
      cases hwaiting
  | reply =>
    obtain ⟨w', hw', reply, hreply, -⟩ := reply_eq_some h.inv hstep
    cases h.waiting.symm.trans hw'
    rw [h.reply] at hreply
    cases hreply
  | run id bindError =>
    obtain ⟨-, hstep⟩ := Option.ite_none_right_eq_some.mp hstep
    obtain ⟨t, ht, hstep⟩ := Option.bind_eq_some_iff.mp hstep
    obtain ⟨t', ht', rfl⟩ := Option.map_eq_some_iff.mp hstep
    obtain ⟨-, -, houtline⟩ := Secondary.run_eq_some ht'
    refine ⟨h.set ht (fun hnot hlook => hnot ?_) hinv, rfl, rfl⟩
    unfold WillLook at hlook
    rw [houtline] at hlook
    exact hlook.imp_left fun ⟨hcancel, hroom⟩ => ⟨(Bool.or_eq_false_iff.mp hcancel).1, hroom⟩
  | test id =>
    obtain ⟨t, ht, hstep⟩ := Option.bind_eq_some_iff.mp hstep
    obtain ⟨t', ht', rfl⟩ := Option.map_eq_some_iff.mp hstep
    exact ⟨h.set ht (h.test ht ht') hinv, rfl, rfl⟩
  | poll id manager =>
    obtain ⟨t, ht, hstep⟩ := Option.bind_eq_some_iff.mp hstep
    obtain ⟨t', ht', rfl⟩ := Option.map_eq_some_iff.mp hstep
    obtain ⟨-, -, -, -, houtline⟩ := Secondary.poll_eq_some ht'
    refine ⟨h.set ht (fun hnot hlook => hnot ?_) hinv, rfl, rfl⟩
    unfold WillLook at hlook
    rw [houtline] at hlook
    exact Or.inl (hlook.resolve_right nofun)
  | pollThrows id =>
    obtain ⟨t, ht, hstep⟩ := Option.bind_eq_some_iff.mp hstep
    obtain ⟨t', ht', rfl⟩ := Option.map_eq_some_iff.mp hstep
    obtain ⟨-, -, -, -, houtline⟩ := Secondary.pollThrows_eq_some ht'
    refine ⟨h.set ht (fun _ => ?_) hinv, rfl, rfl⟩
    unfold WillLook
    rw [houtline]
    simp
  | commands id env arrived =>
    obtain ⟨t, ht, hstep⟩ := Option.bind_eq_some_iff.mp hstep
    obtain ⟨t', ht', rfl⟩ := Option.map_eq_some_iff.mp hstep
    have hphase := (Secondary.commands_eq_some (h.inv.good id t ht).settled.isOpen ht').2.2.2.1
    rw [h.socket_eq ht ht', map_progress_self] at hinv ⊢
    exact ⟨h.set ht (fun hnot => absurd (Or.inr hphase) hnot) hinv, rfl, rfl⟩

/-- **Waiting for good.** -/
theorem Hopeless.run {events : List Event} {y : System}
    (hrun : Runs.run System.step x events = some y) :
    Hopeless w y ∧ y.server.phase = x.server.phase ∧
      y.server.thread.mClientManager = x.server.thread.mClientManager :=
  Runs.inv_of_run
    (I := fun y => Hopeless w y ∧ y.server.phase = x.server.phase ∧
      y.server.thread.mClientManager = x.server.thread.mClientManager)
    (fun y e y' hy hstep => by
      obtain ⟨hy', hphase, hclient⟩ := hy.1.step hstep
      exact ⟨hy', hphase.trans hy.2.1, hclient.trans hy.2.2⟩)
    ⟨h, rfl, rfl⟩ hrun

end Hopeless

/-- **Hanging.** Whenever the communication thread waits for a reply that was not sent yet, there is
a way to the end of the call exactly if the secondary thread will look for the request and has a
defined behaviour for it; otherwise the communication thread never gets on, whatever happens and
whether or not the user stops it. Only a UDP thread can be cancelled then. -/
theorem answer_comes_iff (maxThreadCount : ℕ) (openError : Option Comms.OpenError)
    (settings : ClusterSettings) (time : ℤ) (before : List Event) (x : System)
    (h : Runs.run System.step (.start maxThreadCount openError settings time) before = some x)
    (w : Waiting) (hw : x.waiting = some w) (hreply : w.reply = none) :
    ∃ t, x.threads[w.callee]? = some t ∧
      ((∃ after y, Runs.run System.step x after = some y ∧ y.waiting = none) ↔
        WillLook x w.callee t ∧ Servable w.request) ∧
      (t.outline.cancelled = true → t.role = .udp) ∧
      (¬ (WillLook x w.callee t ∧ Servable w.request) →
        ∀ after y, Runs.run System.step x after = some y →
          y.waiting = some w ∧ y.server.phase = .client ∧
            y.server.thread.mClientManager = x.server.thread.mClientManager) := by
  have hx : Inv x := Runs.inv_of_run inv_step (inv_start maxThreadCount openError settings time) h
  have hwaits := hx.waits w hw
  have hphase : x.server.phase = .client := (forwardsTo_eq_some.mp hwaits.forwards).1.phase
  obtain ⟨t, ht⟩ : ∃ t, x.threads[w.callee]? = some t :=
    ⟨_, List.getElem?_eq_getElem hwaits.lt⟩
  have hgood := hx.good _ t ht
  have hgone : ¬ (WillLook x w.callee t ∧ Servable w.request) →
      ∀ after y, Runs.run System.step x after = some y →
        y.waiting = some w ∧ y.server.phase = .client ∧
          y.server.thread.mClientManager = x.server.thread.mClientManager := by
    intro hcause after y hrun
    have hhopeless : Hopeless w x :=
      ⟨hx, hw, hreply, (not_and_or.mp hcause).imp_left fun hnot => ⟨t, ht, hnot⟩⟩
    obtain ⟨hy, hphase', hclient⟩ := hhopeless.run hrun
    exact ⟨hy.waiting, hphase'.trans hphase, hclient⟩
  refine ⟨t, ht, ⟨?_, fun ⟨hlook, hservable⟩ => ?_⟩, fun hcancel => ?_, hgone⟩
  · rintro ⟨after, y, hrun, hy⟩
    by_contra hcause
    rw [(hgone hcause after y hrun).1] at hy
    cases hy
  · obtain ⟨y, ⟨after, hrun⟩, hy⟩ := answerable hx hw hreply hservable ht hlook
    exact ⟨after, y, hrun, hy⟩
  · have hid : ¬ w.callee < 2 := by
      intro hid
      rw [hgood.spared (Comms.inLoop_of_client hphase) hid] at hcancel
      cases hcancel
    rw [hgood.role]
    generalize w.callee = id at hid
    match id with
    | 0 | 1 => omega
    | _ + 2 => rfl

/-- `SET_UDP_PORT` has started a UDP thread that cannot bind its port, and a client asks for the
address of its data. -/
def unbound : List Event :=
  [.comms (.iterate {}), .comms (.connected none {}), .comms .idle,
    .comms (.client (some [0xF4, 1, 0, 0, 0x89, 0x13, 0, 0]) []),
    .run 2 (some "bind: Address already in use"), .comms (.iterate {}), .comms .idle,
    .comms (.client (some [0xF6, 1, 0, 0]) [])]

theorem answer_comes_iff_unbound :
    ∃ x, Runs.run System.step (.start 4 none {} 0) unbound = some x ∧
      ¬ ∃ after y, Runs.run System.step x after = some y ∧ y.waiting = none := by
  refine ⟨_, rfl, ?_⟩
  obtain ⟨t, ht, hiff, -⟩ := answer_comes_iff 4 none {} 0 unbound _ rfl
    { callee := 2, request := [0xF6, 1, 0, 0] } rfl rfl
  cases ht
  exact fun hcomes => absurd (hiff.mp hcomes).1 (by decide)

end TpxServer.Control
