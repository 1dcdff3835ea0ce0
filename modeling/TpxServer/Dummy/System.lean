import TpxServer.Comms.Relaying

/-!
# The server and the test server

The communication thread and the test server, with the bytes that are on the way between them. An
operation completes with any part of the bytes there are; that the network fails is left out. The
test server accepts a single connection. When the thread closes it, be it to reset the module, the
reads of the test server end, and what the thread sends over a new connection is read by nobody.
-/

namespace TpxServer.Dummy

open Comms Comms.TimepixConnectionManager Comms.PythonConnectionManager

/-! ## The test bench -/

/-- The connection that the test server accepts. -/
inductive Link where
  | unconnected
  | connected
  | closed
  deriving Repr, DecidableEq

structure Bench where
  server : Server := Server.start none
  spidr : SpidrServer := {}
  link : Link := .unconnected
  /-- The test server has called `acceptTcp`. -/
  accepted : Bool := false
  /-- The bytes on the way to the test server. -/
  up : List Byte := []
  /-- The bytes on the way to the thread. -/
  down : List Byte := []
  deriving DecidableEq

inductive Event where
  /-- A step of the thread that is no end of an operation on the socket. -/
  | server (e : Comms.Event)
  /-- The connection is there. -/
  | connect
  | accept
  /-- `async_send` of the thread completes, with `n` bytes. -/
  | serverSends (n : ℕ)
  /-- `async_read_some` of the test server completes, with `n` bytes. -/
  | spidrReads (n : ℕ)
  | spidrSends (n : ℕ)
  | serverReads (n : ℕ)
  deriving DecidableEq

/-- The iteration resets the module. -/
def resets (x : Server) : Comms.Event → Bool
  | .iterate _ =>
    !x.thread.mShouldCancel && (nextCommand x.thread).any (·.command = .CMD_RESET_MODULE)
  | _ => false

namespace Bench

/-- The connection is closed, and what is on the way is lost. -/
def hangUp (b : Bench) : Bench := { b with link := .closed, up := [], down := [] }

/-- After a step of the thread. A reset makes a new connection, at once. -/
def afterStep (b : Bench) (reset : Bool) (server : Server) : Bench :=
  let b := { b with server := server }
  if b.link = .connected ∧ (reset ∨ server.thread.mTpxManager.mIsConnected = false) then b.hangUp
  else b

/-- The bytes that a side has sent. -/
def carry (b : Bench) (line bytes : List Byte) : List Byte :=
  if b.link = .connected then line ++ bytes else line

/-- How many bytes the test server can read: some of those on the way, or the end of the
connection. -/
def CanRead (b : Bench) (n : ℕ) : Prop :=
  0 < b.spidr.pendingReads ∧ n ≤ b.up.length ∧ n ≤ b.spidr.mTcpReceiveBuffer.length ∧
    (b.link = .connected ∧ 0 < n ∨ b.link = .closed ∧ n = 0)

instance (b : Bench) (n : ℕ) : Decidable (b.CanRead n) := inferInstanceAs (Decidable (_ ∧ _))

def step (b : Bench) : Event → Option Bench
  | .server e =>
    if e.ofSocket then none
    else (Server.step b.server e).map (b.afterStep (resets b.server e))
  | .connect =>
    (Server.step b.server (.connected none {})).map fun server =>
      { b with
        server := server
        link := if b.link = .unconnected then .connected else b.link }
  | .accept =>
    if b.link = .unconnected ∨ b.accepted then none
    else some { b with accepted := true, spidr := b.spidr.acceptTcp }
  | .serverSends n =>
    match b.server.thread.mTpxManager.pendingSend with
    | none => none
    | some bytes =>
      if n ≤ bytes.length then
        (Server.step b.server (.sent none n)).map fun server =>
          { b with server := server, up := b.carry b.up (bytes.take n) }
      else none
  | .spidrReads n =>
    if b.CanRead n then
      (b.spidr.received (b.up.take n)).map fun spidr => { b with spidr := spidr, up := b.up.drop n }
    else none
  | .spidrSends n =>
    match b.spidr.pendingSends with
    | [] => none
    | size :: _ =>
      if n ≤ size then
        some { b with
          spidr := b.spidr.sent
          down := b.carry b.down (b.spidr.mTcpSendBuffer.take n) }
      else none
  | .serverReads n =>
    if 0 < n ∧ n ≤ b.down.length then
      (Server.step b.server (.received none (b.down.take n))).map fun server =>
        { b with server := server, down := b.down.drop n }
    else none

/-- The requests that the client manager has received, and its replies. -/
def requests (b : Bench) : List (List Byte) := b.server.view.client.mCommandSocket.received

def replies (b : Bench) : List (List Byte) := b.server.view.client.mCommandSocket.sent

end Bench

/-! ## Inversion -/

/-- The steps of the bench. -/
inductive Moves (b : Bench) : Event → Bench → Prop where
  | server {e : Comms.Event} {x' : Server} (he : e.ofSocket = false)
      (hstep : Server.step b.server e = some x') :
      Moves b (.server e) (b.afterStep (resets b.server e) x')
  | connect {x' : Server} (hstep : Server.step b.server (.connected none {}) = some x') :
      Moves b .connect { b with
        server := x'
        link := if b.link = .unconnected then .connected else b.link }
  | accept (hlink : b.link ≠ .unconnected) (haccepted : b.accepted = false) :
      Moves b .accept { b with accepted := true, spidr := b.spidr.acceptTcp }
  | serverSends {n : ℕ} {bytes : List Byte} {x' : Server}
      (hsend : b.server.thread.mTpxManager.pendingSend = some bytes) (hle : n ≤ bytes.length)
      (hstep : Server.step b.server (.sent none n) = some x') :
      Moves b (.serverSends n) { b with server := x', up := b.carry b.up (bytes.take n) }
  | spidrReads {n : ℕ} {s : SpidrServer} (hread : b.CanRead n)
      (hs : b.spidr.received (b.up.take n) = some s) :
      Moves b (.spidrReads n) { b with spidr := s, up := b.up.drop n }
  | spidrSends {n size : ℕ} {sizes : List ℕ} (hsends : b.spidr.pendingSends = size :: sizes)
      (hle : n ≤ size) :
      Moves b (.spidrSends n) { b with
        spidr := b.spidr.sent
        down := b.carry b.down (b.spidr.mTcpSendBuffer.take n) }
  | serverReads {n : ℕ} {x' : Server} (hpos : 0 < n) (hle : n ≤ b.down.length)
      (hstep : Server.step b.server (.received none (b.down.take n)) = some x') :
      Moves b (.serverReads n) { b with server := x', down := b.down.drop n }

theorem moves_of_step {b b' : Bench} {e : Event} (h : Bench.step b e = some b') : Moves b e b' := by
  unfold Bench.step at h
  cases e with
  | server e =>
    dsimp only at h
    split at h
    · cases h
    · rename_i he
      obtain ⟨x', hstep, rfl⟩ := Option.map_eq_some_iff.mp h
      exact .server (Bool.eq_false_of_not_eq_true he) hstep
  | connect =>
    obtain ⟨x', hstep, rfl⟩ := Option.map_eq_some_iff.mp h
    exact .connect hstep
  | accept =>
    dsimp only at h
    split at h
    · cases h
    · rename_i hfree
      cases h
      obtain ⟨hlink, haccepted⟩ := not_or.mp hfree
      exact .accept hlink (Bool.eq_false_of_not_eq_true haccepted)
  | serverSends n =>
    dsimp only at h
    split at h
    · cases h
    rename_i bytes hsend
    split at h
    · rename_i hle
      obtain ⟨x', hstep, rfl⟩ := Option.map_eq_some_iff.mp h
      exact .serverSends hsend hle hstep
    · cases h
  | spidrReads n =>
    dsimp only at h
    split at h
    · rename_i hread
      obtain ⟨s, hs, rfl⟩ := Option.map_eq_some_iff.mp h
      exact .spidrReads hread hs
    · cases h
  | spidrSends n =>
    dsimp only at h
    split at h
    · cases h
    rename_i size sizes hsends
    split at h
    · rename_i hle
      cases h
      exact .spidrSends hsends hle
    · cases h
  | serverReads n =>
    dsimp only at h
    split at h
    · rename_i hlen
      obtain ⟨x', hstep, rfl⟩ := Option.map_eq_some_iff.mp h
      exact .serverReads hlen.1 hlen.2 hstep
    · cases h

/-! ## Whole transfers -/

/-- An operation that completes takes all the bytes there are. -/
def Whole (b : Bench) : Event → Prop
  | .serverSends n => n = (b.server.thread.mTpxManager.pendingSend.getD []).length
  | .spidrReads n => n = b.up.length
  | .spidrSends n => b.spidr.pendingSends.head? = some n
  | .serverReads n => n = b.down.length
  | _ => True

instance (b : Bench) : DecidablePred (Whole b)
  | .serverSends _ | .spidrReads _ | .serverReads _ => inferInstanceAs (Decidable (_ = _))
  | .spidrSends _ => inferInstanceAs (Decidable (_ = _))
  | .server _ | .connect | .accept => inferInstanceAs (Decidable True)

/-! ## The client at the device -/

/-- What is seen of the bench by a client, were the device at hand. `device` is its voltage, as long
as the connection is there. -/
structure Desk where
  connected : Bool := false
  device : Option ℚ := some 12
  pending : Option (List Byte) := none
  received : List (List Byte) := []
  sent : List (List Byte) := []

inductive Desk.Event where
  | connect
  /-- A request before there is a connection. -/
  | refuse (msg : List Byte)
  /-- A request that asks for no SPIDR command. -/
  | other (msg reply : List Byte)
  /-- A request for the device. -/
  | ask (msg : List Byte)
  | answer
  | reset

namespace Desk

/-- The answer of the device to the pending request, and its new voltage. -/
def answer (a : Desk) : Option (ℚ × List Byte) :=
  a.device.bind fun voltage => a.pending.bind fun msg => (commandOf msg).bind fun c =>
    (SpidrServer.serve voltage c.1 (padded c.2)).map fun answer =>
      (answer.1, wordsToBytes ((requestCode msg).code :: answer.2))

/-- The answer to the pending request if it resets the module. -/
def resetAnswer (a : Desk) : Option (List Byte) :=
  a.pending.bind fun msg => (commandOf msg).bind fun c =>
    if c.1 = .CMD_RESET_MODULE then some (wordsToBytes [(requestCode msg).code]) else none

def step (a : Desk) : Desk.Event → Option Desk
  | .connect => if a.connected then none else some { a with connected := true }
  | .refuse msg =>
    if a.connected then none
    else some { a with received := a.received ++ [msg], sent := a.sent ++ [refusal] }
  | .other msg reply =>
    if a.connected ∧ a.pending = none ∧ commandOf msg = none then
      some { a with received := a.received ++ [msg], sent := a.sent ++ [reply] }
    else none
  | .ask msg =>
    if a.connected ∧ a.pending = none ∧ (commandOf msg).isSome then
      some { a with received := a.received ++ [msg], pending := some msg }
    else none
  | .answer =>
    a.answer.map fun answer =>
      { a with device := some answer.1, pending := none, sent := a.sent ++ [answer.2] }
  | .reset =>
    a.resetAnswer.map fun reply =>
      { a with device := none, pending := none, sent := a.sent ++ [reply] }

end Desk

end TpxServer.Dummy
