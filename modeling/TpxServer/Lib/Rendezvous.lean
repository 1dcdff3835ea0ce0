import Mathlib.Data.List.Basic
import Mathlib.Tactic.TypeStar

/-!
# Calls over request and reply sockets

A caller sends a request to one of several callees and waits for the reply before it goes on. A
callee takes the request and replies to it. As long as the callees reply to what they take, what a
callee has received and sent are the requests and the replies of the calls that were made to it, in
order, and of the one that is under way.
-/

namespace Rendezvous

variable {ι α β : Type*}

/-- A call under way. -/
structure Waiting (ι α β : Type*) where
  callee : ι
  request : α
  taken : Bool := false
  reply : Option β := none
  deriving Repr, DecidableEq

/-- A call that was made, with the replies that the caller has passed on. -/
structure Call (ι α β : Type*) where
  callee : ι
  request : α
  delivered : List β
  deriving Repr, DecidableEq

section Account

variable [DecidableEq ι]

/-- The requests that a callee should have received. -/
def requestsTo (calls : List (Call ι α β)) (waiting : Option (Waiting ι α β)) (i : ι) : List α :=
  (calls.filter (·.callee = i)).map Call.request ++
    (waiting.toList.filter fun w => w.callee = i ∧ w.taken).map Waiting.request

/-- The replies that a callee should have sent. -/
def repliesOf (calls : List (Call ι α β)) (waiting : Option (Waiting ι α β)) (i : ι) : List β :=
  (calls.filter (·.callee = i)).flatMap Call.delivered ++
    (waiting.toList.filter fun w => w.callee = i).flatMap fun w => w.reply.toList

variable {calls : List (Call ι α β)} {w : Waiting ι α β} {i : ι}

/-- Asking makes no difference to the callees. -/
theorem requestsTo_ask (callee : ι) (request : α) :
    requestsTo calls (some { callee := callee, request := request }) i =
      requestsTo calls none i := by
  unfold requestsTo
  simp

theorem repliesOf_ask (callee : ι) (request : α) :
    repliesOf calls (some { callee := callee, request := request }) i =
      repliesOf calls none i := by
  unfold repliesOf
  by_cases hi : callee = i
  · simp [hi]
  · simp [hi]

/-- A callee that takes the request and replies to it has received the one and sent the other. -/
theorem requestsTo_answer (htaken : w.taken = false) (reply : β) :
    requestsTo calls (some { w with taken := true, reply := some reply }) i =
      requestsTo calls (some w) i ++ if w.callee = i then [w.request] else [] := by
  unfold requestsTo
  by_cases hi : w.callee = i
  · simp [hi, htaken]
  · simp [hi]

theorem repliesOf_answer (hreply : w.reply = none) (reply : β) :
    repliesOf calls (some { w with taken := true, reply := some reply }) i =
      repliesOf calls (some w) i ++ if w.callee = i then [reply] else [] := by
  unfold repliesOf
  by_cases hi : w.callee = i
  · simp [hi, hreply]
  · simp [hi]

/-- A call that is over is one of the calls that were made. -/
theorem requestsTo_return (htaken : w.taken = true) (delivered : List β) :
    requestsTo (calls ++ [{ callee := w.callee, request := w.request, delivered := delivered }])
      none i = requestsTo calls (some w) i := by
  unfold requestsTo
  by_cases hi : w.callee = i
  · simp [hi, htaken]
  · simp [hi]

theorem repliesOf_return (delivered : List β) (h : delivered = w.reply.toList) :
    repliesOf (calls ++ [{ callee := w.callee, request := w.request, delivered := delivered }])
      none i = repliesOf calls (some w) i := by
  subst h
  unfold repliesOf
  by_cases hi : w.callee = i
  · simp [hi]
  · simp [hi]

end Account

end Rendezvous
