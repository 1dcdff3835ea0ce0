import Mathlib.Data.List.Basic
import Mathlib.Logic.Function.Basic

/-!
# Publishers and subscribers

Messages are published under topics. A subscriber listens to at most one topic at a time; the
messages of its topic wait in its inbox in the order of their publication until it takes them. A
message may be lost on the way to one subscriber and reach another, and connecting a subscriber anew
empties its inbox.

What a subscriber took and what waits for it is a subsequence of the publications (`Faithful`), so
nothing comes twice, out of order or from nowhere. While nothing is lost to a subscriber that stays
connected, it is all that was published under its topic (`line_acts`).
-/

namespace PubSub

/-- `taken` keeps what was taken from the inbox. -/
structure Subscriber (τ α : Type*) where
  topic : Option τ := none
  inbox : List (τ × α) := []
  taken : List (τ × α) := []
  deriving Repr, DecidableEq

/-- `log` keeps all publications. -/
structure Network (τ κ α : Type*) where
  log : List (τ × α) := []
  subscriber : κ → Subscriber τ α := fun _ => {}

/-- `accepts` tells which subscribers a message reaches. -/
inductive Action (τ κ α : Type*) where
  | publish (topic : τ) (message : α) (accepts : κ → Bool)
  | connect (k : κ) (topic : Option τ)
  | take (k : κ)

variable {τ κ α : Type*}

namespace Subscriber

/-- What was taken and what is waiting, in order. -/
def line (s : Subscriber τ α) : List (τ × α) := s.taken ++ s.inbox

def offer [DecidableEq τ] (s : Subscriber τ α) (topic : τ) (message : α) (accepted : Bool) :
    Subscriber τ α :=
  if accepted ∧ s.topic = some topic then { s with inbox := s.inbox ++ [(topic, message)] } else s

def connect (s : Subscriber τ α) (topic : Option τ) : Subscriber τ α :=
  { s with topic := topic, inbox := [] }

/-- The first waiting message is taken. -/
def take (s : Subscriber τ α) : Subscriber τ α :=
  { s with inbox := s.inbox.tail, taken := s.taken ++ s.inbox.head?.toList }

theorem line_take (s : Subscriber τ α) : s.take.line = s.line := by
  unfold take line
  cases h : s.inbox with
  | nil => simp
  | cons p inbox => simp

@[simp] theorem topic_take (s : Subscriber τ α) : s.take.topic = s.topic := rfl

@[simp] theorem topic_offer [DecidableEq τ] (s : Subscriber τ α) (topic : τ) (message : α)
    (accepted : Bool) : (s.offer topic message accepted).topic = s.topic := by
  unfold offer
  split_ifs
  · rfl
  · rfl

@[simp] theorem taken_offer [DecidableEq τ] (s : Subscriber τ α) (topic : τ) (message : α)
    (accepted : Bool) : (s.offer topic message accepted).taken = s.taken := by
  unfold offer
  split_ifs
  · rfl
  · rfl

end Subscriber

namespace Network

variable [DecidableEq τ] [DecidableEq κ]

def act (n : Network τ κ α) : Action τ κ α → Network τ κ α
  | .publish topic message accepts =>
    { log := n.log ++ [(topic, message)]
      subscriber := fun k => (n.subscriber k).offer topic message (accepts k) }
  | .connect k topic =>
    { n with subscriber := Function.update n.subscriber k ((n.subscriber k).connect topic) }
  | .take k => { n with subscriber := Function.update n.subscriber k (n.subscriber k).take }

def acts (n : Network τ κ α) (actions : List (Action τ κ α)) : Network τ κ α := actions.foldl act n

/-- The messages published under a topic. -/
def published (n : Network τ κ α) (topic : τ) : List α :=
  (n.log.filter (·.1 = topic)).map Prod.snd

end Network

/-- The publications among the actions. -/
def Action.posts : Action τ κ α → List (τ × α)
  | .publish topic message _ => [(topic, message)]
  | _ => []

/-! ## Deliveries -/

/-- The line of the subscriber is a subsequence of the log, and everything in its inbox has the
topic it listens to. -/
structure Faithful (log : List (τ × α)) (s : Subscriber τ α) : Prop where
  sublist : s.line.Sublist log
  topic : ∀ p ∈ s.inbox, s.topic = some p.1

section Faithful

variable {log : List (τ × α)} {s : Subscriber τ α}

theorem Faithful.offer [DecidableEq τ] (h : Faithful log s) (topic : τ) (message : α)
    (accepted : Bool) : Faithful (log ++ [(topic, message)]) (s.offer topic message accepted) := by
  unfold Subscriber.offer
  split_ifs with hoffer
  · refine ⟨?_, ?_⟩
    · show (s.taken ++ (s.inbox ++ [(topic, message)])).Sublist _
      rw [← List.append_assoc]
      exact h.sublist.append (List.Sublist.refl _)
    · intro p hp
      rcases List.mem_append.mp hp with hp | hp
      · exact h.topic p hp
      · rw [List.mem_singleton.mp hp]
        exact hoffer.2
  · exact ⟨h.sublist.trans (List.sublist_append_left log _), h.topic⟩

theorem Faithful.connect (h : Faithful log s) (topic : Option τ) :
    Faithful log (s.connect topic) where
  sublist := by
    show (s.taken ++ []).Sublist log
    rw [List.append_nil]
    exact (List.sublist_append_left s.taken s.inbox).trans h.sublist
  topic := fun p hp => absurd hp List.not_mem_nil

theorem Faithful.take (h : Faithful log s) : Faithful log s.take where
  sublist := s.line_take ▸ h.sublist
  topic := fun p hp => h.topic p (List.mem_of_mem_tail hp)

end Faithful

theorem faithful_empty (k : κ) :
    Faithful ({} : Network τ κ α).log (({} : Network τ κ α).subscriber k) :=
  ⟨List.nil_sublist _, fun _ hp => absurd hp List.not_mem_nil⟩

variable [DecidableEq τ] [DecidableEq κ]

/-- Every action keeps the deliveries faithful. -/
theorem faithful_act {n : Network τ κ α} (h : ∀ k, Faithful n.log (n.subscriber k))
    (a : Action τ κ α) : ∀ k, Faithful (n.act a).log ((n.act a).subscriber k) := by
  intro k
  cases a with
  | publish topic message accepts => exact (h k).offer topic message (accepts k)
  | connect k' topic =>
    by_cases hk : k = k'
    · subst hk
      simpa [Network.act] using (h k).connect topic
    · simpa [Network.act, hk] using h k
  | take k' =>
    by_cases hk : k = k'
    · subst hk
      simpa [Network.act] using (h k).take
    · simpa [Network.act, hk] using h k

theorem faithful_acts (actions : List (Action τ κ α)) : ∀ {n : Network τ κ α},
    (∀ k, Faithful n.log (n.subscriber k)) →
      ∀ k, Faithful (n.acts actions).log ((n.acts actions).subscriber k) := by
  induction actions with
  | nil => exact fun h => h
  | cons a actions ih => exact fun h => ih (faithful_act h a)

theorem log_act (n : Network τ κ α) (a : Action τ κ α) : (n.act a).log = n.log ++ a.posts := by
  cases a with
  | publish topic message accepts => rfl
  | connect k topic => exact (List.append_nil n.log).symm
  | take k => exact (List.append_nil n.log).symm

theorem log_acts (actions : List (Action τ κ α)) : ∀ n : Network τ κ α,
    (n.acts actions).log = n.log ++ actions.flatMap Action.posts := by
  induction actions with
  | nil => exact fun n => (List.append_nil n.log).symm
  | cons a actions ih =>
    intro n
    rw [List.flatMap_cons, ← List.append_assoc, ← log_act]
    exact ih (n.act a)

/-- Publishing takes nothing from an inbox. -/
theorem taken_publish (posts : List (τ × α)) (accepts : κ → Bool) (k : κ) :
    ∀ n : Network τ κ α,
      ((n.acts (posts.map fun p => .publish p.1 p.2 accepts)).subscriber k).taken =
        (n.subscriber k).taken := by
  induction posts with
  | nil => exact fun n => rfl
  | cons p posts ih =>
    intro n
    exact (ih (n.act (.publish p.1 p.2 accepts))).trans (Subscriber.taken_offer _ _ _ _)

/-! ## Confined subscribers -/

/-- The subscriber listens to topics of a kind only, and so does its line. -/
structure Confined (S : τ → Prop) (s : Subscriber τ α) : Prop where
  topic : ∀ t, s.topic = some t → S t
  line : ∀ p ∈ s.line, S p.1

/-- The action does not connect the subscriber to a topic of another kind. -/
def Action.Confines (k : κ) (S : τ → Prop) : Action τ κ α → Prop
  | .connect k' topic => k' = k → ∀ t, topic = some t → S t
  | _ => True

section Confined

variable {k : κ} {S : τ → Prop}

theorem Confined.offer {s : Subscriber τ α} (h : Confined S s) (topic : τ) (message : α)
    (accepted : Bool) : Confined S (s.offer topic message accepted) := by
  refine ⟨by rw [Subscriber.topic_offer]; exact h.topic, ?_⟩
  unfold Subscriber.offer
  split_ifs with hoffer
  · intro p hp
    rw [Subscriber.line, ← List.append_assoc, List.mem_append, List.mem_singleton] at hp
    rcases hp with hp | rfl
    · exact h.line p hp
    · exact h.topic topic hoffer.2
  · exact h.line

omit [DecidableEq τ] in
theorem Confined.connect {s : Subscriber τ α} (h : Confined S s) {topic : Option τ}
    (htopic : ∀ t, topic = some t → S t) : Confined S (s.connect topic) where
  topic := htopic
  line := by
    intro p hp
    rw [Subscriber.line, Subscriber.connect, List.append_nil] at hp
    exact h.line p (List.mem_append_left _ hp)

theorem confined_act {n : Network τ κ α} (h : Confined S (n.subscriber k)) {a : Action τ κ α}
    (ha : a.Confines k S) : Confined S ((n.act a).subscriber k) := by
  cases a with
  | publish topic message accepts => exact h.offer topic message (accepts k)
  | connect k' topic =>
    by_cases hk : k = k'
    · subst hk
      simpa [Network.act] using h.connect (ha rfl)
    · simpa [Network.act, hk] using h
  | take k' =>
    by_cases hk : k = k'
    · subst hk
      have htake : Confined S (n.subscriber k).take :=
        ⟨h.topic, (n.subscriber k).line_take ▸ h.line⟩
      simpa [Network.act] using htake
    · simpa [Network.act, hk] using h

/-- A subscriber that is connected to topics of a kind only is given messages of this kind only. -/
theorem confined_acts (actions : List (Action τ κ α)) : ∀ {n : Network τ κ α},
    Confined S (n.subscriber k) → (∀ a ∈ actions, a.Confines k S) →
      Confined S ((n.acts actions).subscriber k) := by
  induction actions with
  | nil => exact fun h _ => h
  | cons a actions ih =>
    intro n h hactions
    rw [List.forall_mem_cons] at hactions
    exact ih (confined_act h hactions.1) hactions.2

omit [DecidableEq κ] in
/-- What a subscriber of one topic is given is a subsequence of the messages of this topic. -/
theorem Confined.sublist_published {n : Network τ κ α} {topic : τ}
    (h : Confined (· = topic) (n.subscriber k)) (hf : Faithful n.log (n.subscriber k)) :
    ((n.subscriber k).line.map Prod.snd).Sublist (n.published topic) := by
  have hline : (n.subscriber k).line.filter (·.1 = topic) = (n.subscriber k).line :=
    List.filter_eq_self.mpr fun p hp => decide_eq_true (h.line p hp)
  unfold Network.published
  rw [← hline]
  exact (hf.sublist.filter _).map _

end Confined

/-! ## Subscribers that stay connected -/

/-- The action does not connect the subscriber anew. -/
def Action.Stays (k : κ) : Action τ κ α → Prop
  | .connect k' _ => k' ≠ k
  | _ => True

section Stays

variable {k : κ}

theorem topic_act {a : Action τ κ α} (h : a.Stays k) (n : Network τ κ α) :
    ((n.act a).subscriber k).topic = (n.subscriber k).topic := by
  cases a with
  | publish topic message accepts => exact Subscriber.topic_offer _ _ _ _
  | connect k' topic =>
    have hk : k ≠ k' := fun heq => h heq.symm
    simp [Network.act, hk]
  | take k' =>
    by_cases hk : k = k'
    · subst hk
      simp [Network.act]
    · simp [Network.act, hk]

theorem topic_acts {actions : List (Action τ κ α)} (h : ∀ a ∈ actions, a.Stays k) :
    ∀ n : Network τ κ α, ((n.acts actions).subscriber k).topic = (n.subscriber k).topic := by
  induction actions with
  | nil => exact fun n => rfl
  | cons a actions ih =>
    intro n
    rw [List.forall_mem_cons] at h
    exact (ih h.2 (n.act a)).trans (topic_act h.1 n)

end Stays

/-! ## Nothing lost -/

/-- The action neither loses a message to the subscriber nor connects it anew. -/
def Action.Keeps (k : κ) : Action τ κ α → Prop
  | .publish _ _ accepts => accepts k = true
  | .connect k' _ => k' ≠ k
  | .take _ => True

section Keeps

variable {k : κ}

omit [DecidableEq τ] [DecidableEq κ] in
theorem Action.Keeps.stays {a : Action τ κ α} (h : a.Keeps k) : a.Stays k := by
  cases a with
  | publish topic message accepts => trivial
  | connect k' topic => exact h
  | take k' => trivial

/-- The line grows by what is published under the topic. -/
theorem line_act {a : Action τ κ α} (h : a.Keeps k) (n : Network τ κ α) :
    ((n.act a).subscriber k).line =
      (n.subscriber k).line ++ a.posts.filter ((n.subscriber k).topic = some ·.1) := by
  cases a with
  | publish topic message accepts =>
    show ((n.subscriber k).offer topic message (accepts k)).line = _
    have haccepted : accepts k = true := h
    unfold Subscriber.offer Action.posts
    by_cases htopic : (n.subscriber k).topic = some topic
    · rw [if_pos ⟨haccepted, htopic⟩, List.filter_cons_of_pos (by simpa using htopic),
        List.filter_nil]
      simp [Subscriber.line]
    · rw [if_neg fun hoffer => htopic hoffer.2, List.filter_cons_of_neg (by simpa using htopic),
        List.filter_nil, List.append_nil]
  | connect k' topic =>
    have hk : k ≠ k' := fun heq => h heq.symm
    simp [Network.act, hk, Action.posts]
  | take k' =>
    by_cases hk : k = k'
    · subst hk
      simp [Network.act, Action.posts, Subscriber.line_take]
    · simp [Network.act, hk, Action.posts]

/-- **Nothing lost.** A subscriber that stays connected and loses nothing takes, or has waiting, all
that is published under its topic. -/
theorem line_acts {actions : List (Action τ κ α)} (h : ∀ a ∈ actions, a.Keeps k) :
    ∀ n : Network τ κ α, ((n.acts actions).subscriber k).line =
      (n.subscriber k).line ++
        (actions.flatMap Action.posts).filter ((n.subscriber k).topic = some ·.1) := by
  induction actions with
  | nil => exact fun n => (List.append_nil _).symm
  | cons a actions ih =>
    intro n
    rw [List.forall_mem_cons] at h
    have htail := ih h.2 (n.act a)
    rw [topic_act h.1.stays n, line_act h.1 n] at htail
    rw [List.flatMap_cons, List.filter_append, ← List.append_assoc]
    exact htail

end Keeps

end PubSub
