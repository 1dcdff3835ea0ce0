import TpxServer.Udp.Rollover

/-!
# Resetting the rollover counter

`resetToaRolloverCounter` clears the counter only. The armed flag and the last time of arrival of
the old stream stay, so the first fall of the new stream from above three quarters to below one
quarter counts as a rollover although nothing in the new stream has armed the detector
(`reset_eq_fresh_iff`).
-/

namespace TpxServer.Udp

/-- A time in the middle half of the period: it arms the rollover detector. -/
def Middle (f : Word) : Prop := quarter_time < f ∧ f < three_quarter_time

/-- Going from `last` to `f` is a fall across the end of the period. -/
def Fall (last f : Word) : Prop := three_quarter_time < last ∧ f < quarter_time

instance (f : Word) : Decidable (Middle f) := inferInstanceAs (Decidable (_ ∧ _))

instance (last f : Word) : Decidable (Fall last f) := inferInstanceAs (Decidable (_ ∧ _))

/-- The times, coming after `last`, fall before the first of them that lies in the middle half. -/
def FallsUnarmed : Word → List Word → Prop
  | _, [] => False
  | last, f :: fs => Fall last f ∨ (¬ Middle f ∧ FallsUnarmed f fs)

instance decFallsUnarmed : ∀ last fs, Decidable (FallsUnarmed last fs)
  | _, [] => isFalse id
  | last, f :: fs =>
    have := decFallsUnarmed f fs
    inferInstanceAs (Decidable (Fall last f ∨ (¬ Middle f ∧ FallsUnarmed f fs)))

/-- The times of arrival of the hits among the packets. -/
def hitToas (ps : List Word) : List Word := (ps.filter IsHit).map fullToa

theorem hitToas_hit {p : Word} (hp : IsHit p) (ps : List Word) :
    hitToas (p :: ps) = fullToa p :: hitToas ps := by
  unfold hitToas
  rw [List.filter_cons_of_pos (by simpa using hp), List.map_cons]

theorem hitToas_skip {p : Word} (hp : ¬ IsHit p) (ps : List Word) :
    hitToas (p :: ps) = hitToas ps := by
  unfold hitToas
  rw [List.filter_cons_of_neg (by simpa using hp)]

theorem halfway_iff {s : RolloverState} {f : Word} :
    s.halfway f = true ↔ s.mHalfwayToRollover = true ∨ Middle f := by
  simp [RolloverState.halfway, Middle]

theorem rollsOver_iff {s : RolloverState} {f : Word} :
    s.rollsOver f = true ↔ s.halfway f = true ∧ Fall s.mLastToA f := by
  simp [RolloverState.rollsOver, Fall, and_assoc]

/-- A time in the middle half is not the low end of a fall. -/
theorem not_fall_of_middle {last f : Word} (h : Middle f) : ¬ Fall last f := fun hf =>
  absurd (BitVec.lt_trans h.1 hf.2) (BitVec.lt_irrefl _)

theorem next_of_not_rollsOver {s : RolloverState} {f : Word} (h : ¬ s.rollsOver f = true) :
    s.next f = ⟨s.mRolloverCounter, s.halfway f, f⟩ := by
  unfold RolloverState.next
  rw [if_neg h]

/-- An unarmed detector does not fire at its next hit. -/
theorem not_rollsOver_of_unarmed {s : RolloverState} (hs : s.mHalfwayToRollover = false)
    (f : Word) : ¬ s.rollsOver f = true := by
  rw [rollsOver_iff, halfway_iff, hs]
  rintro ⟨hm | hm, hf⟩
  · exact absurd hm (by decide)
  · exact not_fall_of_middle hm hf

theorem next_unarmed (c : BitVec 8) (last f : Word) :
    (⟨c, false, last⟩ : RolloverState).next f = ⟨c, decide (Middle f), f⟩ := by
  have hhalf : (⟨c, false, last⟩ : RolloverState).halfway f = decide (Middle f) := by
    rw [Bool.eq_iff_iff, halfway_iff, decide_eq_true_iff]
    exact or_iff_right Bool.false_ne_true
  rw [next_of_not_rollsOver (not_rollsOver_of_unarmed rfl f), hhalf]

theorem next_armed {last f : Word} (h : ¬ Fall last f) (c : BitVec 8) :
    (⟨c, true, last⟩ : RolloverState).next f = ⟨c, true, f⟩ := by
  have hroll : ¬ (⟨c, true, last⟩ : RolloverState).rollsOver f = true :=
    fun hroll => h (rollsOver_iff.mp hroll).2
  rw [next_of_not_rollsOver hroll, halfway_iff.mpr (Or.inl rfl)]

/-- A fall is counted, and disarms the detector. -/
theorem next_armed_of_fall {last f : Word} (h : Fall last f) (c : BitVec 8) :
    (⟨c, true, last⟩ : RolloverState).next f = ⟨(c + 1) &&& 0x0F, false, f⟩ := by
  have hroll : (⟨c, true, last⟩ : RolloverState).rollsOver f = true :=
    rollsOver_iff.mpr ⟨halfway_iff.mpr (Or.inl rfl), h⟩
  unfold RolloverState.next
  rw [if_pos hroll]

/-- Two counters below 16 that publish the same word are equal. -/
theorem counter_eq_of_parsedPacket_eq {c c' : BitVec 8} (hc : c.toNat < 16) (hc' : c'.toNat < 16)
    {p : Word} (h : parsedPacket c p = parsedPacket c' p) : c.toNat = c'.toNat := by
  have ht := t_parsedPacket hc p
  have ht' := t_parsedPacket hc' p
  rw [h] at ht
  omega

/-- **Armed and unarmed.** From states that differ in the flag only, the loop publishes the same
words exactly when the stream does not fall before it arms the detector. -/
theorem publishLoop_armed_iff : ∀ (ps : List Word) (c : BitVec 8) (last last' : Word),
    c.toNat < 16 →
      ((publishLoop ⟨c, true, last⟩ ps).2 = (publishLoop ⟨c, false, last'⟩ ps).2 ↔
        ¬ FallsUnarmed last (hitToas ps)) := by
  intro ps
  induction ps with
  | nil => intro c last last' _; exact ⟨fun _ h => h, fun _ => rfl⟩
  | cons p ps ih =>
    intro c last last' hc
    by_cases hp : IsHit p
    · rw [hitToas_hit hp, FallsUnarmed, publishLoop_hit hp, publishLoop_hit hp, next_unarmed,
        List.cons.injEq]
      by_cases hfall : Fall last (fullToa p)
      · -- the armed detector counts the fall: the words differ in the counter
        rw [next_armed_of_fall hfall]
        refine ⟨fun h => ?_, fun h => absurd (Or.inl hfall) h⟩
        have heq := counter_eq_of_parsedPacket_eq
          (by rw [toNat_counter_succ]; exact Nat.mod_lt _ (by decide)) hc h.1
        rw [toNat_counter_succ] at heq
        omega
      · rw [next_armed hfall]
        by_cases hmid : Middle (fullToa p)
        · -- both are armed now, in the same state
          simp [hfall, hmid]
        · have hrest := ih c (fullToa p) (fullToa p) hc
          simp [hfall, hmid, hrest]
    · rw [hitToas_skip hp, publishLoop_skip hp, publishLoop_skip hp]
      exact ih c last last' hc

/-- The last time of arrival does not matter to an unarmed detector. -/
theorem publishLoop_unarmed : ∀ (ps : List Word) (c : BitVec 8) (last last' : Word),
    (publishLoop ⟨c, false, last⟩ ps).2 = (publishLoop ⟨c, false, last'⟩ ps).2 := by
  intro ps
  induction ps with
  | nil => intro c last last'; rfl
  | cons p ps ih =>
    intro c last last'
    by_cases hp : IsHit p
    · rw [publishLoop_hit hp, publishLoop_hit hp, next_unarmed, next_unarmed]
    · rw [publishLoop_skip hp, publishLoop_skip hp]
      exact ih c last last'

/-- The messages sent for a sequence of datagrams are determined by the words in them. -/
theorem messages_eq_iff (s s' : RolloverState) (ds : List Datagram) :
    (publishAll s ds).2 = (publishAll s' ds).2 ↔
      (publishLoop s (ds.flatMap Datagram.packets)).2 =
        (publishLoop s' (ds.flatMap Datagram.packets)).2 := by
  have hlen : ∀ (s s' : RolloverState) (ds : List Datagram),
      (publishAll s ds).2.map List.length = (publishAll s' ds).2.map List.length := by
    intro s s' ds
    induction ds generalizing s s' with
    | nil => rfl
    | cons d ds ih =>
      rw [publishAll, publishAll, List.map_cons, List.map_cons, ih, publishRawData, publishRawData,
        length_publishLoop, length_publishLoop]
  rw [← (publishAll_eq s ds).2, ← (publishAll_eq s' ds).2, List.eq_iff_flatten_eq]
  exact ⟨fun h => h.1, fun h => ⟨h, hlen s s' ds⟩⟩

/-- **Reset.** After a reset of the rollover counter the decoder publishes what a fresh one would
publish exactly when the flag is not set, or the later stream does not fall, from the last old hit
on, before a hit in the middle half. -/
theorem reset_eq_fresh_iff (s : RolloverState) (later : List Datagram) :
    (publishAll (resetToaRolloverCounter s) later).2 = (publishAll {} later).2 ↔
      ¬ (s.mHalfwayToRollover = true ∧
        FallsUnarmed s.mLastToA (hitToas (later.flatMap Datagram.packets))) := by
  obtain ⟨c, flag, last⟩ := s
  rw [messages_eq_iff]
  cases flag with
  | true =>
    rw [not_and]
    exact (publishLoop_armed_iff _ 0 last 0 (by decide)).trans ⟨fun h _ => h, fun h => h rfl⟩
  | false =>
    exact ⟨fun _ h => absurd h.1 Bool.false_ne_true, fun _ => publishLoop_unarmed _ 0 last 0⟩

/-- A stream that ends late in the period, a reset, and a stream that starts early in it: the first
new hit is stamped one epoch too late. -/
theorem reset_ne_fresh :
    (publishAll
        (resetToaRolloverCounter
          (publishAll {} [datagramOf [0x200000000, 0x300000005] (by decide)]).1)
        [datagramOf [3] (by decide)]).2 ≠
      (publishAll {} [datagramOf [3] (by decide)]).2 := by
  decide +kernel

end TpxServer.Udp
