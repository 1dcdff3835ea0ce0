import TpxServer.Lib.Epochs
import TpxServer.Udp.Decoder

/-!
# Rollover detection under reordering

The decoder refines the epoch tracker with a quarter of `2 ^ 32` ticks, its counter being the
tracker's count modulo 16 (`refines_next`). A stream of hits carries true times `T`, the time of
arrival of a hit being `T % 2 ^ 34`.

1. Every rollover is counted exactly once, whatever the interleaving of old and new hits
   (`counter_eq_epoch`).
2. A published time is the true time exactly when the hit is not late across a rollover: a hit from
   before the rollover that arrives after it is stamped with the counter of the new epoch
   (`times_true_iff`).
3. A stream in order can start at any time: the published times are true up to one number of epochs
   unless the stream starts in the last quarter of an epoch and goes on after it
   (`times_shifted_iff`).
-/

namespace TpxServer.Udp

open Epochs

theorem toNat_quarter_time : quarter_time.toNat = 2 ^ 32 := by decide

theorem toNat_three_quarter_time : three_quarter_time.toNat = 3 * 2 ^ 32 := by decide

/-! ## The decoder refines the tracker -/

/-- The decoder state is the tracker state, with the count modulo 16. -/
structure Refines (s : RolloverState) (a : Tracker) : Prop where
  counter_eq : s.mRolloverCounter.toNat = a.count % 16
  halfway_eq : s.mHalfwayToRollover = a.armed
  last_eq : s.mLastToA.toNat = a.last

theorem refines_fresh : Refines {} ⟨0, false, 0⟩ := ⟨rfl, rfl, rfl⟩

section Simulation

variable {s : RolloverState} {a : Tracker}

theorem halfway_eq_arm (h : Refines s a) (f : Word) : s.halfway f = a.arm (2 ^ 32) f.toNat := by
  unfold RolloverState.halfway Tracker.arm
  rw [h.halfway_eq]
  simp only [gt_iff_lt, BitVec.lt_def, toNat_quarter_time, toNat_three_quarter_time]

theorem rollsOver_eq_fires (h : Refines s a) (f : Word) :
    s.rollsOver f = a.fires (2 ^ 32) f.toNat := by
  unfold RolloverState.rollsOver Tracker.fires
  rw [halfway_eq_arm h]
  simp only [gt_iff_lt, BitVec.lt_def, toNat_quarter_time, toNat_three_quarter_time, h.last_eq]

theorem toNat_counter_succ (c : BitVec 8) : ((c + 1) &&& 0x0F).toNat = (c.toNat + 1) % 16 := by
  rw [toNat_and_mask _ _ (n := 4) rfl, BitVec.toNat_add]
  show (c.toNat + 1) % 256 % 16 = _
  omega

/-- **Simulation.** Looking at a hit is a step of the tracker. -/
theorem refines_next (h : Refines s a) (f : Word) :
    Refines (s.next f) (a.next (2 ^ 32) f.toNat) := by
  unfold RolloverState.next Tracker.next
  rw [rollsOver_eq_fires h]
  by_cases hf : a.fires (2 ^ 32) f.toNat = true
  · rw [if_pos hf, if_pos hf]
    refine ⟨?_, rfl, rfl⟩
    show ((s.mRolloverCounter + 1) &&& 0x0F).toNat = _
    rw [toNat_counter_succ, h.counter_eq, Nat.mod_add_mod]
  · rw [if_neg hf, if_neg hf]
    exact ⟨h.counter_eq, halfway_eq_arm h f, rfl⟩

/-- The counter stays below 16. -/
theorem counter_lt (h : Refines s a) : s.mRolloverCounter.toNat < 16 := by
  rw [h.counter_eq]
  exact Nat.mod_lt _ (by decide)

end Simulation

/-! ## Hit streams -/

/-- The words are hits at the true times `Ts`. -/
def HitsAt (ps : List Word) (Ts : List ℕ) : Prop :=
  (ps.filter IsHit).map (fun p => (fullToa p).toNat) = Ts.map (· % 2 ^ 34)

instance (ps : List Word) (Ts : List ℕ) : Decidable (HitsAt ps Ts) :=
  inferInstanceAs (Decidable (_ = _))

/-- Along a hit stream the states of the decoder refine the states of the tracker. -/
theorem refines_hitStates : ∀ (ps : List Word) (Ts : List ℕ) (s : RolloverState) (a : Tracker),
    Refines s a → HitsAt ps Ts →
      List.Forall₂ Refines (hitStates s ps) (trackAll (2 ^ 32) a Ts) := by
  intro ps
  induction ps with
  | nil =>
    intro Ts s a _ hT
    cases Ts with
    | nil => exact List.Forall₂.nil
    | cons T Ts => exact absurd hT (by simp [HitsAt])
  | cons p ps ih =>
    intro Ts s a hs hT
    unfold HitsAt at hT
    by_cases h : IsHit p
    · rw [List.filter_cons_of_pos (by simpa using h)] at hT
      cases Ts with
      | nil => exact absurd hT (by simp)
      | cons T Ts =>
        rw [List.map_cons, List.map_cons, List.cons.injEq] at hT
        obtain ⟨hp, hps⟩ := hT
        have hnext := refines_next hs (fullToa p)
        rw [hp] at hnext
        rw [hitStates_hit h, trackAll]
        exact List.Forall₂.cons hnext (ih Ts _ _ hnext hps)
    · rw [List.filter_cons_of_neg (by simpa using h)] at hT
      rw [hitStates_skip h]
      exact ih Ts s a hs hT

theorem counters_of_refines {ss : List RolloverState} {as : List Tracker}
    (h : List.Forall₂ Refines ss as) :
    ss.map (fun s => s.mRolloverCounter.toNat) = (as.map Tracker.count).map (· % 16) := by
  induction h with
  | nil => rfl
  | cons hs _ ih => rw [List.map_cons, List.map_cons, List.map_cons, ih, hs.counter_eq]

/-- The times published along a hit stream are the stamps of the tracker. -/
theorem times_of_refines {ss : List RolloverState} {as : List Tracker}
    (h : List.Forall₂ Refines ss as) : ∀ {hits : List Word} {Ts : List ℕ},
      hits.map (fun p => (fullToa p).toNat) = Ts.map (· % 2 ^ 34) →
        (List.zipWith (fun s p => parsedPacket s.mRolloverCounter p) ss hits).map
            (fun w => (Packet.mk w).t) =
          (stamps (2 ^ 32) 16 as Ts).map (fun n : ℕ => (n : ℤ)) := by
  induction h with
  | nil => intro hits Ts _; rfl
  | @cons s a ss as hs _ ih =>
    intro hits Ts hT
    cases hits with
    | nil =>
      cases Ts with
      | nil => rfl
      | cons T Ts => exact absurd hT (by simp)
    | cons p hits =>
      cases Ts with
      | nil => exact absurd hT (by simp)
      | cons T Ts =>
        rw [List.map_cons, List.map_cons, List.cons.injEq] at hT
        obtain ⟨hp, hps⟩ := hT
        have hstamp : (Packet.mk (parsedPacket s.mRolloverCounter p)).t =
            (stamp (2 ^ 32) 16 a.count (T % (4 * 2 ^ 32)) : ℕ) := by
          rw [t_parsedPacket (counter_lt hs), hp, hs.counter_eq]
          rfl
        rw [stamps, List.zipWith_cons_cons, List.zipWith_cons_cons, List.map_cons, List.map_cons,
          hstamp, ih hps, stamps]

/-! ## A stream with a late hit

The hits walk through the first epoch and into the second, and the last two go back and forth across
the rollover: 10 ticks before it, 5 after it, 5 before it. -/

/-- A hit in column 0, row 0 with ToT 0 at the given time of arrival. -/
def hitAt (toa : Word) : Word :=
  0xB000000000000000 ||| ((toa >>> 4 &&& 0x3FFF) <<< 30) ||| (((toa &&& 0xF) ^^^ 0xF) <<< 16) |||
    (toa >>> 18)

theorem length_hitBytes (toas : List Word) :
    (toas.flatMap fun toa => storeLE 8 (hitAt toa)).length = 8 * toas.length := by
  induction toas with
  | nil => rfl
  | cons toa toas ih =>
    rw [List.flatMap_cons, List.length_append, length_storeLE, ih, List.length_cons]
    omega

/-- A datagram of hits. -/
def datagramOf (toas : List Word) (h : toas.length ≤ 5000) : Datagram :=
  Datagram.ofBytes (toas.flatMap fun toa => storeLE 8 (hitAt toa)) <| by
    rw [length_hitBytes, BUFFER_SIZE]
    omega

def lateTimes : List ℕ :=
  [4294967196, 8589934392, 12884901588, 17179868784, 17179869174, 17179869189, 17179869179]

def lateStream : List Datagram :=
  [datagramOf [0, 4294967196, 8589934392] (by decide),
    datagramOf [12884901588, 17179868784] (by decide),
    datagramOf [17179869174, 5, 17179869179] (by decide)]

theorem hitsAt_lateStream : HitsAt (lateStream.flatMap Datagram.packets) (0 :: lateTimes) := by
  decide +kernel

theorem disordered_lateTimes : Disordered 4294967196 50 0 lateTimes := by decide +kernel

/-! ## Rollovers are counted once -/

/-- **Every rollover is counted exactly once.** Fed with a disordered hit stream from the fresh
state, the decoder's counter after every hit is the epoch of the latest time so far, modulo 16. So
it is in the loop at any word, and after any of the datagrams. -/
theorem counter_eq_epoch (ds : List Datagram) {G D T₁ : ℕ} {Ts : List ℕ} (hGD : G + D < 2 ^ 32)
    (hT₁ : T₁ < 2 ^ 32) (hdis : Disordered G D T₁ Ts)
    (hhits : HitsAt (ds.flatMap Datagram.packets) (T₁ :: Ts)) :
    (hitStates {} (ds.flatMap Datagram.packets)).map (fun s => s.mRolloverCounter.toNat) =
        (T₁ :: runMaxes T₁ Ts).map (fun M => M / 2 ^ 34 % 16) ∧
      (∀ before after, ds.flatMap Datagram.packets = before ++ after →
        some (publishLoop {} before).1.mRolloverCounter.toNat =
          (0 :: (T₁ :: runMaxes T₁ Ts).map fun M => M / 2 ^ 34 % 16)[
            (before.filter IsHit).length]?) ∧
      ∀ before after, ds = before ++ after →
        some (publishAll {} before).1.mRolloverCounter.toNat =
          (0 :: (T₁ :: runMaxes T₁ Ts).map fun M => M / 2 ^ 34 % 16)[
            ((before.flatMap Datagram.packets).filter IsHit).length]? := by
  have hcounters :
      (hitStates {} (ds.flatMap Datagram.packets)).map (fun s => s.mRolloverCounter.toNat) =
        (T₁ :: runMaxes T₁ Ts).map (fun M => M / 2 ^ 34 % 16) := by
    rw [counters_of_refines (refines_hitStates _ _ _ _ refines_fresh hhits),
      count_eq_epoch hGD hT₁ hdis, List.map_map]
    rfl
  have hloop (before after : List Word) (hps : ds.flatMap Datagram.packets = before ++ after) :
      some (publishLoop {} before).1.mRolloverCounter.toNat =
        (0 :: (T₁ :: runMaxes T₁ Ts).map fun M => M / 2 ^ 34 % 16)[
          (before.filter IsHit).length]? := by
    have hstate := congrArg (Option.map fun s => s.mRolloverCounter.toNat)
      (getElem?_hitStates {} before after)
    rw [← List.getElem?_map, List.map_cons, ← hps, hcounters] at hstate
    exact hstate.symm
  refine ⟨hcounters, hloop, fun before after hds => ?_⟩
  rw [(publishAll_eq {} before).1]
  exact hloop _ (after.flatMap Datagram.packets) (by rw [hds, List.flatMap_append])

/-- The late hit of the stream is not counted as a second rollover. -/
theorem counter_eq_epoch_lateStream :
    (hitStates {} (lateStream.flatMap Datagram.packets)).map (fun s => s.mRolloverCounter.toNat) =
        (0 :: runMaxes 0 lateTimes).map (fun M => M / 2 ^ 34 % 16) ∧
      some (publishAll {} lateStream).1.mRolloverCounter.toNat =
        (0 :: (0 :: runMaxes 0 lateTimes).map fun M => M / 2 ^ 34 % 16)[
          ((lateStream.flatMap Datagram.packets).filter IsHit).length]? :=
  have h := counter_eq_epoch lateStream (by decide) (by decide) disordered_lateTimes
    hitsAt_lateStream
  ⟨h.1, h.2.2 lateStream [] (List.append_nil _).symm⟩

/-! ## Published times -/

/-- **Published times.** Fed with a disordered hit stream from the fresh state, the decoder
publishes the true time of every hit, modulo `2 ^ 38`, exactly when no hit from before a rollover
arrives after a hit from after it. -/
theorem times_true_iff (ds : List Datagram) {G D T₁ : ℕ} {Ts : List ℕ} (hGD : G + D < 2 ^ 32)
    (hT₁ : T₁ < 2 ^ 32) (hdis : Disordered G D T₁ Ts)
    (hhits : HitsAt (ds.flatMap Datagram.packets) (T₁ :: Ts)) :
    (publishAll {} ds).2.flatten.map (fun w => (Packet.mk w).t) =
        (T₁ :: Ts).map (fun T => ((T % 2 ^ 38 : ℕ) : ℤ)) ↔
      NoneLate (2 ^ 34) T₁ Ts := by
  have hstates := refines_hitStates _ _ _ _ refines_fresh hhits
  have hfirst := tracks_first hT₁
  have hstamp :=
    stamps_eq_iff (n := 16) hGD (by decide) Ts _ T₁ T₁ hfirst (Nat.le_add_right _ _) hdis
  have hT₁mod :
      stamp (2 ^ 32) 16 ((⟨0, false, 0⟩ : Tracker).next (2 ^ 32) (T₁ % (4 * 2 ^ 32))).count
        (T₁ % (4 * 2 ^ 32)) = T₁ % 2 ^ 38 := by
    rw [hfirst.count_eq]
    exact (stamp_eq_iff (n := 16) (by decide) (Or.inl rfl) (by decide)).mpr rfl
  have hinj : Function.Injective (List.map fun n : ℕ => (n : ℤ)) :=
    List.map_injective_iff.mpr fun _ _ h => Int.ofNat.inj h
  rw [(publishAll_eq {} ds).2, publishLoop_snd, times_of_refines hstates hhits,
    show (fun T : ℕ => ((T % 2 ^ 38 : ℕ) : ℤ)) = (fun n : ℕ => (n : ℤ)) ∘ (· % 2 ^ 38) from rfl,
    ← List.map_map, hinj.eq_iff, trackAll, stamps, List.zipWith_cons_cons, List.map_cons, hT₁mod,
    List.cons.injEq]
  exact (and_iff_right rfl).trans hstamp

theorem times_true_iff_lateStream :
    (publishAll {} lateStream).2.flatten.map (fun w => (Packet.mk w).t) =
        (0 :: lateTimes).map (fun T => ((T % 2 ^ 38 : ℕ) : ℤ)) ↔
      NoneLate (2 ^ 34) 0 lateTimes :=
  times_true_iff lateStream (by decide) (by decide) disordered_lateTimes hitsAt_lateStream

/-- The last hit, 5 ticks before the rollover, is stamped one epoch too late. -/
theorem late_hit_stamped_ahead :
    ((2 : ℕ) ^ 32 > 4294967196 + 50 ∧ Disordered 4294967196 50 0 lateTimes ∧
      HitsAt (lateStream.flatMap Datagram.packets) (0 :: lateTimes)) ∧
    (publishAll {} lateStream).2.flatten.map (fun w => (Packet.mk w).t) ≠
      (0 :: lateTimes).map (fun T => ((T % 2 ^ 38 : ℕ) : ℤ)) := by
  refine ⟨⟨by decide, disordered_lateTimes, hitsAt_lateStream⟩, ?_⟩
  decide +kernel

/-! ## Streams in order -/

/-- The times are relative to one epoch exactly when all of them miss the same epochs. -/
theorem exists_epoch_iff {T₁ : ℕ} {Ts : List ℕ} :
    (∃ K : ℤ,
      ((T₁ :: Ts).map fun T : ℕ => ((T : ℤ) - missed (2 ^ 32) T₁ T * 2 ^ 34) % 2 ^ 38) =
        (T₁ :: Ts).map fun T : ℕ => ((T : ℤ) - K * 2 ^ 34) % 2 ^ 38) ↔
      T₁ % 2 ^ 34 < 3 * 2 ^ 32 ∨ ∀ T ∈ Ts, T / 2 ^ 34 = T₁ / 2 ^ 34 := by
  constructor
  · rintro ⟨K, hK⟩
    by_contra hnot
    rw [not_or, not_forall] at hnot
    obtain ⟨hlast, T, hT⟩ := hnot
    obtain ⟨hmem, hne⟩ := Classical.not_imp.mp hT
    have hequal := List.map_inj_left.mp hK
    have hfirst := hequal T₁ List.mem_cons_self
    have hlater := hequal T (List.mem_cons_of_mem _ hmem)
    have hcounted : missed (2 ^ 32) T₁ T₁ = T₁ / 2 ^ 34 := missed_of_counted (Or.inr rfl)
    have huncounted : missed (2 ^ 32) T₁ T = T₁ / 2 ^ 34 + 1 := missed_of_uncounted hlast hne
    rw [hcounted] at hfirst
    rw [huncounted] at hlater
    -- `K` would have to be both `E` and `E + 1` modulo 16
    omega
  · intro h
    refine ⟨(T₁ / 2 ^ 34 : ℕ), List.map_congr_left fun T hT => ?_⟩
    have hcounted : missed (2 ^ 32) T₁ T = T₁ / 2 ^ 34 := by
      apply missed_of_counted
      rcases List.mem_cons.mp hT with rfl | hmem
      · exact Or.inr rfl
      · exact h.imp_right fun hsame => hsame T hmem
    rw [hcounted]

/-- **Any starting time.** Fed with a hit stream in order from the fresh state, the decoder
publishes all times relative to one epoch exactly when the first hit comes before the last quarter
of its epoch, or no hit comes after that epoch. -/
theorem times_shifted_iff (ds : List Datagram) {T₁ : ℕ} {Ts : List ℕ}
    (hdis : Disordered (2 ^ 32 - 1) 0 T₁ Ts)
    (hhits : HitsAt (ds.flatMap Datagram.packets) (T₁ :: Ts)) :
    (∃ K : ℤ, (publishAll {} ds).2.flatten.map (fun w => (Packet.mk w).t) =
        (T₁ :: Ts).map fun T : ℕ => ((T : ℤ) - K * 2 ^ 34) % 2 ^ 38) ↔
      T₁ % 2 ^ 34 < 3 * 2 ^ 32 ∨ ∀ T ∈ Ts, T / 2 ^ 34 = T₁ / 2 ^ 34 := by
  have hstates := refines_hitStates _ _ _ _ refines_fresh hhits
  have htimes := times_of_refines hstates hhits
  rw [stamps_shift (by decide) (by decide) (trackAll_fresh (by decide) hdis)] at htimes
  rw [(publishAll_eq {} ds).2, publishLoop_snd, htimes]
  exact exists_epoch_iff

/-- A stream that starts at the third quarter boundary and crosses the rollover. -/
def boundaryStream : List Datagram :=
  [datagramOf [12884901888, 17179869183] (by decide), datagramOf [0, 4294967294] (by decide)]

def boundaryTimes : List ℕ := [17179869183, 17179869184, 21474836478]

theorem hitsAt_boundaryStream :
    HitsAt (boundaryStream.flatMap Datagram.packets) (12884901888 :: boundaryTimes) := by
  decide +kernel

theorem disordered_boundaryTimes : Disordered (2 ^ 32 - 1) 0 12884901888 boundaryTimes := by
  decide +kernel

theorem times_shifted_iff_boundaryStream :
    (∃ K : ℤ, (publishAll {} boundaryStream).2.flatten.map (fun w => (Packet.mk w).t) =
        (12884901888 :: boundaryTimes).map fun T : ℕ => ((T : ℤ) - K * 2 ^ 34) % 2 ^ 38) ↔
      12884901888 % 2 ^ 34 < 3 * 2 ^ 32 ∨
        ∀ T ∈ boundaryTimes, T / 2 ^ 34 = 12884901888 / 2 ^ 34 :=
  times_shifted_iff boundaryStream disordered_boundaryTimes hitsAt_boundaryStream

/-- The rollover is missed: two hits one tick apart are published a whole period apart. -/
theorem first_rollover_missed :
    (Disordered (2 ^ 32 - 1) 0 12884901888 boundaryTimes ∧
      HitsAt (boundaryStream.flatMap Datagram.packets) (12884901888 :: boundaryTimes)) ∧
    ¬ ∃ K : ℤ, (publishAll {} boundaryStream).2.flatten.map (fun w => (Packet.mk w).t) =
      (12884901888 :: boundaryTimes).map fun T : ℕ => ((T : ℤ) - K * 2 ^ 34) % 2 ^ 38 := by
  refine ⟨⟨disordered_boundaryTimes, hitsAt_boundaryStream⟩, ?_⟩
  have hpublished : (publishAll {} boundaryStream).2.flatten.map (fun w => (Packet.mk w).t) =
      [12884901888, 17179869183, 0, 4294967294] := by decide +kernel
  rintro ⟨K, hK⟩
  rw [hpublished] at hK
  simp only [boundaryTimes, List.map_cons, List.cons.injEq] at hK
  omega

end TpxServer.Udp
