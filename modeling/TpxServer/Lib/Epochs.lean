import Mathlib.Data.List.Forall2
import Mathlib.Data.Nat.Basic
import Mathlib.Tactic.Ring
import Mathlib.Tactic.Linarith

/-!
# Counting the epochs of a wrapping clock

A source emits true times `T : ℕ`; an observer sees `T % (4 * q)` only, and not quite in order:
every time lies between `M - D` and `M + G`, where `M` is the maximum of the times before it. A
`Tracker` counts the wraps with an arming flag: a time in the middle half of the period arms it, and
a fall from the last quarter to the first one fires it if it is armed. If the gaps and the disorder
together stay below a quarter of the period, the count is the epoch of the running maximum
(`count_eq_epoch`). A stream without disorder can start in any epoch, of which the tracker knows
nothing (`trackAll_fresh`).
-/

namespace TpxServer.Epochs

/-! ## Streams with bounded disorder -/

/-- Every time lies between `M - D` and `M + G`, where `M` is the maximum of the times before. -/
def Disordered (G D : ℕ) : ℕ → List ℕ → Prop
  | _, [] => True
  | M, T :: Ts => (M ≤ T + D ∧ T ≤ M + G) ∧ Disordered G D (max M T) Ts

/-- The running maxima of a stream, `M` being the maximum of what came before it. -/
def runMaxes : ℕ → List ℕ → List ℕ
  | _, [] => []
  | M, T :: Ts => max M T :: runMaxes (max M T) Ts

/-- No time belongs to an epoch before the one of the running maximum. -/
def NoneLate (p : ℕ) : ℕ → List ℕ → Prop
  | _, [] => True
  | M, T :: Ts => M / p ≤ T / p ∧ NoneLate p (max M T) Ts

instance decDisordered (G D : ℕ) : ∀ M Ts, Decidable (Disordered G D M Ts)
  | _, [] => isTrue trivial
  | M, T :: Ts =>
    have := decDisordered G D (max M T) Ts
    inferInstanceAs (Decidable ((M ≤ T + D ∧ T ≤ M + G) ∧ Disordered G D (max M T) Ts))

/-! ## The tracker -/

/-- Count of the wraps, arming flag and last time seen. -/
structure Tracker where
  count : ℕ
  armed : Bool
  last : ℕ
  deriving DecidableEq

namespace Tracker

variable (q : ℕ)

def arm (s : Tracker) (f : ℕ) : Bool := s.armed || (decide (q < f) && decide (f < 3 * q))

def fires (s : Tracker) (f : ℕ) : Bool :=
  s.arm q f && decide (3 * q < s.last) && decide (f < q)

/-- The tracker after it has seen `f`. -/
def next (s : Tracker) (f : ℕ) : Tracker :=
  if s.fires q f then ⟨s.count + 1, false, f⟩ else ⟨s.count, s.arm q f, f⟩

theorem arm_iff {s : Tracker} {f : ℕ} :
    s.arm q f = true ↔ s.armed = true ∨ (q < f ∧ f < 3 * q) := by
  simp [arm]

theorem fires_iff {s : Tracker} {f : ℕ} :
    s.fires q f = true ↔ s.arm q f = true ∧ 3 * q < s.last ∧ f < q := by
  simp [fires, and_assoc]

/-- The tracker has seen `L` last, `M` is the maximum of all it has seen, and it is armed exactly
when the maximum has left the first quarter of its epoch. -/
structure Tracks (s : Tracker) (M L : ℕ) : Prop where
  count_eq : s.count = M / (4 * q)
  armed_iff : s.armed = true ↔ q < M % (4 * q)
  last_eq : s.last = L % (4 * q)
  le_max : L ≤ M

end Tracker

open Tracker

/-! ## One time -/

section Step

variable {q G D M L T : ℕ}

/-- A time at most a quarter of a period away from the maximum is in its epoch, in the one before
or in the one after. -/
theorem epoch_cases (hq : 0 < q) (hlo : M < T + q) (hhi : T < M + q) :
    (T / (4 * q) = M / (4 * q) ∧ T % (4 * q) + M = M % (4 * q) + T) ∨
    (T / (4 * q) = M / (4 * q) + 1 ∧ T % (4 * q) + 4 * q + M = M % (4 * q) + T) ∨
    (T / (4 * q) + 1 = M / (4 * q) ∧ T % (4 * q) + M = M % (4 * q) + 4 * q + T) := by
  have hM := Nat.div_add_mod M (4 * q)
  have hT := Nat.div_add_mod T (4 * q)
  have hMr := Nat.mod_lt M (show 0 < 4 * q by omega)
  have hTr := Nat.mod_lt T (show 0 < 4 * q by omega)
  rcases Nat.lt_trichotomy (T / (4 * q)) (M / (4 * q)) with h | h | h
  · -- two epochs apart would be more than a quarter apart
    obtain ⟨k, hk⟩ := Nat.exists_eq_add_of_lt h
    have hk0 : k = 0 := by
      by_contra hne
      have : 4 * q * (T / (4 * q) + 2) ≤ 4 * q * (M / (4 * q)) := Nat.mul_le_mul_left _ (by omega)
      rw [Nat.mul_add] at this
      omega
    subst hk0
    have hmul : 4 * q * (M / (4 * q)) = 4 * q * (T / (4 * q)) + 4 * q := by rw [hk]; ring
    refine Or.inr (Or.inr ⟨by omega, by omega⟩)
  · have hmul : 4 * q * (M / (4 * q)) = 4 * q * (T / (4 * q)) := by rw [h]
    exact Or.inl ⟨h, by omega⟩
  · obtain ⟨k, hk⟩ := Nat.exists_eq_add_of_lt h
    have hk0 : k = 0 := by
      by_contra hne
      have : 4 * q * (M / (4 * q) + 2) ≤ 4 * q * (T / (4 * q)) := Nat.mul_le_mul_left _ (by omega)
      rw [Nat.mul_add] at this
      omega
    subst hk0
    have hmul : 4 * q * (T / (4 * q)) = 4 * q * (M / (4 * q)) + 4 * q := by rw [hk]; ring
    exact Or.inr (Or.inl ⟨by omega, by omega⟩)

/-- The tracker fires exactly when the maximum enters a new epoch. -/
theorem fires_iff_new_epoch {s : Tracker} (hGD : G + D < q) (hs : s.Tracks q M L)
    (hL : M ≤ L + D) (hlo : M ≤ T + D) (hhi : T ≤ M + G) :
    s.fires q (T % (4 * q)) = true ↔ M / (4 * q) < T / (4 * q) := by
  have hq : 0 < q := by omega
  have hle := hs.le_max
  rw [fires_iff, arm_iff, hs.armed_iff, hs.last_eq]
  have hMr := Nat.mod_lt M (show 0 < 4 * q by omega)
  have hTr := Nat.mod_lt T (show 0 < 4 * q by omega)
  have hLr := Nat.mod_lt L (show 0 < 4 * q by omega)
  rcases epoch_cases (q := q) (M := M) (T := T) hq (by omega) (by omega) with h | h | h <;>
    rcases epoch_cases (q := q) (M := M) (T := L) hq (by omega) (by omega) with h' | h' | h' <;>
      omega

/-- **One time.** The tracker follows the maximum past the next time. -/
theorem tracks_next {s : Tracker} (hGD : G + D < q) (hs : s.Tracks q M L) (hL : M ≤ L + D)
    (hlo : M ≤ T + D) (hhi : T ≤ M + G) : (s.next q (T % (4 * q))).Tracks q (max M T) T := by
  have hq : 0 < q := by omega
  have hfire := fires_iff_new_epoch hGD hs hL hlo hhi
  have hMr := Nat.mod_lt M (show 0 < 4 * q by omega)
  have hcases := epoch_cases (q := q) (M := M) (T := T) hq (by omega) (by omega)
  unfold next
  by_cases hf : s.fires q (T % (4 * q)) = true
  · -- a new epoch: `T` is the new maximum and lies in the first quarter
    have hnew := hfire.mp hf
    have hlt := ((fires_iff q).mp hf).2.2
    have hmax : max M T = T := by
      rcases hcases with h | h | h <;> omega
    rw [if_pos hf, hmax]
    refine ⟨?_, ?_, rfl, le_rfl⟩
    · have := hs.count_eq
      show s.count + 1 = _
      omega
    · simp only [Bool.false_eq_true, false_iff, not_lt]
      exact hlt.le
  · have hold : ¬ M / (4 * q) < T / (4 * q) := fun h => hf (hfire.mpr h)
    rw [if_neg hf]
    refine ⟨?_, ?_, rfl, le_max_right M T⟩
    · show s.count = _
      rw [hs.count_eq]
      rcases Nat.le_total M T with hMT | hMT
      · rw [max_eq_right hMT]
        have := Nat.div_le_div_right (c := 4 * q) hMT
        omega
      · rw [max_eq_left hMT]
    · -- within an epoch the maximum can only leave the first quarter through the middle half
      rw [arm_iff, hs.armed_iff]
      rcases Nat.le_total M T with hMT | hMT
      · have hle := Nat.div_le_div_right (c := 4 * q) hMT
        rw [max_eq_right hMT]
        rcases hcases with h | h | h <;> omega
      · rw [max_eq_left hMT]
        rcases hcases with h | h | h <;> omega

end Step

/-! ## Runs -/

/-- The states of a tracker after every time of a stream. -/
def trackAll (q : ℕ) : Tracker → List ℕ → List Tracker
  | _, [] => []
  | s, T :: Ts => s.next q (T % (4 * q)) :: trackAll q (s.next q (T % (4 * q))) Ts

/-- **Runs.** Along a disordered stream the count is the epoch of the running maximum. -/
theorem count_trackAll {q G D : ℕ} (hGD : G + D < q) :
    ∀ (Ts : List ℕ) (s : Tracker) (M L : ℕ), s.Tracks q M L → M ≤ L + D → Disordered G D M Ts →
      (trackAll q s Ts).map Tracker.count = (runMaxes M Ts).map (· / (4 * q)) := by
  intro Ts
  induction Ts with
  | nil => intro s M L _ _ _; rfl
  | cons T Ts ih =>
    intro s M L hs hL hdis
    obtain ⟨⟨hlo, hhi⟩, hrest⟩ := hdis
    have hnext := tracks_next hGD hs hL hlo hhi
    rw [trackAll, runMaxes, List.map_cons, List.map_cons,
      ih _ (max M T) T hnext (by omega) hrest, hnext.count_eq]

/-- A tracker that has seen nothing follows a stream that starts in the first quarter. -/
theorem tracks_first {q T : ℕ} (hT : T < q) :
    ((⟨0, false, 0⟩ : Tracker).next q (T % (4 * q))).Tracks q T T := by
  have hmod : T % (4 * q) = T := Nat.mod_eq_of_lt (by omega)
  have hdiv : T / (4 * q) = 0 := Nat.div_eq_of_lt (by omega)
  have hfire : ¬ (⟨0, false, 0⟩ : Tracker).fires q T = true := by rw [fires_iff]; simp
  rw [next, hmod, if_neg hfire]
  refine ⟨hdiv.symm, ?_, hmod.symm, le_rfl⟩
  rw [arm_iff, hmod]
  simp only [Bool.false_eq_true, false_or]
  omega

/-- **Every wrap is counted once.** From the start, the count after every time of a disordered
stream is the epoch of the maximum so far. -/
theorem count_eq_epoch {q G D T₁ : ℕ} {Ts : List ℕ} (hGD : G + D < q) (hT₁ : T₁ < q)
    (hdis : Disordered G D T₁ Ts) :
    (trackAll q ⟨0, false, 0⟩ (T₁ :: Ts)).map Tracker.count =
      (T₁ :: runMaxes T₁ Ts).map (· / (4 * q)) := by
  have hfirst := tracks_first hT₁
  rw [trackAll, List.map_cons, List.map_cons,
    count_trackAll hGD Ts _ T₁ T₁ hfirst (Nat.le_add_right _ _) hdis, hfirst.count_eq]

/-! ## Streams in order

Without disorder the running maximum is the last time, and a stream can start anywhere. A tracker
does not know the epoch of its first time, and counts from it on. One that starts unarmed in the
last quarter misses the first wrap. -/

/-- The epochs that a fresh tracker misses before its count at time `T`: those before the first
time, and the first wrap if the first time is in the last quarter. -/
def missed (q T₁ T : ℕ) : ℕ :=
  if T₁ % (4 * q) < 3 * q ∨ T / (4 * q) = T₁ / (4 * q) then T₁ / (4 * q) else T₁ / (4 * q) + 1

section Missed

variable {q T₁ T : ℕ}

theorem missed_of_counted (h : T₁ % (4 * q) < 3 * q ∨ T / (4 * q) = T₁ / (4 * q)) :
    missed q T₁ T = T₁ / (4 * q) := if_pos h

theorem missed_of_uncounted (h₁ : ¬ T₁ % (4 * q) < 3 * q) (h : T / (4 * q) ≠ T₁ / (4 * q)) :
    missed q T₁ T = T₁ / (4 * q) + 1 := if_neg (not_or.mpr ⟨h₁, h⟩)

end Missed

/-- The same tracker with the count of another observer. -/
def Tracker.shift (s : Tracker) (k : ℕ) : Tracker := { s with count := s.count + k }

theorem next_shift (q k : ℕ) (s : Tracker) (f : ℕ) :
    (s.shift k).next q f = (s.next q f).shift k := by
  have hfires : (s.shift k).fires q f = s.fires q f := rfl
  have harm : (s.shift k).arm q f = s.arm q f := rfl
  unfold next
  rw [hfires, harm]
  split_ifs
  · simp [shift]
    omega
  · rfl

/-- Neither in the first nor in the last quarter is a tracker armed. -/
theorem next_of_unarmed {q : ℕ} {s : Tracker} {f : ℕ} (harmed : s.armed = false)
    (hf : f ≤ q ∨ 3 * q ≤ f) : s.next q f = ⟨s.count, false, f⟩ := by
  have harm : s.arm q f = false := by
    rw [Bool.eq_false_iff, ne_eq, arm_iff, harmed]
    simp
    omega
  have hfires : s.fires q f = false := by
    rw [Bool.eq_false_iff, ne_eq, fires_iff, harm]
    simp
  rw [next, hfires, harm]
  rfl

section InOrder

variable {q G : ℕ} (hG : G < q)
include hG

/-- A tracker that is armed as it should be counts the epochs from `E` on. -/
theorem trackAll_shift : ∀ (Ts : List ℕ) {s : Tracker} {M E : ℕ}, (s.shift E).Tracks q M M →
    Disordered G 0 M Ts →
      List.Forall₂ (fun s T => s.count + E = T / (4 * q) ∧ M ≤ T) (trackAll q s Ts) Ts := by
  intro Ts
  induction Ts with
  | nil => exact fun _ _ => List.Forall₂.nil
  | cons T Ts ih =>
    intro s M E hs hdis
    obtain ⟨⟨hle, hhi⟩, hrest⟩ := hdis
    have hlo : M ≤ T := hle
    have hnext := tracks_next (D := 0) hG hs le_rfl hlo hhi
    rw [next_shift, max_eq_right hlo] at hnext
    rw [max_eq_right hlo] at hrest
    refine List.Forall₂.cons ⟨hnext.count_eq, hlo⟩ ?_
    exact (ih hnext hrest).imp fun s T' h => ⟨h.1, le_trans hlo h.2⟩

/-- An unarmed tracker in the last quarter of epoch `E` counts the later epochs from `E + 1` on. -/
theorem trackAll_unarmed : ∀ (Ts : List ℕ) {s : Tracker} {M E : ℕ}, s.armed = false →
    s.last = M % (4 * q) → 3 * q ≤ M % (4 * q) → s.count + E = M / (4 * q) →
    Disordered G 0 M Ts →
      List.Forall₂
        (fun s T => s.count + (if T / (4 * q) = M / (4 * q) then E else E + 1) = T / (4 * q))
        (trackAll q s Ts) Ts := by
  intro Ts
  induction Ts with
  | nil => exact fun _ _ _ _ _ => List.Forall₂.nil
  | cons T Ts ih =>
    intro s M E harmed hlast hM hcount hdis
    obtain ⟨⟨hle, hhi⟩, hrest⟩ := hdis
    have hlo : M ≤ T := hle
    rw [max_eq_right hlo] at hrest
    have hTr := Nat.mod_lt T (show 0 < 4 * q by omega)
    have hMr := Nat.mod_lt M (show 0 < 4 * q by omega)
    have hepoch := Nat.div_le_div_right (c := 4 * q) hlo
    have hcases := epoch_cases (q := q) (M := M) (T := T) (by omega) (by omega) (by omega)
    have hquarter : T % (4 * q) ≤ q ∨ 3 * q ≤ T % (4 * q) := by
      rcases hcases with h | h | h <;> omega
    rw [trackAll, next_of_unarmed harmed hquarter]
    rcases hcases with h | h | h
    · have hrec := ih (s := ⟨s.count, false, T % (4 * q)⟩) (M := T) (E := E) rfl rfl (by omega)
        (by rw [h.1]; exact hcount) hrest
      rw [h.1] at hrec
      refine List.Forall₂.cons ?_ hrec
      rw [if_pos h.1, h.1]
      exact hcount
    · have hnew : (Tracker.shift ⟨s.count, false, T % (4 * q)⟩ (E + 1)).Tracks q T T := by
        refine ⟨?_, ?_, rfl, le_rfl⟩
        · show s.count + (E + 1) = _
          omega
        · simp [shift]
          omega
      refine List.Forall₂.cons ?_ ((trackAll_shift hG Ts hnew hrest).imp fun s T' hT' => ?_)
      · rw [if_neg (by omega)]
        exact hnew.count_eq
      · have hle' := Nat.div_le_div_right (c := 4 * q) hT'.2
        rw [if_neg (by omega)]
        exact hT'.1
    · omega

/-- **In order.** A fresh tracker counts all epochs but those missed. -/
theorem trackAll_fresh {T₁ : ℕ} {Ts : List ℕ} (hdis : Disordered G 0 T₁ Ts) :
    List.Forall₂ (fun s T => s.count + missed q T₁ T = T / (4 * q))
      (trackAll q ⟨0, false, 0⟩ (T₁ :: Ts)) (T₁ :: Ts) := by
  have hfires : ¬ (⟨0, false, 0⟩ : Tracker).fires q (T₁ % (4 * q)) = true := by
    rw [fires_iff]
    simp
  rw [trackAll, next, if_neg hfires]
  refine List.Forall₂.cons ?_ ?_
  · rw [missed_of_counted (Or.inr rfl)]
    exact Nat.zero_add _
  generalize harm : (⟨0, false, 0⟩ : Tracker).arm q (T₁ % (4 * q)) = armed
  have harmed : armed = true ↔ q < T₁ % (4 * q) ∧ T₁ % (4 * q) < 3 * q := by
    rw [← harm, arm_iff]
    simp
  by_cases hfirst : T₁ % (4 * q) < 3 * q
  · have hs : (Tracker.shift ⟨0, armed, T₁ % (4 * q)⟩ (T₁ / (4 * q))).Tracks q T₁ T₁ := by
      refine ⟨Nat.zero_add _, ?_, rfl, le_rfl⟩
      show armed = true ↔ _
      rw [harmed]
      exact and_iff_left hfirst
    refine (trackAll_shift hG Ts hs hdis).imp fun s T h => ?_
    rw [missed_of_counted (Or.inl hfirst)]
    exact h.1
  · have hunarmed : armed = false := by
      rw [Bool.eq_false_iff, ne_eq, harmed]
      exact fun h => hfirst h.2
    simp only [missed, hfirst, false_or]
    exact trackAll_unarmed hG Ts (s := ⟨0, armed, T₁ % (4 * q)⟩) hunarmed rfl (by omega)
      (Nat.zero_add _) hdis

end InOrder

/-! ## Time stamps -/

/-- The time stamp formed from a count kept modulo `n` and the time seen. -/
def stamp (q n count f : ℕ) : ℕ := count % n * (4 * q) + f

/-- A stamp is the true time modulo `n` periods exactly when the count is the epoch of that time,
the count being that epoch or the next one. -/
theorem stamp_eq_iff {q n count T : ℕ} (hn : 1 < n)
    (h : count = T / (4 * q) ∨ count = T / (4 * q) + 1) (hq : 0 < q) :
    stamp q n count (T % (4 * q)) = T % (4 * q * n) ↔ count = T / (4 * q) := by
  rw [stamp, Nat.mod_mul (a := 4 * q) (b := n), Nat.add_comm, Nat.add_left_cancel_iff,
    Nat.mul_comm, Nat.mul_right_inj (by omega)]
  refine ⟨fun hmod => ?_, fun he => by rw [he]⟩
  rcases h with h | h
  · exact h
  · exfalso
    have hlt := Nat.mod_lt (T / (4 * q)) (show 0 < n by omega)
    rw [h, Nat.add_mod, Nat.mod_eq_of_lt hn] at hmod
    rcases Nat.lt_or_ge (T / (4 * q) % n + 1) n with hc | hc
    · rw [Nat.mod_eq_of_lt hc] at hmod
      omega
    · rw [show T / (4 * q) % n + 1 = n by omega, Nat.mod_self] at hmod
      omega

/-- The stamps of a stream, one tracker state for each time. -/
def stamps (q n : ℕ) (states : List Tracker) (Ts : List ℕ) : List ℕ :=
  List.zipWith (fun s T => stamp q n s.count (T % (4 * q))) states Ts

/-- **Stamps.** All stamps of a disordered stream are right exactly when no time is late across the
end of an epoch. -/
theorem stamps_eq_iff {q G D n : ℕ} (hGD : G + D < q) (hn : 1 < n) :
    ∀ (Ts : List ℕ) (s : Tracker) (M L : ℕ), s.Tracks q M L → M ≤ L + D → Disordered G D M Ts →
      (stamps q n (trackAll q s Ts) Ts = Ts.map (· % (4 * q * n)) ↔ NoneLate (4 * q) M Ts) := by
  intro Ts
  induction Ts with
  | nil => intro s M L _ _ _; exact ⟨fun _ => trivial, fun _ => rfl⟩
  | cons T Ts ih =>
    intro s M L hs hL hdis
    obtain ⟨⟨hlo, hhi⟩, hrest⟩ := hdis
    have hq : 0 < q := by omega
    have hnext := tracks_next hGD hs hL hlo hhi
    have hcount := hnext.count_eq
    have hepoch := epoch_cases (q := q) (M := M) (T := T) hq (by omega) (by omega)
    have hle : M / (4 * q) ≤ T / (4 * q) ↔ max M T / (4 * q) = T / (4 * q) := by
      rcases Nat.le_total M T with h | h
      · have := Nat.div_le_div_right (c := 4 * q) h
        rw [max_eq_right h]
        omega
      · have := Nat.div_le_div_right (c := 4 * q) h
        rw [max_eq_left h]
        omega
    have hnear : max M T / (4 * q) = T / (4 * q) ∨ max M T / (4 * q) = T / (4 * q) + 1 := by
      rcases Nat.le_total M T with h | h
      · rw [max_eq_right h]; exact Or.inl rfl
      · have := Nat.div_le_div_right (c := 4 * q) h
        rw [max_eq_left h]
        omega
    rw [trackAll, stamps, List.zipWith_cons_cons, List.map_cons, List.cons.injEq, hcount,
      stamp_eq_iff hn hnear hq, NoneLate, hle]
    exact and_congr_right fun _ => ih _ (max M T) T hnext (by omega) hrest

/-- The stamp of a tracker that counts the epochs from `k` on. -/
theorem stamp_shift {q n count k T : ℕ} (hq : 0 < q) (hn : 1 < n) (h : count + k = T / (4 * q)) :
    (stamp q n count (T % (4 * q)) : ℤ) = ((T : ℤ) - k * (4 * q : ℕ)) % (4 * q * n : ℕ) := by
  have hdiv : 4 * q * (count + k) + T % (4 * q) = T := by
    rw [h]
    exact Nat.div_add_mod T (4 * q)
  have hT : T = count * (4 * q) + T % (4 * q) + k * (4 * q) := by
    rw [Nat.mul_add] at hdiv
    linarith
  have hlt := Nat.mod_lt T (show 0 < 4 * q by omega)
  have hcount : count = (count * (4 * q) + T % (4 * q)) / (4 * q) := by
    rw [Nat.mul_comm count, Nat.mul_add_div (by omega), Nat.div_eq_of_lt hlt, Nat.add_zero]
  have hmod : T % (4 * q) = (count * (4 * q) + T % (4 * q)) % (4 * q) := by
    rw [Nat.mul_comm count, Nat.mul_add_mod, Nat.mod_mod]
  have hstamp := (stamp_eq_iff hn (Or.inl hcount) hq).mpr hcount
  rw [← hmod] at hstamp
  have hsub : (T : ℤ) - k * (4 * q : ℕ) = (count * (4 * q) + T % (4 * q) : ℕ) := by
    rw [sub_eq_iff_eq_add]
    exact_mod_cast hT
  rw [hstamp, hsub]
  rfl

/-- The stamps of a stream along which `offset` gives the epochs that are not counted. -/
theorem stamps_shift {q n : ℕ} (hq : 0 < q) (hn : 1 < n) {offset : ℕ → ℕ} {states : List Tracker}
    {Ts : List ℕ} (h : List.Forall₂ (fun s T => s.count + offset T = T / (4 * q)) states Ts) :
    (stamps q n states Ts).map (fun t : ℕ => (t : ℤ)) =
      Ts.map fun T : ℕ => ((T : ℤ) - offset T * (4 * q : ℕ)) % (4 * q * n : ℕ) := by
  induction h with
  | nil => rfl
  | cons hs _ ih =>
    rw [stamps, List.zipWith_cons_cons, List.map_cons, List.map_cons, stamp_shift hq hn hs]
    exact congrArg _ ih

end TpxServer.Epochs
