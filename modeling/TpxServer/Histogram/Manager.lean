import Mathlib.Data.List.Forall2
import Mathlib.Data.Nat.ModEq
import TpxServer.Common

/-!
# The histogram manager

`poll` takes a message with packets from the input socket, counts every packet at its pixel, and
publishes and clears the histogram once the output period is over. The bins have 16 bits, so a frame
is exact exactly if no pixel was hit 65536 times since the frame before (`frames_exact_iff`).
-/

namespace TpxServer.Histogram

/-- `std::array<std::uint16_t, 256*256>`. -/
abbrev Frame := Vector (BitVec 16) (256 * 256)

/-! ## Counting -/

def packetX (packet : Word) : Word := (packet >>> 56) &&& 0xFF

def packetY (packet : Word) : Word := (packet >>> 48) &&& 0xFF

def histIx (packet : Word) : ℕ := (packetX packet).toNat + (packetY packet).toNat * 256

theorem packetX_lt (packet : Word) : (packetX packet).toNat < 256 := by
  rw [packetX, toNat_and_mask _ _ (n := 8) rfl]
  exact Nat.mod_lt _ (by decide)

theorem packetY_lt (packet : Word) : (packetY packet).toNat < 256 := by
  rw [packetY, toNat_and_mask _ _ (n := 8) rfl]
  exact Nat.mod_lt _ (by decide)

theorem histIx_lt (packet : Word) : histIx packet < 256 * 256 := by
  have hx := packetX_lt packet
  have hy := packetY_lt packet
  unfold histIx
  omega

/-- `++mHistogram[hist_ix]`. -/
def increment (mHistogram : Frame) (packet : Word) : Frame :=
  have hist_ix := histIx_lt packet
  mHistogram.set (histIx packet) (mHistogram[histIx packet] + 1) hist_ix

def handlePackets : Frame → List Word → Frame
  | mHistogram, [] => mHistogram
  | mHistogram, packet :: data => handlePackets (increment mHistogram packet) data

/-! ## The manager -/

/-- `received` and `counted` are not part of the program: they keep the packets received since the
last frame, and those behind each published frame. Times are in nanoseconds. -/
structure HistogramManager where
  mOutputPeriod : ℤ := 1000
  mHistogram : Frame := .replicate _ 0
  mLastOutputTime : ℤ
  published : List Frame := []
  signals : List Signal := []
  received : List Word := []
  counted : List (List Word) := []
  deriving Repr, DecidableEq

/-- What the input socket does at a poll. -/
inductive Received where
  | nothing
  | throws
  | message (msg : List Byte)
  deriving Repr, DecidableEq

namespace HistogramManager

def signal (m : HistogramManager) (x : Signal) : HistogramManager :=
  { m with signals := m.signals ++ [x] }

def setOutputPeriod (m : HistogramManager) (period_ms : BitVec 32) : HistogramManager :=
  { m.signal (.log ("Setting output period to " ++ toString period_ms.toInt)) with
    mOutputPeriod := period_ms.toInt }

/-- The catch-all handler of `poll`. -/
def pollError (m : HistogramManager) : HistogramManager :=
  m.signal (.warn "Error occured while handling data in histogram thread")

/-- The frame is sent and the histogram cleared. -/
def publish (m : HistogramManager) (new_time : ℤ) : HistogramManager :=
  { m with
    published := m.published ++ [m.mHistogram]
    mHistogram := .replicate _ 0
    mLastOutputTime := new_time
    counted := m.counted ++ [m.received]
    received := [] }

/-- The packets of a message are counted. -/
def count (m : HistogramManager) (data : List Word) : HistogramManager :=
  { m with
    mHistogram := handlePackets m.mHistogram data
    received := m.received ++ data }

/-- The packets of a message; bytes behind the last whole one are not read. -/
def packetsOf (msg : List Byte) : List Word := loadWords 8 msg (msg.length / 8)

/-- `poll` with an input socket. `sendThrows` tells whether sending a frame throws. -/
def poll (m : HistogramManager) (recv : Received) (new_time : ℤ) (sendThrows : Bool) :
    HistogramManager :=
  match recv with
  | .throws => m.pollError
  | .nothing => m
  | .message msg =>
    if msg.length ≠ 0 then
      let m := m.count (packetsOf msg)
      -- `duration_cast` to milliseconds
      if (new_time - m.mLastOutputTime).tdiv 1000000 ≥ m.mOutputPeriod then
        if sendThrows then m.pollError else m.publish new_time
      else m
    else m

/-- What the thread does with the manager. -/
inductive Event where
  | poll (recv : Received) (new_time : ℤ) (sendThrows : Bool)
  | setOutputPeriod (period_ms : BitVec 32)
  deriving Repr, DecidableEq

def step (m : HistogramManager) : Event → HistogramManager
  | .poll recv new_time sendThrows => m.poll recv new_time sendThrows
  | .setOutputPeriod period_ms => m.setOutputPeriod period_ms

def run (m : HistogramManager) (events : List Event) : HistogramManager := events.foldl step m

/-- The packets received at an event. -/
def Event.packets : Event → List Word
  | .poll (.message msg) _ _ => packetsOf msg
  | _ => []

end HistogramManager

/-! ## Messages -/

/-- The message with the given packets. -/
def messageOf (data : List Word) : List Byte := (data.map (storeLE 8)).flatten

theorem packetsOf_messageOf (data : List Word) :
    HistogramManager.packetsOf (messageOf data) = data := by
  have hblock : ∀ b ∈ data.map (storeLE 8), b.length = 8 := by simp
  have hlen : (messageOf data).length = 8 * (data.map (storeLE 8)).length := by
    simp [messageOf, Function.comp_def, Nat.mul_comm]
  have hread : (data.map (storeLE 8)).map (loadLE 64) = data := by
    rw [List.map_map]
    exact List.map_id'' (fun w => loadLE_storeLE (n := 8) w) data
  rw [HistogramManager.packetsOf, hlen, Nat.mul_div_cancel_left _ (by decide), messageOf]
  exact (loadWords_flatten _ hblock).trans hread

/-! ## Hits on a pixel -/

/-- The index of a pixel. -/
def bin (x y : Fin 256) : Fin (256 * 256) := ⟨x + 256 * y, by omega⟩

/-- The packet has the coordinates of the pixel. -/
def At (x y : Fin 256) (packet : Word) : Prop :=
  (Packet.mk packet).x = (x : ℕ) ∧ (Packet.mk packet).y = (y : ℕ)

instance (x y : Fin 256) : DecidablePred (At x y) := fun _ => inferInstanceAs (Decidable (_ ∧ _))

/-- The number of packets at the pixel. -/
def hits (x y : Fin 256) (data : List Word) : ℕ := data.countP (At x y ·)

@[simp] theorem hits_nil (x y : Fin 256) : hits x y [] = 0 := rfl

theorem hits_cons (x y : Fin 256) (packet : Word) (data : List Word) :
    hits x y (packet :: data) = hits x y data + if At x y packet then 1 else 0 := by
  simp [hits, List.countP_cons]

@[simp] theorem hits_append (x y : Fin 256) (data data' : List Word) :
    hits x y (data ++ data') = hits x y data + hits x y data' := List.countP_append

@[simp] theorem hits_flatten (x y : Fin 256) (datas : List (List Word)) :
    hits x y datas.flatten = (datas.map (hits x y)).sum := List.countP_flatten

/-- A packet is counted at the index of its pixel only. -/
theorem histIx_eq_iff {x y : Fin 256} {packet : Word} :
    histIx packet = bin x y ↔ At x y packet := by
  have hx : (Packet.mk packet).x = ((packetX packet).toNat : ℕ) := rfl
  have hy : (Packet.mk packet).y = ((packetY packet).toNat : ℕ) := rfl
  have hxlt := packetX_lt packet
  have hylt := packetY_lt packet
  rw [At, hx, hy, histIx, bin]
  dsimp only
  omega

/-- The frame has the number of packets at every pixel, as far as 16 bits go. -/
def Tallies (frame : Frame) (data : List Word) : Prop :=
  ∀ x y, frame[bin x y] = BitVec.ofNat 16 (hits x y data)

/-- The frame has the number of packets at every pixel. -/
def Counts (frame : Frame) (data : List Word) : Prop :=
  ∀ x y, (frame[bin x y]).toNat = hits x y data

theorem tallies_empty : Tallies (.replicate _ 0) [] := by
  intro x y
  simp

theorem getElem_increment (frame : Frame) (packet : Word) (x y : Fin 256) :
    (increment frame packet)[bin x y] = frame[bin x y] + if At x y packet then 1 else 0 := by
  simp only [← histIx_eq_iff, increment, Fin.getElem_fin, Vector.getElem_set]
  split_ifs with h
  · simp [h]
  · simp

theorem Tallies.increment {frame : Frame} {data : List Word} (h : Tallies frame data)
    (packet : Word) : Tallies (Histogram.increment frame packet) (data ++ [packet]) := by
  intro x y
  rw [getElem_increment, h x y, hits_append, hits_cons, hits_nil, Nat.zero_add, BitVec.ofNat_add]
  split_ifs
  · rfl
  · rfl

theorem Tallies.handlePackets {data' : List Word} : ∀ {frame : Frame} {data : List Word},
    Tallies frame data → Tallies (Histogram.handlePackets frame data') (data ++ data') := by
  induction data' with
  | nil =>
    intro frame data h
    rw [List.append_nil]
    exact h
  | cons packet data' ih =>
    intro frame data h
    rw [Histogram.handlePackets, List.append_cons]
    exact ih (h.increment packet)

/-- Below 65536 the tally is the number. -/
theorem Tallies.counts_iff {frame : Frame} {data : List Word} (h : Tallies frame data) :
    Counts frame data ↔ ∀ x y, hits x y data < 65536 := by
  refine forall_congr' fun x => forall_congr' fun y => ?_
  rw [h, BitVec.toNat_ofNat]
  omega

/-! ## Runs -/

section Runs

variable {m : HistogramManager} {data : List Word}

/-- Frames and array tally what they were made of, and this is all that was received. -/
structure Accounted (m : HistogramManager) (data : List Word) : Prop where
  frames : List.Forall₂ Tallies m.published m.counted
  current : Tallies m.mHistogram m.received
  received : m.counted.flatten ++ m.received = data

theorem Accounted.count (h : Accounted m data) (data' : List Word) :
    Accounted (m.count data') (data ++ data') where
  frames := h.frames
  current := h.current.handlePackets
  received := by
    rw [← h.received, List.append_assoc]
    rfl

theorem Accounted.publish (h : Accounted m data) (new_time : ℤ) :
    Accounted (m.publish new_time) data where
  frames := List.rel_append h.frames (.cons h.current .nil)
  current := tallies_empty
  received := by
    rw [← h.received]
    simp [HistogramManager.publish]

theorem Accounted.poll (h : Accounted m data) (recv : Received) (new_time : ℤ)
    (sendThrows : Bool) :
    Accounted (m.poll recv new_time sendThrows)
      (data ++ (HistogramManager.Event.poll recv new_time sendThrows).packets) := by
  cases recv with
  | nothing =>
    rw [HistogramManager.Event.packets, List.append_nil]
    · exact h
    · nofun
  | throws =>
    rw [HistogramManager.Event.packets, List.append_nil]
    · exact ⟨h.frames, h.current, h.received⟩
    · nofun
  | message msg =>
    have hcount := h.count (HistogramManager.packetsOf msg)
    unfold HistogramManager.poll
    dsimp only
    split_ifs with hmsg
    · exact ⟨hcount.frames, hcount.current, hcount.received⟩
    · exact hcount.publish new_time
    · exact hcount
    · have hnil : msg = [] := List.length_eq_zero_iff.mp (not_not.mp hmsg)
      subst hnil
      simpa [HistogramManager.Event.packets, HistogramManager.packetsOf, loadWords] using h

theorem Accounted.step (h : Accounted m data) (e : HistogramManager.Event) :
    Accounted (m.step e) (data ++ e.packets) := by
  cases e with
  | poll recv new_time sendThrows => exact h.poll recv new_time sendThrows
  | setOutputPeriod period_ms =>
    rw [HistogramManager.Event.packets, List.append_nil]
    · exact ⟨h.frames, h.current, h.received⟩
    · nofun

theorem Accounted.run (h : Accounted m data) (events : List HistogramManager.Event) :
    Accounted (m.run events) (data ++ events.flatMap HistogramManager.Event.packets) := by
  induction events generalizing m data with
  | nil =>
    rw [List.flatMap_nil, List.append_nil]
    exact h
  | cons e events ih =>
    rw [List.flatMap_cons, ← List.append_assoc]
    exact ih (h.step e)

end Runs

/-! ## Exact frames -/

/-- Every published frame has the number of packets at every pixel since the frame before, and
frames and array together account for all packets. -/
structure ExactFrames (m : HistogramManager) (data : List Word) : Prop where
  frames : List.Forall₂ Counts m.published m.counted
  account : ∀ x y, (m.published.map fun frame => (frame[bin x y]).toNat).sum +
    (m.mHistogram[bin x y]).toNat = hits x y data

theorem counts_frames_iff {frames : List Frame} {datas : List (List Word)}
    (h : List.Forall₂ Tallies frames datas) :
    List.Forall₂ Counts frames datas ↔ ∀ data ∈ datas, ∀ x y, hits x y data < 65536 := by
  induction h with
  | nil => simp
  | cons h _ ih => rw [List.forall₂_cons, h.counts_iff, ih, List.forall_mem_cons]

theorem sum_counts {frames : List Frame} {datas : List (List Word)}
    (h : List.Forall₂ Counts frames datas) (x y : Fin 256) :
    (frames.map fun frame => (frame[bin x y]).toNat).sum = (datas.map (hits x y)).sum := by
  induction h with
  | nil => rfl
  | cons h _ ih => rw [List.map_cons, List.map_cons, List.sum_cons, List.sum_cons, h x y, ih]

theorem exactFrames_iff {m : HistogramManager} {data : List Word} (h : Accounted m data) :
    ExactFrames m data ↔ ∀ data ∈ m.counted ++ [m.received], ∀ x y, hits x y data < 65536 := by
  have haccount : List.Forall₂ Counts m.published m.counted →
      ((∀ x y, (m.published.map fun frame => (frame[bin x y]).toNat).sum +
        (m.mHistogram[bin x y]).toNat = hits x y data) ↔ Counts m.mHistogram m.received) := by
    intro hframes
    refine forall_congr' fun x => forall_congr' fun y => ?_
    rw [sum_counts hframes, ← h.received, hits_append, hits_flatten, Nat.add_left_cancel_iff]
  have hlast : (∀ data ∈ m.counted ++ [m.received], ∀ x y, hits x y data < 65536) ↔
      (∀ data ∈ m.counted, ∀ x y, hits x y data < 65536) ∧ ∀ x y, hits x y m.received < 65536 := by
    simp [or_imp, forall_and]
  rw [hlast, ← counts_frames_iff h.frames, ← h.current.counts_iff]
  constructor
  · rintro ⟨hframes, hsum⟩
    exact ⟨hframes, (haccount hframes).mp hsum⟩
  · rintro ⟨hframes, hcurrent⟩
    exact ⟨hframes, (haccount hframes).mpr hcurrent⟩

theorem accounted_start (start : ℤ) : Accounted { mLastOutputTime := start } [] :=
  ⟨.nil, tallies_empty, rfl⟩

/-- **Histogram frames.** After any events the packets received are those behind the frames and the
array, in order; and frames and array are exact exactly if between two frames, and since the last
one, every pixel was hit fewer than 65536 times. -/
theorem frames_exact_iff (start : ℤ) (events : List HistogramManager.Event) :
    let m := ({ mLastOutputTime := start } : HistogramManager).run events
    m.counted.flatten ++ m.received = events.flatMap HistogramManager.Event.packets ∧
      (ExactFrames m (events.flatMap HistogramManager.Event.packets) ↔
        ∀ data ∈ m.counted ++ [m.received], ∀ x y, hits x y data < 65536) := by
  have h := (accounted_start start).run events
  rw [List.nil_append] at h
  exact ⟨h.received, exactFrames_iff h⟩

theorem handlePackets_append (frame : Frame) (data data' : List Word) :
    handlePackets frame (data ++ data') = handlePackets (handlePackets frame data) data' := by
  induction data generalizing frame with
  | nil => rfl
  | cons packet data ih => exact ih (increment frame packet)

theorem count_count (m : HistogramManager) (data data' : List Word) :
    (m.count data).count data' = m.count (data ++ data') := by
  simp [HistogramManager.count, handlePackets_append]

section Bursts

variable {m : HistogramManager} {data : List Word} {new_time : ℤ} (hne : data ≠ [])
include hne

theorem length_messageOf_ne_zero : (messageOf data).length ≠ 0 := by
  simp [messageOf, Function.comp_def, hne]

/-- A poll within the output period counts the packets. -/
theorem poll_early (h : (new_time - m.mLastOutputTime).tdiv 1000000 < m.mOutputPeriod)
    (sendThrows : Bool) :
    m.poll (.message (messageOf data)) new_time sendThrows = m.count data := by
  have hlate : ¬ (new_time - (m.count data).mLastOutputTime).tdiv 1000000 ≥
      (m.count data).mOutputPeriod := not_le.mpr h
  simp only [HistogramManager.poll, length_messageOf_ne_zero hne, packetsOf_messageOf, if_neg hlate,
    ne_eq, not_false_eq_true, if_true]

/-- A poll behind it also publishes the frame. -/
theorem poll_late (h : m.mOutputPeriod ≤ (new_time - m.mLastOutputTime).tdiv 1000000) :
    m.poll (.message (messageOf data)) new_time false = (m.count data).publish new_time := by
  have hlate : (new_time - (m.count data).mLastOutputTime).tdiv 1000000 ≥
      (m.count data).mOutputPeriod := h
  simp only [HistogramManager.poll, length_messageOf_ne_zero hne, packetsOf_messageOf, if_pos hlate,
    ne_eq, not_false_eq_true, if_true, Bool.false_eq_true, if_false]

theorem run_early (h : (new_time - m.mLastOutputTime).tdiv 1000000 < m.mOutputPeriod)
    (sendThrows : Bool) (n : ℕ) :
    m.run (List.replicate n (.poll (.message (messageOf data)) new_time sendThrows)) =
      m.count (List.replicate n data).flatten := by
  induction n generalizing m with
  | zero => simp [HistogramManager.run, HistogramManager.count, handlePackets]
  | succ n ih =>
    have hstep : m.step (.poll (.message (messageOf data)) new_time sendThrows) = m.count data :=
      poll_early hne h sendThrows
    have hrest := ih (m := m.count data) h
    rw [List.replicate_succ, List.replicate_succ, List.flatten_cons, ← count_count, ← hrest,
      ← hstep]
    rfl

/-- `n` messages with the same packets, and one more a second later. -/
def burst (n : ℕ) (data : List Word) : List HistogramManager.Event :=
  List.replicate n (.poll (.message (messageOf data)) 0 false) ++
    [.poll (.message (messageOf data)) 1000000000 false]

/-- The later message closes the frame. -/
theorem counted_burst (n : ℕ) :
    (({ mLastOutputTime := 0 } : HistogramManager).run (burst n data)).counted =
      [(List.replicate n data).flatten ++ data] := by
  have hearly : ({ mLastOutputTime := 0 } : HistogramManager).run
      (List.replicate n (.poll (.message (messageOf data)) 0 false)) =
        ({ mLastOutputTime := 0 } : HistogramManager).count (List.replicate n data).flatten :=
    run_early hne (by decide) false n
  have hlate : (({ mLastOutputTime := 0 } : HistogramManager).count
      (List.replicate n data).flatten).step (.poll (.message (messageOf data)) 1000000000 false) =
        ((({ mLastOutputTime := 0 } : HistogramManager).count
          (List.replicate n data).flatten).count data).publish 1000000000 :=
    poll_late hne (by show (1000 : ℤ) ≤ (1000000000 - 0 : ℤ).tdiv 1000000; decide)
  unfold HistogramManager.run at hearly ⊢
  rw [burst, List.foldl_append, hearly, List.foldl_cons, List.foldl_nil, hlate]
  rfl

end Bursts

/-- Sixteen messages of 4096 packets at pixel (0, 0). The bin wraps around to 0. -/
theorem bright_pixel_not_exact :
    ¬ ExactFrames
      (({ mLastOutputTime := 0 } : HistogramManager).run (burst 15 (List.replicate 4096 0)))
      ((burst 15 (List.replicate 4096 0)).flatMap HistogramManager.Event.packets) := by
  have h := (accounted_start 0).run (burst 15 (List.replicate 4096 0))
  rw [List.nil_append] at h
  have hne : List.replicate 4096 (0 : Word) ≠ [] := by
    rw [ne_eq, List.replicate_eq_nil_iff]
    decide
  rw [exactFrames_iff h, counted_burst hne]
  intro hall
  have hhits : hits 0 0 (List.replicate 4096 0) = 4096 := by
    rw [hits, List.countP_replicate]
    decide
  have hbin := hall _ (List.mem_append_left _ (List.mem_singleton_self _)) 0 0
  rw [hits_append, hits_flatten, List.map_replicate, hhits] at hbin
  revert hbin
  decide

/-! ## What is shown -/

/-- What the frames and the array show at a pixel. -/
def HistogramManager.shown (m : HistogramManager) (x y : Fin 256) : ℕ :=
  (m.published.map fun frame => (frame[bin x y]).toNat).sum + (m.mHistogram[bin x y]).toNat

section Shown

variable {frame : Frame} {data : List Word} {frames : List Frame} {datas : List (List Word)}
  {m : HistogramManager} {x y : Fin 256}

/-- A tally is at most the number. -/
theorem Tallies.le (h : Tallies frame data) (x y : Fin 256) :
    (frame[bin x y]).toNat ≤ hits x y data := by
  rw [h x y, BitVec.toNat_ofNat]
  exact Nat.mod_le _ _

theorem Tallies.modEq (h : Tallies frame data) (x y : Fin 256) :
    (frame[bin x y]).toNat ≡ hits x y data [MOD 65536] := by
  rw [h x y, BitVec.toNat_ofNat]
  exact Nat.mod_modEq _ _

theorem Tallies.toNat_eq (h : Tallies frame data) (hlt : hits x y data < 65536) :
    (frame[bin x y]).toNat = hits x y data := by
  rw [h x y, BitVec.toNat_ofNat]
  exact Nat.mod_eq_of_lt hlt

theorem sum_tallies_le (h : List.Forall₂ Tallies frames datas) (x y : Fin 256) :
    (frames.map fun frame => (frame[bin x y]).toNat).sum ≤ (datas.map (hits x y)).sum := by
  induction h with
  | nil => exact le_rfl
  | cons h _ ih => exact Nat.add_le_add (h.le x y) ih

theorem sum_tallies_modEq (h : List.Forall₂ Tallies frames datas) (x y : Fin 256) :
    (frames.map fun frame => (frame[bin x y]).toNat).sum ≡
      (datas.map (hits x y)).sum [MOD 65536] := by
  induction h with
  | nil => exact Nat.ModEq.refl 0
  | cons h _ ih => exact (h.modEq x y).add ih

theorem sum_tallies_eq (h : List.Forall₂ Tallies frames datas)
    (hlt : ∀ data ∈ datas, hits x y data < 65536) :
    (frames.map fun frame => (frame[bin x y]).toNat).sum = (datas.map (hits x y)).sum := by
  induction h with
  | nil => rfl
  | cons h _ ih =>
    rw [List.forall_mem_cons] at hlt
    rw [List.map_cons, List.map_cons, List.sum_cons, List.sum_cons, ih hlt.2, h.toNat_eq hlt.1]

/-- However the bins wrap around, no more is shown than was received. -/
theorem Accounted.shown_le (h : Accounted m data) (x y : Fin 256) :
    m.shown x y ≤ hits x y data := by
  rw [← h.received, hits_append, hits_flatten]
  exact Nat.add_le_add (sum_tallies_le h.frames x y) (h.current.le x y)

theorem Accounted.shown_modEq (h : Accounted m data) (x y : Fin 256) :
    m.shown x y ≡ hits x y data [MOD 65536] := by
  rw [← h.received, hits_append, hits_flatten]
  exact (sum_tallies_modEq h.frames x y).add (h.current.modEq x y)

/-- No bin wraps around at a pixel that is hit fewer than 65536 times between two frames. -/
theorem Accounted.shown_eq (h : Accounted m data)
    (hlt : ∀ data ∈ m.counted ++ [m.received], hits x y data < 65536) :
    m.shown x y = hits x y data := by
  rw [List.forall_mem_append, List.forall_mem_singleton] at hlt
  rw [← h.received, hits_append, hits_flatten, HistogramManager.shown,
    sum_tallies_eq h.frames hlt.1, h.current.toNat_eq hlt.2]

end Shown

end TpxServer.Histogram
