import TpxServer.Common

/-!
# The hit decoder

`publishRawData` turns the hit words of a datagram into published words. Timepix reports 34 bits of
time of arrival; the decoder puts a 4-bit rollover counter above them. The counter is advanced when
the time of arrival falls from above three quarters of its range to below one quarter, provided a
time in the middle half was seen since the last advance (`mHalfwayToRollover`).
-/

namespace TpxServer.Udp

/-- The words of type `0xB` carry hits. -/
def IsHit (packet : Word) : Prop := packet &&& 0xF000000000000000 = 0xB000000000000000

instance : DecidablePred IsHit := fun _ => inferInstanceAs (Decidable (_ = _))

/-! ## Fields of a hit word -/

def hitAddr (packet : Word) : Word := (packet &&& 0x0FFFF00000000000) >>> 44

def hitX (packet : Word) : Word :=
  ((hitAddr packet >>> 1) &&& 0x00FC) ||| (hitAddr packet &&& 0x0003)

def hitY (packet : Word) : Word :=
  ((hitAddr packet >>> 8) &&& 0x00FE) ||| ((hitAddr packet >>> 2) &&& 0x0001)

def hitTot (packet : Word) : Word := (packet &&& 0x000000003FF00000) >>> 20

/-- The 34-bit time of arrival of a hit: 16 bits of spidr time, 14 of ToA, 4 of fine ToA. -/
def fullToa (packet : Word) : Word :=
  let toa := (packet &&& 0x00000FFFC0000000) >>> 30
  let ftoa := ((packet &&& 0x00000000000F0000) >>> 16) ^^^ 0x0F
  let stime := packet &&& 0x000000000000FFFF
  (stime <<< 18) ||| (toa <<< 4) ||| ftoa

/-! ## Rollover detection -/

def quarter_time : Word := 1 <<< 32

def three_quarter_time : Word := 3 * quarter_time

/-- The members of `UdpConnectionManager` that survive from one hit to the next. -/
structure RolloverState where
  mRolloverCounter : BitVec 8 := 0
  mHalfwayToRollover : Bool := false
  mLastToA : Word := 0
  deriving Repr, DecidableEq

namespace RolloverState

/-- The flag after a hit at `full_toa` was looked at, before the rollover test. -/
def halfway (s : RolloverState) (full_toa : Word) : Bool :=
  s.mHalfwayToRollover || (full_toa > quarter_time && full_toa < three_quarter_time)

/-- The rollover test. -/
def rollsOver (s : RolloverState) (full_toa : Word) : Bool :=
  s.halfway full_toa && s.mLastToA > three_quarter_time && full_toa < quarter_time

/-- The state after a hit at `full_toa`. -/
def next (s : RolloverState) (full_toa : Word) : RolloverState :=
  if s.rollsOver full_toa then
    { mRolloverCounter := (s.mRolloverCounter + 1) &&& 0x0F
      mHalfwayToRollover := false
      mLastToA := full_toa }
  else
    { s with
      mHalfwayToRollover := s.halfway full_toa
      mLastToA := full_toa }

end RolloverState

/-- The published word of a hit, with the rollover counter already updated for it. -/
def parsedPacket (mRolloverCounter : BitVec 8) (packet : Word) : Word :=
  let tot_toa := (hitTot packet <<< 38) ||| (mRolloverCounter.setWidth 64 <<< 34) ||| fullToa packet
  (hitX packet <<< 56) ||| (hitY packet <<< 48) ||| tot_toa

/-- The loop of `publishRawData`: the state after the packets, and the words pushed to
`mTempBuffer`. -/
def publishLoop : RolloverState → List Word → RolloverState × List Word
  | s, [] => (s, [])
  | s, packet :: packets =>
    if IsHit packet then
      let s' := s.next (fullToa packet)
      let r := publishLoop s' packets
      (r.1, parsedPacket s'.mRolloverCounter packet :: r.2)
    else publishLoop s packets

/-- `packet_ptr[0], …, packet_ptr[size / 8 - 1]`. -/
def packets (data : List Byte) (size : ℕ) : List Word := loadWords 8 data (size / 8)

/-- The state after a datagram and the message sent on `mPublishSocket`. -/
def publishRawData (s : RolloverState) (data : List Byte) (size : ℕ) : RolloverState × List Word :=
  publishLoop s (packets data size)

/-- The counter is reset; the flag and the last time of arrival stay. -/
def resetToaRolloverCounter (s : RolloverState) : RolloverState := { s with mRolloverCounter := 0 }

/-! ## Datagrams -/

def BUFFER_SIZE : ℕ := 40000

/-- A received datagram: the contents of `mUdpBuffer`, of which the first `size` bytes are new. -/
structure Datagram where
  buffer : List Byte
  size : ℕ
  size_le : size ≤ buffer.length
  size_le_max : size ≤ BUFFER_SIZE

namespace Datagram

/-- The datagram that fills the buffer with exactly its own bytes. -/
def ofBytes (bs : List Byte) (h : bs.length ≤ BUFFER_SIZE) : Datagram := ⟨bs, bs.length, le_rfl, h⟩

/-- The words of a datagram. -/
def packets (d : Datagram) : List Word := Udp.packets d.buffer d.size

/-- The bytes that came over the network. -/
def bytes (d : Datagram) : List Byte := d.buffer.take d.size

end Datagram

/-- `publishRawData` over a sequence of datagrams: the final state and the messages sent. -/
def publishAll : RolloverState → List Datagram → RolloverState × List (List Word)
  | s, [] => (s, [])
  | s, d :: ds =>
    let r := publishRawData s d.buffer d.size
    let r' := publishAll r.1 ds
    (r'.1, r.2 :: r'.2)

/-- The states after every hit of the loop. -/
def hitStates : RolloverState → List Word → List RolloverState
  | _, [] => []
  | s, packet :: packets =>
    if IsHit packet then
      s.next (fullToa packet) :: hitStates (s.next (fullToa packet)) packets
    else hitStates s packets

/-! ## The loop, hit by hit -/

theorem publishLoop_hit {s : RolloverState} {packet : Word} (h : IsHit packet) (ps : List Word) :
    publishLoop s (packet :: ps) =
      ((publishLoop (s.next (fullToa packet)) ps).1,
        parsedPacket (s.next (fullToa packet)).mRolloverCounter packet ::
          (publishLoop (s.next (fullToa packet)) ps).2) := by
  rw [publishLoop, if_pos h]

theorem publishLoop_skip {s : RolloverState} {packet : Word} (h : ¬ IsHit packet)
    (ps : List Word) : publishLoop s (packet :: ps) = publishLoop s ps := by
  rw [publishLoop, if_neg h]

/-- Words of another type leave no trace: the loop sees the hits only. -/
theorem publishLoop_filter (s : RolloverState) (ps : List Word) :
    publishLoop s (ps.filter IsHit) = publishLoop s ps := by
  induction ps generalizing s with
  | nil => rfl
  | cons p ps ih =>
    by_cases h : IsHit p
    · rw [List.filter_cons_of_pos (by simpa using h), publishLoop_hit h, publishLoop_hit h, ih]
    · rw [List.filter_cons_of_neg (by simpa using h), publishLoop_skip h, ih]

/-- The loop over two pieces of a stream is the loop over the first, then over the second. -/
theorem publishLoop_append (s : RolloverState) (ps qs : List Word) :
    publishLoop s (ps ++ qs) =
      ((publishLoop (publishLoop s ps).1 qs).1,
        (publishLoop s ps).2 ++ (publishLoop (publishLoop s ps).1 qs).2) := by
  induction ps generalizing s with
  | nil => rfl
  | cons p ps ih =>
    by_cases h : IsHit p
    · rw [List.cons_append, publishLoop_hit h, publishLoop_hit h, ih]; rfl
    · rw [List.cons_append, publishLoop_skip h, publishLoop_skip h, ih]

/-- Every hit is published, and nothing else. -/
theorem length_publishLoop (s : RolloverState) (ps : List Word) :
    (publishLoop s ps).2.length = (ps.filter IsHit).length := by
  induction ps generalizing s with
  | nil => rfl
  | cons p ps ih =>
    by_cases h : IsHit p
    · rw [publishLoop_hit h, List.filter_cons_of_pos (by simpa using h), List.length_cons,
        List.length_cons, ih]
    · rw [publishLoop_skip h, List.filter_cons_of_neg (by simpa using h), ih]

theorem hitStates_hit {s : RolloverState} {packet : Word} (h : IsHit packet) (ps : List Word) :
    hitStates s (packet :: ps) =
      s.next (fullToa packet) :: hitStates (s.next (fullToa packet)) ps := by
  rw [hitStates, if_pos h]

theorem hitStates_skip {s : RolloverState} {packet : Word} (h : ¬ IsHit packet) (ps : List Word) :
    hitStates s (packet :: ps) = hitStates s ps := by
  rw [hitStates, if_neg h]

/-- They are the states that the loop itself is in after so many hits. -/
theorem getElem?_hitStates (s : RolloverState) (before after : List Word) :
    (s :: hitStates s (before ++ after))[(before.filter IsHit).length]? =
      some (publishLoop s before).1 := by
  induction before generalizing s with
  | nil => rfl
  | cons p before ih =>
    by_cases h : IsHit p
    · rw [List.cons_append, hitStates_hit h, List.filter_cons_of_pos (by simpa using h),
        List.length_cons, List.getElem?_cons_succ, ih, publishLoop_hit h]
    · rw [List.cons_append, hitStates_skip h, List.filter_cons_of_neg (by simpa using h), ih,
        publishLoop_skip h]

/-- The words pushed are those of the hits, each with the counter after it. -/
theorem publishLoop_snd (s : RolloverState) (ps : List Word) :
    (publishLoop s ps).2 =
      List.zipWith (fun s' p => parsedPacket s'.mRolloverCounter p) (hitStates s ps)
        (ps.filter IsHit) := by
  induction ps generalizing s with
  | nil => rfl
  | cons p ps ih =>
    by_cases h : IsHit p
    · rw [publishLoop_hit h, hitStates_hit h, List.filter_cons_of_pos (by simpa using h),
        List.zipWith_cons_cons, ih]
    · rw [publishLoop_skip h, hitStates_skip h, List.filter_cons_of_neg (by simpa using h), ih]

/-- How a stream is split over datagrams does not matter. -/
theorem publishAll_eq (s : RolloverState) (ds : List Datagram) :
    (publishAll s ds).1 = (publishLoop s (ds.flatMap Datagram.packets)).1 ∧
      (publishAll s ds).2.flatten = (publishLoop s (ds.flatMap Datagram.packets)).2 := by
  induction ds generalizing s with
  | nil => exact ⟨rfl, rfl⟩
  | cons d ds ih =>
    obtain ⟨h1, h2⟩ := ih (publishLoop s d.packets).1
    rw [List.flatMap_cons, publishLoop_append]
    refine ⟨h1, ?_⟩
    rw [publishAll, List.flatten_cons]
    exact congrArg₂ (· ++ ·) rfl h2

/-! ## Widths -/

theorem and_shiftRight_lt {v m : Word} {k n : ℕ} (h : m.toNat < n * 2 ^ k) :
    ((v &&& m) >>> k).toNat < n := by
  rw [BitVec.toNat_ushiftRight, Nat.shiftRight_eq_div_pow, BitVec.toNat_and,
    Nat.div_lt_iff_lt_mul (Nat.two_pow_pos k)]
  exact lt_of_le_of_lt Nat.and_le_right h

theorem and_lt {v m : Word} {n : ℕ} (h : m.toNat < n) : (v &&& m).toNat < n := by
  rw [BitVec.toNat_and]
  exact lt_of_le_of_lt Nat.and_le_right h

theorem or_lt {u v : Word} {k : ℕ} (hu : u.toNat < 2 ^ k) (hv : v.toNat < 2 ^ k) :
    (u ||| v).toNat < 2 ^ k := by
  rw [BitVec.toNat_or]
  exact Nat.or_lt_two_pow hu hv

theorem hitX_lt (packet : Word) : (hitX packet).toNat < 2 ^ 8 :=
  or_lt (and_lt (by decide)) (and_lt (by decide))

theorem hitY_lt (packet : Word) : (hitY packet).toNat < 2 ^ 8 :=
  or_lt (and_lt (by decide)) (and_lt (by decide))

theorem hitTot_lt (packet : Word) : (hitTot packet).toNat < 2 ^ 10 :=
  and_shiftRight_lt (by decide)

theorem fullToa_lt (packet : Word) : (fullToa packet).toNat < 2 ^ 34 := by
  have hstime : (packet &&& 0x000000000000FFFF).toNat < 2 ^ 16 := and_lt (by decide)
  have htoa : ((packet &&& 0x00000FFFC0000000) >>> 30).toNat < 2 ^ 14 :=
    and_shiftRight_lt (by decide)
  have hftoa : (((packet &&& 0x00000000000F0000) >>> 16) ^^^ 0x0F : Word).toNat < 2 ^ 34 := by
    have h : ((packet &&& 0x00000000000F0000) >>> 16).toNat < 2 ^ 4 := and_shiftRight_lt (by decide)
    rw [BitVec.toNat_xor]
    exact Nat.xor_lt_two_pow (by omega) (by decide)
  refine or_lt (or_lt ?_ ?_) hftoa
  · rw [BitVec.toNat_shiftLeft, Nat.shiftLeft_eq]
    omega
  · rw [BitVec.toNat_shiftLeft, Nat.shiftLeft_eq]
    omega

/-- The fields of a published word do not overlap. -/
theorem toNat_parsedPacket {c : BitVec 8} (hc : c.toNat < 16) (packet : Word) :
    (parsedPacket c packet).toNat = (hitX packet).toNat * 2 ^ 56 + ((hitY packet).toNat * 2 ^ 48 +
      ((hitTot packet).toNat * 2 ^ 38 + (c.toNat * 2 ^ 34 + (fullToa packet).toNat))) := by
  have hx := hitX_lt packet
  have hy := hitY_lt packet
  have htot := hitTot_lt packet
  have htoa := fullToa_lt packet
  have hcw : (c.setWidth 64).toNat = c.toNat := by
    rw [BitVec.toNat_setWidth]
    omega
  have h1 : (c.setWidth 64 <<< 34 ||| fullToa packet).toNat =
      c.toNat * 2 ^ 34 + (fullToa packet).toNat := by
    rw [toNat_shiftLeft_or htoa (by omega), hcw]
  have h2 : (hitTot packet <<< 38 ||| (c.setWidth 64 <<< 34 ||| fullToa packet)).toNat =
      (hitTot packet).toNat * 2 ^ 38 + (c.toNat * 2 ^ 34 + (fullToa packet).toNat) := by
    rw [toNat_shiftLeft_or (by omega) (by omega), h1]
  have h3 : (hitY packet <<< 48 |||
      (hitTot packet <<< 38 ||| (c.setWidth 64 <<< 34 ||| fullToa packet))).toNat =
      (hitY packet).toNat * 2 ^ 48 +
        ((hitTot packet).toNat * 2 ^ 38 + (c.toNat * 2 ^ 34 + (fullToa packet).toNat)) := by
    rw [toNat_shiftLeft_or (by omega) (by omega), h2]
  rw [parsedPacket, BitVec.or_assoc, BitVec.or_assoc (x := hitTot packet <<< 38),
    toNat_shiftLeft_or (by omega) (by omega), h3]

/-- The time of a published word: the counter above the 34-bit time of arrival. -/
theorem t_parsedPacket {c : BitVec 8} (hc : c.toNat < 16) (packet : Word) :
    (Packet.mk (parsedPacket c packet)).t =
      ((c.toNat * 2 ^ 34 + (fullToa packet).toNat : ℕ) : ℤ) := by
  have htoa := fullToa_lt packet
  rw [Packet.t_eq, toNat_parsedPacket hc]
  omega

end TpxServer.Udp
