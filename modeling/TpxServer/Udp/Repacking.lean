import TpxServer.Histogram.Manager
import TpxServer.Udp.Rollover

/-!
# What the consumers read

A published word has the column, the row, the ToT and the time of the hit in fields of their own, so
the masks and shifts of the clusterer (`Packet`) and of the histogram manager return what the
decoder put in, and the hit word itself can be put together again from the published word. Thus the
published words determine the hit words of a stream (`decoding_lossless`).
-/

namespace TpxServer.Udp

/-! ## Reachable states -/

/-- What changes the state of the decoder. -/
inductive DecoderEvent where
  | datagram (d : Datagram)
  | reset

/-- The state after the events, and the messages sent. -/
def decode : RolloverState → List DecoderEvent → RolloverState × List (List Word)
  | s, [] => (s, [])
  | s, .datagram d :: es =>
    let r := publishRawData s d.buffer d.size
    let r' := decode r.1 es
    (r'.1, r.2 :: r'.2)
  | s, .reset :: es => decode (resetToaRolloverCounter s) es

/-- The hit words of the datagrams. -/
def hitWords : List DecoderEvent → List Word
  | [] => []
  | .datagram d :: es => d.packets.filter IsHit ++ hitWords es
  | .reset :: es => hitWords es

section Counter

variable {s : RolloverState}

theorem counter_lt_next (h : s.mRolloverCounter.toNat < 16) (full_toa : Word) :
    (s.next full_toa).mRolloverCounter.toNat < 16 := by
  unfold RolloverState.next
  split_ifs
  · rw [toNat_counter_succ]
    exact Nat.mod_lt _ (by decide)
  · exact h

/-- The counter stays below 16 at every hit of a datagram. -/
theorem counter_lt_hitStates (h : s.mRolloverCounter.toNat < 16) (ps : List Word) :
    ∀ s' ∈ hitStates s ps, s'.mRolloverCounter.toNat < 16 := by
  induction ps generalizing s with
  | nil => exact fun s' hs' => absurd hs' List.not_mem_nil
  | cons p ps ih =>
    by_cases hp : IsHit p
    · have hnext := counter_lt_next h (fullToa p)
      rw [hitStates_hit hp, List.forall_mem_cons]
      exact ⟨hnext, ih hnext⟩
    · rw [hitStates_skip hp]
      exact ih h

theorem counter_lt_publishLoop (h : s.mRolloverCounter.toNat < 16) (ps : List Word) :
    (publishLoop s ps).1.mRolloverCounter.toNat < 16 := by
  induction ps generalizing s with
  | nil => exact h
  | cons p ps ih =>
    by_cases hp : IsHit p
    · rw [publishLoop_hit hp]
      exact ih (counter_lt_next h (fullToa p))
    · rw [publishLoop_skip hp]
      exact ih h

theorem counter_lt_decode (h : s.mRolloverCounter.toNat < 16) (es : List DecoderEvent) :
    (decode s es).1.mRolloverCounter.toNat < 16 := by
  induction es generalizing s with
  | nil => exact h
  | cons e es ih =>
    cases e with
    | datagram d => exact ih (counter_lt_publishLoop h d.packets)
    | reset => exact ih (by decide : (0 : BitVec 8).toNat < 16)

end Counter

/-! ## Putting a hit word together again -/

theorem toNat_xor_fifteen {v : Word} (h : v.toNat < 16) : (v ^^^ 0xF).toNat = 15 - v.toNat := by
  rw [BitVec.toNat_xor]
  generalize v.toNat = n at h
  interval_cases n <;> rfl

section HitFields

variable (packet : Word)

theorem hitAddr_lt : (hitAddr packet).toNat < 2 ^ 16 := and_shiftRight_lt (by decide)

theorem toNat_hitAddr : (hitAddr packet).toNat = packet.toNat / 2 ^ 44 % 2 ^ 16 :=
  toNat_and_shiftRight _ _ rfl

theorem toNat_hitTot : (hitTot packet).toNat = packet.toNat / 2 ^ 20 % 2 ^ 10 :=
  toNat_and_shiftRight _ _ rfl

theorem toNat_fullToa : (fullToa packet).toNat = packet.toNat % 2 ^ 16 * 2 ^ 18 +
    (packet.toNat / 2 ^ 30 % 2 ^ 14 * 2 ^ 4 + (15 - packet.toNat / 2 ^ 16 % 2 ^ 4)) := by
  have hstime : (packet &&& 0x000000000000FFFF).toNat = packet.toNat % 2 ^ 16 :=
    toNat_and_mask _ _ rfl
  have htoa : ((packet &&& 0x00000FFFC0000000) >>> 30).toNat = packet.toNat / 2 ^ 30 % 2 ^ 14 :=
    toNat_and_shiftRight _ _ rfl
  have hfine : ((packet &&& 0x00000000000F0000) >>> 16).toNat = packet.toNat / 2 ^ 16 % 2 ^ 4 :=
    toNat_and_shiftRight _ _ rfl
  have hftoa : (((packet &&& 0x00000000000F0000) >>> 16) ^^^ 0x0F : Word).toNat =
      15 - packet.toNat / 2 ^ 16 % 2 ^ 4 := by
    rw [toNat_xor_fifteen (by omega), hfine]
  have hlow : (((packet &&& 0x00000FFFC0000000) >>> 30) <<< 4 |||
      (((packet &&& 0x00000000000F0000) >>> 16) ^^^ 0x0F) : Word).toNat =
        packet.toNat / 2 ^ 30 % 2 ^ 14 * 2 ^ 4 + (15 - packet.toNat / 2 ^ 16 % 2 ^ 4) := by
    rw [toNat_shiftLeft_or (by omega) (by omega), htoa, hftoa]
  rw [fullToa, BitVec.or_assoc, toNat_shiftLeft_or (by omega) (by omega), hstime, hlow]

end HitFields

/-- The pixel address of a column and a row. -/
def rawAddr (x y : Word) : Word :=
  ((x &&& 0x00FC) <<< 1) ||| (x &&& 0x0003) ||| ((y &&& 0x00FE) <<< 8) ||| ((y &&& 0x0001) <<< 2)

/-- The hit word with the given address, ToT and 34-bit time of arrival. -/
def rawHit (addr tot full_toa : Word) : Word :=
  0xB000000000000000 ||| (addr <<< 44) ||| (((full_toa >>> 4) &&& 0x3FFF) <<< 30) |||
    (tot <<< 20) ||| (((full_toa &&& 0xF) ^^^ 0xF) <<< 16) ||| (full_toa >>> 18)

/-- The hit word that a published word comes from. -/
def rawPacket (parsed_packet : Word) : Word :=
  rawHit (rawAddr (Histogram.packetX parsed_packet) (Histogram.packetY parsed_packet))
    ((parsed_packet >>> 38) &&& 0x3FF) (parsed_packet &&& 0x3FFFFFFFF)

theorem getLsbD_of_lt {v : Word} {n i : ℕ} (h : v.toNat < 2 ^ n) (hi : n ≤ i) :
    v.getLsbD i = false :=
  Nat.testBit_lt_two_pow (lt_of_lt_of_le h (Nat.pow_le_pow_right (by decide) hi))

theorem and_shiftLeft_lt {v m : Word} {k n : ℕ} (h : m.toNat * 2 ^ k < n) :
    ((v &&& m) <<< k).toNat < n := by
  rw [BitVec.toNat_shiftLeft, Nat.shiftLeft_eq, BitVec.toNat_and]
  calc (v.toNat &&& m.toNat) * 2 ^ k % 2 ^ 64 ≤ (v.toNat &&& m.toNat) * 2 ^ k := Nat.mod_le _ _
    _ ≤ m.toNat * 2 ^ k := Nat.mul_le_mul_right _ Nat.and_le_right
    _ < n := h

theorem rawAddr_lt (x y : Word) : (rawAddr x y).toNat < 2 ^ 16 :=
  or_lt (or_lt (or_lt (and_shiftLeft_lt (by decide)) (and_lt (by decide)))
    (and_shiftLeft_lt (by decide))) (and_shiftLeft_lt (by decide))

/-- Column and row have all bits of the address. -/
theorem rawAddr_hit (packet : Word) : rawAddr (hitX packet) (hitY packet) = hitAddr packet := by
  have haddr := hitAddr_lt packet
  have hraw := rawAddr_lt (hitX packet) (hitY packet)
  apply BitVec.eq_of_getLsbD_eq
  intro i hi
  by_cases hlow : i < 16
  · unfold rawAddr hitX hitY
    generalize hitAddr packet = addr
    interval_cases i <;> simp
  · rw [getLsbD_of_lt hraw (not_lt.mp hlow), getLsbD_of_lt haddr (not_lt.mp hlow)]

/-- The fields of a hit word do not overlap. -/
theorem toNat_rawHit {addr tot full_toa : Word} (haddr : addr.toNat < 2 ^ 16)
    (htot : tot.toNat < 2 ^ 10) (htoa : full_toa.toNat < 2 ^ 34) :
    (rawHit addr tot full_toa).toNat = 11 * 2 ^ 60 + (addr.toNat * 2 ^ 44 +
      (full_toa.toNat / 2 ^ 4 % 2 ^ 14 * 2 ^ 30 + (tot.toNat * 2 ^ 20 +
        ((15 - full_toa.toNat % 2 ^ 4) * 2 ^ 16 + full_toa.toNat / 2 ^ 18)))) := by
  have hstime : (full_toa >>> 18).toNat = full_toa.toNat / 2 ^ 18 := by
    rw [BitVec.toNat_ushiftRight, Nat.shiftRight_eq_div_pow]
  have hfine : (full_toa &&& 0xF).toNat = full_toa.toNat % 2 ^ 4 := toNat_and_mask _ _ rfl
  have hftoa : ((full_toa &&& 0xF) ^^^ 0xF).toNat = 15 - full_toa.toNat % 2 ^ 4 := by
    rw [toNat_xor_fifteen (by omega), hfine]
  have htoa14 : ((full_toa >>> 4) &&& 0x3FFF).toNat = full_toa.toNat / 2 ^ 4 % 2 ^ 14 :=
    toNat_shiftRight_and _ _ _ rfl
  have h16 : (((full_toa &&& 0xF) ^^^ 0xF) <<< 16 ||| full_toa >>> 18).toNat =
      (15 - full_toa.toNat % 2 ^ 4) * 2 ^ 16 + full_toa.toNat / 2 ^ 18 := by
    rw [toNat_shiftLeft_or (by omega) (by omega), hftoa, hstime]
  have h20 : (tot <<< 20 ||| (((full_toa &&& 0xF) ^^^ 0xF) <<< 16 ||| full_toa >>> 18)).toNat =
      tot.toNat * 2 ^ 20 + ((15 - full_toa.toNat % 2 ^ 4) * 2 ^ 16 + full_toa.toNat / 2 ^ 18) := by
    rw [toNat_shiftLeft_or (by omega) (by omega), h16]
  have h30 : (((full_toa >>> 4) &&& 0x3FFF) <<< 30 |||
      (tot <<< 20 ||| (((full_toa &&& 0xF) ^^^ 0xF) <<< 16 ||| full_toa >>> 18))).toNat =
      full_toa.toNat / 2 ^ 4 % 2 ^ 14 * 2 ^ 30 + (tot.toNat * 2 ^ 20 +
        ((15 - full_toa.toNat % 2 ^ 4) * 2 ^ 16 + full_toa.toNat / 2 ^ 18)) := by
    rw [toNat_shiftLeft_or (by omega) (by omega), htoa14, h20]
  have h44 : (addr <<< 44 ||| (((full_toa >>> 4) &&& 0x3FFF) <<< 30 |||
      (tot <<< 20 ||| (((full_toa &&& 0xF) ^^^ 0xF) <<< 16 ||| full_toa >>> 18)))).toNat =
      addr.toNat * 2 ^ 44 + (full_toa.toNat / 2 ^ 4 % 2 ^ 14 * 2 ^ 30 + (tot.toNat * 2 ^ 20 +
        ((15 - full_toa.toNat % 2 ^ 4) * 2 ^ 16 + full_toa.toNat / 2 ^ 18))) := by
    rw [toNat_shiftLeft_or (by omega) (by omega), h30]
  have hraw : rawHit addr tot full_toa = (11 : Word) <<< 60 ||| (addr <<< 44 |||
      (((full_toa >>> 4) &&& 0x3FFF) <<< 30 ||| (tot <<< 20 |||
        (((full_toa &&& 0xF) ^^^ 0xF) <<< 16 ||| full_toa >>> 18)))) := by
    rw [rawHit, BitVec.or_assoc, BitVec.or_assoc, BitVec.or_assoc, BitVec.or_assoc]
    rfl
  have heleven : (11 : Word).toNat = 11 := rfl
  rw [hraw, toNat_shiftLeft_or (by omega) (by omega), heleven, h44]

theorem toNat_div_of_isHit {packet : Word} (h : IsHit packet) : packet.toNat / 2 ^ 60 = 11 := by
  have hfield := toNat_and_shiftRight packet 0xF000000000000000 (n := 4) (k := 60) rfl
  have htype : ((packet &&& 0xF000000000000000) >>> 60).toNat = 11 := by
    rw [show packet &&& 0xF000000000000000 = 0xB000000000000000 from h]
    rfl
  have hlt := packet.isLt
  omega

/-- A word of this layout is the sum of its digits. -/
theorem eq_of_digits {p : ℕ} (htype : p / 2 ^ 60 = 11) :
    11 * 2 ^ 60 + (p / 2 ^ 44 % 2 ^ 16 * 2 ^ 44 + (p / 2 ^ 30 % 2 ^ 14 * 2 ^ 30 +
      (p / 2 ^ 20 % 2 ^ 10 * 2 ^ 20 + (p / 2 ^ 16 % 2 ^ 4 * 2 ^ 16 + p % 2 ^ 16)))) = p := by
  have h20 : p / 2 ^ 20 = p / 2 ^ 16 / 2 ^ 4 := by rw [Nat.div_div_eq_div_mul, ← pow_add]
  have h30 : p / 2 ^ 30 = p / 2 ^ 20 / 2 ^ 10 := by rw [Nat.div_div_eq_div_mul, ← pow_add]
  have h44 : p / 2 ^ 44 = p / 2 ^ 30 / 2 ^ 14 := by rw [Nat.div_div_eq_div_mul, ← pow_add]
  have h60 : p / 2 ^ 60 = p / 2 ^ 44 / 2 ^ 16 := by rw [Nat.div_div_eq_div_mul, ← pow_add]
  omega

/-- The parts of a time of arrival. -/
theorem toa_digits (stime : ℕ) {toa ftoa : ℕ} (htoa : toa < 2 ^ 14) (hftoa : ftoa < 2 ^ 4) :
    (stime * 2 ^ 18 + (toa * 2 ^ 4 + (15 - ftoa))) / 2 ^ 18 = stime ∧
      (stime * 2 ^ 18 + (toa * 2 ^ 4 + (15 - ftoa))) / 2 ^ 4 % 2 ^ 14 = toa ∧
      15 - (stime * 2 ^ 18 + (toa * 2 ^ 4 + (15 - ftoa))) % 2 ^ 4 = ftoa := by
  refine ⟨by omega, by omega, by omega⟩

/-- The type of the word is known, and every other bit is in one of the fields. -/
theorem rawHit_fields {packet : Word} (h : IsHit packet) :
    rawHit (hitAddr packet) (hitTot packet) (fullToa packet) = packet := by
  obtain ⟨hstime, htoa, hftoa⟩ := toa_digits (packet.toNat % 2 ^ 16)
    (Nat.mod_lt (packet.toNat / 2 ^ 30) (Nat.two_pow_pos 14))
    (Nat.mod_lt (packet.toNat / 2 ^ 16) (Nat.two_pow_pos 4))
  apply BitVec.eq_of_toNat_eq
  rw [toNat_rawHit (hitAddr_lt packet) (hitTot_lt packet) (fullToa_lt packet), toNat_hitAddr,
    toNat_hitTot, toNat_fullToa, hstime, htoa, hftoa]
  exact eq_of_digits (toNat_div_of_isHit h)

section Fields

variable {c : BitVec 8} (hc : c.toNat < 16) (packet : Word)
include hc

theorem packetX_parsedPacket : Histogram.packetX (parsedPacket c packet) = hitX packet := by
  have hx := hitX_lt packet
  have hy := hitY_lt packet
  have htot := hitTot_lt packet
  have htoa := fullToa_lt packet
  apply BitVec.eq_of_toNat_eq
  rw [Histogram.packetX, toNat_shiftRight_and _ _ (n := 8) _ rfl, toNat_parsedPacket hc]
  omega

theorem packetY_parsedPacket : Histogram.packetY (parsedPacket c packet) = hitY packet := by
  have hy := hitY_lt packet
  have htot := hitTot_lt packet
  have htoa := fullToa_lt packet
  apply BitVec.eq_of_toNat_eq
  rw [Histogram.packetY, toNat_shiftRight_and _ _ (n := 8) _ rfl, toNat_parsedPacket hc]
  omega

theorem tot_parsedPacket : (parsedPacket c packet >>> 38) &&& 0x3FF = hitTot packet := by
  have htot := hitTot_lt packet
  have htoa := fullToa_lt packet
  apply BitVec.eq_of_toNat_eq
  rw [toNat_shiftRight_and _ _ (n := 10) _ rfl, toNat_parsedPacket hc]
  omega

theorem toa_parsedPacket : parsedPacket c packet &&& 0x3FFFFFFFF = fullToa packet := by
  have htoa := fullToa_lt packet
  apply BitVec.eq_of_toNat_eq
  rw [toNat_and_mask _ _ (n := 34) rfl, toNat_parsedPacket hc]
  omega

/-- A hit word can be read off its published word. -/
theorem rawPacket_parsedPacket (h : IsHit packet) : rawPacket (parsedPacket c packet) = packet := by
  rw [rawPacket, packetX_parsedPacket hc, packetY_parsedPacket hc, tot_parsedPacket hc,
    toa_parsedPacket hc, rawAddr_hit, rawHit_fields h]

end Fields

/-- The fields of the published word of a hit do not overlap, and the consumers read them as the
decoder wrote them. -/
structure ReadBack (c : BitVec 8) (packet : Word) : Prop where
  apart : (parsedPacket c packet).toNat = (hitX packet).toNat * 2 ^ 56 +
    ((hitY packet).toNat * 2 ^ 48 + ((hitTot packet).toNat * 2 ^ 38 +
      (c.toNat * 2 ^ 34 + (fullToa packet).toNat)))
  widths : (hitX packet).toNat < 2 ^ 8 ∧ (hitY packet).toNat < 2 ^ 8 ∧
    (hitTot packet).toNat < 2 ^ 10 ∧ c.toNat < 2 ^ 4 ∧ (fullToa packet).toNat < 2 ^ 34
  x : (Packet.mk (parsedPacket c packet)).x = (hitX packet).toNat
  y : (Packet.mk (parsedPacket c packet)).y = (hitY packet).toNat
  tot : (Packet.mk (parsedPacket c packet)).tot = (hitTot packet).toNat
  t : (Packet.mk (parsedPacket c packet)).t = (c.toNat * 2 ^ 34 + (fullToa packet).toNat : ℕ)
  hist_ix : Histogram.histIx (parsedPacket c packet) =
    (hitX packet).toNat + (hitY packet).toNat * 256
  raw : rawPacket (parsedPacket c packet) = packet

theorem readBack {c : BitVec 8} (hc : c.toNat < 16) {packet : Word} (h : IsHit packet) :
    ReadBack c packet where
  apart := toNat_parsedPacket hc packet
  widths := ⟨hitX_lt packet, hitY_lt packet, hitTot_lt packet, hc, fullToa_lt packet⟩
  x := congrArg (fun v : Word => (v.toNat : ℤ)) (packetX_parsedPacket hc packet)
  y := congrArg (fun v : Word => (v.toNat : ℤ)) (packetY_parsedPacket hc packet)
  tot := congrArg (fun v : Word => (v.toNat : ℤ)) (tot_parsedPacket hc packet)
  t := t_parsedPacket hc packet
  hist_ix := by
    rw [Histogram.histIx, packetX_parsedPacket hc, packetY_parsedPacket hc]
  raw := rawPacket_parsedPacket hc packet h

/-! ## Streams -/

/-- The hit words of a datagram, read off the published words. -/
theorem map_rawPacket_publishLoop {s : RolloverState} (h : s.mRolloverCounter.toNat < 16)
    (ps : List Word) : (publishLoop s ps).2.map rawPacket = ps.filter IsHit := by
  induction ps generalizing s with
  | nil => rfl
  | cons p ps ih =>
    by_cases hp : IsHit p
    · have hnext := counter_lt_next h (fullToa p)
      rw [publishLoop_hit hp, List.map_cons, rawPacket_parsedPacket hnext p hp, ih hnext,
        List.filter_cons_of_pos (by simpa using hp)]
    · rw [publishLoop_skip hp, ih h, List.filter_cons_of_neg (by simpa using hp)]

theorem map_rawPacket_decode {s : RolloverState} (h : s.mRolloverCounter.toNat < 16)
    (es : List DecoderEvent) : (decode s es).2.flatten.map rawPacket = hitWords es := by
  induction es generalizing s with
  | nil => rfl
  | cons e es ih =>
    cases e with
    | datagram d =>
      have hrest := ih (counter_lt_publishLoop h d.packets)
      rw [decode, List.flatten_cons, List.map_append, hitWords]
      exact congrArg₂ (· ++ ·) (map_rawPacket_publishLoop h d.packets) hrest
    | reset => exact ih (by decide : (0 : BitVec 8).toNat < 16)

/-- **Decoding.** In every reachable state the counter is below 16, at every hit; the published word
of a hit is read back in all its fields, and the published words of a stream determine its hit
words. -/
theorem decoding_lossless :
    (∀ es ps, (decode {} es).1.mRolloverCounter.toNat < 16 ∧
      ∀ s ∈ hitStates (decode {} es).1 ps, s.mRolloverCounter.toNat < 16) ∧
    (∀ (c : BitVec 8) (packet : Word), c.toNat < 16 → IsHit packet → ReadBack c packet) ∧
    (∀ es, (decode {} es).2.flatten.map rawPacket = hitWords es) ∧
    ∀ es es', (decode {} es).2.flatten = (decode {} es').2.flatten →
      hitWords es = hitWords es' := by
  have hstart : ({} : RolloverState).mRolloverCounter.toNat < 16 := by decide
  refine ⟨fun es ps => ?_, fun c packet hc h => readBack hc h,
    fun es => map_rawPacket_decode hstart es, fun es es' h => ?_⟩
  · have hcounter := counter_lt_decode hstart es
    exact ⟨hcounter, counter_lt_hitStates hcounter ps⟩
  · rw [← map_rawPacket_decode hstart es, h, map_rawPacket_decode hstart es']

/-- A hit published with the counter at 3. -/
theorem decoding_lossless_hit : ReadBack 3 (hitAt 0x123456789) :=
  decoding_lossless.2.1 3 (hitAt 0x123456789) (by decide) (by decide)

end TpxServer.Udp
