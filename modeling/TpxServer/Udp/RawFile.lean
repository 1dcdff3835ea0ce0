import Mathlib.Tactic.IntervalCases
import TpxServer.Udp.Manager

/-!
# The raw save file

The save file is a sequence of chunks: an 8-byte header, `TPX3`, two zero bytes and the size of the
rest in bytes (low byte first), then the hit words. `parsePackets` is the reader. Whatever datagrams
arrive, the reader consumes the file exactly, meets a valid header at the start of every chunk and
returns the hit words of the datagrams of whole words (`raw_file_round_trip`).

The writer tests the type in the top byte of a word, the publisher in the word (`typeByte_iff`); the
counting pass and the writing pass of the writer agree (`length_clickBytes`).
-/

namespace TpxServer.Udp

/-! ## The reader -/

def reverseBytes (x : Word) : Word :=
  ((x >>> 56) &&& 0x00000000000000FF) |||
  ((x >>> 40) &&& 0x000000000000FF00) |||
  ((x >>> 24) &&& 0x0000000000FF0000) |||
  ((x >>>  8) &&& 0x00000000FF000000) |||
  ((x <<<  8) &&& 0x000000FF00000000) |||
  ((x <<< 24) &&& 0x0000FF0000000000) |||
  ((x <<< 40) &&& 0x00FF000000000000) |||
  ((x <<< 56) &&& 0xFF00000000000000)

def chunkName (header : Word) : Word := header >>> 32

def chunkSize (header : Word) : Word :=
  ((header >>> 8) &&& 0xFF#64) ||| ((header <<< 8) &&& 0xFF00#64)

/-- A chunk as the reader sees it: whether its header starts with `TPX3`, and its words. -/
structure Chunk where
  nameOk : Bool
  words : List Word
  deriving DecidableEq

/-- The chunk loop of the reader, on the words that are left. It fails if a chunk is longer than
the rest of the file. -/
def parsePackets : List Word → Option (List Chunk)
  | [] => some []
  | packet :: rest =>
    let header := reverseBytes packet
    let count := (chunkSize header).toNat / 8
    if count ≤ rest.length then
      (parsePackets (rest.drop count)).map (⟨chunkName header == 0x54505833, rest.take count⟩ :: ·)
    else none
termination_by ws => ws.length
decreasing_by simp only [List.length_drop, List.length_cons]; omega

/-- The reader consumes the file exactly, every chunk it meets has a valid header, and the words of
the chunks are `ws`. -/
def ReadsAs (file : List Byte) (ws : List Word) : Prop :=
  file.length = 8 * (file.length / 8) ∧
    ∃ chunks, parsePackets (loadWords 8 file (file.length / 8)) = some chunks ∧
      (∀ c ∈ chunks, c.nameOk = true) ∧ chunks.flatMap Chunk.words = ws

/-! ## Types of words -/

theorem isHit_iff (w : Word) :
    IsHit w ↔ w.getLsbD 63 = true ∧ w.getLsbD 62 = false ∧ w.getLsbD 61 = true ∧
      w.getLsbD 60 = true := by
  unfold IsHit
  constructor
  · intro h
    have hbit : ∀ i, (0xF000000000000000 : Word).getLsbD i = true →
        w.getLsbD i = (0xB000000000000000 : Word).getLsbD i := by
      intro i hi
      rw [← h, BitVec.getLsbD_and, hi, Bool.and_true]
    exact ⟨hbit 63 rfl, hbit 62 rfl, hbit 61 rfl, hbit 60 rfl⟩
  · rintro ⟨h63, h62, h61, h60⟩
    apply BitVec.eq_of_getLsbD_eq
    intro i hi
    rw [BitVec.getLsbD_and]
    by_cases h : i < 60
    · have hm : (0xF000000000000000 : Word).getLsbD i = false := by interval_cases i <;> rfl
      have hb : (0xB000000000000000 : Word).getLsbD i = false := by interval_cases i <;> rfl
      rw [hm, hb, Bool.and_false]
    · interval_cases i
      · rw [h60]; rfl
      · rw [h61]; rfl
      · rw [h62]; rfl
      · rw [h63]; rfl

theorem highNibble_iff : ∀ b : Byte, (b &&& 0xF0) >>> 4 = 0xb ↔
    b.getLsbD 7 = true ∧ b.getLsbD 6 = false ∧ b.getLsbD 5 = true ∧ b.getLsbD 4 = true := by
  decide

/-- The byte-wise type test of the writer is the word-wise type test of the publisher. -/
theorem typeByte_iff (bytes : List Byte) (ix : ℕ) :
    typeByte bytes ix = 0xb ↔ IsHit (wordAt 8 bytes ix) := by
  have hbit : ∀ j, j < 8 → (wordAt 8 bytes ix).getLsbD (56 + j) =
      (bytes.getD (8 * ix + 7) 0).getLsbD j := by
    intro j hj
    rw [wordAt, getLsbD_loadLE, show (56 + j) / 8 = 7 by omega, show (56 + j) % 8 = j by omega,
      decide_eq_true (by omega : 56 + j < 8 * 8), Bool.true_and]
    rfl
  unfold typeByte
  rw [highNibble_iff, isHit_iff, ← hbit 7 (by omega), ← hbit 6 (by omega), ← hbit 5 (by omega),
    ← hbit 4 (by omega)]

/-! ## The two passes of the writer -/

/-- The blocks the writing pass writes. -/
def clickBlocks (bytes : List Byte) (num : ℕ) : List (List Byte) :=
  ((List.range num).filter fun ix => typeByte bytes ix == 0xb).map (wordBytes 8 bytes)

theorem clickBytes_eq (bytes : List Byte) (num : ℕ) :
    clickBytes bytes num = (clickBlocks bytes num).flatten := by
  unfold clickBytes clickBlocks
  induction List.range num with
  | nil => rfl
  | cons ix ixs ih =>
    by_cases h : (typeByte bytes ix == 0xb) = true
    · rw [List.flatMap_cons, if_pos h,
        List.filter_cons_of_pos (p := fun ix => typeByte bytes ix == 0xb) h, List.map_cons,
        List.flatten_cons, ih]
      rfl
    · rw [List.flatMap_cons, if_neg h,
        List.filter_cons_of_neg (p := fun ix => typeByte bytes ix == 0xb) h, List.nil_append, ih]

theorem length_clickBlocks (bytes : List Byte) (num : ℕ) :
    (clickBlocks bytes num).length = numClicks bytes num := by
  rw [clickBlocks, List.length_map, ← List.countP_eq_length_filter, numClicks]

theorem length_of_mem_clickBlocks {bytes : List Byte} {num : ℕ} {b : List Byte}
    (h : b ∈ clickBlocks bytes num) : b.length = 8 := by
  obtain ⟨ix, -, rfl⟩ := List.mem_map.mp h
  exact length_wordBytes 8 bytes ix

/-- The writing pass writes as many words as the counting pass has counted. -/
theorem length_clickBytes (bytes : List Byte) (num : ℕ) :
    (clickBytes bytes num).length = 8 * numClicks bytes num := by
  rw [clickBytes_eq, ← length_clickBlocks, List.length_flatten,
    List.map_congr_left fun b hb => length_of_mem_clickBlocks hb, List.map_const',
    List.sum_replicate_nat, Nat.mul_comm]

/-- The words written for a datagram are its hits, in order. -/
theorem loadWords_clickBytes (bytes : List Byte) (num : ℕ) :
    loadWords 8 (clickBytes bytes num) (numClicks bytes num) =
      (loadWords 8 bytes num).filter IsHit := by
  rw [clickBytes_eq, ← length_clickBlocks,
    loadWords_flatten _ fun b hb => length_of_mem_clickBlocks hb, clickBlocks, List.map_map,
    loadWords, List.filter_map]
  refine congrArg₂ List.map rfl (List.filter_congr fun ix _ => ?_)
  rw [Function.comp_apply, Bool.eq_iff_iff, beq_iff_eq, decide_eq_true_iff]
  exact typeByte_iff bytes ix

theorem numClicks_eq (bytes : List Byte) (num : ℕ) :
    numClicks bytes num = ((loadWords 8 bytes num).filter IsHit).length := by
  rw [← loadWords_clickBytes, length_loadWords]

theorem numClicks_le (bytes : List Byte) (num : ℕ) : numClicks bytes num ≤ num :=
  le_trans List.countP_le_length (by rw [List.length_range])

/-! ## Headers -/

/-- The mask of byte `k` keeps the bits of that byte. -/
theorem getLsbD_byteMask (x : Word) (k : ℕ) {i : ℕ} (hi : i < 64) :
    (x &&& 0xFF#64 <<< (8 * k)).getLsbD i = (decide (i / 8 = k) && x.getLsbD i) := by
  have hbyte : ∀ j, (0xFF#64).getLsbD j = decide (j < 8) := by
    intro j
    rw [BitVec.getLsbD_ofNat, show 0xFF = 2 ^ 8 - 1 from rfl, Nat.testBit_two_pow_sub_one,
      ← Bool.decide_and, decide_eq_decide]
    omega
  have hmask : (0xFF#64 <<< (8 * k)).getLsbD i = decide (i / 8 = k) := by
    rw [BitVec.getLsbD_shiftLeft, hbyte]
    simp only [hi, decide_true, Bool.true_and, ← decide_not, ← Bool.decide_and, decide_eq_decide]
    omega
  rw [BitVec.getLsbD_and, hmask, Bool.and_comm]

theorem reverseBytes_eq (x : Word) : reverseBytes x =
    (x >>> 56 &&& 0xFF#64 <<< (8 * 0)) ||| (x >>> 40 &&& 0xFF#64 <<< (8 * 1)) |||
    (x >>> 24 &&& 0xFF#64 <<< (8 * 2)) ||| (x >>> 8 &&& 0xFF#64 <<< (8 * 3)) |||
    (x <<< 8 &&& 0xFF#64 <<< (8 * 4)) ||| (x <<< 24 &&& 0xFF#64 <<< (8 * 5)) |||
    (x <<< 40 &&& 0xFF#64 <<< (8 * 6)) ||| (x <<< 56 &&& 0xFF#64 <<< (8 * 7)) := rfl

/-- Byte `i` of the reversed word is byte `7 - i`. -/
theorem getLsbD_reverseBytes (x : Word) {i : ℕ} (hi : i < 64) :
    (reverseBytes x).getLsbD i = x.getLsbD (8 * (7 - i / 8) + i % 8) := by
  have hshift : ∀ n ≤ i, (x <<< n).getLsbD i = x.getLsbD (i - n) := by
    intro n hn
    rw [BitVec.getLsbD_shiftLeft, decide_eq_true hi, decide_eq_false (Nat.not_lt.mpr hn)]
    rfl
  rw [reverseBytes_eq]
  simp only [BitVec.getLsbD_or, getLsbD_byteMask _ _ hi]
  have hbyte : i / 8 < 8 := by omega
  -- of the eight terms only the one with byte `i / 8` is left
  generalize hk : i / 8 = k at hbyte ⊢
  interval_cases k
  all_goals
    simp (disch := omega) only [hshift, BitVec.getLsbD_ushiftRight, Nat.reduceEqDiff, decide_true,
      decide_false, Bool.true_and, Bool.false_and, Bool.or_false, Bool.false_or]
    congr 1
    omega

section Header

variable (lsb msb : Byte)

/-- The first word of a chunk. -/
def headerWord : Word := loadLE 64 [0x54, 0x50, 0x58, 0x33, 0, 0, lsb, msb]

theorem chunkName_headerWord : chunkName (reverseBytes (headerWord lsb msb)) = 0x54505833 := by
  unfold chunkName
  apply BitVec.eq_of_getLsbD_eq
  intro i hi
  rw [BitVec.getLsbD_ushiftRight]
  by_cases h : i < 32
  · rw [getLsbD_reverseBytes _ (by omega), headerWord, getLsbD_loadLE]
    interval_cases i <;> simp
  · rw [BitVec.getLsbD_of_ge _ _ (by omega)]
    interval_cases i <;> rfl

theorem chunkSize_headerWord : chunkSize (reverseBytes (headerWord lsb msb)) =
    msb.setWidth 64 <<< 8 ||| lsb.setWidth 64 := by
  unfold chunkSize
  apply BitVec.eq_of_getLsbD_eq
  intro i hi
  rw [BitVec.getLsbD_or, BitVec.getLsbD_and, BitVec.getLsbD_and, BitVec.getLsbD_ushiftRight,
    BitVec.getLsbD_shiftLeft, BitVec.getLsbD_or, BitVec.getLsbD_shiftLeft,
    BitVec.getLsbD_setWidth, BitVec.getLsbD_setWidth]
  by_cases h8 : i < 8
  · rw [getLsbD_reverseBytes _ (by omega), headerWord, getLsbD_loadLE]
    interval_cases i <;> simp
  · by_cases h16 : i < 16
    · rw [getLsbD_reverseBytes _ (by omega : i - 8 < 64), headerWord, getLsbD_loadLE]
      interval_cases i <;> simp
    · have hl : lsb.getLsbD i = false := BitVec.getLsbD_of_ge lsb i (by omega)
      have hm : msb.getLsbD (i - 8) = false := BitVec.getLsbD_of_ge msb (i - 8) (by omega)
      have h1 : (0xFF#64).getLsbD i = false := by interval_cases i <;> rfl
      have h2 : (0xFF00#64).getLsbD i = false := by interval_cases i <;> rfl
      rw [hl, hm, h1, h2]
      simp

end Header

/-- The size field of a header is the size of its chunk, if that fits 16 bits. -/
theorem toNat_size {chunk_size : ℕ} (h : chunk_size < 2 ^ 16) :
    ((BitVec.ofNat 8 ((chunk_size >>> 8) &&& 0xFF)).setWidth 64 <<< 8 |||
      (BitVec.ofNat 8 (chunk_size &&& 0xFF)).setWidth 64 : Word).toNat = chunk_size := by
  have hmask : ∀ n : ℕ, n &&& 0xFF = n % 2 ^ 8 := fun n => Nat.and_two_pow_sub_one_eq_mod n 8
  have hbyte : ∀ n : ℕ, ((BitVec.ofNat 8 (n &&& 0xFF)).setWidth 64 : Word).toNat = n % 2 ^ 8 := by
    intro n
    rw [BitVec.toNat_setWidth, BitVec.toNat_ofNat, hmask]
    omega
  rw [toNat_shiftLeft_or (by rw [hbyte]; omega) (by rw [hbyte]; omega), hbyte, hbyte,
    Nat.shiftRight_eq_div_pow]
  omega

/-- The reader takes a chunk off the file. -/
theorem parsePackets_chunk {chunk_size : ℕ} (h : chunk_size < 2 ^ 16) {ws rest : List Word}
    (hws : ws.length = chunk_size / 8) :
    parsePackets (loadLE 64 (chunkHeader chunk_size) :: (ws ++ rest)) =
      (parsePackets rest).map (⟨true, ws⟩ :: ·) := by
  have hsize : (chunkSize (reverseBytes (loadLE 64 (chunkHeader chunk_size)))).toNat / 8 =
      ws.length := by
    have := chunkSize_headerWord (BitVec.ofNat 8 (chunk_size &&& 0xFF))
      (BitVec.ofNat 8 ((chunk_size >>> 8) &&& 0xFF))
    rw [hws, chunkHeader, ← headerWord, this, toNat_size h]
  have hname : chunkName (reverseBytes (loadLE 64 (chunkHeader chunk_size))) = 0x54505833 :=
    chunkName_headerWord _ _
  rw [parsePackets, hsize, hname, if_pos (by rw [List.length_append]; omega), List.drop_left,
    List.take_left]
  rfl

theorem parsePackets_cons (packet : Word) (rest : List Word) :
    parsePackets (packet :: rest) =
      if (chunkSize (reverseBytes packet)).toNat / 8 ≤ rest.length then
        (parsePackets (rest.drop ((chunkSize (reverseBytes packet)).toNat / 8))).map
          (⟨chunkName (reverseBytes packet) == 0x54505833,
            rest.take ((chunkSize (reverseBytes packet)).toNat / 8)⟩ :: ·)
      else none := by
  rw [parsePackets]

/-- Reading goes chunk by chunk: what is appended to a file is read after it. -/
theorem parsePackets_append : ∀ (n : ℕ) {ws : List Word} {cs : List Chunk}, ws.length ≤ n →
    parsePackets ws = some cs →
      ∀ ws', parsePackets (ws ++ ws') = (parsePackets ws').map (cs ++ ·) := by
  intro n
  induction n with
  | zero =>
    intro ws cs hn h ws'
    obtain rfl := List.length_eq_zero_iff.mp (Nat.le_zero.mp hn)
    rw [parsePackets, Option.some.injEq] at h
    subst h
    simp
  | succ n ih =>
    intro ws cs hn h ws'
    cases ws with
    | nil =>
      rw [parsePackets, Option.some.injEq] at h
      subst h
      simp
    | cons packet rest =>
      rw [parsePackets_cons] at h
      rw [List.cons_append, parsePackets_cons]
      generalize (chunkSize (reverseBytes packet)).toNat / 8 = count at h ⊢
      by_cases hle : count ≤ rest.length
      · rw [if_pos hle] at h
        obtain ⟨cs', hcs', rfl⟩ := Option.map_eq_some_iff.mp h
        have hlen : (rest.drop count).length ≤ n := by
          rw [List.length_drop]
          rw [List.length_cons] at hn
          omega
        rw [if_pos (by rw [List.length_append]; omega), List.drop_append_of_le_length hle,
          List.take_append_of_le_length hle, ih hlen hcs', Option.map_map]
        rfl
      · rw [if_neg hle] at h
        exact absurd h (by simp)

/-! ## The file as a whole -/

theorem readsAs_empty : ReadsAs [] [] := by
  refine ⟨rfl, [], ?_, by simp, rfl⟩
  show parsePackets [] = some []
  rw [parsePackets]

/-- Appending a chunk to a file appends its words to what is read. -/
theorem readsAs_chunk {file : List Byte} {ws : List Word} (h : ReadsAs file ws)
    (bytes : List Byte) {num : ℕ} (hnum : 8 * num < 2 ^ 16) :
    ReadsAs (file ++ (chunkHeader (numClicks bytes num * 8) ++ clickBytes bytes num))
      (ws ++ (loadWords 8 bytes num).filter IsHit) := by
  obtain ⟨hlen, cs, hcs, hok, hws⟩ := h
  have hclicks := numClicks_le bytes num
  have hheader : (chunkHeader (numClicks bytes num * 8)).length = 8 * 1 := rfl
  have hbody := length_clickBytes bytes num
  have hlen' :
      (file ++ (chunkHeader (numClicks bytes num * 8) ++ clickBytes bytes num)).length / 8 =
      file.length / 8 + (1 + numClicks bytes num) := by
    rw [List.length_append, List.length_append, hheader, hbody]
    omega
  have hread : loadWords 8 (file ++ (chunkHeader (numClicks bytes num * 8) ++ clickBytes bytes num))
      (file.length / 8 + (1 + numClicks bytes num)) =
        loadWords 8 file (file.length / 8) ++
          (loadLE 64 (chunkHeader (numClicks bytes num * 8)) ::
            ((loadWords 8 bytes num).filter IsHit ++ [])) := by
    rw [loadWords_append hlen, loadWords_append hheader, loadWords_clickBytes, List.append_nil]
    rfl
  refine ⟨?_, cs ++ [⟨true, (loadWords 8 bytes num).filter IsHit⟩], ?_, ?_, ?_⟩
  · rw [hlen', List.length_append, List.length_append, hheader, hbody]
    omega
  · rw [hlen', hread, parsePackets_append _ le_rfl hcs,
      parsePackets_chunk (by omega) (by rw [← numClicks_eq]; omega), parsePackets]
    rfl
  · intro c hc
    rcases List.mem_append.mp hc with hc | hc
    · exact hok c hc
    · rw [List.mem_singleton.mp hc]
  · rw [List.flatMap_append, hws, List.flatMap_singleton]

/-- The hits of the datagrams that consist of whole words. -/
def savedWords (ds : List Datagram) : List Word :=
  (ds.filter fun d => d.size % 8 == 0).flatMap fun d => d.packets.filter IsHit

theorem savedWords_cons (d : Datagram) (ds : List Datagram) :
    savedWords (d :: ds) =
      (if d.size % 8 = 0 then d.packets.filter IsHit else []) ++ savedWords ds := by
  unfold savedWords
  by_cases h : d.size % 8 = 0
  · rw [List.filter_cons_of_pos (by simpa using h), List.flatMap_cons, if_pos h]
  · rw [List.filter_cons_of_neg (by simpa using h), if_neg h, List.nil_append]

namespace UdpConnectionManager

/-- What a manager with an open file has recorded: the file reads as `ws`, and the words published
since the state `s` are those of `ws`. -/
structure Records (s : RolloverState) (before : List Word) (ws : List Word)
    (m : UdpConnectionManager) : Prop where
  file : ∃ file, m.mFile = some file ∧ ReadsAs file ws
  state : m.toRolloverState = (publishLoop s ws).1
  published : m.published.flatten = before ++ (publishLoop s ws).2

variable {s : RolloverState} {before ws : List Word} {m : UdpConnectionManager}

theorem Records.publish (h : Records s before ws m) {file : List Byte} (buffer : List Byte)
    (size : ℕ) (hfile : ReadsAs file (ws ++ (Udp.packets buffer size).filter IsHit)) :
    Records s before (ws ++ (Udp.packets buffer size).filter IsHit)
      ({ m with mFile := some file }.publish buffer size) := by
  have hloop : publishRawData m.toRolloverState buffer size =
      publishLoop (publishLoop s ws).1 ((Udp.packets buffer size).filter IsHit) := by
    rw [publishLoop_filter, publishRawData, h.state]
  refine ⟨⟨file, rfl, hfile⟩, ?_, ?_⟩
  · rw [publishLoop_append, ← hloop]
    rfl
  · rw [publishLoop_append, ← hloop, ← List.append_assoc, ← h.published]
    show (m.published ++ [_]).flatten = _
    rw [List.flatten_append, List.flatten_singleton]

/-- A datagram without hits writes nothing. -/
theorem filter_eq_nil_of_numClicks {bytes : List Byte} {num : ℕ} (h : numClicks bytes num = 0) :
    (loadWords 8 bytes num).filter IsHit = [] := by
  rw [numClicks_eq] at h
  exact List.length_eq_zero_iff.mp h

/-- **One datagram.** It adds its hits to the record if it consists of whole words, and nothing
otherwise. -/
theorem Records.handleMessage (h : Records s before ws m) (d : Datagram) :
    Records s before (ws ++ if d.size % 8 = 0 then d.packets.filter IsHit else [])
      (m.handleMessage d) := by
  obtain ⟨file, hfile, hreads⟩ := h.file
  have hm : m = { m with mFile := some file } := by rw [← hfile]
  unfold UdpConnectionManager.handleMessage parseBytes
  by_cases h0 : d.size = 0
  · have hnil : d.packets.filter IsHit = [] := by
      unfold Datagram.packets Udp.packets
      rw [h0]
      rfl
    rw [if_pos h0, hnil, ite_self, List.append_nil]
    exact h
  rw [if_neg h0]
  by_cases h8 : d.size % 8 = 0
  · have hsize := d.size_le_max
    rw [if_neg (not_not.mpr h8), if_pos h8]
    by_cases hn : numClicks d.buffer (d.size / 8) = 0
    · -- nothing to write: the message is published all the same
      simp only [hn, ne_eq, not_true_eq_false, if_false]
      rw [hm]
      refine h.publish d.buffer d.size ?_
      rw [Udp.packets, filter_eq_nil_of_numClicks hn, List.append_nil]
      exact hreads
    · simp only [ne_eq, hn, not_false_eq_true, if_true]
      have hnum : 8 * (d.size / 8) < 2 ^ 16 := by
        unfold BUFFER_SIZE at hsize
        omega
      have hchunk := readsAs_chunk hreads d.buffer hnum
      rw [← List.append_assoc] at hchunk
      have hpub := h.publish d.buffer d.size hchunk
      rw [hm]
      exact hpub
  · rw [if_pos h8, if_neg h8, List.append_nil]
    exact ⟨h.file, h.state, h.published⟩

theorem Records.handleAll : ∀ (ds : List Datagram) {ws : List Word} {m : UdpConnectionManager},
    Records s before ws m → Records s before (ws ++ savedWords ds) (m.handleAll ds) := by
  intro ds
  induction ds with
  | nil =>
    intro ws m h
    rw [savedWords, List.filter_nil, List.flatMap_nil, List.append_nil]
    exact h
  | cons d ds ih =>
    intro ws m h
    rw [savedWords_cons, ← List.append_assoc]
    exact ih (h.handleMessage d)

/-- **The raw file is lossless.** After a file was opened, whatever datagrams arrive, the file reads
back as exactly the hit words of the datagrams of whole words, in order, and these are the words
the messages sent meanwhile were built from. -/
theorem raw_file_round_trip (m : UdpConnectionManager) {path : String}
    (hpath : path.isEmpty = false) (ds : List Datagram) :
    (∃ file, ((m.setSaveFile path true).1.handleAll ds).mFile = some file ∧
      ReadsAs file (savedWords ds)) ∧
    ((m.setSaveFile path true).1.handleAll ds).published.flatten =
      m.published.flatten ++ (publishLoop m.toRolloverState (savedWords ds)).2 := by
  have hopen : Records m.toRolloverState m.published.flatten [] (m.setSaveFile path true).1 := by
    unfold setSaveFile
    simp only [hpath, Bool.false_eq_true, if_false, if_true]
    exact ⟨⟨[], rfl, readsAs_empty⟩, rfl, (List.append_nil _).symm⟩
  have h := hopen.handleAll ds
  exact ⟨h.file, h.published⟩

/-- A hit and a heartbeat word, three bytes of noise, then another hit. -/
def mixedStream : List Datagram :=
  [Datagram.ofBytes (storeLE 8 0xB000000000000001#64 ++ storeLE 8 0x4400000000000000#64)
      (by decide),
    Datagram.ofBytes [0xB0, 0xB0, 0xB0] (by decide),
    Datagram.ofBytes (storeLE 8 0xB000000000000002#64) (by decide)]

theorem raw_file_round_trip_mixedStream :
    (∃ file, ((({} : UdpConnectionManager).setSaveFile "run.tpx3" true).1.handleAll
        mixedStream).mFile = some file ∧ ReadsAs file (savedWords mixedStream)) ∧
    ((({} : UdpConnectionManager).setSaveFile "run.tpx3" true).1.handleAll
        mixedStream).published.flatten =
      ([] : List (List Word)).flatten ++ (publishLoop {} (savedWords mixedStream)).2 :=
  raw_file_round_trip {} (by decide) mixedStream

example : savedWords mixedStream = [0xB000000000000001, 0xB000000000000002] := by decide +kernel

end UdpConnectionManager

end TpxServer.Udp
