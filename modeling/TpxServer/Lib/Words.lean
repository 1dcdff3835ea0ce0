import Mathlib.Data.List.Basic
import Mathlib.Data.Nat.Bitwise
import Mathlib.Tactic.Ring

/-!
# Words in byte buffers

Little-endian loads and stores of fixed-width words, and the reading of a byte buffer as an array
of words (`reinterpret_cast` of a byte pointer). A word of `n` bytes is a `BitVec (8 * n)`; an
array read at word index `ix` takes the bytes `n * ix, …, n * ix + n - 1` of the buffer.
-/

namespace TpxServer

abbrev Byte := BitVec 8

/-- Little-endian load: byte `i` supplies the bits from `8 * i`. -/
def loadLE (w : ℕ) : List Byte → BitVec w
  | [] => 0
  | b :: bs => b.setWidth w ||| (loadLE w bs <<< 8)

/-- Little-endian store of the `n` low bytes of a word. -/
def storeLE (n : ℕ) {w : ℕ} (x : BitVec w) : List Byte :=
  (List.range n).map fun i => (x >>> (8 * i)).setWidth 8

/-- The `n` bytes of the word at word index `ix`. -/
def wordBytes (n : ℕ) (buf : List Byte) (ix : ℕ) : List Byte :=
  (List.range n).map fun jx => buf.getD (n * ix + jx) 0

/-- The word at word index `ix`. -/
def wordAt (n : ℕ) (buf : List Byte) (ix : ℕ) : BitVec (8 * n) :=
  loadLE (8 * n) (wordBytes n buf ix)

/-- The first `count` words of a buffer. -/
def loadWords (n : ℕ) (buf : List Byte) (count : ℕ) : List (BitVec (8 * n)) :=
  (List.range count).map (wordAt n buf)

/-! ## Bits of a load -/

theorem getLsbD_loadLE (w : ℕ) : ∀ (bs : List Byte) (i : ℕ),
    (loadLE w bs).getLsbD i = (decide (i < w) && (bs.getD (i / 8) 0).getLsbD (i % 8)) := by
  intro bs
  induction bs with
  | nil => intro i; simp [loadLE]
  | cons b bs ih =>
    intro i
    rw [loadLE, BitVec.getLsbD_or, BitVec.getLsbD_setWidth, BitVec.getLsbD_shiftLeft, ih]
    by_cases h8 : i < 8
    · rw [Nat.div_eq_of_lt h8, Nat.mod_eq_of_lt h8]
      simp [h8]
    · have hb : b.getLsbD i = false := BitVec.getLsbD_of_ge b i (by omega)
      have hd : i / 8 = (i - 8) / 8 + 1 := by omega
      have hm : i % 8 = (i - 8) % 8 := by omega
      rw [hb, hd, hm, List.getD_cons_succ]
      by_cases hw : i < w
      · simp [h8, hw, show i - 8 < w by omega]
      · simp [hw]

@[simp] theorem length_storeLE (n : ℕ) {w : ℕ} (x : BitVec w) : (storeLE n x).length = n := by
  simp [storeLE]

@[simp] theorem length_wordBytes (n : ℕ) (buf : List Byte) (ix : ℕ) :
    (wordBytes n buf ix).length = n := by simp [wordBytes]

@[simp] theorem length_loadWords (n : ℕ) (buf : List Byte) (count : ℕ) :
    (loadWords n buf count).length = count := by simp [loadWords]

/-! ## Loads of what was stored -/

theorem getD_storeLE {n w : ℕ} (x : BitVec w) {i : ℕ} (h : i < n) :
    (storeLE n x).getD i 0 = (x >>> (8 * i)).setWidth 8 := by
  rw [List.getD_eq_getElem _ _ (by rw [length_storeLE]; exact h)]
  simp [storeLE]

theorem loadLE_storeLE {n : ℕ} (x : BitVec (8 * n)) : loadLE (8 * n) (storeLE n x) = x := by
  apply BitVec.eq_of_getLsbD_eq
  intro i hi
  rw [getLsbD_loadLE, getD_storeLE x (by omega), BitVec.getLsbD_setWidth,
    BitVec.getLsbD_ushiftRight, Nat.div_add_mod]
  simp [hi, Nat.mod_lt]

theorem storeLE_loadLE {n : ℕ} {bs : List Byte} (h : bs.length = n) :
    storeLE n (loadLE (8 * n) bs) = bs := by
  apply List.ext_getElem (by rw [length_storeLE, h])
  intro i hi hi'
  apply BitVec.eq_of_getLsbD_eq
  intro j hj
  have hbit : 8 * i + j < 8 * n := by omega
  have hdiv : (8 * i + j) / 8 = i := by omega
  have hmod : (8 * i + j) % 8 = j := by omega
  rw [← List.getD_eq_getElem _ 0 hi, getD_storeLE _ (by omega), BitVec.getLsbD_setWidth,
    BitVec.getLsbD_ushiftRight, getLsbD_loadLE, hdiv, hmod, List.getD_eq_getElem _ _ hi']
  simp [hbit, hj]

/-! ## Fields of a word -/

/-- Masking with `2 ^ n - 1` keeps the low `n` bits. -/
theorem toNat_and_mask {w : ℕ} (v m : BitVec w) {n : ℕ} (hm : m.toNat = 2 ^ n - 1) :
    (v &&& m).toNat = v.toNat % 2 ^ n := by
  rw [BitVec.toNat_and, hm, Nat.and_two_pow_sub_one_eq_mod]

/-- The field of `n` bits from bit `k` on. -/
theorem toNat_shiftRight_and {w : ℕ} (v m : BitVec w) {n : ℕ} (k : ℕ) (hm : m.toNat = 2 ^ n - 1) :
    ((v >>> k) &&& m).toNat = v.toNat / 2 ^ k % 2 ^ n := by
  rw [toNat_and_mask _ _ hm, BitVec.toNat_ushiftRight, Nat.shiftRight_eq_div_pow]

/-- The same with the mask before the shift. -/
theorem toNat_and_shiftRight {w : ℕ} (v m : BitVec w) {n k : ℕ}
    (hm : m.toNat = (2 ^ n - 1) * 2 ^ k) : ((v &&& m) >>> k).toNat = v.toNat / 2 ^ k % 2 ^ n := by
  have hmask : (m >>> k).toNat = 2 ^ n - 1 := by
    rw [BitVec.toNat_ushiftRight, hm, Nat.shiftRight_eq_div_pow,
      Nat.mul_div_cancel _ (Nat.two_pow_pos k)]
  rw [BitVec.ushiftRight_and_distrib, toNat_shiftRight_and _ _ _ hmask]

/-- A field shifted above a smaller one is added to it. -/
theorem toNat_shiftLeft_or {w k : ℕ} {a b : BitVec w} (hb : b.toNat < 2 ^ k)
    (ha : a.toNat * 2 ^ k < 2 ^ w) : (a <<< k ||| b).toNat = a.toNat * 2 ^ k + b.toNat := by
  rw [BitVec.toNat_or, BitVec.toNat_shiftLeft, Nat.shiftLeft_eq, Nat.mod_eq_of_lt ha,
    ← Nat.shiftLeft_eq, ← Nat.shiftLeft_add_eq_or_of_lt hb]

/-! ## Buffers as arrays of words -/

/-- A buffer of one word is its own word. -/
theorem wordBytes_zero {n : ℕ} {b : List Byte} (hb : b.length = n) : wordBytes n b 0 = b := by
  apply List.ext_getElem
  · rw [length_wordBytes, hb]
  · intro i h1 h2
    simp only [wordBytes, List.getElem_map, List.getElem_range, Nat.mul_zero, Nat.zero_add]
    exact List.getD_eq_getElem _ _ h2

theorem wordBytes_append_left {n : ℕ} (a b : List Byte) {ix : ℕ} (h : n * ix + n ≤ a.length) :
    wordBytes n (a ++ b) ix = wordBytes n a ix := by
  refine List.map_congr_left fun j hj => ?_
  rw [List.mem_range] at hj
  rw [List.getD_append _ _ _ _ (by omega)]

theorem wordBytes_append_right {n k : ℕ} {a : List Byte} (ha : a.length = n * k) (b : List Byte)
    (ix : ℕ) : wordBytes n (a ++ b) (k + ix) = wordBytes n b ix := by
  refine List.map_congr_left fun j _ => ?_
  rw [Nat.mul_add, List.getD_append_right _ _ _ _ (by omega), ha,
    show n * k + n * ix + j - n * k = n * ix + j by omega]

/-- An array of words is read as it was stored. -/
theorem wordAt_stores {n : ℕ} (ws : List (BitVec (8 * n))) (rest : List Byte) :
    ∀ {ix : ℕ} {w : BitVec (8 * n)}, ws[ix]? = some w →
      wordAt n (ws.flatMap (storeLE n) ++ rest) ix = w := by
  induction ws with
  | nil => intro ix w h; cases h
  | cons v ws ih =>
    intro ix w h
    have hlen : (storeLE n v).length = n := length_storeLE n v
    rw [List.flatMap_cons, List.append_assoc, wordAt]
    cases ix with
    | zero =>
      cases h
      rw [wordBytes_append_left _ _ (by rw [hlen]; omega), wordBytes_zero hlen, loadLE_storeLE]
    | succ ix =>
      rw [Nat.add_comm, wordBytes_append_right (k := 1) (by rw [hlen, Nat.mul_one])]
      exact ih h

/-- Words inside the front part of a buffer do not depend on what follows it. -/
theorem loadWords_append_left {n : ℕ} (a b : List Byte) {count : ℕ} (h : n * count ≤ a.length) :
    loadWords n (a ++ b) count = loadWords n a count := by
  refine List.map_congr_left fun ix hix => ?_
  rw [List.mem_range] at hix
  have hle : n * ix + n ≤ a.length := by
    calc n * ix + n = n * (ix + 1) := by ring
      _ ≤ n * count := Nat.mul_le_mul_left n hix
      _ ≤ a.length := h
  rw [wordAt, wordAt, wordBytes_append_left a b hle]

/-- A buffer of `k` whole words followed by another buffer reads as the words of both. -/
theorem loadWords_append {n k : ℕ} {a : List Byte} (ha : a.length = n * k) (b : List Byte)
    (j : ℕ) : loadWords n (a ++ b) (k + j) = loadWords n a k ++ loadWords n b j := by
  rw [loadWords, List.range_add, List.map_append, List.map_map]
  refine congrArg₂ (· ++ ·) (loadWords_append_left a b ha.ge) (List.map_congr_left fun ix _ => ?_)
  rw [Function.comp_apply, wordAt, wordAt, wordBytes_append_right ha]

/-- What is stored for the words of a buffer is the buffer. -/
theorem flatMap_storeLE_loadWords {n k : ℕ} {buf : List Byte} (h : buf.length = n * k) :
    (loadWords n buf k).flatMap (storeLE n) = buf := by
  induction k generalizing buf with
  | zero =>
    rw [List.eq_nil_of_length_eq_zero h]
    rfl
  | succ k ih =>
    have hlen : n * (k + 1) = n + n * k := by ring
    have htake : (buf.take n).length = n := by
      rw [List.length_take, h, hlen]
      omega
    have hdrop : (buf.drop n).length = n * k := by
      rw [List.length_drop, h, hlen]
      omega
    have hwords : loadWords n buf (1 + k) =
        loadWords n (buf.take n) 1 ++ loadWords n (buf.drop n) k := by
      rw [← loadWords_append (by rw [htake, Nat.mul_one]), List.take_append_drop]
    have hfirst : (loadWords n (buf.take n) 1).flatMap (storeLE n) = buf.take n := by
      show storeLE n (loadLE (8 * n) (wordBytes n (buf.take n) 0)) ++ [] = buf.take n
      rw [List.append_nil, wordBytes_zero htake, storeLE_loadLE htake]
    rw [Nat.add_comm, hwords, List.flatMap_append, hfirst, ih hdrop, List.take_append_drop]

/-- A concatenation of blocks reads as the words of its blocks. -/
theorem loadWords_flatten {n : ℕ} : ∀ (blocks : List (List Byte)),
    (∀ b ∈ blocks, b.length = n) →
      loadWords n blocks.flatten blocks.length = blocks.map (loadLE (8 * n)) := by
  intro blocks
  induction blocks with
  | nil => intro _; rfl
  | cons b bs ih =>
    intro h
    have hb := h b List.mem_cons_self
    have hfirst : loadWords n b 1 = [loadLE (8 * n) b] := by
      show [loadLE (8 * n) (wordBytes n b 0)] = _
      rw [wordBytes_zero hb]
    rw [List.flatten_cons, List.length_cons, Nat.add_comm,
      loadWords_append (by rw [hb, Nat.mul_one]),
      hfirst, ih fun c hc => h c (List.mem_cons_of_mem _ hc)]
    rfl

end TpxServer
