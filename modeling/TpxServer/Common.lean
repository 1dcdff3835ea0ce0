import Mathlib.Tactic.IntervalCases
import TpxServer.Lib.Words

/-!
# Definitions shared by the threads

The word vectors exchanged with the clients, the texts a thread signals to the user interface, and
the 64-bit words that the decoder publishes and the clusterer reads (`Packet`).
-/

namespace TpxServer

abbrev Word := BitVec 64

/-- The payload words of a command or a response. -/
abbrev DataVec := List (BitVec 32)

/-- A Qt signal of `BgThread`. -/
inductive Signal where
  | log (str : String)
  | warn (str : String)
  | err (str : String)
  deriving Repr, DecidableEq

/-! ## Byte order

The functions of the namespace `io`, on a little-endian host. -/

namespace Io

/-- The four bytes of a word in reverse order. -/
def htonl (x : BitVec 32) : BitVec 32 :=
  ((x &&& 0x000000FF) <<< 24) ||| ((x &&& 0x0000FF00) <<< 8) |||
    ((x >>> 8) &&& 0x0000FF00) ||| ((x >>> 24) &&& 0x000000FF)

def ntohl (x : BitVec 32) : BitVec 32 := htonl x

/-- Byte `i` of the result is byte `3 - i`. -/
theorem getLsbD_htonl (x : BitVec 32) {i : ℕ} (hi : i < 32) :
    (htonl x).getLsbD i = x.getLsbD (8 * (3 - i / 8) + i % 8) := by
  unfold htonl
  interval_cases i <;> simp

theorem ntohl_htonl (x : BitVec 32) : ntohl (htonl x) = x := by
  apply BitVec.eq_of_getLsbD_eq
  intro i hi
  unfold ntohl
  rw [getLsbD_htonl _ hi, getLsbD_htonl _ (by omega)]
  congr 1
  omega

def htonll (x : Word) : Word :=
  (htonl ((x >>> 32) &&& 0xFFFFFFFF#64 |>.setWidth 32)).setWidth 64 |||
    ((htonl (x &&& 0xFFFFFFFF#64 |>.setWidth 32)).setWidth 64 <<< 32)

theorem setWidth_and_mask (x : Word) : (x &&& 0xFFFFFFFF#64).setWidth 32 = x.setWidth 32 := by
  apply BitVec.eq_of_toNat_eq
  rw [BitVec.toNat_setWidth, BitVec.toNat_setWidth, toNat_and_mask _ _ (n := 32) rfl, Nat.mod_mod]

/-- Byte `i` of the result is byte `7 - i`. -/
theorem getLsbD_htonll (x : Word) {i : ℕ} (hi : i < 64) :
    (htonll x).getLsbD i = x.getLsbD (8 * (7 - i / 8) + i % 8) := by
  unfold htonll
  rw [setWidth_and_mask, setWidth_and_mask, BitVec.getLsbD_or, BitVec.getLsbD_shiftLeft,
    BitVec.getLsbD_setWidth, BitVec.getLsbD_setWidth]
  by_cases hlow : i < 32
  · rw [getLsbD_htonl _ hlow, BitVec.getLsbD_setWidth, BitVec.getLsbD_ushiftRight]
    simp only [hi, hlow, decide_true, Bool.not_true, Bool.and_false, Bool.false_and, Bool.or_false,
      Bool.true_and]
    rw [decide_eq_true (by omega), Bool.true_and]
    congr 1
    omega
  · rw [BitVec.getLsbD_of_ge _ _ (Nat.not_lt.mp hlow), getLsbD_htonl _ (by omega),
      BitVec.getLsbD_setWidth]
    simp only [hi, hlow, decide_true, decide_false, Bool.not_false, Bool.and_true, Bool.and_false,
      Bool.false_or, Bool.true_and]
    rw [decide_eq_true (by omega), decide_eq_true (by omega), Bool.true_and, Bool.true_and]
    congr 1
    omega

end Io

/-- A published word: column and row in 8 bits each, ToT in 10 bits, ToA in 38 bits. -/
structure Packet where
  raw_value : Word
  deriving Repr, DecidableEq

namespace Packet

variable (p : Packet)

def x : ℤ := ((p.raw_value >>> 56) &&& 0xFF).toNat
def y : ℤ := ((p.raw_value >>> 48) &&& 0xFF).toNat
def t : ℤ := (p.raw_value &&& 0x3FFFFFFFFF).toNat
def tot : ℤ := ((p.raw_value >>> 38) &&& 0x3FF).toNat

theorem x_eq : p.x = (p.raw_value.toNat / 2 ^ 56 % 2 ^ 8 : ℕ) := by
  rw [x, toNat_shiftRight_and _ _ (n := 8) _ rfl]

theorem y_eq : p.y = (p.raw_value.toNat / 2 ^ 48 % 2 ^ 8 : ℕ) := by
  rw [y, toNat_shiftRight_and _ _ (n := 8) _ rfl]

theorem t_eq : p.t = (p.raw_value.toNat % 2 ^ 38 : ℕ) := by
  rw [t, toNat_and_mask _ _ (n := 38) rfl]

theorem x_nonneg : 0 ≤ p.x := Int.natCast_nonneg _

theorem y_nonneg : 0 ≤ p.y := Int.natCast_nonneg _

theorem t_nonneg : 0 ≤ p.t := Int.natCast_nonneg _

theorem tot_nonneg : 0 ≤ p.tot := Int.natCast_nonneg _

theorem x_lt : p.x < 2 ^ 8 := by rw [x_eq]; omega

theorem y_lt : p.y < 2 ^ 8 := by rw [y_eq]; omega

theorem t_lt : p.t < 2 ^ 38 := by rw [t_eq]; omega

end Packet

end TpxServer
