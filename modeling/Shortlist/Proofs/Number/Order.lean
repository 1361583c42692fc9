import Mathlib
import Shortlist.Number.Dyadic
/-! The order of binary floating-point numbers. Any two numbers have an order, which is the opposite
one when they change places. Which numbers are finite is read from the bits. -/
namespace Shortlist.Number
open Float.Model

theorem compareSign_swap (s t : UnpackedFloat.Sign) : compare t s = (compare s t).swap := by
  cases s <;> cases t <;> rfl

theorem compare_swap (u v : UnpackedFloat) :
    v.compare u = (u.compare v).map Ordering.swap := by
  cases u with
  | notANumber => cases v <;> rfl
  | infinity s =>
      cases v with
      | notANumber => cases s <;> rfl
      | infinity t => exact congrArg some (compareSign_swap s t)
      | zero t => cases s <;> rfl
      | finite t n f hn => cases s <;> rfl
  | zero s =>
      cases v with
      | notANumber => rfl
      | infinity t => cases t <;> rfl
      | zero t => rfl
      | finite t n f hn => cases t <;> rfl
  | finite s m e hm =>
      cases v with
      | notANumber => cases s <;> rfl
      | infinity t => cases s <;> cases t <;> rfl
      | zero t => cases s <;> rfl
      | finite t n f hn =>
          have swap : (compare f e).then (compare n m) =
              ((compare e f).then (compare m n)).swap := by
            rw [Ordering.swap_then, ← Std.OrientedOrd.eq_swap, ← Std.OrientedOrd.eq_swap]
          cases s with
          | negative => cases t with
              | negative => simp [UnpackedFloat.compare, swap]
              | positive => rfl
          | positive => cases t with
              | negative => rfl
              | positive => simp [UnpackedFloat.compare, swap]

theorem compare_eq_none {u v : UnpackedFloat} :
    u.compare v = none ↔ u.isNaN = true ∨ v.isNaN = true := by
  cases u with
  | notANumber => simp [UnpackedFloat.compare, UnpackedFloat.isNaN]
  | infinity s => cases s <;> cases v <;> simp [UnpackedFloat.compare, UnpackedFloat.isNaN]
  | zero s =>
      cases v with
      | infinity t | finite t => cases t <;> simp [UnpackedFloat.compare, UnpackedFloat.isNaN]
      | notANumber | zero => simp [UnpackedFloat.compare, UnpackedFloat.isNaN]
  | finite s m e hm =>
      cases v with
      | infinity t | finite t =>
          cases s <;> cases t <;> simp [UnpackedFloat.compare, UnpackedFloat.isNaN]
      | notANumber | zero => cases s <;> simp [UnpackedFloat.compare, UnpackedFloat.isNaN]

theorem lt_iff_compare {x y : Float} :
    x < y ↔ x.toModel.unpack.compare y.toModel.unpack = some .lt := by
  change decide (_ = true) = true ↔ _
  rw [decide_eq_true_eq]
  exact beq_iff_eq

theorem beq_iff_compare {x y : Float} :
    (x == y) = true ↔ x.toModel.unpack.compare y.toModel.unpack = some .eq :=
  beq_iff_eq (a := x.toModel.unpack.compare y.toModel.unpack)

theorem order?_eq_compare (x y : Float) :
    order? x y = x.toModel.unpack.compare y.toModel.unpack := by
  have swapped := compare_swap x.toModel.unpack y.toModel.unpack
  simp only [order?, lt_iff_compare, beq_iff_compare, swapped]
  cases x.toModel.unpack.compare y.toModel.unpack with
  | none => simp
  | some o => cases o <;> simp

theorem beq_self {x : Float} (hx : x.isNaN = false) : (x == x) = true := by
  have swapped := compare_swap x.toModel.unpack x.toModel.unpack
  rw [beq_iff_compare]
  cases h : x.toModel.unpack.compare x.toModel.unpack with
  | none =>
      have hnan : x.isNaN = true := (compare_eq_none.mp h).elim id id
      rw [hx] at hnan
      cases hnan
  | some o =>
      rw [h] at swapped
      cases o with
      | eq => rfl
      | lt | gt => cases swapped

/-- Only what is not a number has no order. -/
theorem order?_eq_none {x y : Float} :
    order? x y = none ↔ x.isNaN = true ∨ y.isNaN = true := by
  rw [order?_eq_compare]
  exact compare_eq_none

/-! ### Finite numbers -/

theorem isFinite_unpack (S : Format) (b : BitVec S.numBits) :
    (UnpackedFloat.unpack S b).isFinite = decide (UnpackedFloat.unpackExponent b ≠ -1#_) := by
  simp only [UnpackedFloat.unpack]
  split_ifs with h <;> simp [UnpackedFloat.isFinite, h]

theorem toNat_unpackExponent (b : BitVec 64) :
    (@UnpackedFloat.unpackExponent .binary64 b).toNat = b.toNat / hiddenBit % 2048 := by
  simp [UnpackedFloat.unpackExponent, Format.binary64, hiddenBit, Nat.shiftRight_eq_div_pow]

/-- A number counts as finite in arithmetic exactly if its bits say so. -/
theorem isFinite_eq (x : Float) : isFinite x = x.isFinite := by
  have field :
      @UnpackedFloat.unpackExponent .binary64 x.toModel.toBits.toBitVec = -1#_ ↔
        x.toBits.toNat / hiddenBit % 2048 = 2047 := by
    rw [← BitVec.toNat_inj, toNat_unpackExponent]
    rfl
  have unpacked : x.isFinite = decide (x.toBits.toNat / hiddenBit % 2048 ≠ 2047) := by
    refine (isFinite_unpack .binary64 _).trans ?_
    simp only [ne_eq, field]
  rw [unpacked]
  simp only [isFinite, Dyadic.ofFloat]
  split_ifs <;> simp_all

end Shortlist.Number
