import Shortlist.Proofs.Number.Order
import Shortlist.Rule.Match
/-! The distance of two binary floating-point numbers. It is the same in both directions, and equal
numbers are at no distance as long as they are finite: the difference of an infinite number and
itself is not a number. -/
namespace Shortlist.Number
open Float.Model UnpackedFloat

/-! ### Up to the sign -/

variable (S : Format)

theorem abs_unpack_packComponents (s t : Sign) (e : BitVec S.exponentBits)
    (m : BitVec S.mantissaBitsWithoutImplicit) :
    (UnpackedFloat.unpack S (packComponents S s e m)).abs =
      (UnpackedFloat.unpack S (packComponents S t e m)).abs := by
  simp only [UnpackedFloat.unpack, unpackMantissa_packComponents, unpackExponent_packComponents]
  split_ifs <;> rfl

/-- What is stored of a number up to its sign does not depend on the sign. -/
theorem abs_unpack_pack (u : UnpackedFloat) :
    (UnpackedFloat.unpack S (UnpackedFloat.pack S u)).abs =
      (UnpackedFloat.unpack S (UnpackedFloat.pack S u.abs)).abs := by
  cases u with
  | notANumber => rfl
  | infinity s => exact abs_unpack_packComponents S s .positive _ _
  | zero s => exact abs_unpack_packComponents S s .positive _ _
  | finite s m e hm =>
      simp only [UnpackedFloat.pack, UnpackedFloat.abs]
      split_ifs <;> exact abs_unpack_packComponents S s .positive _ _

theorem abs_unpack_pack_congr {u v : UnpackedFloat} (h : u.abs = v.abs) :
    (Float.Model.pack u).unpack.abs = (Float.Model.pack v).unpack.abs :=
  calc (Float.Model.pack u).unpack.abs
      = (UnpackedFloat.unpack .binary64 (UnpackedFloat.pack .binary64 u.abs)).abs :=
        abs_unpack_pack .binary64 u
    _ = (UnpackedFloat.unpack .binary64 (UnpackedFloat.pack .binary64 v.abs)).abs := by rw [h]
    _ = (Float.Model.pack v).unpack.abs := (abs_unpack_pack .binary64 v).symm

theorem abs_round (s t : Sign) (m : Nat) (e : Int) :
    (UnpackedFloat.round S s m e).abs = (UnpackedFloat.round S t m e).abs := by
  simp only [UnpackedFloat.round, roundWithAccuracy]
  split_ifs <;> rfl

theorem abs_normalize_neg (k e : Int) :
    (UnpackedFloat.normalize S (-k) e .positive).abs =
      (UnpackedFloat.normalize S k e .positive).abs := by
  obtain h | rfl | h := Int.lt_trichotomy k 0
  · have hk : compare k 0 = .lt := Std.compare_eq_lt.mpr h
    have hn : compare (-k) 0 = .gt := Std.compare_eq_gt.mpr (by omega)
    simp only [UnpackedFloat.normalize, hk, hn]
    exact abs_round S ..
  · rfl
  · have hk : compare k 0 = .gt := Std.compare_eq_gt.mpr h
    have hn : compare (-k) 0 = .lt := Std.compare_eq_lt.mpr (by omega)
    simp only [UnpackedFloat.normalize, hk, hn, Int.neg_neg]
    exact abs_round S ..

theorem abs_sub_comm (u v : UnpackedFloat) :
    (UnpackedFloat.sub S u v).abs = (UnpackedFloat.sub S v u).abs := by
  cases u with
  | notANumber => cases v <;> rfl
  | infinity s => cases v with
      | infinity t => cases s <;> cases t <;> rfl
      | notANumber | zero | finite => rfl
  | zero s => cases v with
      | zero t => cases s <;> cases t <;> rfl
      | notANumber | infinity | finite => rfl
  | finite s m e hm => cases v with
      | notANumber | infinity | zero => rfl
      | finite t n f hn =>
          simp only [UnpackedFloat.sub]
          rw [Int.min_comm f e, ← abs_normalize_neg, Int.neg_sub]

theorem abs_sub_of_compare {u v : UnpackedFloat} (h : u.compare v = some .eq) :
    (UnpackedFloat.sub S u v).abs =
      if u.isFinite then .zero .positive else .notANumber := by
  cases u with
  | notANumber => cases h
  | infinity s => cases v with
      | infinity t => cases s with
          | negative => cases t with
              | negative => rfl
              | positive => cases h
          | positive => cases t with
              | negative => cases h
              | positive => rfl
      | notANumber | zero | finite => cases s <;> cases h
  | zero s => cases v with
      | zero t => cases s <;> cases t <;> rfl
      | infinity t | finite t => cases t <;> cases h
      | notANumber => cases h
  | finite s m e hm => cases v with
      | infinity t => cases s <;> cases t <;> cases h
      | notANumber | zero => cases s <;> cases h
      | finite t n f hn =>
          have same : s = t ∧ e = f ∧ m = n := by
            cases s with
            | negative => cases t with
                | negative => simpa [UnpackedFloat.compare, Ordering.then_eq_eq] using h
                | positive => cases h
            | positive => cases t with
                | negative => cases h
                | positive => simpa [UnpackedFloat.compare, Ordering.then_eq_eq] using h
          obtain ⟨rfl, rfl, rfl⟩ := same
          simp only [UnpackedFloat.sub, Int.sub_self]
          rfl

end Shortlist.Number

/-! ### Equality within the tolerance -/

namespace Shortlist.Match
open Float.Model

/-- The distance of two numbers depends only on what their difference is up to its sign. -/
theorem abs_sub_eq {x y : Float} {w : UnpackedFloat}
    (h : (UnpackedFloat.sub .binary64 x.toModel.unpack y.toModel.unpack).abs = w.abs) :
    (x - y).abs = (Float.ofModel (Float.Model.pack w)).abs :=
  congrArg (fun u => Float.ofModel (Float.Model.pack u)) (Number.abs_unpack_pack_congr h)

theorem floatEq_comm (x y : Float) : floatEq x y = floatEq y x := by
  have distance : (x - y).abs = (y - x).abs := abs_sub_eq (Number.abs_sub_comm _ _ _)
  unfold floatEq
  rw [distance]

/-- Equal numbers count as equal unless they are infinite. -/
theorem floatEq_of_beq {x y : Float} (h : (x == y) = true) : floatEq x y = x.isFinite := by
  have difference := Number.abs_sub_of_compare .binary64 (Number.beq_iff_compare.mp h)
  unfold floatEq
  cases hx : x.isFinite with
  | true =>
      have distance : (x - y).abs = _ :=
        abs_sub_eq (w := .zero .positive) (difference.trans (if_pos hx))
      rw [distance]
      decide
  | false =>
      have distance : (x - y).abs = _ :=
        abs_sub_eq (w := .notANumber) (difference.trans (if_neg (Bool.eq_false_iff.mp hx)))
      rw [distance]
      decide

theorem floatEq_self (x : Float) : floatEq x x = x.isFinite := by
  cases hx : x.isNaN with
  | false => exact floatEq_of_beq (Number.beq_self hx)
  | true =>
      have unpacked : x.toModel.unpack = .notANumber := by
        have nan : x.toModel.unpack.isNaN = true := hx
        cases hu : x.toModel.unpack with
        | notANumber => rfl
        | infinity | zero | finite => rw [hu] at nan; cases nan
      have distance : (x - x).abs = _ := abs_sub_eq (w := .notANumber) (by rw [unpacked]; rfl)
      have finite : x.isFinite = UnpackedFloat.isFinite .notANumber :=
        congrArg UnpackedFloat.isFinite unpacked
      rw [finite, floatEq, distance]
      decide

end Shortlist.Match
