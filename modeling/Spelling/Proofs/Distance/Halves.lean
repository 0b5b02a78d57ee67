import Mathlib
import Spelling.Distance.Alignment

/-!
# Halves in single precision

A number in single precision has a mantissa of 24 bits.  So it may be half of any whole number below
2 ^ 24, and none of these is rounded:

    k     half k     mantissa     exponent
    1     0.5        2 ^ 23       -24
    2     1          2 ^ 23       -23
    3     1.5        3 * 2 ^ 22   -23
    5     2.5        5 * 2 ^ 21   -22

Adding halves gives the half of the sum (`half_add_half`), they are compared like the numbers that
they are halves of (`half_lt_half_iff`, `half_le_half_iff`), and whole numbers are halves of their
doubles (`ofNat_eq_half`).  The arithmetic unpacks its operands, works on mantissa and exponent, and
packs the result with as many bits as there are.  Shifting a mantissa to them only drops zeros here
(`shiftRight_mul_two_pow`), and nothing is left to round.
-/

namespace Spelling.Distance

open Float.Model (Format UnpackedFloat totalExponent)
open Float.Model.UnpackedFloat (Accuracy ExtendedMantissa Sign decreaseExponent normalize
  packComponents roundWithAccuracy shiftToExponent shiftToTargetExponent
  unpackExponent_packComponents unpackMantissa_packComponents unpackSign_packComponents)

/-- `c` times two to the power of `t`, with all the bits of single precision. -/
def dyadic (c : Nat) (t : Int) : UnpackedFloat :=
  if h : c = 0 then .zero .positive
  else .finite .positive (c * 2 ^ (23 - c.log2)) (t - (23 - c.log2 : Nat))
    (Nat.mul_pos (Nat.pos_of_ne_zero h) (Nat.two_pow_pos _))

variable {a b c s : Nat} {t : Int}

theorem dyadic_of_pos (h : 0 < c) : dyadic c t =
    .finite .positive (c * 2 ^ (23 - c.log2)) (t - (23 - c.log2 : Nat))
      (Nat.mul_pos h (Nat.two_pow_pos _)) :=
  dif_neg h.ne'

theorem log2_mul_two_pow (hc : 0 < c) (s : Nat) : (c * 2 ^ s).log2 = c.log2 + s := by
  rw [Nat.log2_eq_iff (Nat.mul_pos hc (Nat.two_pow_pos s)).ne', Nat.pow_add, Nat.add_right_comm,
    Nat.pow_add]
  exact ⟨Nat.mul_le_mul_right _ (Nat.log2_self_le hc.ne'),
    Nat.mul_lt_mul_of_pos_right Nat.lt_log2_self (Nat.two_pow_pos s)⟩

theorem log2_le_of_lt (h : c < 2 ^ 24) : c.log2 ≤ 23 := by
  obtain rfl | hc := Nat.eq_zero_or_pos c
  · decide
  · exact Nat.le_of_lt_succ ((Nat.log2_lt hc.ne').mpr h)

/-- Twice a number has the next exponent. -/
theorem dyadic_two_mul (h : 2 * c < 2 ^ 24) (t : Int) : dyadic (2 * c) t = dyadic c (t + 1) := by
  obtain rfl | hc := Nat.eq_zero_or_pos c
  · rfl
  have hlog : (2 * c).log2 = c.log2 + 1 := by
    rw [Nat.mul_comm]
    exact log2_mul_two_pow hc 1
  have hle := log2_le_of_lt h
  have hshift : 23 - c.log2 = 23 - (c.log2 + 1) + 1 := by omega
  have hmantissa : 2 * c * 2 ^ (23 - (2 * c).log2) = c * 2 ^ (23 - c.log2) := by
    rw [hlog, hshift, Nat.pow_succ, Nat.mul_comm 2 c, Nat.mul_assoc, Nat.mul_comm 2]
  rw [dyadic_of_pos hc, dyadic_of_pos (Nat.mul_pos Nat.two_pos hc)]
  congr 1
  omega

/-! ## Rounding -/

/-- Shifting drops nothing where all the bits that it drops are zero. -/
theorem shiftRight_mul_two_pow (a n : Nat) :
    (⟨a * 2 ^ n, false, false⟩ : ExtendedMantissa) >>> n = ⟨a, false, false⟩ := by
  induction n generalizing a with
  | zero =>
      rw [Nat.pow_zero, Nat.mul_one]
      rfl
  | succ n ih =>
      have hstep := congrArg ExtendedMantissa.shiftRightOne (ih (a * 2))
      rw [Nat.mul_assoc, ← Nat.pow_succ'] at hstep
      refine hstep.trans ?_
      simp [ExtendedMantissa.shiftRightOne]

theorem targetExponent_mul_two_pow (hc : 0 < c) (hlt : c < 2 ^ 24) (ht : -126 ≤ t) (s : Nat) :
    Format.binary32.targetExponent (totalExponent (c * 2 ^ s) (t - s)) =
      t - (23 - c.log2 : Nat) := by
  have hlog := log2_le_of_lt hlt
  rw [totalExponent, log2_mul_two_pow hc, Format.targetExponent, Format.minExponent,
    Format.mantissaBits]
  simp only [Int.natCast_add]
  omega

/-- Rounding changes nothing that fits. -/
theorem roundWithAccuracy_mul_two_pow (hc : 0 < c) (hlt : c < 2 ^ 24) (ht : -126 ≤ t)
    (hs : 23 - c.log2 ≤ s) :
    roundWithAccuracy .binary32 .positive (c * 2 ^ s) (t - s) .exact = dyadic c t := by
  have hfirst : shiftToTargetExponent .binary32 (c * 2 ^ s) (t - s) .exact =
      (⟨c * 2 ^ (23 - c.log2), false, false⟩, t - (23 - c.log2 : Nat)) := by
    obtain ⟨n, rfl⟩ := Nat.exists_eq_add_of_le hs
    have hamount : (t - (23 - c.log2 : Nat) - (t - (23 - c.log2 + n : Nat))).toNat = n := by omega
    rw [shiftToTargetExponent, targetExponent_mul_two_pow hc hlt ht, shiftToExponent, hamount,
      Nat.pow_add, ← Nat.mul_assoc, ExtendedMantissa.ofMantissaAndAccuracy]
    refine Prod.ext (shiftRight_mul_two_pow _ n) ?_
    dsimp only
    omega
  have hsecond : shiftToTargetExponent .binary32 (c * 2 ^ (23 - c.log2)) (t - (23 - c.log2 : Nat))
      .exact = (⟨c * 2 ^ (23 - c.log2), false, false⟩, t - (23 - c.log2 : Nat)) := by
    rw [shiftToTargetExponent, targetExponent_mul_two_pow hc hlt ht, shiftToExponent,
      Int.sub_self]
    exact Prod.ext rfl (Int.add_zero _)
  rw [roundWithAccuracy, hfirst]
  dsimp only [ExtendedMantissa.roundedMantissa, ExtendedMantissa.accuracy,
    Accuracy.roundToNearestEven]
  rw [hsecond, dyadic_of_pos hc]
  exact dif_neg (Nat.mul_pos hc (Nat.two_pow_pos _)).ne'

theorem decreaseExponent_mul_two_pow {n : Nat} (h : s ≤ n) :
    decreaseExponent (c * 2 ^ s) (t - s) (t - n) = (c * 2 ^ n, t - n) := by
  have hamount : (t - s - (t - n)).toNat = n - s := by omega
  rw [decreaseExponent, hamount, Nat.shiftLeft_eq, Nat.mul_assoc, ← Nat.pow_add,
    Nat.add_sub_of_le h]
  refine Prod.ext rfl ?_
  dsimp only
  omega

theorem round_mul_two_pow (hc : 0 < c) (hlt : c < 2 ^ 24) (ht : -126 ≤ t) (s : Nat) :
    UnpackedFloat.round .binary32 .positive (c * 2 ^ s) (t - s) = dyadic c t := by
  rw [UnpackedFloat.round, targetExponent_mul_two_pow hc hlt ht]
  obtain hle | hle := Nat.le_total s (23 - c.log2)
  · rw [decreaseExponent_mul_two_pow hle]
    exact roundWithAccuracy_mul_two_pow hc hlt ht le_rfl
  · have hamount : (t - s - (t - (23 - c.log2 : Nat))).toNat = 0 := by omega
    rw [decreaseExponent, hamount, Nat.shiftLeft_zero, Int.natCast_zero, Int.sub_zero]
    exact roundWithAccuracy_mul_two_pow hc hlt ht hle

theorem normalize_mul_two_pow (hlt : c < 2 ^ 24) (ht : -126 ≤ t) (s : Nat) :
    normalize .binary32 (c * 2 ^ s : Nat) (t - s) .positive = dyadic c t := by
  obtain rfl | hc := Nat.eq_zero_or_pos c
  · rw [Nat.zero_mul]
    rfl
  · have hpos : 0 < c * 2 ^ s := Nat.mul_pos hc (Nat.two_pow_pos s)
    have hcompare : compare ((c * 2 ^ s : Nat) : Int) 0 = .gt :=
      compare_gt_iff_gt.mpr (Int.natCast_pos.mpr hpos)
    rw [Float.Model.UnpackedFloat.normalize, hcompare]
    exact round_mul_two_pow hc hlt ht s

/-! ## Arithmetic -/

theorem add_dyadic (hlt : a + b < 2 ^ 24) (ht : -126 ≤ t) :
    UnpackedFloat.add .binary32 (dyadic a t) (dyadic b t) = dyadic (a + b) t := by
  obtain rfl | ha := Nat.eq_zero_or_pos a
  · rw [Nat.zero_add, dyadic, dif_pos rfl, dyadic]
    split <;> rfl
  obtain rfl | hb := Nat.eq_zero_or_pos b
  · rw [Nat.add_zero, dyadic_of_pos ha]
    rfl
  obtain ⟨n, hn⟩ : ∃ n, n = max (23 - a.log2) (23 - b.log2) := ⟨_, rfl⟩
  have hmin : min (t - (23 - a.log2 : Nat)) (t - (23 - b.log2 : Nat)) = t - n := by omega
  rw [dyadic_of_pos ha, dyadic_of_pos hb, UnpackedFloat.add, hmin,
    decreaseExponent_mul_two_pow (hn ▸ Nat.le_max_left _ _),
    decreaseExponent_mul_two_pow (hn ▸ Nat.le_max_right _ _)]
  dsimp only [Sign.apply]
  rw [← Int.natCast_add, ← Nat.add_mul]
  exact normalize_mul_two_pow hlt ht n

theorem mul_one_dyadic (hlt : c < 2 ^ 24) (ht : -126 ≤ t) :
    UnpackedFloat.mul .binary32 (dyadic c t) (.finite .positive (2 ^ 23) (-23) (by decide)) =
      dyadic c t := by
  obtain rfl | hc := Nat.eq_zero_or_pos c
  · rfl
  · have hexponent : t - (23 - c.log2 : Nat) + -23 = t - (23 - c.log2 + 23 : Nat) := by omega
    rw [dyadic_of_pos hc, UnpackedFloat.mul, Nat.mul_assoc, ← Nat.pow_add, hexponent]
    exact (roundWithAccuracy_mul_two_pow hc hlt ht (Nat.le_add_right _ _)).trans (dyadic_of_pos hc)

/-- A lesser number has a lesser exponent, or the same one and a lesser mantissa. -/
theorem compare_then_of_lt (ha : 0 < a) (hb : b < 2 ^ 24) (h : a < b) :
    (compare (t - (23 - a.log2 : Nat)) (t - (23 - b.log2 : Nat))).then
      (compare (a * 2 ^ (23 - a.log2)) (b * 2 ^ (23 - b.log2))) = .lt := by
  have hlog := log2_le_of_lt hb
  have hlogs : a.log2 ≤ b.log2 := by
    rw [Nat.le_log2 (ha.trans h).ne']
    exact (Nat.log2_self_le ha.ne').trans h.le
  obtain hlt | heq := Nat.lt_or_eq_of_le hlogs
  · have hexponent : t - (23 - a.log2 : Nat) < t - (23 - b.log2 : Nat) := by omega
    rw [compare_lt_iff_lt.mpr hexponent]
    rfl
  · have hmantissa : a * 2 ^ (23 - b.log2) < b * 2 ^ (23 - b.log2) :=
      Nat.mul_lt_mul_of_pos_right h (Nat.two_pow_pos _)
    rw [heq, Std.compare_self]
    exact compare_lt_iff_lt.mpr hmantissa

theorem compare_then (ha : 0 < a) (hlt : a < 2 ^ 24) (hb : 0 < b) (hlt' : b < 2 ^ 24) :
    (compare (t - (23 - a.log2 : Nat)) (t - (23 - b.log2 : Nat))).then
      (compare (a * 2 ^ (23 - a.log2)) (b * 2 ^ (23 - b.log2))) = compare a b := by
  obtain h | rfl | h := lt_trichotomy a b
  · rw [compare_then_of_lt ha hlt' h, compare_lt_iff_lt.mpr h]
  · simp only [Std.compare_self, Ordering.then_eq]
  · have hswap := congrArg Ordering.swap (compare_then_of_lt (t := t) hb hlt h)
    rw [Ordering.swap_then, ← Std.OrientedOrd.eq_swap, ← Std.OrientedOrd.eq_swap] at hswap
    rw [hswap, compare_gt_iff_gt.mpr h]
    rfl

theorem compare_dyadic (ha : a < 2 ^ 24) (hb : b < 2 ^ 24) :
    (dyadic a t).compare (dyadic b t) = some (compare a b) := by
  obtain rfl | ha' := Nat.eq_zero_or_pos a
  · obtain rfl | hb' := Nat.eq_zero_or_pos b
    · rfl
    · rw [dyadic_of_pos hb', compare_lt_iff_lt.mpr hb']
      rfl
  obtain rfl | hb' := Nat.eq_zero_or_pos b
  · rw [dyadic_of_pos ha', compare_gt_iff_gt.mpr ha']
    rfl
  · rw [dyadic_of_pos ha', dyadic_of_pos hb', UnpackedFloat.compare, compare_then ha' ha hb' hb]

/-! ## Packing -/

theorem toNat_one_append_pos {n : Nat} (mantissa : BitVec n) : 0 < (1#1 ++ mantissa).toNat := by
  rw [BitVec.toNat_append, Nat.pos_iff_ne_zero]
  simp

theorem unpack_packComponents {F : Format} (sign : Sign) {exponent : BitVec F.exponentBits}
    {mantissa : BitVec F.mantissaBitsWithoutImplicit} (hinfinite : exponent ≠ -1#_)
    (hsubnormal : exponent ≠ 0#_) :
    UnpackedFloat.unpack F (packComponents F sign exponent mantissa) =
      .finite sign (1#1 ++ mantissa).toNat
        (exponent.toNat - (F.exponentBias + F.mantissaBitsWithoutImplicit))
        (toNat_one_append_pos mantissa) := by
  unfold UnpackedFloat.unpack
  simp only [unpackExponent_packComponents, unpackMantissa_packComponents,
    unpackSign_packComponents, if_neg hinfinite, if_neg hsubnormal]
  cases sign <;> rfl

/-- What has all the bits is packed without loss. -/
theorem unpack_pack_of_log2 {m : Nat} {e : Int} (hm : 0 < m) (hlog : m.log2 = 23) (he : -149 ≤ e)
    (he' : e ≤ 103) : UnpackedFloat.unpack .binary32
      (UnpackedFloat.pack .binary32 (.finite .positive m e hm)) = .finite .positive m e hm := by
  obtain ⟨biased, hbiased⟩ : ∃ biased : Nat, e + 150 = biased := Int.eq_ofNat_of_zero_le (by omega)
  have hbias : (Format.binary32.exponentBias : Int) = 127 := rfl
  have hbits : (Format.binary32.mantissaBitsWithoutImplicit : Int) = 23 := rfl
  have hpack : UnpackedFloat.pack .binary32 (.finite .positive m e hm) =
      packComponents .binary32 .positive (BitVec.ofNat 8 biased) (BitVec.ofNat 23 m) := by
    have hexponent : (e + Format.binary32.exponentBias +
        Format.binary32.mantissaBitsWithoutImplicit).toNat = biased := by omega
    have hfits : ¬ 2 ^ Format.binary32.exponentBits ≤ biased + 1 := by
      show ¬ 256 ≤ biased + 1
      omega
    have hall : m.log2 + 1 = Format.binary32.mantissaBits := congrArg (· + 1) hlog
    rw [UnpackedFloat.pack, hexponent, if_neg hfits, if_pos hall]
  have hexponent : (BitVec.ofNat 8 biased).toNat = biased := by
    rw [BitVec.toNat_ofNat]
    omega
  have hmantissa : (1#1 ++ BitVec.ofNat 23 m).toNat = m := by
    have hle := Nat.log2_self_le hm.ne'
    have hlt := Nat.lt_log2_self (n := m)
    rw [hlog] at hle hlt
    rw [BitVec.toNat_append, ← Nat.shiftLeft_add_eq_or_of_lt (BitVec.isLt _), BitVec.toNat_ofNat,
      BitVec.toNat_ofNat]
    omega
  have hinfinite : BitVec.ofNat 8 biased ≠ -1#8 := by
    intro h
    have h255 : biased = 255 := hexponent.symm.trans (congrArg BitVec.toNat h)
    omega
  have hsubnormal : BitVec.ofNat 8 biased ≠ 0#8 := by
    intro h
    have hzero : biased = 0 := hexponent.symm.trans (congrArg BitVec.toNat h)
    omega
  rw [hpack, unpack_packComponents (F := .binary32) .positive hinfinite hsubnormal]
  have hunbiased : ((BitVec.ofNat 8 biased).toNat : Int) - (Format.binary32.exponentBias +
      Format.binary32.mantissaBitsWithoutImplicit) = e := by omega
  congr 1

theorem unpack_pack_dyadic (hlt : c < 2 ^ 24) (ht : -126 ≤ t) (ht' : t ≤ 103) :
    (Float32.Model.pack (dyadic c t)).unpack = dyadic c t := by
  have hlog := log2_le_of_lt hlt
  obtain rfl | hc := Nat.eq_zero_or_pos c
  · rw [dyadic, dif_pos rfl]
    rfl
  · rw [dyadic_of_pos hc]
    refine unpack_pack_of_log2 _ ?_ (by omega) (by omega)
    rw [log2_mul_two_pow hc]
    omega

/-! ## Halves -/

/-- Half of a whole number. -/
def half (k : Nat) : Float32 :=
  .ofModel (.pack (dyadic k (-1)))

theorem unpack_half (h : a < 2 ^ 24) : (half a).toModel.unpack = dyadic a (-1) :=
  unpack_pack_dyadic h (by decide) (by decide)

theorem half_add_half (h : a + b < 2 ^ 24) : half a + half b = half (a + b) := by
  show Float32.ofModel (.pack (.add .binary32 (half a).toModel.unpack (half b).toModel.unpack)) = _
  rw [unpack_half (Nat.lt_of_le_of_lt (Nat.le_add_right a b) h),
    unpack_half (Nat.lt_of_le_of_lt (Nat.le_add_left b a) h), add_dyadic h (by decide)]
  rfl

theorem compare_half (ha : a < 2 ^ 24) (hb : b < 2 ^ 24) :
    (half a).toModel.unpack.compare (half b).toModel.unpack = some (compare a b) := by
  rw [unpack_half ha, unpack_half hb, compare_dyadic ha hb]

theorem half_lt_half_iff (ha : a < 2 ^ 24) (hb : b < 2 ^ 24) : half a < half b ↔ a < b := by
  show decide (((half a).toModel.unpack.compare (half b).toModel.unpack == some .lt) = true) =
    true ↔ _
  rw [compare_half ha hb, decide_eq_true_iff, beq_iff_eq, Option.some_inj, compare_lt_iff_lt]

theorem half_le_half_iff (ha : a < 2 ^ 24) (hb : b < 2 ^ 24) : half a ≤ half b ↔ a ≤ b := by
  show decide (((half a).toModel.unpack.compare (half b).toModel.unpack).any (·.isLE) = true) =
    true ↔ _
  rw [compare_half ha hb, decide_eq_true_iff, Option.any_some, Std.isLE_compare]

theorem isNaN_half (h : a < 2 ^ 24) : (half a).isNaN = false := by
  show (half a).toModel.unpack.isNaN = false
  rw [unpack_half h, dyadic]
  split <;> rfl

theorem unpack_ofUInt64 (h : a < 2 ^ 24) :
    (Float32.Model.ofUInt64 a.toUInt64).unpack = dyadic a 0 := by
  have htoNat : a.toUInt64.toNat = a := by
    rw [Nat.toUInt64_eq, UInt64.toNat_ofNat']
    omega
  have hround := normalize_mul_two_pow (t := 0) h (by decide) 0
  rw [Nat.pow_zero, Nat.mul_one] at hround
  rw [← unpack_pack_dyadic h (by decide) (by decide), ← hround, Float32.Model.ofUInt64,
    UnpackedFloat.ofUInt64, htoNat]
  rfl

/-- Whole numbers are the halves of their doubles. -/
theorem ofNat_eq_half (h : 2 * a < 2 ^ 24) : Float32.ofNat a = half (2 * a) := by
  -- Small numbers are multiplied by the power of ten that their digits are followed by, which is 1.
  have hone : (Float32.ofBits 0x3F800000).toModel.unpack =
      .finite .positive (2 ^ 23) (-23) (by decide) := rfl
  show Float32.ofScientific a false 0 = _
  rw [Float32.ofScientific, dif_pos ⟨by omega, Nat.zero_le 10⟩]
  show Float32.ofModel (.pack (.mul .binary32 (Float32.Model.ofUInt64 a.toUInt64).unpack
    (Float32.ofBits 0x3F800000).toModel.unpack)) = _
  rw [hone, unpack_ofUInt64 (by omega), mul_one_dyadic (by omega) (by decide), half,
    dyadic_two_mul h]
  rfl

end Spelling.Distance
