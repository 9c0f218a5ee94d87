import Mathlib.Algebra.Order.Field.Power
import Mathlib.Algebra.Order.Floor.Semifield
import Mathlib.Data.Int.Log
import Mathlib.Data.Rat.Floor
import Mathlib.Tactic.FieldSimp
import Mathlib.Tactic.Linarith
import Mathlib.Tactic.Positivity
import TableSchema.Number.Shortest

/-!
# The number nearest to a fraction

The number that a quotient or a decimal numeral is rounded to depends on its value alone: the value
is divided by the power of two that leaves 53 bits, but at least by the least power, and rounded to
a whole number, a half to the even neighbour. A finite number is the nearest to its own value, so
the numeral that is chosen for it always reads back as the number.
-/

namespace TableSchema.Number

section Rounding

/-- The whole number nearest to a fraction that is not negative; of two equally near the even
one. -/
def halfEven (q : ℚ) : Nat :=
  if q - ⌊q⌋₊ < 1 / 2 then ⌊q⌋₊ else if 1 / 2 < q - ⌊q⌋₊ then ⌊q⌋₊ + 1 else ⌊q⌋₊ + ⌊q⌋₊ % 2

theorem halfEven_natCast (n : Nat) : halfEven n = n := by
  simp [halfEven]

theorem halfEven_eq_zero {q : ℚ} (h : q < 1 / 2) : halfEven q = 0 := by
  have hfloor : ⌊q⌋₊ = 0 := Nat.floor_eq_zero.mpr (by linarith)
  rw [halfEven, hfloor, Nat.cast_zero, sub_zero, if_pos h]

/-- A quotient is rounded as the fraction that it stands for. -/
theorem roundDiv_eq_halfEven (num : Nat) {den : Nat} (h : 0 < den) :
    roundDiv num den = halfEven (num / den) := by
  have hden : (0 : ℚ) < den := by exact_mod_cast h
  have hfloor : ⌊(num : ℚ) / den⌋₊ = num / den := Nat.floor_div_eq_div num den
  have hrest : (num : ℚ) / den - (num / den : Nat) = (num % den : Nat) / den := by
    have hsplit : (num : ℚ) = den * (num / den : Nat) + (num % den : Nat) := by
      exact_mod_cast (Nat.div_add_mod num den).symm
    rw [sub_eq_iff_eq_add, div_eq_iff hden.ne', add_mul, div_mul_cancel₀ _ hden.ne']
    linarith
  have hbelow : ((num % den : Nat) : ℚ) / den < 1 / 2 ↔ 2 * (num % den) < den := by
    rw [div_lt_div_iff₀ hden two_pos, one_mul, mul_comm]
    exact_mod_cast Iff.rfl
  have habove : 1 / 2 < ((num % den : Nat) : ℚ) / den ↔ den < 2 * (num % den) := by
    rw [div_lt_div_iff₀ two_pos hden, one_mul, mul_comm]
    exact_mod_cast Iff.rfl
  simp only [roundDiv, halfEven, hfloor, hrest, hbelow, habove]

end Rounding

section Scaling

variable {base num den : Nat}

theorem scaled_snd_pos (hbase : 0 < base) (hden : 0 < den) (n : Int) :
    0 < (scaled base n num den).2 :=
  Nat.mul_pos hden (Nat.pow_pos hbase)

/-- Scaling multiplies the fraction by the power. -/
theorem scaled_fst_div_snd (hbase : 0 < base) (n : Int) (num den : Nat) :
    ((scaled base n num den).1 : ℚ) / (scaled base n num den).2 = num / den * (base : ℚ) ^ n := by
  have hpower : (base : ℚ) ^ n = (base : ℚ) ^ n.toNat / (base : ℚ) ^ (-n).toNat := by
    have hne : (base : ℚ) ≠ 0 := by exact_mod_cast hbase.ne'
    rw [← zpow_natCast, ← zpow_natCast, ← zpow_sub₀ hne]
    congr 1
    omega
  rw [scaled, hpower, div_mul_div_comm, Nat.pow_eq, Nat.pow_eq]
  push_cast
  rfl

end Scaling

namespace Binary64

/-- The exponent at which a positive fraction has a mantissa of 53 bits, but not below the least
one. -/
def binaryExponent (q : ℚ) : Int :=
  max (Int.log 2 q - 52) (-1074)

/-- The number of this sign nearest to a fraction that is not negative. -/
def nearest (negative : Bool) (q : ℚ) : Binary64 :=
  if q = 0 then zero negative
  else
    let e := binaryExponent q
    let m := halfEven (q * 2 ^ (-e))
    if m = 2 * leastFull then ofParts negative leastFull (e + 1) else ofParts negative m e

section Quotients

variable {num den : Nat}

/-- The binary lengths of numerator and denominator fix the logarithm up to one. -/
theorem log_div_bounds (hnum : 0 < num) (hden : 0 < den) :
    (Nat.log2 num : Int) - Nat.log2 den - 1 ≤ Int.log 2 (num / den : ℚ) ∧
      Int.log 2 (num / den : ℚ) < (Nat.log2 num : Int) - Nat.log2 den + 1 := by
  have hn : (0 : ℚ) < num := by exact_mod_cast hnum
  have hd : (0 : ℚ) < den := by exact_mod_cast hden
  have hbounds {n : Nat} (h : 0 < n) :
      (2 : ℚ) ^ (Nat.log2 n : Int) ≤ n ∧ (n : ℚ) < 2 ^ ((Nat.log2 n : Int) + 1) := by
    constructor
    · exact_mod_cast Nat.log2_self_le h.ne'
    · exact_mod_cast Nat.lt_log2_self
  obtain ⟨hnumLow, hnumHigh⟩ := hbounds hnum
  obtain ⟨hdenLow, hdenHigh⟩ := hbounds hden
  have htwo (k l : Int) : (2 : ℚ) ^ (k - l) = 2 ^ k / 2 ^ l := zpow_sub₀ two_ne_zero k l
  constructor
  · rw [← Int.zpow_le_iff_le_log one_lt_two (div_pos hn hd), sub_sub, Nat.cast_ofNat, htwo]
    gcongr
  · rw [← Int.lt_zpow_iff_log_lt one_lt_two (div_pos hn hd), sub_add_eq_add_sub, Nat.cast_ofNat,
      htwo]
    gcongr

theorem mul_two_zpow_lt_iff {q : ℚ} {e k : Int} : q * 2 ^ (-e) < 2 ^ k ↔ q < 2 ^ (k + e) := by
  rw [zpow_neg, mul_inv_lt_iff₀ (zpow_pos two_pos e), ← zpow_add₀ two_ne_zero]

theorem leastFull_eq : (leastFull : ℚ) = 2 ^ (52 : Int) := by
  norm_num [leastFull]

theorem exponentOf_eq (hnum : 0 < num) (hden : 0 < den) :
    exponentOf num den = binaryExponent (num / den) := by
  obtain ⟨hlow, hhigh⟩ := log_div_bounds hnum hden
  have hbelow (e : Int) :
      (scaled 2 (-e) num den).1 / (scaled 2 (-e) num den).2 < leastFull ↔
        Int.log 2 (num / den : ℚ) < 52 + e := by
    have hn : (0 : ℚ) < num := by exact_mod_cast hnum
    have hd : (0 : ℚ) < den := by exact_mod_cast hden
    have hs : (0 : ℚ) < (scaled 2 (-e) num den).2 := by
      exact_mod_cast scaled_snd_pos two_pos hden (-e)
    calc
      (scaled 2 (-e) num den).1 / (scaled 2 (-e) num den).2 < leastFull
        ↔ ((scaled 2 (-e) num den).1 : ℚ) / (scaled 2 (-e) num den).2 < leastFull := by
          rw [div_lt_iff₀ hs, Nat.div_lt_iff_lt_mul (scaled_snd_pos two_pos hden (-e))]
          exact_mod_cast Iff.rfl
      _ ↔ (num / den : ℚ) < 2 ^ (52 + e) := by
          rw [scaled_fst_div_snd two_pos, Nat.cast_ofNat, leastFull_eq, mul_two_zpow_lt_iff]
      _ ↔ Int.log 2 (num / den : ℚ) < 52 + e := by
          rw [← Int.lt_zpow_iff_log_lt one_lt_two (div_pos hn hd), Nat.cast_ofNat]
  -- The guess from the binary lengths is right or one too high, and the test tells which.
  simp only [exponentOf, binaryExponent, hbelow]
  split <;> omega

/-- A quotient is rounded as the fraction that it stands for. -/
theorem ofRatio_eq_nearest (negative : Bool) (num : Nat) (hden : 0 < den) :
    ofRatio negative num den = nearest negative (num / den) := by
  rcases Nat.eq_zero_or_pos num with rfl | hnum
  · simp [ofRatio, nearest]
  · have hq : (num / den : ℚ) ≠ 0 :=
      div_ne_zero (by exact_mod_cast hnum.ne') (by exact_mod_cast hden.ne')
    simp only [ofRatio, nearest, if_neg hnum.ne', if_neg hq, exponentOf_eq hnum hden,
      roundDiv_eq_halfEven _ (scaled_snd_pos two_pos hden _), scaled_fst_div_snd two_pos,
      Nat.cast_ofNat]

end Quotients

section Decimals

theorem digitCount_bounds {n : Nat} (h : 0 < n) :
    (10 : ℚ) ^ ((digitCount n : Int) - 1) ≤ n ∧ (n : ℚ) < 10 ^ (digitCount n : Int) := by
  have hpos : 0 < digitCount n := Nat.length_toDigits_pos
  have hhigh : n < 10 ^ digitCount n :=
    (Nat.length_toDigits_le_iff (by decide) hpos).mp le_rfl
  have hlow : 10 ^ (digitCount n - 1) ≤ n := by
    rcases Nat.eq_zero_or_pos (digitCount n - 1) with hone | hmany
    · rw [hone]
      exact h
    · exact not_lt.mp fun hlt =>
        absurd ((Nat.length_toDigits_le_iff (by decide) hmany).mpr hlt)
          (not_le.mpr (Nat.sub_lt hpos one_pos))
  have hcast : (digitCount n : Int) - 1 = (digitCount n - 1 : Nat) := by omega
  rw [hcast]
  exact ⟨by exact_mod_cast hlow, by exact_mod_cast hhigh⟩

/-- Beyond 400 decimal places there are no finite numbers. -/
theorem two_zpow_lt_ten_zpow : (2 : ℚ) ^ (1075 : Int) < 10 ^ (400 : Int) := by
  have hnat : 2 ^ 1075 < 10 ^ 400 := by decide +kernel
  exact_mod_cast hnat

end Decimals

section Range

variable {q : ℚ}

theorem ofParts_of_lt {m : Nat} {e : Int} (negative : Bool) (h : 971 < e) :
    ofParts negative m e = .infinity negative :=
  dif_neg fun hcanonical => absurd hcanonical.2.2.1 (not_le.mpr h)

theorem nearest_eq_infinity (negative : Bool) (h : 2 ^ (1024 : Int) ≤ q) :
    nearest negative q = .infinity negative := by
  have hpos : 0 < q := lt_of_lt_of_le (zpow_pos two_pos _) h
  have hlog : 1024 ≤ Int.log 2 q :=
    (Int.zpow_le_iff_le_log one_lt_two hpos).mp (by simpa using h)
  have hexponent : 971 < binaryExponent q := by
    rw [binaryExponent]
    omega
  simp only [nearest, if_neg hpos.ne', ofParts_of_lt negative hexponent,
    ofParts_of_lt negative (hexponent.trans (Int.lt_succ _)), ite_self]

theorem nearest_eq_zero (negative : Bool) (hpos : 0 < q) (h : q < 2 ^ (-1075 : Int)) :
    nearest negative q = zero negative := by
  have hlog : Int.log 2 q < -1075 :=
    (Int.lt_zpow_iff_log_lt one_lt_two hpos).mp (by simpa using h)
  have hexponent : binaryExponent q = -1074 := by
    rw [binaryExponent]
    omega
  have hsmall : q * 2 ^ (1074 : Int) < 1 / 2 := by
    have := (mul_two_zpow_lt_iff (e := -1074) (k := -1)).mpr (by simpa using h)
    simpa using this
  simp only [nearest, if_neg hpos.ne', hexponent, neg_neg, halfEven_eq_zero hsmall]
  rfl

end Range

/-- A decimal numeral is rounded as the fraction that it stands for, also where the power of ten is
not formed. -/
theorem ofDecimal_eq_nearest (negative : Bool) (digits : Nat) (scale : Int) :
    ofDecimal negative digits scale = nearest negative (digits * 10 ^ scale) := by
  rcases Nat.eq_zero_or_pos digits with rfl | hdigits
  · simp [ofDecimal, nearest]
  obtain ⟨hlow, hhigh⟩ := digitCount_bounds hdigits
  have hpower : (0 : ℚ) < 10 ^ scale := zpow_pos (by norm_num) scale
  have hvalue : (0 : ℚ) < digits * 10 ^ scale :=
    mul_pos (by exact_mod_cast hdigits) hpower
  rw [ofDecimal, if_neg hdigits.ne']
  -- Where the power of ten is not formed, the count of digits bounds the value well beyond the
  -- finite numbers or below half of the least one.
  split
  · rename_i hbig
    refine (nearest_eq_infinity negative ?_).symm
    calc
      (2 : ℚ) ^ (1024 : Int) ≤ 2 ^ (1075 : Int) := zpow_le_zpow_right₀ one_le_two (by norm_num)
      _ ≤ 10 ^ (400 : Int) := two_zpow_lt_ten_zpow.le
      _ ≤ 10 ^ ((digitCount digits : Int) - 1 + scale) :=
        zpow_le_zpow_right₀ (by norm_num) (by omega)
      _ = 10 ^ ((digitCount digits : Int) - 1) * 10 ^ scale := zpow_add₀ (by norm_num) _ _
      _ ≤ digits * 10 ^ scale := by gcongr
  · split
    · rename_i hsmall
      refine (nearest_eq_zero negative hvalue ?_).symm
      calc
        (digits : ℚ) * 10 ^ scale < 10 ^ (digitCount digits : Int) * 10 ^ scale := by gcongr
        _ = 10 ^ ((digitCount digits : Int) + scale) := (zpow_add₀ (by norm_num) _ _).symm
        _ ≤ 10 ^ (-400 : Int) := zpow_le_zpow_right₀ (by norm_num) (by omega)
        _ < 2 ^ (-1075 : Int) := by
          rw [zpow_neg, zpow_neg]
          exact inv_strictAnti₀ (zpow_pos two_pos _) two_zpow_lt_ten_zpow
    · rw [ofRatio_eq_nearest _ _ (scaled_snd_pos (by decide) one_pos scale),
        scaled_fst_div_snd (by decide)]
      simp

/-- A finite number is the nearest to its own value. -/
theorem nearest_mul_two_zpow (negative : Bool) {m : Nat} {e : Int} (h : Canonical m e) :
    nearest negative (m * 2 ^ e) = .finite negative m e h := by
  have ⟨hbelow, hleast, _, hfull⟩ := h
  have htwo : (0 : ℚ) < 2 ^ e := zpow_pos two_pos e
  rcases Nat.eq_zero_or_pos m with rfl | hm
  · obtain rfl : e = -1074 := hfull.resolve_left (by decide)
    simp [nearest, zero]
  have hpos : (0 : ℚ) < m * 2 ^ e := mul_pos (by exact_mod_cast hm) htwo
  have hlog {k : Int} : Int.log 2 ((m : ℚ) * 2 ^ e) < k + e ↔ (m : ℚ) < 2 ^ k := by
    rw [← Int.lt_zpow_iff_log_lt one_lt_two hpos, Nat.cast_ofNat, zpow_add₀ two_ne_zero,
      mul_lt_mul_iff_left₀ htwo]
  have hexponent : binaryExponent (m * 2 ^ e) = e := by
    have hhigh : Int.log 2 ((m : ℚ) * 2 ^ e) < 53 + e := by
      rw [hlog]
      exact_mod_cast hbelow
    rw [binaryExponent]
    rcases hfull with hfull | rfl
    · have hlow : ¬ Int.log 2 ((m : ℚ) * 2 ^ e) < 52 + e := by
        rw [hlog, ← leastFull_eq, not_lt]
        exact_mod_cast hfull
      omega
    · omega
  have hmantissa : halfEven ((m : ℚ) * 2 ^ e * 2 ^ (-e)) = m := by
    rw [zpow_neg, mul_inv_cancel_right₀ htwo.ne', halfEven_natCast]
  simp only [nearest, if_neg hpos.ne', hexponent, hmantissa, if_neg hbelow.ne,
    ofParts_of_canonical negative h]

end Binary64

namespace Numeral

/-- The value of a numeral. -/
def value (n : Numeral) : ℚ :=
  n.digits * 10 ^ n.scale

variable {n : Numeral} {negative : Bool} {x : Binary64}

/-- Numerals of one value read as one number. -/
theorem readsAs_iff : n.ReadsAs negative x ↔ Binary64.nearest negative n.value = x := by
  rw [ReadsAs, Binary64.ofDecimal_eq_nearest, value]

theorem value_exact (m : Nat) (e : Int) : (exact m e).value = m * 2 ^ e := by
  rw [exact]
  split
  · rename_i h
    obtain ⟨k, rfl⟩ := Int.eq_ofNat_of_zero_le h
    simp [value]
  · rename_i h
    obtain ⟨k, rfl⟩ : ∃ k : Nat, e = -k := ⟨(-e).toNat, by omega⟩
    have hten : (10 : ℚ) ^ k = 5 ^ k * 2 ^ k := by rw [← mul_pow]; norm_num
    have hfive : (5 : ℚ) ^ k ≠ 0 := pow_ne_zero k (by norm_num)
    simp only [value, neg_neg, Int.toNat_natCast, Nat.pow_eq, zpow_neg, zpow_natCast, hten]
    push_cast
    field_simp

/-- The numeral that is chosen for a finite number reads back as the number. -/
theorem readsAs_shortest {m : Nat} {e : Int} (h : Canonical m e) :
    (shortest negative m e h).ReadsAs negative (.finite negative m e h) := by
  have hexact : (exact m e).ReadsAs negative (.finite negative m e h) := by
    rw [readsAs_iff, value_exact, Binary64.nearest_mul_two_zpow]
  rw [shortest]
  cases hfound : (candidates (scaled 2 e m 1).1 (scaled 2 e m 1).2).find? fun n =>
      n.ReadsAs negative (.finite negative m e h) with
  | none => exact hexact
  | some n =>
      have hreads := List.find?_some hfound
      exact of_decide_eq_true hreads

end Numeral

end TableSchema.Number
