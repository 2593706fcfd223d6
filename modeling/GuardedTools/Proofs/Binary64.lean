import GuardedTools.Binary64.Shortest
import GuardedTools.Proofs.Text
import Mathlib.Data.Int.Log
import Mathlib.Data.List.TakeWhile
import Mathlib.Data.Rat.Floor
import Mathlib.Tactic.FieldSimp
import Mathlib.Tactic.Linarith
import Mathlib.Tactic.Positivity
import Mathlib.Tactic.Ring

/-!
# Rounding and shortest decimals

The pattern nearest to a quotient depends on the quotient only, not on how it is written
(`Binary64.ofRatio_congr`), and neither does the pattern nearest to a decimal
(`Binary64.ofDecimal_mul_pow`).  A number that has a pattern is rounded to that pattern
(`Binary64.ofRatio_of_view`).

The shortest decimal of a number is read as the number itself, or as a zero where none was found
(`Binary64.reread_eq`).  So what is read of a finite number is finite, and of another one is not
(`Binary64.isFinite_reread`).
-/

namespace GuardedTools

namespace Binary64

variable {num den num' den' : Nat} {negative : Bool}

/-! ### Quotients -/

theorem scaleRatio_snd_pos (positive : 0 < den) (e : Int) : 0 < (scaleRatio num den e).2 := by
  unfold scaleRatio
  split
  · exact positive
  · exact Nat.mul_pos positive (Nat.pow_pos Nat.two_pos)

theorem scaleRatio_quotient (num den : Nat) (e : Int) :
    ((scaleRatio num den e).1 : ℚ) / (scaleRatio num den e).2 = num / den * 2 ^ e := by
  unfold scaleRatio
  split
  next up =>
    obtain ⟨n, rfl⟩ := Int.eq_ofNat_of_zero_le up
    have power : Nat.pow 2 n = 2 ^ n := rfl
    simp only [Int.toNat_natCast, power, Nat.cast_mul, Nat.cast_pow, Nat.cast_ofNat,
      zpow_natCast]
    ring
  next down =>
    obtain ⟨n, negated⟩ := Int.eq_ofNat_of_zero_le (a := -e) (by omega)
    obtain rfl : e = -(n : Int) := by omega
    have power : Nat.pow 2 n = 2 ^ n := rfl
    simp only [neg_neg, Int.toNat_natCast, power, Nat.cast_mul, Nat.cast_pow, Nat.cast_ofNat,
      zpow_neg, zpow_natCast]
    field_simp

theorem divRound_mul {k : Nat} (positive : 0 < k) (num den : Nat) :
    divRound (num * k) (den * k) = divRound num den := by
  have less (a b : Nat) : 2 * (a * k) < b * k ↔ 2 * a < b := by
    rw [← Nat.mul_assoc]
    exact Nat.mul_lt_mul_right positive
  have more (a b : Nat) : b * k < 2 * (a * k) ↔ b < 2 * a := by
    rw [← Nat.mul_assoc]
    exact Nat.mul_lt_mul_right positive
  simp only [divRound, Nat.mul_div_mul_right _ _ positive, Nat.mul_mod_mul_right, less, more]

theorem mul_eq_mul_of_quotient (positive : 0 < den) (positive' : 0 < den')
    (same : (num : ℚ) / den = num' / den') : num * den' = num' * den := by
  have den_ne : (den : ℚ) ≠ 0 := Nat.cast_ne_zero.mpr positive.ne'
  have den_ne' : (den' : ℚ) ≠ 0 := Nat.cast_ne_zero.mpr positive'.ne'
  exact_mod_cast (div_eq_div_iff den_ne den_ne').mp same

theorem divRound_congr (positive : 0 < den) (positive' : 0 < den')
    (same : (num : ℚ) / den = num' / den') : divRound num den = divRound num' den' := by
  rw [← divRound_mul positive' num den, mul_eq_mul_of_quotient positive positive' same,
    Nat.mul_comm den den', divRound_mul positive]

/-! ### The last bit that is kept -/

/-- Fifty-three bits are kept of a quotient, but none below the smallest pattern. -/
theorem lastBit_eq (some : 0 < num) (positive : 0 < den) :
    lastBit num den = max (Int.log 2 ((num : ℚ) / den) - 52) (-1074) := by
  have num_pos : (0 : ℚ) < num := Nat.cast_pos.mpr some
  have den_pos : (0 : ℚ) < den := Nat.cast_pos.mpr positive
  have quotient_pos : (0 : ℚ) < (num : ℚ) / den := div_pos num_pos den_pos
  have two_pos : (0 : ℚ) < 2 := by norm_num
  -- the quotient lies between the powers that the lengths of its parts tell
  have num_least : (2 : ℚ) ^ (num.log2 : Int) ≤ num := by
    rw [zpow_natCast]
    exact_mod_cast Nat.log2_self_le some.ne'
  have num_most : (num : ℚ) < 2 ^ ((num.log2 : Int) + 1) := by
    rw [← Nat.cast_succ, zpow_natCast]
    exact_mod_cast Nat.lt_log2_self
  have den_least : (2 : ℚ) ^ (den.log2 : Int) ≤ den := by
    rw [zpow_natCast]
    exact_mod_cast Nat.log2_self_le positive.ne'
  have den_most : (den : ℚ) < 2 ^ ((den.log2 : Int) + 1) := by
    rw [← Nat.cast_succ, zpow_natCast]
    exact_mod_cast Nat.lt_log2_self
  have above : Int.log 2 ((num : ℚ) / den) < (num.log2 : Int) - den.log2 + 1 := by
    rw [← Int.lt_zpow_iff_log_lt one_lt_two quotient_pos, div_lt_iff₀ den_pos]
    calc (num : ℚ) < 2 ^ ((num.log2 : Int) + 1) := num_most
      _ = 2 ^ ((num.log2 : Int) - den.log2 + 1) * 2 ^ (den.log2 : Int) := by
          rw [← zpow_add₀ two_pos.ne']
          congr 1
          ring
      _ ≤ 2 ^ ((num.log2 : Int) - den.log2 + 1) * den :=
          mul_le_mul_of_nonneg_left den_least (zpow_pos two_pos _).le
  have below : (num.log2 : Int) - den.log2 - 1 ≤ Int.log 2 ((num : ℚ) / den) := by
    rw [← Int.zpow_le_iff_le_log one_lt_two quotient_pos, le_div_iff₀ den_pos]
    calc (2 : ℚ) ^ ((num.log2 : Int) - den.log2 - 1) * den
        ≤ 2 ^ ((num.log2 : Int) - den.log2 - 1) * 2 ^ ((den.log2 : Int) + 1) :=
          mul_le_mul_of_nonneg_left den_most.le (zpow_pos two_pos _).le
      _ = 2 ^ (num.log2 : Int) := by
          rw [← zpow_add₀ two_pos.ne']
          congr 1
          ring
      _ ≤ num := num_least
  -- of the two lengths that are left, the quotient itself tells the right one
  have reaches : Nat.pow 2 53 ≤ (scaleRatio num den (-((num.log2 : Int) - den.log2 - 53))).1 /
        (scaleRatio num den (-((num.log2 : Int) - den.log2 - 53))).2 ↔
      (num.log2 : Int) - den.log2 ≤ Int.log 2 ((num : ℚ) / den) := by
    have scaled := scaleRatio_quotient num den (-((num.log2 : Int) - den.log2 - 53))
    have scaled_pos : 0 < (scaleRatio num den (-((num.log2 : Int) - den.log2 - 53))).2 :=
      scaleRatio_snd_pos positive _
    generalize scaleRatio num den (-((num.log2 : Int) - den.log2 - 53)) = r at scaled scaled_pos ⊢
    have r_pos : (0 : ℚ) < r.2 := Nat.cast_pos.mpr scaled_pos
    have lifted : Nat.pow 2 53 * r.2 ≤ r.1 ↔ (2 : ℚ) ^ (53 : Int) * r.2 ≤ r.1 := by
      norm_num
      exact_mod_cast Iff.rfl
    rw [Nat.le_div_iff_mul_le scaled_pos, lifted, ← le_div_iff₀ r_pos, scaled,
      ← Int.zpow_le_iff_le_log one_lt_two quotient_pos, zpow_neg, ← div_eq_mul_inv,
      le_div_iff₀ (zpow_pos two_pos _), ← zpow_add₀ two_pos.ne']
    norm_num
  unfold lastBit
  dsimp only
  split
  next reached =>
    have log_le := reaches.mp reached
    congr 1
    omega
  next missed =>
    have lt_log : ¬ (num.log2 : Int) - den.log2 ≤ Int.log 2 ((num : ℚ) / den) :=
      fun le => missed (reaches.mpr le)
    congr 1
    omega

/-! ### The nearest pattern -/

/-- The pattern that a quotient is rounded to does not depend on how the quotient is written. -/
theorem ofRatio_congr (positive : 0 < den) (positive' : 0 < den')
    (same : (num : ℚ) / den = num' / den') : ofRatio negative num den = ofRatio negative num' den' := by
  have cross := mul_eq_mul_of_quotient positive positive' same
  rcases Nat.eq_zero_or_pos num with rfl | some
  · have zero : num' = 0 := by
      rw [Nat.zero_mul] at cross
      exact (Nat.mul_eq_zero.mp cross.symm).resolve_right positive.ne'
    rw [zero, ofRatio, if_pos rfl, ofRatio, if_pos rfl]
  · have some' : 0 < num' := by
      refine Nat.pos_of_ne_zero fun zero => ?_
      rw [zero, Nat.zero_mul] at cross
      exact (Nat.mul_pos some positive').ne' cross
    have last : lastBit num den = lastBit num' den' := by
      rw [lastBit_eq some positive, lastBit_eq some' positive', same]
    have digits : divRound (scaleRatio num den (-lastBit num den)).1
          (scaleRatio num den (-lastBit num den)).2
        = divRound (scaleRatio num' den' (-lastBit num' den')).1
          (scaleRatio num' den' (-lastBit num' den')).2 := by
      refine divRound_congr (scaleRatio_snd_pos positive _) (scaleRatio_snd_pos positive' _) ?_
      rw [scaleRatio_quotient, scaleRatio_quotient, same, last]
    unfold ofRatio
    dsimp only
    rw [if_neg some.ne', if_neg some'.ne', digits, last]

/-! ### Decimals -/

theorem length_toDigits_mul_pow {n : Nat} (some : 0 < n) (k : Nat) :
    (Nat.toDigits 10 (n * 10 ^ k)).length = (Nat.toDigits 10 n).length + k := by
  induction k with
  | zero => rw [Nat.pow_zero, Nat.mul_one, Nat.add_zero]
  | succ k ih =>
    have large : 10 ≤ n * 10 ^ (k + 1) := by
      rw [Nat.pow_succ, ← Nat.mul_assoc]
      exact Nat.le_mul_of_pos_left 10 (Nat.mul_pos some (Nat.pow_pos (by decide)))
    have tenth : n * 10 ^ (k + 1) / 10 = n * 10 ^ k := by
      rw [Nat.pow_succ, ← Nat.mul_assoc, Nat.mul_div_cancel _ (by decide)]
    rw [Nat.toDigits_of_base_le (by decide) large, tenth, List.length_append, ih,
      List.length_singleton, Nat.add_assoc]

/-- The quotient that digits with an exponent stand for. -/
def decimalRatio (digits : Nat) (e : Int) : Nat × Nat :=
  if 0 ≤ e then (digits * Nat.pow 10 e.toNat, 1) else (digits, Nat.pow 10 (-e).toNat)

theorem decimalRatio_snd_pos (digits : Nat) (e : Int) : 0 < (decimalRatio digits e).2 := by
  unfold decimalRatio
  split
  · exact Nat.one_pos
  · exact Nat.pow_pos (by decide)

theorem decimalRatio_quotient (digits : Nat) (e : Int) :
    ((decimalRatio digits e).1 : ℚ) / (decimalRatio digits e).2 = digits * 10 ^ e := by
  unfold decimalRatio
  split
  next up =>
    obtain ⟨n, rfl⟩ := Int.eq_ofNat_of_zero_le up
    have power : Nat.pow 10 n = 10 ^ n := rfl
    simp only [Int.toNat_natCast, power, Nat.cast_mul, Nat.cast_pow, Nat.cast_ofNat, zpow_natCast,
      Nat.cast_one, div_one]
  next down =>
    obtain ⟨n, negated⟩ := Int.eq_ofNat_of_zero_le (a := -e) (by omega)
    obtain rfl : e = -(n : Int) := by omega
    have power : Nat.pow 10 n = 10 ^ n := rfl
    simp only [neg_neg, Int.toNat_natCast, power, Nat.cast_pow, Nat.cast_ofNat, zpow_neg, zpow_natCast]
    field_simp

theorem ofDecimal_eq (digits : Nat) (e : Int) :
    ofDecimal negative digits e =
      if digits = 0 || ((Nat.toDigits 10 digits).length + e : Int) < -400 then ofMagnitude negative 0
      else if 400 < ((Nat.toDigits 10 digits).length + e : Int) then infinity negative
      else ofRatio negative (decimalRatio digits e).1 (decimalRatio digits e).2 := by
  unfold ofDecimal decimalRatio
  dsimp only
  congr 2
  split <;> rfl

@[simp] theorem ofDecimal_zero (e : Int) : ofDecimal negative 0 e = ofMagnitude negative 0 := by
  simp only [ofDecimal_eq, decide_true, Bool.true_or, if_true]

/-- Zeros at the end of the digits are as good as an exponent. -/
theorem ofDecimal_mul_pow (digits k : Nat) (e : Int) :
    ofDecimal negative (digits * 10 ^ k) (e - k) = ofDecimal negative digits e := by
  rcases Nat.eq_zero_or_pos digits with rfl | some
  · rw [Nat.zero_mul, ofDecimal_zero, ofDecimal_zero]
  · have some' : 0 < digits * 10 ^ k := Nat.mul_pos some (Nat.pow_pos (by decide))
    have length : ((Nat.toDigits 10 (digits * 10 ^ k)).length + (e - k) : Int)
        = (Nat.toDigits 10 digits).length + e := by
      rw [length_toDigits_mul_pow some]
      push_cast
      ring
    have ten_ne : (10 : ℚ) ≠ 0 := by norm_num
    have same : ofRatio negative (decimalRatio (digits * 10 ^ k) (e - k)).1
          (decimalRatio (digits * 10 ^ k) (e - k)).2
        = ofRatio negative (decimalRatio digits e).1 (decimalRatio digits e).2 := by
      refine ofRatio_congr (decimalRatio_snd_pos _ _) (decimalRatio_snd_pos _ _) ?_
      rw [decimalRatio_quotient, decimalRatio_quotient, zpow_sub₀ ten_ne, zpow_natCast, Nat.cast_mul,
        Nat.cast_pow, Nat.cast_ofNat]
      field_simp
    have positive : decide (digits * 10 ^ k = 0) = decide (digits = 0) := by
      rw [decide_eq_false some.ne', decide_eq_false some'.ne']
    rw [ofDecimal_eq, ofDecimal_eq, length, same, positive]

/-! ### Patterns -/

theorem toNat_ofMagnitude {magnitude : Nat} (small : magnitude < 2 ^ 63) :
    (ofMagnitude negative magnitude).bits.toNat = (if negative then 2 ^ 63 else 0) + magnitude := by
  have power : Nat.pow 2 63 = 2 ^ 63 := rfl
  have size : UInt64.size = 2 ^ 64 := rfl
  unfold ofMagnitude
  cases negative
  · simp only [Bool.false_eq_true, if_false, Nat.zero_add]
    exact UInt64.toNat_ofNat_of_lt' (by omega)
  · simp only [if_true, power]
    exact UInt64.toNat_ofNat_of_lt' (by omega)

theorem ofMagnitude_inj {magnitude magnitude' : Nat} (small : magnitude < 2 ^ 63)
    (small' : magnitude' < 2 ^ 63) (same : ofMagnitude negative magnitude = ofMagnitude negative magnitude') :
    magnitude = magnitude' := by
  have bits := congrArg (·.bits.toNat) same
  simp only [toNat_ofMagnitude small, toNat_ofMagnitude small'] at bits
  omega

/-- Patterns below that of the infinities are those of the finite numbers. -/
theorem isFinite_ofMagnitude {magnitude : Nat} (small : magnitude < 2047 * 2 ^ 52) :
    (ofMagnitude negative magnitude).isFinite = true := by
  have bits : (ofMagnitude negative magnitude).bits.toNat = (if negative then 2 ^ 63 else 0) + magnitude :=
    toNat_ofMagnitude (by omega)
  have exponent : (ofMagnitude negative magnitude).bits.toNat / Nat.pow 2 52 % Nat.pow 2 11 ≠ 2047 := by
    rw [bits]
    have p52 : Nat.pow 2 52 = 2 ^ 52 := rfl
    have p11 : Nat.pow 2 11 = 2 ^ 11 := rfl
    rw [p52, p11]
    cases negative <;> simp only [Bool.false_eq_true, if_false, if_true] <;> omega
  unfold isFinite view
  dsimp only
  rw [if_neg exponent]
  split_ifs <;> rfl

theorem isFinite_infinity : (infinity negative).isFinite = false := by
  cases negative <;> decide

/-- A finite number is its mantissa times a power of two, and its pattern shows both. -/
theorem view_eq_finite {x : Binary64} {m : Nat} {e : Int} (h : x.view = .finite negative m e) :
    x = ofMagnitude negative ((e + 1074).toNat * 2 ^ 52 + m) ∧ m < 2 ^ 53 ∧ -1074 ≤ e ∧ e ≤ 971 ∧
      (2 ^ 52 ≤ m ∨ e = -1074) := by
  have p11 : Nat.pow 2 11 = 2 ^ 11 := rfl
  have p52 : Nat.pow 2 52 = 2 ^ 52 := rfl
  have p63 : Nat.pow 2 63 = 2 ^ 63 := rfl
  have size : x.bits.toNat < 2 ^ 64 := x.bits.toNat_lt
  have pattern (magnitude : Nat) (small : magnitude < 2 ^ 63)
      (whole : x.bits.toNat = (if negative then 2 ^ 63 else 0) + magnitude) :
      x = ofMagnitude negative magnitude := by
    have bits : x.bits = (ofMagnitude negative magnitude).bits :=
      UInt64.toNat_inj.mp (whole.trans (toNat_ofMagnitude small).symm)
    cases x
    exact congrArg Binary64.mk bits
  simp only [view, p11, p52, p63] at h
  split at h
  · split at h <;> cases h
  next exponent_ne =>
    split at h
    next exponent =>
      cases h
      refine ⟨pattern _ (by omega) ?_, by omega, by omega, by omega, Or.inr rfl⟩
      by_cases signed : 2 ^ 63 ≤ x.bits.toNat
      · simp only [decide_eq_true signed, if_true]
        omega
      · simp only [decide_eq_false signed, Bool.false_eq_true, if_false]
        omega
    next exponent =>
      cases h
      refine ⟨pattern _ (by omega) ?_, by omega, by omega, by omega, Or.inl (by omega)⟩
      by_cases signed : 2 ^ 63 ≤ x.bits.toNat
      · simp only [decide_eq_true signed, if_true]
        omega
      · simp only [decide_eq_false signed, Bool.false_eq_true, if_false]
        omega

/-- **A number that has a pattern is rounded to it.** -/
theorem ofRatio_of_view {x : Binary64} {m : Nat} {e : Int} (h : x.view = .finite negative m e) :
    ofRatio negative (scaleRatio m 1 e).1 (scaleRatio m 1 e).2 = x := by
  obtain ⟨pattern, m_lt, least, most, normal⟩ := view_eq_finite h
  have two_pos : (0 : ℚ) < 2 := by norm_num
  have positive : 0 < (scaleRatio m 1 e).2 := scaleRatio_snd_pos Nat.one_pos e
  have quotient := scaleRatio_quotient m 1 e
  rw [Nat.cast_one, div_one] at quotient
  have parts : (scaleRatio m 1 e).1 = 0 ↔ m = 0 := by
    unfold scaleRatio
    split
    · have power : Nat.pow 2 e.toNat ≠ 0 := (Nat.pow_pos Nat.two_pos).ne'
      exact ⟨fun zero => (Nat.mul_eq_zero.mp zero).resolve_right power, fun zero => by rw [zero, Nat.zero_mul]⟩
    · rfl
  unfold ofRatio
  rcases Nat.eq_zero_or_pos m with rfl | some
  · obtain rfl : e = -1074 := by omega
    rw [if_pos (parts.mpr rfl), pattern]
    rfl
  · have numerator : 0 < (scaleRatio m 1 e).1 := Nat.pos_of_ne_zero fun zero => some.ne' (parts.mp zero)
    have quotient_pos : (0 : ℚ) < ((scaleRatio m 1 e).1 : ℚ) / (scaleRatio m 1 e).2 :=
      div_pos (Nat.cast_pos.mpr numerator) (Nat.cast_pos.mpr positive)
    -- the last bit that is kept is the last bit of the mantissa
    have above : Int.log 2 (((scaleRatio m 1 e).1 : ℚ) / (scaleRatio m 1 e).2) < 53 + e := by
      rw [← Int.lt_zpow_iff_log_lt one_lt_two quotient_pos, quotient, Nat.cast_ofNat, zpow_add₀ two_pos.ne']
      exact mul_lt_mul_of_pos_right (by exact_mod_cast m_lt) (zpow_pos two_pos e)
    have below (large : 2 ^ 52 ≤ m) :
        52 + e ≤ Int.log 2 (((scaleRatio m 1 e).1 : ℚ) / (scaleRatio m 1 e).2) := by
      rw [← Int.zpow_le_iff_le_log one_lt_two quotient_pos, quotient, Nat.cast_ofNat, zpow_add₀ two_pos.ne']
      exact mul_le_mul_of_nonneg_right (by exact_mod_cast large) (zpow_pos two_pos e).le
    have last : lastBit (scaleRatio m 1 e).1 (scaleRatio m 1 e).2 = e := by
      rw [lastBit_eq numerator positive]
      omega
    have digits : divRound (scaleRatio (scaleRatio m 1 e).1 (scaleRatio m 1 e).2 (-e)).1
        (scaleRatio (scaleRatio m 1 e).1 (scaleRatio m 1 e).2 (-e)).2 = m := by
      have whole : divRound m 1 = m := by simp [divRound, Nat.mod_one]
      refine (divRound_congr (scaleRatio_snd_pos positive _) Nat.one_pos ?_).trans whole
      rw [scaleRatio_quotient, quotient, Nat.cast_one, div_one, mul_assoc, ← zpow_add₀ two_pos.ne',
        add_neg_cancel, zpow_zero, mul_one]
    have p52 : Nat.pow 2 52 = 2 ^ 52 := rfl
    dsimp only
    rw [if_neg numerator.ne', last, digits, p52, if_neg (by omega), pattern]

/-! ### The sign -/

/-- Signs are put before a number that is rounded without one. -/
theorem exists_ofRatio (num den : Nat) :
    ∃ magnitude < 2 ^ 63, ∀ negative, ofRatio negative num den = ofMagnitude negative magnitude := by
  have p52 : Nat.pow 2 52 = 2 ^ 52 := rfl
  unfold ofRatio
  dsimp only
  by_cases zero : num = 0
  · exact ⟨0, by decide, fun _ => if_pos zero⟩
  · by_cases large : 2047 * Nat.pow 2 52 ≤ (lastBit num den + 1074).toNat * Nat.pow 2 52 +
        divRound (scaleRatio num den (-lastBit num den)).1 (scaleRatio num den (-lastBit num den)).2
    · exact ⟨2047 * Nat.pow 2 52, by decide, fun _ => by rw [if_neg zero, if_pos large, infinity]⟩
    · refine ⟨_, ?_, fun _ => by rw [if_neg zero, if_neg large]⟩
      rw [p52] at large ⊢
      omega

theorem exists_ofDecimal (digits : Nat) (e : Int) :
    ∃ magnitude < 2 ^ 63, ∀ negative, ofDecimal negative digits e = ofMagnitude negative magnitude := by
  simp only [ofDecimal_eq]
  split_ifs
  · exact ⟨0, by decide, fun _ => rfl⟩
  · exact ⟨2047 * Nat.pow 2 52, by decide, fun _ => rfl⟩
  · exact exists_ofRatio _ _

theorem ofDecimal_eq_ofRatio {digits : Nat} {e : Int}
    (h : ofDecimal false digits e = ofRatio false num den) :
    ofDecimal negative digits e = ofRatio negative num den := by
  obtain ⟨a, small, decimal⟩ := exists_ofDecimal digits e
  obtain ⟨b, small', ratio⟩ := exists_ofRatio num den
  rw [decimal, ratio] at h
  rw [decimal, ratio, ofMagnitude_inj small small' h]

/-! ### Shortest decimals -/

variable {x : Binary64}

/-- The digits that are found for a quotient are read as the pattern nearest to it. -/
theorem shortestOf_reads (num den : Nat) :
    shortestOf num den = (0, 0) ∨
      ofDecimal false (shortestOf num den).1 (shortestOf num den).2 = ofRatio false num den := by
  unfold shortestOf
  dsimp only
  generalize found : (List.range 17).findSome? _ = nearest
  cases nearest with
  | none => exact Or.inl rfl
  | some shortest =>
    obtain ⟨i, -, nearby⟩ := List.exists_of_findSome?_eq_some found
    have reads := List.find?_some nearby
    exact Or.inr (beq_iff_eq.mp reads)

/-- The number that the text of a number is read as. -/
def reread (x : Binary64) : Binary64 :=
  match x.view with
  | .nan => nan
  | .infinite negative => infinity negative
  | .finite negative m e =>
    let r := scaleRatio m 1 e
    if m = 0 then ofMagnitude negative 0
    else ofDecimal negative (shortestOf r.1 r.2).1 (shortestOf r.1 r.2).2

/-- What is read of the text of a finite number is the number, unless no decimal was found for it. -/
theorem reread_eq {m : Nat} {e : Int} (h : x.view = .finite negative m e) :
    x.reread = x ∨ x.reread = ofMagnitude negative 0 := by
  unfold reread
  rw [h]
  dsimp only
  split
  · exact Or.inr rfl
  · rcases shortestOf_reads (scaleRatio m 1 e).1 (scaleRatio m 1 e).2 with none | reads
    · rw [none]
      exact Or.inr (ofDecimal_zero 0)
    · exact Or.inl ((ofDecimal_eq_ofRatio reads).trans (ofRatio_of_view h))

/-- What is read of the text of a number is finite if the number is. -/
theorem isFinite_reread (x : Binary64) : x.reread.isFinite = x.isFinite := by
  cases view : x.view with
  | nan =>
    rw [reread, isFinite, isFinite, view]
    rfl
  | infinite negative =>
    rw [reread, view]
    dsimp only
    rw [isFinite_infinity, isFinite, view]
  | finite negative m e =>
    have finite : x.isFinite = true := by rw [isFinite, view]
    rcases reread_eq view with same | zero
    · rw [same]
    · rw [zero, finite]
      exact isFinite_ofMagnitude (by decide)

/-- The digits that are found for a positive number are those of a positive one, unless there are
none. -/
theorem shortestOf_pos {m : Nat} {e : Int} (h : x.view = .finite negative m e) (some : m ≠ 0) :
    shortestOf (scaleRatio m 1 e).1 (scaleRatio m 1 e).2 = (0, 0) ∨
      0 < (shortestOf (scaleRatio m 1 e).1 (scaleRatio m 1 e).2).1 := by
  refine (shortestOf_reads (scaleRatio m 1 e).1 (scaleRatio m 1 e).2).imp id fun reads => ?_
  refine Nat.pos_of_ne_zero fun zero => ?_
  obtain ⟨pattern, m_lt, least, most, -⟩ := view_eq_finite h
  have same := (ofDecimal_eq_ofRatio reads).trans (ofRatio_of_view h)
  rw [zero, ofDecimal_zero, pattern] at same
  have magnitude := ofMagnitude_inj (by decide) (by omega) same
  omega

end Binary64

namespace Text

/-- Zeros at the end are dropped, and nothing else. -/
theorem exists_zeros (ds : List Char) : ∃ k, ds = dropTrailingZeros ds ++ zeros k := by
  have parts : ds.reverse = ds.reverse.takeWhile (· == '0') ++ ds.reverse.dropWhile (· == '0') :=
    List.takeWhile_append_dropWhile.symm
  have all : ds.reverse.takeWhile (· == '0')
      = List.replicate (ds.reverse.takeWhile (· == '0')).length '0' := by
    refine List.eq_replicate_length.mpr fun c member => ?_
    have zero := List.mem_takeWhile_imp member
    exact beq_iff_eq.mp zero
  refine ⟨(ds.reverse.takeWhile (· == '0')).length, ?_⟩
  have back := congrArg List.reverse parts
  rw [List.reverse_reverse, List.reverse_append, all, List.reverse_replicate] at back
  simpa only [dropTrailingZeros, zeros, List.length_replicate] using back

/-- What is left of the digits of a positive number begins as they do. -/
theorem head?_dropTrailingZeros {n : Nat} (some : 0 < n) :
    (dropTrailingZeros (Nat.toDigits 10 n)).head? = (Nat.toDigits 10 n).head? ∧
      dropTrailingZeros (Nat.toDigits 10 n) ≠ [] := by
  obtain ⟨k, parts⟩ := exists_zeros (Nat.toDigits 10 n)
  have lead := head?_toDigits_ne some
  generalize dropTrailingZeros (Nat.toDigits 10 n) = ds at parts ⊢
  rcases ds with _ | ⟨d, ds⟩
  · cases k with
    | zero => exact absurd parts Nat.toDigits_ne_nil
    | succ k =>
      rw [parts] at lead
      exact absurd rfl lead
  · rw [parts]
    exact ⟨rfl, List.cons_ne_nil d ds⟩

end Text

end GuardedTools
