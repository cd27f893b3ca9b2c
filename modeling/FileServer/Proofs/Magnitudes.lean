import FileServer.Number.Binary64
import FileServer.Number.Wide
import Mathlib.Algebra.Group.Nat.Defs

/-!
Floating-point numbers beyond the whole numbers of 64 bits. What is rounded stays on its side of
every power of two: a fraction that is not below one is rounded to a number that is not below it
either, and so is a product. A number with a minus sign is the least whole number when it is taken
for one without a sign.
-/

namespace FileServer.Binary64

variable {x y : Binary64} {num den bound k : Nat} {e : Int}

/-- A number with a minus sign. -/
def IsNegative : Binary64 → Prop
  | finite negative _ _ | infinite negative => negative = true
  | nan => False

/-- A number without a minus sign that is not below a bound. -/
def AtLeast (bound : Nat) : Binary64 → Prop
  | finite negative m e => negative = false ∧ bound * 2 ^ (-e).toNat ≤ m * 2 ^ e.toNat
  | infinite negative => negative = false
  | nan => False

/-- One of the two powers is always one. -/
theorem scale_eq (num den : Nat) (e : Int) :
    scale num den e = (num * 2 ^ e.toNat, den * 2 ^ (-e).toNat) := by
  unfold scale
  split
  case isTrue h =>
    rw [show (-e).toNat = 0 by omega, Nat.pow_zero, Nat.mul_one]
    rfl
  case isFalse h =>
    rw [show e.toNat = 0 by omega, Nat.pow_zero, Nat.mul_one]
    rfl

/-! ### Rounding a fraction -/

theorem le_nearest (num den : Nat) : num / den ≤ nearest num den := by
  unfold nearest
  dsimp only
  split
  · exact Nat.le_refl _
  · split
    · omega
    · omega

/-- The exponent leaves at least 52 binary digits before the point, if the fraction is not below
one. -/
theorem exponentOf_le (hden : 0 < den) (h : den ≤ num) :
    exponentOf num den + 52 + den.log2 ≤ num.log2 := by
  have hlog : den.log2 ≤ num.log2 :=
    (Nat.le_log2 (by omega)).2 (Nat.le_trans (Nat.log2_self_le (by omega)) h)
  unfold exponentOf minExponent
  dsimp only
  split <;> omega

/-- The mantissa of a fraction that is not below one. -/
theorem le_mantissa (hden : 0 < den) (h : den ≤ num) :
    2 ^ 51 * (den * 2 ^ (exponentOf num den).toNat) ≤
      num * 2 ^ (-exponentOf num den).toNat := by
  have hexponent := exponentOf_le hden h
  generalize exponentOf num den = e at hexponent
  calc 2 ^ 51 * (den * 2 ^ e.toNat)
    _ ≤ 2 ^ 51 * (2 ^ (den.log2 + 1) * 2 ^ e.toNat) := by
      exact Nat.mul_le_mul_left _ (Nat.mul_le_mul_right _ (Nat.le_of_lt Nat.lt_log2_self))
    _ = 2 ^ (51 + (den.log2 + 1 + e.toNat)) := by rw [← Nat.pow_add, ← Nat.pow_add]
    _ ≤ 2 ^ (num.log2 + (-e).toNat) := Nat.pow_le_pow_right (by decide) (by omega)
    _ = 2 ^ num.log2 * 2 ^ (-e).toNat := Nat.pow_add _ _ _
    _ ≤ num * 2 ^ (-e).toNat := Nat.mul_le_mul_right _ (Nat.log2_self_le (by omega))

/-- A mantissa with its exponent, or what is beyond all numbers. -/
def assembled (negative : Bool) (m : Nat) (e : Int) : Binary64 :=
  if maxExponent < e then infinite negative else finite negative m e

theorem isNegative_assembled (m : Nat) (e : Int) : (assembled true m e).IsNegative := by
  unfold assembled
  split <;> rfl

theorem atLeast_assembled {m : Nat} (h : bound * 2 ^ (-e).toNat ≤ m * 2 ^ e.toNat) :
    (assembled false m e).AtLeast bound := by
  unfold assembled
  split
  · rfl
  · exact ⟨rfl, h⟩

/-- The mantissa to which a fraction is rounded at an exponent. -/
def mantissaAt (e : Int) (num den : Nat) : Nat :=
  nearest (num * 2 ^ (-e).toNat) (den * 2 ^ e.toNat)

/-- A fraction is rounded to 53 binary digits; what is rounded up to one digit more has the next
exponent. -/
theorem ofFraction_eq (negative : Bool) (hnum : num ≠ 0) :
    ofFraction negative num den =
      if mantissaAt (exponentOf num den) num den = mantissaBound then
        assembled negative (mantissaBound / 2) (exponentOf num den + 1)
      else
        assembled negative (mantissaAt (exponentOf num den) num den) (exponentOf num den) := by
  unfold ofFraction mantissaAt assembled
  rw [if_neg hnum]
  extract_lets e
  rw [scale_eq, Int.neg_neg]
  split
  rename_i n d heq
  obtain ⟨rfl, rfl⟩ := Prod.mk.inj heq
  extract_lets mantissa
  by_cases hround : mantissa = mantissaBound
  · rw [if_pos hround, if_pos hround]
  · rw [if_neg hround, if_neg hround]

theorem isNegative_ofFraction (num den : Nat) : (ofFraction true num den).IsNegative := by
  by_cases hnum : num = 0
  · rw [ofFraction, if_pos hnum]
    rfl
  · rw [ofFraction_eq true hnum]
    split <;> exact isNegative_assembled _ _

/-- The mantissa to which a fraction is rounded is not below the bound of the fraction. -/
theorem le_mantissaAt (hden : 0 < den) (hone : den ≤ num) (h : 2 ^ k * den ≤ num) :
    2 ^ k * 2 ^ (-exponentOf num den).toNat ≤
      mantissaAt (exponentOf num den) num den * 2 ^ (exponentOf num den).toNat := by
  have hmantissa := le_mantissa hden hone
  unfold mantissaAt
  generalize exponentOf num den = e at hmantissa
  have hscaled : 0 < den * 2 ^ e.toNat := Nat.mul_pos hden (Nat.two_pow_pos _)
  have hnearest := le_nearest (num * 2 ^ (-e).toNat) (den * 2 ^ e.toNat)
  -- a mantissa that is one or more will do, unless the exponent is below that of the bound
  rcases Int.lt_or_le e k with hlow | hhigh
  · obtain ⟨j, hj⟩ : ∃ j, k + (-e).toNat = j + e.toNat := ⟨k + (-e).toNat - e.toNat, by omega⟩
    have hquotient : 2 ^ j ≤ num * 2 ^ (-e).toNat / (den * 2 ^ e.toNat) := by
      rw [Nat.le_div_iff_mul_le hscaled]
      calc 2 ^ j * (den * 2 ^ e.toNat)
        _ = 2 ^ (j + e.toNat) * den := by rw [Nat.pow_add]; ac_rfl
        _ = 2 ^ k * den * 2 ^ (-e).toNat := by rw [← hj, Nat.pow_add]; ac_rfl
        _ ≤ num * 2 ^ (-e).toNat := Nat.mul_le_mul_right _ h
    rw [← Nat.pow_add, hj, Nat.pow_add]
    exact Nat.mul_le_mul_right _ (Nat.le_trans hquotient hnearest)
  · have hquotient : 1 ≤ num * 2 ^ (-e).toNat / (den * 2 ^ e.toNat) := by
      rw [Nat.le_div_iff_mul_le hscaled, Nat.one_mul]
      exact Nat.le_trans (Nat.le_mul_of_pos_left _ (Nat.two_pow_pos 51)) hmantissa
    rw [← Nat.pow_add]
    calc 2 ^ (k + (-e).toNat)
      _ ≤ 2 ^ e.toNat := Nat.pow_le_pow_right (by decide) (by omega)
      _ ≤ _ := Nat.le_mul_of_pos_left _ (Nat.le_trans hquotient hnearest)

/-- A fraction that is not below a power of two is not rounded to less. -/
theorem atLeast_ofFraction (hden : 0 < den) (h : 2 ^ k * den ≤ num) :
    (ofFraction false num den).AtLeast (2 ^ k) := by
  have hone : den ≤ num := Nat.le_trans (Nat.le_mul_of_pos_left den (Nat.two_pow_pos k)) h
  have hbound := le_mantissaAt hden hone h
  rw [ofFraction_eq false (by omega)]
  generalize exponentOf num den = e at hbound
  split
  case isFalse => exact atLeast_assembled hbound
  case isTrue hround =>
    rw [hround] at hbound
    refine atLeast_assembled ?_
    unfold mantissaBound at hbound ⊢
    rcases Int.lt_or_le e 0 with hlow | hhigh
    · rw [show (-e).toNat = (-(e + 1)).toNat + 1 by omega, show e.toNat = 0 by omega,
        Nat.pow_succ, ← Nat.mul_assoc] at hbound
      rw [show (e + 1).toNat = 0 by omega]
      omega
    · rw [show (-e).toNat = 0 by omega] at hbound
      rw [show (-(e + 1)).toNat = 0 by omega, show (e + 1).toNat = e.toNat + 1 by omega,
        Nat.pow_succ]
      omega

theorem atLeast_ofNat {n : Nat} (h : 2 ^ k ≤ n) : (ofNat n).AtLeast (2 ^ k) :=
  atLeast_ofFraction Nat.one_pos (by rwa [Nat.mul_one])

/-! ### Reading a decimal -/

theorem isNegative_ofDecimal (digits : Nat) (power : Int) :
    (ofDecimal true digits power).IsNegative := by
  unfold ofDecimal
  dsimp only
  split
  · rfl
  split
  · rfl
  split <;> exact isNegative_ofFraction _ _

/-- A whole number that is not below a power of two is not read as less. -/
theorem atLeast_ofDecimal {digits : Nat} (h : 2 ^ k ≤ digits) :
    (ofDecimal false digits 0).AtLeast (2 ^ k) := by
  have hpositive : 0 < 2 ^ k := Nat.two_pow_pos k
  unfold ofDecimal
  dsimp only
  split
  case isTrue hzero =>
    simp only [Bool.or_eq_true, decide_eq_true_eq] at hzero
    omega
  split
  · rfl
  · rw [if_pos (Int.le_refl 0)]
    exact atLeast_ofFraction Nat.one_pos (by simpa using h)

/-- What has at most 309 digits is not beyond all numbers by its length. -/
theorem ofDecimal_eq_ofNat {digits : Nat} (hpositive : 0 < digits)
    (hlength : (Nat.toDigits 10 digits).length ≤ 309) :
    ofDecimal false digits 0 = ofNat digits := by
  unfold ofDecimal
  dsimp only
  rw [if_neg (by simp only [Bool.or_eq_true, decide_eq_true_eq]; omega), if_neg (by omega),
    if_pos (Int.le_refl 0)]
  simp [ofNat]

/-! ### Signs and products -/

theorem AtLeast.isNegative_neg (h : x.AtLeast bound) : x.neg.IsNegative := by
  cases x with
  | finite s m e =>
    obtain ⟨rfl, -⟩ := h
    rfl
  | infinite s =>
    obtain rfl : s = false := h
    rfl
  | nan => exact h

/-- A finite number that is not below one is not zero. -/
theorem AtLeast.mantissa_ne_zero {negative : Bool} {m : Nat}
    (h : (finite negative m e).AtLeast bound) (hbound : 0 < bound) : m ≠ 0 := by
  rintro rfl
  have hpositive := Nat.mul_pos hbound (Nat.two_pow_pos (-e).toNat)
  have hzero := h.2
  omega

theorem atLeast_mul_finite {m m' : Nat} {e e' : Int}
    (h : (finite false m e).AtLeast (2 ^ k)) (h' : (finite false m' e').AtLeast 1) :
    ((finite false m e).mul (finite false m' e')).AtLeast (2 ^ k) := by
  unfold mul
  dsimp only
  rw [scale_eq]
  refine atLeast_ofFraction (Nat.mul_pos Nat.one_pos (Nat.two_pow_pos _)) ?_
  -- what the signs of the exponents take away from both sides
  obtain ⟨c, hc, hc'⟩ : ∃ c, e.toNat + e'.toNat = (e + e').toNat + c ∧
      (-e).toNat + (-e').toNat = (-(e + e')).toNat + c :=
    ⟨e.toNat + e'.toNat - (e + e').toNat, by omega, by omega⟩
  refine Nat.le_of_mul_le_mul_right ?_ (Nat.two_pow_pos c)
  calc 2 ^ k * (1 * 2 ^ (-(e + e')).toNat) * 2 ^ c
    _ = (2 ^ k * 2 ^ (-e).toNat) * (1 * 2 ^ (-e').toNat) := by
      rw [Nat.one_mul, Nat.one_mul, Nat.mul_assoc, ← Nat.pow_add, ← hc', Nat.pow_add,
        Nat.mul_assoc]
    _ ≤ (m * 2 ^ e.toNat) * (m' * 2 ^ e'.toNat) := Nat.mul_le_mul h.2 h'.2
    _ = m * m' * 2 ^ (e + e').toNat * 2 ^ c := by
      rw [Nat.mul_assoc (m * m'), ← Nat.pow_add, ← hc, Nat.pow_add]
      ac_rfl

/-- Where one factor is not below one, the product is not below a power of two that the other one is
not below. -/
theorem AtLeast.mul (h : x.AtLeast (2 ^ k)) (h' : y.AtLeast 1) : (x.mul y).AtLeast (2 ^ k) := by
  cases x with
  | nan => exact h
  | infinite s =>
    obtain rfl : s = false := h
    cases y with
    | nan => exact h'
    | infinite s' =>
      obtain rfl : s' = false := h'
      rfl
    | finite s' m' e' =>
      obtain rfl : s' = false := h'.1
      show AtLeast _ (if m' = 0 then nan else infinite _)
      rw [if_neg (h'.mantissa_ne_zero Nat.one_pos)]
      rfl
  | finite s m e =>
    obtain rfl : s = false := h.1
    cases y with
    | nan => exact h'
    | infinite s' =>
      obtain rfl : s' = false := h'
      show AtLeast _ (if m = 0 then nan else infinite _)
      rw [if_neg (h.mantissa_ne_zero (Nat.two_pow_pos k))]
      rfl
    | finite s' m' e' =>
      obtain rfl : s' = false := h'.1
      exact atLeast_mul_finite h h'

/-! ### Whole numbers between bounds -/

variable {max : Int}

theorem IsNegative.saturate_eq (h : x.IsNegative) (hmax : 0 ≤ max) : x.saturate 0 max = 0 := by
  cases x with
  | finite s m e =>
    obtain rfl : s = true := h
    simp only [saturate, roundAway, if_true]
    generalize (2 * (fraction m e).1 + (fraction m e).2) / (2 * (fraction m e).2) = k
    split
    · rfl
    split <;> omega
  | infinite s =>
    obtain rfl : s = true := h
    rfl
  | nan => exact absurd h id

/-- A bound is kept up to the greatest number. -/
theorem AtLeast.le_saturate (h : x.AtLeast bound) (hmax : (bound : Int) ≤ max) :
    (bound : Int) ≤ x.saturate 0 max := by
  cases x with
  | finite s m e =>
    obtain ⟨rfl, hle⟩ := h
    simp only [saturate, roundAway, fraction, scale_eq, Nat.one_mul, Bool.false_eq_true, if_false]
    have hd : 0 < 2 ^ (-e).toNat := Nat.two_pow_pos _
    generalize 2 ^ (-e).toNat = d at hle hd ⊢
    generalize m * 2 ^ e.toNat = n at hle ⊢
    have hround : bound ≤ (2 * n + d) / (2 * d) := by
      rw [Nat.le_div_iff_mul_le (by omega), Nat.mul_left_comm]
      omega
    generalize (2 * n + d) / (2 * d) = k at hround ⊢
    split
    · omega
    split <;> omega
  | infinite s =>
    obtain rfl : s = false := h
    exact hmax
  | nan => exact absurd h id

end FileServer.Binary64
