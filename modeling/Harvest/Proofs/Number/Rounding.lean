import Harvest.Number.Binary64
import Mathlib
/-!
What numbers are rounded to. A quotient becomes the value of the format that is nearest to it, and
of two that are equally near the one with the even significand; from halfway past the largest value
on it becomes infinite. There is one such value for each quotient, so nothing else can come of
rounding, whatever shortcuts are taken.
-/

namespace Harvest.Binary64

/-- Whether a significand and an exponent stand for a value of the format. -/
structure IsOfFormat (m : ℕ) (q : ℤ) : Prop where
  lt : m < 2 ^ 53
  low : -1074 ≤ q
  high : q ≤ 971
  normal : q ≠ -1074 → 2 ^ 52 ≤ m

def magnitude (m : ℕ) (q : ℤ) : ℚ := m * 2 ^ q

/-- Whether no value of the format is nearer to `v`, and none with an odd significand that another
    one ties with. -/
structure IsNearest (v : ℚ) (m : ℕ) (q : ℤ) : Prop where
  isOfFormat : IsOfFormat m q
  nearest : ∀ {k p}, IsOfFormat k p → |v - magnitude m q| ≤ |v - magnitude k p|
  even : ∀ {k p}, IsOfFormat k p → |v - magnitude k p| = |v - magnitude m q| →
    magnitude k p ≠ magnitude m q → Even m

/-- Halfway from the largest value to the power of two that comes next. -/
def limit : ℚ := (2 ^ 53 - 1 / 2) * 2 ^ (971 : ℤ)

/-- What `± v` is rounded to. -/
inductive IsRounded (negative : Bool) (v : ℚ) : Binary64 → Prop
  | finite {m : ℕ} {q : ℤ} : v < limit → IsNearest v m q →
      IsRounded negative v (.finite negative m q)
  | infinite : limit ≤ v → IsRounded negative v (.infinite negative)

section

variable {v : ℚ} {m k : ℕ} {q p : ℤ}

theorem two_zpow_pos (q : ℤ) : (0 : ℚ) < 2 ^ q := zpow_pos (by norm_num) q

theorem two_zpow_add (q p : ℤ) : (2 : ℚ) ^ (q + p) = 2 ^ q * 2 ^ p :=
  zpow_add₀ (by norm_num) q p

theorem two_zpow_le (h : q ≤ p) : (2 : ℚ) ^ q ≤ 2 ^ p := zpow_le_zpow_right₀ (by norm_num) h

/-- A magnitude in units of a smaller power of two. -/
theorem magnitude_eq (k : ℕ) (h : q ≤ p) :
    magnitude k p = (k * 2 ^ (p - q).toNat : ℕ) * 2 ^ q := by
  obtain ⟨j, rfl⟩ := Int.le.dest h
  have hj : (q + j - q).toNat = j := by omega
  rw [magnitude, hj, two_zpow_add, zpow_natCast]
  push_cast
  ring

/-- A value with a smaller exponent lies below all that are normal. -/
theorem IsOfFormat.magnitude_lt (h : IsOfFormat k p) (hpq : p < q) :
    magnitude k p < 2 ^ 52 * 2 ^ q := by
  have hk : (k : ℚ) < 2 ^ 53 := by exact_mod_cast h.lt
  calc magnitude k p < 2 ^ 53 * 2 ^ p := mul_lt_mul_of_pos_right hk (two_zpow_pos p)
    _ = 2 ^ 52 * 2 ^ (p + 1) := by
      rw [two_zpow_add]
      ring
    _ ≤ 2 ^ 52 * 2 ^ q := mul_le_mul_of_nonneg_left (two_zpow_le (by omega)) (by positivity)

/-- A greater value has no smaller exponent. -/
theorem IsOfFormat.exponent_le (h : IsOfFormat m q) (g : IsOfFormat k p)
    (hle : magnitude m q ≤ magnitude k p) : q ≤ p := by
  by_contra hlow
  have hnormal : ((2 ^ 52 : ℕ) : ℚ) ≤ m := by
    exact_mod_cast h.normal (by have := g.low; omega)
  have hbelow := g.magnitude_lt (not_le.1 hlow)
  have hm := mul_le_mul_of_nonneg_right hnormal (two_zpow_pos q).le
  rw [magnitude] at hle
  push_cast at hm
  linarith

theorem IsOfFormat.eq_of_magnitude (h : IsOfFormat m q) (g : IsOfFormat k p)
    (heq : magnitude m q = magnitude k p) : m = k ∧ q = p := by
  obtain rfl : q = p := le_antisymm (h.exponent_le g heq.le) (g.exponent_le h heq.ge)
  have hcast := mul_right_cancel₀ (two_zpow_pos q).ne' heq
  exact ⟨by exact_mod_cast hcast, rfl⟩

end

/-! There is only one -/

section

variable {v : ℚ} {m k : ℕ} {q p : ℤ} {negative : Bool} {x y : Binary64}

/-- What lies above a value of the format lies at least one unit of its last place above it. -/
theorem IsOfFormat.exists_units (h : IsOfFormat m q) (g : IsOfFormat k p)
    (hlt : magnitude m q < magnitude k p) :
    q ≤ p ∧ magnitude k p = (k * 2 ^ (p - q).toNat : ℕ) * 2 ^ q ∧ m < k * 2 ^ (p - q).toNat := by
  have hle := h.exponent_le g hlt.le
  refine ⟨hle, magnitude_eq k hle, ?_⟩
  rw [magnitude_eq k hle, magnitude] at hlt
  exact_mod_cast lt_of_mul_lt_mul_right hlt (two_zpow_pos q).le

/-- The next value of the format, unless there is none above. -/
theorem IsOfFormat.exists_next (h : IsOfFormat m q) (g : IsOfFormat k p)
    (hlt : magnitude m q < magnitude k p) :
    ∃ j r, IsOfFormat j r ∧ magnitude j r = (m + 1) * 2 ^ q := by
  obtain ⟨hle, -, hunits⟩ := h.exists_units g hlt
  by_cases hroom : m + 1 < 2 ^ 53
  · refine ⟨m + 1, q, ⟨hroom, h.low, h.high, fun hq => ?_⟩, by simp [magnitude]⟩
    exact Nat.le_succ_of_le (h.normal hq)
  · have hm : m + 1 = 2 ^ 53 := by
      have := h.lt
      omega
    have hqp : q ≠ p := by
      rintro rfl
      have := g.lt
      simp only [sub_self, Int.toNat_zero, pow_zero, mul_one] at hunits
      omega
    have := g.high
    have := h.low
    refine ⟨2 ^ 52, q + 1, ⟨by norm_num, by omega, by omega, fun _ => le_rfl⟩, ?_⟩
    have hcast : (m : ℚ) + 1 = 2 ^ 53 := by exact_mod_cast hm
    rw [magnitude, hcast, two_zpow_add]
    push_cast
    ring

/-- Of two values that are equally near and the nearest, one would have an odd significand. -/
theorem IsNearest.not_lt (h : IsNearest v m q) (g : IsNearest v k p) :
    ¬ magnitude m q < magnitude k p := by
  intro hlt
  have hdist := le_antisymm (h.nearest g.isOfFormat) (g.nearest h.isOfFormat)
  have hm : Even m := h.even g.isOfFormat hdist.symm hlt.ne'
  have hk : Even k := g.even h.isOfFormat hdist hlt.ne
  obtain ⟨hle, hvalue, hunits⟩ := h.isOfFormat.exists_units g.isOfFormat hlt
  -- The next value lies in the middle between the two, or it is the other one.
  rcases Nat.lt_or_eq_of_le hunits with hmore | hnext
  · obtain ⟨j, r, hj, hbetween⟩ := h.isOfFormat.exists_next g.isOfFormat hlt
    have hmid : v - magnitude m q = -(v - magnitude k p) :=
      (abs_eq_abs.1 hdist).resolve_left fun heq => hlt.ne (by linarith)
    have hbelow : magnitude m q < magnitude j r := by
      rw [hbetween, magnitude]
      exact mul_lt_mul_of_pos_right (lt_add_one _) (two_zpow_pos q)
    have habove : magnitude j r < magnitude k p := by
      rw [hbetween, hvalue]
      exact mul_lt_mul_of_pos_right (by exact_mod_cast hmore) (two_zpow_pos q)
    have hnearer : |v - magnitude j r| < |v - magnitude m q| := by
      rw [abs_of_pos (by linarith : 0 < v - magnitude m q), abs_lt]
      constructor <;> linarith
    exact absurd (h.nearest hj) (not_le.2 hnearer)
  · have heven : Even (k * 2 ^ (p - q).toNat) := hk.mul_right _
    rw [← hnext] at heven
    exact Nat.not_even_iff_odd.2 hm.add_one heven

theorem IsRounded.unique (h : IsRounded negative v x) (g : IsRounded negative v y) : x = y := by
  cases h with
  | finite hlt hnear =>
    cases g with
    | finite _ gnear =>
      have heq := le_antisymm (not_lt.1 (gnear.not_lt hnear)) (not_lt.1 (hnear.not_lt gnear))
      obtain ⟨rfl, rfl⟩ := hnear.isOfFormat.eq_of_magnitude gnear.isOfFormat heq
      rfl
    | infinite hle => exact absurd hle (not_le.2 hlt)
  | infinite hle =>
    cases g with
    | finite hlt => exact absurd hle (not_le.2 hlt)
    | infinite => rfl

end

/-! How a quotient is rounded -/

theorem abs_sub_div_two_zpow (v : ℚ) (r : ℚ) (q : ℤ) :
    |v - r * 2 ^ q| = |v / 2 ^ q - r| * 2 ^ q := by
  have hq := two_zpow_pos q
  rw [← abs_of_pos hq, ← abs_mul, abs_of_pos hq, sub_mul, div_mul_cancel₀ _ hq.ne']

/-- Whether an exponent is the one at which a quotient has 53 digits, or the least one. -/
structure Fits (v : ℚ) (q : ℤ) : Prop where
  low : -1074 ≤ q
  lt : v / 2 ^ q < 2 ^ 53
  normal : q ≠ -1074 → 2 ^ 52 ≤ v / 2 ^ q

section

variable {v : ℚ} {r k : ℕ} {q p : ℤ}

/-- The nearest integer is as near as any other one, and a half away if another one ties. -/
theorem abs_sub_le_of_half {x : ℚ} (half : |x - r| ≤ 1 / 2) (k : ℕ) :
    |x - r| ≤ |x - k| ∧ (|x - k| = |x - r| → k ≠ r → |x - r| = 1 / 2) := by
  by_cases hk : k = r
  · subst hk
    exact ⟨le_rfl, fun _ hne => absurd rfl hne⟩
  · have hint : (1 : ℤ) ≤ |(k : ℤ) - r| := Int.one_le_abs (by omega)
    have hone : (1 : ℚ) ≤ |(k : ℚ) - r| := by exact_mod_cast hint
    have htriangle : |(k : ℚ) - r| ≤ |x - r| + |x - k| := by
      have h := abs_sub_le (k : ℚ) x r
      rw [abs_sub_comm (k : ℚ) x] at h
      linarith
    exact ⟨by linarith, fun heq _ => by linarith⟩

/-- The nearest multiple of the unit of the last place is as near as any value of the format, and
    a half of the unit away if another one ties. -/
theorem Fits.nearest (fits : Fits v q) (half : |v / 2 ^ q - r| ≤ 1 / 2) (g : IsOfFormat k p) :
    |v - magnitude r q| ≤ |v - magnitude k p| ∧
      (|v - magnitude k p| = |v - magnitude r q| → magnitude k p ≠ magnitude r q →
        |v / 2 ^ q - r| = 1 / 2) := by
  have hpos := two_zpow_pos q
  rcases le_or_gt q p with hle | hlt
  · obtain ⟨hnear, htie⟩ := abs_sub_le_of_half half (k * 2 ^ (p - q).toNat)
    rw [magnitude_eq k hle, magnitude, abs_sub_div_two_zpow, abs_sub_div_two_zpow]
    refine ⟨mul_le_mul_of_nonneg_right hnear hpos.le, fun heq hne => htie ?_ ?_⟩
    · exact mul_right_cancel₀ hpos.ne' heq
    · rintro hk
      exact hne (by rw [hk])
  · -- A value with a smaller exponent is farther away than the least normal one of this exponent.
    obtain ⟨hnear, -⟩ := abs_sub_le_of_half half (2 ^ 52)
    have hnormal : 2 ^ 52 * 2 ^ q ≤ v :=
      (le_div_iff₀ hpos).1 (fits.normal (by have := g.low; omega))
    have hbelow := g.magnitude_lt hlt
    have hnear' : |v - magnitude r q| ≤ |v - 2 ^ 52 * 2 ^ q| := by
      rw [magnitude, abs_sub_div_two_zpow, abs_sub_div_two_zpow]
      exact mul_le_mul_of_nonneg_right (by exact_mod_cast hnear) hpos.le
    rw [abs_of_nonneg (by linarith : 0 ≤ v - 2 ^ 52 * 2 ^ q)] at hnear'
    have hfar : |v - magnitude r q| < |v - magnitude k p| := by
      rw [abs_of_pos (by linarith : 0 < v - magnitude k p)]
      linarith
    exact ⟨hfar.le, fun heq => absurd heq hfar.ne'⟩

end

/-- Twice the remainder that a rounded quotient leaves is at most the divisor. -/
theorem roundDiv_error (n : ℕ) {d : ℕ} (hd : 0 < d) :
    (2 * ((n : ℤ) - d * roundDiv n d)).natAbs ≤ d ∧
      ((2 * ((n : ℤ) - d * roundDiv n d)).natAbs = d → Even (roundDiv n d)) := by
  have hsplit : (d : ℤ) * (n / d : ℕ) + (n % d : ℕ) = n := by exact_mod_cast Nat.div_add_mod n d
  have hmod := Nat.mod_lt n hd
  rw [Nat.even_iff]
  unfold roundDiv
  dsimp only
  generalize n / d = whole at *
  generalize n % d = rest at *
  have hnext : (d : ℤ) * (whole + 1 : ℕ) = d * whole + d := by
    push_cast
    ring
  split
  · omega
  · split
    · rw [hnext]
      omega
    · split
      · omega
      · rw [hnext]
        omega

theorem roundDiv_half (n : ℕ) {d : ℕ} (hd : 0 < d) :
    |(n / d : ℚ) - roundDiv n d| ≤ 1 / 2 ∧
      (|(n / d : ℚ) - roundDiv n d| = 1 / 2 → Even (roundDiv n d)) := by
  have hd' : (0 : ℚ) < d := by exact_mod_cast hd
  have herror : |(n / d : ℚ) - roundDiv n d| =
      (2 * ((n : ℤ) - d * roundDiv n d)).natAbs / (2 * d) := by
    rw [← abs_of_pos (by linarith : (0 : ℚ) < 2 * d), Nat.cast_natAbs]
    push_cast
    rw [← abs_div]
    congr 1
    field_simp
  obtain ⟨hle, heven⟩ := roundDiv_error n hd
  rw [herror, div_le_iff₀ (by linarith), div_eq_iff (by linarith)]
  have hunit : (1 / 2 : ℚ) * (2 * d) = d := by ring
  rw [hunit]
  exact ⟨by exact_mod_cast hle, fun heq => heven (by exact_mod_cast heq)⟩

theorem scaled_pos (n : ℕ) {d : ℕ} (hd : 0 < d) (q : ℤ) : 0 < (scaled n d q).2 := by
  cases q with
  | ofNat q => exact Nat.mul_pos hd (Nat.pow_pos (by decide))
  | negSucc q => exact hd

theorem scaled_div (n d : ℕ) (q : ℤ) :
    ((scaled n d q).1 / (scaled n d q).2 : ℚ) = n / d / 2 ^ q := by
  cases q with
  | ofNat q =>
    simp only [scaled, Int.ofNat_eq_natCast, zpow_natCast, Nat.pow_eq]
    push_cast
    rw [div_div]
  | negSucc q =>
    simp only [scaled, zpow_negSucc, Nat.pow_eq]
    push_cast
    rw [div_inv_eq_mul, div_mul_eq_mul_div]

theorem scaled_lt_iff (n : ℕ) {d : ℕ} (hd : 0 < d) (q : ℤ) :
    (scaled n d q).1 / (scaled n d q).2 < Nat.pow 2 53 ↔ (n / d / 2 ^ q : ℚ) < 2 ^ 53 := by
  have hpos := scaled_pos n hd q
  rw [← scaled_div, Nat.div_lt_iff_lt_mul hpos, div_lt_iff₀ (by exact_mod_cast hpos)]
  exact_mod_cast Iff.rfl

/-- The logarithms of a quotient's parts tell its size up to a factor of two either way. -/
theorem quotient_bounds {n d : ℕ} (hn : 0 < n) (hd : 0 < d) :
    (2 : ℚ) ^ ((Nat.log2 n : ℤ) - Nat.log2 d - 1) ≤ n / d ∧
      (n / d : ℚ) < 2 ^ ((Nat.log2 n : ℤ) - Nat.log2 d + 1) := by
  have hd' : (0 : ℚ) < d := by exact_mod_cast hd
  have hnlow : (2 : ℚ) ^ (Nat.log2 n : ℤ) ≤ n := by
    rw [zpow_natCast]
    exact_mod_cast Nat.log2_self_le hn.ne'
  have hnhigh : (n : ℚ) < 2 ^ ((Nat.log2 n : ℤ) + 1) := by
    exact_mod_cast Nat.lt_log2_self
  have hdlow : (2 : ℚ) ^ (Nat.log2 d : ℤ) ≤ d := by
    rw [zpow_natCast]
    exact_mod_cast Nat.log2_self_le hd.ne'
  have hdhigh : (d : ℚ) ≤ 2 ^ ((Nat.log2 d : ℤ) + 1) := by
    exact_mod_cast Nat.lt_log2_self.le
  constructor
  · rw [le_div_iff₀ hd']
    refine (mul_le_mul_of_nonneg_left hdhigh (two_zpow_pos _).le).trans ?_
    rw [← two_zpow_add]
    exact (two_zpow_le (by omega)).trans hnlow
  · rw [div_lt_iff₀ hd']
    refine lt_of_lt_of_le ?_ (mul_le_mul_of_nonneg_left hdlow (two_zpow_pos _).le)
    rw [← two_zpow_add]
    exact hnhigh.trans_le (two_zpow_le (by omega))

/-- A quotient has as many digits as its logarithms say, or one less. -/
theorem exponentOf_fits {n d : ℕ} (hn : 0 < n) (hd : 0 < d) :
    Fits (n / d) (exponentOf n d) := by
  obtain ⟨hlow, hhigh⟩ := quotient_bounds hn hd
  unfold exponentOf
  dsimp only
  generalize hguess : max (-1074) ((Nat.log2 n : ℤ) - Nat.log2 d - 53) = guess
  have hpos := two_zpow_pos guess
  split
  · rename_i hfits
    refine ⟨by omega, (scaled_lt_iff n hd guess).1 hfits, fun hne => ?_⟩
    have hlead : (Nat.log2 n : ℤ) - Nat.log2 d - 1 = 52 + guess := by omega
    rw [hlead, two_zpow_add] at hlow
    rw [le_div_iff₀ hpos]
    exact_mod_cast hlow
  · rename_i hwide
    have hge := not_lt.1 (mt (scaled_lt_iff n hd guess).2 hwide)
    have hnext : (n / d : ℚ) / 2 ^ (guess + 1) = n / d / 2 ^ guess / 2 := by
      rw [two_zpow_add, zpow_one, div_div _ (2 ^ guess)]
    refine ⟨by omega, ?_, fun _ => ?_⟩
    · have hle := two_zpow_le (show (Nat.log2 n : ℤ) - Nat.log2 d + 1 ≤ 53 + (guess + 1) by omega)
      rw [div_lt_iff₀ (two_zpow_pos _)]
      rw [two_zpow_add 53] at hle
      exact_mod_cast hhigh.trans_le hle
    · rw [hnext]
      linarith

section

variable {v : ℚ} {r : ℕ} {q : ℤ}

/-- A quotient is rounded to a number of 53 digits, or to the first one that has more. -/
theorem Fits.rounded_le (fits : Fits v q) (half : |v / 2 ^ q - r| ≤ 1 / 2) : r ≤ 2 ^ 53 := by
  have hr : (r : ℚ) < (2 ^ 53 + 1 : ℕ) := by
    have := (abs_le.1 half).1
    have := fits.lt
    push_cast
    linarith
  exact Nat.lt_succ_iff.1 (by exact_mod_cast hr)

theorem Fits.le_rounded (fits : Fits v q) (half : |v / 2 ^ q - r| ≤ 1 / 2) (hq : q ≠ -1074) :
    2 ^ 52 ≤ r := by
  have hr : ((2 ^ 52 : ℕ) : ℚ) < (r + 1 : ℕ) := by
    have := (abs_le.1 half).2
    have := fits.normal hq
    push_cast
    linarith
  exact Nat.lt_succ_iff.1 (by exact_mod_cast hr)

/-- Which quotients are rounded to finite values. -/
theorem Fits.lt_limit_iff (fits : Fits v q) (half : |v / 2 ^ q - r| ≤ 1 / 2)
    (even : |v / 2 ^ q - r| = 1 / 2 → Even r) :
    v < limit ↔ q < 971 ∨ q = 971 ∧ r < 2 ^ 53 := by
  have hpos := two_zpow_pos 971
  rcases lt_trichotomy q 971 with hq | rfl | hq
  · have hle := two_zpow_le (show q + 1 ≤ 971 by omega)
    rw [two_zpow_add, zpow_one] at hle
    have hv := (div_lt_iff₀ (two_zpow_pos q)).1 fits.lt
    refine iff_of_true ?_ (.inl hq)
    rw [limit]
    generalize (2 : ℚ) ^ (971 : ℤ) = top at *
    linarith
  · rw [limit, ← div_lt_iff₀ hpos, or_iff_right (lt_irrefl _), and_iff_right rfl]
    constructor
    · intro hlt
      have hr : (r : ℚ) < (2 ^ 53 : ℕ) := by
        have := (abs_le.1 half).1
        push_cast
        linarith
      exact_mod_cast hr
    · intro hr
      have hr' : (r : ℚ) ≤ 2 ^ 53 - 1 := by
        have : ((r + 1 : ℕ) : ℚ) ≤ (2 ^ 53 : ℕ) := by exact_mod_cast hr
        push_cast at this
        linarith
      have hle := (abs_le.1 half).2
      refine lt_of_le_of_ne (by linarith) fun heq => ?_
      -- Halfway past the largest value the even neighbour is the one that is too large.
      have hrmax : (r : ℚ) = (2 ^ 53 - 1 : ℕ) := by
        push_cast
        linarith
      have hodd : r = 2 ^ 53 - 1 := by exact_mod_cast hrmax
      have htie : |v / 2 ^ (971 : ℤ) - r| = 1 / 2 := by
        rw [heq, hrmax]
        norm_num
      exact absurd (even htie) (by rw [hodd]; decide)
  · have hle := two_zpow_le (show 971 + 1 ≤ q by omega)
    rw [two_zpow_add, zpow_one] at hle
    have hv := (le_div_iff₀ (two_zpow_pos q)).1 (fits.normal (by omega))
    refine iff_of_false (not_lt.2 ?_) (by omega)
    rw [limit]
    generalize (2 : ℚ) ^ (971 : ℤ) = top at *
    linarith

theorem Fits.isNearest (fits : Fits v q) (half : |v / 2 ^ q - r| ≤ 1 / 2)
    (even : |v / 2 ^ q - r| = 1 / 2 → Even r) {m : ℕ} {p : ℤ} (h : IsOfFormat m p)
    (same : magnitude m p = magnitude r q) (parity : Even r → Even m) : IsNearest v m p where
  isOfFormat := h
  nearest g := by
    rw [same]
    exact (fits.nearest half g).1
  even g htie hne := by
    rw [same] at htie hne
    exact parity (even ((fits.nearest half g).2 htie hne))

/-- The result of rounding, with a carry into the exponent if there are too many digits. -/
theorem Fits.isRounded (negative : Bool) (fits : Fits v q) (half : |v / 2 ^ q - r| ≤ 1 / 2)
    (even : |v / 2 ^ q - r| = 1 / 2 → Even r) :
    IsRounded negative v
      (let (m, q) := if r = Nat.pow 2 53 then (Nat.pow 2 52, q + 1) else (r, q)
       if q > 971 then infinite negative else finite negative m q) := by
  have hlimit := fits.lt_limit_iff half even
  have hlow := fits.low
  by_cases hcarry : r = Nat.pow 2 53
  · rw [if_pos hcarry]
    dsimp only
    have hr : r = 2 ^ 53 := hcarry
    split
    · exact .infinite (not_lt.1 fun hlt => by have := hlimit.1 hlt; omega)
    · refine .finite (hlimit.2 (by omega)) (fits.isNearest half even
        ⟨by norm_num, by omega, by omega, fun _ => le_rfl⟩ ?_ fun _ => by decide)
      rw [magnitude, magnitude, hr, two_zpow_add]
      push_cast
      ring
  · rw [if_neg hcarry]
    dsimp only
    have hr : r < 2 ^ 53 := lt_of_le_of_ne (fits.rounded_le half) hcarry
    split
    · exact .infinite (not_lt.1 fun hlt => by have := hlimit.1 hlt; omega)
    · exact .finite (hlimit.2 (by omega)) (fits.isNearest half even
        ⟨hr, hlow, by omega, fits.le_rounded half⟩ rfl id)

end

/-- What is less than half of the least positive value is rounded to zero. -/
theorem isRounded_zero (negative : Bool) {v : ℚ} (nonneg : 0 ≤ v)
    (small : v < 1 / 2 * 2 ^ (-1074 : ℤ)) :
    IsRounded negative v (finite negative 0 (-1074)) := by
  have hpos := two_zpow_pos (-1074)
  have hx : v / 2 ^ (-1074 : ℤ) < 1 / 2 := (div_lt_iff₀ hpos).2 small
  have hx' : 0 ≤ v / 2 ^ (-1074 : ℤ) := div_nonneg nonneg hpos.le
  have fits : Fits v (-1074) := ⟨le_rfl, by linarith, fun h => absurd rfl h⟩
  have habs : |v / 2 ^ (-1074 : ℤ) - (0 : ℕ)| < 1 / 2 := by
    rwa [Nat.cast_zero, sub_zero, abs_of_nonneg hx']
  exact fits.isRounded (r := 0) negative habs.le fun heq => absurd heq habs.ne

theorem isRounded_round (negative : Bool) (n : ℕ) {d : ℕ} (hd : 0 < d) :
    IsRounded negative (n / d) (round negative n d) := by
  unfold round
  split
  · rename_i hn
    rw [hn, Nat.cast_zero, zero_div]
    exact isRounded_zero negative le_rfl (mul_pos (by norm_num) (two_zpow_pos _))
  · rename_i hn
    have hpos := scaled_pos n hd (exponentOf n d)
    obtain ⟨hhalf, heven⟩ := roundDiv_half (scaled n d (exponentOf n d)).1 hpos
    rw [scaled_div] at hhalf heven
    exact (exponentOf_fits (Nat.pos_of_ne_zero hn) hd).isRounded negative hhalf heven

/-! Decimal numbers -/

theorem ten_zpow_pos (e : ℤ) : (0 : ℚ) < 10 ^ e := zpow_pos (by norm_num) e

theorem ten_zpow_add (e t : ℤ) : (10 : ℚ) ^ (e + t) = 10 ^ e * 10 ^ t :=
  zpow_add₀ (by norm_num) e t

/-- Ten bits hold three decimal digits. -/
theorem ten_pow_le_two_pow (n : ℕ) : 10 ^ (n * 3 / 10) ≤ 2 ^ n := by
  refine (Nat.pow_le_pow_iff_left (n := 10) (by decide)).1 ?_
  calc (10 ^ (n * 3 / 10)) ^ 10 = 10 ^ (n * 3 / 10 * 10) := (pow_mul ..).symm
    _ ≤ 10 ^ (3 * n) := Nat.pow_le_pow_right (by decide) (by omega)
    _ = 1000 ^ n := by rw [pow_mul]; norm_num
    _ ≤ 1024 ^ n := Nat.pow_le_pow_left (by decide) n
    _ = (2 ^ n) ^ 10 := by rw [← pow_mul, mul_comm, pow_mul]; norm_num

/-- A hundred bits are held by thirty-one decimal digits. -/
theorem two_pow_le_ten_pow (n : ℕ) : 2 ^ n ≤ 10 ^ (n * 31 / 100 + 1) := by
  refine (Nat.pow_le_pow_iff_left (n := 100) (by decide)).1 ?_
  calc (2 ^ n) ^ 100 = (2 ^ 100) ^ n := by rw [← pow_mul, mul_comm, pow_mul]
    _ ≤ (10 ^ 31) ^ n := Nat.pow_le_pow_left (by norm_num) n
    _ = 10 ^ (31 * n) := (pow_mul ..).symm
    _ ≤ 10 ^ ((n * 31 / 100 + 1) * 100) := Nat.pow_le_pow_right (by decide) (by omega)
    _ = (10 ^ (n * 31 / 100 + 1)) ^ 100 := pow_mul ..

theorem two_zpow_le_ten_zpow (n : ℕ) : (2 : ℚ) ^ (3 * n : ℤ) ≤ 10 ^ (n : ℤ) := by
  rw [zpow_mul, zpow_natCast, zpow_natCast]
  exact pow_le_pow_left₀ (by positivity) (by norm_num) n

theorem limit_lt_two_zpow : limit < 2 ^ (1024 : ℤ) := by
  have hpos := two_zpow_pos 971
  rw [limit, show (1024 : ℤ) = 53 + 971 by norm_num, two_zpow_add]
  exact mul_lt_mul_of_pos_right (by norm_num) hpos

theorem limit_le_ten_zpow {e : ℤ} (h : 400 ≤ e) : limit ≤ 10 ^ e :=
  calc limit ≤ 2 ^ (1024 : ℤ) := limit_lt_two_zpow.le
    _ ≤ 2 ^ (3 * (400 : ℕ) : ℤ) := two_zpow_le (by norm_num)
    _ ≤ 10 ^ ((400 : ℕ) : ℤ) := two_zpow_le_ten_zpow 400
    _ ≤ 10 ^ e := zpow_le_zpow_right₀ (by norm_num) (by exact_mod_cast h)

theorem ten_zpow_lt_half {e : ℤ} (h : e ≤ -400) : (10 : ℚ) ^ e < 1 / 2 * 2 ^ (-1074 : ℤ) := by
  have hinv : ((10 : ℚ) ^ ((400 : ℕ) : ℤ))⁻¹ ≤ (2 ^ (3 * (400 : ℕ) : ℤ))⁻¹ :=
    inv_anti₀ (two_zpow_pos _) (two_zpow_le_ten_zpow 400)
  rw [← zpow_neg, ← zpow_neg] at hinv
  calc (10 : ℚ) ^ e ≤ 10 ^ (-((400 : ℕ) : ℤ)) :=
        zpow_le_zpow_right₀ (by norm_num) (by exact_mod_cast h)
    _ ≤ 2 ^ (-(3 * (400 : ℕ) : ℤ)) := hinv
    _ < 2 ^ (-1 + -1074 : ℤ) := zpow_lt_zpow_right₀ (by norm_num) (by norm_num)
    _ = 1 / 2 * 2 ^ (-1074 : ℤ) := by rw [two_zpow_add]; norm_num

/-- A decimal number is rounded once, however long its digits and its exponent are. -/
theorem isRounded_ofDecimal (negative : Bool) (digits : ℕ) (exponent : ℤ) :
    IsRounded negative (digits * 10 ^ exponent) (ofDecimal negative digits exponent) := by
  unfold ofDecimal
  split
  · rename_i hzero
    rw [hzero, Nat.cast_zero, zero_mul]
    exact isRounded_zero negative le_rfl (mul_pos (by norm_num) (two_zpow_pos _))
  rename_i hdigits
  have hexp := ten_zpow_pos exponent
  dsimp only
  split
  · rename_i hlarge
    have hlow : ((10 : ℚ) ^ ((Nat.log2 digits * 3 / 10 : ℕ) : ℤ)) ≤ digits := by
      rw [zpow_natCast]
      exact_mod_cast (ten_pow_le_two_pow _).trans (Nat.log2_self_le hdigits)
    refine .infinite ((limit_le_ten_zpow ?_).trans
      ((ten_zpow_add _ exponent).le.trans (mul_le_mul_of_nonneg_right hlow hexp.le)))
    omega
  split
  · rename_i hsmall
    have hhigh : (digits : ℚ) < 10 ^ (((Nat.log2 digits + 1) * 31 / 100 + 1 : ℕ) : ℤ) := by
      rw [zpow_natCast]
      exact_mod_cast Nat.lt_log2_self.trans_le (two_pow_le_ten_pow _)
    refine isRounded_zero negative (by positivity) ((mul_lt_mul_of_pos_right hhigh hexp).trans ?_)
    rw [← ten_zpow_add]
    exact ten_zpow_lt_half (by omega)
  cases exponent with
  | ofNat e =>
    have h := isRounded_round negative (digits * Nat.pow 10 e) Nat.one_pos
    simpa using h
  | negSucc e =>
    have h := isRounded_round negative digits (Nat.pow_pos (n := e + 1) (show 0 < 10 by decide))
    rw [zpow_negSucc, ← div_eq_mul_inv]
    simpa using h

end Harvest.Binary64
