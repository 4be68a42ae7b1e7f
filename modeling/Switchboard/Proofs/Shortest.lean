import Mathlib.Algebra.Order.Field.Rat
import Mathlib.Algebra.Order.Field.Power
import Mathlib.Data.Nat.Cast.Order.Field
import Mathlib.Tactic.Linarith
import Mathlib.Tactic.NormNum
import Mathlib.Tactic.Positivity
import Mathlib.Tactic.Ring
import Switchboard.Binary64.Shortest

/-!
# The search for the shortest decimal ends with one

Seventeen digits are enough for every float: the multiples of `10 ^ (k - 16)`, where `10 ^ k` is at
most the float, lie closer together than the reals that round to it reach, so one of the two
neighbours of the float rounds to it (`isSome_neighbour?`). The search over digit counts therefore
finds a decimal (`shortest_reads`), and it is never zero.

Fractions are compared as rationals. That `10 ^ k` is at most the float rests on the two estimates
of the logarithm of 2 that the search starts from.
-/

namespace Switchboard.Binary64

/-! ## Fractions as rationals -/

/-- The rational that a fraction stands for. -/
def Ratio.value (r : Ratio) : ℚ := r.num / r.den

theorem Ratio.lt_iff {a b : Ratio} (ha : 0 < a.den) (hb : 0 < b.den) :
    a.lt b = true ↔ a.value < b.value := by
  have ha' : (0 : ℚ) < a.den := by exact_mod_cast ha
  have hb' : (0 : ℚ) < b.den := by exact_mod_cast hb
  rw [lt, decide_eq_true_eq, value, value, div_lt_div_iff₀ ha' hb']
  exact_mod_cast Iff.rfl

theorem den_scaled_pos (n : Nat) {base : Nat} (hbase : 0 < base) (e : Int) :
    0 < (scaled n base e).den := by
  rw [scaled]
  split
  · exact Nat.pow_pos hbase
  · exact Nat.one_pos

theorem value_scaled (n : Nat) {base : Nat} (hbase : 0 < base) (e : Int) :
    (scaled n base e).value = n * (base : ℚ) ^ e := by
  have hne : (base : ℚ) ≠ 0 := by exact_mod_cast hbase.ne'
  rw [scaled, Ratio.value]
  split
  · next hneg =>
    have he : e = -((-e).toNat : Int) := by omega
    conv_rhs => rw [he, zpow_neg, zpow_natCast]
    simp [div_eq_mul_inv]
  · next hneg =>
    have he : e = (e.toNat : Int) := by omega
    conv_rhs => rw [he, zpow_natCast]
    simp

theorem den_decimal_pos (d : Nat) (e : Int) : 0 < (scaled d 10 e).den :=
  den_scaled_pos d (by decide) e

theorem value_decimal (d : Nat) (e : Int) : (scaled d 10 e).value = d * 10 ^ e := by
  rw [value_scaled d (by decide)]
  norm_num

/-! ## Floats -/

/-- The magnitudes that floats have. -/
structure Magnitude.IsFloat (m : Magnitude) : Prop where
  pos : 0 < m.mantissa
  lt : m.mantissa < 2 ^ 53
  tight : m.tight = true → m.mantissa = 2 ^ 52

theorem isFloat_of_magnitude? {f : Float} {m : Magnitude} (h : magnitude? f = some m) :
    m.IsFloat := by
  have hfraction : f.toBits.toNat % 2 ^ 52 < 2 ^ 52 := Nat.mod_lt _ (by decide)
  simp only [magnitude?, Nat.pow_eq] at h
  split at h
  · cases h
  · split at h
    · split at h
      · cases h
      · next hne =>
        obtain rfl := Option.some.inj h
        exact ⟨Nat.pos_of_ne_zero hne, by simp only; omega, by simp⟩
    · obtain rfl := Option.some.inj h
      refine ⟨by simp only; omega, by simp only; omega, fun htight => ?_⟩
      simp only [Bool.and_eq_true, beq_iff_eq] at htight
      simp only [htight.1, Nat.zero_add]

namespace Magnitude

/-- The gap above a float. -/
def ulp (m : Magnitude) : ℚ := 2 ^ m.exponent

/-- The float as a rational. -/
def value (m : Magnitude) : ℚ := m.mantissa * m.ulp

variable {m : Magnitude}

theorem ulp_pos (m : Magnitude) : 0 < m.ulp := by
  rw [ulp]
  positivity

theorem value_pos (hm : m.IsFloat) : 0 < m.value :=
  mul_pos (by exact_mod_cast hm.pos) m.ulp_pos

theorem quarter_ulp (m : Magnitude) : (2 : ℚ) ^ (m.exponent - 2) = m.ulp / 4 := by
  rw [ulp, zpow_sub₀ two_ne_zero]
  norm_num

theorem value_interval_value (m : Magnitude) : m.interval.2.1.value = m.value := by
  have hscaled := value_scaled (4 * m.mantissa) two_pos (m.exponent - 2)
  rw [show m.interval.2.1 = scaled (4 * m.mantissa) 2 (m.exponent - 2) from rfl, hscaled, value]
  push_cast
  rw [quarter_ulp]
  ring

theorem upper_interval_value (m : Magnitude) : m.interval.2.2.value = m.value + m.ulp / 2 := by
  have hscaled := value_scaled (4 * m.mantissa + 2) two_pos (m.exponent - 2)
  rw [show m.interval.2.2 = scaled (4 * m.mantissa + 2) 2 (m.exponent - 2) from rfl, hscaled, value]
  push_cast
  rw [quarter_ulp]
  ring

theorem lower_interval_value (hm : m.IsFloat) :
    m.interval.1.value = m.value - if m.tight then m.ulp / 4 else m.ulp / 2 := by
  have hpos := hm.pos
  have hscaled := value_scaled (if m.tight then 4 * m.mantissa - 1 else 4 * m.mantissa - 2)
    two_pos (m.exponent - 2)
  rw [show m.interval.1 = scaled (if m.tight then 4 * m.mantissa - 1 else 4 * m.mantissa - 2) 2
    (m.exponent - 2) from rfl, hscaled, value]
  push_cast
  rw [quarter_ulp]
  split
  · rw [Nat.cast_sub (by omega)]
    push_cast
    ring
  · rw [Nat.cast_sub (by omega)]
    push_cast
    ring

theorem den_interval_pos (m : Magnitude) :
    0 < m.interval.1.den ∧ 0 < m.interval.2.1.den ∧ 0 < m.interval.2.2.den :=
  ⟨den_scaled_pos _ two_pos _, den_scaled_pos _ two_pos _, den_scaled_pos _ two_pos _⟩

/-- Whatever lies inside the interval rounds to the float. -/
theorem reads_of_between {x : Ratio} (hx : 0 < x.den) (hlower : m.interval.1.value < x.value)
    (hupper : x.value < m.interval.2.2.value) : m.reads x = true := by
  obtain ⟨hlo, -, hhi⟩ := m.den_interval_pos
  have hbelow : m.interval.1.lt x = true := (Ratio.lt_iff hlo hx).mpr hlower
  have habove : x.lt m.interval.2.2 = true := (Ratio.lt_iff hx hhi).mpr hupper
  have hnotBelow : x.lt m.interval.1 = false :=
    Bool.eq_false_iff.mpr fun h => absurd ((Ratio.lt_iff hx hlo).mp h) hlower.not_gt
  have hnotAbove : m.interval.2.2.lt x = false :=
    Bool.eq_false_iff.mpr fun h => absurd ((Ratio.lt_iff hhi hx).mp h) hupper.not_gt
  simp [reads, hbelow, habove, hnotBelow, hnotAbove]

/-- Rounding looks at the value of a fraction only. -/
theorem reads_congr {x y : Ratio} (hx : 0 < x.den) (hy : 0 < y.den) (h : x.value = y.value) :
    m.reads x = m.reads y := by
  have hleft : ∀ {r : Ratio}, 0 < r.den → r.lt x = r.lt y := fun hr => by
    rw [Bool.eq_iff_iff, Ratio.lt_iff hr hx, Ratio.lt_iff hr hy, h]
  have hright : ∀ {r : Ratio}, 0 < r.den → x.lt r = y.lt r := fun hr => by
    rw [Bool.eq_iff_iff, Ratio.lt_iff hx hr, Ratio.lt_iff hy hr, h]
  obtain ⟨hlo, -, hhi⟩ := m.den_interval_pos
  simp only [reads, hleft hlo, hleft hhi, hright hlo, hright hhi]

end Magnitude

variable {m : Magnitude}

/-! ## The two neighbours -/

/-- The greatest multiple of `10 ^ e` up to the float, in units of `10 ^ e`. -/
def Magnitude.floor (m : Magnitude) (e : Int) : Nat :=
  (m.interval.2.1.num * (scaled 1 10 e).den) / (m.interval.2.1.den * (scaled 1 10 e).num)

theorem num_scaled_one_pos (e : Int) : 0 < (scaled 1 10 e).num := by
  rw [scaled]
  split
  · exact Nat.one_pos
  · exact Nat.mul_pos Nat.one_pos (Nat.pow_pos (by decide))

theorem value_unit (e : Int) :
    (10 : ℚ) ^ e = (scaled 1 10 e).num / (scaled 1 10 e).den := by
  have hunit := value_decimal 1 e
  rw [Ratio.value] at hunit
  rw [hunit]
  norm_num

theorem floor_bounds (m : Magnitude) (e : Int) :
    (m.floor e : ℚ) * 10 ^ e ≤ m.value ∧ m.value < (m.floor e + 1 : ℚ) * 10 ^ e := by
  obtain ⟨-, hden, -⟩ := m.den_interval_pos
  have hunitDen := den_decimal_pos 1 e
  have hunitNum := num_scaled_one_pos e
  have hden' : (0 : ℚ) < m.interval.2.1.den := by exact_mod_cast hden
  have hunitDen' : (0 : ℚ) < (scaled 1 10 e).den := by exact_mod_cast hunitDen
  have hle : m.floor e * (m.interval.2.1.den * (scaled 1 10 e).num) ≤
      m.interval.2.1.num * (scaled 1 10 e).den := Nat.div_mul_le_self _ _
  have hlt : m.interval.2.1.num * (scaled 1 10 e).den <
      m.interval.2.1.den * (scaled 1 10 e).num * (m.floor e + 1) :=
    Nat.lt_mul_div_succ _ (Nat.mul_pos hden hunitNum)
  rw [← m.value_interval_value, Ratio.value, value_unit, ← mul_div_assoc, ← mul_div_assoc]
  constructor
  · rw [div_le_div_iff₀ hunitDen' hden']
    have hle' : (m.floor e * (m.interval.2.1.den * (scaled 1 10 e).num) : ℚ) ≤
        m.interval.2.1.num * (scaled 1 10 e).den := by exact_mod_cast hle
    linarith
  · rw [div_lt_div_iff₀ hden' hunitDen']
    have hlt' : (m.interval.2.1.num * (scaled 1 10 e).den : ℚ) <
        m.interval.2.1.den * (scaled 1 10 e).num * (m.floor e + 1) := by exact_mod_cast hlt
    linarith

/-- What the choice between the two neighbours comes to. -/
theorem neighbour?_cases (m : Magnitude) (e : Int) :
    (neighbour? m e = some (m.floor e) ∧ 0 < m.floor e ∧
        m.reads (scaled (m.floor e) 10 e) = true) ∨
      (neighbour? m e = some (m.floor e + 1) ∧ m.reads (scaled (m.floor e + 1) 10 e) = true) ∨
      (neighbour? m e = none ∧
        ¬ (0 < m.floor e ∧ m.reads (scaled (m.floor e) 10 e) = true) ∧
        m.reads (scaled (m.floor e + 1) 10 e) = false) := by
  have hfloor : (m.interval.2.1.num * (scaled 1 10 e).den) /
      (m.interval.2.1.den * (scaled 1 10 e).num) = m.floor e := rfl
  simp only [neighbour?, hfloor]
  generalize m.floor e = low
  cases hhigh : m.reads (scaled (low + 1) 10 e) with
  | true =>
    by_cases hlow : 0 < low ∧ m.reads (scaled low 10 e) = true
    · obtain ⟨hpos, hreads⟩ := hlow
      simp only [hpos, hreads, decide_true, Bool.and_self, if_true]
      split
      · exact .inl ⟨rfl, trivial, trivial⟩
      · split
        · exact .inr (.inl ⟨rfl, trivial⟩)
        · split
          · exact .inl ⟨rfl, trivial, trivial⟩
          · exact .inr (.inl ⟨rfl, trivial⟩)
    · have hfalse : (decide (0 < low) && m.reads (scaled low 10 e)) = false := by
        rw [Bool.eq_false_iff]
        simpa using hlow
      simp [hfalse]
  | false =>
    by_cases hlow : 0 < low ∧ m.reads (scaled low 10 e) = true
    · simp [hlow.1, hlow.2]
    · have hfalse : (decide (0 < low) && m.reads (scaled low 10 e)) = false := by
        rw [Bool.eq_false_iff]
        simpa using hlow
      simp [hfalse, hlow]

theorem neighbour?_eq_some {e : Int} {d : Nat} (h : neighbour? m e = some d) :
    0 < d ∧ m.reads (scaled d 10 e) = true := by
  rcases neighbour?_cases m e with ⟨heq, hpos, hreads⟩ | ⟨heq, hreads⟩ | ⟨heq, -, -⟩
  · rw [heq] at h
    exact Option.some.inj h ▸ ⟨hpos, hreads⟩
  · rw [heq] at h
    exact Option.some.inj h ▸ ⟨Nat.succ_pos _, hreads⟩
  · rw [heq] at h
    cases h

theorem floor_pos (hm : m.IsFloat) {e : Int} (he : (10 : ℚ) ^ e * 10 ^ 16 ≤ m.value) :
    0 < m.floor e := by
  have hvalue := Magnitude.value_pos hm
  refine Nat.pos_of_ne_zero fun hzero => ?_
  have hlt := (floor_bounds m e).2
  rw [hzero] at hlt
  push_cast at hlt
  linarith

/-- Where the grid is fine enough, one of the two neighbours rounds to the float. -/
theorem reads_floor_or_succ (hm : m.IsFloat) {e : Int} (he : (10 : ℚ) ^ e * 10 ^ 16 ≤ m.value) :
    m.reads (scaled (m.floor e) 10 e) = true ∨ m.reads (scaled (m.floor e + 1) 10 e) = true := by
  have hulp := m.ulp_pos
  obtain ⟨hle, hlt⟩ := floor_bounds m e
  have hlow := value_decimal (m.floor e) e
  have hhigh := value_decimal (m.floor e + 1) e
  push_cast at hhigh
  have hlower := Magnitude.lower_interval_value hm
  have hupper := Magnitude.upper_interval_value m
  cases htight : m.tight with
  | true =>
    -- the gap above is as wide as ever, and the grid is narrower than half of it
    have hmantissa : (m.mantissa : ℚ) = 2 ^ 52 := by exact_mod_cast hm.tight htight
    rw [Magnitude.value, hmantissa] at he
    rw [htight, if_pos rfl] at hlower
    refine .inr (Magnitude.reads_of_between (den_decimal_pos _ e) ?_ ?_)
    · rw [hlower, hhigh]
      linarith
    · rw [hupper, hhigh]
      linarith
  | false =>
    -- the two neighbours are less than one gap apart, so one is within half a gap
    have hmantissa : (m.mantissa : ℚ) < 2 ^ 53 := by exact_mod_cast hm.lt
    have hgrid : (10 : ℚ) ^ e * 10 ^ 16 < 2 ^ 53 * m.ulp :=
      lt_of_le_of_lt he (mul_lt_mul_of_pos_right hmantissa hulp)
    rw [htight, if_neg (by simp)] at hlower
    by_cases hnear : m.value - m.ulp / 2 < m.floor e * 10 ^ e
    · refine .inl (Magnitude.reads_of_between (den_decimal_pos _ e) ?_ ?_)
      · rw [hlower, hlow]
        exact hnear
      · rw [hupper, hlow]
        linarith
    · refine .inr (Magnitude.reads_of_between (den_decimal_pos _ e) ?_ ?_)
      · rw [hlower, hhigh]
        linarith
      · rw [hupper, hhigh]
        linarith

theorem isSome_neighbour? (hm : m.IsFloat) {e : Int} (he : (10 : ℚ) ^ e * 10 ^ 16 ≤ m.value) :
    (neighbour? m e).isSome = true := by
  rcases neighbour?_cases m e with ⟨heq, -, -⟩ | ⟨heq, -⟩ | ⟨-, hnotLow, hnotHigh⟩
  · rw [heq]
    rfl
  · rw [heq]
    rfl
  · rcases reads_floor_or_succ hm he with h | h
    · exact absurd ⟨floor_pos hm he, h⟩ hnotLow
    · rw [hnotHigh] at h
      cases h

/-! ## The number of digits before the point -/

/-- From one comparison of powers follow those that are coarser. -/
theorem pow_le_pow_of_ratio {a b s t q n : Nat} (ha : 0 < a) (ht : t ≠ 0) (hbase : a ^ s ≤ b ^ t)
    (h : t * q ≤ s * n) : a ^ q ≤ b ^ n := by
  refine (Nat.pow_le_pow_iff_left ht).mp ?_
  calc (a ^ q) ^ t = a ^ (t * q) := by rw [← Nat.pow_mul, Nat.mul_comm]
    _ ≤ a ^ (s * n) := Nat.pow_le_pow_right ha h
    _ = (a ^ s) ^ n := Nat.pow_mul ..
    _ ≤ (b ^ t) ^ n := Nat.pow_le_pow_left hbase n
    _ = (b ^ n) ^ t := by rw [← Nat.pow_mul, ← Nat.pow_mul, Nat.mul_comm]

theorem ten_pow_le_two_pow {q n : Nat} (h : 100000 * q ≤ 30102 * n) : 10 ^ q ≤ 2 ^ n := by
  have hbase : 10 ^ 30102 ≤ 2 ^ 100000 := by decide +kernel
  exact pow_le_pow_of_ratio (by decide) (by decide) hbase h

theorem two_pow_le_ten_pow {q n : Nat} (h : 30103 * n ≤ 100000 * q) : 2 ^ n ≤ 10 ^ q := by
  have hbase : 2 ^ 100000 ≤ 10 ^ 30103 := by decide +kernel
  exact pow_le_pow_of_ratio (by decide) (by decide) hbase h

/-- The search for the decimal exponent starts low enough. -/
theorem estimate_le (hm : m.IsFloat) : (10 : ℚ) ^ estimate m ≤ m.value := by
  have hlog : (2 : ℚ) ^ m.mantissa.log2 ≤ m.mantissa := by
    exact_mod_cast Nat.log2_self_le hm.pos.ne'
  have hbits : (2 : ℚ) ^ ((m.mantissa.log2 : Int) + m.exponent) ≤ m.value := by
    rw [zpow_add₀ two_ne_zero, zpow_natCast]
    exact mul_le_mul_of_nonneg_right hlog m.ulp_pos.le
  refine le_trans ?_ hbits
  simp only [estimate]
  generalize (m.mantissa.log2 : Int) + m.exponent = bits
  split
  · next hneg =>
    obtain ⟨n, rfl⟩ : ∃ n : Nat, bits = -(n : Int) := ⟨bits.natAbs, by omega⟩
    obtain ⟨q, hq⟩ : ∃ q : Nat, -(n : Int) * 30103 / 100000 - 1 = -(q : Int) :=
      ⟨(-(n : Int) * 30103 / 100000 - 1).natAbs, by omega⟩
    have hpow : (2 : ℚ) ^ n ≤ 10 ^ q := by exact_mod_cast two_pow_le_ten_pow (by omega)
    rw [hq, zpow_neg, zpow_neg, zpow_natCast, zpow_natCast]
    exact inv_anti₀ (by positivity) hpow
  · next hneg =>
    obtain ⟨n, rfl⟩ : ∃ n : Nat, bits = n := ⟨bits.toNat, by omega⟩
    obtain ⟨q, hq⟩ : ∃ q : Nat, (n : Int) * 30102 / 100000 = q :=
      ⟨((n : Int) * 30102 / 100000).toNat, by omega⟩
    have hpow : (10 : ℚ) ^ q ≤ 2 ^ n := by exact_mod_cast ten_pow_le_two_pow (by omega)
    rw [hq, zpow_natCast]
    refine le_trans (zpow_le_zpow_right₀ (by norm_num) (Int.sub_le_self _ (by decide))) ?_
    rw [zpow_natCast]
    exact hpow

theorem decimalExponent_le {x : Ratio} (hx : 0 < x.den) {start : Int}
    (h : (10 : ℚ) ^ start ≤ x.value) (fuel : Nat) :
    (10 : ℚ) ^ decimalExponent x start fuel ≤ x.value := by
  induction fuel generalizing start with
  | zero => exact h
  | succ fuel ih =>
    rw [decimalExponent]
    split
    · exact h
    · next hnext =>
      refine ih ?_
      rw [Ratio.lt_iff hx (den_decimal_pos 1 _), value_decimal, not_lt] at hnext
      simpa using hnext

/-! ## The shortest decimal -/

/-- The search finds a decimal that is not zero and rounds to the float. -/
theorem shortest_reads (hm : m.IsFloat) :
    0 < (shortest m).1 ∧ m.reads (scaled (shortest m).1 10 (shortest m).2) = true := by
  obtain ⟨-, hden, -⟩ := m.den_interval_pos
  have hk : (10 : ℚ) ^ decimalExponent m.interval.2.1 (estimate m) 4 ≤ m.value := by
    have hstart := estimate_le hm
    rw [← m.value_interval_value] at hstart ⊢
    exact decimalExponent_le hden hstart 4
  simp only [shortest]
  generalize decimalExponent m.interval.2.1 (estimate m) 4 = k at hk
  cases hfound : (List.range 17).findSome? fun (n : Nat) =>
      (neighbour? m (k - (n : Int))).map (·, k - (n : Int)) with
  | none =>
    -- with seventeen digits there is a neighbour, so the search cannot have failed
    have hnone := List.findSome?_eq_none_iff.mp hfound 16 (by decide)
    have hsome : (neighbour? m (k - 16)).isSome = true := by
      refine isSome_neighbour? hm (le_of_eq_of_le ?_ hk)
      rw [zpow_sub₀ (by norm_num : (10 : ℚ) ≠ 0)]
      norm_num
    rw [Option.map_eq_none_iff] at hnone
    rw [show ((16 : Nat) : Int) = 16 from rfl] at hnone
    rw [hnone] at hsome
    cases hsome
  | some found =>
    obtain ⟨n, -, hn⟩ := List.exists_of_findSome?_eq_some hfound
    obtain ⟨d, hd, rfl⟩ := Option.map_eq_some_iff.mp hn
    obtain ⟨hpos, hreads⟩ := neighbour?_eq_some hd
    simp only [Option.getD_some]
    split
    · next hzero =>
      -- a zero at the end goes into the exponent, which leaves the value
      refine ⟨by omega, ?_⟩
      rw [← hreads]
      refine Magnitude.reads_congr (den_decimal_pos _ _) (den_decimal_pos _ _) ?_
      have hten : (d : ℚ) = 10 * (d / 10 : Nat) := by
        exact_mod_cast (Nat.mul_div_cancel' (Nat.dvd_of_mod_eq_zero hzero)).symm
      rw [value_decimal, value_decimal, hten, zpow_add₀ (by norm_num : (10 : ℚ) ≠ 0)]
      ring
    · exact ⟨hpos, hreads⟩

end Switchboard.Binary64
