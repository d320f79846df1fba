import Mathlib.Data.Int.Log
import Mathlib.Data.Rat.Floor
import Mathlib.Algebra.Order.Field.Power
import Mathlib.Tactic.Linarith
import Mathlib.Tactic.NormNum
import Mathlib.Tactic.Positivity
import Mathlib.Tactic.FieldSimp
import Mathlib.Tactic.Ring
import Mathlib.Tactic.GCongr

namespace SignificantDigits

-- Ties go to the even neighbour.
def roundHalfEven (q : ℚ) : ℤ :=
  if q - ⌊q⌋ < 1/2 then ⌊q⌋
  else if 1/2 < q - ⌊q⌋ then ⌊q⌋+1
  else if ⌊q⌋ % 2 = 0 then ⌊q⌋ else ⌊q⌋+1

-- Ties go away from zero.
def roundHalfUp (q : ℚ) : ℤ := if 0 ≤ q then ⌊q+1/2⌋ else -⌊-q+1/2⌋

-- The unit in the last place of a number written with `p` digits in base `b`.
def ulp (b p : ℕ) (q : ℚ) : ℚ := (b : ℚ)^(Int.log b |q| - (p-1 : ℤ))

-- The nearest number with at most `p` significant digits in base `b`. Exponents
-- are unbounded: overflow and subnormal results are outside this format.
def roundTo (b p : ℕ) (q : ℚ) : ℚ :=
  if q = 0 then 0 else roundHalfEven (q / ulp b p q) * ulp b p q

@[simp] theorem roundHalfEven_int (n : ℤ) : roundHalfEven n = n := by simp [roundHalfEven]
@[simp] theorem roundHalfUp_int (n : ℤ) : roundHalfUp n = n := by
  have half : ⌊(1/2 : ℚ)⌋ = 0 := by norm_num
  by_cases sign : (0 : ℚ) ≤ n
  · rw [roundHalfUp,if_pos sign,Int.floor_intCast_add,half,add_zero]
  · rw [roundHalfUp,if_neg sign,← Int.cast_neg,Int.floor_intCast_add,half,add_zero,neg_neg]

theorem roundHalfEven_error (q : ℚ) : |(roundHalfEven q : ℚ) - q| ≤ 1/2 := by
  have low := Int.floor_le q
  have high := Int.lt_floor_add_one q
  unfold roundHalfEven
  split_ifs <;> push_cast <;> rw [abs_le] <;> constructor <;> linarith

theorem roundHalfEven_nonneg (nonneg : 0 ≤ q) : 0 ≤ roundHalfEven q := by
  have base : 0 ≤ ⌊q⌋ := Int.floor_nonneg.mpr nonneg
  unfold roundHalfEven
  split_ifs <;> omega

theorem roundHalfUp_nonneg (nonneg : 0 ≤ q) : 0 ≤ roundHalfUp q := by
  rw [roundHalfUp,if_pos nonneg]
  exact Int.floor_nonneg.mpr (by linarith)

theorem le_roundHalfEven {q : ℚ} {n : ℤ} (le : n ≤ q) : n ≤ roundHalfEven q := by
  have base : n ≤ ⌊q⌋ := Int.le_floor.mpr le
  unfold roundHalfEven
  split_ifs <;> omega

theorem roundHalfEven_le {q : ℚ} {n : ℤ} (le : q ≤ n) : roundHalfEven q ≤ n := by
  have low := Int.floor_le q
  have base : ⌊q⌋ ≤ n := Int.floor_le_iff.mpr (le.trans_lt (lt_add_one _))
  rcases base.lt_or_eq with below | reached
  · unfold roundHalfEven
    split_ifs <;> omega
  · have whole : q = n := le_antisymm le (by rw [← reached]; exact low)
    rw [whole,roundHalfEven_int]

theorem lt_roundHalfUp {q : ℚ} {n : ℤ} (nonneg : 0 ≤ q) : n < roundHalfUp q ↔ n + 1/2 ≤ q := by
  rw [roundHalfUp,if_pos nonneg,← Int.add_one_le_iff,Int.le_floor]
  push_cast
  constructor <;> intro le <;> linarith

theorem roundHalfUp_le {q : ℚ} {n : ℤ} (nonneg : 0 ≤ q) (below : q < n + 1/2) : roundHalfUp q ≤ n := by
  rw [roundHalfUp,if_pos nonneg]
  apply Int.lt_add_one_iff.mp
  apply Int.floor_lt.mpr
  push_cast
  linarith

theorem roundHalfUp_mono (nonneg : 0 ≤ q) (le : q ≤ r) : roundHalfUp q ≤ roundHalfUp r := by
  rw [roundHalfUp,roundHalfUp,if_pos nonneg,if_pos (nonneg.trans le)]
  exact Int.floor_le_floor (by linarith)

section Base
variable {b p : ℕ}

theorem ulp_pos (base : 1 < b) (q : ℚ) : 0 < ulp b p q := by
  unfold ulp
  have : (0 : ℚ) < b := by exact_mod_cast Nat.lt_trans Nat.zero_lt_one base
  positivity

@[simp] theorem roundTo_zero : roundTo b p 0 = 0 := by simp [roundTo]

theorem roundTo_nonneg (base : 1 < b) (nonneg : 0 ≤ q) : 0 ≤ roundTo b p q := by
  unfold roundTo
  split
  · exact le_refl _
  · have scaled : 0 ≤ q / ulp b p q := div_nonneg nonneg (ulp_pos base q).le
    exact mul_nonneg (by exact_mod_cast roundHalfEven_nonneg scaled) (ulp_pos base q).le

theorem roundTo_error (base : 1 < b) (q : ℚ) :
    |roundTo b p q - q| ≤ |q| * ((b : ℚ)^(1-p : ℤ) / 2) := by
  by_cases zero : q = 0
  · simp [zero]
  have unit := ulp_pos (p := p) base q
  have basePos : (0 : ℚ) < b := by exact_mod_cast Nat.lt_trans Nat.zero_lt_one base
  have split : q = q / ulp b p q * ulp b p q := (div_mul_cancel₀ q unit.ne').symm
  have gap : roundTo b p q - q = (roundHalfEven (q / ulp b p q) - q / ulp b p q) * ulp b p q := by
    rw [roundTo,if_neg zero,sub_mul,← split]
  have leading : (b : ℚ)^Int.log b |q| ≤ |q| := Int.zpow_log_le_self base (abs_pos.mpr zero)
  have unitEq : ulp b p q = (b : ℚ)^Int.log b |q| * (b : ℚ)^(1-p : ℤ) := by
    rw [ulp,← zpow_add₀ basePos.ne']
    congr 1
    ring
  calc |roundTo b p q - q|
      = |(roundHalfEven (q / ulp b p q) : ℚ) - q / ulp b p q| * ulp b p q := by
        rw [gap,abs_mul,abs_of_pos unit]
    _ ≤ 1/2 * ulp b p q := by gcongr; exact roundHalfEven_error _
    _ ≤ |q| * ((b : ℚ)^(1-p : ℤ) / 2) := by
        rw [unitEq]
        have shrink : (0 : ℚ) ≤ (b : ℚ)^(1-p : ℤ) := by positivity
        nlinarith

theorem roundTo_exact (base : 1 < b) (m k : ℤ) (small : |m| < (b : ℤ)^p) :
    roundTo b p (m * (b : ℚ)^k) = m * (b : ℚ)^k := by
  by_cases zero : (m : ℚ) * (b : ℚ)^k = 0
  · rw [zero,roundTo_zero]
  have basePos : (0 : ℚ) < b := by exact_mod_cast Nat.lt_trans Nat.zero_lt_one base
  have size : |(m : ℚ) * (b : ℚ)^k| < (b : ℚ)^(p+k) := by
    rw [abs_mul,abs_of_pos (zpow_pos basePos k),zpow_add₀ basePos.ne',zpow_natCast]
    gcongr
    exact_mod_cast small
  have logBound : Int.log b |(m : ℚ) * (b : ℚ)^k| < p+k :=
    (Int.lt_zpow_iff_log_lt base (abs_pos.mpr zero)).mp size
  obtain ⟨d,shift⟩ : ∃ d : ℕ, k - (Int.log b |(m : ℚ) * (b : ℚ)^k| - (p-1 : ℤ)) = d :=
    Int.eq_ofNat_of_zero_le (by omega)
  have whole : (m : ℚ) * (b : ℚ)^k / ulp b p (m * (b : ℚ)^k) = ((m * (b : ℤ)^d : ℤ) : ℚ) := by
    rw [ulp,mul_div_assoc,← zpow_sub₀ basePos.ne',shift,zpow_natCast]
    push_cast
    rfl
  rw [roundTo,if_neg zero,whole,roundHalfEven_int,← whole,div_mul_cancel₀ _ (ulp_pos base _).ne']

theorem roundTo_le (base : 1 < b) (nonneg : 0 ≤ q) :
    roundTo b p q ≤ q * (1 + (b : ℚ)^(1-p : ℤ) / 2) := by
  have bound := (abs_le.mp (roundTo_error (p := p) base q)).2
  rw [abs_of_nonneg nonneg] at bound
  linarith

theorem le_roundTo (base : 1 < b) (nonneg : 0 ≤ q) :
    q * (1 - (b : ℚ)^(1-p : ℤ) / 2) ≤ roundTo b p q := by
  have bound := (abs_le.mp (roundTo_error (p := p) base q)).1
  rw [abs_of_nonneg nonneg] at bound
  linarith

theorem slack_le_one (base : 1 < b) (digits : 0 < p) : (b : ℚ)^(1-p : ℤ) / 2 ≤ 1 := by
  have baseGe : (1 : ℚ) ≤ b := by exact_mod_cast base.le
  have shrink : (b : ℚ)^(1-p : ℤ) ≤ 1 := zpow_le_one_of_nonpos₀ baseGe (by omega)
  linarith

def HasDigits (b p : ℕ) (q : ℚ) : Prop := ∃ m k : ℤ, |m| < (b : ℤ)^p ∧ q = m * (b : ℚ)^k

theorem hasDigits_zero (base : 1 < b) : HasDigits b p 0 := by
  have basePos : (0 : ℤ) < b := by exact_mod_cast Nat.lt_trans Nat.zero_lt_one base
  exact ⟨0,0,by rw [abs_zero]; positivity,by simp⟩

theorem hasDigits_int (n : ℤ) (small : |n| < (b : ℤ)^p) : HasDigits b p n := ⟨n,0,small,by simp⟩

theorem roundTo_kept (base : 1 < b) (kept : HasDigits b p q) : roundTo b p q = q := by
  obtain ⟨m,k,small,rfl⟩ := kept
  exact roundTo_exact base m k small

theorem hasDigits_shift (base : 1 < b) (kept : HasDigits b p q) (shift : ℤ) : HasDigits b p (q * (b : ℚ)^shift) := by
  have basePos : (0 : ℚ) < b := by exact_mod_cast Nat.lt_trans Nat.zero_lt_one base
  obtain ⟨m,k,small,rfl⟩ := kept
  exact ⟨m,k+shift,small,by rw [zpow_add₀ basePos.ne',mul_assoc]⟩

-- Rounding leaves at most `p` digits; a carry out of the first one leaves a power of
-- the base.
theorem roundTo_hasDigits (base : 1 < b) (digits : 0 < p) (nonneg : 0 ≤ q) : HasDigits b p (roundTo b p q) := by
  have basePos : (0 : ℚ) < b := by exact_mod_cast Nat.lt_trans Nat.zero_lt_one base
  by_cases zero : q = 0
  · rw [zero,roundTo_zero]
    exact hasDigits_zero base
  have pos : 0 < q := lt_of_le_of_ne nonneg (Ne.symm zero)
  have unit := ulp_pos (p := p) base q
  have leading : q < (b : ℚ)^(Int.log b q + 1) := Int.lt_zpow_succ_log_self base q
  have width : (b : ℚ)^(Int.log b q + 1) = (((b : ℤ)^p : ℤ) : ℚ) * ulp b p q := by
    rw [ulp,abs_of_pos pos]
    push_cast
    rw [← zpow_natCast,← zpow_add₀ basePos.ne']
    congr 1
    ring
  have low : 0 ≤ roundHalfEven (q / ulp b p q) := roundHalfEven_nonneg (div_nonneg nonneg unit.le)
  have high : roundHalfEven (q / ulp b p q) ≤ (b : ℤ)^p := by
    apply roundHalfEven_le
    rw [div_le_iff₀ unit,← width]
    exact leading.le
  rw [roundTo,if_neg zero]
  rcases high.lt_or_eq with below | carried
  · exact ⟨_,_,by rwa [abs_of_nonneg low],rfl⟩
  · refine ⟨1,Int.log b q + 1,?_,?_⟩
    · rw [abs_one]
      exact one_lt_pow₀ (by exact_mod_cast base) digits.ne'
    · rw [carried,width,Int.cast_one,one_mul]

theorem pow_le_roundTo (base : 1 < b) (digits : 0 < p) {k : ℤ} (le : (b : ℚ)^k ≤ q) :
    (b : ℚ)^k ≤ roundTo b p q := by
  have basePos : (0 : ℚ) < b := by exact_mod_cast Nat.lt_trans Nat.zero_lt_one base
  have pos : 0 < q := (zpow_pos basePos k).trans_le le
  have scale : k ≤ Int.log b q := (Int.zpow_le_iff_le_log base pos).mp le
  have leading : (b : ℚ)^Int.log b q ≤ q := Int.zpow_log_le_self base pos
  have unit := ulp_pos (p := p) base q
  have mantissa : (b : ℚ)^Int.log b q = ((b^(p-1) : ℕ) : ℤ) * ulp b p q := by
    rw [ulp,abs_of_pos pos,Int.cast_natCast,Nat.cast_pow,← zpow_natCast,← zpow_add₀ basePos.ne']
    congr 1
    omega
  calc (b : ℚ)^k
      ≤ (b : ℚ)^Int.log b q := zpow_le_zpow_right₀ (by exact_mod_cast base.le) scale
    _ = ((b^(p-1) : ℕ) : ℤ) * ulp b p q := mantissa
    _ ≤ roundTo b p q := by
        rw [roundTo,if_neg pos.ne']
        have whole : (((b^(p-1) : ℕ) : ℤ) : ℚ) ≤ q / ulp b p q := by
          rw [le_div_iff₀ unit,← mantissa]
          exact leading
        exact mul_le_mul_of_nonneg_right (by exact_mod_cast le_roundHalfEven whole) unit.le

def roundedSum (b p : ℕ) (start : ℚ) (terms : List ℚ) : ℚ :=
  terms.foldl (fun total term => roundTo b p (total+term)) start

theorem roundedSum_nonneg (base : 1 < b) (begun : 0 ≤ start) (terms : ∀ term ∈ list, (0 : ℚ) ≤ term) :
    0 ≤ roundedSum b p start list := by
  induction list generalizing start with
  | nil => exact begun
  | cons term rest ih =>
    have head := terms term (List.mem_cons_self ..)
    exact ih (roundTo_nonneg base (add_nonneg begun head)) fun other member =>
      terms other (List.mem_cons_of_mem _ member)

theorem roundedSum_le (base : 1 < b) (begun : 0 ≤ start) (terms : ∀ term ∈ list, (0 : ℚ) ≤ term) :
    roundedSum b p start list ≤ (start + list.sum) * (1 + (b : ℚ)^(1-p : ℤ) / 2)^list.length := by
  have basePos : (0 : ℚ) < b := by exact_mod_cast Nat.lt_trans Nat.zero_lt_one base
  have slack : (0 : ℚ) ≤ (b : ℚ)^(1-p : ℤ) / 2 := by positivity
  generalize unit : (b : ℚ)^(1-p : ℤ) / 2 = ε at slack ⊢
  induction list generalizing start with
  | nil => simp [roundedSum]
  | cons term rest ih =>
    have head := terms term (List.mem_cons_self ..)
    have later : ∀ other ∈ rest, 0 ≤ other := fun other member => terms other (List.mem_cons_of_mem _ member)
    have sum : 0 ≤ rest.sum := List.sum_nonneg later
    have first := roundTo_le (p := p) base (add_nonneg begun head)
    rw [unit] at first
    calc roundedSum b p start (term :: rest)
        ≤ (roundTo b p (start+term) + rest.sum) * (1+ε)^rest.length :=
          ih (roundTo_nonneg base (add_nonneg begun head)) later
      _ ≤ ((start+term) * (1+ε) + rest.sum * (1+ε)) * (1+ε)^rest.length := by
          gcongr
          nlinarith
      _ = (start + (term :: rest).sum) * (1+ε)^(term :: rest).length := by
          rw [List.sum_cons,List.length_cons]
          ring

theorem le_roundedSum (base : 1 < b) (digits : 0 < p) (begun : 0 ≤ start) (terms : ∀ term ∈ list, (0 : ℚ) ≤ term) :
    (start + list.sum) * (1 - (b : ℚ)^(1-p : ℤ) / 2)^list.length ≤ roundedSum b p start list := by
  have basePos : (0 : ℚ) < b := by exact_mod_cast Nat.lt_trans Nat.zero_lt_one base
  have slack : (0 : ℚ) ≤ (b : ℚ)^(1-p : ℤ) / 2 := by positivity
  have atMost := slack_le_one (p := p) base digits
  generalize unit : (b : ℚ)^(1-p : ℤ) / 2 = ε at slack atMost ⊢
  induction list generalizing start with
  | nil => simp [roundedSum]
  | cons term rest ih =>
    have head := terms term (List.mem_cons_self ..)
    have later : ∀ other ∈ rest, 0 ≤ other := fun other member => terms other (List.mem_cons_of_mem _ member)
    have sum : 0 ≤ rest.sum := List.sum_nonneg later
    have first := le_roundTo (p := p) base (add_nonneg begun head)
    have factor : 0 ≤ 1-ε := by linarith
    rw [unit] at first
    calc (start + (term :: rest).sum) * (1-ε)^(term :: rest).length
        = ((start+term) * (1-ε) + rest.sum * (1-ε)) * (1-ε)^rest.length := by
          rw [List.sum_cons,List.length_cons]
          ring
      _ ≤ (roundTo b p (start+term) + rest.sum) * (1-ε)^rest.length := by
          gcongr
          nlinarith
      _ ≤ roundedSum b p start (term :: rest) := ih (roundTo_nonneg base (add_nonneg begun head)) later

theorem roundedSum_hasDigits (base : 1 < b) (digits : 0 < p) (begun : 0 ≤ start) (written : HasDigits b p start)
    (terms : ∀ term ∈ list, (0 : ℚ) ≤ term) : HasDigits b p (roundedSum b p start list) := by
  induction list generalizing start with
  | nil => exact written
  | cons term rest ih =>
    have head := add_nonneg begun (terms term (List.mem_cons_self ..))
    exact ih (roundTo_nonneg base head) (roundTo_hasDigits base digits head) fun other member =>
      terms other (List.mem_cons_of_mem _ member)

theorem roundedSum_kept (base : 1 < b) (kept : ∀ before, before <+: list → HasDigits b p (start + before.sum)) :
    roundedSum b p start list = start + list.sum := by
  induction list generalizing start with
  | nil => simp [roundedSum]
  | cons term rest ih =>
    have first : roundTo b p (start+term) = start+term := by
      have single := kept [term] (List.prefix_append [term] rest)
      rw [List.sum_singleton] at single
      exact roundTo_kept base single
    show roundedSum b p (roundTo b p (start+term)) rest = _
    rw [first,List.sum_cons,← add_assoc]
    refine ih fun before leads => ?_
    have longer := kept (term :: before) (List.cons_prefix_cons.mpr ⟨rfl,leads⟩)
    rwa [List.sum_cons,← add_assoc] at longer

end Base

example : roundTo 10 3 (2/3) = 667/1000 := by decide +kernel
example : roundTo 2 53 (1/10) = 3602879701896397/36028797018963968 := by decide +kernel

end SignificantDigits
