/-
The average that a run exports.

A quotient of whole numbers is a finite floating-point number unless it is out of range,
which its binary logarithm tells (`isFinite_ofRatio`).  As no function has more instances
than the scan window has room for, the average number of instances is in range, and the
counters have an exported form (`isSome_toJson?`).
-/
import FuzzSynth.Instance.Instantiate
import FuzzSynth.Statistics

namespace FuzzSynth

namespace Binary64

variable {num den : Nat}

/-! ## Quotients in range -/

/-- The power of two of a quotient is at most what the logarithms suggest. -/
theorem exponentOf_le (num den : Nat) :
    exponentOf num den ≤ max ((num.log2 : Int) - (den.log2 : Int) - 52) minExponent := by
  unfold exponentOf
  dsimp only
  split <;> omega

theorem isFinite_ofMantissa {negative : Bool} {mantissa : Nat} {exponent : Int}
    (h : exponent < maxExponent) : (ofMantissa negative mantissa exponent).isFinite = true := by
  have hfinite : ∀ (m : Nat) (e : Int), e ≤ maxExponent →
      (if maxExponent < e then infinite negative else finite negative m e).isFinite = true := by
    intro m e he
    rw [if_neg (by omega)]
    rfl
  -- a mantissa that was rounded up to the next power of two moves the exponent by one
  unfold ofMantissa
  split
  next m e heq =>
    split at heq
    · obtain ⟨-, rfl⟩ := Prod.mk.inj heq
      exact hfinite m _ (by omega)
    · obtain ⟨-, rfl⟩ := Prod.mk.inj heq
      exact hfinite m _ (by omega)

/-- A quotient is finite if its logarithm is below that of the largest number. -/
theorem isFinite_ofRatio {negative : Bool} (h : num.log2 ≤ den.log2 + 1000) :
    (ofRatio negative num den).isFinite = true := by
  unfold ofRatio
  split
  · rfl
  · refine isFinite_ofMantissa ?_
    have hle := exponentOf_le num den
    have hmin : minExponent < maxExponent := by decide
    have hmax : maxExponent = 971 := rfl
    omega

/-- A quotient of at most `2 ^ k` has a logarithm of at most `k`. -/
theorem log2_le_of_le_mul {k : Nat} (h : num ≤ den * Nat.pow 2 k) :
    num.log2 ≤ den.log2 + k := by
  by_cases hnum : num = 0
  · simp [hnum]
  · have hlt : num < 2 ^ (den.log2 + 1 + k) := by
      calc num ≤ den * 2 ^ k := h
        _ < 2 ^ (den.log2 + 1) * 2 ^ k :=
            Nat.mul_lt_mul_of_pos_right Nat.lt_log2_self (Nat.two_pow_pos k)
        _ = 2 ^ (den.log2 + 1 + k) := (Nat.pow_add ..).symm
    have hlog := (Nat.log2_lt hnum).mpr hlt
    omega

end Binary64

namespace Statistics

variable {s : Statistics}

/-! ## The average -/

/-- The average has a value if there are at most as many instances as the windows allow. -/
theorem isSome_instancesPerGeneric? {instances functions : Nat}
    (hinstances : s.genericInstances = instances) (hfunctions : s.monomorphizedFunctions = functions)
    (hmax : (instances : Int) ≤ functions * maxWindow) : s.instancesPerGeneric?.isSome = true := by
  unfold instancesPerGeneric?
  rw [hinstances, hfunctions]
  by_cases hnone : functions = 0
  · rw [if_pos (by omega)]
    rfl
  · -- the quotient is less than the number of words
    rw [if_neg (by omega)]
    have hle : instances ≤ functions * Nat.pow 2 63 := by
      have hwindow : maxWindow = 9223372036854775807 := rfl
      have hpow : Nat.pow 2 63 = 9223372036854775808 := rfl
      rw [hwindow] at hmax
      rw [hpow]
      omega
    have hlog := Binary64.log2_le_of_le_mul hle
    have hfinite : (Binary64.ofQuotient instances functions).isFinite = true :=
      Binary64.isFinite_ofRatio (by rw [Int.natAbs_natCast, Int.natAbs_natCast]; omega)
    simp [hfinite]

/-- With an average in range the counters have an exported form. -/
theorem isSome_toJson? {instances functions : Nat}
    (hinstances : s.genericInstances = instances) (hfunctions : s.monomorphizedFunctions = functions)
    (hmax : (instances : Int) ≤ functions * maxWindow) : s.toJson?.isSome = true := by
  rw [toJson?, Option.isSome_map]
  exact isSome_instancesPerGeneric? hinstances hfunctions hmax

end Statistics
end FuzzSynth
