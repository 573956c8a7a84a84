import QueryFilter.Number.Shortest
import QueryFilter.Proofs.Number.Decimal

set_option autoImplicit false

/-!
# The shortest decimal of a double

The decimal that is written for a finite magnitude reads as that magnitude
(`magnitude?_shortestDecimal`). It stands on a grid of at most seventeen digits, or it is the exact
value. The exact value has no more than the decisive digits either
(`digitCount_shortestDecimal_le`), so every digit that is written is compared when it is read.
-/

namespace QueryFilter

/-! ## The exact value -/

theorem digitsPerUnit_eq : digitsPerUnit = 5 ^ 1074 := by decide +kernel

/-- A power of ten is one of five and one of two. -/
theorem digitsPerUnit_mul_unitsPerOne : digitsPerUnit * unitsPerOne = powerOfTen 1074 := by
  decide +kernel

/-- The exact value of a finite magnitude: fifty-three binary digits, doubled at most as often as
in the last binade, and a power of five. -/
theorem exactDigits_eq {magnitude : Nat} (h : magnitude < infinityMagnitude) :
    ∃ significand doublings, significand < 2 * binadeSize ∧ doublings ≤ 1074 + 971 ∧
      exactDigits magnitude = significand * 2 ^ doublings * digitsPerUnit := by
  obtain ⟨significand, hsignificand, hunits, -⟩ := unitsOfMagnitude_eq magnitude
  have hbinades : magnitude / binadeSize < 2047 :=
    Nat.div_lt_of_lt_mul (by rwa [Nat.mul_comm])
  exact ⟨significand, magnitude / binadeSize - 1, hsignificand, by omega,
    by rw [exactDigits, hunits]⟩

theorem significand_mul_lt {significand doublings limit : Nat}
    (h : significand < 2 * binadeSize) (hle : doublings ≤ limit) :
    significand * 2 ^ doublings < 2 * binadeSize * 2 ^ limit :=
  Nat.mul_lt_mul_of_lt_of_le h (pow_le_pow_right₀ one_le_two hle) (pow_pos two_pos _)

/-- No finite number reaches 10^309. -/
theorem exactDigits_lt {magnitude : Nat} (h : magnitude < infinityMagnitude) :
    exactDigits magnitude < powerOfTen 1383 := by
  obtain ⟨significand, doublings, hsignificand, hdoublings, hexact⟩ := exactDigits_eq h
  have hpos : 0 < digitsPerUnit := by decide +kernel
  calc exactDigits magnitude = significand * 2 ^ doublings * digitsPerUnit := hexact
    _ < 2 * binadeSize * 2 ^ (1074 + 971) * digitsPerUnit :=
        Nat.mul_lt_mul_of_pos_right (significand_mul_lt hsignificand hdoublings) hpos
    _ ≤ powerOfTen 1383 := by decide +kernel

/-- No number but zero is below 10^-324. -/
theorem le_exactDigits {magnitude : Nat} (h : 0 < magnitude) :
    powerOfTen 750 ≤ exactDigits magnitude :=
  calc powerOfTen 750 ≤ digitsPerUnit := by decide +kernel
    _ ≤ exactDigits magnitude := Nat.le_mul_of_pos_left _ (unitsOfMagnitude_pos h)

/-- Without zeros at its end, the exact value has no more than the decisive digits. -/
theorem exactDigits_eq_mul {magnitude : Nat} (h : magnitude < infinityMagnitude) :
    ∃ digits count, exactDigits magnitude = digits * powerOfTen count ∧
      digits < powerOfTen Decimal.decisiveDigits := by
  obtain ⟨significand, doublings, hsignificand, hdoublings, hexact⟩ := exactDigits_eq h
  rcases Nat.le_total doublings 1074 with hle | hge
  · -- each doubling makes a zero together with a factor five
    refine ⟨significand * 5 ^ (1074 - doublings), doublings, ?_, ?_⟩
    · have hfives : digitsPerUnit = 5 ^ (1074 - doublings) * 5 ^ doublings := by
        rw [digitsPerUnit_eq, ← pow_add, Nat.sub_add_cancel hle]
      have htens : powerOfTen doublings = 2 ^ doublings * 5 ^ doublings := mul_pow 2 5 doublings
      rw [hexact, hfives, htens]
      ring
    · have hfives : 5 ^ (1074 - doublings) ≤ digitsPerUnit := by
        rw [digitsPerUnit_eq]
        exact pow_le_pow_right₀ (by decide) (Nat.sub_le _ _)
      have hpos : 0 < digitsPerUnit := by decide +kernel
      calc significand * 5 ^ (1074 - doublings) < 2 * binadeSize * digitsPerUnit :=
            Nat.mul_lt_mul_of_lt_of_le hsignificand hfives hpos
        _ ≤ powerOfTen Decimal.decisiveDigits := by decide +kernel
  · -- the number is whole, and the zeros are those of the unit
    refine ⟨significand * 2 ^ (doublings - 1074), 1074, ?_, ?_⟩
    · have htwos : 2 ^ doublings = 2 ^ (doublings - 1074) * unitsPerOne := by
        have hunits : unitsPerOne = 2 ^ 1074 := by decide +kernel
        rw [hunits, ← pow_add, Nat.sub_add_cancel hge]
      rw [hexact, htwos, ← digitsPerUnit_mul_unitsPerOne]
      ring
    · calc significand * 2 ^ (doublings - 1074) < 2 * binadeSize * 2 ^ 971 :=
            significand_mul_lt hsignificand (by omega)
        _ ≤ powerOfTen Decimal.decisiveDigits := by decide +kernel

/-- The magnitude is nearest to its exact value. -/
theorem nearest_exactDigits (magnitude : Nat) :
    (gridDecimal 0 (exactDigits magnitude)).nearest = magnitude := by
  have hnumerator : exactDigits magnitude * powerOfTen 0 * unitsPerOne
      = powerOfTen 1074 * unitsOfMagnitude magnitude := by
    rw [exactDigits, ← digitsPerUnit_mul_unitsPerOne, powerOfTen, Nat.pow_eq, Nat.pow_zero]
    ring
  calc (gridDecimal 0 (exactDigits magnitude)).nearest
      = nearestMagnitude (exactDigits magnitude * powerOfTen 0 * unitsPerOne)
          (powerOfTen 1074) := rfl
    _ = nearestMagnitude (powerOfTen 1074 * unitsOfMagnitude magnitude) (powerOfTen 1074 * 1) := by
        rw [hnumerator, Nat.mul_one]
    _ = magnitude := by
        rw [nearestMagnitude_mul_mul (powerOfTen_pos 1074), nearestMagnitude_unitsOfMagnitude]

/-- The exact value reads as the magnitude. -/
theorem magnitude?_exactDigits {magnitude : Nat} (h : magnitude < infinityMagnitude) :
    (gridDecimal 0 (exactDigits magnitude)).magnitude? = some magnitude := by
  rcases Nat.eq_zero_or_pos magnitude with rfl | hpos
  · rw [exactDigits, unitsOfMagnitude_of_lt (by decide), Nat.zero_mul]
    exact Decimal.magnitude?_zero _
  · have hlow := le_exactDigits hpos
    have hnonzero : (gridDecimal 0 (exactDigits magnitude)).digits ≠ 0 := by
      change exactDigits magnitude ≠ 0
      have hten := powerOfTen_pos 750
      omega
    have hcount := lt_digitCount_of_le hlow
    have hcount' := digitCount_le_of_lt (by decide) (exactDigits_lt h)
    have hscale : (gridDecimal 0 (exactDigits magnitude)).scale
        = digitCount (exactDigits magnitude) - 1074 := rfl
    rw [Decimal.magnitude?, nearest_exactDigits, hscale, if_neg hnonzero, if_neg (by omega),
      if_neg (by omega), if_pos h]

/-! ## Grids -/

/-- One of the two neighbours is picked. -/
theorem le_of_pickNeighbour {hits : Nat → Bool} {low picked : Nat} {lowIsNearer : Bool}
    (h : pickNeighbour hits low lowIsNearer = some picked) : picked ≤ low + 1 := by
  unfold pickNeighbour at h
  split at h
  · cases h
    exact Nat.le_succ low
  split at h
  · cases h
    exact Nat.le_refl _
  · cases h

/-- A decimal on a grid has at most one digit more than are left of the exact value. -/
theorem digits_of_onGrid?_le {magnitude cut : Nat} {decimal : Decimal}
    (h : onGrid? magnitude cut = some decimal) :
    decimal.digits ≤ powerOfTen (digitCount (exactDigits magnitude) - cut) := by
  obtain ⟨picked, hpick, rfl⟩ := Option.map_eq_some_iff.1 h
  have hpicked := le_of_pickNeighbour hpick
  have hlow : exactDigits magnitude / powerOfTen cut
      < powerOfTen (digitCount (exactDigits magnitude) - cut) := by
    refine Nat.div_lt_of_lt_mul ?_
    calc exactDigits magnitude < powerOfTen (digitCount (exactDigits magnitude)) :=
          lt_powerOfTen_digitCount _
      _ ≤ powerOfTen (cut + (digitCount (exactDigits magnitude) - cut)) :=
          powerOfTen_le (by omega)
      _ = powerOfTen cut * powerOfTen (digitCount (exactDigits magnitude) - cut) :=
          powerOfTen_add _ _
  exact Nat.le_trans hpicked hlow

/-! ## The decimal that is written -/

/-- The decimal that is written is one of a grid of at most seventeen digits, or the exact value,
without zeros at its end. -/
theorem shortestDecimal_cases (magnitude : Nat) :
    (∃ cut decimal, onGrid? magnitude cut = some decimal ∧
      digitCount (exactDigits magnitude) - cut ≤ 17 ∧ shortestDecimal magnitude = decimal.trim) ∨
    shortestDecimal magnitude = (gridDecimal 0 (exactDigits magnitude)).trim := by
  cases hfound : (List.range 17).findSome? fun digits =>
      onGrid? magnitude (digitCount (exactDigits magnitude) - (digits + 1)) with
  | none => exact Or.inr (by simp only [shortestDecimal, hfound, Option.getD_none])
  | some decimal =>
      obtain ⟨digits, hdigits, hgrid⟩ := List.exists_of_findSome?_eq_some hfound
      have hrange := List.mem_range.1 hdigits
      refine Or.inl ⟨_, decimal, hgrid, by omega, ?_⟩
      simp only [shortestDecimal, hfound, Option.getD_some]

/-- The decimal that is written reads as the magnitude. -/
theorem magnitude?_shortestDecimal {magnitude : Nat} (h : magnitude < infinityMagnitude) :
    (shortestDecimal magnitude).magnitude? = some magnitude := by
  rcases shortestDecimal_cases magnitude with ⟨cut, decimal, hgrid, -, hdecimal⟩ | hexact
  · rw [hdecimal, Decimal.magnitude?_trim, magnitude?_of_onGrid? hgrid]
  · rw [hexact, Decimal.magnitude?_trim, magnitude?_exactDigits h]

/-- The decimal that is written has no more than the decisive digits. -/
theorem digitCount_shortestDecimal_le {magnitude : Nat} (h : magnitude < infinityMagnitude) :
    digitCount (shortestDecimal magnitude).digits ≤ Decimal.decisiveDigits := by
  -- a grid is bounded by its number of digits, and the exact value only once it is trimmed
  refine digitCount_le_of_lt (by decide) ?_
  rcases shortestDecimal_cases magnitude with ⟨cut, decimal, hgrid, hcount, hdecimal⟩ | hexact
  · calc (shortestDecimal magnitude).digits ≤ decimal.digits := by
          rw [hdecimal]
          exact Decimal.digits_trim_le decimal
      _ ≤ powerOfTen (digitCount (exactDigits magnitude) - cut) := digits_of_onGrid?_le hgrid
      _ ≤ powerOfTen 17 := powerOfTen_le hcount
      _ < powerOfTen Decimal.decisiveDigits := by decide +kernel
  · obtain ⟨digits, count, hdigits, hlt⟩ := exactDigits_eq_mul h
    refine Nat.lt_of_le_of_lt ?_ hlt
    rw [hexact, hdigits]
    rcases Nat.eq_zero_or_pos digits with rfl | hpos
    · rw [Nat.zero_mul]
      exact Decimal.digits_trim_le _
    · exact Decimal.digits_trim_mul_le hpos count _

/-- The digits that are written end in no zero. -/
theorem digits_shortestDecimal_mod {magnitude : Nat} (h : 0 < (shortestDecimal magnitude).digits) :
    (shortestDecimal magnitude).digits % 10 ≠ 0 :=
  Decimal.digits_trim_mod _ h

end QueryFilter
