import QueryFilter.Proofs.Number.Rounding

set_option autoImplicit false

/-!
# The double nearest to a number

Rounding goes to the nearest magnitude, a tie to the even one (`nearestMagnitude_nearest`), and the
result is finite unless the number is out of range (`nearestMagnitude_lt_infinityMagnitude`). Main
statement: a whole number below 2^64 is rounded to the finite double that is nearest to it
(`Double.isNearest_ofNat`).
-/

namespace QueryFilter

/-! ## Distances -/

/-- How far a whole number is from a quotient, in parts of the denominator. -/
def quotientDistance (numerator denominator whole : Nat) : Nat :=
  Int.natAbs ((whole * denominator : Nat) - (numerator : Int))

/-- Rounding to a whole number goes to the nearest one, and in a tie to the even one. -/
theorem roundHalfEven_nearest {denominator : Nat} (h : 0 < denominator) (numerator other : Nat) :
    quotientDistance numerator denominator (roundHalfEven numerator denominator)
        ≤ quotientDistance numerator denominator other ∧
      (quotientDistance numerator denominator other
          = quotientDistance numerator denominator (roundHalfEven numerator denominator) →
        other = roundHalfEven numerator denominator ∨
          roundHalfEven numerator denominator % 2 = 0) := by
  have hdivide : numerator / denominator * denominator + numerator % denominator = numerator :=
    Nat.div_add_mod' numerator denominator
  have hrest : numerator % denominator < denominator := Nat.mod_lt numerator h
  have hnext : (numerator / denominator + 1) * denominator
      = numerator / denominator * denominator + denominator := Nat.succ_mul _ _
  unfold quotientDistance roundHalfEven
  generalize numerator / denominator = quotient at *
  generalize numerator % denominator = rest at *
  -- multiples of the denominator other than the two around the numerator are farther away
  have hother : other = quotient ∨ other = quotient + 1 ∨
      other * denominator + denominator ≤ quotient * denominator ∨
      quotient * denominator + 2 * denominator ≤ other * denominator := by
    rcases Nat.lt_trichotomy other quotient with hlt | rfl | hgt
    · have hmul := Nat.mul_le_mul_right denominator (Nat.succ_le_of_lt hlt)
      rw [Nat.succ_mul] at hmul
      exact Or.inr (Or.inr (Or.inl hmul))
    · exact Or.inl rfl
    · rcases Nat.eq_or_lt_of_le (Nat.succ_le_of_lt hgt) with heq | hfar
      · exact Or.inr (Or.inl heq.symm)
      · have hmul := Nat.mul_le_mul_right denominator (Nat.succ_le_of_lt hfar)
        rw [Nat.succ_mul, Nat.succ_mul] at hmul
        exact Or.inr (Or.inr (Or.inr (by omega)))
  dsimp only
  rcases hother with rfl | rfl | hbelow | habove
  all_goals
    split_ifs
    all_goals omega

theorem roundHalfEven_bounds (numerator denominator : Nat) :
    numerator / denominator ≤ roundHalfEven numerator denominator ∧
      roundHalfEven numerator denominator ≤ numerator / denominator + 1 := by
  unfold roundHalfEven
  dsimp only
  split_ifs
  all_goals omega

/-! ## Magnitudes -/

/-- A significand counts spacings, also if rounding has taken it to the end of its binade. -/
theorem unitsOfMagnitude_spacing {spacing significand : Nat} (hle : significand ≤ 2 * binadeSize)
    (hfull : 0 < spacing → binadeSize ≤ significand) :
    unitsOfMagnitude (spacing * binadeSize + significand) = significand * 2 ^ spacing := by
  have hpos : 0 < binadeSize := by decide
  rcases Nat.lt_or_ge significand binadeSize with hsubnormal | hnormal
  · have hspacing : spacing = 0 := by
      by_contra hne
      exact absurd (hfull (Nat.pos_of_ne_zero hne)) (by omega)
    rw [hspacing, Nat.zero_mul, Nat.zero_add, Nat.pow_zero, Nat.mul_one,
      unitsOfMagnitude_of_lt hsubnormal]
  have hlarge : ¬ spacing * binadeSize + significand < binadeSize := by omega
  rw [unitsOfMagnitude, if_neg hlarge, Nat.shiftLeft_eq]
  rcases Nat.eq_or_lt_of_le hle with rfl | hlt
  · -- the first magnitude of the next binade
    have hform : spacing * binadeSize + 2 * binadeSize = (spacing + 2) * binadeSize := by ring
    rw [hform, Nat.mul_mod_left, Nat.mul_div_cancel _ hpos]
    show (binadeSize + 0) * 2 ^ (spacing + 1) = 2 * binadeSize * 2 ^ spacing
    ring
  · obtain ⟨rest, rfl⟩ := Nat.exists_eq_add_of_le hnormal
    have hrest : rest < binadeSize := by omega
    have hform : spacing * binadeSize + (binadeSize + rest)
        = rest + binadeSize * (spacing + 1) := by ring
    rw [hform, Nat.add_mul_mod_self_left, Nat.mod_eq_of_lt hrest, Nat.add_mul_div_left _ _ hpos,
      Nat.div_eq_of_lt hrest, Nat.zero_add, Nat.add_sub_cancel]

/-- A quotient is rounded to a whole number of spacings. There are as many as the significand of a
magnitude may have, and the spacing is no wider than the quotient requires. -/
theorem nearestMagnitude_eq (numerator denominator : Nat) :
    ∃ spacing significand,
      nearestMagnitude numerator denominator = spacing * binadeSize + significand ∧
      significand = roundHalfEven numerator (denominator * 2 ^ spacing) ∧
      significand ≤ 2 * binadeSize ∧
      (0 < spacing → binadeSize ≤ significand ∧
        binadeSize * 2 ^ spacing ≤ numerator / denominator) := by
  have hsize : binadeSize = 2 ^ 52 := by decide
  refine ⟨(numerator / denominator).log2 - 52, _, ?_, rfl, ?_, ?_⟩
  · rw [nearestMagnitude, Nat.shiftLeft_eq]
  all_goals
    have hround := roundHalfEven_bounds numerator
      (denominator * 2 ^ ((numerator / denominator).log2 - 52))
    rw [← Nat.div_div_eq_div_mul] at hround
    generalize numerator / denominator = quotient at *
    generalize hspacing : quotient.log2 - 52 = spacing at *
  · have hlt : quotient < 2 ^ 53 * 2 ^ spacing := by
      calc quotient < 2 ^ (quotient.log2 + 1) := Nat.lt_log2_self
        _ ≤ 2 ^ (53 + spacing) := Nat.pow_le_pow_right (by decide) (by omega)
        _ = 2 ^ 53 * 2 ^ spacing := Nat.pow_add 2 53 spacing
    have hdivide : quotient / 2 ^ spacing < 2 ^ 53 := Nat.div_lt_of_lt_mul (by rwa [Nat.mul_comm])
    omega
  · intro hpos
    have hnonzero : quotient ≠ 0 := by
      rintro rfl
      exact absurd hspacing (by simpa using hpos.ne)
    have hge : binadeSize * 2 ^ spacing ≤ quotient := by
      calc binadeSize * 2 ^ spacing = 2 ^ (52 + spacing) := by rw [hsize, Nat.pow_add]
        _ = 2 ^ quotient.log2 := by congr 1; omega
        _ ≤ quotient := Nat.log2_self_le hnonzero
    have hdivide := (Nat.le_div_iff_mul_le (Nat.two_pow_pos spacing)).2 hge
    exact ⟨by omega, hge⟩

/-- The absolute value of a magnitude is a whole number of spacings, or it lies below the binade of
that spacing. -/
theorem unitsOfMagnitude_cases (magnitude spacing : Nat) :
    (∃ whole, unitsOfMagnitude magnitude = whole * 2 ^ spacing) ∨
      0 < spacing ∧ unitsOfMagnitude magnitude < binadeSize * 2 ^ spacing := by
  obtain ⟨significand, hlt, hunits, -, -⟩ := unitsOfMagnitude_eq magnitude
  rw [hunits]
  generalize magnitude / binadeSize - 1 = doublings
  rcases Nat.lt_or_ge doublings spacing with hfewer | hmore
  · refine Or.inr ⟨by omega, ?_⟩
    calc significand * 2 ^ doublings < 2 * binadeSize * 2 ^ doublings :=
          Nat.mul_lt_mul_of_pos_right hlt (Nat.two_pow_pos doublings)
      _ = binadeSize * 2 ^ (doublings + 1) := by ring
      _ ≤ binadeSize * 2 ^ spacing :=
          Nat.mul_le_mul_left _ (Nat.pow_le_pow_right (by decide) hfewer)
  · obtain ⟨more, rfl⟩ := Nat.exists_eq_add_of_le hmore
    refine Or.inl ⟨significand * 2 ^ more, ?_⟩
    ring

theorem unitsOfMagnitude_injective {first second : Nat}
    (h : unitsOfMagnitude first = unitsOfMagnitude second) : first = second := by
  rw [← nearestMagnitude_unitsOfMagnitude first, h, nearestMagnitude_unitsOfMagnitude]

/-- Of all magnitudes none is nearer to a quotient than the one that it is rounded to, and another
one is as near only if it is rounded to an even one. -/
theorem nearestMagnitude_nearest (numerator : Nat) {denominator : Nat} (h : 0 < denominator)
    (magnitude : Nat) :
    quotientDistance numerator denominator
          (unitsOfMagnitude (nearestMagnitude numerator denominator))
        ≤ quotientDistance numerator denominator (unitsOfMagnitude magnitude) ∧
      (quotientDistance numerator denominator (unitsOfMagnitude magnitude)
          = quotientDistance numerator denominator
              (unitsOfMagnitude (nearestMagnitude numerator denominator)) →
        magnitude = nearestMagnitude numerator denominator ∨
          nearestMagnitude numerator denominator % 2 = 0) := by
  obtain ⟨spacing, significand, hnearest, hround, hle, hfull⟩ :=
    nearestMagnitude_eq numerator denominator
  have hunits : unitsOfMagnitude (nearestMagnitude numerator denominator)
      = significand * 2 ^ spacing := by
    rw [hnearest, unitsOfMagnitude_spacing hle fun hpos => (hfull hpos).1]
  have heven : significand % 2 = 0 → nearestMagnitude numerator denominator % 2 = 0 := by
    rw [hnearest, Nat.add_mod, Nat.mul_mod]
    intro hsignificand
    simp [hsignificand, show binadeSize % 2 = 0 by decide]
  -- the spacing may be counted with the whole number or with the denominator
  have hspaced : ∀ whole, quotientDistance numerator denominator (whole * 2 ^ spacing)
      = quotientDistance numerator (denominator * 2 ^ spacing) whole := by
    intro whole
    rw [quotientDistance, quotientDistance, Nat.mul_assoc, Nat.mul_comm (2 ^ spacing)]
  have hwhole := roundHalfEven_nearest (Nat.mul_pos h (Nat.two_pow_pos spacing)) numerator
  rw [← hround] at hwhole
  rcases unitsOfMagnitude_cases magnitude spacing with ⟨whole, hmagnitude⟩ | ⟨hpos, hbelow⟩
  · obtain ⟨hnear, htie⟩ := hwhole whole
    rw [hunits, hmagnitude, hspaced, hspaced]
    refine ⟨hnear, fun heq => ?_⟩
    rcases htie heq with rfl | hsignificand
    · exact Or.inl (unitsOfMagnitude_injective (hmagnitude.trans hunits.symm))
    · exact Or.inr (heven hsignificand)
  · -- the least number of the binade lies between the magnitude and the quotient
    have hbinade : binadeSize * 2 ^ spacing * denominator ≤ numerator :=
      (Nat.le_div_iff_mul_le h).1 (hfull hpos).2
    have hapart : unitsOfMagnitude magnitude * denominator
        < binadeSize * 2 ^ spacing * denominator := Nat.mul_lt_mul_of_pos_right hbelow h
    have hnear := (hwhole binadeSize).1
    rw [← hspaced, ← hspaced, ← hunits] at hnear
    unfold quotientDistance at hnear ⊢
    exact ⟨by omega, fun heq => absurd heq (by omega)⟩

/-- A quotient below a power of two is rounded to a magnitude in the binades up to that power. -/
theorem nearestMagnitude_le {numerator denominator power doublings : Nat}
    (h : numerator / denominator < 2 ^ power) (hpower : power ≤ doublings + 53) :
    nearestMagnitude numerator denominator ≤ (doublings + 2) * binadeSize := by
  have hsize : binadeSize = 2 ^ 52 := by decide
  obtain ⟨spacing, significand, hnearest, -, hle, hfull⟩ :=
    nearestMagnitude_eq numerator denominator
  have hspacing : spacing ≤ doublings := by
    rcases Nat.eq_zero_or_pos spacing with rfl | hpos
    · exact Nat.zero_le _
    · have hlt : 2 ^ (52 + spacing) < 2 ^ power := by
        calc 2 ^ (52 + spacing) = binadeSize * 2 ^ spacing := by rw [hsize, Nat.pow_add]
          _ ≤ numerator / denominator := (hfull hpos).2
          _ < 2 ^ power := h
      have hexponent := (Nat.pow_lt_pow_iff_right (by decide)).1 hlt
      omega
  calc nearestMagnitude numerator denominator
      = spacing * binadeSize + significand := hnearest
    _ ≤ doublings * binadeSize + 2 * binadeSize :=
        Nat.add_le_add (Nat.mul_le_mul_right _ hspacing) hle
    _ = (doublings + 2) * binadeSize := (Nat.add_mul _ _ _).symm

theorem unitsPerOne_eq : unitsPerOne = 2 ^ 1074 := by decide +kernel

theorem unitsPerOne_pos : 0 < unitsPerOne := by decide +kernel

/-- The numbers below 2^64 are far below the greatest finite double. -/
theorem nearestMagnitude_lt_infinityMagnitude {numerator denominator : Nat}
    (h : numerator / denominator < 2 ^ 64 * unitsPerOne) :
    nearestMagnitude numerator denominator < infinityMagnitude := by
  have hpower : numerator / denominator < 2 ^ (64 + 1074) := by
    calc numerator / denominator < 2 ^ 64 * unitsPerOne := h
      _ = 2 ^ (64 + 1074) := by rw [unitsPerOne_eq, Nat.pow_add]
  calc nearestMagnitude numerator denominator
      ≤ (1085 + 2) * binadeSize := nearestMagnitude_le hpower (by decide)
    _ < infinityMagnitude := by decide

namespace Double

/-! ## Words -/

theorem magnitude_ofMagnitude {magnitude : Nat} (h : magnitude < signWeight) (negative : Bool) :
    (ofMagnitude negative magnitude).magnitude = magnitude := by
  unfold signWeight at h
  cases negative with
  | true =>
      show (signWeight + magnitude) % 2 ^ 64 % signWeight = magnitude
      unfold signWeight
      omega
  | false =>
      show (0 + magnitude) % 2 ^ 64 % signWeight = magnitude
      unfold signWeight
      omega

theorem isNegative_ofMagnitude_false {magnitude : Nat} (h : magnitude < signWeight) :
    (ofMagnitude false magnitude).isNegative = false := by
  show decide (signWeight ≤ (0 + magnitude) % 2 ^ 64) = false
  unfold signWeight at h ⊢
  exact decide_eq_false (by omega)

/-- The magnitudes below infinity are those of finite words, with either sign. -/
theorem isFinite_ofMagnitude {magnitude : Nat} (h : magnitude < infinityMagnitude)
    (negative : Bool) : (ofMagnitude negative magnitude).isFinite = true := by
  have hsign : infinityMagnitude < signWeight := by decide
  rw [isFinite, magnitude_ofMagnitude (h.trans hsign)]
  exact decide_eq_true h

/-! ## Whole numbers -/

theorem nearestMagnitude_ofNat_lt {number : Nat} (h : number < 2 ^ 64) :
    nearestMagnitude (number * unitsPerOne) 1 < infinityMagnitude := by
  refine nearestMagnitude_lt_infinityMagnitude ?_
  rw [Nat.div_one]
  exact Nat.mul_lt_mul_of_pos_right h unitsPerOne_pos

theorem isFinite_ofNat {number : Nat} (h : number < 2 ^ 64) : (ofNat number).isFinite = true :=
  isFinite_ofMagnitude (nearestMagnitude_ofNat_lt h) false

/-- The number that a finite double stands for, in units of 2^-1074. -/
def units (x : Double) : Int :=
  if x.isNegative then -(unitsOfMagnitude x.magnitude : Int) else unitsOfMagnitude x.magnitude

/-- How far a finite double is from a whole number, in units of 2^-1074. -/
def distance (x : Double) (number : Nat) : Nat :=
  Int.natAbs (x.units - (number * unitsPerOne : Nat))

/-- No finite double is nearer to the whole number, and another one is as near only if this one is
even. -/
structure IsNearest (x : Double) (number : Nat) : Prop where
  finite : x.isFinite = true
  le : ∀ other : Double, other.isFinite = true → x.distance number ≤ other.distance number
  even : ∀ other : Double, other.isFinite = true → other ≠ x →
    other.distance number = x.distance number → x.magnitude % 2 = 0

theorem distance_eq {x : Double} (h : x.isNegative = false) (number : Nat) :
    x.distance number
      = quotientDistance (number * unitsPerOne) 1 (unitsOfMagnitude x.magnitude) := by
  rw [distance, units, h, quotientDistance, Nat.mul_one]
  rfl

/-- A negative double is at least as far from a whole number as its absolute value is. Both are
equally far only if one of them and the number are zero. -/
theorem distance_of_isNegative {x : Double} (h : x.isNegative = true) (number : Nat) :
    quotientDistance (number * unitsPerOne) 1 (unitsOfMagnitude x.magnitude)
        ≤ x.distance number ∧
      (x.distance number
          = quotientDistance (number * unitsPerOne) 1 (unitsOfMagnitude x.magnitude) →
        unitsOfMagnitude x.magnitude = 0 ∨ number * unitsPerOne = 0) := by
  rw [distance, units, h, quotientDistance, Nat.mul_one, if_pos rfl]
  exact ⟨by omega, by omega⟩

/-- Whole numbers of 64 bits are rounded to the nearest double, a tie to the even one. -/
theorem isNearest_ofNat {number : Nat} (h : number < 2 ^ 64) :
    (ofNat number).IsNearest number := by
  have hlt : nearestMagnitude (number * unitsPerOne) 1 < signWeight :=
    (nearestMagnitude_ofNat_lt h).trans (by decide)
  have hmagnitude : (ofNat number).magnitude = nearestMagnitude (number * unitsPerOne) 1 :=
    magnitude_ofMagnitude hlt false
  have hsign : (ofNat number).isNegative = false := isNegative_ofMagnitude_false hlt
  have hnearest := nearestMagnitude_nearest (number * unitsPerOne) Nat.one_pos
  rw [← hmagnitude] at hnearest
  refine ⟨isFinite_ofNat h, fun other _ => ?_, fun other _ hne heq => ?_⟩
  all_goals
    rw [distance_eq hsign] at *
    obtain ⟨hle, htie⟩ := hnearest other.magnitude
  · cases hother : other.isNegative with
    | false => rwa [distance_eq hother]
    | true => exact hle.trans (distance_of_isNegative hother number).1
  · cases hother : other.isNegative with
    | false =>
        rw [distance_eq hother] at heq
        rcases htie heq with hsame | heven
        · -- sign and magnitude are the same
          refine absurd ?_ hne
          rw [← ofMagnitude_magnitude other, hsame, hother, ← hsign, ofMagnitude_magnitude]
        · exact heven
    | true =>
        -- both are as near as the absolute value of the other, which is zero or minus this one
        obtain ⟨hfar, hzero⟩ := distance_of_isNegative hother number
        rcases htie (by omega) with hsame | heven
        · have hnone : unitsOfMagnitude (ofNat number).magnitude = 0 := by
            rcases hzero (by rw [hsame, heq]) with hunits | hnumber
            · rwa [← hsame]
            · -- nothing is nearer to zero than zero
              have hle := (hnearest 0).1
              rw [hnumber] at hle
              have hmul : unitsOfMagnitude 0 = 0 := rfl
              unfold quotientDistance at hle
              omega
          have hmagnitude : (ofNat number).magnitude = 0 := unitsOfMagnitude_injective hnone
          rw [hmagnitude]
        · exact heven

end Double

end QueryFilter
