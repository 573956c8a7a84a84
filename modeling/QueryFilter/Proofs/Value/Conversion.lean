import Mathlib.Algebra.Order.AbsoluteValue.Basic
import Mathlib.Tactic.FieldSimp
import Mathlib.Tactic.GCongr
import QueryFilter.Proofs.Filter.Rendering
import QueryFilter.Proofs.Number.Widening

set_option autoImplicit false

/-!
# Numbers as filter values

A machine word becomes the integer that it is, or the double nearest to it if it is above the signed
words; a narrow floating-point word becomes the double of the same number. Main statement: how close
the value is to the number, that greater words do not become lesser values, that the same number in
a document is converted alike, and that only what is not finite makes a value that cannot be written
(`Value.numbers_kept_or_nearest`).
-/

namespace QueryFilter

namespace Double

theorem unitsPerOne_cast_pos : (0 : ℚ) < unitsPerOne := Nat.cast_pos.2 unitsPerOne_pos

theorem toRat_le_toRat {x y : Double} (h : x.units ≤ y.units) : x.toRat ≤ y.toRat := by
  unfold toRat
  have hunits : (x.units : ℚ) ≤ y.units := Int.cast_le.2 h
  gcongr

theorem le_toRat {x : Double} {number : Nat} (h : (number * unitsPerOne : Nat) ≤ x.units) :
    number ≤ x.toRat := by
  rw [toRat, le_div_iff₀ unitsPerOne_cast_pos]
  exact_mod_cast h

theorem toRat_le {x : Double} {number : Nat} (h : x.units ≤ (number * unitsPerOne : Nat)) :
    x.toRat ≤ number := by
  rw [toRat, div_le_iff₀ unitsPerOne_cast_pos]
  exact_mod_cast h

/-- Distances are counted in units. -/
theorem abs_toRat_sub (x : Double) (number : Nat) :
    |x.toRat - number| = x.distance number / unitsPerOne := by
  have hpos := unitsPerOne_cast_pos
  have hscaled : x.toRat - number
      = ((x.units - (number * unitsPerOne : Nat) : Int) : ℚ) / unitsPerOne := by
    rw [toRat]
    push_cast
    field_simp
  rw [hscaled, abs_div, abs_of_pos hpos, distance, Nat.cast_natAbs, Int.cast_abs]

end Double

namespace Value

/-! ## Numbers and texts of values -/

/-- The rational number that a value is. -/
def toRat? : Value → Option ℚ
  | .int number => some number.toInt
  | .float number => if number.isFinite then some number.toRat else none
  | _ => none

/-- The value can be converted to a document, and rendered in every layout that fits. -/
structure Written (value : Value) : Prop where
  toJson : ∃ document, value.toJson = .ok document
  render : ∀ options : RenderOptions, options.layout.Fits →
    ∃ text, (options.render value).result = .ok text

/-- A value can be written unless a double in it is not finite. -/
theorem written_iff {value : Value} :
    value.Written ↔ ∀ number ∈ value.floats, number.isFinite = true := by
  constructor
  · rintro ⟨⟨document, hdocument⟩, -⟩
    have hfails := failsOn_toJson value
    rw [hdocument] at hfails
    exact hfails.finite_of_ok
  · intro hfinite
    refine ⟨(failsOn_toJson value).ok_of_finite hfinite, fun options hfits => ?_⟩
    obtain ⟨fragment, hwrite⟩ := (failsOn_write options.layout 0 value).ok_of_finite hfinite
    have htext : writeText options.layout value = .ok fragment := hwrite
    have hlaid : (options.layout.render value).result = .ok (String.ofList fragment.toList) := by
      rw [Layout.result_render, htext]
      rfl
    exact ⟨_, RenderOptions.result_render_eq_ok_iff.2 ⟨hfits, hlaid⟩⟩

/-! ## Words -/

/-- A number, and the value that a signed or unsigned word of 64 bits with this number becomes. -/
inductive OfWord : Int → Value → Prop where
  | unsigned (word : UInt64) : OfWord word.toNat (toValue word)
  | signed (word : Int64) : OfWord word.toInt (toValue word)

namespace OfWord

variable {number other : Int} {value value' : Value}

theorem bounds (h : OfWord number value) : leastInteger ≤ number ∧ number < integerBound := by
  unfold leastInteger integerBound
  cases h with
  | unsigned word =>
      have := word.toNat_lt
      omega
  | signed word =>
      have := word.le_toInt
      have := word.toInt_lt
      omega

/-- Words of either kind become integers up to the same bound, and doubles from there on. -/
theorem eq (h : OfWord number value) :
    value = if number < signedBound then .int (.ofInt number)
      else .float (Double.ofNat number.toNat) := by
  cases h with
  | unsigned word =>
      show ofNat word.toNat = _
      rw [ofNat, Int64.ofInt_eq_ofNat, Int.toNat_natCast]
      simp only [Int.ofNat_lt]
  | signed word =>
      have hlt : word.toInt < signedBound := word.toInt_lt
      rw [if_pos hlt, Int64.ofInt_toInt]
      rfl

/-- A number that fits a signed word is kept. -/
theorem kept (h : OfWord number value) (hlt : number < 2 ^ 63) :
    ∃ word : Int64, value = .int word ∧ word.toInt = number := by
  refine ⟨.ofInt number, h.eq.trans (if_pos hlt), ?_⟩
  exact Int64.toInt_ofInt_of_le h.bounds.1 hlt

/-- A greater number becomes the nearest double. -/
theorem rounded (h : OfWord number value) (hge : 2 ^ 63 ≤ number) :
    value = .float (Double.ofNat number.toNat) ∧
      (Double.ofNat number.toNat).IsNearest number.toNat := by
  refine ⟨h.eq.trans (if_neg (Int.not_lt.2 hge)), Double.isNearest_ofNat ?_⟩
  have := h.bounds.2
  unfold integerBound at this
  omega

/-- The same number in a document becomes the same value. -/
theorem ofJson_integer (h : OfWord number value) (lower : leastInteger ≤ number)
    (upper : number < integerBound) :
    ofJson (.number (.integer number lower upper)) = .ok value := by
  rw [ofJson, ofJsonNumber, h.eq]

theorem written (h : OfWord number value) : value.Written := by
  rw [written_iff]
  rcases lt_or_ge number (2 ^ 63) with hlt | hge
  · obtain ⟨word, rfl, -⟩ := h.kept hlt
    exact nofun
  · obtain ⟨rfl, hnearest⟩ := h.rounded hge
    intro double hmem
    cases List.mem_singleton.1 hmem
    exact hnearest.finite

/-- A kept number is the value, and a rounded one has a value between 2^63 and 2^64 that is not
farther from it than half a spacing. -/
theorem exists_toRat (h : OfWord number value) :
    ∃ rational, value.toRat? = some rational ∧ (number < 2 ^ 63 → rational = number) ∧
      (2 ^ 63 ≤ number → 2 ^ 63 ≤ rational ∧ rational ≤ 2 ^ 64 ∧ |rational - number| ≤ 1024) := by
  rcases lt_or_ge number (2 ^ 63) with hlt | hge
  · obtain ⟨word, rfl, hword⟩ := h.kept hlt
    exact ⟨number, by rw [toRat?, hword], fun _ => rfl, fun hge => by omega⟩
  · obtain ⟨rfl, hnearest⟩ := h.rounded hge
    have hupper := h.bounds.2
    unfold integerBound at hupper
    have hnumber : number = number.toNat := by omega
    refine ⟨_, if_pos hnearest.finite, fun hlt => by omega, fun _ => ?_⟩
    have hbounds := hnearest.units_bounds (by omega) (by omega)
    have hdistance := hnearest.distance_le (by omega) (by omega)
    refine ⟨?_, ?_, ?_⟩
    · exact_mod_cast Double.le_toRat hbounds.1
    · exact_mod_cast Double.toRat_le hbounds.2
    · rw [hnumber, Int.cast_natCast, Int.toNat_natCast, Double.abs_toRat_sub,
        div_le_iff₀ Double.unitsPerOne_cast_pos]
      exact_mod_cast hdistance

/-- Of two numbers the greater one does not become the lesser value, whichever of them are kept. -/
theorem toRat_mono (h : OfWord number value) (h' : OfWord other value') (hle : number ≤ other) :
    ∃ rational rational', value.toRat? = some rational ∧ value'.toRat? = some rational' ∧
      rational ≤ rational' := by
  obtain ⟨rational, hrational, hkept, hrounded⟩ := h.exists_toRat
  obtain ⟨rational', hrational', hkept', hrounded'⟩ := h'.exists_toRat
  refine ⟨rational, rational', hrational, hrational', ?_⟩
  rcases lt_or_ge other (2 ^ 63) with hlt | hge
  · rw [hkept (hle.trans_lt hlt), hkept' hlt]
    exact_mod_cast hle
  · rcases lt_or_ge number (2 ^ 63) with hlt | hlow
    · -- the bound lies between the two
      have hbelow : rational ≤ 2 ^ 63 := by
        rw [hkept hlt]
        exact_mod_cast hlt.le
      exact hbelow.trans (hrounded' hge).1
    · obtain ⟨rfl, hnearest⟩ := h.rounded hlow
      obtain ⟨rfl, hnearest'⟩ := h'.rounded hge
      rw [toRat?, if_pos hnearest.finite] at hrational
      rw [toRat?, if_pos hnearest'.finite] at hrational'
      cases hrational
      cases hrational'
      rcases hle.lt_or_eq with hlt | rfl
      · exact Double.toRat_le_toRat (hnearest.units_le hnearest' (by omega))
      · exact le_rfl

end OfWord

/-! ## Main statement -/

/-- Words up to the greatest signed one become themselves, and greater ones the nearest double, a
tie going to the even one; it is at most 1024 away and between 2^63 and 2^64. The order of numbers
is kept, also between the two kinds, and a number in a document becomes the same value as the word.
A narrow floating-point word becomes a double of the same sign and number, infinity infinity, and
what is not a number stays so. All these values can be written but the ones of words that are not
finite. -/
theorem numbers_kept_or_nearest :
    (∀ number value, OfWord number value →
      (number < 2 ^ 63 → ∃ word : Int64, value = .int word ∧ word.toInt = number) ∧
      (2 ^ 63 ≤ number → ∃ double : Double, value = .float double ∧
        double.IsNearest number.toNat ∧ 2 ^ 63 ≤ double.toRat ∧ double.toRat ≤ 2 ^ 64 ∧
        |double.toRat - number| ≤ 1024) ∧
      (∀ lower upper, ofJson (.number (.integer number lower upper)) = .ok value) ∧
      value.Written) ∧
    (∀ number other value value', OfWord number value → OfWord other value' → number ≤ other →
      ∃ rational rational', value.toRat? = some rational ∧ value'.toRat? = some rational' ∧
        rational ≤ rational') ∧
    ∀ single : Single, ∃ double : Double, (toValue single : Value) = .float double ∧
      single.Widens double ∧ ((toValue single : Value).Written ↔ single.isFinite = true) := by
  refine ⟨?_, fun _ _ _ _ h h' => h.toRat_mono h', ?_⟩
  · intro number value h
    refine ⟨h.kept, fun hge => ?_, h.ofJson_integer, h.written⟩
    obtain ⟨hvalue, hnearest⟩ := h.rounded hge
    obtain ⟨rational, hrational, -, hbounds⟩ := h.exists_toRat
    rw [hvalue, toRat?, if_pos hnearest.finite] at hrational
    cases hrational
    exact ⟨_, hvalue, hnearest, hbounds hge⟩
  · intro single
    have hwidens := single.widens_toDouble
    refine ⟨single.toDouble, rfl, hwidens, ?_⟩
    rw [written_iff, ← hwidens.finite]
    exact List.forall_mem_singleton

/-- Halfway between two doubles the even one is taken, and the greatest word carries over to 2^64;
the least number of the narrow format is a double. -/
theorem numbers_kept_or_nearest_ties :
    let tie : UInt64 := 9223372036854776832
    let greatest : UInt64 := 18446744073709551615
    (toValue tie : Value) = .float ⟨0x43E0000000000000⟩ ∧
      (⟨0x43E0000000000000⟩ : Double).IsNearest 9223372036854776832 ∧
      (toValue greatest : Value) = .float ⟨0x43F0000000000000⟩ ∧
      (⟨0x43F0000000000000⟩ : Double).toRat ≤ 2 ^ 64 ∧
      (∃ rational rational', (toValue (-1 : Int64) : Value).toRat? = some rational ∧
        (toValue tie : Value).toRat? = some rational' ∧ rational ≤ rational') ∧
      (⟨0x36A0000000000000⟩ : Double).toRat = Single.toRat ⟨1⟩ := by
  intro tie greatest
  obtain ⟨hwords, hmono, hsingles⟩ := numbers_kept_or_nearest
  have htie : (toValue tie : Value) = .float ⟨0x43E0000000000000⟩ :=
    congrArg Value.float (by decide +kernel)
  have hgreatest : (toValue greatest : Value) = .float ⟨0x43F0000000000000⟩ :=
    congrArg Value.float (by decide +kernel)
  have hleast : (toValue (⟨1⟩ : Single) : Value) = .float ⟨0x36A0000000000000⟩ :=
    congrArg Value.float (by decide +kernel)
  obtain ⟨double, hdouble, hnearest, -⟩ := (hwords _ _ (.unsigned tie)).2.1 (by decide)
  rw [htie] at hdouble
  cases hdouble
  obtain ⟨double, hdouble, -, -, hle, -⟩ := (hwords _ _ (.unsigned greatest)).2.1 (by decide)
  rw [hgreatest] at hdouble
  cases hdouble
  obtain ⟨double, hdouble, hwidens, -⟩ := hsingles ⟨1⟩
  rw [hleast] at hdouble
  cases hdouble
  exact ⟨htie, hnearest, hgreatest, hle, hmono _ _ _ _ (.signed (-1)) (.unsigned tie) (by decide),
    hwidens.exact (by decide)⟩

end Value

end QueryFilter
