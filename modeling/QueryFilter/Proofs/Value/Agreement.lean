import QueryFilter.Proofs.Value.Structure

set_option autoImplicit false

/-!
# Values that agree

Doubles agree as numbers, so that the two zeros agree and what is not a number agrees with nothing.
Everything else agrees only with itself. Main statement: values agree if the first one holds no NaN
and both are the same once the signs of zeros are dropped (`Value.agrees_iff`).
-/

namespace QueryFilter

/-! ## Doubles -/

namespace Double

/-- Minus zero as zero, and any other number as it is. -/
def withoutZeroSign (number : Double) : Double := if number.magnitude = 0 then ⟨0⟩ else number

theorem withoutZeroSign_of_magnitude {number : Double} (h : number.magnitude ≠ 0) :
    number.withoutZeroSign = number := if_neg h

/-- Dropping the sign of a zero does not change how large a number is. -/
theorem magnitude_withoutZeroSign (number : Double) :
    number.withoutZeroSign.magnitude = number.magnitude := by
  unfold withoutZeroSign
  split
  · rename_i hzero
    rw [hzero]
    rfl
  · rfl

theorem isNaN_withoutZeroSign (number : Double) : number.withoutZeroSign.isNaN = number.isNaN := by
  rw [isNaN, isNaN, magnitude_withoutZeroSign]

theorem isNaN_of_isFinite {number : Double} (h : number.isFinite = true) :
    number.isNaN = false := by
  have hlt : number.magnitude < infinityMagnitude := of_decide_eq_true h
  exact decide_eq_false (by omega)

theorem numericallyEqual_iff {x y : Double} :
    x.numericallyEqual y = true ↔ x.isNaN = false ∧ x.withoutZeroSign = y.withoutZeroSign := by
  simp only [numericallyEqual, Bool.and_eq_true, Bool.or_eq_true, Bool.not_eq_true', beq_iff_eq]
  constructor
  · rintro ⟨⟨hx, -⟩, rfl | ⟨hzero, hzero'⟩⟩
    · exact ⟨hx, rfl⟩
    · exact ⟨hx, by rw [withoutZeroSign, withoutZeroSign, if_pos hzero, if_pos hzero']⟩
  · rintro ⟨hx, heq⟩
    have hmagnitude : x.magnitude = y.magnitude := by
      rw [← magnitude_withoutZeroSign x, heq, magnitude_withoutZeroSign]
    have hy : y.isNaN = false := by
      rw [← isNaN_withoutZeroSign, ← heq, isNaN_withoutZeroSign, hx]
    refine ⟨⟨hx, hy⟩, ?_⟩
    -- the numbers are the same word, unless both are zeros
    by_cases hzero : x.magnitude = 0
    · exact Or.inr ⟨hzero, hmagnitude ▸ hzero⟩
    · have hzero' : y.magnitude ≠ 0 := hmagnitude ▸ hzero
      rw [withoutZeroSign_of_magnitude hzero, withoutZeroSign_of_magnitude hzero'] at heq
      exact Or.inl heq

end Double

namespace Value

/-! ## Signs of zeros -/

mutual

/-- The value with every minus zero in it as zero. -/
def withoutZeroSigns : Value → Value
  | .float number => .float number.withoutZeroSign
  | .array items => .array (withoutZeroSignsInItems items)
  | .object entries => .object (withoutZeroSignsInEntries entries)
  | .bool flag => .bool flag
  | .int number => .int number
  | .text content => .text content

/-- The items with every minus zero in them as zero. -/
def withoutZeroSignsInItems : List Value → List Value
  | [] => []
  | item :: rest => withoutZeroSigns item :: withoutZeroSignsInItems rest

/-- The entries with every minus zero in them as zero. -/
def withoutZeroSignsInEntries : List (String × Value) → List (String × Value)
  | [] => []
  | (key, value) :: rest => (key, withoutZeroSigns value) :: withoutZeroSignsInEntries rest

end

theorem withoutZeroSignsInItems_eq_self {items : List Value}
    (h : ∀ item ∈ items, item.withoutZeroSigns = item) : withoutZeroSignsInItems items = items := by
  induction items with
  | nil => rfl
  | cons item rest ih =>
      obtain ⟨hitem, hrest⟩ := List.forall_mem_cons.1 h
      rw [withoutZeroSignsInItems, hitem, ih hrest]

theorem withoutZeroSignsInEntries_eq_self {entries : Payload}
    (h : ∀ entry ∈ entries, entry.2.withoutZeroSigns = entry.2) :
    withoutZeroSignsInEntries entries = entries := by
  induction entries with
  | nil => rfl
  | cons entry rest ih =>
      obtain ⟨hentry, hrest⟩ := List.forall_mem_cons.1 h
      rw [withoutZeroSignsInEntries, hentry, ih hrest]

/-- Where there is no zero there is no sign to drop. -/
theorem withoutZeroSigns_eq_self {value : Value}
    (h : ∀ number ∈ value.floats, number.magnitude ≠ 0) : value.withoutZeroSigns = value := by
  induction value with
  | bool flag => rfl
  | int number => rfl
  | float number =>
      have hnumber := h number (List.mem_singleton_self number)
      rw [withoutZeroSigns, Double.withoutZeroSign_of_magnitude hnumber]
  | text content => rfl
  | array items ih =>
      rw [withoutZeroSigns, withoutZeroSignsInItems_eq_self fun item hmem =>
        ih item hmem fun number hnumber => h number (mem_floats_of_mem_items hmem hnumber)]
  | object entries ih =>
      rw [withoutZeroSigns, withoutZeroSignsInEntries_eq_self fun entry hmem =>
        ih entry hmem fun number hnumber => h number (mem_floats_of_mem_entries hmem hnumber)]

/-! ## Agreement -/

/-- What it takes for values to agree. -/
def Matches (x y : Value) : Prop :=
  (∀ number ∈ x.floats, number.isNaN = false) ∧ x.withoutZeroSigns = y.withoutZeroSigns

theorem agreesItems_iff {xs ys : List Value}
    (h : ∀ x ∈ xs, ∀ y, agrees x y = true ↔ Matches x y) :
    agreesItems xs ys = true ↔ (∀ number ∈ floatsOfItems xs, number.isNaN = false) ∧
      withoutZeroSignsInItems xs = withoutZeroSignsInItems ys := by
  induction xs generalizing ys with
  | nil => cases ys <;> simp [agreesItems, floatsOfItems, withoutZeroSignsInItems]
  | cons x xs ih =>
      cases ys with
      | nil => simp [agreesItems, withoutZeroSignsInItems]
      | cons y ys =>
          obtain ⟨hx, hxs⟩ := List.forall_mem_cons.1 h
          rw [agreesItems, Bool.and_eq_true, hx y, ih hxs, Matches, floatsOfItems,
            List.forall_mem_append, withoutZeroSignsInItems, withoutZeroSignsInItems,
            List.cons.injEq]
          exact and_and_and_comm

theorem agreesEntries_iff {xs ys : Payload}
    (h : ∀ x ∈ xs, ∀ y, agrees x.2 y = true ↔ Matches x.2 y) :
    agreesEntries xs ys = true ↔ (∀ number ∈ floatsOfEntries xs, number.isNaN = false) ∧
      withoutZeroSignsInEntries xs = withoutZeroSignsInEntries ys := by
  induction xs generalizing ys with
  | nil => cases ys <;> simp [agreesEntries, floatsOfEntries, withoutZeroSignsInEntries]
  | cons x xs ih =>
      cases ys with
      | nil => simp [agreesEntries, withoutZeroSignsInEntries]
      | cons y ys =>
          obtain ⟨hx, hxs⟩ := List.forall_mem_cons.1 h
          rw [agreesEntries, Bool.and_eq_true, Bool.and_eq_true, beq_iff_eq, hx y.2, ih hxs,
            Matches, floatsOfEntries, List.forall_mem_append, withoutZeroSignsInEntries,
            withoutZeroSignsInEntries, List.cons.injEq, Prod.mk.injEq]
          tauto

/-- Values agree if the first one holds no NaN and both are the same but for the signs of zeros. -/
theorem agrees_iff {x y : Value} : x.agrees y = true ↔ Matches x y := by
  induction x generalizing y with
  | bool flag => cases y <;> simp [agrees, Matches, floats, withoutZeroSigns]
  | int number => cases y <;> simp [agrees, Matches, floats, withoutZeroSigns]
  | float number =>
      cases y <;>
        simp [agrees, Matches, floats, withoutZeroSigns, Double.numericallyEqual_iff]
  | text content => cases y <;> simp [agrees, Matches, floats, withoutZeroSigns]
  | array items ih =>
      cases y with
      | array others =>
          rw [agrees, agreesItems_iff fun x hx _ => ih x hx, Matches, withoutZeroSigns,
            withoutZeroSigns, Value.array.injEq]
          rfl
      | _ => simp [agrees, Matches, withoutZeroSigns]
  | object entries ih =>
      cases y with
      | object others =>
          rw [agrees, agreesEntries_iff fun x hx _ => ih x hx, Matches, withoutZeroSigns,
            withoutZeroSigns, Value.object.injEq]
          rfl
      | _ => simp [agrees, Matches, withoutZeroSigns]

end Value

namespace Payload

/-- The filter object with every minus zero in it as zero. -/
def withoutZeroSigns (payload : Payload) : Payload := Value.withoutZeroSignsInEntries payload

theorem agrees_iff {x y : Payload} :
    x.agrees y = true ↔ (∀ number ∈ x.floats, number.isNaN = false) ∧
      x.withoutZeroSigns = y.withoutZeroSigns :=
  Value.agreesEntries_iff fun _ _ _ => Value.agrees_iff

theorem withoutZeroSigns_eq_self {payload : Payload}
    (h : ∀ number ∈ payload.floats, number.magnitude ≠ 0) : payload.withoutZeroSigns = payload :=
  Value.object.inj (Value.withoutZeroSigns_eq_self h)

end Payload

end QueryFilter
