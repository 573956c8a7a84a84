import Mathlib.Tactic.Common
import QueryFilter.Proofs.Json.Number
import QueryFilter.Text.Blank

set_option autoImplicit false

/-!
# Where the characters of a JSON text stand

A scanner goes through a text and tells of each character whether it stands in a string literal. A
quote that is escaped does not end a literal, so the scanner knows a third place, behind a
backslash. Texts that begin and end outside of literals can be put together: what holds of the parts
holds of the whole (`Tight.append`, `Spaced.append`).
-/

namespace QueryFilter

/-! ## Scanning -/

/-- Where a character of a JSON text stands. -/
inductive Place where
  /-- not in a literal; the quote that begins one stands here, too -/
  | outside
  /-- in a literal, as the quote that ends it -/
  | inside
  /-- in a literal, behind the backslash that escapes it -/
  | escaped
  deriving DecidableEq

namespace Place

/-- Where the character behind this one stands. -/
def next : Place → Char → Place
  | .outside, c => if c = '"' then .inside else .outside
  | .inside, c => if c = '"' then .outside else if c = '\\' then .escaped else .inside
  | .escaped, _ => .inside

/-- Where the character behind a text stands. -/
def after (place : Place) (text : List Char) : Place := text.foldl next place

/-- The characters of a text, each with its place. -/
def scan (place : Place) : List Char → List (Place × Char)
  | [] => []
  | c :: rest => (place, c) :: scan (place.next c) rest

theorem after_append (place : Place) (first second : List Char) :
    place.after (first ++ second) = (place.after first).after second := List.foldl_append

theorem scan_append (place : Place) (first second : List Char) :
    place.scan (first ++ second) = place.scan first ++ (place.after first).scan second := by
  induction first generalizing place with
  | nil => rfl
  | cons c rest ih =>
      show (place, c) :: (place.next c).scan (rest ++ second) = _
      rw [ih]
      rfl

/-- Without a quote one stays outside of literals. -/
theorem scan_of_no_quote {text : List Char} (h : ∀ c ∈ text, c ≠ '"') :
    outside.after text = .outside ∧ outside.scan text = text.map (Prod.mk .outside) := by
  induction text with
  | nil => exact ⟨rfl, rfl⟩
  | cons c rest ih =>
      obtain ⟨hc, hrest⟩ := List.forall_mem_cons.1 h
      have hnext : outside.next c = .outside := if_neg hc
      obtain ⟨hafter, hscan⟩ := ih hrest
      constructor
      · show (outside.next c).after rest = _
        rw [hnext, hafter]
      · rw [scan, hnext, hscan, List.map_cons]

end Place

/-! ## What is said of the places -/

open Place

/-- No white space stands outside of literals. -/
def NoBlankOutside (text : List Char) : Prop :=
  ∀ cell ∈ outside.scan text, cell.1 = .outside → isBlank cell.2 = false

/-- No control character stands in a literal. -/
def NoControlInside (text : List Char) : Prop :=
  ∀ cell ∈ outside.scan text, cell.1 ≠ .outside → 0x20 ≤ cell.2.toNat

/-- Is this a space or a line feed outside of literals? -/
def isSpacing (cell : Place × Char) : Bool :=
  cell.1 == .outside && (cell.2 == ' ' || cell.2 == '\n')

/-- The text without the spaces and line feeds outside of its literals. -/
def withoutSpacing (text : List Char) : List Char :=
  ((outside.scan text).filter fun cell => !isSpacing cell).map Prod.snd

section Append

variable {first : List Char} (h : outside.after first = .outside) (second : List Char)

include h

theorem scan_append_of_closed :
    outside.scan (first ++ second) = outside.scan first ++ outside.scan second := by
  rw [scan_append, h]

theorem withoutSpacing_append :
    withoutSpacing (first ++ second) = withoutSpacing first ++ withoutSpacing second := by
  rw [withoutSpacing, scan_append_of_closed h, List.filter_append, List.map_append]
  rfl

variable {second}

theorem NoBlankOutside.append (hfirst : NoBlankOutside first) (hsecond : NoBlankOutside second) :
    NoBlankOutside (first ++ second) := by
  intro cell hcell
  rw [scan_append_of_closed h] at hcell
  exact (List.mem_append.1 hcell).elim (hfirst cell) (hsecond cell)

theorem NoControlInside.append (hfirst : NoControlInside first)
    (hsecond : NoControlInside second) : NoControlInside (first ++ second) := by
  intro cell hcell
  rw [scan_append_of_closed h] at hcell
  exact (List.mem_append.1 hcell).elim (hfirst cell) (hsecond cell)

end Append

/-- Nothing stands inside of literals if there are none. -/
theorem noControlInside_of_no_quote {text : List Char} (h : ∀ c ∈ text, c ≠ '"') :
    NoControlInside text := by
  intro cell hcell hplace
  rw [(scan_of_no_quote h).2] at hcell
  obtain ⟨c, -, rfl⟩ := List.mem_map.1 hcell
  exact absurd rfl hplace

theorem map_snd_scan (place : Place) (text : List Char) :
    (place.scan text).map Prod.snd = text := by
  induction text generalizing place with
  | nil => rfl
  | cons c rest ih => rw [scan, List.map_cons, ih]

/-! ## Tight texts -/

/-- The text begins and ends outside of literals, and it has neither white space outside nor control
characters inside of them. -/
structure Tight (text : List Char) : Prop where
  closed : outside.after text = .outside
  noBlank : NoBlankOutside text
  noControl : NoControlInside text

namespace Tight

variable {text other : List Char}

theorem append (h : Tight text) (hother : Tight other) : Tight (text ++ other) where
  closed := by rw [after_append, h.closed, hother.closed]
  noBlank := NoBlankOutside.append h.closed h.noBlank hother.noBlank
  noControl := NoControlInside.append h.closed h.noControl hother.noControl

/-- Without quotes and white space there is nothing to tell. -/
theorem of_plain (h : ∀ c ∈ text, c ≠ '"' ∧ isBlank c = false) : Tight text := by
  have hquote : ∀ c ∈ text, c ≠ '"' := fun c hc => (h c hc).1
  obtain ⟨hafter, hscan⟩ := scan_of_no_quote hquote
  refine ⟨hafter, ?_, noControlInside_of_no_quote hquote⟩
  intro cell hcell _
  rw [hscan] at hcell
  obtain ⟨c, hc, rfl⟩ := List.mem_map.1 hcell
  exact (h c hc).2

/-- A tight text has no spacing to drop. -/
theorem withoutSpacing_eq (h : Tight text) : withoutSpacing text = text := by
  have hkept : (outside.scan text).filter (fun cell => !isSpacing cell) = outside.scan text := by
    refine List.filter_eq_self.2 fun cell hcell => ?_
    by_contra hspacing
    have hcases : isSpacing cell = true := by simpa using hspacing
    obtain ⟨hplace, hspace⟩ := Bool.and_eq_true_iff.1 hcases
    have hblank := h.noBlank cell hcell (eq_of_beq hplace)
    rcases Bool.or_eq_true_iff.1 hspace with hc | hc
    · rw [eq_of_beq hc] at hblank
      exact absurd hblank (by decide)
    · rw [eq_of_beq hc] at hblank
      exact absurd hblank (by decide)
  rw [withoutSpacing, hkept, map_snd_scan]

end Tight

/-! ## Words and literals -/

theorem isBlank_of_printable {c : Char} (hlow : 0x20 < c.toNat) (hhigh : c.toNat < 0x7F) :
    isBlank c = false := by
  simp only [isBlank, blankRanges, List.any_cons, List.any_nil, Bool.or_false, Bool.or_eq_false_iff,
    Bool.and_eq_false_iff, decide_eq_false_iff_not]
  omega

theorem printable_of_isWordCharacter {c : Char} (h : JsonToken.isWordCharacter c = true) :
    0x22 < c.toNat ∧ c.toNat < 0x7F := by
  change (decide (65 ≤ c.val ∧ c.val ≤ 90) || (decide (97 ≤ c.val) && decide (c.val ≤ 122)) ||
    (decide (48 ≤ c.val) && decide (c.val ≤ 57)) || c == '+' || c == '-' || c == '.') = true at h
  simp only [Bool.or_eq_true, Bool.and_eq_true, decide_eq_true_eq, beq_iff_eq,
    UInt32.le_iff_toNat_le] at h
  change (((((65 ≤ c.toNat ∧ c.toNat ≤ 90) ∨ (97 ≤ c.toNat ∧ c.toNat ≤ 122)) ∨
    (48 ≤ c.toNat ∧ c.toNat ≤ 57)) ∨ c = '+') ∨ c = '-') ∨ c = '.' at h
  rcases h with ((((hupper | hlower) | hdigit) | rfl) | rfl) | rfl
  · omega
  · omega
  · omega
  · decide
  · decide
  · decide

theorem Tight.word {text : List Char}
    (h : ∀ c ∈ text, JsonToken.isWordCharacter c = true) : Tight text := by
  refine .of_plain fun c hc => ?_
  obtain ⟨hlow, hhigh⟩ := printable_of_isWordCharacter (h c hc)
  refine ⟨?_, isBlank_of_printable (by omega) hhigh⟩
  rintro rfl
  exact absurd hlow (by decide)

/-- The text stays in the literal that it begins in, and holds no control character. -/
structure Contained (text : List Char) : Prop where
  after_eq : inside.after text = .inside
  cells : ∀ cell ∈ inside.scan text, cell.1 ≠ .outside ∧ 0x20 ≤ cell.2.toNat

namespace Contained

theorem nil : Contained [] := ⟨rfl, by simp [scan]⟩

theorem append {text other : List Char} (h : Contained text) (hother : Contained other) :
    Contained (text ++ other) := by
  refine ⟨?_, ?_⟩
  · rw [after_append, h.after_eq, hother.after_eq]
  · intro cell hcell
    rw [scan_append, h.after_eq] at hcell
    exact (List.mem_append.1 hcell).elim (h.cells cell) (hother.cells cell)

/-- A character that stands for itself stays in the literal. -/
theorem plain {c : Char} (hquote : c ≠ '"') (hbackslash : c ≠ '\\') (hcontrol : 0x20 ≤ c.toNat) :
    Contained [c] := by
  refine ⟨?_, ?_⟩
  · show inside.next c = .inside
    rw [next, if_neg hquote, if_neg hbackslash]
  · intro cell hcell
    rw [List.mem_singleton.1 hcell]
    exact ⟨Place.noConfusion, hcontrol⟩

/-- A backslash and the character behind it stay in the literal, even if that is a quote. -/
theorem backslash {c : Char} (hcontrol : 0x20 ≤ c.toNat) : Contained ['\\', c] := by
  refine ⟨rfl, ?_⟩
  intro cell hcell
  rcases List.mem_cons.1 hcell with rfl | hlast
  · exact ⟨Place.noConfusion, by decide⟩
  · rw [List.mem_singleton.1 hlast]
    exact ⟨Place.noConfusion, hcontrol⟩

theorem digits (width number : Nat) : Contained (paddedDigits 16 width number) := by
  have hdigit : ∀ digit < 16, digitCharacter digit ≠ '"' ∧ digitCharacter digit ≠ '\\' ∧
      0x20 ≤ (digitCharacter digit).toNat := by decide
  induction width generalizing number with
  | zero => exact .nil
  | succ width ih =>
      obtain ⟨hquote, hbackslash, hcontrol⟩ :=
        hdigit (number % 16) (Nat.mod_lt number (by decide))
      exact (ih (number / 16)).append (.plain hquote hbackslash hcontrol)

/-- A character stays in the literal in the way it is written there. -/
theorem escaped (c : Char) : Contained (QueryFilter.escaped c) := by
  unfold QueryFilter.escaped
  split
  · exact .backslash (by decide)
  split
  · exact .backslash (by decide)
  split
  · exact .backslash (by decide)
  split
  · exact .backslash (by decide)
  split
  · exact .backslash (by decide)
  split
  · exact .backslash (by decide)
  split
  · exact .backslash (by decide)
  split
  · -- the escaped letter is followed by the number of the character
    show Contained (['\\', 'u'] ++ paddedDigits 16 4 c.toNat)
    exact (backslash (by decide)).append (digits 4 c.toNat)
  · rename_i hquote hbackslash _ _ _ _ _ hcontrol
    exact .plain hquote hbackslash (by omega)

theorem flatMap_escaped (text : List Char) : Contained (text.flatMap QueryFilter.escaped) := by
  induction text with
  | nil => exact .nil
  | cons c rest ih =>
      rw [List.flatMap_cons]
      exact (escaped c).append ih

end Contained

/-- Outside of literals stands only the quote that begins a literal. -/
theorem scan_quoted (text : List Char) :
    outside.scan (QueryFilter.quoted text)
      = (.outside, '"') ::
          (inside.scan (text.flatMap QueryFilter.escaped) ++ [(.inside, '"')]) := by
  show (Place.outside, '"') :: inside.scan (text.flatMap QueryFilter.escaped ++ ['"']) = _
  rw [scan_append, (Contained.flatMap_escaped text).after_eq]
  rfl

/-- A literal begins and ends outside of literals, and its text stays inside. -/
theorem Tight.quoted (text : List Char) : Tight (QueryFilter.quoted text) := by
  obtain ⟨hafter, hcells⟩ := Contained.flatMap_escaped text
  refine ⟨?_, ?_, ?_⟩
  · show inside.after (text.flatMap QueryFilter.escaped ++ ['"']) = .outside
    rw [after_append, hafter]
    rfl
  · intro cell hcell hplace
    rw [scan_quoted] at hcell
    rcases List.mem_cons.1 hcell with rfl | hinside
    · rfl
    rcases List.mem_append.1 hinside with hmem | hlast
    · exact absurd hplace (hcells cell hmem).1
    · rw [List.mem_singleton.1 hlast] at hplace
      cases hplace
  · intro cell hcell hplace
    rw [scan_quoted] at hcell
    rcases List.mem_cons.1 hcell with rfl | hinside
    · exact absurd rfl hplace
    rcases List.mem_append.1 hinside with hmem | hlast
    · exact (hcells cell hmem).2
    · rw [List.mem_singleton.1 hlast]
      decide

/-! ## Spaced texts -/

/-- The first text is the second one, which is tight, with spaces and line feeds between its parts;
and it has no control characters inside of literals either. -/
structure Spaced (spaced text : List Char) : Prop where
  closed : outside.after spaced = .outside
  withoutSpacing_eq : withoutSpacing spaced = text
  noControl : NoControlInside spaced
  tight : Tight text

theorem Tight.spaced {text : List Char} (h : Tight text) : Spaced text text :=
  ⟨h.closed, h.withoutSpacing_eq, h.noControl, h⟩

namespace Spaced

variable {spaced text spaced' text' : List Char}

theorem append (h : Spaced spaced text) (h' : Spaced spaced' text') :
    Spaced (spaced ++ spaced') (text ++ text') where
  closed := by rw [after_append, h.closed, h'.closed]
  withoutSpacing_eq := by
    rw [withoutSpacing_append h.closed, h.withoutSpacing_eq, h'.withoutSpacing_eq]
  noControl := NoControlInside.append h.closed h.noControl h'.noControl
  tight := h.tight.append h'.tight

/-- A gap is nothing with spaces and line feeds in it. -/
theorem gap (h : ∀ c ∈ spaced, c = ' ' ∨ c = '\n') : Spaced spaced [] := by
  have hquote : ∀ c ∈ spaced, c ≠ '"' := by
    rintro c hc rfl
    exact absurd (h _ hc) (by decide)
  obtain ⟨hafter, hscan⟩ := scan_of_no_quote hquote
  refine ⟨hafter, ?_, noControlInside_of_no_quote hquote, .of_plain (by simp)⟩
  rw [withoutSpacing, hscan, List.map_eq_nil_iff, List.filter_eq_nil_iff]
  intro cell hcell
  obtain ⟨c, hc, rfl⟩ := List.mem_map.1 hcell
  rcases h c hc with rfl | rfl
  · decide
  · decide

end Spaced

end QueryFilter
