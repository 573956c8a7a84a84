import Mathlib.Tactic.Common
import QueryFilter.Proofs.Calendar.Date

set_option autoImplicit false

/-!
# The texts of instants

The text of an instant says everything but the odd seconds of its offset (`Instant.WrittenAs`), and
can be read back (`Instant.ofText?_text`). It denotes the moment of the instant up to those seconds
(`Instant.WrittenAs.moment_eq_iff`), and belongs to the grammar of date-times unless the year or the
offset takes more places than that has (`Instant.isDateTime_text_iff`). Main statement: all of this
for the value that an instant becomes (`Instant.text_kept_to_minutes`).
-/

namespace QueryFilter

/-! ## Fractions -/

theorem readFraction?_of_no_point {text : List Char} (h : text.head? ≠ some '.') :
    readFraction? text = some (0, text) := by
  cases text with
  | nil => rfl
  | cons c rest =>
      rw [readFraction?]
      rintro rest' ⟨⟩
      exact h rfl

/-- The digits of a fraction are its first places of nine. -/
theorem readFraction?_digits {width number : Nat} (hpos : 0 < width) (hwidth : width ≤ 9)
    (h : number < 10 ^ width) {rest : List Char} (hrest : ∀ c ∈ rest.head?, c.isDigit = false) :
    readFraction? ('.' :: paddedDigits 10 width number ++ rest)
      = some (number * 10 ^ (9 - width), rest) := by
  have hlength : (paddedDigits 10 width number).length = width := length_paddedDigits 10 width _
  have hdigits : ∀ c ∈ paddedDigits 10 width number, c.isDigit = true :=
    fun _ => isDigit_of_mem_paddedDigits
  have hne : paddedDigits 10 width number ≠ [] := by
    intro hnil
    rw [hnil] at hlength
    exact hpos.ne hlength
  rw [List.cons_append, readFraction?, takeWhile_run hdigits hrest, dropWhile_run hdigits hrest,
    hlength, if_neg (by simpa [hne] using hwidth), valueOfDigits_append_zeros,
    valueOfDigits_paddedDigits h]

namespace Instant

/-- The sign of the offset. -/
def sign (instant : Instant) : Char := if instant.offset < 0 then '-' else '+'

theorem sign_cases (instant : Instant) : instant.sign = '+' ∨ instant.sign = '-' := by
  unfold sign
  split_ifs
  · exact Or.inr rfl
  · exact Or.inl rfl

theorem sign_ends_fraction (instant : Instant) :
    instant.sign.isDigit = false ∧ instant.sign ≠ '.' := by
  rcases instant.sign_cases with h | h
  all_goals
    rw [h]
    decide

theorem readSign?_sign (instant : Instant) (rest : List Char) :
    readSign? (instant.sign :: rest) = some (decide (instant.offset < 0), rest) := by
  unfold sign
  split_ifs with h
  · rw [decide_eq_true h]
    rfl
  · rw [decide_eq_false h]
    rfl

/-- The fraction of a second is read back; the sign of the offset ends it. -/
theorem readFraction?_fractionText (instant : Instant) (rest : List Char) :
    readFraction? (instant.fractionText ++ instant.sign :: rest)
      = some (instant.nanosecond % nanosecondsPerSecond, instant.sign :: rest) := by
  have hlt : instant.nanosecond % nanosecondsPerSecond < 1000000000 := Nat.mod_lt _ (by decide)
  obtain ⟨hdigit, hpoint⟩ := instant.sign_ends_fraction
  have hrest : ∀ c ∈ (instant.sign :: rest).head?, c.isDigit = false := by
    rintro c ⟨⟩
    exact hdigit
  rw [fractionText]
  generalize instant.nanosecond % nanosecondsPerSecond = fraction at *
  split_ifs with hzero hmilli hmicro
  · rw [List.nil_append, readFraction?_of_no_point (by simpa using hpoint), hzero]
  all_goals
    rw [readFraction?_digits (by decide) (by decide) (by omega) hrest]
    congr 2
    omega

/-! ## Reading -/

/-- What the text of an instant says of it. -/
structure WrittenAs (instant : Instant) (written : WrittenInstant) : Prop where
  date : written.date = instant.date
  hour : written.hour = instant.hour
  minute : written.minute = instant.minute
  /-- a leap second is second 60 -/
  second : written.second
    = if instant.nanosecond < nanosecondsPerSecond then instant.second else 60
  nanosecond : written.nanosecond = instant.nanosecond % nanosecondsPerSecond
  isNegative : written.isNegative = decide (instant.offset < 0)
  minutes : written.minutes = (instant.offset.natAbs + 30) / 60

theorem text_eq (instant : Instant) :
    instant.text = instant.date.text ++ 'T' :: (paddedDigits 10 2 instant.hour ++
      ':' :: (paddedDigits 10 2 instant.minute ++
        ':' :: (paddedDigits 10 2 instant.writtenSecond ++ (instant.fractionText ++
          instant.sign :: (paddedDigits 10 2 (instant.offsetMinutes / 60) ++
            ':' :: paddedDigits 10 2 (instant.offsetMinutes % 60)))))) := by
  simp only [text, clockText, offsetText, sign, List.append_assoc, List.cons_append]

theorem writtenSecond_eq (instant : Instant) :
    instant.writtenSecond
      = if instant.nanosecond < nanosecondsPerSecond then instant.second else 60 := by
  have hlt := instant.nanosecond_lt
  have hleap := instant.second_of_leap
  unfold writtenSecond nanosecondsPerSecond at *
  split_ifs with h
  · omega
  · have hlast := hleap (by omega)
    omega

theorem readHourMinute?_digits {hour minute : Nat} (hhour : hour < 100) (hminute : minute < 100)
    (rest : List Char) :
    readHourMinute? (paddedDigits 10 2 hour ++ ':' :: (paddedDigits 10 2 minute ++ rest))
      = some (hour, minute, rest) := by
  rw [readHourMinute?, readNumber?_paddedDigits hhour]
  simp only [Option.bind_eq_bind, Option.bind_some, readMark?_cons,
    readNumber?_paddedDigits (show minute < 10 ^ 2 from hminute), pure]

/-- The text of an instant is read back. -/
theorem ofText?_text (instant : Instant) :
    ∃ written, WrittenInstant.ofText? (String.ofList instant.text) = some written ∧
      instant.WrittenAs written := by
  have hhour := instant.hour_lt
  have hminute := instant.minute_lt
  have hsecond : instant.writtenSecond < 10 ^ 2 := by have := instant.writtenSecond_le; omega
  have hoffset := instant.offsetMinutes_le
  have hclock := readHourMinute?_digits (show instant.hour < 100 by omega)
    (show instant.minute < 100 by omega)
  have hlast := readHourMinute?_digits (show instant.offsetMinutes / 60 < 100 by omega)
    (show instant.offsetMinutes % 60 < 100 by omega) []
  rw [List.append_nil] at hlast
  have hread : WrittenInstant.read? instant.text
      = some (⟨instant.date, instant.hour, instant.minute, instant.writtenSecond,
          instant.nanosecond % nanosecondsPerSecond, decide (instant.offset < 0),
          60 * (instant.offsetMinutes / 60) + instant.offsetMinutes % 60⟩, []) := by
    rw [WrittenInstant.read?, text_eq, Date.read?_text]
    simp only [Option.bind_eq_bind, Option.bind_some, readMark?_cons, hclock,
      readNumber?_paddedDigits hsecond, readFraction?_fractionText, readSign?_sign, hlast, pure]
  refine ⟨_, by rw [WrittenInstant.ofText?, String.toList_ofList, hread], ?_⟩
  exact
    { date := rfl
      hour := rfl
      minute := rfl
      second := instant.writtenSecond_eq
      nanosecond := rfl
      isNegative := rfl
      minutes := Nat.div_add_mod _ _ }

/-! ## Moments -/

namespace WrittenAs

variable {instant other : Instant} {written : WrittenInstant}

/-- The moments differ by what the offsets differ. -/
theorem moment_eq (h : instant.WrittenAs written) :
    written.moment
      = ⟨instant.moment.second + (instant.offset - written.offset), instant.moment.nanosecond⟩ := by
  have hunit : nanosecondsPerSecond = 1000000000 := rfl
  have hlt := instant.nanosecond_lt
  have hsecond := instant.second_lt
  unfold WrittenInstant.moment moment
  rw [h.date, h.hour, h.minute, h.second, h.nanosecond]
  by_cases hleap : instant.nanosecond < nanosecondsPerSecond
  · rw [if_pos hleap, if_neg (by omega), Nat.mod_eq_of_lt hleap, Moment.mk.injEq]
    dsimp only
    exact ⟨by omega, rfl⟩
  · have hlast := instant.second_of_leap (Nat.not_lt.1 hleap)
    have hrest : instant.nanosecond % nanosecondsPerSecond + nanosecondsPerSecond
        = instant.nanosecond := by
      rw [hunit]
      omega
    rw [if_neg hleap, if_pos rfl, hlast, hrest, Moment.mk.injEq]
    dsimp only
    exact ⟨by omega, rfl⟩

/-- The offset is rounded to the nearest minute. -/
theorem offset_bounds (h : instant.WrittenAs written) :
    (written.offset = instant.offset ↔ 60 ∣ instant.offset) ∧
      (written.offset - instant.offset).natAbs ≤ 30 := by
  unfold WrittenInstant.offset
  rw [h.isNegative, h.minutes]
  by_cases hnegative : instant.offset < 0
  · rw [decide_eq_true hnegative, if_pos rfl]
    omega
  · rw [decide_eq_false hnegative, if_neg Bool.false_ne_true]
    omega

/-- The text denotes the moment of the instant exactly if the offset is one of whole minutes. -/
theorem moment_eq_iff (h : instant.WrittenAs written) :
    written.moment = instant.moment ↔ 60 ∣ instant.offset := by
  rw [← h.offset_bounds.1, h.moment_eq]
  constructor
  · intro hmoment
    have hsecond := congrArg Moment.second hmoment
    dsimp only at hsecond
    omega
  · intro hoffset
    rw [hoffset, sub_self, add_zero]

/-- An instant with an offset of whole minutes is all that is written. -/
theorem eq_of_dvd (h : instant.WrittenAs written) (h' : other.WrittenAs written)
    (hdvd : 60 ∣ instant.offset) (hdvd' : 60 ∣ other.offset) : instant = other := by
  have hoffset : instant.offset = other.offset :=
    (h.offset_bounds.1.2 hdvd).symm.trans (h'.offset_bounds.1.2 hdvd')
  have hdate : instant.date = other.date := h.date.symm.trans h'.date
  have hhour : instant.hour = other.hour := h.hour.symm.trans h'.hour
  have hminute : instant.minute = other.minute := h.minute.symm.trans h'.minute
  -- only a leap second is second 60, so both are in one or neither
  have hclock : instant.second = other.second ∧ instant.nanosecond = other.nanosecond := by
    have hsecond := h.second.symm.trans h'.second
    have hnanosecond := h.nanosecond.symm.trans h'.nanosecond
    have hlt := instant.second_lt
    have hlt' := other.second_lt
    have hbound := instant.nanosecond_lt
    have hbound' := other.nanosecond_lt
    have hleap := instant.second_of_leap
    have hleap' := other.second_of_leap
    unfold nanosecondsPerSecond at *
    split_ifs at hsecond
    all_goals omega
  obtain ⟨hsecond, hnanosecond⟩ := hclock
  cases instant
  cases other
  cases hdate
  cases hhour
  cases hminute
  cases hsecond
  cases hnanosecond
  cases hoffset
  rfl

end WrittenAs

/-! ## The grammar -/

theorem isFraction_fractionText (instant : Instant) : IsFraction instant.fractionText := by
  have hdigits : ∀ {width number : Nat}, 0 < width →
      IsFraction ('.' :: paddedDigits 10 width number) := by
    intro width number hpos
    refine .some (List.ne_nil_of_length_pos ?_) fun _ => isDigit_of_mem_paddedDigits
    rwa [length_paddedDigits]
  rw [fractionText]
  split_ifs
  · exact .none
  all_goals exact hdigits (by decide)

theorem isPartialTime_text (instant : Instant) :
    IsPartialTime (instant.clockText ++ instant.fractionText) := by
  have hhour := instant.hour_lt
  have hminute := instant.minute_lt
  have hsecond := instant.writtenSecond_le
  exact .intro (isNumeral_paddedDigits (by omega) (Nat.zero_le _) (by omega))
    (isNumeral_paddedDigits (by omega) (Nat.zero_le _) (by omega))
    (isNumeral_paddedDigits (by omega) (Nat.zero_le _) hsecond) instant.isFraction_fractionText

/-- An offset that is not rounded to a whole day has the form that is wanted. -/
theorem isTimeOffset_offsetText {instant : Instant} (h : instant.offset.natAbs < 86370) :
    IsTimeOffset instant.offsetText := by
  have hminutes : instant.offsetMinutes < 1440 := by
    unfold offsetMinutes
    omega
  exact .numeric instant.sign_cases
    (isNumeral_paddedDigits (by omega) (Nat.zero_le _) (by omega))
    (isNumeral_paddedDigits (by omega) (Nat.zero_le _) (by omega))

theorem text_parts (instant : Instant) :
    instant.text
      = instant.date.text ++ 'T' :: (instant.clockText ++ instant.fractionText)
        ++ instant.offsetText := by
  simp only [text, List.append_assoc, List.cons_append]

theorem digit_suffix_text (instant : Instant) :
    [digitCharacter (instant.offsetMinutes % 60 % 10)] <:+ instant.text := by
  have hminutes : [digitCharacter (instant.offsetMinutes % 60 % 10)]
      <:+ paddedDigits 10 2 (instant.offsetMinutes % 60) := List.suffix_append _ _
  have hoffset : paddedDigits 10 2 (instant.offsetMinutes % 60) <:+ instant.offsetText :=
    (List.suffix_cons ':' _).trans (List.suffix_append _ _)
  exact (hminutes.trans hoffset).trans (List.suffix_append _ _)

/-- A text that ends with an offset of the wanted form is not one of an offset of a whole day. -/
theorem natAbs_offset_lt {instant : Instant} {front offset : List Char}
    (htext : instant.text = front ++ offset) (h : IsTimeOffset offset) :
    instant.offset.natAbs < 86370 := by
  rw [text_parts] at htext
  cases h with
  | @universal letter hletter =>
      -- the text ends with a digit
      have hdigit := isDigit_digitCharacter (instant.offsetMinutes % 60 % 10)
        (Nat.mod_lt _ (by decide))
      obtain ⟨before, hbefore⟩ := instant.digit_suffix_text
      rw [← text_parts, ← hbefore] at htext
      obtain ⟨-, hlast⟩ := List.append_inj' htext rfl
      rw [(List.cons.inj hlast).1] at hdigit
      rcases hletter with rfl | rfl
      · cases hdigit
      · cases hdigit
  | @numeric sign hour minute hsign hhour hminute =>
      have hlength : (paddedDigits 10 2 (instant.offsetMinutes / 60)).length = hour.length := by
        rw [length_paddedDigits, hhour.length_eq]
      obtain ⟨-, hoffset⟩ := List.append_inj' htext
        (by simp [offsetText, length_paddedDigits, hhour.length_eq, hminute.length_eq])
      rw [offsetText, List.cons_append, List.cons_append, List.cons.injEq] at hoffset
      obtain ⟨hhours, -⟩ := List.append_inj hoffset.2 hlength
      have hle := hhour.value_le
      have hday := instant.offsetMinutes_le
      rw [← hhours, valueOfDigits_paddedDigits (by omega)] at hle
      unfold offsetMinutes at hle
      omega

/-- A text that begins with a date of the wanted form is one of a plain year. -/
theorem hasPlainYear_of_isFullDate {instant : Instant} {date rest : List Char}
    (htext : instant.text = date ++ rest) (h : IsFullDate date) : instant.date.HasPlainYear := by
  obtain ⟨c, hhead, hdigit⟩ : ∃ c, instant.text.head? = some c ∧ c.isDigit = true := by
    cases h with
    | @intro year month day hyear hmonth hday =>
        cases year with
        | nil => cases hyear.length_eq
        | cons c year =>
            rw [htext]
            exact ⟨c, rfl, hyear.isDigit c List.mem_cons_self⟩
  -- a sign is no digit
  have hfront : ∀ sign, instant.date.text.head? = some sign → sign = c := by
    intro sign hsign
    rw [text_eq, List.head?_append, hsign, Option.some_or] at hhead
    exact Option.some.inj hhead
  refine ⟨Int.not_lt.1 fun hneg => ?_, Int.not_lt.1 fun hlarge => ?_⟩
  · rw [← hfront '-' (Date.head?_text_of_neg hneg)] at hdigit
    cases hdigit
  · rw [← hfront '+' (Date.head?_text_of_large hlarge)] at hdigit
    cases hdigit

/-- The text belongs to the grammar if the year has four digits and the offset is less than a day
when it is rounded. -/
theorem isDateTime_text_iff (instant : Instant) :
    IsDateTime instant.text ↔ instant.date.HasPlainYear ∧ instant.offset.natAbs < 86370 := by
  constructor
  · intro h
    generalize htext : instant.text = text at h
    cases h with
    | @intro date time offset letter hdate hletter htime hoffset =>
        have hfront : instant.text = date ++ (letter :: time ++ offset) := by
          rw [htext, List.append_assoc]
        exact ⟨hasPlainYear_of_isFullDate hfront hdate, natAbs_offset_lt htext hoffset⟩
  · rintro ⟨hyear, hoffset⟩
    rw [text_parts]
    exact .intro (Date.isFullDate_text hyear) (Or.inl rfl) instant.isPartialTime_text
      (isTimeOffset_offsetText hoffset)

/-! ## Main statement -/

/-- The text that an instant becomes keeps its date and time of day on the clock, to the nanosecond,
and its offset to the minute. It denotes the same moment exactly if the offset is one of whole
minutes, and is otherwise at most thirty seconds off. It is a date-time of the grammar exactly if
the year is plain and the offset is not rounded to a whole day. Different instants with offsets of
whole minutes have different texts. -/
theorem text_kept_to_minutes :
    (∀ instant : Instant, ∃ text written, (toValue instant : Value) = .text text ∧
      WrittenInstant.ofText? text = some written ∧ instant.WrittenAs written ∧
      (written.moment = instant.moment ↔ 60 ∣ instant.offset) ∧
      written.moment.nanosecond = instant.moment.nanosecond ∧
      (written.moment.second - instant.moment.second).natAbs ≤ 30 ∧
      (IsDateTime text.toList ↔
        instant.date.HasPlainYear ∧ instant.offset.natAbs < 86370)) ∧
    ∀ instant other : Instant, 60 ∣ instant.offset → 60 ∣ other.offset →
      (toValue instant : Value) = toValue other → instant = other := by
  constructor
  · intro instant
    obtain ⟨written, hread, hwritten⟩ := instant.ofText?_text
    have hmoment := hwritten.moment_eq
    have hoffset := hwritten.offset_bounds.2
    refine ⟨_, written, rfl, hread, hwritten, hwritten.moment_eq_iff, ?_, ?_, ?_⟩
    · rw [hmoment]
    · rw [hmoment]
      dsimp only
      omega
    · rw [String.toList_ofList]
      exact instant.isDateTime_text_iff
  · intro instant other hdvd hdvd' h
    obtain ⟨written, hread, hwritten⟩ := instant.ofText?_text
    obtain ⟨written', hread', hwritten'⟩ := other.ofText?_text
    have htext : String.ofList instant.text = String.ofList other.text := Value.text.inj h
    rw [htext, hread'] at hread
    cases hread
    exact hwritten.eq_of_dvd hwritten' hdvd hdvd'

/-- In the middle of a leap second, an offset of minus 29 seconds is written as a negative zero, so
that the text denotes another moment; the same clock with no offset has another text than the second
that follows it. -/
theorem text_kept_to_minutes_leap :
    let date : Date := ⟨2016, 12, 31, by decide, by decide⟩
    let next : Date := ⟨2017, 1, 1, by decide, by decide⟩
    let behind : Instant := ⟨date, 23, 59, 59, 1500000000, -29, by decide, by decide, by decide,
      by decide, by decide, by decide, by decide⟩
    let leap : Instant := ⟨date, 23, 59, 59, 1500000000, 0, by decide, by decide, by decide,
      by decide, by decide, by decide, by decide⟩
    let after : Instant := ⟨next, 0, 0, 0, 500000000, 0, by decide, by decide, by decide,
      by decide, by decide, by decide, by decide⟩
    (toValue behind : Value) = .text "2016-12-31T23:59:60.500-00:00" ∧
      IsDateTime "2016-12-31T23:59:60.500-00:00".toList ∧
      (∃ written, WrittenInstant.ofText? "2016-12-31T23:59:60.500-00:00" = some written ∧
        written.second = 60 ∧ written.moment ≠ behind.moment) ∧
      (toValue leap : Value) ≠ toValue after := by
  intro date next behind leap after
  obtain ⟨hevery, hsame⟩ := text_kept_to_minutes
  have hbehind : (toValue behind : Value) = .text "2016-12-31T23:59:60.500-00:00" :=
    congrArg Value.text (by decide +kernel)
  obtain ⟨text, written, htext, hread, hwritten, hmoment, -, -, hgrammar⟩ := hevery behind
  cases hbehind.symm.trans htext
  refine ⟨hbehind, hgrammar.2 (by decide), ⟨written, hread, ?_, ?_⟩, fun h => ?_⟩
  · rw [hwritten.second]
    decide
  · exact mt hmoment.1 (by decide)
  · exact absurd (hsame leap after (by decide) (by decide) h) (by decide)

end Instant

end QueryFilter
