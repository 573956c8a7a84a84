/-!
# Fragments of text

A `Fragment` is a text that is put in front of whatever follows it. Fragments are joined in constant
time, so that a text of many nested parts is put together in time proportional to its length.
`Fragment.toList` is the text itself, and it determines the fragment (`Fragment.ext_toList`).
-/

set_option autoImplicit false

namespace QueryFilter

/-- A text that is put in front of what follows. -/
structure Fragment where
  before : List Char → List Char
  before_eq : ∀ rest, before rest = before [] ++ rest

namespace Fragment

/-- The text of a fragment. -/
def toList (fragment : Fragment) : List Char := fragment.before []

/-- The fragment of a text. -/
def ofList (text : List Char) : Fragment := ⟨(text ++ ·), fun rest => by simp⟩

instance : Append Fragment where
  append first second :=
    ⟨fun rest => first.before (second.before rest), fun rest => by
      rw [first.before_eq (second.before rest), first.before_eq (second.before []),
        second.before_eq rest, List.append_assoc]⟩

theorem toList_ofList (text : List Char) : (ofList text).toList = text := List.append_nil text

theorem toList_append (first second : Fragment) :
    (first ++ second).toList = first.toList ++ second.toList :=
  first.before_eq (second.before [])

/-- Fragments of the same text are equal. -/
theorem ext_toList {first second : Fragment} (h : first.toList = second.toList) :
    first = second := by
  obtain ⟨before, hbefore⟩ := first
  obtain ⟨before', hbefore'⟩ := second
  have : before = before' := by
    funext rest
    rw [hbefore rest, hbefore' rest]
    exact congrArg (· ++ rest) h
  subst this
  rfl

end Fragment

end QueryFilter
