import QueryFilter.Filter.Compound
import QueryFilter.Filter.Timestamp
import QueryFilter.Filter.Typed

/-!
# Reports on filters

A `Report` is what can be asked of a filter without rendering it whole: its kind, the keys of its
object, and what its kind knows besides. The members of a compound are rendered one by one, and a
member that cannot be rendered is reported like any other filter.
-/

set_option autoImplicit false

namespace QueryFilter

/-- What a compound filter knows besides its object. -/
structure CompoundReport where
  operator : String
  length : Nat
  isEmpty : Bool
  members : List (Except FilterError String)

/-- What a filter of some kind knows besides its object. -/
inductive Particulars where
  | property (name : String)
  | timestamp (name : String)
  | type (type : PropertyType)
  | compound (report : CompoundReport)
  | nothing

/-- What can be asked of a filter. -/
structure Report where
  kind : String
  keys : List String
  size : Nat
  isEmpty : Bool
  particulars : Particulars

/-- The report on a compound filter. -/
def CompoundFilter.report {ε : Type} (filter : CompoundFilter) : Logged ε CompoundReport := do
  let members ← filter.members.mapM fun member => (Layout.compact.render member).attempt
  return ⟨filter.operator, filter.length, filter.isEmpty, members⟩

namespace Filter

variable {ε : Type}

/-- What a filter knows besides its object. -/
def particulars : Filter → Logged ε Particulars
  | .property (.typed _ filter) => pure (.property filter.property)
  | .property (.dynamic filter) => pure (.type filter.type)
  | .property (.formula _) | .property (.rollup _) | .object _ => pure .nothing
  | .timestamp filter => pure (.timestamp filter.timestamp)
  | .compound filter => .compound <$> filter.report

/-- The report on a filter. -/
def report (filter : Filter) : Logged ε Report := do
  let particulars ← filter.particulars
  return ⟨filter.kind, filter.payload.keys, filter.payload.length, filter.payload.isEmpty,
    particulars⟩

end Filter

end QueryFilter
