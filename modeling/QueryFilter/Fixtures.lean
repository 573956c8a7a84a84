import QueryFilter.Filter.Compound
import QueryFilter.Filter.Dynamic
import QueryFilter.Filter.Timestamp
import QueryFilter.Filter.Wrapped

/-!
# Fixtures

Finished filters for common queries, and one filter of every kind.
-/

set_option autoImplicit false

namespace QueryFilter

namespace Fixtures

/-- A typed filter as a filter of any kind. -/
def ofTyped {builder : Builder} (filter : TypedFilter builder) : Filter :=
  .property (.typed builder filter)

/-- An integer as a value. -/
def ofInteger (number : Int64) : Value := toValue number

/-- The box `done` is ticked. -/
def doneCheckbox : Logged FilterError (TypedFilter .checkbox) :=
  (TypedFilter.new .checkbox "done").equals true

/-- The number `age` is above 18. -/
def adultNumber : Logged FilterError (TypedFilter .number) :=
  (TypedFilter.new .number "age").greaterThan (ofInteger 18)

/-- Tasks that are not done, are due before a date and belong to someone. -/
def openTasksDue (before : String) : Logged FilterError CompoundFilter := do
  let status ← (TypedFilter.new .status "Status").doesNotEqual "Done"
  let due ← (TypedFilter.new .date "Due").before before
  let assignee ← (TypedFilter.new .people "Assignee").isNotEmpty
  CompoundFilter.all [ofTyped status, ofTyped due, ofTyped assignee]

/-- One filter of every kind. -/
def everyKind : Logged FilterError (List Filter) := do
  let done ← doneCheckbox
  let due ← (TypedFilter.new .date "Due").after "2024-01-01"
  let files ← (TypedFilter.new .files "Files").isEmpty
  let tags ← (TypedFilter.new .multiSelect "Tags").contains "rust"
  let adult ← adultNumber
  let owner ← (TypedFilter.new .people "Owner").doesNotContain "user-1"
  let project ← (TypedFilter.new .relation "Project").contains "page-1"
  let name ← (TypedFilter.new .richText "Name").startsWith "Intro"
  let priority ← (TypedFilter.new .select "Priority").equals "High"
  let status ← (TypedFilter.new .status "Status").isNotEmpty
  let id ← (TypedFilter.new .uniqueId "ID").lessThanOrEqualTo (ofInteger 100)
  let score ← (TypedFilter.new .number "Score").equals (ofInteger 5)
  let collected ← doneCheckbox
  let created ← TimestampFilter.createdTime.equals "2024-05-01"
  let openTasks ← openTasksDue "2025-01-01"
  let stage ← (DynamicFilter.new "Stage" .select).applyEmpty
  return [ofTyped done, ofTyped due, ofTyped files, ofTyped tags, ofTyped adult, ofTyped owner,
    ofTyped project, ofTyped name, ofTyped priority, ofTyped status, ofTyped id,
    .property (.formula (.number "Score" score)),
    .property (.rollup (.any "Tasks" "checkbox" (.typed .checkbox collected))),
    .timestamp created, .compound openTasks, .property (.dynamic stage)]

end Fixtures

end QueryFilter
