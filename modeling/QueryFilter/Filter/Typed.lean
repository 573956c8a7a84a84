import QueryFilter.Filter.Basic

/-!
# Typed filters

A typed filter begins with the name of its property and the discriminator of its type. It then takes
the operations that its builder offers, and only those: each operation asks for a proof that it is
offered, which is mere evaluation when the builder is known. An operation that is used again
overwrites its value in place.
-/

set_option autoImplicit false

namespace QueryFilter

/-! ## Filter objects of properties -/

/-- The object that a filter on a property begins with: its name, then the discriminator. -/
def Payload.ofProperty (property : String) (type : PropertyType) : Payload :=
  Entries.ofList [("property", .text property), ("type", .text type.name)]

/-- Sets the value of an operation, and reports it. -/
def Payload.setOperation {ε : Type} (payload : Payload) (operation : Operation) (value : Value) :
    Logged ε Payload := do
  Logged.report (.operationSet operation)
  return payload.insert operation.name value

namespace TypedFilter

variable {ε α : Type} {builder : Builder}

/-- The filter on a property, without an operation yet. -/
def new (builder : Builder) (property : String) : TypedFilter builder :=
  ⟨Payload.ofProperty property builder.type⟩

/-- The name of the property. -/
def property (filter : TypedFilter builder) : String := filter.payload.textAt "property"

/-- Sets the value of an operation. -/
def set (filter : TypedFilter builder) (operation : Operation) (value : Value) :
    Logged ε (TypedFilter builder) :=
  TypedFilter.mk <$> filter.payload.setOperation operation value

/-! ## Operations -/

/-- The property equals a value. -/
def equals [ToValue α] (filter : TypedFilter builder) (value : α)
    (_offered : builder.offers .equals = true := by exact Eq.refl true) :
    Logged ε (TypedFilter builder) :=
  filter.set .equals (toValue value)

/-- The property does not equal a value. -/
def doesNotEqual [ToValue α] (filter : TypedFilter builder) (value : α)
    (_offered : builder.offers .doesNotEqual = true := by exact Eq.refl true) :
    Logged ε (TypedFilter builder) :=
  filter.set .doesNotEqual (toValue value)

/-- The property is empty. -/
def isEmpty (filter : TypedFilter builder)
    (_offered : builder.offers .isEmpty = true := by exact Eq.refl true) :
    Logged ε (TypedFilter builder) :=
  filter.set .isEmpty (.bool true)

/-- The property is not empty. -/
def isNotEmpty (filter : TypedFilter builder)
    (_offered : builder.offers .isNotEmpty = true := by exact Eq.refl true) :
    Logged ε (TypedFilter builder) :=
  filter.set .isNotEmpty (.bool true)

/-- The property is greater than a value. -/
def greaterThan [ToValue α] (filter : TypedFilter builder) (value : α)
    (_offered : builder.offers .greaterThan = true := by exact Eq.refl true) :
    Logged ε (TypedFilter builder) :=
  filter.set .greaterThan (toValue value)

/-- The property is greater than a value or equal to it. -/
def greaterThanOrEqualTo [ToValue α] (filter : TypedFilter builder) (value : α)
    (_offered : builder.offers .greaterThanOrEqualTo = true := by exact Eq.refl true) :
    Logged ε (TypedFilter builder) :=
  filter.set .greaterThanOrEqualTo (toValue value)

/-- The property is less than a value. -/
def lessThan [ToValue α] (filter : TypedFilter builder) (value : α)
    (_offered : builder.offers .lessThan = true := by exact Eq.refl true) :
    Logged ε (TypedFilter builder) :=
  filter.set .lessThan (toValue value)

/-- The property is less than a value or equal to it. -/
def lessThanOrEqualTo [ToValue α] (filter : TypedFilter builder) (value : α)
    (_offered : builder.offers .lessThanOrEqualTo = true := by exact Eq.refl true) :
    Logged ε (TypedFilter builder) :=
  filter.set .lessThanOrEqualTo (toValue value)

/-- The property contains a value. -/
def contains [ToValue α] (filter : TypedFilter builder) (value : α)
    (_offered : builder.offers .contains = true := by exact Eq.refl true) :
    Logged ε (TypedFilter builder) :=
  filter.set .contains (toValue value)

/-- The property does not contain a value. -/
def doesNotContain [ToValue α] (filter : TypedFilter builder) (value : α)
    (_offered : builder.offers .doesNotContain = true := by exact Eq.refl true) :
    Logged ε (TypedFilter builder) :=
  filter.set .doesNotContain (toValue value)

/-- The property starts with a value. -/
def startsWith [ToValue α] (filter : TypedFilter builder) (value : α)
    (_offered : builder.offers .startsWith = true := by exact Eq.refl true) :
    Logged ε (TypedFilter builder) :=
  filter.set .startsWith (toValue value)

/-- The property ends with a value. -/
def endsWith [ToValue α] (filter : TypedFilter builder) (value : α)
    (_offered : builder.offers .endsWith = true := by exact Eq.refl true) :
    Logged ε (TypedFilter builder) :=
  filter.set .endsWith (toValue value)

/-- The property comes after a value. -/
def after [ToValue α] (filter : TypedFilter builder) (value : α)
    (_offered : builder.offers .after = true := by exact Eq.refl true) :
    Logged ε (TypedFilter builder) :=
  filter.set .after (toValue value)

/-- The property comes before a value. -/
def before [ToValue α] (filter : TypedFilter builder) (value : α)
    (_offered : builder.offers .before = true := by exact Eq.refl true) :
    Logged ε (TypedFilter builder) :=
  filter.set .before (toValue value)

/-! ## Operations chosen at run time -/

/-- Uses an operation that the builder offers. One that takes no value ignores the given one. -/
def use (filter : TypedFilter builder) (value : Value) :
    (operation : Operation) → builder.offers operation = true → Logged ε (TypedFilter builder)
  | .equals, offered => filter.equals value offered
  | .doesNotEqual, offered => filter.doesNotEqual value offered
  | .isEmpty, offered => filter.isEmpty offered
  | .isNotEmpty, offered => filter.isNotEmpty offered
  | .greaterThan, offered => filter.greaterThan value offered
  | .greaterThanOrEqualTo, offered => filter.greaterThanOrEqualTo value offered
  | .lessThan, offered => filter.lessThan value offered
  | .lessThanOrEqualTo, offered => filter.lessThanOrEqualTo value offered
  | .contains, offered => filter.contains value offered
  | .doesNotContain, offered => filter.doesNotContain value offered
  | .startsWith, offered => filter.startsWith value offered
  | .endsWith, offered => filter.endsWith value offered
  | .after, offered => filter.after value offered
  | .before, offered => filter.before value offered

end TypedFilter

/-- A builder offers what the capability table of its type lists. -/
theorem Builder.operations_type (builder : Builder) :
    builder.type.operations = builder.operations := by
  cases builder <;> rfl

end QueryFilter
