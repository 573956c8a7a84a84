import Mathlib.Logic.Function.Basic
import QueryFilter.Proofs.Json.Reading

set_option autoImplicit false

/-!
# Texts tell documents apart

The tokens of a document say where it ends and what it is: a comma or a closing bracket never stands
where a value begins, so a list of tokens can be taken apart in one way only, however deep it is
nested (`Json.selfDelimiting_tokens`). Hence two documents with the same text are the same, also
where no reader would go deep enough to tell (`Json.toText_injective`).
-/

namespace QueryFilter

namespace JsonToken

/-- Whatever begins with the tokens of the item and with those of another one has the same item in
front and the same rest. -/
def SelfDelimiting {α : Type} (encode : α → List JsonToken) (item : α) : Prop :=
  ∀ other rest rest', encode item ++ rest = encode other ++ rest' → item = other ∧ rest = rest'

/-- Items behind the first one each have a comma in front. -/
theorem separated_cons (item : List JsonToken) (rest : List (List JsonToken)) :
    separated (item :: rest) = item ++ rest.flatMap (.comma :: ·) := by
  induction rest generalizing item with
  | nil => rw [separated, List.flatMap_nil, List.append_nil]
  | cons second rest ih =>
      rw [separated, ih, List.flatMap_cons, List.cons_append]
      simp

section Containers

variable {α : Type} {encode : α → List JsonToken} {closing : JsonToken}

/-- The items behind the first one are told apart as long as a comma is no end. -/
theorem flatMap_comma_inj (hclosing : closing ≠ .comma) {items others : List α}
    (hitems : ∀ item ∈ items, SelfDelimiting encode item) {rest rest' : List JsonToken}
    (h : (items.map encode).flatMap (.comma :: ·) ++ closing :: rest
      = (others.map encode).flatMap (.comma :: ·) ++ closing :: rest') :
    items = others ∧ rest = rest' := by
  induction items generalizing others with
  | nil =>
      cases others with
      | nil => exact ⟨rfl, (List.cons.inj h).2⟩
      | cons other others => exact absurd (List.cons.inj h).1 hclosing
  | cons item items ih =>
      cases others with
      | nil => exact absurd (List.cons.inj h).1.symm hclosing
      | cons other others =>
          obtain ⟨hitem, hlater⟩ := List.forall_mem_cons.1 hitems
          simp only [List.map_cons, List.flatMap_cons, List.cons_append, List.append_assoc,
            List.cons.injEq, true_and] at h
          obtain ⟨rfl, hbehind⟩ := hitem other _ _ h
          obtain ⟨rfl, hrest⟩ := ih hlater hbehind
          exact ⟨rfl, hrest⟩

/-- Items in a container are told apart if none of them begins with the end of the container. -/
theorem separated_inj (hclosing : closing ≠ .comma)
    (hfirst : ∀ item, ∃ first more, encode item = first :: more ∧ first ≠ closing)
    {items others : List α} (hitems : ∀ item ∈ items, SelfDelimiting encode item)
    {rest rest' : List JsonToken}
    (h : separated (items.map encode) ++ closing :: rest
      = separated (others.map encode) ++ closing :: rest') :
    items = others ∧ rest = rest' := by
  cases items with
  | nil =>
      cases others with
      | nil => exact ⟨rfl, (List.cons.inj h).2⟩
      | cons other others =>
          obtain ⟨first, more, hother, hne⟩ := hfirst other
          rw [List.map_cons, separated_cons, hother] at h
          exact absurd (List.cons.inj h).1.symm hne
  | cons item items =>
      obtain ⟨hitem, hlater⟩ := List.forall_mem_cons.1 hitems
      cases others with
      | nil =>
          obtain ⟨first, more, hencode, hne⟩ := hfirst item
          rw [List.map_cons, separated_cons, hencode] at h
          exact absurd (List.cons.inj h).1 hne
      | cons other others =>
          rw [List.map_cons, List.map_cons, separated_cons, separated_cons, List.append_assoc,
            List.append_assoc] at h
          obtain ⟨rfl, hbehind⟩ := hitem other _ _ h
          obtain ⟨rfl, hrest⟩ := flatMap_comma_inj hclosing hlater hbehind
          exact ⟨rfl, hrest⟩

end Containers

end JsonToken

namespace Json

open JsonToken

/-! ## Documents -/

/-- The tokens of a member: its key, a colon, and its value. -/
def memberToken (member : String × Json) : List JsonToken :=
  .string member.1 :: .colon :: member.2.tokens

theorem itemTokens_eq (items : List Json) : itemTokens items = items.map tokens := by
  induction items with
  | nil => rfl
  | cons item rest ih => rw [itemTokens, ih, List.map_cons]

theorem memberTokens_eq (members : Entries Json) :
    memberTokens members = members.map memberToken := by
  induction members with
  | nil => rfl
  | cons member rest ih =>
      rw [memberTokens, ih, List.map_cons]
      rfl

theorem selfDelimiting_memberToken {member : String × Json} (h : SelfDelimiting tokens member.2) :
    SelfDelimiting memberToken member := by
  rintro ⟨key, value⟩ rest rest' heq
  obtain ⟨hkey, hbehind⟩ := List.cons.inj heq
  obtain ⟨hvalue, hrest⟩ := h value rest rest' (List.cons.inj hbehind).2
  obtain ⟨name, document⟩ := member
  cases hkey
  cases hvalue
  exact ⟨rfl, hrest⟩

/-- The value that a token makes up on its own. -/
def scalar? : JsonToken → Option Json
  | .null => some .null
  | .bool value => some (.bool value)
  | .number value => some (.number value)
  | .string value => some (.string value)
  | _ => none

theorem selfDelimiting_scalar {document : Json} {token : JsonToken}
    (htokens : document.tokens = [token]) (hscalar : scalar? token = some document) :
    SelfDelimiting tokens document := by
  intro other rest rest' h
  rw [htokens] at h
  cases other with
  | array items =>
      obtain ⟨rfl, -⟩ := List.cons.inj h
      cases hscalar
  | object members =>
      obtain ⟨rfl, -⟩ := List.cons.inj h
      cases hscalar
  | _ =>
      obtain ⟨rfl, hrest⟩ := List.cons.inj h
      exact ⟨(Option.some.inj hscalar).symm, hrest⟩

/-- The tokens of a document tell what it is and where it ends. -/
theorem selfDelimiting_tokens (document : Json) : SelfDelimiting tokens document := by
  induction document with
  | null => exact selfDelimiting_scalar rfl rfl
  | bool value => exact selfDelimiting_scalar rfl rfl
  | number value => exact selfDelimiting_scalar rfl rfl
  | string value => exact selfDelimiting_scalar rfl rfl
  | array items ih =>
      intro other rest rest' h
      cases other with
      | array others =>
          have hfirst : ∀ item : Json, ∃ first more,
              item.tokens = first :: more ∧ first ≠ .closeArray := Reader.exists_tokens_cons
          simp only [tokens, itemTokens_eq, List.cons_append, List.append_assoc, List.nil_append,
            List.cons.injEq, true_and] at h
          obtain ⟨rfl, hrest⟩ := separated_inj (by decide) hfirst ih h
          exact ⟨rfl, hrest⟩
      | _ => cases h
  | object members ih =>
      intro other rest rest' h
      cases other with
      | object others =>
          have hfirst : ∀ member : String × Json, ∃ first more,
              memberToken member = first :: more ∧ first ≠ .closeObject :=
            fun member => ⟨_, _, rfl, by simp⟩
          simp only [tokens, memberTokens_eq, List.cons_append, List.append_assoc, List.nil_append,
            List.cons.injEq, true_and] at h
          obtain ⟨rfl, hrest⟩ := separated_inj (by decide) hfirst
            (fun member hmember => selfDelimiting_memberToken (ih member hmember)) h
          exact ⟨rfl, hrest⟩
      | _ => cases h

/-- Documents with the same text are the same, whatever their depth. -/
theorem toText_injective (layout : Layout) : Function.Injective (toText layout) := by
  intro document other h
  have hdocument := tokensOf?_toText layout document
  have hother := tokensOf?_toText layout other
  rw [← h, hdocument] at hother
  have htokens : document.tokens ++ [] = other.tokens ++ [] := by rw [Option.some.inj hother]
  exact (selfDelimiting_tokens document other [] [] htokens).1

end Json

end QueryFilter
