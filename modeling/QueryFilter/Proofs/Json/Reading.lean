import QueryFilter.Json.Reader
import QueryFilter.Proofs.Json.Tokens

set_option autoImplicit false

/-!
# Documents that are read as they were written

The reader takes the tokens of a document from where a value is expected to where that value has
been delivered, as long as the containers around it and in it stay within the nesting limit, and
refuses them otherwise (`Json.reads_tokens`). So a document without repeated keys is read back from
its text exactly if it is not nested too deep (`Json.ofText?_toText`).
-/

namespace QueryFilter

namespace Json

namespace Reader

/-! ## Runs -/

/-- Takes tokens in turn. -/
def run (tokens : List JsonToken) (reader : Reader) : Option Reader := tokens.foldlM step reader

theorem run_cons (token : JsonToken) (tokens : List JsonToken) (reader : Reader) :
    run (token :: tokens) reader = (reader.step token).bind (run tokens) :=
  foldlM_step_cons reader token tokens

theorem run_append (first second : List JsonToken) (reader : Reader) :
    run (first ++ second) reader = (run first reader).bind (run second) := by
  simp [run]
  rfl

/-- Where the tokens of a value lead: the value is delivered, unless it is nested too deep. -/
def Reads (document : Json) : Prop :=
  ∀ around : List Frame, around.length ≤ nestingLimit →
    run document.tokens (.value around)
      = if around.length + document.depth ≤ nestingLimit then some (deliver document around)
        else none

/-! ## Containers -/

/-- The items of an array are collected in front of those before them. -/
theorem run_items {items : List Json} (hne : items ≠ []) (hitems : ∀ item ∈ items, Reads item)
    (before : List Json) {around : List Frame} (haround : around.length < nestingLimit) :
    run (JsonToken.separated (itemTokens items)) (.value (.item before :: around))
      = if around.length + 1 + depthOfItems items ≤ nestingLimit
        then some (.afterItem (items.reverse ++ before) around) else none := by
  -- the frame holds what has been read, so the list of it grows as the induction goes on
  induction items generalizing before with
  | nil => exact absurd rfl hne
  | cons item rest ih =>
      have hitem := hitems item List.mem_cons_self (.item before :: around) haround
      rw [List.length_cons] at hitem
      cases rest with
      | nil =>
          rw [itemTokens, itemTokens, JsonToken.separated, hitem]
          simp [depthOfItems, deliver]
      | cons second rest =>
          have hrest := ih (by simp) (fun item hmem => hitems item (List.mem_cons_of_mem _ hmem))
            (item :: before)
          have hdepth : depthOfItems (item :: second :: rest)
              = max item.depth (depthOfItems (second :: rest)) := rfl
          have hcomma : run (.comma :: JsonToken.separated (itemTokens (second :: rest)))
                (.afterItem (item :: before) around)
              = run (JsonToken.separated (itemTokens (second :: rest)))
                (.value (.item (item :: before) :: around)) := rfl
          rw [itemTokens, itemTokens, JsonToken.separated, ← itemTokens, run_append, hitem, hdepth]
          · -- the array is refused at its first item that is too deep, or not at all
            by_cases hfirst : around.length + 1 + item.depth ≤ nestingLimit
            · rw [if_pos hfirst, Option.bind_some, deliver, hcomma, hrest]
              by_cases hlater : around.length + 1 + depthOfItems (second :: rest) ≤ nestingLimit
              · rw [if_pos hlater, if_pos (by omega)]
                simp
              · rw [if_neg hlater, if_neg (by omega)]
            · rw [if_neg hfirst, if_neg (by omega), Option.bind_none]
          · simp

/-- A key and its value are inserted among the members before them. -/
theorem run_member {entry : String × Json} (hentry : Reads entry.2) (before : Entries Json)
    {around : List Frame} (haround : around.length < nestingLimit) :
    run (.string entry.1 :: .colon :: entry.2.tokens) (.key before around)
      = if around.length + 1 + entry.2.depth ≤ nestingLimit
        then some (.afterMember (before.insert entry.1 entry.2) around) else none := by
  have hkeyColon : run (.string entry.1 :: .colon :: entry.2.tokens) (.key before around)
      = run entry.2.tokens (.value (.member before entry.1 :: around)) := rfl
  rw [hkeyColon, hentry (.member before entry.1 :: around) haround, List.length_cons, deliver]

/-- The members of an object are added behind those before them, as long as no key is repeated. -/
theorem run_members {members : Entries Json} (hne : members ≠ [])
    (hmembers : ∀ entry ∈ members, Reads entry.2) (before : Entries Json)
    (hkeys : (before.keys ++ members.keys).Nodup) {around : List Frame}
    (haround : around.length < nestingLimit) :
    run (JsonToken.separated (memberTokens members)) (.key before around)
      = if around.length + 1 + depthOfMembers members ≤ nestingLimit
        then some (.afterMember (before ++ members) around) else none := by
  induction members generalizing before with
  | nil => exact absurd rfl hne
  | cons entry rest ih =>
      obtain ⟨hinsert, hlater⟩ := Entries.insert_of_nodup hkeys entry.2
      have hentry := run_member (hmembers entry List.mem_cons_self) before haround
      cases rest with
      | nil =>
          rw [memberTokens, memberTokens, JsonToken.separated, hentry, hinsert]
          simp [depthOfMembers]
      | cons second rest =>
          have hrest := ih (by simp)
            (fun entry hmem => hmembers entry (List.mem_cons_of_mem _ hmem)) _ hlater
          have hsplit : before.insert entry.1 entry.2 ++ second :: rest
              = before ++ entry :: second :: rest := by
            rw [hinsert, List.append_assoc]
            rfl
          have hdepth : depthOfMembers (entry :: second :: rest)
              = max entry.2.depth (depthOfMembers (second :: rest)) := rfl
          have hcomma : run (.comma :: JsonToken.separated (memberTokens (second :: rest)))
                (.afterMember (before.insert entry.1 entry.2) around)
              = run (JsonToken.separated (memberTokens (second :: rest)))
                (.key (before.insert entry.1 entry.2) around) := rfl
          rw [memberTokens, memberTokens, JsonToken.separated, ← memberTokens, run_append, hentry,
            hdepth, ← hsplit]
          · by_cases hfirst : around.length + 1 + entry.2.depth ≤ nestingLimit
            · rw [if_pos hfirst, Option.bind_some, hcomma, hrest]
              by_cases hlater :
                  around.length + 1 + depthOfMembers (second :: rest) ≤ nestingLimit
              · rw [if_pos hlater, if_pos (by omega)]
              · rw [if_neg hlater, if_neg (by omega)]
            · rw [if_neg hfirst, if_neg (by omega), Option.bind_none]
          · simp

/-! ## Documents -/

/-- The tokens of a value other than a container deliver it at once. -/
theorem reads_of_start {document : Json} {token : JsonToken} (htokens : document.tokens = [token])
    (hdepth : document.depth = 0)
    (hstart : ∀ around, start around token = some (deliver document around)) : Reads document := by
  intro around haround
  rw [htokens, hdepth, Nat.add_zero, if_pos haround, run_cons, step, hstart]
  rfl

theorem exists_separated_cons (item : List JsonToken) (rest : List (List JsonToken)) :
    ∃ more, JsonToken.separated (item :: rest) = item ++ more := by
  cases rest with
  | nil => exact ⟨[], (List.append_nil item).symm⟩
  | cons second rest => exact ⟨_, rfl⟩

/-- The end of an array is no value. -/
theorem exists_tokens_cons (document : Json) :
    ∃ first more, document.tokens = first :: more ∧ first ≠ .closeArray := by
  cases document with
  | null => exact ⟨_, _, rfl, by simp⟩
  | bool value => exact ⟨_, _, rfl, by simp⟩
  | number value => exact ⟨_, _, rfl, by simp⟩
  | string value => exact ⟨_, _, rfl, by simp⟩
  | array items => exact ⟨_, _, rfl, by simp⟩
  | object members => exact ⟨_, _, rfl, by simp⟩

/-- The first item of an array is taken like any other. -/
theorem run_firstItem (item : Json) (rest : List Json) (tokens : List JsonToken)
    (around : List Frame) :
    run (JsonToken.separated (itemTokens (item :: rest)) ++ tokens) (.firstItem around)
      = run (JsonToken.separated (itemTokens (item :: rest)) ++ tokens)
          (.value (.item [] :: around)) := by
  obtain ⟨more, hmore⟩ := exists_separated_cons item.tokens (itemTokens rest)
  obtain ⟨first, others, hfirst, hne⟩ := exists_tokens_cons item
  -- only the token that ends the array is treated in another way
  have hstep : (Reader.firstItem around).step first
      = (Reader.value (.item [] :: around)).step first := by
    cases first <;> first | rfl | exact absurd rfl hne
  rw [itemTokens, hmore, hfirst, List.cons_append, List.cons_append, run_cons, run_cons, hstep]

/-- The first key of an object is taken like any other. -/
theorem run_firstKey (entry : String × Json) (rest : Entries Json) (tokens : List JsonToken)
    (around : List Frame) :
    run (JsonToken.separated (memberTokens (entry :: rest)) ++ tokens) (.firstKey around)
      = run (JsonToken.separated (memberTokens (entry :: rest)) ++ tokens) (.key [] around) := by
  obtain ⟨more, hmore⟩ := exists_separated_cons (.string entry.1 :: .colon :: entry.2.tokens)
    (memberTokens rest)
  rw [memberTokens, hmore]
  rfl

/-- An array is read if its items are. -/
theorem reads_array {items : List Json} (hitems : ∀ item ∈ items, Reads item) :
    Reads (.array items) := by
  intro around haround
  have hdepth : (Json.array items).depth = depthOfItems items + 1 := rfl
  rw [tokens, List.cons_append, run_cons, hdepth]
  by_cases hroom : around.length < nestingLimit
  · have hopen : (Reader.value around).step .openArray = some (.firstItem around) := if_pos hroom
    rw [hopen, Option.bind_some]
    cases items with
    | nil =>
        have hempty : around.length + (depthOfItems [] + 1) ≤ nestingLimit := hroom
        rw [if_pos hempty]
        rfl
    | cons item rest =>
        rw [run_firstItem, run_append, run_items (List.cons_ne_nil item rest) hitems [] hroom]
        by_cases hlimit : around.length + 1 + depthOfItems (item :: rest) ≤ nestingLimit
        · have hclose : run [.closeArray] (.afterItem ((item :: rest).reverse ++ []) around)
              = some (deliver (.array (item :: rest)) around) := by
            rw [List.append_nil, run_cons, step, List.reverse_reverse]
            rfl
          rw [if_pos hlimit, if_pos (by omega), Option.bind_some, hclose]
        · rw [if_neg hlimit, if_neg (by omega), Option.bind_none]
  · have hopen : (Reader.value around).step .openArray = none := if_neg hroom
    rw [hopen, Option.bind_none, if_neg (by omega)]

/-- An object is read if its values are and no key is repeated. -/
theorem reads_object {members : Entries Json} (hkeys : members.keys.Nodup)
    (hmembers : ∀ entry ∈ members, Reads entry.2) : Reads (.object members) := by
  intro around haround
  have hdepth : (Json.object members).depth = depthOfMembers members + 1 := rfl
  rw [tokens, List.cons_append, run_cons, hdepth]
  by_cases hroom : around.length < nestingLimit
  · have hopen : (Reader.value around).step .openObject = some (.firstKey around) := if_pos hroom
    rw [hopen, Option.bind_some]
    cases members with
    | nil =>
        have hempty : around.length + (depthOfMembers [] + 1) ≤ nestingLimit := hroom
        rw [if_pos hempty]
        rfl
    | cons entry rest =>
        rw [run_firstKey, run_append,
          run_members (List.cons_ne_nil entry rest) hmembers [] hkeys hroom]
        by_cases hlimit : around.length + 1 + depthOfMembers (entry :: rest) ≤ nestingLimit
        · rw [if_pos hlimit, if_pos (by omega)]
          rfl
        · rw [if_neg hlimit, if_neg (by omega), Option.bind_none]
  · have hopen : (Reader.value around).step .openObject = none := if_neg hroom
    rw [hopen, Option.bind_none, if_neg (by omega)]

theorem reads_of_distinctKeys {document : Json} (h : document.DistinctKeys) : Reads document := by
  induction document with
  | null => exact reads_of_start rfl rfl fun _ => rfl
  | bool value => exact reads_of_start rfl rfl fun _ => rfl
  | number value => exact reads_of_start rfl rfl fun _ => rfl
  | string value => exact reads_of_start rfl rfl fun _ => rfl
  | array items ih =>
      cases h with
      | array hitems => exact reads_array fun item hmem => ih item hmem (hitems item hmem)
  | object members ih =>
      cases h with
      | object hkeys hvalues =>
          exact reads_object hkeys fun entry hmem => ih entry hmem (hvalues entry hmem)

end Reader

/-- A document without repeated keys is read back from its text, and so exactly if it is not nested
deeper than the limit. -/
theorem ofText?_toText {document : Json} (h : document.DistinctKeys) (layout : Layout) :
    ofText? (document.toText layout)
      = if document.depth ≤ nestingLimit then some document else none := by
  have hread := Reader.reads_of_distinctKeys h [] (Nat.zero_le _)
  rw [List.length_nil, Nat.zero_add] at hread
  rw [ofText?, tokensOf?_toText, Option.bind_some, ofTokens?, ← Reader.run, hread]
  split
  · rfl
  · rfl

end Json

end QueryFilter
