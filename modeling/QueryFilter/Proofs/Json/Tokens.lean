import QueryFilter.Json.Writer
import QueryFilter.Proofs.Json.Number
import QueryFilter.Proofs.Json.Quoted
import QueryFilter.Proofs.Json.Structure

set_option autoImplicit false

/-!
# The tokens of a written document

`Json.tokens` lists the tokens of a document without regard to any text. They are found in the text
of the document, whatever its layout (`Json.tokensOf?_toText`): white space separates them, and a
word is always followed by a character that ends it.
-/

namespace QueryFilter

/-! ## Tokens of documents -/

/-- The tokens of the items of a container, separated by commas. -/
def JsonToken.separated : List (List JsonToken) → List JsonToken
  | [] => []
  | [item] => item
  | item :: rest => item ++ .comma :: separated rest

namespace Json

mutual

/-- The tokens of a document. -/
def tokens : Json → List JsonToken
  | .null => [.null]
  | .bool value => [.bool value]
  | .number value => [.number value]
  | .string value => [.string value]
  | .array items => .openArray :: JsonToken.separated (itemTokens items) ++ [.closeArray]
  | .object members => .openObject :: JsonToken.separated (memberTokens members) ++ [.closeObject]

/-- The tokens of each item. -/
def itemTokens : List Json → List (List JsonToken)
  | [] => []
  | item :: rest => tokens item :: itemTokens rest

/-- The tokens of each member. -/
def memberTokens : List (String × Json) → List (List JsonToken)
  | [] => []
  | (key, value) :: rest => (.string key :: .colon :: tokens value) :: memberTokens rest

end

end Json

namespace JsonToken

/-! ## Single tokens in a text -/

/-- A text that no word goes on into. -/
def EndsWord (text : List Char) : Prop := ∀ c ∈ text.head?, isWordCharacter c = false

theorem EndsWord.append {text rest : List Char} (h : EndsWord text) (hrest : EndsWord rest) :
    EndsWord (text ++ rest) := by
  cases text with
  | nil => exact hrest
  | cons c text => exact h

theorem tokensOf?_separators {separators : List Char}
    (h : ∀ c ∈ separators, isSeparator c = true) (rest : List Char) :
    tokensOf? (separators ++ rest) = tokensOf? rest := by
  induction separators with
  | nil => rfl
  | cons c separators ih =>
      rw [List.cons_append, tokensOf?, if_pos (h c List.mem_cons_self)]
      exact ih fun c hc => h c (List.mem_cons_of_mem _ hc)

/-- A character that is a token of its own neither separates tokens nor stands in a word. -/
theorem class_of_ofPunctuation? {c : Char} {token : JsonToken}
    (h : ofPunctuation? c = some token) : isSeparator c = false ∧ isWordCharacter c = false := by
  unfold ofPunctuation? at h
  split at h <;> first | exact ⟨rfl, rfl⟩ | cases h

theorem isWordCharacter_of_isSeparator {c : Char} (h : isSeparator c = true) :
    isWordCharacter c = false := by
  simp only [isSeparator, Bool.or_eq_true, beq_iff_eq] at h
  rcases h with ((rfl | rfl) | rfl) | rfl <;> rfl

theorem tokensOf?_punctuation {c : Char} {token : JsonToken} (h : ofPunctuation? c = some token)
    (rest : List Char) : tokensOf? (c :: rest) = (tokensOf? rest).map (token :: ·) := by
  rw [tokensOf?, if_neg (by simp [class_of_ofPunctuation? h]), h]

/-- A literal is a token of its own. -/
theorem tokensOf?_literal (text : List Char) :
    tokensOf? ('"' :: text)
      = (readQuoted text).bind fun literal =>
          (tokensOf? literal.2).map (.string (String.ofList literal.1) :: ·) := by
  have hseparator : isSeparator '"' = false := rfl
  have hpunctuation : ofPunctuation? '"' = none := rfl
  rw [tokensOf?, hseparator, hpunctuation]
  simp only [Bool.false_eq_true, if_false, if_true]
  split
  · rename_i hnone
    rw [hnone, Option.bind_none]
  · rename_i hsome
    rw [hsome, Option.bind_some]

theorem tokensOf?_quoted (content : String) (rest : List Char) :
    tokensOf? (quoted content.toList ++ rest)
      = (tokensOf? rest).map (.string content :: ·) := by
  have htext : quoted content.toList ++ rest
      = '"' :: (content.toList.flatMap escaped ++ '"' :: rest) := by
    simp [quoted]
  rw [htext, tokensOf?_literal, readQuoted_flatMap, Option.bind_some, String.ofList_toList]

/-- What begins neither a gap nor a literal and is no token by itself begins a word. -/
theorem tokensOf?_cons {c : Char} (hseparator : isSeparator c = false)
    (hpunctuation : ofPunctuation? c = none) (hquote : c ≠ '"') (rest : List Char) :
    tokensOf? (c :: rest)
      = (ofWord? (c :: rest.takeWhile isWordCharacter)).bind fun token =>
          (tokensOf? (rest.dropWhile isWordCharacter)).map (token :: ·) := by
  rw [tokensOf?, hseparator, hpunctuation]
  simp only [Bool.false_eq_true, if_false, if_neg hquote]
  cases ofWord? (c :: rest.takeWhile isWordCharacter) with
  | none => rfl
  | some token => rfl

theorem tokensOf?_word {word : List Char} {token : JsonToken} (hne : word ≠ [])
    (hword : ∀ c ∈ word, isWordCharacter c = true) (h : ofWord? word = some token)
    {rest : List Char} (hrest : EndsWord rest) :
    tokensOf? (word ++ rest) = (tokensOf? rest).map (token :: ·) := by
  cases word with
  | nil => exact absurd rfl hne
  | cons c word =>
      have hc := hword c List.mem_cons_self
      have hseparator : isSeparator c = false := by
        by_contra hseparator
        rw [isWordCharacter_of_isSeparator (by simpa using hseparator)] at hc
        cases hc
      have hpunctuation : ofPunctuation? c = none := by
        cases hpunctuation : ofPunctuation? c with
        | none => rfl
        | some token =>
            rw [(class_of_ofPunctuation? hpunctuation).2] at hc
            cases hc
      have hquote : c ≠ '"' := by
        rintro rfl
        cases hc
      have hrun : ∀ c ∈ word, isWordCharacter c = true :=
        fun c hc => hword c (List.mem_cons_of_mem _ hc)
      rw [List.cons_append, tokensOf?_cons hseparator hpunctuation hquote, takeWhile_run hrun hrest,
        dropWhile_run hrun hrest, h, Option.bind_some]

/-! ## Tokens of texts -/

/-- The text is made of these tokens, whatever follows it and ends its last word. -/
def Lexes (text : List Char) (tokens : List JsonToken) : Prop :=
  ∀ rest, EndsWord rest → tokensOf? (text ++ rest) = (tokensOf? rest).map (tokens ++ ·)

namespace Lexes

variable {text other : List Char} {tokens others : List JsonToken}

theorem nil : Lexes [] [] := fun rest _ => by simp

theorem word {token : JsonToken} (hne : text ≠ [])
    (hword : ∀ c ∈ text, isWordCharacter c = true) (h : ofWord? text = some token) :
    Lexes text [token] := fun _ hrest => tokensOf?_word hne hword h hrest

theorem separators {separators : List Char} (hseparators : ∀ c ∈ separators, isSeparator c = true)
    (h : Lexes text tokens) : Lexes (separators ++ text) tokens := by
  intro rest hrest
  rw [List.append_assoc, tokensOf?_separators hseparators, h rest hrest]

theorem punctuation {c : Char} {token : JsonToken} (hc : ofPunctuation? c = some token)
    (h : Lexes text tokens) : Lexes (c :: text) (token :: tokens) := by
  intro rest hrest
  rw [List.cons_append, tokensOf?_punctuation hc, h rest hrest, Option.map_map]
  rfl

theorem quoted (content : String) (h : Lexes text tokens) :
    Lexes (QueryFilter.quoted content.toList ++ text) (.string content :: tokens) := by
  intro rest hrest
  rw [List.append_assoc, tokensOf?_quoted, h rest hrest, Option.map_map]
  rfl

theorem append (h : Lexes text tokens) (hother : Lexes other others) (hends : EndsWord other) :
    Lexes (text ++ other) (tokens ++ others) := by
  intro rest hrest
  rw [List.append_assoc, h _ (hends.append hrest), hother rest hrest, Option.map_map]
  congr 1
  funext tokens'
  simp

end Lexes

/-! ## Layouts -/

variable {layout : Layout}

theorem isSeparator_of_mem_lineBreak {level : Nat} {c : Char}
    (h : c ∈ (layout.lineBreak level).toList) : isSeparator c = true := by
  cases layout with
  | compact => cases h
  | pretty indent =>
      rw [Layout.lineBreak, Fragment.toList_ofList] at h
      rcases List.mem_cons.1 h with rfl | hspace
      · rfl
      · rw [List.eq_of_mem_replicate hspace]
        rfl

theorem endsWord_lineBreak_append {level : Nat} {text : List Char} (h : EndsWord text) :
    EndsWord ((layout.lineBreak level).toList ++ text) := by
  refine EndsWord.append (fun c hc => ?_) h
  exact isWordCharacter_of_isSeparator (isSeparator_of_mem_lineBreak (List.mem_of_mem_head? hc))

/-- A key, its colon and its value stand behind each other. -/
theorem Lexes.memberText {value : Fragment} {tokens : List JsonToken}
    (h : Lexes value.toList tokens) (key : String) :
    Lexes (layout.memberText key value).toList (.string key :: .colon :: tokens) := by
  rw [Layout.memberText, Fragment.toList_append, Fragment.toList_append, Fragment.toList_ofList,
    List.append_assoc]
  cases layout with
  | compact => exact .quoted key (.punctuation rfl h)
  | pretty indent =>
      have hspace : ∀ c ∈ [' '], isSeparator c = true := List.all_eq_true.1 rfl
      exact .quoted key (.punctuation rfl (.separators hspace h))

/-- Items that are made of tokens are so when they stand in a container, separated by commas. -/
theorem Lexes.itemTexts {level : Nat} {items : List Fragment} {tokens : List (List JsonToken)}
    (h : List.Forall₂ (fun item tokens => Lexes item.toList tokens) items tokens) :
    Lexes (layout.itemTexts level items).toList (separated tokens) := by
  induction h with
  | nil => exact .nil
  | @cons item itemTokens rest restTokens hitem hrest ih =>
      have hbreak : ∀ c ∈ (layout.lineBreak level).toList, isSeparator c = true :=
        fun _ => isSeparator_of_mem_lineBreak
      cases hrest with
      | nil =>
          -- no comma stands behind the last item
          rw [Layout.itemTexts, Fragment.toList_append]
          exact .separators hbreak hitem
      | cons hnext hlater =>
          rw [Layout.itemTexts, Fragment.toList_append, Fragment.toList_append,
            Fragment.toList_append, Fragment.toList_ofList, List.append_assoc, List.append_assoc]
          · refine .separators hbreak (hitem.append (.punctuation rfl ih) ?_)
            intro c hc
            cases hc
            rfl
          · simp

/-- A container begins and ends with its brackets. -/
theorem Lexes.enclosed {level : Nat} {opening closing : Char} {first last : JsonToken}
    (hopening : ofPunctuation? opening = some first) (hclosing : ofPunctuation? closing = some last)
    {items : List Fragment} {tokens : List (List JsonToken)}
    (h : List.Forall₂ (fun item tokens => Lexes item.toList tokens) items tokens) :
    Lexes (layout.enclosed level opening closing items).toList
      (first :: separated tokens ++ [last]) := by
  have hlast : Lexes [closing] [last] := .punctuation hclosing .nil
  have hends : EndsWord [closing] := by
    intro c hc
    cases hc
    exact (class_of_ofPunctuation? hclosing).2
  have hitems : Lexes (layout.itemTexts (level + 1) items).toList (separated tokens) :=
    .itemTexts h
  cases h with
  | nil => exact .punctuation hopening hlast
  | cons hitem hrest =>
      have hbreak : ∀ c ∈ (layout.lineBreak level).toList, isSeparator c = true :=
        fun _ => isSeparator_of_mem_lineBreak
      rw [Layout.enclosed, Fragment.toList_append, Fragment.toList_append, Fragment.toList_append,
        Fragment.toList_ofList, Fragment.toList_ofList, List.append_assoc, List.append_assoc]
      · exact .punctuation hopening
          (hitems.append (.separators hbreak hlast) (endsWord_lineBreak_append hends))
      · simp

end JsonToken

/-! ## Documents -/

namespace Json

open JsonToken

/-- The text of a document is made of the tokens of the document. -/
theorem lexes_write (layout : Layout) (level : Nat) (document : Json) :
    Lexes (document.write layout level).toList document.tokens := by
  induction document generalizing level with
  | null =>
      rw [write, Fragment.toList_ofList]
      exact .word (by decide) (List.all_eq_true.1 rfl) rfl
  | bool value =>
      rw [write, Fragment.toList_ofList]
      cases value with
      | false => exact .word (by decide) (List.all_eq_true.1 rfl) rfl
      | true => exact .word (by decide) (List.all_eq_true.1 rfl) rfl
  | number value =>
      rw [write, Fragment.toList_ofList]
      exact .word value.text_ne_nil (fun _ => value.isWordCharacter_of_mem_text)
        (ofWord?_text value)
  | string value =>
      rw [write, Fragment.toList_ofList, ← List.append_nil (quoted value.toList)]
      exact .quoted value .nil
  | array items ih =>
      rw [write, Layout.arrayText]
      refine .enclosed rfl rfl ?_
      induction items with
      | nil => exact .nil
      | cons item rest ihRest =>
          rw [writeItems, itemTokens]
          exact .cons (ih item List.mem_cons_self _)
            (ihRest fun item hitem => ih item (List.mem_cons_of_mem _ hitem))
  | object members ih =>
      rw [write, Layout.objectText]
      refine .enclosed rfl rfl ?_
      induction members with
      | nil => exact .nil
      | cons entry rest ihRest =>
          rw [writeMembers, memberTokens]
          exact .cons (.memberText (ih entry List.mem_cons_self _) entry.1)
            (ihRest fun entry hentry => ih entry (List.mem_cons_of_mem _ hentry))

/-- The tokens of a document are found in its text. -/
theorem tokensOf?_toText (layout : Layout) (document : Json) :
    tokensOf? (document.toText layout).toList = some document.tokens := by
  have hlexes := lexes_write layout 0 document [] (by simp [EndsWord])
  rw [List.append_nil] at hlexes
  rw [toText, String.toList_ofList, hlexes]
  simp [tokensOf?]

end Json

end QueryFilter
