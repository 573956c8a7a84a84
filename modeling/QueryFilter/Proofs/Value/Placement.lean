import QueryFilter.Proofs.Value.Outline

set_option autoImplicit false

/-!
# Where the lines and the parts of a value stand

The lines of a value lay out its parts: every line is indented as deep as its first character is
nested, every part leads lines of its own, in the order of the document, and every other line closes
a container (`Item.laid`). The invariant is that of whole lines, which are put together part by part
and enclosed container by container.
-/

namespace QueryFilter

open Place

/-! ## What stands on lines -/

theorem Part.piece_label (part : Part) : Piece 0 part.label := by
  obtain ⟨_ | key, value⟩ := part
  · exact .nil
  · exact (Piece.quoted key.toList).append (.of_plain (by simp [isOpening, isClosing]))

/-- With a label in front a text still leads its line. -/
theorem Part.isLead_label_append (part : Part) {text : List Char} (h : IsLead text) :
    IsLead (part.label ++ text) := by
  obtain ⟨_ | key, value⟩ := part
  · exact h
  · exact ((IsLead.quoted key.toList).append [':', ' ']).append text

/-- What stands behind a value on its last line. -/
def IsTrailing (trailing : List Char) : Prop := trailing = [] ∨ trailing = [',']

theorem IsTrailing.piece {trailing : List Char} (h : IsTrailing trailing) : Piece 0 trailing := by
  rcases h with rfl | rfl
  · exact .nil
  · exact .of_plain (by simp [isOpening, isClosing])

namespace Value

variable {value : Value} {container : Container}

theorem brackets_of_container (h : value.container? = some container) :
    isOpening container.opening = true ∧ isClosing container.closing = true := by
  cases value with
  | array items => cases h; exact ⟨rfl, rfl⟩
  | object entries => cases h; exact ⟨rfl, rfl⟩
  | _ => cases h

theorem piece_scalarText (h : value.container? = none)
    (hfinite : ∀ number ∈ value.floats, number.isFinite = true) :
    Piece 0 value.scalarText ∧ IsLead value.scalarText := by
  rcases scalarText_cases h hfinite with ⟨hne, hword⟩ | ⟨content, hquoted⟩
  · exact ⟨.word hword, .word hne hword⟩
  · rw [hquoted]
    exact ⟨.quoted content, .quoted content⟩

end Value

/-! ## Runs of lines -/

namespace Line

/-- Does the line begin with the bracket that closes a container? -/
def closes (line : Line) : Bool := line.content.head?.any isClosing

/-- What stands on a line is visible from its first character on and does not go on in a literal on
the next line. -/
structure Sound (line : Line) : Prop where
  visible : ∃ first rest, line.content = first :: rest ∧ first ≠ ' '
  closed : outside.after line.content = .outside
  oneLine : '\n' ∉ line.content

/-- How many of the containers that are opened on lines are not closed on them. -/
def opened (lines : List Line) : Int := (lines.map fun line => openContainers line.content).sum

/-- Every line is indented as deep as its first character is nested, where so many containers are
open in front of the first line. A bracket that closes a container stands as deep as the
container. -/
def Nested (depth : Int) : List Line → Prop
  | [] => True
  | line :: rest =>
    depth = line.level + (if line.closes then 1 else 0) ∧
      Nested (depth + openContainers line.content) rest

theorem closes_of_isLead {line : Line} (h : IsLead line.content) : line.closes = false := by
  obtain ⟨first, rest, hcontent, -, hclosing⟩ := h
  rw [closes, hcontent]
  exact hclosing

theorem opened_append (first second : List Line) :
    opened (first ++ second) = opened first + opened second := by
  rw [opened, List.map_append, List.sum_append]
  rfl

theorem opened_cons (line : Line) (rest : List Line) :
    opened (line :: rest) = openContainers line.content + opened rest := List.sum_cons

theorem nested_append {depth : Int} {first second : List Line} :
    Nested depth (first ++ second) ↔ Nested depth first ∧ Nested (depth + opened first) second := by
  induction first generalizing depth with
  | nil => simp [Nested, opened]
  | cons line rest ih =>
      rw [List.cons_append, Nested, Nested, ih, opened_cons, add_assoc, and_assoc]

/-- Whole lines that stand behind so many open containers and change their number by so many. -/
structure Run (depth change : Int) (lines : List Line) : Prop where
  sound : ∀ line ∈ lines, line.Sound
  nested : Nested depth lines
  opened_eq : opened lines = change

namespace Run

variable {depth change change' : Int} {lines more : List Line} {level : Nat}

theorem nil : Run depth 0 [] := ⟨by simp, trivial, rfl⟩

theorem append (h : Run depth change lines) (hmore : Run (depth + change) change' more) :
    Run depth (change + change') (lines ++ more) where
  sound line hline := (List.mem_append.1 hline).elim (h.sound line) (hmore.sound line)
  nested := nested_append.2 ⟨h.nested, h.opened_eq.symm ▸ hmore.nested⟩
  opened_eq := by rw [opened_append, h.opened_eq, hmore.opened_eq]

/-- A line with something to lead it stands as deep as it is nested. -/
theorem lead {content : List Char} (hpiece : Piece change content) (hlead : IsLead content) :
    Run level change [⟨level, content⟩] := by
  have hcloses : closes ⟨level, content⟩ = false := closes_of_isLead hlead
  obtain ⟨first, rest, hcontent, hspace, -⟩ := hlead
  refine ⟨fun line hline => ?_, by simp [Nested, hcloses], by simp [opened, hpiece.opened]⟩
  rw [List.mem_singleton.1 hline]
  exact ⟨⟨first, rest, hcontent, hspace⟩, hpiece.closed, hpiece.oneLine⟩

/-- A closing bracket stands as deep as its container. -/
theorem close {closing : Char} {trailing : List Char} (hclosing : isClosing closing = true)
    (htrailing : Piece 0 trailing) : Run (level + 1) (-1) [⟨level, closing :: trailing⟩] := by
  have hpiece : Piece (-1) (closing :: trailing) := (Piece.closing hclosing).append htrailing
  have hcloses : closes ⟨level, closing :: trailing⟩ = true := hclosing
  refine ⟨fun line hline => ?_, by simp [Nested, hcloses], by simp [opened, hpiece.opened]⟩
  rw [List.mem_singleton.1 hline]
  refine ⟨⟨closing, trailing, rfl, ?_⟩, hpiece.closed, hpiece.oneLine⟩
  rintro rfl
  cases hclosing

end Run

end Line

/-! ## Runs of parts -/

namespace Item

/-- The lines of an item, with something behind the last one. -/
def lines (item : Item) (trailing : List Char) : List Line :=
  item.value.lines item.level item.label trailing

/-- The lines begin with those of the item. -/
def Leads (item : Item) (lines : List Line) : Prop :=
  ∃ trailing later, IsTrailing trailing ∧ lines = item.lines trailing ++ later

/-- The item and what is within it. -/
def all (item : Item) : List Item := item :: item.value.partsWithin item.level

end Item

/-- Is this a container that is not empty? -/
def Value.holdsParts (value : Value) : Bool :=
  value.container?.any fun container => !container.parts.isEmpty

/-- The lines from each one on that does not close a container. -/
def leads (lines : List Line) : List (List Line) :=
  lines.tails.filter fun rest => rest.head?.any fun line => !line.closes

theorem leads_cons (line : Line) (rest : List Line) :
    leads (line :: rest) = if line.closes then leads rest else (line :: rest) :: leads rest := by
  rw [leads, List.tails_cons, List.filter_cons]
  cases h : line.closes with
  | true => simp [h, leads]
  | false => simp [h, leads]

open Line

/-- These whole lines lay out these items, all of them within as many containers. -/
structure Laid (depth : Nat) (items : List Item) (lines : List Line) : Prop where
  run : Run depth 0 lines
  leads_append : ∀ later, ∃ heads, leads (lines ++ later) = heads ++ leads later ∧
    List.Forall₂ Item.Leads items heads
  length_eq : lines.length = items.length + items.countP fun item => item.value.holdsParts

namespace Laid

variable {depth : Nat} {items others : List Item} {lines more : List Line}

theorem nil : Laid depth [] [] := ⟨.nil, fun _ => ⟨[], rfl, .nil⟩, rfl⟩

theorem append (h : Laid depth items lines) (hmore : Laid depth others more) :
    Laid depth (items ++ others) (lines ++ more) where
  run := h.run.append (by rw [add_zero]; exact hmore.run)
  leads_append later := by
    obtain ⟨heads, hheads, hitems⟩ := h.leads_append (more ++ later)
    obtain ⟨heads', hheads', hothers⟩ := hmore.leads_append later
    refine ⟨heads ++ heads', ?_, List.rel_append hitems hothers⟩
    rw [List.append_assoc, hheads, hheads', List.append_assoc]
  length_eq := by
    rw [List.length_append, List.length_append, List.countP_append, h.length_eq, hmore.length_eq]
    omega

variable {item : Item} {trailing : List Char}

/-- A single line lays out an item without parts. -/
theorem single {content : List Char} (htrailing : IsTrailing trailing)
    (hempty : item.value.holdsParts = false)
    (hlines : item.lines trailing = [⟨item.level, content⟩])
    (hpiece : Piece 0 content) (hlead : IsLead content) :
    Laid item.level [item] [⟨item.level, content⟩] where
  run := .lead hpiece hlead
  leads_append later := by
    have hleads : closes ⟨item.level, content⟩ = false := closes_of_isLead hlead
    refine ⟨[⟨item.level, content⟩ :: later], ?_,
      .cons ⟨trailing, later, htrailing, by rw [hlines]; rfl⟩ .nil⟩
    rw [List.singleton_append, leads_cons, hleads]
    rfl
  length_eq := by simp [hempty]

/-- The lines of the parts of a container stand between a line that opens it and a line that closes
it. -/
theorem between {container : Container} (hcontainer : item.value.container? = some container)
    (hholds : item.value.holdsParts = true) (htrailing : IsTrailing trailing)
    (hlines : item.lines trailing
      = [⟨item.level, item.label ++ [container.opening]⟩] ++
          (lines ++ [⟨item.level, container.closing :: trailing⟩]))
    (h : Laid (item.level + 1) items lines) :
    Laid item.level (item :: items) (item.lines trailing) := by
  obtain ⟨hopening, hclosing⟩ := Value.brackets_of_container hcontainer
  have hlead := item.isLead_label_append (.opening hopening)
  refine ⟨?_, fun later => ?_, ?_⟩
  · rw [hlines]
    exact (Run.lead (item.piece_label.append (.opening hopening)) hlead).append
      (h.run.append (.close hclosing htrailing.piece))
  · have hleads : closes ⟨item.level, item.label ++ [container.opening]⟩ = false :=
      closes_of_isLead hlead
    have hcloses : closes ⟨item.level, container.closing :: trailing⟩ = true := hclosing
    obtain ⟨heads, hheads, hitems⟩ :=
      h.leads_append (⟨item.level, container.closing :: trailing⟩ :: later)
    refine ⟨(item.lines trailing ++ later) :: heads, ?_,
      .cons ⟨trailing, later, htrailing, rfl⟩ hitems⟩
    rw [hlines, List.append_assoc, List.singleton_append, leads_cons, hleads, List.append_assoc,
      List.singleton_append, hheads, leads_cons, hcloses]
    rfl
  · have hlength := h.length_eq
    have hcount : (item :: items).countP (fun item => item.value.holdsParts)
        = items.countP (fun item => item.value.holdsParts) + 1 := List.countP_cons_of_pos hholds
    rw [hcount, hlines]
    simp only [List.length_cons, List.length_append, List.length_nil]
    omega

/-- The parts of a container are laid out one after the other. -/
theorem joined {parts : List Part}
    (h : ∀ part ∈ parts, ∀ trailing, IsTrailing trailing →
      Laid depth (Item.all ⟨part, depth⟩) (Item.lines ⟨part, depth⟩ trailing)) :
    Laid depth (parts.flatMap fun part => Item.all ⟨part, depth⟩)
      (Line.joined (parts.map fun part => Item.lines ⟨part, depth⟩)) := by
  induction parts with
  | nil => exact .nil
  | cons part rest ih =>
      obtain ⟨hpart, hrest⟩ := List.forall_mem_cons.1 h
      cases rest with
      | nil =>
          rw [List.flatMap_singleton]
          exact hpart [] (Or.inl rfl)
      | cons next later => exact (hpart [','] (Or.inr rfl)).append (ih hrest)

theorem scalar (hscalar : item.value.container? = none)
    (hfinite : ∀ number ∈ item.value.floats, number.isFinite = true)
    (htrailing : IsTrailing trailing) : Laid item.level item.all (item.lines trailing) := by
  have hempty : item.value.holdsParts = false := by rw [Value.holdsParts, hscalar]; rfl
  have hlines : item.lines trailing
      = [⟨item.level, item.label ++ item.value.scalarText ++ trailing⟩] :=
    Value.lines_scalar hscalar item.level item.label trailing
  obtain ⟨hpiece, hlead⟩ := Value.piece_scalarText hscalar hfinite
  rw [Item.all, Value.partsWithin_scalar hscalar, hlines]
  exact single htrailing hempty hlines ((item.piece_label.append hpiece).append htrailing.piece)
    ((item.isLead_label_append hlead).append trailing)

theorem empty {container : Container} (hcontainer : item.value.container? = some container)
    (hparts : container.parts = []) (htrailing : IsTrailing trailing) :
    Laid item.level item.all (item.lines trailing) := by
  obtain ⟨hopening, hclosing⟩ := Value.brackets_of_container hcontainer
  have hempty : item.value.holdsParts = false := by
    rw [Value.holdsParts, hcontainer, Option.any_some, hparts]
    rfl
  have hlines : item.lines trailing
      = [⟨item.level, item.label ++ [container.opening, container.closing] ++ trailing⟩] := by
    rw [Item.lines, Value.lines_container hcontainer, hparts]
    rfl
  have hbrackets : Piece 0 [container.opening, container.closing] :=
    (Piece.opening hopening).append (.closing hclosing)
  have hlead : IsLead [container.opening, container.closing] :=
    (IsLead.opening hopening).append [container.closing]
  rw [Item.all, Value.partsWithin_container hcontainer, hparts, hlines]
  exact single htrailing hempty hlines ((item.piece_label.append hbrackets).append htrailing.piece)
    ((item.isLead_label_append hlead).append trailing)

theorem nonempty {container : Container} (hcontainer : item.value.container? = some container)
    (hparts : container.parts ≠ []) (htrailing : IsTrailing trailing)
    (h : ∀ part ∈ container.parts, ∀ trailing, IsTrailing trailing →
      Laid (item.level + 1) (Item.all ⟨part, item.level + 1⟩)
        (Item.lines ⟨part, item.level + 1⟩ trailing)) :
    Laid item.level item.all (item.lines trailing) := by
  have hholds : item.value.holdsParts = true := by
    rw [Value.holdsParts, hcontainer, Option.any_some]
    simpa using hparts
  have hlines : item.lines trailing
      = [⟨item.level, item.label ++ [container.opening]⟩] ++
          (Line.joined (container.parts.map fun part => Item.lines ⟨part, item.level + 1⟩) ++
            [⟨item.level, container.closing :: trailing⟩]) := by
    rw [Item.lines, Value.lines_container hcontainer]
    cases hcases : container.parts with
    | nil => exact absurd hcases hparts
    | cons part rest => rfl
  rw [Item.all, Value.partsWithin_container hcontainer]
  exact between hcontainer hholds htrailing hlines (joined h)

end Laid

/-- A double in a part at any depth is one in the item. -/
theorem Item.mem_floats_of_mem_all {item part : Item} (hpart : part ∈ item.all) {number : Double}
    (hnumber : number ∈ part.value.floats) : number ∈ item.value.floats := by
  obtain ⟨⟨key?, value⟩, level⟩ := item
  rcases List.mem_cons.1 hpart with rfl | hwithin
  · exact hnumber
  induction value using Value.container_induction generalizing key? level with
  | scalar value hscalar =>
      rw [Value.partsWithin_scalar hscalar] at hwithin
      cases hwithin
  | container value container hcontainer ih =>
      rw [Value.partsWithin_container hcontainer] at hwithin
      obtain ⟨below, hbelow, hmem⟩ := List.mem_flatMap.1 hwithin
      refine Value.mem_floats_of_mem_parts hcontainer hbelow ?_
      rcases List.mem_cons.1 hmem with rfl | hdeeper
      · exact hnumber
      · exact ih below hbelow _ below.key? (List.mem_cons_of_mem _ hdeeper) hdeeper

/-- The lines of an item lay out the item and the parts within it. -/
theorem Item.laid (item : Item) (hfinite : ∀ number ∈ item.value.floats, number.isFinite = true)
    {trailing : List Char} (htrailing : IsTrailing trailing) :
    Laid item.level item.all (item.lines trailing) := by
  obtain ⟨⟨key?, value⟩, level⟩ := item
  induction value using Value.container_induction generalizing key? level trailing with
  | scalar value hscalar => exact .scalar hscalar hfinite htrailing
  | container value container hcontainer ih =>
      by_cases hparts : container.parts = []
      · exact .empty hcontainer hparts htrailing
      · refine .nonempty hcontainer hparts htrailing fun part hpart trailing htrailing => ?_
        exact ih part hpart htrailing _ part.key? fun number hnumber =>
          hfinite number (Value.mem_floats_of_mem_parts hcontainer hpart hnumber)

end QueryFilter
