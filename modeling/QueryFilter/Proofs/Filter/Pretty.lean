import QueryFilter.Proofs.Filter.Failure
import QueryFilter.Proofs.Value.Placement

set_option autoImplicit false

/-!
# One item a line

The lines of a pretty text are those that its filter object is laid out on. Main statement: how the
lines are indented, what stands on them, how many they are, and that the width of the indentation
changes nothing else (`Filter.pretty_one_item_a_line`).
-/

namespace QueryFilter

open Place

/-! ## Lines in a text -/

namespace Line

variable {indent : Nat} {lines : List Line}

theorem Sound.oneLine_text {line : Line} (h : line.Sound) : '\n' ∉ line.text indent := by
  intro hmem
  rcases List.mem_append.1 hmem with hspace | hcontent
  · exact absurd (List.eq_of_mem_replicate hspace) (by decide)
  · exact h.oneLine hcontent

/-- The lines are found in the text again. -/
theorem splitOn_of_broken {text : List Char} (hsound : ∀ line ∈ lines, line.Sound)
    (h : broken indent lines = '\n' :: text) :
    text.splitOn '\n' = lines.map (Line.text indent) := by
  induction lines generalizing text with
  | nil => cases h
  | cons line rest ih =>
      obtain ⟨hline, hrest⟩ := List.forall_mem_cons.1 hsound
      rw [broken_cons, List.cons_append, List.cons_inj_right] at h
      cases rest with
      | nil =>
          have htext : text = line.text indent := by rw [← h]; exact List.append_nil _
          rw [htext, List.splitOn_eq_singleton hline.oneLine_text]
          rfl
      | cons next later =>
          obtain ⟨below, hbelow⟩ : ∃ below, broken indent (next :: later) = '\n' :: below :=
            ⟨_, rfl⟩
          rw [hbelow] at h
          rw [← h, List.splitOn_append_cons_self_of_not_mem hline.oneLine_text, ih hrest hbelow]
          rfl

theorem count_broken (indent : Nat) (hsound : ∀ line ∈ lines, line.Sound) :
    (broken indent lines).count '\n' = lines.length := by
  induction lines with
  | nil => rfl
  | cons line rest ih =>
      obtain ⟨hline, hrest⟩ := List.forall_mem_cons.1 hsound
      rw [broken_cons, List.count_append, List.count_cons_self,
        List.count_eq_zero_of_not_mem hline.oneLine_text, ih hrest, List.length_cons]
      omega

/-- Without its indentation a line is what stands on it. -/
theorem Sound.dropWhile_text {line : Line} (h : line.Sound) :
    (line.text indent).dropWhile (· == ' ') = line.content := by
  obtain ⟨first, rest, hcontent, hspace⟩ := h.visible
  rw [text, List.dropWhile_append_of_pos (by simp), hcontent, List.dropWhile_cons_of_neg]
  simpa using hspace

theorem text_zero (line : Line) : line.text 0 = line.content := by
  rw [text, Nat.zero_mul]
  rfl

/-- Neither line feeds nor indentation open or close anything. -/
theorem openContainers_flatMap (indent : Nat) (hsound : ∀ line ∈ lines, line.Sound) :
    outside.after ((lines.map (Line.text indent)).flatMap (· ++ ['\n'])) = .outside ∧
      openContainers ((lines.map (Line.text indent)).flatMap (· ++ ['\n'])) = opened lines := by
  induction lines with
  | nil => exact ⟨rfl, rfl⟩
  | cons line rest ih =>
      obtain ⟨hline, hrest⟩ := List.forall_mem_cons.1 hsound
      obtain ⟨hafter, hopened⟩ := ih hrest
      have hspaces := Piece.spaces (indent * line.level)
      have hclosed : outside.after (line.text indent ++ ['\n']) = .outside := by
        rw [text, after_append, after_append, hspaces.closed, hline.closed]
        rfl
      have hcount : openContainers (line.text indent ++ ['\n']) = openContainers line.content := by
        rw [text, List.append_assoc, openContainers_append hspaces.closed, hspaces.opened,
          openContainers_append hline.closed]
        exact (zero_add _).trans (add_zero _)
      rw [List.map_cons, List.flatMap_cons]
      refine ⟨?_, ?_⟩
      · rw [after_append, hclosed, hafter]
      · rw [openContainers_append hclosed, hcount, hopened, opened_cons]

end Line

/-! ## Items in a text -/

/-- Does a line begin here that does not close a container? -/
def beginsItem (lines : List (List Char)) : Bool :=
  lines.head?.any fun line => !(line.dropWhile (· == ' ')).head?.any isClosing

/-- The lines begin with those of an item: its key, if it has one, and its value, indented as deep
as the item stands, and perhaps a comma. Between the brackets of an empty container stands
nothing. -/
def Item.Begins (indent : UInt64) (item : Item) (lines : List (List Char)) : Prop :=
  ∃ written block later trailing, item.value.write (.pretty indent) item.level = .ok written ∧
    lines = block ++ later ∧ IsTrailing trailing ∧
    ['\n'].intercalate block
      = List.replicate (indent.toNat * item.level) ' ' ++ item.label ++ written.toList
          ++ trailing ∧
    (item.value = .array [] → written.toList = ['[', ']']) ∧
    (item.value = .object [] → written.toList = ['\x7b', '\x7d'])

theorem filter_beginsItem {indent : Nat} {lines : List Line}
    (hsound : ∀ line ∈ lines, line.Sound) :
    (lines.map (Line.text indent)).tails.filter beginsItem
      = (leads lines).map (List.map (Line.text indent)) := by
  induction lines with
  | nil => rfl
  | cons line rest ih =>
      obtain ⟨hline, hrest⟩ := List.forall_mem_cons.1 hsound
      have hbegins : beginsItem ((line :: rest).map (Line.text indent)) = !line.closes := by
        rw [List.map_cons, beginsItem, List.head?_cons, Option.any_some, hline.dropWhile_text]
        rfl
      have htails : ((line :: rest).map (Line.text indent)).tails
          = (line :: rest).map (Line.text indent) :: (rest.map (Line.text indent)).tails :=
        List.tails_cons _ _
      rw [htails, List.filter_cons, hbegins, ih hrest, leads_cons]
      cases line.closes <;> rfl

theorem Item.begins_of_leads {item : Item} {lines : List Line}
    (hfinite : ∀ number ∈ item.value.floats, number.isFinite = true) (h : item.Leads lines)
    (indent : UInt64) : item.Begins indent (lines.map (Line.text indent.toNat)) := by
  obtain ⟨trailing, later, htrailing, rfl⟩ := h
  obtain ⟨written, hwritten, hspells⟩ :=
    Value.exists_write_spelled hfinite indent item.level item.label
  have hbroken : Line.broken indent.toNat (item.lines trailing)
      = '\n' :: (List.replicate (indent.toNat * item.level) ' ' ++ item.label ++ written.toList
          ++ trailing) := by
    rw [Item.lines, hspells, Layout.lineBreak, Fragment.toList_ofList]
    simp
  have hlines := Line.splitOn_of_broken (item.laid hfinite htrailing).run.sound hbroken
  refine ⟨written, (item.lines trailing).map (Line.text indent.toNat),
    later.map (Line.text indent.toNat), trailing, hwritten, List.map_append, htrailing, ?_, ?_, ?_⟩
  · rw [← hlines, List.intercalate_splitOn]
  · intro harray
    rw [harray] at hwritten
    cases hwritten
    exact Fragment.toList_ofList _
  · intro hobject
    rw [hobject] at hwritten
    cases hwritten
    exact Fragment.toList_ofList _

/-! ## Main statement -/

/-- The filter object with the level of nesting that it stands at. -/
def Payload.item (payload : Payload) : Item := ⟨⟨none, .object payload⟩, 0⟩

/-- The text of a filter object with one item a line, each level indented by so many spaces. The
depth of a line is how many containers are open in front of its first character, or one less if that
closes a container. The lines that close nothing begin with the items, each with the next one, from
the filter object itself on. Besides, there is a line for the end of every container that is not
empty. -/
structure Itemized (indent : UInt64) (payload : Payload) (text : List Char) : Prop where
  indentation : ∀ earlier line later, text.splitOn '\n' = earlier ++ line :: later →
    ∃ depth first rest,
      line = List.replicate (indent.toNat * depth) ' ' ++ first :: rest ∧ first ≠ ' ' ∧
      openContainers
          (earlier.flatMap (· ++ ['\n']) ++ List.replicate (indent.toNat * depth) ' ')
        = depth + if isClosing first then 1 else 0
  items : List.Forall₂ (Item.Begins indent) payload.item.all
    ((text.splitOn '\n').tails.filter beginsItem)
  lineFeeds : text.count '\n'
    = (Value.partsWithin 0 (.object payload)).length +
      payload.item.all.countP fun item => item.value.holdsParts

theorem Itemized.of_laid {payload : Payload} {lines : List Line} {indent : UInt64}
    {text : List Char} (hfinite : ∀ number ∈ payload.floats, number.isFinite = true)
    (hlaid : Laid 0 payload.item.all lines)
    (hbroken : Line.broken indent.toNat lines = '\n' :: text) : Itemized indent payload text where
  indentation earlier line later hlines := by
    rw [Line.splitOn_of_broken hlaid.run.sound hbroken] at hlines
    obtain ⟨before, behind, rfl, rfl, hbehind⟩ := List.map_eq_append_iff.1 hlines
    obtain ⟨found, after, rfl, rfl, rfl⟩ := List.map_eq_cons_iff.1 hbehind
    obtain ⟨hbefore, hfound⟩ := List.forall_mem_append.1 hlaid.run.sound
    obtain ⟨first, rest, hcontent, hspace⟩ := (hfound found List.mem_cons_self).visible
    obtain ⟨hclosed, hopened⟩ := Line.openContainers_flatMap indent.toNat hbefore
    refine ⟨found.level, first, rest, by rw [Line.text, hcontent], hspace, ?_⟩
    have hnested := (Line.nested_append.1 hlaid.run.nested).2.1
    have hcloses : found.closes = isClosing first := by rw [Line.closes, hcontent]; rfl
    rw [openContainers_append hclosed, hopened, (Piece.spaces _).opened, ← hcloses, ← hnested]
    omega
  items := by
    obtain ⟨heads, hheads, hleads⟩ := hlaid.leads_append []
    have hall : leads lines = heads := by
      rw [List.append_nil] at hheads
      exact hheads.trans (List.append_nil heads)
    have hitems : ∀ item ∈ payload.item.all, ∀ number ∈ item.value.floats,
        number.isFinite = true := fun item hitem number hnumber =>
      hfinite number (Item.mem_floats_of_mem_all hitem hnumber)
    rw [Line.splitOn_of_broken hlaid.run.sound hbroken, filter_beginsItem hlaid.run.sound, hall,
      List.forall₂_map_right_iff]
    exact ((List.forall₂_and_left _ _).2 ⟨hitems, hleads⟩).imp fun item rest h =>
      Item.begins_of_leads h.1 h.2 indent
  lineFeeds := by
    have hcount := Line.count_broken indent.toNat hlaid.run.sound
    have hlength := hlaid.length_eq
    have hall : payload.item.all.length
        = (Value.partsWithin 0 (.object payload)).length + 1 := rfl
    rw [hbroken, List.count_cons_self] at hcount
    omega

namespace Filter

variable {filter : Filter}

theorem finite_of_rendered {options : RenderOptions} {rendered : String}
    (h : (filter.toTextWith options).result = .ok rendered) :
    ∀ number ∈ filter.payload.floats, number.isFinite = true := by
  have hlaid := (RenderOptions.result_render_eq_ok_iff.1 h).2
  rw [Payload.result_render, Except.mapError_eq_ok_iff, Except.map_eq_ok_iff] at hlaid
  obtain ⟨written, hwritten, -⟩ := hlaid
  exact (hwritten ▸ Payload.failsOn_write filter.payload options.layout).finite_of_ok

/-- All pretty texts of a filter are made of the same lines. -/
theorem exists_lines (hfinite : ∀ number ∈ filter.payload.floats, number.isFinite = true) :
    ∃ lines : List Line, Laid 0 filter.payload.item.all lines ∧
      ∀ indent : UInt64, (Layout.pretty indent).Fits →
        ∃ text : String, (filter.toTextWith (.pretty indent)).result = .ok text ∧
          Line.broken indent.toNat lines = '\n' :: text.toList := by
  refine ⟨filter.payload.item.lines [], filter.payload.item.laid hfinite (Or.inl rfl), ?_⟩
  intro indent hfits
  obtain ⟨written, hwritten, hspells⟩ := Value.exists_write_spelled hfinite indent 0 []
  have hwrite : filter.payload.write (.pretty indent) 0 = .ok written := hwritten
  refine ⟨String.ofList written.toList, ?_, (hspells []).trans ?_⟩
  · refine RenderOptions.result_render_eq_ok_iff.2 ⟨hfits, ?_⟩
    rw [Payload.result_render]
    show ((filter.payload.write (.pretty indent) 0).map _).mapError _ = _
    rw [hwrite]
    rfl
  · rw [Layout.lineBreak, Fragment.toList_ofList, Nat.mul_zero, String.toList_ofList]
    simp

/-- If a filter can be rendered at all, it can be rendered with one item a line and any indentation
that fits. Every line is indented by its depth, which is how many containers are open in front of
its first character, or one less if that closes a container. Every entry of an object and every item
of an array, at all depths and in the order of the document, begins a line of its own. Without the
spaces in front of them, the lines are those of the text that is not indented. -/
theorem pretty_one_item_a_line {options : RenderOptions} {rendered : String}
    (h : (filter.toTextWith options).result = .ok rendered) {indent : UInt64}
    (hfits : (Layout.pretty indent).Fits) :
    ∃ text flat, (filter.toTextWith (.pretty indent)).result = .ok text ∧
      (filter.toTextWith (.pretty 0)).result = .ok flat ∧
      Itemized indent filter.payload text.toList ∧
      Itemized 0 filter.payload flat.toList ∧
      (text.toList.splitOn '\n').map (·.dropWhile (· == ' ')) = flat.toList.splitOn '\n' := by
  have hfinite := finite_of_rendered h
  obtain ⟨lines, hlaid, hrender⟩ := exists_lines hfinite
  obtain ⟨text, htext, hbroken⟩ := hrender indent hfits
  obtain ⟨flat, hflat, hbrokenFlat⟩ := hrender 0 (by decide)
  refine ⟨text, flat, htext, hflat, .of_laid hfinite hlaid hbroken,
    .of_laid hfinite hlaid hbrokenFlat, ?_⟩
  have hsound := hlaid.run.sound
  rw [Line.splitOn_of_broken hsound hbroken, Line.splitOn_of_broken hsound hbrokenFlat,
    List.map_map]
  refine List.map_congr_left fun line hline => ?_
  rw [Function.comp_apply, (hsound line hline).dropWhile_text]
  exact line.text_zero.symm

/-- Brackets, quotes and line feeds in literals neither begin lines nor count, and empty containers
stand on the line of their item. -/
theorem pretty_one_item_a_line_literals :
    let filter : Filter := .object
      [("a[\"", .array [.object [], .text "]\x7d\n", .array [.bool true, .array []]]),
        ("b", .object [])]
    ∃ text flat, (filter.toTextWith (.pretty 3)).result = .ok text ∧
      (filter.toTextWith (.pretty 0)).result = .ok flat ∧ text.toList.count '\n' = 10 ∧
      (text.toList.splitOn '\n').map (·.dropWhile (· == ' ')) = flat.toList.splitOn '\n' := by
  intro filter
  have hfinite : ∀ number ∈ filter.payload.floats, number.isFinite = true := by
    intro number hnumber
    cases hnumber
  obtain ⟨rendered, hrendered⟩ :=
    (written_of_finite hfinite).toTextWith .compact RenderOptions.fits_compact
  have hfits : (Layout.pretty 3).Fits := by decide
  obtain ⟨text, flat, htext, hflat, hitems, -, hlines⟩ := pretty_one_item_a_line hrendered hfits
  have hcount : (Value.partsWithin 0 (.object filter.payload)).length +
      filter.payload.item.all.countP (fun item => item.value.holdsParts) = 10 := by decide
  exact ⟨text, flat, htext, hflat, hitems.lineFeeds.trans hcount, hlines⟩

end Filter

end QueryFilter
