import StyledMarkup.Output.Component
import StyledMarkup.Proofs.Lookup.Tables
import StyledMarkup.Proofs.Style.Hex

/-!
# Reading components

The document of segments reads back as the segments (`document_lossless`), also when the fields of
its objects have been sorted. The reader finds fields by their names, and every rearrangement that
keeps what stands under a name does as well as sorting (`Json.Arranges`).

What a segment does not have is a field that does not stand. The fields of a component are those
that stand in one list of all the names (`component_eq`), and a name is found among them as in the
list (`lookup_standing`).
-/

namespace StyledMarkup

variable {α : Type}

namespace Json

/-! ## Rearranged documents -/

/-- Whether a change to documents keeps texts and flags, and changes lists item by item and objects
field by field, whatever it does to the order of the fields. -/
structure Arranges (arrange : Json → Json) : Prop where
  text (content : Text) : arrange (.text content) = .text content
  bool (value : Bool) : arrange (.bool value) = .bool value
  list (items : List Json) : arrange (.list items) = .list (items.map arrange)
  field? {fields : List (Text × Json)} (h : (fields.map Prod.fst).Nodup) (name : Text) :
    (arrange (.object fields)).field? name = (fields.lookup name).map arrange

theorem arranges_id : Arranges id where
  text _ := rfl
  bool _ := rfl
  list items := by rw [List.map_id, id]
  field? _ _ := by rw [Option.map_id, id]; rfl

theorem sortedItems_eq_map (items : List Json) : sortedItems items = items.map sorted := by
  induction items with
  | nil => rfl
  | cons item items ih => rw [sortedItems, ih, List.map_cons]

theorem sortedFields_eq_map (fields : List (Text × Json)) :
    sortedFields fields = fields.map fun field => (field.1, sorted field.2) := by
  induction fields with
  | nil => rfl
  | cons field fields ih => rw [sortedFields, ih, List.map_cons]

theorem arranges_sorted : Arranges sorted where
  text _ := rfl
  bool _ := rfl
  list items := by rw [sorted, sortedItems_eq_map]
  field? {fields} h name := by
    have hnames : ((fields.map fun field => (field.1, sorted field.2)).map Prod.fst).Nodup := by
      rw [List.map_map]
      exact h
    rw [sorted, sortedFields_eq_map, ofFields, Json.field?, ← Entries.find?_eq_lookup,
      ← Entries.find?_eq_lookup]
    refine (Table.get?_insertAll_of_nodup name _ Table.empty hnames).trans ?_
    rw [Table.get?_empty, Option.or_none, Entries.find?_map fun _ => sorted]

end Json

namespace Output

/-! ## Fields that stand -/

/-- The fields of the names that have a value. -/
def standing (fields : List (Text × Option Json)) : List (Text × Json) :=
  fields.filterMap fun field => field.2.map fun value => (field.1, value)

theorem standing_cons (name : String) (value : Option Json) (rest : List (Text × Option Json)) :
    standing ((name.toList, value) :: rest) = optionalField name value ++ standing rest := by
  cases value <;> rfl

theorem standing_sublist (fields : List (Text × Option Json)) :
    List.Sublist ((standing fields).map Prod.fst) (fields.map Prod.fst) := by
  induction fields with
  | nil => exact .slnil
  | cons field fields ih =>
    obtain ⟨name, _ | value⟩ := field
    · exact ih.cons name
    · exact ih.cons_cons name

theorem lookup_standing {fields : List (Text × Option Json)} (h : (fields.map Prod.fst).Nodup)
    (name : Text) : (standing fields).lookup name = (fields.lookup name).join := by
  induction fields with
  | nil => rfl
  | cons field fields ih =>
    obtain ⟨hfirst, hrest⟩ := List.nodup_cons.1 h
    obtain ⟨key, value⟩ := field
    rw [List.lookup_cons]
    by_cases hname : name = key
    · subst hname
      have hnone : (standing fields).lookup name = none := by
        rw [← Entries.find?_eq_lookup]
        exact Entries.find?_eq_none fun hm => hfirst ((standing_sublist fields).subset hm)
      cases value with
      | none => simpa [standing] using hnone
      | some content => simp [standing]
    · have hne : (name == key) = false := beq_eq_false_iff_ne.2 hname
      cases value with
      | none => simpa [standing, hne] using ih hrest
      | some content => simpa [standing, hne, List.lookup_cons] using ih hrest

/-- What stands for a flag, if it is on. -/
def flagValue? (flag : Bool) : Option Json :=
  if flag then some (.bool true) else none

/-- The names of the fields of a component, with their values if they have any. -/
def componentFields (segment : Segment) : List (Text × Option Json) :=
  let style := segment.style
  [("text".toList, some (.text segment.text)),
    ("color".toList, style.color.map fun color => .text color.label),
    ("bold".toList, flagValue? style.bold),
    ("italic".toList, flagValue? style.italic),
    ("underlined".toList, flagValue? style.underlined),
    ("strikethrough".toList, flagValue? style.strikethrough),
    ("obfuscated".toList, flagValue? style.obfuscated),
    ("clickEvent".toList, segment.click.map clickComponent),
    ("hoverEvent".toList, segment.hover.map hoverComponent),
    ("insertion".toList, segment.insertion.map .text)]

theorem flagField_eq (name : String) (flag : Bool) :
    flagField name flag = optionalField name (flagValue? flag) := by
  cases flag <;> rfl

theorem component_eq (segment : Segment) :
    component segment = .object (standing (componentFields segment)) := by
  have htext : ∀ rest, standing (("text".toList, some (.text segment.text)) :: rest) =
      ("text".toList, .text segment.text) :: standing rest := fun _ => rfl
  simp only [component, componentFields, htext, standing_cons, flagField_eq, List.cons_append,
    List.append_assoc]
  rw [show standing [] = [] from rfl, List.append_nil]

end Output

/-! ## The reader -/

theorem ClickKind.ofName?_name (kind : ClickKind) : ofName? kind.name = some kind := by
  cases kind <;> decide

theorem NamedColor.ofName?_name (color : NamedColor) : ofName? color.name = some color := by
  cases color <;> decide +kernel

theorem Rgb.ofHex?_toText (color : Rgb) : ofHex? color.toText = some color := by
  have h := ofHex?_hexDigits color
  unfold ofHex? at h ⊢
  rw [after?_hexDigits fun _ => isHexDigit_of_mem_hexDigits] at h
  exact h

theorem Color.ofText?_label (color : Color) : ofText? color.label = some color := by
  cases color with
  | named color =>
    have hhead : color.name.head? ≠ some '#' := by cases color <;> decide
    rw [ofText?, label, if_neg hhead, NamedColor.ofName?_name, Option.map_some]
  | rgb color =>
    have hhead : color.toText.head? = some '#' := rfl
    rw [ofText?, label, if_pos hhead, Rgb.ofHex?_toText, Option.map_some]

namespace Output

/-- The content of a text. -/
def readText? : Json → Option Text
  | .text content => some content
  | _ => none

/-- Reads the value of a field that need not stand. -/
def readOptional? (read : Json → Option α) : Option Json → Option (Option α)
  | none => some none
  | some value => (read value).map some

/-- Reads the color of a label. -/
def readColor? (label : Json) : Option Color := do
  Color.ofText? (← readText? label)

/-- Reads a click. -/
def readClick? (event : Json) : Option ClickAction := do
  let kind ← ClickKind.ofName? (← readText? (← event.field? "action".toList))
  let value ← readText? (← event.field? "value".toList)
  return ⟨kind, value⟩

/-- Reads a hover. -/
def readHover? (event : Json) : Option Text := do
  readText? (← event.field? "contents".toList)

/-- Reads the segment of a component. A flag is on if its field stands. -/
def readSegment? (component : Json) : Option Segment := do
  let text ← readText? (← component.field? "text".toList)
  let color ← readOptional? readColor? (component.field? "color".toList)
  let click ← readOptional? readClick? (component.field? "clickEvent".toList)
  let hover ← readOptional? readHover? (component.field? "hoverEvent".toList)
  let insertion ← readOptional? readText? (component.field? "insertion".toList)
  let bold := (component.field? "bold".toList).isSome
  let italic := (component.field? "italic".toList).isSome
  let underlined := (component.field? "underlined".toList).isSome
  let strikethrough := (component.field? "strikethrough".toList).isSome
  let obfuscated := (component.field? "obfuscated".toList).isSome
  return ⟨text, ⟨color, bold, italic, underlined, strikethrough, obfuscated⟩, click, hover,
    insertion⟩

/-- Reads the segments of a document. -/
def readSegments? (document : Json) : Option (List Segment) :=
  match document.field? "extra".toList with
  | none => some []
  | some (.list components) => components.mapM readSegment?
  | some _ => none

theorem readOptional?_map {read : Json → Option α} {write : α → Json}
    (h : ∀ a, read (write a) = some a) (value : Option α) :
    readOptional? read (value.map write) = some value := by
  cases value with
  | none => rfl
  | some a => rw [Option.map_some, readOptional?, h, Option.map_some]

section Arranged

variable {arrange : Json → Json} (h : Json.Arranges arrange)
include h

theorem readColor?_label (color : Color) :
    readColor? (arrange (.text color.label)) = some color := by
  rw [h.text]
  exact Color.ofText?_label color

theorem readClick?_clickComponent (click : ClickAction) :
    readClick? (arrange (clickComponent click)) = some click := by
  have hfield : ∀ name, (arrange (clickComponent click)).field? name = Option.map arrange
      ([("action".toList, .text click.kind.name), ("value".toList, .text click.value)].lookup name) :=
    h.field? (by simp)
  have haction : (arrange (clickComponent click)).field? "action".toList =
      some (.text click.kind.name) := (hfield _).trans (congrArg some (h.text _))
  have hvalue : (arrange (clickComponent click)).field? "value".toList =
      some (.text click.value) := (hfield _).trans (congrArg some (h.text _))
  simp only [readClick?, haction, hvalue, readText?, ClickKind.ofName?_name, Option.bind_eq_bind,
    Option.bind_some, Option.pure_def]

theorem readHover?_hoverComponent (shown : Text) :
    readHover? (arrange (hoverComponent shown)) = some shown := by
  have hcontents : (arrange (hoverComponent shown)).field? "contents".toList =
      some (.text shown) := (h.field? (by simp) _).trans (congrArg some (h.text _))
  simp only [readHover?, hcontents, readText?, Option.bind_eq_bind, Option.bind_some]

theorem field?_component (segment : Segment) (name : Text) :
    (arrange (component segment)).field? name =
      ((componentFields segment).lookup name).join.map arrange := by
  have hnames : ((componentFields segment).map Prod.fst).Nodup := by
    simp [componentFields]
  rw [component_eq, h.field? (hnames.sublist (standing_sublist _)), lookup_standing hnames]

theorem isSome_field?_component (segment : Segment) (name : Text) {flag : Bool}
    (hflag : (componentFields segment).lookup name = some (flagValue? flag)) :
    ((arrange (component segment)).field? name).isSome = flag := by
  rw [field?_component h, hflag, Option.join_some, Option.isSome_map]
  cases flag <;> rfl

theorem readOptional?_component {segment : Segment} {name : Text} {value : Option α}
    {write : α → Json} {read : Json → Option α}
    (hvalue : (componentFields segment).lookup name = some (value.map write))
    (hread : ∀ a, read (arrange (write a)) = some a) :
    readOptional? read ((arrange (component segment)).field? name) = some value := by
  rw [field?_component h, hvalue, Option.join_some, Option.map_map]
  exact readOptional?_map hread value

theorem readSegment?_component (segment : Segment) :
    readSegment? (arrange (component segment)) = some segment := by
  have htext : (arrange (component segment)).field? "text".toList = some (.text segment.text) :=
    (field?_component h segment _).trans (congrArg some (h.text _))
  have hcolor : readOptional? readColor? ((arrange (component segment)).field? "color".toList) =
      some segment.style.color := readOptional?_component h rfl (readColor?_label h)
  have hclick : readOptional? readClick?
      ((arrange (component segment)).field? "clickEvent".toList) = some segment.click :=
    readOptional?_component h rfl (readClick?_clickComponent h)
  have hhover : readOptional? readHover?
      ((arrange (component segment)).field? "hoverEvent".toList) = some segment.hover :=
    readOptional?_component h rfl (readHover?_hoverComponent h)
  have hinsertion : readOptional? readText?
      ((arrange (component segment)).field? "insertion".toList) = some segment.insertion :=
    readOptional?_component h rfl fun content => congrArg readText? (h.text content)
  have hbold := isSome_field?_component h segment "bold".toList rfl
  have hitalic := isSome_field?_component h segment "italic".toList rfl
  have hunderlined := isSome_field?_component h segment "underlined".toList rfl
  have hstrikethrough := isSome_field?_component h segment "strikethrough".toList rfl
  have hobfuscated := isSome_field?_component h segment "obfuscated".toList rfl
  simp only [readSegment?, htext, hcolor, hclick, hhover, hinsertion, hbold, hitalic, hunderlined,
    hstrikethrough, hobfuscated, readText?, Option.bind_eq_bind, Option.bind_some, Option.pure_def]

theorem mapM_readSegment? (segments : List Segment) :
    ((segments.map component).map arrange).mapM readSegment? = some segments := by
  induction segments with
  | nil => rfl
  | cons segment segments ih =>
    rw [List.map_cons, List.map_cons, List.mapM_cons, readSegment?_component h, ih]
    rfl

theorem readSegments?_document (segments : List Segment) :
    readSegments? (arrange (document segments)) = some segments := by
  cases segments with
  | nil =>
    have hextra : (arrange (document [])).field? "extra".toList = none := h.field? (by simp) _
    rw [readSegments?, hextra]
  | cons segment segments =>
    have hextra : (arrange (document (segment :: segments))).field? "extra".toList =
        some (.list (((segment :: segments).map component).map arrange)) :=
      (h.field? (by simp) _).trans (congrArg some (h.list _))
    rw [readSegments?, hextra]
    exact mapM_readSegment? h _

end Arranged

/-- The segments read back from their document, with the fields in the order of the format or
sorted, so no two lists of segments have the same document. -/
theorem document_lossless :
    (∀ segments, readSegments? (sortedDocument segments) = some segments) ∧
    (∀ segments, readSegments? (document segments) = some segments) ∧
    Function.Injective sortedDocument ∧ Function.Injective document := by
  have hsorted := readSegments?_document Json.arranges_sorted
  have hplain := readSegments?_document Json.arranges_id
  refine ⟨hsorted, hplain, fun segments others heq => ?_, fun segments others heq => ?_⟩
  · exact Option.some.inj ((hsorted segments).symm.trans ((congrArg _ heq).trans (hsorted others)))
  · exact Option.some.inj ((hplain segments).symm.trans ((congrArg _ heq).trans (hplain others)))

end Output
end StyledMarkup
