import StyledMarkup.Proofs.Json.Walk
import StyledMarkup.Proofs.Lookup.LastBinding

/-!
# What is recorded of a document

The visits of a document are those of the parts along the walk, each under the name that its path
spells (`visits_eq`), and of the visits under one name the last one counts
(`get?_flatten_eq_some_iff`). So a name is bound just if a path of that name leads to a part that
is not null, and to the text of the last such part (`flatten_records_iff`).

There is one exception. The name of a part is built from the empty name of the whole document, so a
field of the empty name there is taken for the document itself, and its value is bound to another
name or to none (`flatten_loses_empty_name`).
-/

namespace StyledMarkup

/-! ## The last entry of a name -/

namespace Table

variable {α ι : Type}

/-- In a table of what is found in order, a name is bound to what was found last for it. -/
theorem get?_ofList_filterMap {before : ι → ι → Prop} (hasymm : ∀ a b, before a b → ¬ before b a)
    (bindingOf? : ι → Option (Text × α)) {found : List ι} (h : found.Pairwise before) (name : Text)
    (value : α) :
    (ofList (found.filterMap bindingOf?)).get? name = some value ↔
      ∃ a ∈ found, bindingOf? a = some (name, value) ∧
        ∀ b ∈ found, ∀ other, bindingOf? b = some (name, other) → ¬ before a b := by
  constructor
  · intro hget
    obtain ⟨front, behind, hfound, hlast⟩ := get?_ofList_eq_some_iff.1 hget
    obtain ⟨earlier, rest, rfl, -, hrest⟩ := List.filterMap_eq_append_iff.1 hfound
    obtain ⟨skipped, a, later, rfl, -, ha, rfl⟩ := List.filterMap_eq_cons_iff.1 hrest
    rw [← List.append_assoc] at h ⊢
    obtain ⟨-, -, hfront⟩ := List.pairwise_append.1 h
    refine ⟨a, by simp, ha, fun b hb other hother => ?_⟩
    rcases List.mem_append.1 hb with hb | hb
    · exact hasymm b a (hfront b hb a List.mem_cons_self)
    rcases List.mem_cons.1 hb with rfl | hb
    · exact fun hbb => hasymm b b hbb hbb
    · exact absurd rfl (hlast (name, other) (List.mem_filterMap.2 ⟨b, hb, hother⟩))
  · rintro ⟨a, ha, hbinding, hlast⟩
    obtain ⟨earlier, later, rfl⟩ := List.append_of_mem ha
    obtain ⟨-, hlater, -⟩ := List.pairwise_append.1 h
    rw [List.filterMap_append, List.filterMap_cons_some hbinding]
    refine get?_ofList_eq_some_iff.2 ⟨_, _, rfl, fun entry hentry hname => ?_⟩
    obtain ⟨b, hb, hbound⟩ := List.mem_filterMap.1 hentry
    refine hlast b (by simp [hb]) entry.2 ?_ ((List.pairwise_cons.1 hlater).1 b hb)
    rw [hbound, ← hname]

end Table

namespace Json

/-! ## Names of paths -/

/-- The parts of a path joined by dots. -/
def pathName (path : List Step) : Text :=
  Text.join ['.'] (path.map Step.text)

/-- The name of the part at the end of a path inside the part of a given name. -/
def nameFrom (name : Text) (path : List Step) : Text :=
  path.foldl (fun n step => childName n step.text) name

theorem join_append (separator front first : Text) (rest : List Text) :
    Text.join separator ((front ++ first) :: rest) =
      front ++ Text.join separator (first :: rest) := by
  cases rest <;> simp [Text.join]

theorem nameFrom_eq_join {name : Text} (h : name ≠ []) (path : List Step) :
    nameFrom name path = Text.join ['.'] (name :: path.map Step.text) := by
  induction path generalizing name with
  | nil => rfl
  | cons step path ih =>
    have hname : childName name step.text = (name ++ ['.']) ++ step.text := by
      simp [childName, h]
    have hne : name ++ ['.'] ++ step.text ≠ [] := by simp
    rw [nameFrom, List.foldl_cons, hname, ← nameFrom, ih hne, join_append]
    rfl

/-- The visit of a part, inside the part of a given name. -/
def visitOf? (name : Text) (found : List Step × Json) : Option (Text × Text) :=
  match nameFrom name found.1, found.2 with
  | _, .null => none
  | [], part => if part.isContainer then none else some ("value".toList, part.content)
  | full, part => some (full, part.content)

theorem filterMap_under (name : Text) (step : Step) (found : List (List Step × Json)) :
    (found.map (under step)).filterMap (visitOf? name) =
      found.filterMap (visitOf? (childName name step.text)) := by
  rw [List.filterMap_map]
  rfl

mutual

/-- The visits are those of the parts along the walk. -/
theorem visits_eq (name : Text) : ∀ document : Json,
    visits name document = (walk document).filterMap (visitOf? name)
  | .object fields => by
    rw [visits, walk, visitsOfFields_eq name fields, List.filterMap_cons]
    cases name <;> rfl
  | .list items => by
    rw [visits, walk, visitsOfItems_eq name 0 items, List.filterMap_cons]
    cases name <;> rfl
  | .null => by cases name <;> rfl
  | .bool _ => by cases name <;> rfl
  | .int _ => by cases name <;> rfl
  | .float _ => by cases name <;> rfl
  | .text _ => by cases name <;> rfl

theorem visitsOfFields_eq (name : Text) : ∀ fields : List (Text × Json),
    visitsOfFields name fields = (walkFields fields).filterMap (visitOf? name)
  | [] => rfl
  | (step, value) :: fields => by
    rw [visitsOfFields, walkFields, visits_eq _ value, visitsOfFields_eq name fields,
      List.filterMap_append, filterMap_under]
    rfl

theorem visitsOfItems_eq (name : Text) : ∀ (index : Nat) (items : List Json),
    visitsOfItems name index items = (walkItems index items).filterMap (visitOf? name)
  | _, [] => rfl
  | index, item :: items => by
    rw [visitsOfItems, walkItems, visits_eq _ item, visitsOfItems_eq name (index + 1) items,
      List.filterMap_append, filterMap_under]
    rfl

end

/-- In a document whose fields ascend, a name is bound to the text of the last part that is visited
under it. -/
theorem get?_flatten_eq_some_iff {document : Json} (hord : Ordered document)
    (name content : Text) : (flatten document).get? name = some content ↔
      ∃ path part, Leads document path part ∧ visitOf? [] (path, part) = some (name, content) ∧
        ∀ other more text, Leads document other more →
          visitOf? [] (other, more) = some (name, text) → ¬ Before path other := by
  rw [flatten, visits_eq,
    Table.get?_ofList_filterMap (fun _ _ h => Before.asymm h) _ (pairwise_walk hord)]
  constructor
  · rintro ⟨⟨path, part⟩, hm, hvisit, hlast⟩
    exact ⟨path, part, (mem_walk _).1 hm, hvisit, fun other more text hl hother =>
      hlast (other, more) ((mem_walk _).2 hl) text hother⟩
  · rintro ⟨path, part, hl, hvisit, hlast⟩
    exact ⟨(path, part), (mem_walk _).2 hl, hvisit, fun other hm text hother =>
      hlast other.1 other.2 text ((mem_walk _).1 hm) hother⟩

/-! ## Parts by their names -/

/-- Whether a path of the name leads to a part that is not null. -/
structure Names (document : Json) (name : Text) (path : List Step) (part : Json) : Prop where
  leads : Leads document path part
  path_ne_nil : path ≠ []
  part_ne_null : part ≠ .null
  pathName_eq : pathName path = name

/-- Whether the part is the last one that has the name. -/
def IsLast (document : Json) (name : Text) (path : List Step) (part : Json) : Prop :=
  Names document name path part ∧
    ∀ other more, Names document name other more → ¬ Before path other

theorem text_item_ne_nil (index : Nat) : (Step.item index).text ≠ [] :=
  Nat.toDigits_ne_nil

theorem pathName_ne_nil {step : Step} (h : step.text ≠ []) (path : List Step) :
    pathName (step :: path) ≠ [] := by
  cases path <;> simp [pathName, Text.join, h]

/-- Only the field of the empty name in the whole document has the empty name. -/
theorem Names.path_eq {document part : Json} {path : List Step}
    (h : Names document [] path part) : path = [.field []] := by
  rcases path with _ | ⟨step, _ | ⟨next, path⟩⟩
  · exact absurd rfl h.path_ne_nil
  · cases step with
    | field name => exact congrArg (fun n => [Step.field n]) h.pathName_eq
    | item index => exact absurd h.pathName_eq (pathName_ne_nil (text_item_ne_nil index) [])
  · have hname := h.pathName_eq
    simp [pathName, Text.join] at hname

theorem Names.isLast {document part : Json} {path : List Step}
    (h : Names document [] path part) : IsLast document [] path part := by
  refine ⟨h, fun other more ho => ?_⟩
  rw [h.path_eq, ho.path_eq]
  exact fun hb => hb.asymm hb

theorem visitOf?_null (name : Text) (path : List Step) : visitOf? name (path, .null) = none := by
  unfold visitOf?
  rfl

theorem visitOf?_of_container {document : Json} (h : document.isContainer = true) :
    visitOf? [] ([], document) = none := by
  cases document with
  | list items => rfl
  | object fields => rfl
  | _ => cases h

theorem visitOf?_of_named {name sought content : Text} {path : List Step} {part : Json}
    (h : nameFrom name path ≠ []) : visitOf? name (path, part) = some (sought, content) ↔
      part ≠ .null ∧ nameFrom name path = sought ∧ part.content = content := by
  unfold visitOf?
  split
  · rename_i hnull
    obtain rfl : part = .null := hnull
    simp
  · rename_i hnil _
    exact absurd hnil h
  · rename_i hnull
    simp only [Option.some.injEq, Prod.mk.injEq]
    exact (and_iff_right hnull).symm

theorem ne_nil_of_visitOf? {name sought content : Text} {found : List Step × Json}
    (h : visitOf? name found = some (sought, content)) : sought ≠ [] := by
  unfold visitOf? at h
  split at h
  · cases h
  · split at h
    · cases h
    · cases h
      decide
  · rename_i hnil _
    cases h
    exact hnil

/-- Nothing is bound to the empty name. -/
theorem get?_flatten_nil {document : Json} (hord : Ordered document) :
    (flatten document).get? [] = none := by
  refine Option.eq_none_iff_forall_ne_some.2 fun content h => ?_
  obtain ⟨_, _, -, hvisit, -⟩ := (get?_flatten_eq_some_iff hord [] content).1 h
  exact ne_nil_of_visitOf? hvisit rfl

section NoEmptyName

variable {document : Json} (hempty : ∀ value, Leads document [.field []] value → value = .null)

include hempty

theorem step_text_ne_nil {part : Json} {step : Step} {path : List Step}
    (h : Leads document (step :: path) part) (hpart : part ≠ .null) : step.text ≠ [] := by
  cases h with
  | field hm hl =>
    rintro rfl
    obtain rfl := hempty _ (.field hm (.here _))
    cases hl
    exact hpart rfl
  | item _ _ => exact text_item_ne_nil _

/-- In a container whose field of the empty name is null or not there, the visits are under the
names of the paths. -/
theorem visitOf?_eq_some_iff (hroot : document.isContainer = true) {path : List Step} {part : Json}
    (h : Leads document path part) {name content : Text} :
    visitOf? [] (path, part) = some (name, content) ↔
      Names document name path part ∧ part.content = content := by
  by_cases hpart : part = .null
  · rw [hpart, visitOf?_null]
    exact iff_of_false (Option.some_ne_none _).symm fun hn => hn.1.part_ne_null rfl
  rcases path with _ | ⟨step, path⟩
  · cases h
    rw [visitOf?_of_container hroot]
    exact iff_of_false (Option.some_ne_none _).symm fun hn => hn.1.path_ne_nil rfl
  · have hstep : step.text ≠ [] := step_text_ne_nil hempty h hpart
    have hname : nameFrom [] (step :: path) = pathName (step :: path) := nameFrom_eq_join hstep path
    have hne : nameFrom [] (step :: path) ≠ [] := hname ▸ pathName_ne_nil hstep path
    rw [visitOf?_of_named hne, hname]
    constructor
    · rintro ⟨hnull, hpath, hcontent⟩
      exact ⟨⟨h, List.cons_ne_nil _ _, hnull, hpath⟩, hcontent⟩
    · rintro ⟨hn, hcontent⟩
      exact ⟨hn.part_ne_null, hn.pathName_eq, hcontent⟩

/-- In such a container whose fields ascend, a name is bound just to the text of the last part that
has it. -/
theorem get?_flatten_iff_isLast (hord : Ordered document) (hroot : document.isContainer = true)
    (name content : Text) : (flatten document).get? name = some content ↔
      ∃ path part, IsLast document name path part ∧ part.content = content := by
  have hvisit : ∀ {path part}, Leads document path part → ∀ {content},
      visitOf? [] (path, part) = some (name, content) ↔
        Names document name path part ∧ part.content = content :=
    fun h => visitOf?_eq_some_iff hempty hroot h
  rw [get?_flatten_eq_some_iff hord]
  constructor
  · rintro ⟨path, part, hl, hbound, hlast⟩
    obtain ⟨hn, hcontent⟩ := (hvisit hl).1 hbound
    exact ⟨path, part, ⟨hn, fun other more ho =>
      hlast other more _ ho.leads ((hvisit ho.leads).2 ⟨ho, rfl⟩)⟩, hcontent⟩
  · rintro ⟨path, part, ⟨hn, hlast⟩, hcontent⟩
    exact ⟨path, part, hn.leads, (hvisit hn.leads).2 ⟨hn, hcontent⟩,
      fun other more text hl hother => hlast other more ((hvisit hl).1 hother).1⟩

end NoEmptyName

/-- In a container whose fields ascend, the names are bound just to the texts of the last parts
that have them, if and only if the field of the empty name is null or not there. -/
theorem flatten_records_iff {document : Json} (hord : Ordered document)
    (hroot : document.isContainer = true) :
    (∀ name content, (flatten document).get? name = some content ↔
      ∃ path part, IsLast document name path part ∧ part.content = content) ↔
    ∀ value, Leads document [.field []] value → value = .null := by
  constructor
  · intro hrecords value hl
    by_contra hvalue
    have hn : Names document [] [.field []] value := ⟨hl, List.cons_ne_nil _ _, hvalue, rfl⟩
    have hget := (hrecords [] value.content).2 ⟨_, _, hn.isLast, rfl⟩
    rw [get?_flatten_nil hord] at hget
    cases hget
  · exact fun hempty name content => get?_flatten_iff_isLast hempty hord hroot name content

/-- The field `a.0` comes after the first item of the field `a`, and its text counts. -/
theorem flatten_records_iff_dotted :
    Ordered (.object [("a".toList, .list [.int 1, .null]), ("a.0".toList, .text "x".toList)]) ∧
      ∃ path part, IsLast
        (.object [("a".toList, .list [.int 1, .null]), ("a.0".toList, .text "x".toList)])
        "a.0".toList path part ∧ part.content = "x".toList := by
  have hlist : Ordered (.list [.int 1, .null]) :=
    .list fun item hm => by
      simp only [List.mem_cons, List.not_mem_nil, or_false] at hm
      rcases hm with rfl | rfl
      · exact .scalar rfl
      · exact .scalar rfl
  have hord : Ordered
      (.object [("a".toList, .list [.int 1, .null]), ("a.0".toList, .text "x".toList)]) := by
    refine .object ?_ fun field hm => ?_
    · unfold Entries.Ascending
      simp only [List.pairwise_cons]
      decide
    · simp only [List.mem_cons, List.not_mem_nil, or_false] at hm
      rcases hm with rfl | rfl
      · exact hlist
      · exact .scalar rfl
  have hempty : ∀ value, Leads
      (.object [("a".toList, .list [.int 1, .null]), ("a.0".toList, .text "x".toList)])
      [.field []] value → value = .null := by
    rintro value (_ | ⟨hm, -⟩ | _)
    simp at hm
  have hget := (flatten_records_iff hord rfl).2 hempty "a.0".toList "x".toList
  exact ⟨hord, hget.1 (by rfl)⟩

/-- A field of the empty name in the whole document is taken for the document. -/
theorem flatten_loses_empty_name :
    (∃ path part, IsLast (.object [([], .int 5), ("value".toList, .int 6)]) [] path part ∧
      part.content = "5".toList) ∧
    (flatten (.object [([], .int 5), ("value".toList, .int 6)])).entries =
      [("value".toList, "6".toList)] := by
  have hleads : Leads (.object [([], .int 5), ("value".toList, .int 6)]) [.field []] (.int 5) :=
    .field List.mem_cons_self (.here _)
  have hn : Names (.object [([], .int 5), ("value".toList, .int 6)]) [] [.field []] (.int 5) :=
    ⟨hleads, List.cons_ne_nil _ _, nofun, rfl⟩
  exact ⟨⟨_, _, hn.isLast, rfl⟩, rfl⟩

end Json
end StyledMarkup
