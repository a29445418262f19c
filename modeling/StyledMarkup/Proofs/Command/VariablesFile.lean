import StyledMarkup.Main
import StyledMarkup.Proofs.Command.Reading
import StyledMarkup.Proofs.Json.Following

/-!
# What a file of variables binds

A name is bound in a file of variables to the text of the last part of its document that has the
name (`Command.readVariables_get?_iff_isLast`), and with plain names to the text of the part that
the name leads to (`Command.readVariables_get?_iff_atPath?`). Both need the fields of the document
to ascend, and so they do with the readers of the program (`Command.ownReaders_keepOrder`).

The reader of JSON puts a field in its place among those so far, and what is open stays ordered
with each lexeme (`Json.State.IsOrdered.read?`). The reader of YAML makes an object of all of its
fields at once.
-/

namespace StyledMarkup
namespace Json

theorem ordered_nil : Ordered (.list []) :=
  .list nofun

theorem ordered_empty : Ordered (.object []) :=
  .object .nil nofun

theorem Ordered.cons {item : Json} {items : List Json} (hitem : Ordered item)
    (h : Ordered (.list items)) : Ordered (.list (item :: items)) :=
  .list (List.forall_mem_cons.2 ⟨hitem, h.items⟩)

theorem Ordered.reverse {items : List Json} (h : Ordered (.list items)) :
    Ordered (.list items.reverse) :=
  .list fun item hm => h.items item (List.mem_reverse.1 hm)

theorem Ordered.insert {name : Text} {value : Json} {fields : List (Text × Json)}
    (hvalue : Ordered value) (h : Ordered (.object fields)) :
    Ordered (.object (Entries.insert name value fields)) := by
  obtain ⟨hasc, hfields⟩ := h.fields
  refine .object hasc.insert fun field hm => ?_
  rcases Entries.mem_insert hm with rfl | hm
  · exact hvalue
  · exact hfields field hm

theorem ordered_ofFields {fields : List (Text × Json)} (h : ∀ field ∈ fields, Ordered field.2) :
    Ordered (ofFields fields) := by
  have hinsert : ∀ (fields : List (Text × Json)) (table : Table Json),
      (∀ field ∈ fields, Ordered field.2) → Ordered (.object table.entries) →
        Ordered (.object (table.insertAll fields).entries) := by
    intro fields
    induction fields with
    | nil => exact fun _ _ ht => ht
    | cons field fields ih =>
      intro table h ht
      obtain ⟨hfield, hfields⟩ := List.forall_mem_cons.1 h
      exact ih _ hfields (.insert hfield ht)
  exact hinsert fields .empty h ordered_empty

/-! ## Reading JSON -/

theorem isContainer_of_readNumber? {t : Text} {document : Json}
    (h : readNumber? t = some document) : document.isContainer = false := by
  unfold readNumber? at h
  obtain ⟨parts, -, h⟩ := Option.bind_eq_some_iff.1 h
  extract_lets n isWhole at h
  split at h
  · cases h
    rfl
  · split at h
    · cases h
      rfl
    · obtain ⟨d, -, h⟩ := Option.bind_eq_some_iff.1 h
      cases h
      rfl

theorem isContainer_of_readWord? {word : Text} {document : Json}
    (h : readWord? word = some document) : document.isContainer = false := by
  unfold readWord? at h
  split_ifs at h <;> cases h <;> rfl

/-- Whether the lexeme stands for no container as a whole. -/
def Lexeme.IsFlat : Lexeme → Prop
  | .scalar value => value.isContainer = false
  | _ => True

theorem isFlat_of_sign? {c : Char} {lexeme : Lexeme} (h : sign? c = some lexeme) :
    lexeme.IsFlat := by
  unfold sign? at h
  split at h <;> cases h <;> trivial

theorem isFlat_of_lexemeAt? {c : Char} {rest : Text} {lexeme : Lexeme} {length : Nat}
    (h : lexemeAt? c rest = some (lexeme, length)) : lexeme.IsFlat := by
  unfold lexemeAt? at h
  split at h
  · obtain ⟨_, -, h⟩ := Option.bind_eq_some_iff.1 h
    obtain ⟨_, -, h⟩ := Option.bind_eq_some_iff.1 h
    cases h
    trivial
  · split at h
    · obtain ⟨number, hnumber, h⟩ := Option.bind_eq_some_iff.1 h
      cases h
      exact isContainer_of_readNumber? hnumber
    · split at h
      · rename_i hsign
        cases h
        exact isFlat_of_sign? hsign
      · obtain ⟨word, hword, h⟩ := Option.bind_eq_some_iff.1 h
        cases h
        exact isContainer_of_readWord? hword

theorem isFlat_of_lexemes? {t : Text} {read : List Lexeme} (h : lexemes? t = some read) :
    ∀ lexeme ∈ read, lexeme.IsFlat := by
  fun_induction lexemes? t generalizing read with
  | case1 =>
    cases h
    nofun
  | case2 c rest hspace ih => exact ih h
  | case3 c rest hspace ih =>
    obtain ⟨⟨lexeme, length⟩, hlexeme, h⟩ := Option.bind_eq_some_iff.1 h
    obtain ⟨more, hmore, h⟩ := Option.bind_eq_some_iff.1 h
    cases h
    exact List.forall_mem_cons.2 ⟨isFlat_of_lexemeAt? hlexeme, ih length hmore⟩

/-- Whether all that is read so far of an open container is ordered. -/
def Frame.IsOrdered : Frame → Prop
  | .list items => Ordered (.list items)
  | .object fields _ => Ordered (.object fields)

/-- Whether all that is read so far is ordered. -/
def State.IsOrdered : State → Prop
  | .value outer _ => ∀ frame ∈ outer, frame.IsOrdered
  | .name outer fields _ => Ordered (.object fields) ∧ ∀ frame ∈ outer, frame.IsOrdered
  | .colon outer fields _ => Ordered (.object fields) ∧ ∀ frame ∈ outer, frame.IsOrdered
  | .after inner outer => inner.IsOrdered ∧ ∀ frame ∈ outer, frame.IsOrdered
  | .done document => Ordered document

theorem isOrdered_deliver {document : Json} (h : Ordered document) {frames : List Frame}
    (hframes : ∀ frame ∈ frames, frame.IsOrdered) : (State.deliver document frames).IsOrdered := by
  rcases frames with _ | ⟨frame, outer⟩
  · exact h
  · obtain ⟨hframe, houter⟩ := List.forall_mem_cons.1 hframes
    cases frame with
    | list items => exact ⟨h.cons hframe, houter⟩
    | object fields field => exact ⟨h.insert hframe, houter⟩

/-- Each lexeme keeps what is read ordered. -/
theorem State.IsOrdered.read? {limit : Nat} {state next : State} {lexeme : Lexeme}
    (h : state.IsOrdered) (hflat : lexeme.IsFlat) (hnext : state.read? limit lexeme = some next) :
    next.IsOrdered := by
  unfold State.read? at hnext
  -- The cases are those of reading a lexeme, in their order; the last one is the refusal.
  split at hnext
  · cases hnext
    exact isOrdered_deliver (.scalar rfl) h
  · cases hnext
    exact isOrdered_deliver (.scalar hflat) h
  · split_ifs at hnext
    cases hnext
    exact List.forall_mem_cons.2 ⟨ordered_nil, h⟩
  · split_ifs at hnext
    cases hnext
    exact ⟨ordered_empty, h⟩
  · cases hnext
    exact isOrdered_deliver ordered_nil (List.forall_mem_cons.1 h).2
  · cases hnext
    exact h
  · cases hnext
    exact isOrdered_deliver ordered_empty h.2
  · cases hnext
    exact List.forall_mem_cons.2 h
  · cases hnext
    exact List.forall_mem_cons.2 h
  · cases hnext
    exact isOrdered_deliver h.1.reverse h.2
  · cases hnext
    exact h
  · cases hnext
    exact isOrdered_deliver h.1 h.2
  · cases hnext

theorem State.IsOrdered.foldlM {limit : Nat} {read : List Lexeme} {state last : State}
    (h : state.IsOrdered) (hflat : ∀ lexeme ∈ read, lexeme.IsFlat)
    (hlast : read.foldlM (State.read? limit) state = some last) : last.IsOrdered := by
  induction read generalizing state with
  | nil =>
    cases hlast
    exact h
  | cons lexeme read ih =>
    obtain ⟨hfirst, hrest⟩ := List.forall_mem_cons.1 hflat
    rw [List.foldlM_cons] at hlast
    obtain ⟨next, hnext, hlast⟩ := Option.bind_eq_some_iff.1 hlast
    exact ih (h.read? hfirst hnext) hrest hlast

/-- The fields of a document that is read ascend. -/
theorem ordered_of_parse? {t : Text} {document : Json} (h : parse? t = some document) :
    Ordered document := by
  unfold parse? parseWithin? at h
  obtain ⟨read, hread, h⟩ := Option.bind_eq_some_iff.1 h
  obtain ⟨last, hlast, h⟩ := Option.bind_eq_some_iff.1 h
  have hstart : (State.value [] false).IsOrdered := fun _ hm => absurd hm List.not_mem_nil
  have hord : last.IsOrdered := hstart.foldlM (isFlat_of_lexemes? hread) hlast
  split at h
  · cases h
    exact hord
  · cases h

end Json

/-! ## Reading YAML -/

namespace Yaml

theorem isContainer_of_bool? {t : Text} {document : Json} (h : bool? t = some document) :
    document.isContainer = false := by
  unfold bool? at h
  split_ifs at h <;> cases h <;> rfl

theorem isContainer_of_float? {t : Text} {document : Json} (h : float? t = some document) :
    document.isContainer = false := by
  unfold float? at h
  split at h
  · cases h
    rfl
  · obtain ⟨number, -, rfl⟩ := Option.map_eq_some_iff.1 h
    rfl

theorem isContainer_of_word? {t : Text} {document : Json} (h : word? t = some (some document)) :
    document.isContainer = false := by
  unfold word? at h
  split at h
  · cases h
  · split_ifs at h <;> cases h
    rfl

theorem isContainer_of_resolvePlain {t : Text} {document : Json}
    (h : resolvePlain t = some document) : document.isContainer = false := by
  unfold resolvePlain at h
  split at h
  · cases h
    rfl
  · split at h
    · rename_i hbool
      cases h
      exact isContainer_of_bool? hbool
    · split at h
      · rename_i hword
        cases h
        exact isContainer_of_word? hword
      · split at h
        · cases h
          rfl
        · split at h
          · rename_i hfloat
            cases h
            exact isContainer_of_float? hfloat
          · cases h
            rfl

theorem isContainer_of_resolveScalar {content : Text} {isPlain : Bool} {tag : Option Tag}
    {document : Json} (h : resolveScalar content isPlain tag = some document) :
    document.isContainer = false := by
  unfold resolveScalar at h
  split at h
  · split_ifs at h
    · exact isContainer_of_resolvePlain h
    · cases h
      rfl
  · split_ifs at h
    · cases h
      rfl
    · exact isContainer_of_resolvePlain h
  · cases h
  · cases h
    rfl
  · split_ifs at h
    · exact isContainer_of_bool? h
    · cases hword : word? content with
      | none =>
        rw [hword] at h
        cases h
      | some resolved =>
        rw [hword] at h
        cases h
        exact isContainer_of_word? hword
    · exact isContainer_of_float? h
    · cases h
      rfl
    · cases h
      rfl

mutual

theorem ordered_of_toJson? : ∀ {node : Node} {document : Json},
    node.toJson? = some document → document.Ordered
  | .scalar content isPlain tag, document, h => by
    rw [Node.toJson?] at h
    exact .scalar (isContainer_of_resolveScalar h)
  | .list items tag, document, h => by
    rw [Node.toJson?] at h
    split_ifs at h
    obtain ⟨documents, hdocuments, rfl⟩ := Option.map_eq_some_iff.1 h
    exact .list (ordered_of_itemsToJson? hdocuments)
  | .mapping entries tag, document, h => by
    rw [Node.toJson?] at h
    split_ifs at h
    obtain ⟨fields, hfields, rfl⟩ := Option.map_eq_some_iff.1 h
    exact Json.ordered_ofFields (ordered_of_entriesToJson? hfields)
  | .alias target, document, h => by
    rw [Node.toJson?] at h
    exact ordered_of_toJson? h

theorem ordered_of_itemsToJson? : ∀ {items : List Node} {documents : List Json},
    itemsToJson? items = some documents → ∀ document ∈ documents, document.Ordered
  | [], documents, h => by
    cases h
    nofun
  | item :: items, documents, h => by
    rw [itemsToJson?] at h
    obtain ⟨first, hfirst, h⟩ := Option.bind_eq_some_iff.1 h
    obtain ⟨rest, hrest, h⟩ := Option.bind_eq_some_iff.1 h
    cases h
    exact List.forall_mem_cons.2 ⟨ordered_of_toJson? hfirst, ordered_of_itemsToJson? hrest⟩

theorem ordered_of_entriesToJson? : ∀ {entries : List (Node × Node)} {fields : List (Text × Json)},
    entriesToJson? entries = some fields → ∀ field ∈ fields, field.2.Ordered
  | [], fields, h => by
    cases h
    nofun
  | (key, value) :: entries, fields, h => by
    rw [entriesToJson?] at h
    obtain ⟨name, -, h⟩ := Option.bind_eq_some_iff.1 h
    obtain ⟨first, hfirst, h⟩ := Option.bind_eq_some_iff.1 h
    obtain ⟨rest, hrest, h⟩ := Option.bind_eq_some_iff.1 h
    cases h
    exact List.forall_mem_cons.2 ⟨ordered_of_toJson? hfirst, ordered_of_entriesToJson? hrest⟩

end

/-- The fields of a document that is read ascend. -/
theorem ordered_of_parse? {t : Text} {document : Json} (h : parse? t = some document) :
    document.Ordered := by
  unfold parse? at h
  obtain ⟨tokens, -, h⟩ := Option.bind_eq_some_iff.1 h
  obtain ⟨node, -, h⟩ := Option.bind_eq_some_iff.1 h
  exact ordered_of_toJson? h

end Yaml

/-! ## Reading a file -/

namespace Command

/-- Whether the fields of every document that is read ascend. -/
structure Readers.KeepOrder (readers : Readers) : Prop where
  json : ∀ content document, readers.json content = some document → document.Ordered
  yaml : ∀ content document, readers.yaml content = some document → document.Ordered

theorem ownReaders_keepOrder : ownReaders.KeepOrder :=
  ⟨fun _ _ => Json.ordered_of_parse?, fun _ _ => Yaml.ordered_of_parse?⟩

section KeepOrder

variable {readers : Readers} (hkeep : readers.KeepOrder) {surroundings : Surroundings}
  {path : Text}

include hkeep

theorem HoldsDocument.ordered {document : Json}
    (h : HoldsDocument readers surroundings path document) : document.Ordered := by
  obtain ⟨content, -, hparse⟩ := h
  unfold Readers.parse? at hparse
  split_ifs at hparse
  · exact hkeep.json content document hparse
  · exact hkeep.yaml content document hparse

variable {fields : List (Text × Json)}
  (h : HoldsDocument readers surroundings path (.object fields))

include h

/-- A file that holds a mapping without a field of the empty name binds each name to the text of
the last part that has it. -/
theorem readVariables_get?_iff_isLast (hempty : ∀ value, ([], value) ∈ fields → value = .null) :
    ∃ values, readVariables readers surroundings path = .ok values ∧
      ∀ name content, values.get? name = some content ↔ ∃ way part,
        (Json.object fields).IsLast name way part ∧ part.content = content := by
  refine ⟨_, readVariables_eq_ok_iff.2 ⟨fields, h, rfl⟩, Json.get?_flatten_iff_isLast ?_
    (h.ordered hkeep) rfl⟩
  rintro value (_ | ⟨hm, ⟨⟩⟩ | _)
  exact hempty value hm

/-- A file that holds a mapping with plain names binds each name to the text of the part that it
leads to. -/
theorem readVariables_get?_iff_atPath? (hcount : (Json.object fields).Countable)
    (hnamed : (Json.object fields).PlainlyNamed) :
    ∃ values, readVariables readers surroundings path = .ok values ∧
      ∀ name content, (∀ part ∈ Text.splitAt '.' name, ¬ part.StartsOddly) →
        (values.get? name = some content ↔ ∃ part, (Json.object fields).atPath? name = some part ∧
          part ≠ .null ∧ part.content = content) :=
  ⟨_, readVariables_eq_ok_iff.2 ⟨fields, h, rfl⟩, fun _ _ hname =>
    Json.get?_flatten_iff_atPath? (h.ordered hkeep) hcount hnamed hname rfl⟩

end KeepOrder
end Command
end StyledMarkup
