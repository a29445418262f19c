import Mathlib.Data.List.Lex
import StyledMarkup.Json.Path

/-!
# The paths of a document

A path goes from a document to one of its parts, by the name of a field or the index of an item at
each step. Walking through a document lists all of its paths with their parts (`mem_walk`), in the
order of the visit (`pairwise_walk`): a container before what it holds, fields by their names and
items by their indices.
-/

namespace StyledMarkup
namespace Json

/-- A step from a container to what it holds. -/
inductive Step where
  | field (name : Text)
  | item (index : Nat)
deriving DecidableEq

namespace Step

/-- The step in a name. -/
def text : Step → Text
  | field name => name
  | item index => Text.ofNat index

/-- Whether the first step is visited before the second one. -/
def Before : Step → Step → Prop
  | field a, field b => a.comesBefore b = true
  | item i, item j => i < j
  | _, _ => False

end Step

/-- Whether a path leads from a document to one of its parts. -/
inductive Leads : Json → List Step → Json → Prop where
  | here (document : Json) : Leads document [] document
  | field {fields : List (Text × Json)} {name : Text} {value part : Json} {path : List Step} :
      (name, value) ∈ fields → Leads value path part →
        Leads (.object fields) (.field name :: path) part
  | item {items : List Json} {index : Nat} {value part : Json} {path : List Step} :
      items[index]? = some value → Leads value path part →
        Leads (.list items) (.item index :: path) part

/-- Whether the first path is visited before the second one: as its beginning, or by the first
steps that differ. -/
def Before (path other : List Step) : Prop :=
  List.Lex Step.Before path other

/-- Whether the document holds parts. -/
def isContainer : Json → Bool
  | list _ => true
  | object _ => true
  | _ => false

/-- Whether the fields of every object in the document ascend by name. -/
inductive Ordered : Json → Prop where
  | object {fields : List (Text × Json)} : Entries.Ascending fields →
      (∀ field ∈ fields, Ordered field.2) → Ordered (.object fields)
  | list {items : List Json} : (∀ item ∈ items, Ordered item) → Ordered (.list items)
  | scalar {document : Json} : document.isContainer = false → Ordered document

theorem Ordered.fields {fields : List (Text × Json)} (h : Ordered (.object fields)) :
    Entries.Ascending fields ∧ ∀ field ∈ fields, Ordered field.2 := by
  cases h with
  | object hasc hord => exact ⟨hasc, hord⟩
  | scalar h => cases h

theorem Ordered.items {items : List Json} (h : Ordered (.list items)) :
    ∀ item ∈ items, Ordered item := by
  cases h with
  | list hord => exact hord
  | scalar h => cases h

/-! ## The walk -/

/-- A path with its part, seen from the container one step above. -/
def under (step : Step) (found : List Step × Json) : List Step × Json :=
  (step :: found.1, found.2)

mutual

/-- The paths of a document with their parts, in the order of the visit. -/
def walk : Json → List (List Step × Json)
  | object fields => ([], object fields) :: walkFields fields
  | list items => ([], list items) :: walkItems 0 items
  | scalar => [([], scalar)]

/-- The paths through the fields of an object. -/
def walkFields : List (Text × Json) → List (List Step × Json)
  | [] => []
  | (name, value) :: rest => (walk value).map (under (.field name)) ++ walkFields rest

/-- The paths through the items of a list from an index on. -/
def walkItems (index : Nat) : List Json → List (List Step × Json)
  | [] => []
  | item :: rest => (walk item).map (under (.item index)) ++ walkItems (index + 1) rest

end

theorem leads_field {fields : List (Text × Json)} {path : List Step} {part : Json} :
    Leads (.object fields) path part ↔ (path = [] ∧ part = .object fields) ∨
      ∃ name value rest, path = .field name :: rest ∧ (name, value) ∈ fields ∧
        Leads value rest part := by
  constructor
  · rintro (_ | ⟨hm, hl⟩ | _)
    · exact .inl ⟨rfl, rfl⟩
    · exact .inr ⟨_, _, _, rfl, hm, hl⟩
  · rintro (⟨rfl, rfl⟩ | ⟨name, value, rest, rfl, hm, hl⟩)
    · exact .here _
    · exact .field hm hl

theorem leads_item {items : List Json} {path : List Step} {part : Json} :
    Leads (.list items) path part ↔ (path = [] ∧ part = .list items) ∨
      ∃ index value rest, path = .item index :: rest ∧ items[index]? = some value ∧
        Leads value rest part := by
  constructor
  · rintro (_ | _ | ⟨hm, hl⟩)
    · exact .inl ⟨rfl, rfl⟩
    · exact .inr ⟨_, _, _, rfl, hm, hl⟩
  · rintro (⟨rfl, rfl⟩ | ⟨index, value, rest, rfl, hm, hl⟩)
    · exact .here _
    · exact .item hm hl

theorem mem_map_under {step : Step} {found : List (List Step × Json)} {path : List Step}
    {part : Json} : (path, part) ∈ found.map (under step) ↔
      ∃ rest, path = step :: rest ∧ (rest, part) ∈ found := by
  simp only [List.mem_map, under, Prod.mk.injEq, Prod.exists]
  constructor
  · rintro ⟨rest, value, hm, rfl, rfl⟩
    exact ⟨rest, rfl, hm⟩
  · rintro ⟨rest, rfl, hm⟩
    exact ⟨rest, part, hm, rfl, rfl⟩

theorem walk_of_scalar {document : Json} (h : document.isContainer = false) :
    walk document = [([], document)] := by
  cases document with
  | list items => cases h
  | object fields => cases h
  | _ => rfl

theorem mem_walk_of_scalar {document : Json} (h : document.isContainer = false)
    {path : List Step} {part : Json} :
    (path, part) ∈ walk document ↔ Leads document path part := by
  rw [walk_of_scalar h, List.mem_singleton, Prod.mk.injEq]
  constructor
  · rintro ⟨rfl, rfl⟩
    exact .here _
  · rintro (_ | _ | _)
    · exact ⟨rfl, rfl⟩
    · cases h
    · cases h

mutual

/-- The walk lists just the paths that lead somewhere, with their parts. -/
theorem mem_walk {path : List Step} {part : Json} : ∀ document : Json,
    (path, part) ∈ walk document ↔ Leads document path part
  | .object fields => by
    rw [walk, List.mem_cons, mem_walkFields fields, leads_field, Prod.mk.injEq]
  | .list items => by
    rw [walk, List.mem_cons, mem_walkItems 0 items, leads_item, Prod.mk.injEq]
    simp only [Nat.zero_add]
  | .null => mem_walk_of_scalar rfl
  | .bool _ => mem_walk_of_scalar rfl
  | .int _ => mem_walk_of_scalar rfl
  | .float _ => mem_walk_of_scalar rfl
  | .text _ => mem_walk_of_scalar rfl

theorem mem_walkFields {path : List Step} {part : Json} : ∀ fields : List (Text × Json),
    (path, part) ∈ walkFields fields ↔ ∃ name value rest,
      path = .field name :: rest ∧ (name, value) ∈ fields ∧ Leads value rest part
  | [] => by simp [walkFields]
  | (name, value) :: fields => by
    rw [walkFields, List.mem_append, mem_map_under, mem_walkFields fields]
    constructor
    · rintro (⟨rest, rfl, hm⟩ | ⟨next, other, rest, rfl, hm, hl⟩)
      · exact ⟨name, value, rest, rfl, List.mem_cons_self, (mem_walk value).1 hm⟩
      · exact ⟨next, other, rest, rfl, List.mem_cons_of_mem _ hm, hl⟩
    · rintro ⟨next, other, rest, rfl, hm, hl⟩
      rcases List.mem_cons.1 hm with h | hm
      · cases h
        exact .inl ⟨rest, rfl, (mem_walk value).2 hl⟩
      · exact .inr ⟨next, other, rest, rfl, hm, hl⟩

theorem mem_walkItems {path : List Step} {part : Json} : ∀ (start : Nat) (items : List Json),
    (path, part) ∈ walkItems start items ↔ ∃ index value rest,
      path = .item (start + index) :: rest ∧ items[index]? = some value ∧ Leads value rest part
  | _, [] => by simp [walkItems]
  | start, item :: items => by
    rw [walkItems, List.mem_append, mem_map_under, mem_walkItems (start + 1) items]
    have hnext : ∀ index, start + 1 + index = start + (index + 1) := fun index => by omega
    constructor
    · rintro (⟨rest, rfl, hm⟩ | ⟨index, value, rest, rfl, hm, hl⟩)
      · exact ⟨0, item, rest, rfl, rfl, (mem_walk item).1 hm⟩
      · exact ⟨index + 1, value, rest, by rw [hnext], hm, hl⟩
    · rintro ⟨index, value, rest, rfl, hm, hl⟩
      rcases index with _ | index
      · cases hm
        exact .inl ⟨rest, rfl, (mem_walk item).2 hl⟩
      · exact .inr ⟨index, value, rest, by rw [hnext], hm, hl⟩

end

/-! ## The order of the walk -/

instance : Std.Asymm Step.Before where
  asymm a b hab hba := by
    cases a with
    | field a =>
      cases b with
      | field b =>
        have h := Text.comesBefore_trans hab hba
        rw [Text.comesBefore_irrefl] at h
        exact Bool.false_ne_true h
      | item j => exact hab
    | item i =>
      cases b with
      | field b => exact hab
      | item j => exact Nat.lt_asymm hab hba

theorem Before.asymm {path other : List Step} (h : Before path other) : ¬ Before other path :=
  Std.Asymm.asymm (r := List.Lex Step.Before) _ _ h

theorem pairwise_under (step : Step) {found : List (List Step × Json)}
    (h : found.Pairwise fun a b => Before a.1 b.1) :
    (found.map (under step)).Pairwise fun a b => Before a.1 b.1 :=
  List.pairwise_map.2 (h.imp fun hab => List.Lex.cons hab)

mutual

/-- The walk through an ordered document goes along its paths in the order of the visit. -/
theorem pairwise_walk : ∀ {document : Json}, Ordered document →
    (walk document).Pairwise fun a b => Before a.1 b.1
  | .object fields, h => by
    obtain ⟨hasc, hord⟩ := h.fields
    rw [walk, List.pairwise_cons]
    refine ⟨fun found hm => ?_, pairwise_walkFields hasc hord⟩
    obtain ⟨name, value, rest, hpath, -⟩ := (mem_walkFields fields).1 hm
    rw [hpath]
    exact List.Lex.nil
  | .list items, h => by
    rw [walk, List.pairwise_cons]
    refine ⟨fun found hm => ?_, pairwise_walkItems 0 h.items⟩
    obtain ⟨index, value, rest, hpath, -⟩ := (mem_walkItems 0 items).1 hm
    rw [hpath]
    exact List.Lex.nil
  | .null, _ => List.pairwise_singleton _ _
  | .bool _, _ => List.pairwise_singleton _ _
  | .int _, _ => List.pairwise_singleton _ _
  | .float _, _ => List.pairwise_singleton _ _
  | .text _, _ => List.pairwise_singleton _ _

theorem pairwise_walkFields : ∀ {fields : List (Text × Json)}, Entries.Ascending fields →
    (∀ field ∈ fields, Ordered field.2) →
      (walkFields fields).Pairwise fun a b => Before a.1 b.1
  | [], _, _ => .nil
  | (name, value) :: fields, hasc, hord => by
    obtain ⟨hfirst, hrest⟩ := List.pairwise_cons.1 hasc
    rw [walkFields, List.pairwise_append]
    refine ⟨pairwise_under _ (pairwise_walk (hord (name, value) List.mem_cons_self)),
      pairwise_walkFields hrest fun f hf => hord f (List.mem_cons_of_mem _ hf), ?_⟩
    intro a ha b hb
    obtain ⟨rest, hpath, -⟩ := mem_map_under.1 ha
    obtain ⟨next, other, more, hnext, hm, -⟩ := (mem_walkFields fields).1 hb
    rw [hpath, hnext]
    exact List.Lex.rel (hfirst (next, other) hm)

theorem pairwise_walkItems : ∀ (start : Nat) {items : List Json}, (∀ item ∈ items, Ordered item) →
    (walkItems start items).Pairwise fun a b => Before a.1 b.1
  | _, [], _ => .nil
  | start, item :: items, hord => by
    rw [walkItems, List.pairwise_append]
    refine ⟨pairwise_under _ (pairwise_walk (hord item List.mem_cons_self)),
      pairwise_walkItems (start + 1) fun i hi => hord i (List.mem_cons_of_mem _ hi), ?_⟩
    intro a ha b hb
    obtain ⟨rest, hpath, -⟩ := mem_map_under.1 ha
    obtain ⟨index, other, more, hnext, -⟩ := (mem_walkItems (start + 1) items).1 hb
    have hlt : start < start + 1 + index := by omega
    rw [hpath, hnext]
    exact List.Lex.rel hlt

end

end Json
end StyledMarkup
