import StyledMarkup.Lookup.Styled
import StyledMarkup.Lookup.Variables
import StyledMarkup.Proofs.Lookup.LastBinding

/-!
# What tables find

Entries that are bound one after another are found over what was bound before (`Table.get?_foldl`).
So are the texts of a table when all are bound, in the flat tables (`Variables.get?_setAll`) and the
styled ones (`StyledVariables.get?_setAll`), and the standard functions that give text
(`Variables.standard_get?`, `StyledFunctions.standard_get?`).
-/

namespace StyledMarkup

variable {σ α β : Type}

namespace Entries

theorem find?_map (f : Text → α → β) (sought : Text) (entries : List (Text × α)) :
    find? sought (entries.map fun entry => (entry.1, f entry.1 entry.2)) =
      (find? sought entries).map (f sought) := by
  induction entries with
  | nil => rfl
  | cons entry entries ih =>
    rw [List.map_cons, find?_cons, find?_cons, ih]
    split
    · rename_i h
      rw [h]
      rfl
    · rfl

theorem find?_eq_lookup (sought : Text) (entries : List (Text × α)) :
    find? sought entries = entries.lookup sought := by
  induction entries with
  | nil => rfl
  | cons entry entries ih =>
    rw [find?_cons, List.lookup_cons, ih]
    by_cases h : sought = entry.1
    · simp [h]
    · simp [h, beq_eq_false_iff_ne.2 h]

end Entries

theorem Table.get?_insertAll_map (table : Table β) (f : α → β) {entries : List (Text × α)}
    (h : (entries.map Prod.fst).Nodup) (name : Text) :
    (table.insertAll (entries.map fun entry => (entry.1, f entry.2))).get? name =
      ((Entries.find? name entries).map f).or (table.get? name) := by
  rw [get?_insertAll_of_nodup, Entries.find?_map fun _ => f]
  rw [List.map_map]
  exact h

/-- Entries with different names that are bound one after another in what holds a table are found
over what was bound before. -/
theorem Table.get?_foldl {τ : Type} (held : τ → Table β) (bind : τ → Text × α → τ) (f : α → β)
    (h : ∀ holder entry, held (bind holder entry) = (held holder).insert entry.1 (f entry.2))
    (holder : τ) {entries : List (Text × α)} (hnodup : (entries.map Prod.fst).Nodup)
    (name : Text) : (held (entries.foldl bind holder)).get? name =
      ((Entries.find? name entries).map f).or ((held holder).get? name) := by
  have hheld : held (entries.foldl bind holder) =
      (held holder).insertAll (entries.map fun entry => (entry.1, f entry.2)) := by
    rw [insertAll, List.foldl_map]
    exact (List.foldl_hom held fun holder entry => (h holder entry).symm).symm
  rw [hheld, get?_insertAll_map _ f hnodup]

namespace Variables

theorem get?_setAll (vars : Variables σ) (table : Table Text) (name : Text) :
    (vars.setAll table.entries).values.get? name =
      ((table.get? name).map Value.text).or (vars.values.get? name) :=
  Table.get?_foldl values _ .text (fun _ _ => rfl) vars table.ascending.nodup name

theorem functions_setAll (vars : Variables σ) (entries : List (Text × Text)) :
    (vars.setAll entries).functions = vars.functions := by
  induction entries generalizing vars with
  | nil => rfl
  | cons entry entries ih => exact ih (vars.set entry.1 entry.2)

theorem standard_get? (name : Text) : (standard (σ := σ)).functions.get? name =
    (Entries.find? name Standard.textFunctions).map fun f args => pure (f args) := by
  have hnodup : (Standard.textFunctions.map Prod.fst).Nodup := by decide
  have h := Table.get?_insertAll_map (.empty : Table (List Text → Render σ Text))
    (fun f args => pure (f args)) hnodup name
  rw [Table.get?_empty, Option.or_none] at h
  exact h

end Variables

theorem StyledVariables.get?_setAll (vars : StyledVariables σ) (table : Table Text) (name : Text) :
    (vars.setAll table.entries).values.get? name =
      ((table.get? name).map SegmentValue.text).or (vars.values.get? name) :=
  Table.get?_foldl values _ .text (fun _ _ => rfl) vars table.ascending.nodup name

namespace StyledFunctions

/-- A function that gives text, as a change to a segment. -/
def ofTextFunction (f : List Text → Text) : List Text → Segment → Render σ Segment :=
  fun args segment => pure (segment.append (f args))

/-- A function that makes segments, as a change to a segment. -/
def ofSegmentFunction (f : List Text → Segment → Segment) :
    List Text → Segment → Render σ Segment :=
  fun args segment => pure (f args segment)

/-- The standard functions are those that make segments, else those that give text. -/
theorem get?_standard (name : Text) : (standard (σ := σ)).functions.get? name =
    ((Entries.find? name Standard.segmentFunctions).map ofSegmentFunction).or
      ((Entries.find? name Standard.textFunctions).map ofTextFunction) := by
  have htexts : (Standard.textFunctions.map Prod.fst).Nodup := by decide
  have hsegments : (Standard.segmentFunctions.map Prod.fst).Nodup := by decide
  refine (Table.get?_foldl functions _ ofSegmentFunction (fun _ _ => rfl) _ hsegments name).trans
    (congrArg _ ?_)
  refine (Table.get?_foldl functions _ ofTextFunction (fun _ _ => rfl) _ htexts name).trans ?_
  rw [empty, Table.get?_empty, Option.or_none]

/-- Apart from the functions that make segments, the standard functions are those that give
text. -/
theorem standard_get? {name : Text} (h : name ∉ Standard.segmentFunctions.map Prod.fst) :
    (standard (σ := σ)).functions.get? name =
      (Entries.find? name Standard.textFunctions).map ofTextFunction := by
  rw [get?_standard, Entries.find?_eq_none h]
  rfl

end StyledFunctions
end StyledMarkup
