import Mathlib.Data.List.Dedup
import Mathlib.Data.List.Induction
import StyledMarkup.Table

/-!
# The last binding of a name

A table made of entries in a row binds each name to what was bound to it last
(`get?_ofList_eq_some_iff`), and its size is the number of the names (`size_ofList`).

A table is known by what it finds (`ext_get?`), since its entries ascend. So a table with entries
bound over it is told by the last entries and by what it had before (`eq_insertAll_iff`), binding
the entries of one list after those of another is merging their tables (`merge_ofList`), and merging
is associative with the empty table on either side, like taking the first of two answers.
-/

namespace StyledMarkup

variable {α : Type}

namespace Entries

theorem mem_of_find? {sought : Text} {value : α} {entries : List (Text × α)}
    (h : find? sought entries = some value) : (sought, value) ∈ entries := by
  induction entries with
  | nil => cases h
  | cons entry entries ih =>
    rw [find?_cons] at h
    split at h
    · rename_i hs
      cases h
      rw [hs]
      exact List.mem_cons_self
    · exact List.mem_cons_of_mem _ (ih h)

theorem isSome_find? (sought : Text) (entries : List (Text × α)) :
    (find? sought entries).isSome = true ↔ sought ∈ entries.map Prod.fst := by
  induction entries with
  | nil => simp [find?]
  | cons entry entries ih =>
    rw [find?_cons, List.map_cons, List.mem_cons, ← ih]
    by_cases h : sought = entry.1
    · simp [h]
    · simp [h]

theorem find?_eq_none {sought : Text} {entries : List (Text × α)}
    (h : sought ∉ entries.map Prod.fst) : find? sought entries = none := by
  induction entries with
  | nil => rfl
  | cons entry entries ih =>
    rw [List.map_cons, List.mem_cons, not_or] at h
    rw [find?_cons, if_neg h.1, ih h.2]

theorem find?_eq_none_of_before {name : Text} {entries : List (Text × α)}
    (h : ∀ entry ∈ entries, name.comesBefore entry.1 = true) : find? name entries = none := by
  refine find?_eq_none fun hm => ?_
  obtain ⟨entry, hentry, rfl⟩ := List.mem_map.1 hm
  have hbefore := h entry hentry
  rw [Text.comesBefore_irrefl] at hbefore
  exact Bool.false_ne_true hbefore

/-- The least name of some entries is found nowhere among entries that are greater. -/
theorem Ascending.find?_head {first entry : Text × α} {entries : List (Text × α)}
    (h : Ascending (entry :: entries)) (hbefore : first.1.comesBefore entry.1 = true) :
    find? first.1 (entry :: entries) = none := by
  refine find?_eq_none_of_before fun other ho => ?_
  rcases List.mem_cons.1 ho with rfl | ho
  · exact hbefore
  · exact Text.comesBefore_trans hbefore ((List.pairwise_cons.1 h).1 other ho)

/-- Ascending entries are known by what is found among them. -/
theorem Ascending.ext : ∀ {entries others : List (Text × α)}, Ascending entries →
    Ascending others → (∀ name, find? name entries = find? name others) → entries = others
  | [], [], _, _, _ => rfl
  | [], other :: others, _, _, h => by
    have hother := h other.1
    rw [find?_cons, if_pos rfl] at hother
    cases hother
  | entry :: entries, [], _, _, h => by
    have hentry := h entry.1
    rw [find?_cons, if_pos rfl] at hentry
    cases hentry
  | entry :: entries, other :: others, hasc, hother, h => by
    have hfirst := h entry.1
    have hsecond := (h other.1).symm
    rw [find?_cons, if_pos rfl] at hfirst hsecond
    have hname : entry.1 = other.1 := by
      by_contra hne
      cases hlt : entry.1.comesBefore other.1 with
      | true =>
        rw [hother.find?_head hlt] at hfirst
        cases hfirst
      | false =>
        rw [hasc.find?_head (Text.comesBefore_of_not hlt hne)] at hsecond
        cases hsecond
    rw [find?_cons, if_pos hname] at hfirst
    have heq : entry = other := Prod.ext hname (Option.some.inj hfirst)
    subst heq
    obtain ⟨hbefore, hentries⟩ := List.pairwise_cons.1 hasc
    obtain ⟨hbefore', hothers⟩ := List.pairwise_cons.1 hother
    refine congrArg (entry :: ·) (Ascending.ext hentries hothers fun name => ?_)
    by_cases hn : name = entry.1
    · rw [hn, find?_eq_none_of_before hbefore, find?_eq_none_of_before hbefore']
    · have hrest := h name
      rw [find?_cons, find?_cons, if_neg hn, if_neg hn] at hrest
      exact hrest

end Entries

namespace Table

theorem ext_get? {table other : Table α} (h : ∀ name, table.get? name = other.get? name) :
    table = other := by
  cases table with
  | mk entries hasc =>
    cases other with
    | mk others hother =>
      have heq : entries = others := hasc.ext hother h
      subst heq
      rfl

/-! ## Entries in a row -/

/-- Whether the value is what the last entry of the name has. -/
def IsLast (entries : List (Text × α)) (name : Text) (value : α) : Prop :=
  ∃ front behind, entries = front ++ (name, value) :: behind ∧ ∀ entry ∈ behind, entry.1 ≠ name

theorem ofList_concat (entries : List (Text × α)) (entry : Text × α) :
    ofList (entries ++ [entry]) = (ofList entries).insert entry.1 entry.2 :=
  List.foldl_concat _ _ _ _

theorem get?_ofList_eq_some_iff {entries : List (Text × α)} {name : Text} {value : α} :
    (ofList entries).get? name = some value ↔ IsLast entries name value := by
  constructor
  · intro h
    induction entries using List.reverseRecOn with
    | nil => cases h
    | append_singleton entries entry ih =>
      rw [ofList_concat, get?_insert] at h
      split at h
      · rename_i hname
        cases h
        exact ⟨entries, [], by rw [hname], fun _ hm => absurd hm List.not_mem_nil⟩
      · rename_i hname
        obtain ⟨front, behind, rfl, hbehind⟩ := ih h
        refine ⟨front, behind ++ [entry], by rw [List.append_assoc, List.cons_append],
          fun e he => ?_⟩
        rcases List.mem_append.1 he with he | he
        · exact hbehind e he
        · rw [List.mem_singleton.1 he]
          exact Ne.symm hname
  · rintro ⟨front, behind, rfl, h⟩
    have hget := get?_insertAll_of_notMem behind ((ofList front).insert name value) h
    rw [get?_insert, if_pos rfl] at hget
    rw [ofList, insertAll, List.foldl_append]
    exact hget

theorem get?_insertAll (table : Table α) (entries : List (Text × α)) (name : Text) :
    (table.insertAll entries).get? name = ((ofList entries).get? name).or (table.get? name) := by
  induction entries using List.reverseRecOn with
  | nil => rfl
  | append_singleton entries entry ih =>
    rw [ofList_concat, insertAll, List.foldl_concat, get?_insert, get?_insert]
    split
    · rfl
    · exact ih

theorem get?_ofList_append (entries more : List (Text × α)) (name : Text) :
    (ofList (entries ++ more)).get? name =
      ((ofList more).get? name).or ((ofList entries).get? name) := by
  rw [← get?_insertAll, ofList, ofList, insertAll, insertAll, insertAll, List.foldl_append]

theorem isSome_get?_ofList (entries : List (Text × α)) (name : Text) :
    ((ofList entries).get? name).isSome = true ↔ name ∈ entries.map Prod.fst := by
  induction entries using List.reverseRecOn with
  | nil => simp [ofList, insertAll]
  | append_singleton entries entry ih =>
    rw [ofList_concat, get?_insert, List.map_append, List.mem_append, ← ih]
    by_cases h : name = entry.1
    · simp [h]
    · simp [h]

/-- A table has entries over those of another one if it finds what the last entry of each name has,
and what the other one has where there is none. -/
theorem eq_insertAll_iff {table other : Table α} {entries : List (Text × α)} :
    table = other.insertAll entries ↔ ∀ name,
      (∀ value, IsLast entries name value → table.get? name = some value) ∧
        ((∀ value, (name, value) ∉ entries) → table.get? name = other.get? name) := by
  constructor
  · rintro rfl name
    refine ⟨fun value hlast => ?_, fun hnone => ?_⟩
    · rw [get?_insertAll, get?_ofList_eq_some_iff.2 hlast]
      rfl
    · exact get?_insertAll_of_notMem entries other fun entry he heq =>
        hnone entry.2 (by rw [← heq]; exact he)
  · intro h
    refine ext_get? fun name => ?_
    rw [get?_insertAll]
    cases hget : (ofList entries).get? name with
    | some value => exact (h name).1 value (get?_ofList_eq_some_iff.1 hget)
    | none =>
      refine (h name).2 fun value hm => ?_
      have hsome := (isSome_get?_ofList entries name).2 (List.mem_map_of_mem hm)
      rw [hget] at hsome
      cases hsome

/-! ## Merging -/

theorem merge_ofList (entries more : List (Text × α)) :
    (ofList entries).merge (ofList more) = ofList (entries ++ more) := by
  refine ext_get? fun name => ?_
  rw [get?_merge, get?_ofList_append]

@[simp] theorem merge_empty (table : Table α) : table.merge .empty = table := rfl

@[simp] theorem empty_merge (table : Table α) : Table.empty.merge table = table := by
  refine ext_get? fun name => ?_
  rw [get?_merge, get?_empty, Option.or_none]

theorem merge_assoc (first second third : Table α) :
    (first.merge second).merge third = first.merge (second.merge third) := by
  refine ext_get? fun name => ?_
  rw [get?_merge, get?_merge, get?_merge, get?_merge, Option.or_assoc]

/-! ## The number of names -/

theorem mem_names (table : Table α) (name : Text) :
    name ∈ table.names ↔ (table.get? name).isSome = true :=
  (Entries.isSome_find? name table.entries).symm

theorem size_ofList (entries : List (Text × α)) :
    (ofList entries).size = (entries.map Prod.fst).dedup.length := by
  have hnames : ∀ name, name ∈ (ofList entries).names ↔ name ∈ (entries.map Prod.fst).dedup := by
    intro name
    rw [mem_names, isSome_get?_ofList, List.mem_dedup]
  have hperm := (List.perm_ext_iff_of_nodup (ofList entries).ascending.nodup
    (List.nodup_dedup _)).2 hnames
  rw [← hperm.length_eq, List.length_map]
  rfl

end Table
end StyledMarkup
