import StyledMarkup.Text.Basic

/-!
# Tables by name

A table binds names to values, each name at most once, and lists its entries in the ascending order
of the names. Main statements: the last value bound to a name is the one found (`get?_insert`), and
what a merge finds is what the second table has, else what the first has (`get?_merge`).
-/

namespace StyledMarkup

variable {α : Type}

namespace Text

/-- Whether a text comes before another one: by the first characters that differ, or as its
beginning. -/
def comesBefore : Text → Text → Bool
  | _, [] => false
  | [], _ :: _ => true
  | a :: s, b :: t => decide (a.toNat < b.toNat) || (a == b && comesBefore s t)

theorem comesBefore_irrefl : ∀ s : Text, comesBefore s s = false
  | [] => rfl
  | a :: s => by simp [comesBefore, comesBefore_irrefl s]

theorem comesBefore_trans : ∀ {s t u : Text}, comesBefore s t = true → comesBefore t u = true →
    comesBefore s u = true
  | s, t, [], _, h => by simp [comesBefore] at h
  | s, [], _ :: _, h, _ => by simp [comesBefore] at h
  | [], _ :: _, _ :: _, _, _ => rfl
  | a :: s, b :: t, c :: u, h, h' => by
    simp only [comesBefore, Bool.or_eq_true, decide_eq_true_eq, Bool.and_eq_true, beq_iff_eq] at *
    rcases h with h | ⟨rfl, h⟩
    · rcases h' with h' | ⟨rfl, -⟩
      · exact .inl (Nat.lt_trans h h')
      · exact .inl h
    · rcases h' with h' | ⟨rfl, h'⟩
      · exact .inl h'
      · exact .inr ⟨rfl, comesBefore_trans h h'⟩

theorem comesBefore_of_not : ∀ {s t : Text}, comesBefore s t = false → s ≠ t →
    comesBefore t s = true
  | [], [], _, h => absurd rfl h
  | [], _ :: _, h, _ => by simp [comesBefore] at h
  | _ :: _, [], _, _ => rfl
  | a :: s, b :: t, h, hne => by
    simp only [comesBefore, Bool.or_eq_false_iff, decide_eq_false_iff_not, Bool.and_eq_false_iff,
      beq_eq_false_iff_ne, Bool.or_eq_true, decide_eq_true_eq, Bool.and_eq_true, beq_iff_eq] at *
    by_cases hab : a = b
    · subst hab
      refine .inr ⟨rfl, comesBefore_of_not (h.2.resolve_left fun hn => hn rfl) fun hs => ?_⟩
      exact hne (by rw [hs])
    · refine .inl (Nat.lt_of_le_of_ne (Nat.le_of_not_lt h.1) fun heq => hab ?_)
      exact (Char.toNat_inj.1 heq).symm

end Text

namespace Entries

/-- Binds a name among ascending entries, in place of what it was bound to. -/
def insert (name : Text) (value : α) : List (Text × α) → List (Text × α)
  | [] => [(name, value)]
  | entry :: rest =>
    if name.comesBefore entry.1 then (name, value) :: entry :: rest
    else if name = entry.1 then (name, value) :: rest
    else entry :: insert name value rest

/-- Whether the entries ascend, so that no name stands twice. -/
def Ascending (entries : List (Text × α)) : Prop :=
  entries.Pairwise fun a b => a.1.comesBefore b.1 = true

theorem mem_insert {name : Text} {value : α} {entry : Text × α} :
    ∀ {entries : List (Text × α)}, entry ∈ insert name value entries →
      entry = (name, value) ∨ entry ∈ entries
  | [], h => by simpa [insert] using h
  | first :: rest, h => by
    unfold insert at h
    split at h
    · simpa using h
    · split at h
      · simp only [List.mem_cons] at h ⊢
        exact h.imp id Or.inr
      · simp only [List.mem_cons] at h ⊢
        rcases h with h | h
        · exact .inr (.inl h)
        · exact (mem_insert h).imp id .inr

theorem Ascending.insert {name : Text} {value : α} :
    ∀ {entries : List (Text × α)}, Ascending entries → Ascending (insert name value entries)
  | [], _ => by simp [Ascending, Entries.insert]
  | first :: rest, h => by
    obtain ⟨hfirst, hrest⟩ := List.pairwise_cons.1 h
    unfold Entries.insert
    split
    · rename_i hlt
      refine List.pairwise_cons.2 ⟨fun entry he => ?_, h⟩
      rcases List.mem_cons.1 he with rfl | he
      · exact hlt
      · exact Text.comesBefore_trans hlt (hfirst entry he)
    · rename_i hlt
      split
      · rename_i heq
        subst heq
        exact List.pairwise_cons.2 ⟨hfirst, hrest⟩
      · rename_i hne
        refine List.pairwise_cons.2 ⟨fun entry he => ?_, Ascending.insert hrest⟩
        rcases mem_insert he with rfl | he
        · exact Text.comesBefore_of_not (Bool.eq_false_iff.2 hlt) hne
        · exact hfirst entry he

/-- The value that is bound to a name. -/
def find? (sought : Text) : List (Text × α) → Option α
  | [] => none
  | entry :: rest => if sought = entry.1 then some entry.2 else find? sought rest

theorem find?_cons (sought : Text) (entry : Text × α) (rest : List (Text × α)) :
    find? sought (entry :: rest) = if sought = entry.1 then some entry.2 else find? sought rest :=
  rfl

theorem find?_insert (name : Text) (value : α) (sought : Text) :
    ∀ {entries : List (Text × α)}, Ascending entries →
      find? sought (insert name value entries) =
        if sought = name then some value else find? sought entries
  | [], _ => rfl
  | first :: rest, h => by
    obtain ⟨hfirst, hrest⟩ := List.pairwise_cons.1 h
    unfold insert
    split
    · rfl
    · split
      · rename_i heq
        subst heq
        rw [find?_cons, find?_cons]
        split <;> rfl
      · rename_i hne
        rw [find?_cons, find?_cons, find?_insert name value sought hrest]
        by_cases hf : sought = first.1
        · have hn : sought ≠ name := fun hs => hne (hs ▸ hf)
          rw [if_pos hf, if_neg hn, if_pos hf]
        · rw [if_neg hf, if_neg hf]

theorem Ascending.nodup {entries : List (Text × α)} (h : Ascending entries) :
    (entries.map Prod.fst).Nodup := by
  refine List.pairwise_map.2 (h.imp fun hlt heq => ?_)
  rw [heq, Text.comesBefore_irrefl] at hlt
  exact Bool.false_ne_true hlt

end Entries

/-- Names bound to values. -/
structure Table (α : Type) where
  /-- The names with their values, in the ascending order of the names. -/
  entries : List (Text × α)
  ascending : Entries.Ascending entries

namespace Table

/-- The table without entries. -/
def empty : Table α := ⟨[], .nil⟩

/-- Binds a name to a value, in place of what it was bound to. -/
def insert (table : Table α) (name : Text) (value : α) : Table α :=
  ⟨Entries.insert name value table.entries, table.ascending.insert⟩

/-- The value that is bound to a name. -/
def get? (table : Table α) (name : Text) : Option α :=
  Entries.find? name table.entries

/-- Whether a name is bound. -/
def contains (table : Table α) (name : Text) : Bool :=
  (table.get? name).isSome

/-- The bound names, ascending. -/
def names (table : Table α) : List Text :=
  table.entries.map Prod.fst

/-- The number of bound names. -/
def size (table : Table α) : Nat :=
  table.entries.length

/-- The table with all entries bound in order, later ones in place of earlier ones. -/
def insertAll (table : Table α) (entries : List (Text × α)) : Table α :=
  entries.foldl (fun t entry => t.insert entry.1 entry.2) table

/-- The table with every entry of another one bound over its own. -/
def merge (table other : Table α) : Table α :=
  table.insertAll other.entries

/-- The table of the entries, later ones in place of earlier ones. -/
def ofList (entries : List (Text × α)) : Table α :=
  empty.insertAll entries

@[simp] theorem insertAll_cons (table : Table α) (entry : Text × α) (rest : List (Text × α)) :
    table.insertAll (entry :: rest) = (table.insert entry.1 entry.2).insertAll rest := rfl

@[simp] theorem get?_empty (name : Text) : (empty : Table α).get? name = none := rfl

theorem get?_insert (table : Table α) (name : Text) (value : α) (sought : Text) :
    (table.insert name value).get? sought =
      if sought = name then some value else table.get? sought :=
  Entries.find?_insert name value sought table.ascending

theorem get?_insertAll_of_notMem {sought : Text} :
    ∀ (entries : List (Text × α)) (table : Table α), (∀ entry ∈ entries, entry.1 ≠ sought) →
      (table.insertAll entries).get? sought = table.get? sought
  | [], _, _ => rfl
  | first :: rest, table, h => by
    have hr := get?_insertAll_of_notMem rest (table.insert first.1 first.2)
      fun entry he => h entry (List.mem_cons_of_mem _ he)
    have hne : sought ≠ first.1 := fun hs => h first List.mem_cons_self hs.symm
    rw [get?_insert, if_neg hne] at hr
    exact hr

theorem get?_insertAll_of_nodup (sought : Text) :
    ∀ (entries : List (Text × α)) (table : Table α), (entries.map Prod.fst).Nodup →
      (table.insertAll entries).get? sought = (Entries.find? sought entries).or (table.get? sought)
  | [], _, _ => rfl
  | first :: rest, table, h => by
    obtain ⟨hfirst, hrest⟩ := List.nodup_cons.1 h
    have hr := get?_insertAll_of_nodup sought rest (table.insert first.1 first.2) hrest
    rw [get?_insert] at hr
    by_cases hs : sought = first.1
    · have hmem : ∀ entry ∈ rest, entry.1 ≠ sought := fun entry he heq =>
        hfirst (by rw [← hs, ← heq]; exact List.mem_map_of_mem he)
      have hn := get?_insertAll_of_notMem rest (table.insert first.1 first.2) hmem
      rw [get?_insert, if_pos hs] at hn
      rw [insertAll_cons, hn, Entries.find?_cons, if_pos hs]
      rfl
    · rw [if_neg hs] at hr
      rw [insertAll_cons, hr, Entries.find?_cons, if_neg hs]

theorem get?_merge (table other : Table α) (name : Text) :
    (table.merge other).get? name = (other.get? name).or (table.get? name) :=
  get?_insertAll_of_nodup name other.entries table other.ascending.nodup

end Table
end StyledMarkup
