import StyledMarkup.Proofs.Markup.OnePass

/-!
# Units in a row

The cut tiles a source: its pieces are not empty (`length_pos_of_mem_cut`) and have as many
characters as the source (`total_cut`). Within each piece of markup the units stand in a row
(`areRows_cut`): the first starts where the piece starts, each starts where the one before it
stops, none reaches past the end of the piece, and the last stops there.
-/

namespace StyledMarkup

open Mark

/-! ## The cut tiles the source -/

namespace Piece

/-- The number of characters of the pieces together. -/
def total : List Piece → Nat
  | [] => 0
  | piece :: pieces => piece.length + total pieces

@[simp] theorem total_nil : total [] = 0 := rfl

@[simp] theorem total_cons (piece : Piece) (pieces : List Piece) :
    total (piece :: pieces) = piece.length + total pieces := rfl

theorem total_extend (passed : Nat) (pieces : List Piece) :
    total (extend passed pieces) = passed + total pieces := by
  match pieces, passed with
  | markup n :: rest, passed => simp [extend, length, Nat.add_assoc]
  | [], 0 => rfl
  | [], k + 1 => rfl
  | link n :: rest, 0 => simp [extend, markup?]
  | link n :: rest, k + 1 => simp [extend, markup?, length]

theorem length_pos_of_mem_extend {passed : Nat} {pieces : List Piece}
    (h : ∀ piece ∈ pieces, 0 < piece.length) :
    ∀ piece ∈ extend passed pieces, 0 < piece.length := by
  have hcons : ∀ n, ∀ piece ∈ markup? n ++ pieces, 0 < piece.length := by
    intro n piece hp
    rcases List.mem_append.1 hp with hp | hp
    · rcases n with _ | k
      · cases hp
      · rw [List.mem_singleton.1 hp]
        exact Nat.succ_pos k
    · exact h piece hp
  match pieces with
  | markup n :: rest =>
    intro piece hp
    rcases List.mem_cons.1 hp with rfl | hp
    · exact Nat.add_pos_right _ (h _ List.mem_cons_self)
    · exact h piece (List.mem_cons_of_mem _ hp)
  | [] => exact hcons passed
  | link n :: rest => exact hcons passed

theorem length_pos_of_mem_cut (marks : List Mark) : ∀ piece ∈ cut marks, 0 < piece.length := by
  induction marks using onePass.induct with
  | case1 => simp [cut_nil]
  | case2 m rest h tail ih =>
    rw [cut_link h]
    intro piece hp
    rcases List.mem_cons.1 hp with rfl | hp
    · exact Nat.succ_pos _
    · exact ih piece hp
  | case3 m rest h ih =>
    rw [cut_unit (Bool.eq_false_iff.2 h)]
    exact length_pos_of_mem_extend ih

theorem total_cut {marks : List Mark} (hc : Closed marks) : total (cut marks) = marks.length := by
  induction marks using onePass.induct with
  | case1 => simp [cut_nil]
  | case2 m rest h tail ih =>
    have hle : (rest.takeWhile fun r => !Text.isBlank r.char).length ≤ rest.length :=
      (List.takeWhile_prefix _).length_le
    rw [cut_link h, total_cons, ih (hc.2.drop _), List.length_drop, List.length_cons, length]
    omega
  | case3 m rest h ih =>
    have hle := Scan.unit_extra_le hc
    rw [cut_unit (Bool.eq_false_iff.2 h), total_extend, ih (hc.2.drop _), List.length_drop,
      List.length_cons]
    omega

end Piece

/-! ## Rows -/

/-- A unit that has been scanned: the place where it starts and the place after it. -/
structure Visit where
  start : Nat
  stop : Nat
deriving DecidableEq, Inhabited

/-- Whether the visit scans the unit that stands at its start. -/
def Visit.IsScan (marks : List Mark) (visit : Visit) : Prop :=
  ∃ m rest, marks.drop visit.start = m :: rest ∧
    visit.stop = visit.start + 1 + (Scan.unit m rest).extra

theorem Visit.IsScan.start_lt_stop {marks : List Mark} {visit : Visit} (h : visit.IsScan marks) :
    visit.start < visit.stop := by
  obtain ⟨m, rest, -, hs⟩ := h
  omega

/-- Whether the visits stand in a row from `start` to `stop`. -/
def IsRow (marks : List Mark) (start stop : Nat) : List Visit → Prop
  | [] => start = stop
  | visit :: visits => visit.IsScan marks ∧ visit.start = start ∧ visit.start < visit.stop ∧
      visit.stop ≤ stop ∧ IsRow marks visit.stop stop visits

/-- Whether there is one row of visits for each piece of markup, from its start to its end, when
the pieces start at `start`. -/
def AreRows (marks : List Mark) : Nat → List Piece → List (List Visit) → Prop
  | _, [], rows => rows = []
  | start, .link n :: pieces, rows => AreRows marks (start + n) pieces rows
  | _, .markup _ :: _, [] => False
  | start, .markup n :: pieces, row :: rows =>
    IsRow marks start (start + n) row ∧ AreRows marks (start + n) pieces rows

/-- A unit before pieces with rows is the first of its row. -/
theorem areRows_extend {marks rest : List Mark} {m : Mark} {start : Nat} {pieces : List Piece}
    {rows : List (List Visit)} (hm : marks.drop start = m :: rest)
    (h : AreRows marks (start + 1 + (Scan.unit m rest).extra) pieces rows) :
    ∃ rows', AreRows marks start (Piece.extend ((Scan.unit m rest).extra + 1) pieces) rows' := by
  set stop := start + 1 + (Scan.unit m rest).extra with hstop
  have hscan : Visit.IsScan marks ⟨start, stop⟩ := ⟨m, rest, hm, hstop⟩
  have hlt := hscan.start_lt_stop
  have hplace : start + ((Scan.unit m rest).extra + 1) = stop := by omega
  have hsingle : IsRow marks start stop [⟨start, stop⟩] := ⟨hscan, rfl, hlt, le_rfl, rfl⟩
  match pieces, rows with
  | [], rows =>
    refine ⟨[⟨start, stop⟩] :: rows, ?_, h⟩
    rw [hplace]
    exact hsingle
  | .link n :: pieces, rows =>
    refine ⟨[⟨start, stop⟩] :: rows, ?_, ?_⟩
    · rw [hplace]
      exact hsingle
    · rw [hplace]
      exact h
  | .markup n :: pieces, row :: rows =>
    obtain ⟨hrow, hrows⟩ := h
    have hend : start + ((Scan.unit m rest).extra + 1 + n) = stop + n := by omega
    refine ⟨(⟨start, stop⟩ :: row) :: rows, ?_, ?_⟩
    · rw [hend]
      exact ⟨hscan, rfl, hlt, Nat.le_add_right _ _, hrow⟩
    · rw [hend]
      exact hrows

theorem areRows_cut (marks : List Mark) (start : Nat) :
    ∃ rows, AreRows marks start (Piece.cut (marks.drop start)) rows := by
  generalize hs : marks.drop start = suffix
  induction suffix using onePass.induct generalizing start with
  | case1 =>
    rw [Piece.cut_nil]
    exact ⟨[], rfl⟩
  | case2 m rest h tail ih =>
    rw [Piece.cut_link h]
    have hnext : marks.drop (start + (tail + 1)) = rest.drop tail := by
      rw [← List.drop_drop, hs, List.drop_succ_cons]
    exact ih _ hnext
  | case3 m rest h ih =>
    rw [Piece.cut_unit (Bool.eq_false_iff.2 h)]
    have hnext : marks.drop (start + 1 + (Scan.unit m rest).extra) =
        rest.drop (Scan.unit m rest).extra := by
      rw [← List.drop_drop, ← List.drop_drop, hs, List.drop_succ_cons, List.drop_zero]
    obtain ⟨rows, hrows⟩ := ih _ hnext
    exact areRows_extend hs hrows

end StyledMarkup
