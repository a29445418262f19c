import StyledMarkup.Proofs.Markup.Handout

/-!
# A source is read once

A reader goes over every character of a source once and in order (`reads_once`). The pieces tile
the source, the units of every piece of markup stand in a row from its start to its end, and the
links stand between them; what is found beforehand for an opening brace is in the source. The
calls on the reader scan these units in order and come to an end.
-/

namespace StyledMarkup

open Mark

/-- The pieces with the places where they start, when the first starts at `start`. -/
def Piece.places (start : Nat) : List Piece → List (Nat × Piece)
  | [] => []
  | piece :: pieces => (start, piece) :: places (start + piece.length) pieces

theorem Piece.place_bounds : ∀ {pieces : List Piece} {start place : Nat} {piece : Piece},
    (place, piece) ∈ places start pieces →
      start ≤ place ∧ place + piece.length ≤ start + total pieces
  | first :: pieces, start, place, piece, h => by
    rw [total_cons]
    rcases List.mem_cons.1 h with h | h
    · cases h
      omega
    · have := place_bounds h
      omega

theorem IsRow.bounds {marks : List Mark} {stop : Nat} {visit : Visit} :
    ∀ {start : Nat} {row : List Visit}, IsRow marks start stop row → visit ∈ row →
      start ≤ visit.start ∧ visit.start < visit.stop ∧ visit.stop ≤ stop
  | start, first :: row, ⟨_, hstart, hlt, hle, hrow⟩, h => by
    rcases List.mem_cons.1 h with rfl | h
    · exact ⟨hstart.ge, hlt, hle⟩
    · have := hrow.bounds h
      omega

theorem AreRows.bounds {marks : List Mark} {visit : Visit} :
    ∀ {pieces : List Piece} {start : Nat} {rows : List (List Visit)},
      AreRows marks start pieces rows → visit ∈ rows.flatten →
        start ≤ visit.start ∧ visit.start < visit.stop ∧
          visit.stop ≤ start + Piece.total pieces
  | [], start, rows, hrows, h => by
    obtain rfl : rows = [] := hrows
    cases h
  | .link n :: pieces, start, rows, hrows, h => by
    have := @AreRows.bounds marks visit pieces _ _ hrows h
    simp only [Piece.total_cons, Piece.length]
    omega
  | .markup n :: pieces, start, row :: rows, ⟨hrow, hrows⟩, h => by
    simp only [Piece.total_cons, Piece.length]
    rcases List.mem_append.1 h with h | h
    · have := hrow.bounds h
      omega
    · have := AreRows.bounds hrows h
      omega

theorem AreRows.apart {marks : List Mark} {visit : Visit} {place n : Nat} :
    ∀ {pieces : List Piece} {start : Nat} {rows : List (List Visit)},
      AreRows marks start pieces rows → visit ∈ rows.flatten →
        (place, Piece.link n) ∈ Piece.places start pieces →
          visit.stop ≤ place ∨ place + n ≤ visit.start
  | [], _, _, _, _, hp => nomatch hp
  | .link k :: pieces, start, rows, hrows, h, hp => by
    rcases List.mem_cons.1 hp with hp | hp
    · cases hp
      exact .inr (@AreRows.bounds marks visit pieces _ _ hrows h).1
    · exact @AreRows.apart marks visit place n pieces _ _ hrows h hp
  | .markup k :: pieces, start, row :: rows, ⟨hrow, hrows⟩, h, hp => by
    rcases List.mem_cons.1 hp with hp | hp
    · cases hp
    · rcases List.mem_append.1 h with h | h
      · exact .inl ((hrow.bounds h).2.2.trans (Piece.place_bounds hp).1)
      · exact AreRows.apart hrows h hp

theorem Mark.Closed.getElem?_span : ∀ {marks : List Mark} {place n : Nat} {m : Mark},
    Closed marks → marks[place]? = some m → m.span = some n →
      (chars marks)[place + n + 1]? = some '}'
  | first :: rest, 0, n, m, h, hm, hn => by
    cases hm
    rw [Nat.zero_add]
    exact h.1 n hn
  | first :: rest, place + 1, n, m, h, hm, hn => by
    have hget : (chars rest)[place + n + 1]? = some '}' := Closed.getElem?_span h.2 hm hn
    rw [show place + 1 + n + 1 = place + n + 1 + 1 by omega]
    exact hget

/-- Whether a reader goes over every character of a source once and in order, and comes to its
end. -/
structure ReadsOnce (source : Text) : Prop where
  /-- No piece is empty. -/
  piece_pos : ∀ piece ∈ Piece.cut (Mark.ofText source), 0 < piece.length
  /-- The pieces take all characters of the source, and no more. -/
  total_pieces : Piece.total (Piece.cut (Mark.ofText source)) = source.length
  /-- The span of a brace ends right before a closing brace of the source. -/
  span_closed : ∀ place m n, (Mark.ofText source)[place]? = some m → m.span = some n →
    source[place + n + 1]? = some '}'
  /-- The units that the calls scan are those that stand in rows in the pieces of markup, one row
  for each piece from its start to its end; they are scanned in order, and all of them have been
  scanned when a call has handed out nothing. -/
  visits_rows : ∃ rows,
    AreRows (Mark.ofText source) 0 (Piece.cut (Mark.ofText source)) rows ∧
      (∀ n, (Tokenizer.ofText source).visits source.length n <+: rows.flatten) ∧
      ∀ n, (tokenize source).length < n →
        (Tokenizer.ofText source).visits source.length n = rows.flatten
  /-- Every unit takes at least one character, and the source has all that it takes. -/
  visit_bounds : ∀ n, ∀ visit ∈ (Tokenizer.ofText source).visits source.length n,
    visit.start < visit.stop ∧ visit.stop ≤ source.length
  /-- No unit meets a link. -/
  visit_apart : ∀ n, ∀ visit ∈ (Tokenizer.ofText source).visits source.length n, ∀ place length,
    (place, Piece.link length) ∈ Piece.places 0 (Piece.cut (Mark.ofText source)) →
      visit.stop ≤ place ∨ place + length ≤ visit.start
  /-- The units are noted beside what `next` does. -/
  visits_next : ∀ n, (((Tokenizer.ofText source).after n).nextNoted source.length).2 =
    ((Tokenizer.ofText source).after n).next
  /-- The calls hand out the tokens of the source in order, and then nothing. -/
  handed_out : ∀ n, ((Tokenizer.ofText source).after n).next.1 = (tokenize source)[n]?

/-- Every source is read once. -/
theorem reads_once (source : Text) : ReadsOnce source := by
  obtain ⟨rows, hrows⟩ := areRows_cut (Mark.ofText source) 0
  rw [List.drop_zero] at hrows
  have hstep := Tokenizer.inStep_ofText hrows
  have htotal := Piece.total_cut (closed_ofText source)
  rw [length_ofText] at htotal
  have hafter := fun n => Tokenizer.after_spec hstep n
  simp only [length_ofText, Tokenizer.outstanding_ofText, List.nil_append] at hafter
  have hpre : ∀ n, (Tokenizer.ofText source).visits source.length n <+: rows.flatten := by
    intro n
    obtain ⟨-, row', rows', -, happ, -⟩ := hafter n
    exact ⟨_, happ.symm⟩
  refine {
    piece_pos := Piece.length_pos_of_mem_cut _
    total_pieces := htotal
    span_closed := fun place m n hm hn => ?_
    visits_rows := ⟨rows, hrows, hpre, fun n hn => ?_⟩
    visit_bounds := fun n visit hv => ?_
    visit_apart := fun n visit hv place length hp => hrows.apart ((hpre n).subset hv) hp
    visits_next := fun n => Tokenizer.nextNoted_snd _ _
    handed_out := fun n => ?_ }
  · have hget := (closed_ofText source).getElem?_span hm hn
    rwa [chars_ofText] at hget
  · obtain ⟨-, row', rows', -, happ, hend⟩ := hafter n
    rw [happ, hend hn, List.append_nil]
  · have hb := hrows.bounds ((hpre n).subset hv)
    rw [htotal, Nat.zero_add] at hb
    exact hb.2
  · rw [Tokenizer.fst_next_after hstep n, Tokenizer.outstanding_ofText]

end StyledMarkup
