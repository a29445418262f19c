import Mathlib.Data.List.TakeWhile
import StyledMarkup.Markup.Tokenizer
import StyledMarkup.Proofs.Markup.Matching

/-!
# Reading in one pass

A source is cut around its links first, and its markup is scanned afterwards. The two go in step:
where no link starts, the cut passes over just the characters that the scanned unit takes
(`cut_unit`), because what a unit takes after its first character never starts a link and never
opens a brace. So reading a source in one pass, a link or a unit at a time, gives the same lexemes
(`lexemes_cut`).
-/

namespace StyledMarkup

open Mark

namespace Piece

/-- Whether the cut passes over the character alone wherever it stands: it starts no link, opens
no brace and escapes nothing. -/
def IsInert (c : Char) : Prop :=
  c ≠ 'h' ∧ c ≠ '{' ∧ c ≠ '&'

/-! ## Where links start -/

theorem startsLink_iff (marks : List Mark) :
    startsLink marks = true ↔ ∃ scheme ∈ schemes, scheme <+: chars marks := by
  simp only [startsLink, List.any_eq_true, beq_iff_eq, chars_take]
  refine exists_congr fun scheme => and_congr_right fun _ => ?_
  rw [List.prefix_iff_eq_take, eq_comm]

theorem schemes_eq_cons {scheme : Text} (h : scheme ∈ schemes) :
    ∃ rest, scheme = 'h' :: rest ∧ 'h' ∉ rest := by
  simp only [schemes, List.mem_cons, List.not_mem_nil, or_false] at h
  rcases h with rfl | rfl
  · exact ⟨"ttp://".toList, by decide, by decide⟩
  · exact ⟨"ttps://".toList, by decide, by decide⟩

theorem char_of_startsLink {m : Mark} {rest : List Mark} (h : startsLink (m :: rest) = true) :
    m.char = 'h' := by
  obtain ⟨scheme, hs, hp⟩ := (startsLink_iff _).1 h
  obtain ⟨tail, rfl, -⟩ := schemes_eq_cons hs
  exact (List.cons_prefix_cons.1 hp).1.symm

/-! ## The cut, a unit at a time -/

/-- The pieces with more characters of markup before them. -/
def extend (passed : Nat) : List Piece → List Piece
  | markup n :: rest => markup (passed + n) :: rest
  | pieces => markup? passed ++ pieces

theorem extend_extend (passed more : Nat) (pieces : List Piece) :
    extend passed (extend more pieces) = extend (passed + more) pieces := by
  match pieces, more with
  | markup n :: rest, more => simp [extend, Nat.add_assoc]
  | [], 0 => rfl
  | [], k + 1 => rfl
  | link n :: rest, 0 => rfl
  | link n :: rest, k + 1 => rfl

theorem cutAfter_eq_extend (passed : Nat) (marks : List Mark) :
    cutAfter passed marks = extend passed (cut marks) := by
  match marks with
  | [] =>
    rw [cut, cutAfter, cutAfter]
    cases passed <;> rfl
  | m :: rest =>
    rw [cut, cutAfter, cutAfter]
    split
    · rw [cutAfter_eq_extend (passed + 2), cutAfter_eq_extend (0 + 2), extend_extend]
    · split
      · split
        · rename_i n _
          rw [cutAfter_eq_extend (passed + n + 2), cutAfter_eq_extend (0 + n + 2), extend_extend]
          congr 1
          omega
        · rw [cutAfter_eq_extend (passed + 1), cutAfter_eq_extend (0 + 1), extend_extend]
      · split
        · cases passed <;> rfl
        · rw [cutAfter_eq_extend (passed + 1), cutAfter_eq_extend (0 + 1), extend_extend]
termination_by marks.length
decreasing_by all_goals simp only [List.length_drop, List.length_cons]; omega

theorem cut_nil : cut [] = [] := by
  rw [cut, cutAfter]
  rfl

theorem cut_link {m : Mark} {rest : List Mark} (h : startsLink (m :: rest) = true) :
    cut (m :: rest) = link ((rest.takeWhile fun r => !Text.isBlank r.char).length + 1) ::
      cut (rest.drop (rest.takeWhile fun r => !Text.isBlank r.char).length) := by
  have hc := char_of_startsLink h
  rw [cut, cutAfter, if_neg (by simp [hc, escape]), if_neg (by simp [hc]), if_pos h]
  rfl

theorem cut_inert {m : Mark} {rest : List Mark} (h : IsInert m.char) :
    cut (m :: rest) = extend 1 (cut rest) := by
  have hl : startsLink (m :: rest) = false :=
    Bool.eq_false_iff.2 fun hl => h.1 (char_of_startsLink hl)
  rw [cut, cutAfter, if_neg fun he => h.2.2 he.1, if_neg h.2.1, hl, if_neg Bool.false_ne_true,
    cutAfter_eq_extend]

theorem cut_inert_run : ∀ (n : Nat) {marks : List Mark}, n ≤ marks.length →
    (∀ m ∈ marks.take n, IsInert m.char) → cut marks = extend n (cut (marks.drop n))
  | 0, marks, _, _ => (cutAfter_eq_extend 0 marks)
  | n + 1, m :: rest, hn, h => by
    have hr : ∀ r ∈ rest.take n, IsInert r.char := fun r hr => h r (List.mem_cons_of_mem _ hr)
    rw [cut_inert (h m List.mem_cons_self),
      cut_inert_run n (Nat.le_of_succ_le_succ hn) hr, extend_extend, Nat.add_comm]
    rfl

end Piece

namespace Scan

open Piece

theorem escaped_extra_of_hidesNext {rest : List Mark} (h : hidesNext rest = true) :
    (escaped rest).extra = 1 := by
  match rest with
  | [] => simp [hidesNext] at h
  | ⟨c, _⟩ :: _ =>
    simp only [hidesNext, isBrace, escape, Bool.or_eq_true, beq_iff_eq] at h
    rcases h with (rfl | rfl) | rfl <;> rfl

/-- The second character of an escaped unit, unless it makes a pair for the cut too, is passed over
by the cut alone. -/
theorem escaped_extra_of_not_hidesNext {rest : List Mark} (h : hidesNext rest = false) :
    (escaped rest).extra = 0 ∨
      ∃ next rest', rest = next :: rest' ∧ (escaped rest).extra = 1 ∧ IsInert next.char := by
  match rest with
  | [] => exact .inl rfl
  | next :: rest' =>
    simp only [hidesNext, isBrace, escape, Bool.or_eq_false_iff, beq_eq_false_iff_ne] at h
    by_cases hc : next.char = 'h'
    · left
      simp only [escaped, hc]
      rfl
    · have hi : IsInert next.char := ⟨hc, h.1.1, h.2⟩
      simp only [escaped]
      split
      · exact .inr ⟨next, rest', rfl, rfl, hi⟩
      · split
        · exact .inr ⟨next, rest', rfl, rfl, hi⟩
        · exact .inl rfl

theorem isInert_of_isHexDigit {c : Char} (h : Text.isHexDigit c = true) : IsInert c := by
  refine ⟨?_, ?_, ?_⟩ <;> rintro rfl <;> simp [Text.isHexDigit, Text.hexValue?] at h

theorem color_extra (rest : List Mark) : (color rest).extra ≤ rest.length ∧
    ∀ r ∈ rest.take (color rest).extra, Text.isHexDigit r.char = true := by
  set digits := (chars (rest.take 6)).takeWhile Text.isHexDigit with hdigits
  have hpre : digits <+: chars rest :=
    (List.takeWhile_prefix _).trans (by rw [chars_take]; exact List.take_prefix _ _)
  have hle : (color rest).extra ≤ digits.length := by
    simp only [color, ← hdigits, List.length_map]
    split
    · exact Nat.zero_le _
    · split
      · rename_i h6
        exact h6.ge
      · show 3 ≤ digits.length
        omega
  refine ⟨hle.trans (by simpa using hpre.length_le), fun r hr => ?_⟩
  have hmem : r.char ∈ (chars rest).take (color rest).extra := by
    rw [← chars_take]
    exact List.mem_map_of_mem hr
  obtain ⟨tail, ht⟩ := hpre
  rw [← ht, List.take_append_of_le_length hle] at hmem
  exact List.mem_takeWhile_imp (List.mem_of_mem_take hmem)

theorem unit_extra_le {m : Mark} {rest : List Mark} (h : Closed (m :: rest)) :
    (unit m rest).extra ≤ rest.length := by
  unfold unit
  split
  · unfold reference
    split
    · exact Nat.zero_le _
    · rename_i n hn
      exact h.span_lt hn
  · split
    · rcases hh : hidesNext rest with _ | _
      · rcases escaped_extra_of_not_hidesNext hh with h0 | ⟨next, rest', rfl, h1, -⟩
        · omega
        · simp [h1]
      · match rest with
        | [] => simp [hidesNext] at hh
        | _ :: _ => simp [escaped_extra_of_hidesNext hh]
    · split
      · exact (color_extra rest).1
      · exact Nat.zero_le _

end Scan

namespace Piece

open Scan

/-- Where no link starts, the cut passes over just what the unit takes. -/
theorem cut_unit {m : Mark} {rest : List Mark} (h : startsLink (m :: rest) = false) :
    cut (m :: rest) = extend ((unit m rest).extra + 1) (cut (rest.drop (unit m rest).extra)) := by
  have hone : ∀ {c : Mark}, startsLink (c :: rest) = false → c.char ≠ '{' →
      (c.char = '&' → hidesNext rest = false) → cut (c :: rest) = extend 1 (cut rest) := by
    intro c hl hb hh
    rw [cut, cutAfter, if_neg (fun he => by simp [hh he.1] at he), if_neg hb, hl,
      if_neg Bool.false_ne_true, cutAfter_eq_extend]
  by_cases hb : m.char = '{'
  · rw [unit, if_pos hb]
    rw [cut, cutAfter, if_neg (by simp [hb, escape]), if_pos hb]
    rcases hs : m.span with _ | n
    · exact cutAfter_eq_extend _ _
    · simp only [reference, cutAfter_eq_extend (0 + n + 2)]
      congr 1
      omega
  rw [unit, if_neg hb]
  by_cases he : m.char = escape
  · rw [if_pos he]
    rcases hh : hidesNext rest with _ | _
    · rw [hone h hb fun _ => hh]
      rcases escaped_extra_of_not_hidesNext hh with h0 | ⟨next, rest', rfl, h1, hi⟩
      · rw [h0, List.drop_zero]
      · rw [h1, cut_inert hi, extend_extend]
        rfl
    · rw [escaped_extra_of_hidesNext hh, cut, cutAfter, if_pos ⟨he, hh⟩, cutAfter_eq_extend]
  · rw [if_neg he, hone h hb fun hc => absurd hc he]
    by_cases hc : m.char = '#'
    · rw [if_pos hc]
      obtain ⟨hle, hd⟩ := color_extra rest
      rw [cut_inert_run _ hle fun r hr => isInert_of_isHexDigit (hd r hr), extend_extend,
        Nat.add_comm]
    · rw [if_neg hc]
      rfl

end Piece

/-! ## One pass -/

/-- The lexemes of marks that are read in one pass: a link where one starts, else one unit. -/
def onePass : List Mark → List Lexeme
  | [] => []
  | m :: rest =>
    if Piece.startsLink (m :: rest) then
      let tail := (rest.takeWhile fun r => !Text.isBlank r.char).length
      .token (.link (chars (m :: rest.take tail))) :: onePass (rest.drop tail)
    else
      (Scan.unit m rest).lexeme :: onePass (rest.drop (Scan.unit m rest).extra)
termination_by marks => marks.length
decreasing_by all_goals simp only [List.length_drop, List.length_cons]; omega

theorem lexemes_extend (m : Mark) (rest : List Mark) (pieces : List Piece) :
    lexemes (Piece.extend ((Scan.unit m rest).extra + 1) pieces) (m :: rest) =
      (Scan.unit m rest).lexeme :: lexemes pieces (rest.drop (Scan.unit m rest).extra) := by
  have hmarkup : ∀ n, lexemesOfMarkup ((Scan.unit m rest).extra + 1 + n) (m :: rest) =
      (Scan.unit m rest).lexeme ::
        lexemesOfMarkup n (rest.drop (Scan.unit m rest).extra) := by
    intro n
    rw [show (Scan.unit m rest).extra + 1 + n = (Scan.unit m rest).extra + n + 1 by omega,
      lexemesOfMarkup, Nat.add_sub_cancel_left]
  have hrest : ∀ n, (m :: rest).drop ((Scan.unit m rest).extra + 1 + n) =
      (rest.drop (Scan.unit m rest).extra).drop n := by
    intro n
    rw [List.drop_drop, show (Scan.unit m rest).extra + 1 + n =
      (Scan.unit m rest).extra + n + 1 by omega, List.drop_succ_cons]
  have hnone := hmarkup 0
  have hdrop := hrest 0
  simp only [Nat.add_zero, List.drop_zero] at hnone hdrop
  rcases pieces with _ | ⟨n | n, pieces⟩
  · simp only [Piece.extend, Piece.markup?, List.append_nil, lexemes, hnone]
    rw [lexemesOfMarkup]
  · simp only [Piece.extend, lexemes, hmarkup, hrest, List.cons_append]
  · simp only [Piece.extend, Piece.markup?, List.cons_append, List.nil_append, lexemes, hnone,
      hdrop]
    rw [lexemesOfMarkup]
    rfl

theorem lexemes_cut (marks : List Mark) : lexemes (Piece.cut marks) marks = onePass marks := by
  match marks with
  | [] =>
    rw [Piece.cut_nil, onePass]
    rfl
  | m :: rest =>
    rw [onePass]
    split
    · rename_i h
      rw [Piece.cut_link h, lexemes, List.take_succ_cons, List.drop_succ_cons, lexemes_cut]
    · rename_i h
      rw [Piece.cut_unit (Bool.eq_false_iff.2 h), lexemes_extend, lexemes_cut]
termination_by marks.length
decreasing_by all_goals simp only [List.length_drop, List.length_cons]; omega

theorem tokenize_eq_onePass (source : Text) :
    tokenize source = (onePass (ofText source)).foldr Lexeme.push [] := by
  rw [tokenize, lexemes_cut]

end StyledMarkup
