import StyledMarkup.Proofs.Markup.Rescan
import StyledMarkup.Proofs.Markup.Shape

/-!
# Sources in a row

Where one source ends with a blank and has closed its braces, another one may be put behind it: no
brace is matched over the seam (`ofText_append`), and no unit and no link looks over it
(`onePass_append`), because each of them stops at a blank at the latest. The tokens are those of the
two sources, and two texts that meet are one (`tokenize_append`).
-/

namespace StyledMarkup

open Mark

/-- Whether the text ends with a blank, unless it is empty. -/
def Text.EndsBlank (t : Text) : Prop :=
  ∀ c ∈ t.getLast?, isBlank c = true

instance (t : Text) : Decidable t.EndsBlank :=
  decidable_of_iff (t.getLast?.all Text.isBlank = true) (Option.all_eq_true _ _)

/-- Whether every structural opening brace of the source is closed in it. -/
def ClosesBraces (source : Text) : Prop :=
  ∀ place, ∀ m ∈ (Mark.ofText source)[place]?, m.char = '{' → escapesBefore source place ≠ 1 →
    m.span.isSome = true

instance (source : Text) : Decidable (ClosesBraces source) :=
  decidable_of_iff ((List.range source.length).all fun place => (Mark.ofText source)[place]?.all
      fun m => m.char != '{' || escapesBefore source place == 1 || m.span.isSome) <| by
    simp only [List.all_eq_true, List.mem_range, Option.all_eq_true, Bool.or_eq_true, bne_iff_ne,
      beq_iff_eq, or_assoc]
    refine ⟨fun h place m hm hopen hrun => ?_, fun h place _ m hm => ?_⟩
    · have hlt : place < source.length := length_ofText source ▸ (List.getElem?_eq_some_iff.1 hm).1
      exact ((h place hlt m hm).resolve_left (not_not_intro hopen)).resolve_left hrun
    · by_cases hopen : m.char = '{'
      · exact .inr (or_iff_not_imp_left.2 fun hrun => h place m hm hopen hrun)
      · exact .inl hopen

/-! ## The braces -/

namespace Mark

/-- The closing braces of a text are taken by its own opening braces if they can be, so those of
the text behind it stay open. -/
theorem matched_append_eq {escapes : Nat} {s : Text} (h : ∀ place m,
    (matched escapes s).1[place]? = some m → m.char = '{' →
      runOver escapes (s.take place) ≠ 1 → m.span.isSome = true) (t : Text) :
    matched escapes (s ++ t) = ((matched escapes s).1 ++ (matched (runOver escapes s) t).1,
      (matched escapes s).2 ++ (matched (runOver escapes s) t).2.map (· + s.length)) := by
  induction s generalizing escapes with
  | nil => simp [matched]
  | cons c s ih =>
    have hs := @ih (runAfter escapes c) fun place m hm => by
      obtain ⟨span, hspan⟩ := exists_matched_cons escapes c s
      exact h (place + 1) m (by rw [hspan]; exact hm)
    have hshift : ∀ l : List Nat, (l.map (· + s.length)).map (· + 1) =
        l.map (· + (c :: s).length) := by
      intro l
      rw [List.map_map]
      refine List.map_congr_left fun n _ => ?_
      simp only [Function.comp_apply, List.length_cons]
      omega
    cases hc : isStructural escapes c with
    | false =>
      rw [List.cons_append, matched_cons_of_not_structural hc, matched_cons_of_not_structural hc,
        hs]
      simp [hshift]
    | true =>
      simp only [isStructural, isBrace, Bool.and_eq_true, Bool.or_eq_true, beq_iff_eq,
        bne_iff_ne] at hc
      obtain ⟨rfl | rfl, he⟩ := hc
      · have hr : runAfter escapes '{' = 0 := rfl
        rw [hr] at hs
        -- The brace is closed in `s`, so it takes a closing brace of `s` and none behind it.
        obtain ⟨nearest, outer, hcl⟩ : ∃ nearest outer, (matched 0 s).2 = nearest :: outer := by
          have hspan := h 0 ⟨'{', (matched 0 s).2.head?⟩ (by rw [matched_open_eq he]; rfl) rfl he
          obtain ⟨nearest, hn⟩ := Option.isSome_iff_exists.1 hspan
          exact ⟨nearest, List.head?_eq_some_iff.1 hn⟩
        rw [List.cons_append, matched_open he hcl, matched_open he (by rw [hs, hcl]; rfl), hs]
        simp [hshift, hr]
      · have hr : runAfter escapes '}' = 0 := rfl
        rw [hr] at hs
        rw [List.cons_append, matched_close he, matched_close he, hs]
        simp [hshift, hr]

theorem runOver_of_endsBlank {t : Text} (h : t.EndsBlank) : runOver 0 t = 0 := by
  induction t using List.reverseRecOn with
  | nil => rfl
  | append_singleton t c _ =>
    have hc : Text.isBlank c = true := h c (by simp)
    rw [runOver_append, runOver_cons, runOver_nil]
    exact runAfter_of_ne _ (Text.ne_of_isBlank hc (by decide))

theorem ofText_append {s : Text} (hs : s.EndsBlank) (hc : ClosesBraces s) (t : Text) :
    ofText (s ++ t) = ofText s ++ ofText t := by
  have hclosed : ∀ place m, (matched 0 s).1[place]? = some m → m.char = '{' →
      runOver 0 (s.take place) ≠ 1 → m.span.isSome = true := by
    intro place m hm hopen hrun
    exact hc place m hm hopen (by rwa [escapesBefore, ← runOver_eq_length])
  rw [ofText, matched_append_eq hclosed, runOver_of_endsBlank hs]
  rfl

end Mark

/-! ## Units and links -/

theorem Text.EndsBlank.drop {t : Text} (h : t.EndsBlank) (n : Nat) : Text.EndsBlank (t.drop n) := by
  intro c hc
  rw [List.getLast?_drop] at hc
  split at hc
  · cases hc
  · exact h c hc

theorem exists_blank {marks : List Mark} (h : Text.EndsBlank (chars marks)) (hne : marks ≠ []) :
    ∃ r ∈ marks, Text.isBlank r.char = true := by
  refine ⟨_, List.getLast_mem hne, h _ (Option.mem_def.2 ?_)⟩
  rw [chars, List.getLast?_map, List.getLast?_eq_some_getLast hne, Option.map_some]

theorem takeWhile_append_of_mem {α : Type} {p : α → Bool} {l : List α} {x : α} (hx : x ∈ l)
    (hp : p x = false) (more : List α) : (l ++ more).takeWhile p = l.takeWhile p := by
  rw [List.takeWhile_append, if_neg]
  intro hlen
  have hall := (List.takeWhile_prefix p).eq_of_length hlen
  rw [List.takeWhile_eq_self_iff] at hall
  simp [hall x hx] at hp

namespace Piece

/-- No link starts by what stands behind a blank. -/
theorem startsLink_append {marks : List Mark} (h : Text.EndsBlank (chars marks)) (hne : marks ≠ [])
    (more : List Mark) : startsLink (marks ++ more) = startsLink marks := by
  rw [Bool.eq_iff_iff, startsLink_iff, startsLink_iff, chars_append]
  refine exists_congr fun scheme => and_congr_right fun hs => ⟨fun hp => ?_, fun hp =>
    hp.trans (List.prefix_append _ _)⟩
  refine (List.prefix_or_prefix_of_prefix hp (List.prefix_append _ _)).resolve_right fun hin => ?_
  obtain ⟨r, hr, hb⟩ := exists_blank h hne
  rw [not_isBlank_of_mem_scheme hs (hin.subset (List.mem_map_of_mem hr))] at hb
  cases hb

end Piece

namespace Scan

theorem color_append {rest : List Mark} {r : Mark} (hr : r ∈ rest)
    (hd : Text.isHexDigit r.char = false) (more : List Mark) :
    color (rest ++ more) = color rest := by
  have hmem : r.char ∈ chars rest := List.mem_map_of_mem hr
  have hdigits : (chars ((rest ++ more).take 6)).takeWhile Text.isHexDigit =
      (chars (rest.take 6)).takeWhile Text.isHexDigit := by
    rw [chars_take, chars_take, ← List.take_takeWhile, ← List.take_takeWhile, chars_append,
      takeWhile_append_of_mem hmem hd]
  rw [color, color, hdigits]

/-- No unit looks over a blank at the end of what follows it. -/
theorem unit_append {m : Mark} {rest : List Mark} (hc : Closed (m :: rest))
    (hb : Text.EndsBlank (chars (m :: rest))) (more : List Mark) :
    unit m (rest ++ more) = unit m rest := by
  rcases rest with _ | ⟨next, rest⟩
  · rw [unit_of_isBlank (hb _ rfl), unit_of_isBlank (hb _ rfl)]
  unfold unit
  split
  · rcases hs : m.span with _ | n
    · rfl
    · rw [reference, reference, List.take_append_of_le_length (hc.span_lt hs).le]
  split
  · rfl
  split
  · obtain ⟨r, hr, hblank⟩ := exists_blank (hb.drop 1) (List.cons_ne_nil next rest)
    exact color_append hr (Text.isHexDigit_of_isBlank hblank) more
  · rfl

end Scan

theorem onePass_append {marks : List Mark} (hc : Closed marks)
    (hb : Text.EndsBlank (chars marks)) (more : List Mark) :
    onePass (marks ++ more) = onePass marks ++ onePass more := by
  induction marks using onePass.induct with
  | case1 =>
    rw [List.nil_append]
    conv_rhs => rw [onePass]
    rfl
  | case2 m rest hl tail ih =>
    have hrest : rest ≠ [] := by
      rintro rfl
      rw [Piece.startsLink_of_isBlank (hb _ rfl)] at hl
      cases hl
    -- A link starts with no blank, so the blank at the end stands behind it and stops it.
    obtain ⟨r, hr, hblank⟩ := exists_blank (show Text.EndsBlank (chars rest) from hb.drop 1) hrest
    have htail : ((rest ++ more).takeWhile fun r => !Text.isBlank r.char).length = tail := by
      rw [takeWhile_append_of_mem hr (by rw [hblank, Bool.not_true])]
    have hle : tail ≤ rest.length := (List.takeWhile_prefix _).length_le
    have hbehind : Text.EndsBlank (chars (rest.drop tail)) := by
      rw [chars, List.map_drop]
      exact hb.drop (tail + 1)
    rw [List.cons_append, onePass, if_pos (by
      rwa [← List.cons_append, Piece.startsLink_append hb (List.cons_ne_nil _ _)])]
    simp only [htail]
    rw [List.take_append_of_le_length hle, List.drop_append_of_le_length hle,
      ih (hc.2.drop _) hbehind]
    conv_rhs => rw [onePass, if_pos hl]
    rfl
  | case3 m rest hl ih =>
    have hle := Scan.unit_extra_le hc
    have hrest : Text.EndsBlank (chars (rest.drop (Scan.unit m rest).extra)) := by
      rw [chars, List.map_drop]
      exact hb.drop ((Scan.unit m rest).extra + 1)
    have hl' : ¬ Piece.startsLink (m :: (rest ++ more)) = true := by
      rwa [← List.cons_append, Piece.startsLink_append hb (List.cons_ne_nil _ _)]
    rw [List.cons_append, onePass, if_neg hl', Scan.unit_append hc hb,
      List.drop_append_of_le_length hle, ih (hc.2.drop _) hrest]
    conv_rhs => rw [onePass, if_neg hl]
    rfl

/-! ## Tokens -/

namespace Token

/-- Tokens in front of others; the texts that meet are one. -/
def joined (front behind : List Token) : List Token :=
  match front.getLast?, behind with
  | some (.text before), .text after :: rest => front.dropLast ++ .text (before ++ after) :: rest
  | _, _ => front ++ behind

theorem joined_cons {token : Token} {front : List Token} (h : front ≠ [] ∨ token.isText = false)
    (behind : List Token) : joined (token :: front) behind = token :: joined front behind := by
  rcases front with _ | ⟨first, front⟩
  · cases token with
    | text content => simp [isText] at h
    | _ => rfl
  · simp only [joined, List.getLast?_cons_cons, List.dropLast_cons_cons]
    split <;> rfl

/-- What a text gets joined to does not depend on the text. -/
theorem exists_joined_text (front behind : List Token) : ∃ after rest, ∀ content,
    joined (.text content :: front) behind = .text (content ++ after) :: rest := by
  rcases front with _ | ⟨first, front⟩
  · rcases behind with _ | ⟨token, behind⟩
    · exact ⟨[], [], fun content => by rw [List.append_nil]; rfl⟩
    · cases token with
      | text after => exact ⟨after, behind, fun _ => rfl⟩
      | _ => exact ⟨[], _, fun content => by rw [List.append_nil]; rfl⟩
  · refine ⟨[], joined (first :: front) behind, fun content => ?_⟩
    rw [joined_cons (.inl (List.cons_ne_nil _ _)), List.append_nil]

end Token

theorem Lexeme.push_joined {lexeme : Lexeme} (h : ∀ token, lexeme = .token token →
    token.isText = false) (front behind : List Token) :
    push lexeme (Token.joined front behind) = Token.joined (push lexeme front) behind := by
  obtain ⟨token, rfl, hp⟩ | ⟨c, content, rest, rfl, rfl, hp⟩ | ⟨c, rfl, hfront, hp⟩ :=
    push_cases lexeme front
  · rw [hp, Token.joined_cons (.inr (h token rfl))]
    rfl
  · obtain ⟨after, tail, htail⟩ := Token.exists_joined_text rest behind
    rw [hp, htail, htail]
    rfl
  · rw [hp]
    rcases front with _ | ⟨first, front⟩
    · rcases behind with _ | ⟨token, behind⟩
      · rfl
      · cases token <;> rfl
    · have hfirst := hfront first rfl
      rw [Token.joined_cons (.inl (List.cons_ne_nil _ _)), Token.joined_cons (.inr hfirst)]
      cases first with
      | text content => cases hfirst
      | _ => rfl

theorem Lexeme.foldr_push_append {front : List Lexeme} (h : ∀ token, .token token ∈ front →
    token.isText = false) (behind : List Lexeme) : (front ++ behind).foldr push [] =
      Token.joined (front.foldr push []) (behind.foldr push []) := by
  induction front with
  | nil => rfl
  | cons lexeme front ih =>
    rw [List.cons_append, List.foldr_cons, ih fun token ht => h token (List.mem_cons_of_mem _ ht),
      List.foldr_cons, push_joined]
    rintro token rfl
    exact h token List.mem_cons_self

/-- A source behind one that ends with a blank and has closed its braces has its own tokens. -/
theorem tokenize_append {source : Text} (hb : source.EndsBlank) (hc : ClosesBraces source)
    (more : Text) : tokenize (source ++ more) = Token.joined (tokenize source) (tokenize more) := by
  rw [tokenize_eq_onePass, tokenize_eq_onePass, tokenize_eq_onePass, ofText_append hb hc,
    onePass_append (closed_ofText source) (by rwa [chars_ofText]),
    Lexeme.foldr_push_append fun _ ht => (wellFormed_of_mem_onePass ht).2]

end StyledMarkup
