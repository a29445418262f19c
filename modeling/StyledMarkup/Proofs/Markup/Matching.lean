import StyledMarkup.Markup.Mark

/-!
# The spans of matched braces

Marking a source keeps its characters (`chars_ofText`), and a span ends right before a closing
brace of the source (`closed_ofText`), so nothing that is taken by a span is past the end.

What stands to the right of a closing brace does not change the span that the brace ends: a body
without structural braces, between an opening brace and a closing one, is the span of the opening
brace whatever follows it and whatever came before (`matched_body`).
-/

namespace StyledMarkup
namespace Mark

@[simp] theorem chars_nil : chars [] = [] := rfl

@[simp] theorem chars_cons (m : Mark) (rest : List Mark) :
    chars (m :: rest) = m.char :: chars rest := rfl

@[simp] theorem length_chars (marks : List Mark) : (chars marks).length = marks.length :=
  List.length_map _

theorem chars_append (marks more : List Mark) : chars (marks ++ more) = chars marks ++ chars more :=
  List.map_append

theorem chars_take (n : Nat) (marks : List Mark) : chars (marks.take n) = (chars marks).take n :=
  List.map_take

/-- The length of the run of escape characters at the end of a text that follows a run of
`escapes` of them. -/
def runOver (escapes : Nat) (t : Text) : Nat :=
  t.foldl runAfter escapes

@[simp] theorem runOver_nil (escapes : Nat) : runOver escapes [] = escapes := rfl

@[simp] theorem runOver_cons (escapes : Nat) (c : Char) (t : Text) :
    runOver escapes (c :: t) = runOver (runAfter escapes c) t := rfl

theorem runOver_append (escapes : Nat) (s t : Text) :
    runOver escapes (s ++ t) = runOver (runOver escapes s) t :=
  List.foldl_append

@[simp] theorem runAfter_escape (escapes : Nat) : runAfter escapes '&' = escapes + 1 := rfl

theorem runAfter_of_ne (escapes : Nat) {c : Char} (h : c ≠ '&') : runAfter escapes c = 0 :=
  if_neg h

/-- Whether no character of a text that follows a run of `escapes` escape characters is a
structural brace. -/
def HidesBraces : Nat → Text → Prop
  | _, [] => True
  | escapes, c :: rest => isStructural escapes c = false ∧ HidesBraces (runAfter escapes c) rest

theorem matched_cons_of_not_structural {escapes : Nat} {c : Char}
    (h : isStructural escapes c = false) (rest : Text) :
    matched escapes (c :: rest) = (⟨c, none⟩ :: (matched (runAfter escapes c) rest).1,
      (matched (runAfter escapes c) rest).2.map (· + 1)) := by
  simp only [matched, h, Bool.false_eq_true, if_false]

theorem matched_close {escapes : Nat} (h : escapes ≠ 1) (rest : Text) :
    matched escapes ('}' :: rest) =
      (⟨'}', none⟩ :: (matched 0 rest).1, 0 :: (matched 0 rest).2.map (· + 1)) := by
  have hs : isStructural escapes '}' = true := by simp [isStructural, isBrace, h]
  have hr : runAfter escapes '}' = 0 := rfl
  simp [matched, hs, hr]

theorem matched_open {escapes nearest : Nat} {outer : List Nat} {rest : Text} (h : escapes ≠ 1)
    (hc : (matched 0 rest).2 = nearest :: outer) :
    matched escapes ('{' :: rest) =
      (⟨'{', some nearest⟩ :: (matched 0 rest).1, outer.map (· + 1)) := by
  have hs : isStructural escapes '{' = true := by simp [isStructural, isBrace, h]
  have hr : runAfter escapes '{' = 0 := rfl
  simp [matched, hs, hr, hc]

theorem chars_matched : ∀ (escapes : Nat) (t : Text), chars (matched escapes t).1 = t
  | _, [] => rfl
  | escapes, c :: rest => by
    have ih := chars_matched (runAfter escapes c) rest
    simp only [matched]
    split
    · split
      · split <;> simp [ih]
      · simp [ih]
    · simp [ih]

theorem chars_ofText (source : Text) : chars (ofText source) = source :=
  chars_matched 0 source

theorem length_ofText (source : Text) : (ofText source).length = source.length := by
  rw [← length_chars, chars_ofText]

theorem exists_matched_cons (escapes : Nat) (c : Char) (t : Text) : ∃ span,
    (matched escapes (c :: t)).1 = ⟨c, span⟩ :: (matched (runAfter escapes c) t).1 := by
  simp only [matched]
  split
  · split
    · split <;> exact ⟨_, rfl⟩
    · exact ⟨_, rfl⟩
  · exact ⟨_, rfl⟩

/-- The marks of two texts in a row are marks of the first, and then the marks of the second
after the run at the end of the first. -/
theorem matched_append : ∀ (escapes : Nat) (s t : Text), ∃ front,
    (matched escapes (s ++ t)).1 = front ++ (matched (runOver escapes s) t).1 ∧ chars front = s
  | _, [], _ => ⟨[], rfl, rfl⟩
  | escapes, c :: s, t => by
    obtain ⟨front, hf, hc⟩ := matched_append (runAfter escapes c) s t
    obtain ⟨span, hspan⟩ := exists_matched_cons escapes c (s ++ t)
    refine ⟨⟨c, span⟩ :: front, ?_, by rw [chars_cons, hc]⟩
    rw [List.cons_append, hspan, hf]
    rfl

/-- A text without structural braces leaves all the closing braces behind it open. -/
theorem closers_append : ∀ {escapes : Nat} {s : Text}, HidesBraces escapes s → ∀ t : Text,
    (matched escapes (s ++ t)).2 = (matched (runOver escapes s) t).2.map (· + s.length)
  | _, [], _, t => by simp
  | escapes, c :: s, ⟨hc, hs⟩, t => by
    rw [List.cons_append, matched_cons_of_not_structural hc, closers_append hs, List.map_map]
    refine List.map_congr_left fun n _ => ?_
    simp only [Function.comp_apply, List.length_cons]
    omega

/-- A body without structural braces is the span of the brace before it. -/
theorem matched_body {escapes : Nat} {body : Text} (he : escapes ≠ 1)
    (hb : HidesBraces 0 body) (hr : runOver 0 body ≠ 1) (rest : Text) : ∃ inner,
    (matched escapes ('{' :: body ++ '}' :: rest)).1 =
        ⟨'{', some body.length⟩ :: inner ++ (matched 0 rest).1 ∧
      chars inner = body ++ ['}'] := by
  have hclosers : (matched 0 (body ++ '}' :: rest)).2 =
      body.length :: ((matched 0 rest).2.map (· + 1)).map (· + body.length) := by
    rw [closers_append hb, matched_close hr, List.map_cons, Nat.zero_add]
  obtain ⟨front, hf, hc⟩ := matched_append 0 body ('}' :: rest)
  refine ⟨front ++ [⟨'}', none⟩], ?_, by rw [chars_append, hc]; rfl⟩
  rw [List.cons_append, matched_open he hclosers, hf, matched_close hr]
  simp

/-- Whether every span ends right before a closing brace. -/
def Closed : List Mark → Prop
  | [] => True
  | m :: rest => (∀ n, m.span = some n → (chars rest)[n]? = some '}') ∧ Closed rest

theorem Closed.drop : ∀ {marks : List Mark} (n : Nat), Closed marks → Closed (marks.drop n)
  | _, 0, h => h
  | [], _ + 1, _ => trivial
  | _ :: _, n + 1, h => Closed.drop n h.2

theorem getElem?_of_mem_closers : ∀ {escapes : Nat} {t : Text} {n : Nat},
    n ∈ (matched escapes t).2 → t[n]? = some '}'
  | _, [], _, h => by simp [matched] at h
  | escapes, c :: rest, n, h => by
    have ih : ∀ k ∈ (matched (runAfter escapes c) rest).2, rest[k]? = some '}' :=
      fun k hk => getElem?_of_mem_closers hk
    simp only [matched] at h
    split at h
    · rename_i hs
      split at h
      · split at h
        · simp at h
        · rename_i nearest outer hcl
          obtain ⟨k, hk, rfl⟩ := List.mem_map.1 h
          exact ih k (by rw [hcl]; exact List.mem_cons_of_mem _ hk)
      · rename_i hne
        rcases List.mem_cons.1 h with rfl | h
        · simp only [isStructural, isBrace, Bool.and_eq_true, Bool.or_eq_true, beq_iff_eq] at hs
          rw [hs.1.resolve_left hne]
          rfl
        · obtain ⟨k, hk, rfl⟩ := List.mem_map.1 h
          exact ih k hk
    · obtain ⟨k, hk, rfl⟩ := List.mem_map.1 h
      exact ih k hk

theorem closed_matched : ∀ (escapes : Nat) (t : Text), Closed (matched escapes t).1
  | _, [] => trivial
  | escapes, c :: rest => by
    have ih := closed_matched (runAfter escapes c) rest
    have hnone : Closed (⟨c, none⟩ :: (matched (runAfter escapes c) rest).1) :=
      ⟨fun _ h => (Option.some_ne_none _ h.symm).elim, ih⟩
    simp only [matched]
    split
    · split
      · split
        · exact hnone
        · rename_i nearest outer hcl
          refine ⟨fun n h => ?_, ih⟩
          cases h
          rw [chars_matched]
          exact getElem?_of_mem_closers (by rw [hcl]; exact List.mem_cons_self)
      · exact hnone
    · exact hnone

theorem closed_ofText (source : Text) : Closed (ofText source) :=
  closed_matched 0 source

theorem Closed.span_lt {m : Mark} {rest : List Mark} (h : Closed (m :: rest)) {n : Nat}
    (hn : m.span = some n) : n < rest.length := by
  have hget := h.1 n hn
  rw [← length_chars]
  exact (List.getElem?_eq_some_iff.1 hget).1

end Mark
end StyledMarkup
