import Mathlib.Data.List.DropRight
import StyledMarkup.Proofs.Markup.Written

/-!
# The body of a reference, read on its own

The closing brace of a reference is looked up in a matching of the whole source, and the body
before it is unescaped afterwards. Reading on from the opening brace with nothing but the number
of braces that are open comes to the same unit (`unit_eq_plainScan`).

Both sides skip escapes two characters at a time, but only one of them knows the run of escape
characters before a place. They stay together because the plain reading never stops between an
escape character and the brace that it belongs to (`Aligned`).
-/

namespace StyledMarkup

open Mark

/-! ## The plain reading -/

/-- Puts a character that was read from `taken` characters before what was found behind it. -/
def keep (c : Char) (taken : Nat) (found : Option (Text × Nat)) : Option (Text × Nat) :=
  found.map fun (body, length) => (c :: body, length + taken)

/-- Reads a body with `depth` braces open: what it spells, and the number of its characters with
the closing brace; `none` if the text ends before that brace. -/
def readBody (depth : Nat) : Text → Option (Text × Nat)
  | [] => none
  | '&' :: '{' :: rest => keep '{' 2 (readBody depth rest)
  | '&' :: '}' :: rest => keep '}' 2 (readBody depth rest)
  | '&' :: '&' :: '{' :: rest => keep '&' 2 (readBody depth ('{' :: rest))
  | '&' :: '&' :: '}' :: rest => keep '&' 2 (readBody depth ('}' :: rest))
  | '{' :: rest => keep '{' 1 (readBody (depth + 1) rest)
  | '}' :: rest => if depth = 1 then some ([], 1) else keep '}' 1 (readBody (depth - 1) rest)
  | c :: rest => keep c 1 (readBody depth rest)

/-- The unit at an opening brace, found by reading on behind it: a reference with its trimmed body,
or the brace alone if it is not closed. -/
def plainScan (behind : Text) : Scan :=
  match readBody 1 behind with
  | some (body, length) => ⟨length, .token (.reference body.trim)⟩
  | none => Scan.single '{'

/-- The number of escape characters right before a place of a source. -/
def escapesBefore (source : Text) (place : Nat) : Nat :=
  ((source.take place).rtakeWhile (· == escape)).length

/-! ## The open closing braces of a text -/

namespace Mark

theorem isBrace_eq_false {c : Char} (ho : c ≠ '{') (hc : c ≠ '}') : isBrace c = false := by
  simp [isBrace, ho, hc]

theorem closer_behind {escapes : Nat} {s : Text} (h : HidesBraces escapes s) (t : Text) (i : Nat) :
    (matched escapes (s ++ t)).2[i]? =
      (matched (runOver escapes s) t).2[i]?.map (· + s.length) := by
  rw [closers_append h, List.getElem?_map]

theorem matched_open_eq {escapes : Nat} (h : escapes ≠ 1) (rest : Text) :
    matched escapes ('{' :: rest) =
      (⟨'{', (matched 0 rest).2.head?⟩ :: (matched 0 rest).1,
        (matched 0 rest).2.tail.map (· + 1)) := by
  rcases hc : (matched 0 rest).2 with _ | ⟨nearest, outer⟩
  · have hs : isStructural escapes '{' = true := by simp [isStructural, isBrace, h]
    have hr : runAfter escapes '{' = 0 := rfl
    simp [matched, hs, hr, hc]
  · rw [matched_open h hc]
    rfl

theorem runOver_eq_length (t : Text) : runOver 0 t = (t.rtakeWhile (· == escape)).length := by
  induction t using List.reverseRecOn with
  | nil => rfl
  | append_singleton t c ih =>
    rw [runOver_append, runOver_cons, runOver_nil, runAfter]
    by_cases hc : c = escape
    · rw [if_pos hc, List.rtakeWhile_concat_pos _ _ _ (by simpa using hc), ih, List.length_append,
        List.length_singleton]
    · rw [if_neg hc, List.rtakeWhile_concat_neg _ _ _ (by simpa using hc), List.length_nil]

end Mark

/-! ## Both readings together -/

/-- Whether a text does not start in the middle of an escape when a run of `escapes` escape
characters stands before it: not with the brace that a single one hides, and not with an escaped
brace that the run would double. -/
def Aligned (escapes : Nat) (t : Text) : Prop :=
  (escapes = 1 → ∀ c, t.head? = some c → isBrace c = false) ∧
    (escapes ≠ 0 → ∀ c rest, t = '&' :: c :: rest → isBrace c = false)

theorem aligned_zero (t : Text) : Aligned 0 t :=
  ⟨fun h => absurd h Nat.zero_ne_one, fun h => absurd rfl h⟩

theorem aligned_brace (escapes : Nat) {c : Char} (hc : c ≠ '&') (rest : Text) :
    Aligned (escapes + 2) (c :: rest) :=
  ⟨fun h => absurd h (by omega), fun _ _ _ h => absurd (List.cons.inj h).1 hc⟩

/-- What is found behind a part of a body that spells one character is found for the whole of it,
with the closing brace as much farther as the part is long. -/
theorem keep_eq {c : Char} {taken : Nat} {inner outer : Option Nat} {t rest : Text}
    (hplace : outer = inner.map (· + taken))
    (hspell : ∀ n, inner = some n →
      Scan.unescape (t.take (n + taken)) = c :: Scan.unescape (rest.take n)) :
    keep c taken (inner.map fun n => (Scan.unescape (rest.take n), n + 1)) =
      outer.map fun n => (Scan.unescape (t.take n), n + 1) := by
  subst hplace
  rcases inner with _ | n
  · rfl
  · have h := hspell n rfl
    simp only [keep, Option.map_some, h]
    congr 2
    omega

/-- An escape character that stands for itself does so also in what is left of the text before a
closing brace. -/
theorem unescape_lone_escape {rest : Text} {n : Nat} (hn : rest[n]? = some '}')
    (hone : ∀ c, rest.head? = some c → isBrace c = false)
    (htwo : ∀ c more, rest = '&' :: c :: more → isBrace c = false) :
    Scan.unescape ('&' :: rest.take n) = '&' :: Scan.unescape (rest.take n) := by
  rcases rest with _ | ⟨c, rest⟩
  · cases hn
  have hc := hone c rfl
  rcases n with _ | n
  · rfl
  by_cases he : c = '&'
  · subst he
    rcases rest with _ | ⟨d, rest⟩
    · cases hn
    have hd := htwo d rest rfl
    rcases n with _ | n
    · cases hn
      exact absurd hd (by decide)
    · exact unescape_escapes hd _
  · exact unescape_escape hc he _

/-- Reading a body on its own finds the closing brace of the matching, and spells what unescaping
the characters before it does. -/
theorem readBody_eq {depth escapes : Nat} {t : Text} (hd : 0 < depth) (ha : Aligned escapes t) :
    readBody depth t =
      (matched escapes t).2[depth - 1]?.map fun n => (Scan.unescape (t.take n), n + 1) := by
  fun_induction readBody depth t generalizing escapes with
  | case1 => rfl
  | case2 depth rest ih =>
    obtain rfl : escapes = 0 := by_contra fun h => absurd (ha.2 h _ _ rfl) (by decide)
    rw [ih hd (aligned_zero rest)]
    exact keep_eq (closer_behind (s := ['&', '{']) ⟨rfl, rfl, trivial⟩ rest _) fun n _ => rfl
  | case3 depth rest ih =>
    obtain rfl : escapes = 0 := by_contra fun h => absurd (ha.2 h _ _ rfl) (by decide)
    rw [ih hd (aligned_zero rest)]
    exact keep_eq (closer_behind (s := ['&', '}']) ⟨rfl, rfl, trivial⟩ rest _) fun n _ => rfl
  | case4 depth rest ih =>
    rw [ih hd (aligned_brace escapes (by decide) rest)]
    refine keep_eq (closer_behind (s := ['&', '&']) ⟨rfl, rfl, trivial⟩ _ _) fun n _ => ?_
    cases n <;> rfl
  | case5 depth rest ih =>
    rw [ih hd (aligned_brace escapes (by decide) rest)]
    refine keep_eq (closer_behind (s := ['&', '&']) ⟨rfl, rfl, trivial⟩ _ _) fun n _ => ?_
    cases n <;> rfl
  | case6 depth rest ih =>
    have he : escapes ≠ 1 := fun h => absurd (ha.1 h _ rfl) (by decide)
    rw [ih (Nat.succ_pos depth) (aligned_zero rest)]
    refine keep_eq ?_ fun n _ => unescape_plain (by decide) _
    rw [matched_open_eq he, List.getElem?_map, List.getElem?_tail, Nat.add_sub_cancel,
      Nat.sub_add_cancel hd]
  | case7 depth =>
    have he : escapes ≠ 1 := fun h => absurd (ha.1 h _ rfl) (by decide)
    rw [matched_close he]
    rfl
  | case8 depth rest hne ih =>
    have he : escapes ≠ 1 := fun h => absurd (ha.1 h _ rfl) (by decide)
    obtain ⟨outer, rfl⟩ : ∃ outer, depth = outer + 2 := ⟨depth - 2, by omega⟩
    rw [ih (Nat.succ_pos outer) (aligned_zero rest)]
    refine keep_eq ?_ fun n _ => unescape_plain (by decide) _
    rw [matched_close he]
    exact List.getElem?_map
  | case9 depth c rest h1 h2 h3 h4 h5 h6 ih =>
    have hc : isBrace c = false := isBrace_eq_false h5 h6
    have hs : isStructural escapes c = false := by rw [isStructural, hc, Bool.false_and]
    have hplace := closer_behind (s := [c]) ⟨hs, trivial⟩ rest (depth - 1)
    by_cases he : c = '&'
    · subst he
      have hone : ∀ d, rest.head? = some d → isBrace d = false := by
        rintro d hd
        obtain ⟨more, rfl⟩ := List.head?_eq_some_iff.1 hd
        exact isBrace_eq_false (fun h => h1 more rfl (h ▸ rfl)) fun h => h2 more rfl (h ▸ rfl)
      have htwo : ∀ d more, rest = '&' :: d :: more → isBrace d = false := by
        rintro d more rfl
        exact isBrace_eq_false (fun h => h3 more rfl (h ▸ rfl)) fun h => h4 more rfl (h ▸ rfl)
      have hal : Aligned (escapes + 1) rest := ⟨fun _ => hone, fun _ => htwo⟩
      rw [ih hd hal]
      refine keep_eq hplace fun n hn => ?_
      exact unescape_lone_escape (getElem?_of_mem_closers (List.mem_of_getElem? hn)) hone htwo
    · rw [ih hd (aligned_zero rest)]
      rw [runOver_cons, runAfter_of_ne _ he, runOver_nil] at hplace
      exact keep_eq hplace fun n _ => unescape_plain he _

/-- At an opening brace that no single escape character stands right before, the unit is the one
that reading on from the brace alone finds, in whatever source the brace stands. -/
theorem unit_eq_plainScan {source : Text} {place : Nat} (hopen : source[place]? = some '{')
    (hrun : escapesBefore source place ≠ 1) : ∃ m rest,
      (Mark.ofText source).drop place = m :: rest ∧
      Scan.unit m rest = Scan.reference m.span rest ∧
      Scan.reference m.span rest = plainScan (source.drop (place + 1)) := by
  obtain ⟨hlt, hget⟩ := List.getElem?_eq_some_iff.1 hopen
  set before := source.take place with hbefore
  set behind := source.drop (place + 1) with hbehind
  have hsource : source = before ++ '{' :: behind := by
    rw [← hget, hbehind, ← List.drop_eq_getElem_cons hlt, hbefore, List.take_append_drop]
  have hesc : runOver 0 before ≠ 1 := by rwa [runOver_eq_length]
  obtain ⟨front, hfront, hchars⟩ := matched_append 0 before ('{' :: behind)
  have hlen : front.length = place := by
    rw [← length_chars, hchars, hbefore, List.length_take, Nat.min_eq_left hlt.le]
  refine ⟨⟨'{', (matched 0 behind).2.head?⟩, (matched 0 behind).1, ?_, rfl, ?_⟩
  · rw [ofText, hsource, hfront, matched_open_eq hesc, ← hlen, List.drop_left]
  · rw [plainScan, readBody_eq Nat.one_pos (aligned_zero behind), Nat.sub_self,
      ← List.head?_eq_getElem?]
    rcases (matched 0 behind).2.head? with _ | n
    · rfl
    · simp only [Scan.reference, Option.map_some, chars_take, chars_matched]

theorem unit_eq_plainScan_nested :
    let source := "\x7d&&\x7b a\x7bb\x7d&\x7d&&\x7d\x7b".toList
    source[3]? = some '{' ∧ escapesBefore source 3 ≠ 1 ∧ ∃ m rest,
      (Mark.ofText source).drop 3 = m :: rest ∧
      Scan.unit m rest = ⟨10, .token (.reference "a\x7bb\x7d\x7d&".toList)⟩ := by
  intro source
  have hopen : source[3]? = some '{' := by decide
  have hrun : escapesBefore source 3 ≠ 1 := by decide
  obtain ⟨m, rest, hplace, hunit, hscan⟩ := unit_eq_plainScan hopen hrun
  refine ⟨hopen, hrun, m, rest, hplace, ?_⟩
  rw [hunit, hscan]
  decide

end StyledMarkup
