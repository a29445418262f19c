import StyledMarkup.Proofs.Markup.Rows

/-!
# Handing out tokens

At any time a reader has tokens still to hand out: the one that waits, and those of the text it is
in the middle of and of what it has not read (`outstanding`); and it has units still to scan, in
the row of the markup it is in and in the rows of the pieces after it (`InStep`). A call of `next`
hands out the first of those tokens and scans the first of those units, and leaves the others
(`nextNoted_spec`). So the calls on a source hand out its tokens in order, and nothing ever after.
-/

namespace StyledMarkup

open Mark

/-! ## Characters before tokens -/

theorem foldr_push_chars {t : Text} (ht : t ≠ []) {tokens : List Token}
    (h : ∀ token, tokens.head? = some token → token.isText = false) :
    (t.map Lexeme.char).foldr Lexeme.push tokens = .text t :: tokens := by
  induction t with
  | nil => exact absurd rfl ht
  | cons c t ih =>
    rw [List.map_cons, List.foldr_cons]
    rcases t with _ | ⟨d, t⟩
    · rcases tokens with _ | ⟨token, tokens⟩
      · rfl
      · have htoken := h token rfl
        cases token <;> first | rfl | cases htoken
    · rw [ih (List.cons_ne_nil _ _)]
      rfl

theorem Scan.isText_of_unit {m : Mark} {rest : List Mark} {token : Token}
    (h : (unit m rest).lexeme = .token token) : token.isText = false := by
  unfold unit at h
  split at h
  · unfold reference at h
    split at h <;> cases h
    rfl
  split at h
  · rcases rest with _ | ⟨next, rest⟩
    · cases h
    simp only [escaped] at h
    split at h
    · cases h
    split at h <;> cases h
    rfl
  split at h
  · simp only [color] at h
    split at h
    · cases h
    split at h <;> cases h <;> rfl
  · cases h

namespace Tokenizer

/-- The lexemes that a reader has still to read. -/
def remaining (r : Tokenizer) : List Lexeme :=
  lexemesOfMarkup r.left r.rest ++ lexemes r.pieces (r.rest.drop r.left)

/-- The tokens that a reader has still to hand out. -/
def outstanding (r : Tokenizer) : List Token :=
  r.queued.toList ++ (r.pending.reverse.map Lexeme.char ++ r.remaining).foldr Lexeme.push []

def after (r : Tokenizer) : Nat → Tokenizer
  | 0 => r
  | n + 1 => (after r n).next.2

theorem outstanding_ofText (source : Text) : (ofText source).outstanding = tokenize source := by
  have h : lexemesOfMarkup 0 (Mark.ofText source) = [] := by rw [lexemesOfMarkup]
  simp [outstanding, remaining, ofText, tokenize, h]

theorem remaining_scan {r : Tokenizer} {left : Nat} {m : Mark} {rest : List Mark}
    (hl : r.left = left + 1) (hr : r.rest = m :: rest) (h : (Scan.unit m rest).extra ≤ left) :
    r.remaining = (Scan.unit m rest).lexeme :: remaining { r with
      rest := rest.drop (Scan.unit m rest).extra,
      left := left - (Scan.unit m rest).extra } := by
  rw [remaining, hl, hr, lexemesOfMarkup, List.drop_succ_cons, remaining, List.drop_drop,
    Nat.add_sub_cancel' h]
  rfl

/-- Whether a reader has no unit to scan before it turns to its next piece. -/
def IsIdle (r : Tokenizer) : Prop :=
  ∀ left m rest, r.left = left + 1 → r.rest = m :: rest → False

theorem remaining_of_idle {r : Tokenizer} (h : r.IsIdle) :
    r.remaining = lexemes r.pieces r.rest := by
  rcases hl : r.left with _ | left
  · rw [remaining, hl, lexemesOfMarkup]
    rfl
  · rcases hr : r.rest with _ | ⟨m, rest⟩
    · rw [remaining, hl, hr, lexemesOfMarkup]
      · rfl
      · simp
    · exact (h left m rest hl hr).elim

/-! ## Noting what is scanned -/

/-- Reads on as `advance` does in a source of `total` characters, and notes the units that are
scanned on the way. -/
def advanceNoted (total : Nat) (r : Tokenizer) : List Visit × Option Token × Tokenizer :=
  match hl : r.left, r.rest with
  | left + 1, m :: rest =>
    let scan := Scan.unit m rest
    let place := total - (m :: rest).length
    let visit : Visit := ⟨place, place + 1 + scan.extra⟩
    let r' := { r with rest := rest.drop scan.extra, left := left - scan.extra }
    match scan.lexeme with
    | .char c =>
      let (visits, result) := advanceNoted total { r' with pending := c :: r'.pending }
      (visit :: visits, result)
    | .token t => ([visit], r'.emit t)
  | _, rest =>
    match _hp : r.pieces with
    | .markup n :: pieces => advanceNoted total { r with left := n, pieces }
    | .link n :: pieces =>
      ([], { r with rest := rest.drop n, left := 0, pieces }.emit
        (.link (Mark.chars (rest.take n))))
    | [] =>
      match r.pending with
      | [] => ([], none, r)
      | pending => ([], some (.text pending.reverse), { r with left := 0, pending := [] })
termination_by (r.pieces.length, r.left)
decreasing_by
  · simp only [hl]
    exact Prod.Lex.right _ (by omega)
  · simp only [_hp, List.length_cons]
    exact Prod.Lex.left _ _ (by omega)

/-- The next token as `next` hands it out, with the units that are scanned for it. -/
def nextNoted (total : Nat) (r : Tokenizer) : List Visit × Option Token × Tokenizer :=
  match r.queued with
  | some token => ([], some token, { r with queued := none })
  | none => r.advanceNoted total

/-- The units that `n` calls scan, in order. -/
def visits (total : Nat) (r : Tokenizer) : Nat → List Visit
  | 0 => []
  | n + 1 => visits total r n ++ ((r.after n).nextNoted total).1

theorem advance_scan {r : Tokenizer} {left : Nat} {m : Mark} {rest : List Mark}
    (hl : r.left = left + 1) (hr : r.rest = m :: rest) :
    r.advance = match (Scan.unit m rest).lexeme with
      | .char c => advance { r with
          rest := rest.drop (Scan.unit m rest).extra, left := left - (Scan.unit m rest).extra,
          pending := c :: r.pending }
      | .token token => emit { r with
          rest := rest.drop (Scan.unit m rest).extra,
          left := left - (Scan.unit m rest).extra } token := by
  rw [advance]
  split
  · rename_i hl' hr'
    obtain rfl : left = _ := Nat.succ.inj (hl.symm.trans hl')
    obtain ⟨rfl, rfl⟩ := List.cons.inj (hr.symm.trans hr')
    split <;> rename_i h <;> simp only [h]
  · rename_i h
    exact (h left m rest hl hr).elim

theorem advance_idle {r : Tokenizer} (h : r.IsIdle) :
    r.advance = match r.pieces with
      | .markup n :: pieces => advance { r with left := n, pieces }
      | .link n :: pieces =>
        { r with rest := r.rest.drop n, left := 0, pieces }.emit
          (.link (Mark.chars (r.rest.take n)))
      | [] =>
        match r.pending with
        | [] => (none, r)
        | pending => (some (.text pending.reverse), { r with left := 0, pending := [] }) := by
  rw [advance]
  split
  · rename_i hl hr
    exact (h _ _ _ hl hr).elim
  · rcases hp : r.pieces with _ | ⟨_ | _, pieces⟩
    · rfl
    · rfl
    · rfl

theorem advanceNoted_snd (total : Nat) (r : Tokenizer) : (r.advanceNoted total).2 = r.advance := by
  fun_induction advanceNoted total r with
  | case1 r left m rest hl hr scan place visit r' c hc visits result heq ih =>
    have hlexeme : (Scan.unit m rest).lexeme = .char c := hc
    rw [heq] at ih
    rw [advance_scan hl hr, hlexeme]
    exact ih
  | case2 r left m rest hl hr scan place visit r' token ht =>
    have hlexeme : (Scan.unit m rest).lexeme = .token token := ht
    rw [advance_scan hl hr, hlexeme]
  | case3 r n pieces hp h ih => rw [advance_idle h, hp, ih]
  | case4 r n pieces hp h => rw [advance_idle h, hp]
  | case5 r hp hpending h => rw [advance_idle h, hp, hpending]
  | case6 r hp h hpending =>
    rw [advance_idle h, hp]
    rcases hc : r.pending with _ | ⟨c, pending⟩
    · exact (hpending hc).elim
    · rfl

/-! ## Reading in step -/

/-- Whether a reader of the marks has the units of `row` before it in the markup that it is in, and
those of `rows` in the pieces after it. -/
def InStep (marks : List Mark) (r : Tokenizer) (row : List Visit) (rows : List (List Visit)) :
    Prop :=
  ∃ start, r.rest = marks.drop start ∧ IsRow marks start (start + r.left) row ∧
    AreRows marks (start + r.left) r.pieces rows

/-- A reader in step scans the first unit of its row, and then has the others before it. -/
theorem InStep.scan {marks : List Mark} {r : Tokenizer} {row : List Visit}
    {rows : List (List Visit)} (h : InStep marks r row rows) {left : Nat} {m : Mark}
    {rest : List Mark} (hl : r.left = left + 1) (hr : r.rest = m :: rest) :
    ∃ row', row = ⟨marks.length - (m :: rest).length,
        marks.length - (m :: rest).length + 1 + (Scan.unit m rest).extra⟩ :: row' ∧
      (Scan.unit m rest).extra ≤ left ∧
      InStep marks { r with
        rest := rest.drop (Scan.unit m rest).extra,
        left := left - (Scan.unit m rest).extra } row' rows := by
  obtain ⟨start, hrest, hrow, hrows⟩ := h
  rw [hl] at hrow hrows
  rcases row with _ | ⟨visit, row⟩
  · simp only [IsRow] at hrow
    omega
  obtain ⟨⟨m', rest', hm, hstop⟩, rfl, -, hle, hrow⟩ := hrow
  rw [hr] at hrest
  obtain ⟨rfl, rfl⟩ := List.cons.inj (hrest.trans hm)
  have hlen : (marks.drop visit.start).length = (m :: rest).length := by rw [hm]
  rw [List.length_drop, List.length_cons] at hlen
  have hplace : marks.length - (m :: rest).length = visit.start := by
    rw [List.length_cons]
    omega
  have hend : visit.stop + (left - (Scan.unit m rest).extra) = visit.start + (left + 1) := by
    omega
  refine ⟨row, ?_, by omega, visit.stop, ?_, ?_, ?_⟩
  · rw [hplace, ← hstop]
  · rw [hstop, ← List.drop_drop, ← List.drop_drop, hm, List.drop_succ_cons, List.drop_zero]
  · rw [hend]
    exact hrow
  · rw [hend]
    exact hrows

/-- A reader in step turns to its next piece only when its row is at its end. -/
theorem InStep.idle {marks : List Mark} {r : Tokenizer} {row : List Visit}
    {rows : List (List Visit)} (h : InStep marks r row rows) (hi : r.IsIdle) :
    row = [] ∧ ∃ start, r.rest = marks.drop start ∧ AreRows marks start r.pieces rows := by
  obtain ⟨start, hrest, hrow, hrows⟩ := h
  rcases row with _ | ⟨visit, row⟩
  · refine ⟨rfl, start, hrest, ?_⟩
    have hend : start = start + r.left := hrow
    rw [← hend] at hrows
    exact hrows
  · exfalso
    obtain ⟨⟨m, rest, hm, hstop⟩, rfl, hlt, hle, -⟩ := hrow
    rcases hl : r.left with _ | left
    · omega
    · exact hi left m rest hl (hrest.trans hm)

theorem emit_spec {r : Tokenizer} {token : Token} (hq : r.queued = none)
    (ht : token.isText = false) (tokens : List Token)
    (h : tokens = (r.pending.reverse.map Lexeme.char ++
      .token token :: r.remaining).foldr Lexeme.push []) :
    (r.emit token).1 = tokens.head? ∧ (r.emit token).2.outstanding = tokens.tail := by
  rw [List.foldr_append, List.foldr_cons, Lexeme.push] at h
  unfold emit
  split
  · rename_i hp
    rw [hp] at h
    refine ⟨by rw [h]; rfl, ?_⟩
    rw [h, outstanding, hq, hp]
    rfl
  · rename_i hp
    have hne : r.pending.reverse ≠ [] := fun hn => hp (List.reverse_eq_nil_iff.1 hn)
    rw [foldr_push_chars hne fun first hf => by cases hf; exact ht] at h
    exact ⟨by rw [h]; rfl, by rw [h]; rfl⟩

theorem emit_ne_none (r : Tokenizer) (token : Token) : (r.emit token).1 ≠ none := by
  unfold emit
  split <;> exact Option.some_ne_none _

theorem InStep.emit {marks : List Mark} {r : Tokenizer} {row : List Visit}
    {rows : List (List Visit)} (h : InStep marks r row rows) (token : Token) :
    InStep marks (r.emit token).2 row rows := by
  unfold Tokenizer.emit
  split
  · exact h
  · exact h

theorem advanceNoted_spec {marks : List Mark} {r : Tokenizer} {row : List Visit}
    {rows : List (List Visit)} (h : InStep marks r row rows) (hq : r.queued = none) :
    (r.advanceNoted marks.length).2.1 = r.outstanding.head? ∧
      (r.advanceNoted marks.length).2.2.outstanding = r.outstanding.tail ∧
      ∃ row' rows', InStep marks (r.advanceNoted marks.length).2.2 row' rows' ∧
        row ++ rows.flatten = (r.advanceNoted marks.length).1 ++ (row' ++ rows'.flatten) ∧
        ((r.advanceNoted marks.length).2.1 = none → row' ++ rows'.flatten = []) := by
  fun_induction advanceNoted marks.length r generalizing row rows with
  | case1 r left m rest hl hr scan place visit r' c hc visits result =>
    rename_i heq ih
    obtain ⟨row, rfl, hle, hstep⟩ := h.scan hl hr
    obtain ⟨hhead, htail, row', rows', hstep', hrows, hend⟩ := ih hstep hq
    rw [heq] at hhead htail hstep' hrows hend
    have hout : r.outstanding = outstanding { r' with pending := c :: r'.pending } := by
      rw [outstanding, outstanding, remaining_scan hl hr hle, hc, List.reverse_cons,
        List.map_append, List.append_assoc]
      rfl
    rw [hout]
    refine ⟨hhead, htail, row', rows', hstep', ?_, hend⟩
    rw [List.cons_append, hrows]
    rfl
  | case2 r left m rest hl hr scan place visit r' =>
    rename_i token ht
    obtain ⟨row, rfl, hle, hstep⟩ := h.scan hl hr
    have hout : r.outstanding = (r'.pending.reverse.map Lexeme.char ++
        .token token :: r'.remaining).foldr Lexeme.push [] := by
      rw [outstanding, remaining_scan hl hr hle, ht, hq]
      rfl
    obtain ⟨hhead, htail⟩ := emit_spec (r := r') hq (Scan.isText_of_unit ht) _ hout
    exact ⟨hhead, htail, row, rows, hstep.emit token, rfl, fun hn => absurd hn (emit_ne_none _ _)⟩
  | case3 r n pieces hp hi ih =>
    obtain ⟨rfl, start, hrest, hrows⟩ := h.idle hi
    rw [hp] at hrows
    rcases rows with _ | ⟨row, rows⟩
    · exact hrows.elim
    have hout : r.outstanding = outstanding { r with left := n, pieces } := by
      rw [outstanding, outstanding, remaining_of_idle hi, hp]
      rfl
    rw [hout]
    exact @ih row rows ⟨start, hrest, hrows⟩ hq
  | case4 r n pieces hp hi =>
    obtain ⟨rfl, start, hrest, hrows⟩ := h.idle hi
    rw [hp] at hrows
    have hstep : InStep marks { r with rest := r.rest.drop n, left := 0, pieces } [] rows :=
      ⟨start + n, by rw [hrest, List.drop_drop], rfl, hrows⟩
    have hout : r.outstanding = (r.pending.reverse.map Lexeme.char ++
        .token (.link (chars (r.rest.take n))) :: remaining
          { r with rest := r.rest.drop n, left := 0, pieces }).foldr Lexeme.push [] := by
      rw [outstanding, hq, remaining_of_idle hi, hp, remaining, lexemesOfMarkup]
      rfl
    obtain ⟨hhead, htail⟩ := emit_spec
      (r := { r with rest := r.rest.drop n, left := 0, pieces }) hq rfl _ hout
    exact ⟨hhead, htail, [], rows, hstep.emit _, rfl, fun hn => absurd hn (emit_ne_none _ _)⟩
  | case5 r hp hpending hi =>
    have hout : r.outstanding = [] := by
      rw [outstanding, hq, remaining_of_idle hi, hp, hpending]
      rfl
    obtain ⟨rfl, start, -, hrows⟩ := h.idle hi
    rw [hp] at hrows
    obtain rfl : rows = [] := hrows
    exact ⟨by rw [hout]; rfl, by rw [hout]; rfl, [], [], h, rfl, fun _ => rfl⟩
  | case6 r hp hi hpending =>
    obtain ⟨rfl, start, hrest, hrows⟩ := h.idle hi
    have hne : r.pending.reverse ≠ [] := fun hn => hpending (List.reverse_eq_nil_iff.1 hn)
    have hout : r.outstanding = [.text r.pending.reverse] := by
      rw [outstanding, hq, remaining_of_idle hi, hp, lexemes, List.append_nil,
        foldr_push_chars hne fun _ hf => by cases hf]
      rfl
    rw [hout]
    refine ⟨rfl, ?_, [], rows, ⟨start, hrest, rfl, hrows⟩, rfl, fun hn => ?_⟩
    · rw [outstanding, hq, remaining, lexemesOfMarkup, hp]
      rfl
    · exact absurd hn (Option.some_ne_none _)

theorem nextNoted_snd (total : Nat) (r : Tokenizer) : (r.nextNoted total).2 = r.next := by
  rcases hq : r.queued with _ | token
  · rw [nextNoted, next, hq]
    exact advanceNoted_snd total r
  · rw [nextNoted, next, hq]

/-- A call of `next` hands out the first token that is outstanding, and the units that it scans
are the first of those that are to come. -/
theorem nextNoted_spec {marks : List Mark} {r : Tokenizer} {row : List Visit}
    {rows : List (List Visit)} (h : InStep marks r row rows) :
    r.next.1 = r.outstanding.head? ∧ r.next.2.outstanding = r.outstanding.tail ∧
      ∃ row' rows', InStep marks r.next.2 row' rows' ∧
        row ++ rows.flatten = (r.nextNoted marks.length).1 ++ (row' ++ rows'.flatten) ∧
        (r.next.1 = none → row' ++ rows'.flatten = []) := by
  rw [← nextNoted_snd marks.length r]
  rcases hq : r.queued with _ | token
  · have hn : r.nextNoted marks.length = r.advanceNoted marks.length := by rw [nextNoted, hq]
    rw [hn]
    exact advanceNoted_spec h hq
  · have hn : r.nextNoted marks.length = ([], some token, { r with queued := none }) := by
      rw [nextNoted, hq]
    rw [hn]
    refine ⟨?_, ?_, row, rows, h, rfl, fun hn => absurd hn (Option.some_ne_none _)⟩
    · rw [outstanding, hq]
      rfl
    · rw [outstanding, outstanding, hq]
      rfl

/-- After `n` calls the first `n` tokens have been handed out and the units of those calls scanned,
and after a call that has handed out nothing no unit is left. -/
theorem after_spec {marks : List Mark} {r : Tokenizer} {row : List Visit}
    {rows : List (List Visit)} (h : InStep marks r row rows) (n : Nat) :
    (r.after n).outstanding = r.outstanding.drop n ∧
      ∃ row' rows', InStep marks (r.after n) row' rows' ∧
        row ++ rows.flatten = r.visits marks.length n ++ (row' ++ rows'.flatten) ∧
        (r.outstanding.length < n → row' ++ rows'.flatten = []) := by
  induction n with
  | zero => exact ⟨rfl, row, rows, h, rfl, fun hn => absurd hn (Nat.not_lt_zero _)⟩
  | succ n ih =>
    obtain ⟨hout, row₁, rows₁, hstep₁, hrows₁, -⟩ := ih
    obtain ⟨hhead, htail, row₂, rows₂, hstep₂, hrows₂, hend⟩ := nextNoted_spec hstep₁
    refine ⟨?_, row₂, rows₂, hstep₂, ?_, fun hn => hend ?_⟩
    · rw [after, htail, hout, List.tail_drop]
    · rw [visits, List.append_assoc, ← hrows₂, hrows₁]
    · rw [hhead, hout, List.drop_eq_nil_of_le (Nat.le_of_lt_succ hn)]
      rfl

theorem fst_next_after {marks : List Mark} {r : Tokenizer} {row : List Visit}
    {rows : List (List Visit)} (h : InStep marks r row rows) (n : Nat) :
    (r.after n).next.1 = r.outstanding[n]? := by
  obtain ⟨hout, row', rows', hstep, -, -⟩ := after_spec h n
  rw [(nextNoted_spec hstep).1, hout, List.head?_drop]

theorem inStep_ofText {source : Text} {rows : List (List Visit)}
    (h : AreRows (Mark.ofText source) 0 (Piece.cut (Mark.ofText source)) rows) :
    InStep (Mark.ofText source) (ofText source) [] rows :=
  ⟨0, rfl, rfl, h⟩

end Tokenizer
end StyledMarkup
