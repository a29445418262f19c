import Mathlib.Algebra.Group.Nat.Defs
import StyledMarkup.Proofs.Command.Agreement
import StyledMarkup.Proofs.Style.Hex
import StyledMarkup.Proofs.Template.WrittenCall
import StyledMarkup.Proofs.Text.Count

/-!
# Repeated texts

A text is repeated as often as a decimal number tells, up to the limit, as long as the number is a
count. Beyond the greatest count it is none, and so much is nothing at all, where one less gives
the text as often as the limit allows (`repeated_decimal`).

A call in markup gives the same wherever it stands. The nodes in front of it and behind it are
compiled as they are without it (`foldr_push_append`), so a flat render has the text between those
of the two sides, and a styled render has a segment of the text alone.
-/

namespace StyledMarkup

variable {σ : Type}

/-! ## Numbers as arguments -/

namespace Text

/-- The number in decimal, with zeros in front. -/
def decimal (zeros n : Nat) : Text :=
  List.replicate zeros '0' ++ ofNat n

theorem readRadix?_decimal (zeros n : Nat) : readRadix? 10 (decimal zeros n) = some n := by
  rw [decimal, readRadix?_zeros (ofNat_ne_nil n), readRadix?_ofNat]

theorem readCount?_trim {t : Text} {n : Nat} (h : readRadix? 10 t = some n) :
    readCount? t.trim = if n < countLimit then some n else none := by
  have hdigit := isHexDigit_of_readRadix? h
  have hblank : ∀ c ∈ t, isBlank c = false := by
    intro c hc
    refine Bool.eq_false_iff.2 fun hb => ?_
    have hnone := isHexDigit_of_isBlank hb
    rw [hdigit c hc] at hnone
    cases hnone
  have htrim : t.trim = t := trim_eq_self (fun c hc => hblank c (List.mem_of_mem_head? hc))
    fun c hc => hblank c (List.mem_of_mem_getLast? hc)
  have hsign : after? ['+'] t = none := by
    refine if_neg fun hp => ?_
    obtain ⟨rest, rfl⟩ := List.isPrefixOf_iff_prefix.1 hp
    exact absurd (hdigit '+' (by simp)) (by decide)
  simp [readCount?, htrim, hsign, h]

end Text

theorem Standard.repeated_decimal (text : Text) (zeros n : Nat) :
    repeated [text, Text.decimal zeros n] =
      if n < Text.countLimit then (List.replicate (min n repeatLimit) text).flatten else [] := by
  have hcount := Text.readCount?_trim (Text.readRadix?_decimal zeros n)
  simp only [repeated, List.getElem?_cons_succ, List.getElem?_cons_zero, Option.bind_some, hcount,
    List.head?_cons, Option.getD_some]
  split
  · rfl
  · rfl

/-! ## Calls among other nodes -/

theorem Node.push_append {node : Node} (h : node.isText = false) (first : Node)
    (front rest : List Node) :
    push first (front ++ node :: rest) = push first front ++ node :: rest := by
  cases first with
  | text content =>
    rcases content with _ | ⟨c, content⟩
    · rfl
    · rcases front with _ | ⟨second, front⟩
      · cases node with
        | text next => cases h
        | _ => rfl
      · cases second <;> rfl
  | _ => rfl

theorem Node.foldr_push_append {node : Node} (h : node.isText = false) (rest : List Node) :
    ∀ front : List Node,
      front.foldr push (node :: rest) = front.foldr push [] ++ node :: rest
  | [] => rfl
  | first :: front => by
    rw [List.foldr_cons, foldr_push_append h rest front, push_append h, List.foldr_cons]

namespace Standard

/-- The text of a flat render with values and the standard functions. -/
def flatText (values : Table Text) (tokens : List Token) (context : Context σ) : Text :=
  ((FlatBody.ofTokens tokens).render (Variables.standard.setAll values.entries).bindings context).1

/-- The segments of a styled render with the standard functions. -/
def segments (vars : VariableLookup σ) (tokens : List Token) (context : Context σ) :
    List Segment :=
  ((StyledBody.ofTokens tokens).render vars StyledFunctions.standard.lookup context).1

/-- The call that repeats a text. -/
def repeatCall (text count : Text) : Call :=
  ⟨"repeat".toList, [text, count]⟩

variable {token : Token} {text count : Text}

theorem flatText_repeat (h : token.node = .call (repeatCall text count)) (values : Table Text)
    (before after : List Token) (context : Context σ) :
    flatText values (before ++ token :: after) context =
      flatText values before context ++ repeated [text, count] ++
        flatText values after context := by
  have htext : (Command.answersOf values).textOf token.node = repeated [text, count] := by
    rw [h]
    rfl
  unfold flatText
  rw [Command.bindings_setAll]
  simp only [Answers.fst_render_ofTokens, List.map_append, List.map_cons, List.flatMap_append,
    List.flatMap_cons, htext, List.append_assoc]

theorem segments_repeat (h : token.node = .call (repeatCall text count)) (vars : VariableLookup σ)
    (before after : List Token) (context : Context σ) : ∃ running others,
      segments vars (before ++ token :: after) context = segments vars before context ++
        { text := repeated [text, count], style := running } :: others := by
  have hnodes : StyledBody.nodesOf (before ++ token :: after) = StyledBody.nodesOf before ++
      token.node :: StyledBody.nodesOf after := by
    have htext : token.node.isText = false := by rw [h]; rfl
    have hpush : Node.push token.node (StyledBody.nodesOf after) =
        token.node :: StyledBody.nodesOf after := by rw [h]; rfl
    simp only [StyledBody.nodesOf, List.map_append, List.foldr_append, List.map_cons,
      List.foldr_cons] at hpush ⊢
    rw [hpush, Node.foldr_push_append htext]
  have hfill : ∀ running, (Slot.call (repeatCall text count) running).fill vars
      (StyledFunctions.standard (σ := σ)).lookup =
        pure { text := repeated [text, count], style := running } := by
    intro running
    have hname : (repeatCall text count).name ∉ segmentFunctions.map Prod.fst := by
      show "repeat".toList ∉ segmentFunctions.map Prod.fst
      decide
    rw [Slot.fill, Command.standard_lookup .empty hname]
    rfl
  unfold segments
  simp only [StyledBody.render_eq_renderNodes, StyledBody.renderNodes_eq_mapM_fill, hnodes, h,
    Slot.ofNodes_append, Slot.ofNodes, List.mapM_append, List.mapM_cons, hfill, pure_bind]
  exact ⟨_, _, rfl⟩

/-- The text is repeated as often as the number tells, and 256 times at most, if the number fits
into 64 bits; a greater number repeats nothing, so for a text that is not empty the limit is then
missed. Each such call can be written in markup, and wherever a call with these arguments stands
in a template, both renders have just this text there. -/
theorem repeated_in_word (text : Text) (zeros n : Nat) :
    (repeated [text, Text.decimal zeros n] = (List.replicate (min n 256) text).flatten ↔
      n < 2 ^ 64 ∨ text = []) ∧
    (2 ^ 64 ≤ n → repeated [text, Text.decimal zeros n] = []) ∧
    (∃ source token, tokenize source = [token] ∧
      token.node = .call (repeatCall text (Text.decimal zeros n))) ∧
    ∀ token : Token, token.node = .call (repeatCall text (Text.decimal zeros n)) →
      ∀ (before after : List Token) (context : Context σ),
        (∀ values, flatText values (before ++ token :: after) context =
          flatText values before context ++ repeated [text, Text.decimal zeros n] ++
            flatText values after context) ∧
        ∀ vars, ∃ running others, segments vars (before ++ token :: after) context =
          segments vars before context ++
            { text := repeated [text, Text.decimal zeros n], style := running } :: others := by
  have hlimit : Text.countLimit = 2 ^ 64 := rfl
  have hlaw := repeated_decimal text zeros n
  rw [hlimit, show repeatLimit = 256 from rfl] at hlaw
  refine ⟨?_, fun hn => ?_, ?_, fun token hnode before after context =>
    ⟨fun values => flatText_repeat hnode values before after context,
      fun vars => segments_repeat hnode vars before after context⟩⟩
  · rw [hlaw]
    split_ifs with hn
    · exact iff_of_true rfl (.inl hn)
    · have hmin : min n 256 = 256 := by omega
      rw [hmin, eq_comm, List.flatten_eq_nil_iff, List.forall_mem_replicate]
      exact or_congr_left ⟨fun h => absurd h (by decide), fun h => absurd h hn⟩
  · rw [hlaw, if_neg (Nat.not_lt.2 hn)]
  · have hplain : Call.HasPlainName ⟨"repeat".toList, []⟩ := by decide
    have hname : (repeatCall text (Text.decimal zeros n)).HasPlainName := hplain
    refine ⟨_, _, Call.tokenize_toSource hname, ?_⟩
    rw [Token.node_reference, Call.parse_quoted hname]

theorem repeated_in_word_edge :
    let greatest := "018446744073709551615".toList
    let next := "18446744073709551616".toList
    let token : Token := .reference "repeat(\"ab\", 18446744073709551616)".toList
    repeated ["ab".toList, greatest] = (List.replicate 256 "ab".toList).flatten ∧
      2 ^ 64 ≤ 18446744073709551616 ∧
      repeated ["ab".toList, next] = [] ∧
      token.node = .call (repeatCall "ab".toList next) ∧
      flatText .empty ([.text ['<']] ++ token :: [.text ['>']]) (Context.fresh ()) =
        ['<', '>'] := by
  intro greatest next token
  have hgreatest : Text.decimal 1 18446744073709551615 = greatest := by decide +kernel
  have hnext : Text.decimal 0 18446744073709551616 = next := by decide +kernel
  have hnode : token.node =
      .call (repeatCall "ab".toList (Text.decimal 0 18446744073709551616)) := by
    rw [hnext]
    decide +kernel
  have hlaw := repeated_in_word (σ := Unit) "ab".toList 1 18446744073709551615
  obtain ⟨-, hnothing, -, hmarkup⟩ :=
    repeated_in_word (σ := Unit) "ab".toList 0 18446744073709551616
  rw [hgreatest] at hlaw
  have hflat := (hmarkup token hnode [.text ['<']] [.text ['>']] (Context.fresh ())).1 .empty
  rw [hnothing (by decide)] at hflat
  rw [hnext] at hnothing hnode
  exact ⟨hlaw.1.2 (.inl (by decide)), by decide, hnothing (by decide), hnode, hflat⟩

/-- The next number after the greatest count repeats nothing, instead of as much as the limit
allows. -/
theorem repeated_misses_limit :
    repeated ["ab".toList, Text.ofNat (2 ^ 64)] = [] ∧
      (List.replicate (min (2 ^ 64) 256) "ab".toList).flatten ≠ [] := by
  decide +kernel

end Standard
end StyledMarkup
