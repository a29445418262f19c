import StyledMarkup.Output.Terminal
import StyledMarkup.Proofs.Output.SectionReader
import StyledMarkup.Proofs.Text.Basic
import StyledMarkup.Proofs.Text.Count

/-!
# Reading terminal text

A terminal shows every character in the look that the sequences before it have left, and what a
sequence switches on stays on until a reset. So a segment is shown right only if the segments before
it have closed what they opened.

They do: the sequences of a style lead a terminal from its own look to the look of the style
(`leads_styleSequences`), the text is shown in that look, and the reset leads back
(`shows_styledText`). What is written for segments therefore shows their characters in their own
looks, and leaves the terminal as it was before each segment and at the end
(`terminal_faithful`).
-/

namespace StyledMarkup
namespace Output

/-- The character that starts a sequence. -/
def escapeSign : Char := '\x1b'

/-- How a terminal shows characters. -/
structure Look where
  /-- The entry of the palette, or none for the color of the terminal itself. -/
  foreground : Option Nat := none
  bold : Bool := false
  italic : Bool := false
  underlined : Bool := false
  blinking : Bool := false
  struckThrough : Bool := false
deriving DecidableEq, Inhabited

namespace Look

/-- The look of a style; obfuscated text blinks. -/
def ofStyle (style : Style) : Look where
  foreground := style.color.map fun color => color.paletteIndex.toNat
  bold := style.bold
  italic := style.italic
  underlined := style.underlined
  blinking := style.obfuscated
  struckThrough := style.strikethrough

/-- The look after the parameters of a sequence. A parameter that says nothing about the look is
passed over. -/
def apply (look : Look) : List Nat → Look
  | [] => look
  | 38 :: 5 :: entry :: rest => apply { look with foreground := some entry } rest
  | 0 :: rest => apply {} rest
  | 1 :: rest => apply { look with bold := true } rest
  | 3 :: rest => apply { look with italic := true } rest
  | 4 :: rest => apply { look with underlined := true } rest
  | 5 :: rest => apply { look with blinking := true } rest
  | 9 :: rest => apply { look with struckThrough := true } rest
  | _ :: rest => apply look rest

end Look

/-- The parameters of a sequence; one that is left out counts as zero. -/
def parametersOf (t : Text) : List Nat :=
  (Text.splitAt ';' t).map fun parameter => (Text.readRadix? 10 parameter).getD 0

/-- Whether the character ends a sequence. -/
def isFinal (c : Char) : Bool :=
  decide ('@' ≤ c) && decide (c ≤ '~')

/-- How far into a sequence a terminal has read. -/
inductive Screen.Progress where
  /-- Not at all. -/
  | text
  /-- The character that starts a sequence has been read. -/
  | escape
  /-- The bracket has been read too, and these characters after it. -/
  | parameters (characters : Text)
deriving DecidableEq, Inhabited

/-- A terminal that reads text. -/
structure Screen where
  look : Look := {}
  progress : Screen.Progress := .text
deriving DecidableEq, Inhabited

namespace Screen

/-- Whether the character shows: sequences do not. -/
def shows (screen : Screen) (c : Char) : Bool :=
  match screen.progress with
  | .text => c != escapeSign
  | _ => false

/-- The terminal after a character. Sequences that end in another letter than `m` do not change the
look. -/
def next (screen : Screen) (c : Char) : Screen :=
  match screen.progress with
  | .text => if c = escapeSign then { screen with progress := .escape } else screen
  | .escape =>
    if c = '[' then { screen with progress := .parameters [] }
    else { screen with progress := .text }
  | .parameters characters =>
    if c = 'm' then ⟨screen.look.apply (parametersOf characters), .text⟩
    else if isFinal c then { screen with progress := .text }
    else { screen with progress := .parameters (characters ++ [c]) }

/-- The terminal after a text. -/
def after (screen : Screen) (t : Text) : Screen :=
  t.foldl next screen

/-- The characters of a text that show, with their looks. -/
def read (screen : Screen) : Text → List (Char × Look)
  | [] => []
  | c :: rest =>
    (if screen.shows c then [(c, screen.look)] else []) ++ read (screen.next c) rest

theorem after_append (screen : Screen) (s t : Text) :
    screen.after (s ++ t) = (screen.after s).after t :=
  List.foldl_append

theorem read_append (screen : Screen) (s t : Text) :
    screen.read (s ++ t) = screen.read s ++ (screen.after s).read t := by
  induction s generalizing screen with
  | nil => rfl
  | cons c s ih =>
    rw [List.cons_append, read, ih, read, List.append_assoc]
    rfl

/-- Whether the text shows these characters to a terminal with the look `look` and leaves it with
the look `other`. -/
def Shows (t : Text) (look : Look) (chars : List (Char × Look)) (other : Look) : Prop :=
  read ⟨look, .text⟩ t = chars ∧ after ⟨look, .text⟩ t = ⟨other, .text⟩

/-- Whether the text shows nothing and leads from the one look to the other. -/
abbrev Leads (t : Text) (look other : Look) : Prop :=
  Shows t look [] other

theorem Leads.nil (look : Look) : Leads [] look look :=
  ⟨rfl, rfl⟩

theorem Shows.append {s t : Text} {first second third : Look} {chars more : List (Char × Look)}
    (hs : Shows s first chars second) (ht : Shows t second more third) :
    Shows (s ++ t) first (chars ++ more) third := by
  refine ⟨?_, ?_⟩
  · rw [read_append, hs.1, hs.2, ht.1]
  · rw [after_append, hs.2, ht.2]

theorem shows_text (look : Look) {t : Text} (h : escapeSign ∉ t) :
    Shows t look (t.map fun c => (c, look)) look := by
  induction t with
  | nil => exact Leads.nil look
  | cons c t ih =>
    rw [List.mem_cons, not_or] at h
    have hc : c ≠ escapeSign := Ne.symm h.1
    have hone : Shows [c] look [(c, look)] look := by
      simp [Shows, read, after, shows, next, hc]
    exact hone.append (ih h.2)

/-! ## Sequences -/

theorem shows_parameters (look : Look) (before : Text) {characters : Text}
    (h : characters.any isFinal = false) :
    read ⟨look, .parameters before⟩ (characters ++ ['m']) = [] ∧
      after ⟨look, .parameters before⟩ (characters ++ ['m']) =
        ⟨look.apply (parametersOf (before ++ characters)), .text⟩ := by
  induction characters generalizing before with
  | nil =>
    rw [List.append_nil]
    exact ⟨rfl, rfl⟩
  | cons c characters ih =>
    obtain ⟨hc, hrest⟩ := Bool.or_eq_false_iff.1 h
    have hm : c ≠ 'm' := by
      rintro rfl
      revert hc
      decide
    have hnext : next ⟨look, .parameters before⟩ c = ⟨look, .parameters (before ++ [c])⟩ := by
      simp [next, hm, hc]
    have hbehind := ih (before ++ [c]) hrest
    rw [List.append_assoc, List.singleton_append] at hbehind
    rw [List.cons_append, read, hnext, hbehind.1]
    refine ⟨rfl, ?_⟩
    rw [after, List.foldl_cons, hnext]
    exact hbehind.2

theorem leads_sequence (look : Look) {parameters : Text} (h : parameters.any isFinal = false) :
    Leads (escapeSequence parameters) look (look.apply (parametersOf parameters)) :=
  shows_parameters look [] h

theorem parametersOf_color (entry : Nat) :
    parametersOf ("38;5;".toList ++ Text.ofNat entry) = [38, 5, entry] := by
  have hdigits : ';' ∉ Text.ofNat entry := by
    intro hm
    have hdigit := Nat.isDigit_of_mem_toDigits (by decide) (by decide) hm
    revert hdigit
    decide
  have hfirst := Text.splitAt_append (show ';' ∉ ['3', '8'] by decide)
    ('5' :: ';' :: Text.ofNat entry)
  have hsecond := Text.splitAt_append (show ';' ∉ ['5'] by decide) (Text.ofNat entry)
  rw [Text.splitAt_of_notMem hdigits] at hsecond
  have hsplit : Text.splitAt ';' ("38;5;".toList ++ Text.ofNat entry) =
      [['3', '8'], ['5'], Text.ofNat entry] := by
    rw [← hsecond]
    exact hfirst
  rw [parametersOf, hsplit, List.map_cons, List.map_cons, List.map_singleton,
    Text.readRadix?_ofNat]
  rfl

theorem leads_color (look : Look) (entry : Nat) :
    Leads (escapeSequence ("38;5;".toList ++ Text.ofNat entry)) look
      { look with foreground := some entry } := by
  have hfinal : ("38;5;".toList ++ Text.ofNat entry).any isFinal = false := by
    rw [List.any_append, show "38;5;".toList.any isFinal = false from rfl, Bool.false_or,
      List.any_eq_false]
    intro c hc
    have hdigit := Nat.isDigit_of_mem_toDigits (by decide) (by decide) hc
    simp only [Char.isDigit, Bool.and_eq_true, decide_eq_true_eq] at hdigit
    have hbelow : c < '@' := by
      have hle := UInt32.le_iff_toNat_le.1 hdigit.2
      exact UInt32.lt_iff_toNat_lt.2 (Nat.lt_of_le_of_lt hle (by decide))
    simp only [isFinal, Bool.and_eq_true, decide_eq_true_eq, not_and]
    exact fun hge => absurd hge (Char.not_le.2 hbelow)
  have hlead := leads_sequence look hfinal
  rw [parametersOf_color] at hlead
  exact hlead

theorem leads_format {entry : Format × Text} (h : entry ∈ formatParameters) (style : Style) :
    Leads (escapeSequence entry.2) (.ofStyle style) (.ofStyle (style.set entry.1 true)) := by
  simp only [formatParameters, List.mem_cons, List.not_mem_nil, or_false] at h
  rcases h with rfl | rfl | rfl | rfl | rfl <;> exact leads_sequence (.ofStyle style) rfl

theorem leads_formats {entries : List (Format × Text)} (h : ∀ entry ∈ entries,
    entry ∈ formatParameters) (style : Style) :
    Leads (entries.flatMap fun entry => escapeSequence entry.2) (.ofStyle style)
      (.ofStyle (style.switchOn (entries.map Prod.fst))) := by
  induction entries generalizing style with
  | nil => exact Leads.nil _
  | cons entry entries ih =>
    obtain ⟨hentry, hentries⟩ := List.forall_mem_cons.1 h
    exact (leads_format hentry style).append (ih hentries _)

end Screen

/-! ## Segments -/

/-- The color of a style, and its formats in the order in which they are written, are all of
it. -/
theorem switchOn_formatParameters (style : Style) :
    Style.switchOn { color := style.color }
      ((formatParameters.filter fun entry => style.has entry.1).map Prod.fst) = style := by
  refine Style.ext_has (Style.color_switchOn _ _) fun format => ?_
  have hall : ∀ format, ∃ parameter, (format, parameter) ∈ formatParameters := by
    intro format
    cases format <;> simp [formatParameters]
  have hnone : Style.has { color := style.color } format = false := by
    cases format <;> rfl
  rw [Bool.eq_iff_iff, Style.has_switchOn, hnone]
  constructor
  · rintro (hm | hn)
    · obtain ⟨entry, hentry, rfl⟩ := List.mem_map.1 hm
      exact (List.mem_filter.1 hentry).2
    · cases hn
  · intro hhas
    obtain ⟨parameter, hm⟩ := hall format
    exact .inl (List.mem_map.2 ⟨(format, parameter), List.mem_filter.2 ⟨hm, hhas⟩, rfl⟩)

/-- The sequences of a style lead a terminal from its own look to that of the style. -/
theorem leads_styleSequences (style : Style) :
    Screen.Leads (styleSequences style) {} (.ofStyle style) := by
  have hmem : ∀ entry ∈ formatParameters.filter fun entry => style.has entry.1,
      entry ∈ formatParameters := fun entry he => (List.mem_filter.1 he).1
  have hformats := Screen.leads_formats hmem { color := style.color }
  rw [switchOn_formatParameters] at hformats
  unfold styleSequences
  cases hcolor : style.color with
  | none =>
    rw [hcolor] at hformats
    exact (Screen.Leads.nil {}).append hformats
  | some color =>
    rw [hcolor] at hformats
    exact (Screen.leads_color {} color.paletteIndex.toNat).append hformats

theorem shows_styledText (style : Style) {t : Text} (h : escapeSign ∉ t) :
    Screen.Shows (styledText style t) {} (t.map fun c => (c, Look.ofStyle style)) {} := by
  unfold styledText
  cases hp : style.isPlain with
  | true =>
    rw [beq_iff_eq.1 hp]
    exact Screen.shows_text {} h
  | false =>
    have hreset : Screen.Leads (escapeSequence ['0']) (.ofStyle style) {} :=
      Screen.leads_sequence (.ofStyle style) rfl
    have hwhole := ((leads_styleSequences style).append
      (Screen.shows_text (.ofStyle style) h)).append hreset
    rw [List.nil_append, List.append_nil] at hwhole
    exact hwhole

theorem terminal_append (isEnabled : Bool) (segments more : List Segment) :
    terminal isEnabled (segments ++ more) =
      terminal isEnabled segments ++ terminal isEnabled more := by
  rw [terminal, List.filter_append, List.flatMap_append]
  rfl

theorem terminal_singleton (isEnabled : Bool) (segment : Segment) :
    terminal isEnabled [segment] = if segment.text.isEmpty then []
      else if isEnabled then styledText segment.style segment.text else segment.text := by
  unfold terminal
  cases hempty : segment.text.isEmpty <;> simp [hempty]

theorem terminal_false (segments : List Segment) : terminal false segments = plain segments := by
  induction segments with
  | nil => rfl
  | cons segment segments ih =>
    rw [← List.singleton_append, terminal_append, terminal_singleton, ih]
    cases htext : segment.text <;> simp [plain, htext]

/-- The characters of segments with the looks of their styles. -/
def shownChars (segments : List Segment) : List (Char × Look) :=
  (styledChars segments).map fun entry => (entry.1, Look.ofStyle entry.2)

theorem shownChars_cons (segment : Segment) (segments : List Segment) :
    shownChars (segment :: segments) =
      (segment.text.map fun c => (c, Look.ofStyle segment.style)) ++ shownChars segments := by
  rw [shownChars, styledChars_cons, List.map_append, List.map_map]
  rfl

theorem map_fst_shownChars (segments : List Segment) :
    (shownChars segments).map Prod.fst = plain segments := by
  induction segments with
  | nil => rfl
  | cons segment segments ih =>
    rw [shownChars_cons, List.map_append, ih, List.map_map]
    exact congrArg (· ++ plain segments) (List.map_id segment.text)

theorem shows_terminal {segments : List Segment}
    (h : ∀ segment ∈ segments, escapeSign ∉ segment.text) :
    Screen.Shows (terminal true segments) {} (shownChars segments) {} := by
  induction segments with
  | nil => exact Screen.Leads.nil {}
  | cons segment segments ih =>
    obtain ⟨hsegment, hsegments⟩ := List.forall_mem_cons.1 h
    have hfirst : Screen.Shows (terminal true [segment]) {}
        (segment.text.map fun c => (c, Look.ofStyle segment.style)) {} := by
      rw [terminal_singleton]
      cases htext : segment.text with
      | nil => exact Screen.Leads.nil {}
      | cons c t =>
        rw [← htext]
        simpa [htext] using shows_styledText segment.style hsegment
    rw [← List.singleton_append, terminal_append, List.singleton_append, shownChars_cons]
    exact hfirst.append (ih hsegments)

/-- A terminal shows the characters of segments without escape characters in order, each in the
look of its own segment, and it has its own look before each segment and at the end. Without
sequences nothing is written but the plain text. -/
theorem terminal_faithful (detected : Bool) :
    (∀ segments : List Segment, (∀ segment ∈ segments, escapeSign ∉ segment.text) →
      let written := terminal (ColorChoice.always.isEnabled detected)
      Screen.read {} (written segments) = shownChars segments ∧
      (shownChars segments).map Prod.fst = plain segments ∧
      ∀ before after, segments = before ++ after →
        written segments = written before ++ written after ∧
        Screen.after {} (written before) = {}) ∧
    ∀ segments : List Segment,
      terminal (ColorChoice.never.isEnabled detected) segments = plain segments := by
  refine ⟨?_, terminal_false⟩
  intro segments h written
  refine ⟨(shows_terminal h).1, map_fst_shownChars segments, ?_⟩
  rintro before after rfl
  have hbefore : ∀ segment ∈ before, escapeSign ∉ segment.text :=
    fun segment hs => h segment (List.mem_append_left _ hs)
  exact ⟨terminal_append true before after, (shows_terminal hbefore).2⟩

theorem terminal_faithful_bold_red :
    let red : Style := { color := some (.named .red), bold := true, obfuscated := true }
    let segments : List Segment := [⟨"ab".toList, red, none, none, none⟩,
      ⟨[], { italic := true }, none, none, none⟩, ⟨"c".toList, .plain, none, none, none⟩,
      ⟨"d".toList, { color := some (.rgb ⟨0xff, 0, 0⟩) }, none, none, none⟩]
    (∀ segment ∈ segments, escapeSign ∉ segment.text) ∧
      terminal true segments =
        "\x1b[38;5;9m\x1b[1m\x1b[5mab\x1b[0mc\x1b[38;5;196md\x1b[0m".toList ∧
      Screen.read {} (terminal true segments) =
        [('a', ⟨some 9, true, false, false, true, false⟩),
          ('b', ⟨some 9, true, false, false, true, false⟩), ('c', {}),
          ('d', { foreground := some 196 })] ∧
      terminal false segments = "abcd".toList := by
  intro red segments
  have hsegments : ∀ segment ∈ segments, escapeSign ∉ segment.text := by decide
  have hshown := ((terminal_faithful false).1 segments hsegments).1
  exact ⟨hsegments, by decide, hshown.trans (by decide), (terminal_faithful false).2 segments⟩

end Output
end StyledMarkup
