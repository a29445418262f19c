import StyledMarkup.Style.Basic

/-!
# Styles by their flags

A style is known by its color and by the formats that it has (`ext_has`). Switching formats on one
after another keeps the color and gives a style that has them besides its own
(`has_switchOn`).
-/

namespace StyledMarkup

theorem Format.mem_all (format : Format) : format ∈ Format.all := by
  cases format <;> decide

namespace Style

theorem ext_has {style other : Style} (hc : style.color = other.color)
    (hf : ∀ format, style.has format = other.has format) : style = other := by
  have ho := hf .obfuscated
  have hb := hf .bold
  have hs := hf .strikethrough
  have hu := hf .underlined
  have hi := hf .italic
  cases style
  cases other
  simp only [has] at hc ho hb hs hu hi
  rw [hc, ho, hb, hs, hu, hi]

@[simp] theorem has_plain (format : Format) : plain.has format = false := by
  cases format <;> rfl

@[simp] theorem color_set (style : Style) (format : Format) (on : Bool) :
    (style.set format on).color = style.color := by
  cases format <;> rfl

theorem has_set (style : Style) (format other : Format) (on : Bool) :
    (style.set format on).has other = if other = format then on else style.has other := by
  cases format <;> cases other <;> rfl

theorem mem_formats {style : Style} {format : Format} :
    format ∈ style.formats ↔ style.has format = true := by
  simp [formats, Format.mem_all]

/-- The style with the formats switched on. -/
def switchOn (style : Style) (formats : List Format) : Style :=
  formats.foldl (fun s format => s.set format true) style

@[simp] theorem switchOn_nil (style : Style) : style.switchOn [] = style := rfl

@[simp] theorem switchOn_cons (style : Style) (format : Format) (formats : List Format) :
    style.switchOn (format :: formats) = (style.set format true).switchOn formats := rfl

@[simp] theorem color_switchOn (style : Style) (formats : List Format) :
    (style.switchOn formats).color = style.color := by
  induction formats generalizing style with
  | nil => rfl
  | cons format formats ih => rw [switchOn_cons, ih, color_set]

theorem has_switchOn (style : Style) (formats : List Format) (other : Format) :
    (style.switchOn formats).has other = true ↔ other ∈ formats ∨ style.has other = true := by
  induction formats generalizing style with
  | nil => simp
  | cons format formats ih =>
    rw [switchOn_cons, ih, has_set, List.mem_cons]
    by_cases h : other = format
    · simp [h]
    · simp [h]

/-- A style with the color and no other formats becomes the style when its formats are switched
on. -/
theorem switchOn_formats {style other : Style} (hc : other.color = style.color)
    (hf : ∀ format, other.has format = true → style.has format = true) :
    other.switchOn style.formats = style := by
  refine ext_has (by rw [color_switchOn, hc]) fun format => ?_
  rw [Bool.eq_iff_iff, has_switchOn, mem_formats]
  constructor
  · intro h
    exact h.elim id (hf format)
  · intro h
    exact .inl h

end Style
end StyledMarkup
