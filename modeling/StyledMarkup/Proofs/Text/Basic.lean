import Mathlib.Data.List.DropRight
import StyledMarkup.Text.Basic

/-!
# Trimmed and cut texts

A text without a blank at either end is its own trimmed form (`trim_eq_self`), and what trimming
gives is such a text (`trim_trim`). A text is cut at the first separator in it (`cutAt?_append`),
and only if there is one (`cutAt?_of_not_mem`). Splitting a text at all its separators and joining
the parts undo each other (`join_splitAt`, `splitAt_join`).
-/

namespace StyledMarkup
namespace Text

theorem ne_of_isBlank {c d : Char} (hc : isBlank c = true) (hd : isBlank d = false) : c ≠ d := by
  rintro rfl
  exact Bool.false_ne_true (hd.symm.trans hc)

theorem trim_eq_self {t : Text} (hf : ∀ c, t.head? = some c → isBlank c = false)
    (hl : ∀ c, t.getLast? = some c → isBlank c = false) : t.trim = t := by
  have hdrop : ∀ {s : Text}, (∀ c, s.head? = some c → isBlank c = false) →
      s.dropWhile isBlank = s := by
    rintro (_ | ⟨c, s⟩) h
    · rfl
    · rw [List.dropWhile_cons_of_neg (by simp [h c rfl])]
  rw [trim, trimStart, hdrop hf, trimEnd, hdrop (by simpa using hl), List.reverse_reverse]

theorem isBlank_head_dropWhile {t : Text} {c : Char}
    (h : (t.dropWhile isBlank).head? = some c) : isBlank c = false := by
  have hnot := List.head?_dropWhile_not isBlank t
  rw [h] at hnot
  exact hnot

theorem trim_trim (t : Text) : t.trim.trim = t.trim := by
  refine trim_eq_self (fun c hc => ?_) fun c hc => ?_
  · -- What is cut off at the end leaves the first character as it is.
    have hpre : t.trim <+: t.trimStart := List.rdropWhile_prefix isBlank t.trimStart
    obtain ⟨cut, hcut⟩ := hpre
    refine isBlank_head_dropWhile (t := t) ?_
    rw [← trimStart, ← hcut, List.head?_append, hc]
    rfl
  · rw [trim, trimEnd, List.getLast?_reverse] at hc
    exact isBlank_head_dropWhile hc

theorem cutAt?_append {separator : Char} {before : Text} (h : separator ∉ before)
    (after : Text) : cutAt? separator (before ++ separator :: after) = some (before, after) := by
  induction before with
  | nil => exact if_pos rfl
  | cons c before ih =>
    have hc : c ≠ separator := fun hc => h (hc ▸ List.mem_cons_self)
    rw [List.cons_append, cutAt?, if_neg hc, ih fun hm => h (List.mem_cons_of_mem _ hm)]
    rfl

theorem cutAt?_of_not_mem {separator : Char} {t : Text} (h : separator ∉ t) :
    cutAt? separator t = none := by
  induction t with
  | nil => rfl
  | cons c t ih =>
    have hc : c ≠ separator := fun hc => h (hc ▸ List.mem_cons_self)
    rw [cutAt?, if_neg hc, ih fun hm => h (List.mem_cons_of_mem _ hm)]
    rfl

theorem splitAt_ne_nil (separator : Char) (t : Text) : splitAt separator t ≠ [] := by
  cases t with
  | nil => exact List.cons_ne_nil _ _
  | cons c t =>
    unfold splitAt
    split
    · exact List.cons_ne_nil _ _
    · split <;> exact List.cons_ne_nil _ _

theorem splitAt_cons_of_ne {separator c : Char} (h : c ≠ separator) {t first : Text}
    {others : List Text} (ht : splitAt separator t = first :: others) :
    splitAt separator (c :: t) = (c :: first) :: others := by
  rw [splitAt, if_neg h, ht]

theorem join_splitAt (separator : Char) (t : Text) :
    join [separator] (splitAt separator t) = t := by
  induction t with
  | nil => rfl
  | cons c t ih =>
    obtain ⟨first, others, ht⟩ := List.exists_cons_of_ne_nil (splitAt_ne_nil separator t)
    rw [ht] at ih
    by_cases hc : c = separator
    · rw [splitAt, if_pos hc, ht, join, ih, hc]
      rfl
    · rw [splitAt_cons_of_ne hc ht]
      cases others with
      | nil => exact congrArg (c :: ·) ih
      | cons next others => exact congrArg (c :: ·) ih

theorem splitAt_of_notMem {separator : Char} {t : Text} (h : separator ∉ t) :
    splitAt separator t = [t] := by
  induction t with
  | nil => rfl
  | cons c t ih =>
    have hc : c ≠ separator := fun hc => h (hc ▸ List.mem_cons_self)
    exact splitAt_cons_of_ne hc (ih fun hm => h (List.mem_cons_of_mem _ hm))

theorem splitAt_append {separator : Char} {t : Text} (h : separator ∉ t) (rest : Text) :
    splitAt separator (t ++ separator :: rest) = t :: splitAt separator rest := by
  induction t with
  | nil => exact if_pos rfl
  | cons c t ih =>
    have hc : c ≠ separator := fun hc => h (hc ▸ List.mem_cons_self)
    exact splitAt_cons_of_ne hc (ih fun hm => h (List.mem_cons_of_mem _ hm))

theorem splitAt_join {separator : Char} {parts : List Text} (hne : parts ≠ [])
    (h : ∀ part ∈ parts, separator ∉ part) :
    splitAt separator (join [separator] parts) = parts := by
  induction parts with
  | nil => exact absurd rfl hne
  | cons part parts ih =>
    have hpart := h part List.mem_cons_self
    cases parts with
    | nil => exact splitAt_of_notMem hpart
    | cons next parts =>
      rw [join, List.append_assoc, List.singleton_append, splitAt_append hpart,
        ih (List.cons_ne_nil _ _) fun p hp => h p (List.mem_cons_of_mem _ hp)]

end Text
end StyledMarkup
