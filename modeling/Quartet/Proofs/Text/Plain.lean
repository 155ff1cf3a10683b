import Quartet.Proofs.Text.Words
import Quartet.Text.Quoted
import Mathlib.Data.List.Basic

namespace Quartet.Text

/-!
# Plain texts and lines

Printable ASCII text can be sent to a terminal as it is.  What is told may hold other characters,
those of tokens for one, but no line break that was not meant: a token has none, and where a text
is quoted a line break is written as an escape.

* `IsPlain`, `harmless_of_isPlain` — printable ASCII texts.
* `IsUnbroken`, `IsLine` — texts without a line break, and with one at the end.
* `isUnbroken_quoted`, `isUnbroken_harmless` — what quoting and escaping leave of line breaks.
-/

/-! ### All characters of a text -/

section

variable {p : Char → Prop}

theorem forall_mem_append {first second : String} :
    (∀ c ∈ (first ++ second).toList, p c) ↔
      (∀ c ∈ first.toList, p c) ∧ ∀ c ∈ second.toList, p c := by
  rw [String.toList_append, List.forall_mem_append]

/-- What holds of the characters of texts and of what stands between them holds of all
    characters. -/
theorem forall_mem_intercalate {separator : String} {texts : List String}
    (hseparator : ∀ c ∈ separator.toList, p c) (h : ∀ text ∈ texts, ∀ c ∈ text.toList, p c) :
    ∀ c ∈ (separator.intercalate texts).toList, p c := by
  intro c hmem
  rw [String.toList_intercalate] at hmem
  rcases mem_intercalate hmem with hmem | ⟨chars, hchars, hmem⟩
  · exact hseparator c hmem
  · obtain ⟨text, htext, rfl⟩ := List.mem_map.mp hchars
    exact h text htext c hmem

theorem forall_mem_join {texts : List String} (h : ∀ text ∈ texts, ∀ c ∈ text.toList, p c) :
    ∀ c ∈ (String.join texts).toList, p c := by
  intro c hmem
  rw [String.toList_join] at hmem
  obtain ⟨text, htext, hmem⟩ := List.mem_flatMap.mp hmem
  exact h text htext c hmem

end

/-! ### Plain texts -/

/-- Whether a character is a printable ASCII character. -/
def IsPlainChar (c : Char) : Prop := 0x20 ≤ c.toNat ∧ c.toNat ≤ 0x7e

instance (c : Char) : Decidable (IsPlainChar c) := inferInstanceAs (Decidable (_ ∧ _))

/-- Whether a text is made of printable ASCII characters. -/
def IsPlain (text : String) : Prop := ∀ c ∈ text.toList, IsPlainChar c

-- the characters of a text are looked at, and not all that there are
instance (text : String) : Decidable (IsPlain text) := List.decidableBAll _ text.toList

theorem isPlain_append_iff {first second : String} :
    IsPlain (first ++ second) ↔ IsPlain first ∧ IsPlain second :=
  forall_mem_append

theorem isPlain_intercalate {separator : String} {texts : List String}
    (hseparator : IsPlain separator) (h : ∀ text ∈ texts, IsPlain text) :
    IsPlain (separator.intercalate texts) :=
  forall_mem_intercalate hseparator h

/-- A digit to any base is a printable ASCII character. -/
theorem isPlainChar_of_mem_toDigits {base n : Nat} {c : Char} (hbase : 1 < base)
    (h : c ∈ Nat.toDigits base n) : IsPlainChar c := by
  have hdigit : ∀ digit, IsPlainChar (Nat.digitChar digit) := by
    intro digit
    by_cases hsmall : digit < 16
    · have hall : ∀ digit < 16, IsPlainChar (Nat.digitChar digit) := by decide
      exact hall digit hsmall
    · rw [Nat.digitChar_eq_star.mpr (Nat.not_lt.mp hsmall)]
      decide
  induction n using Nat.strongRecOn with
  | ind n ih =>
    rw [Nat.toDigits_eq_if hbase] at h
    split at h
    case isTrue hlast =>
      rw [List.mem_singleton.mp h]
      exact hdigit n
    case isFalse hmore =>
      rcases List.mem_append.mp h with h | h
      · exact ih (n / base) (Nat.div_lt_self (by omega) hbase) h
      · rw [List.mem_singleton.mp h]
        exact hdigit _

theorem isPlain_toString (n : Nat) : IsPlain (toString n) := by
  have hdigits : (toString n).toList = Nat.toDigits 10 n := Nat.toList_repr
  intro c hmem
  rw [hdigits] at hmem
  exact isPlainChar_of_mem_toDigits (by decide) hmem

theorem harmlessChar_of_isPlainChar {c : Char} (h : IsPlainChar c) : harmlessChar c = [c] := by
  unfold harmlessChar
  split
  case h_6 =>
    have hcontrol : ¬ (0x80 ≤ c.toNat && c.toNat ≤ 0x9f) = true := by
      rw [Bool.and_eq_true, decide_eq_true_iff]
      have hhigh := h.2
      omega
    rw [if_neg hcontrol]
  -- the characters that are written otherwise are below the space or behind the tilde
  all_goals
    revert h
    decide

/-- In a plain text there is nothing to be written otherwise. -/
theorem harmless_of_isPlain {text : String} (h : IsPlain text) : harmless text = text := by
  have hchars : text.toList.flatMap harmlessChar = text.toList := by
    calc text.toList.flatMap harmlessChar
        = text.toList.flatMap fun c => [c] :=
          List.flatMap_congr fun c hmem => harmlessChar_of_isPlainChar (h c hmem)
      _ = text.toList := List.flatMap_singleton' _
  rw [harmless, hchars, String.ofList_toList]

/-! ### Line breaks -/

/-- Whether a text holds no line break. -/
def IsUnbroken (text : String) : Prop := ∀ c ∈ text.toList, c ≠ '\n'

instance (text : String) : Decidable (IsUnbroken text) := List.decidableBAll _ text.toList

theorem isUnbroken_append_iff {first second : String} :
    IsUnbroken (first ++ second) ↔ IsUnbroken first ∧ IsUnbroken second :=
  forall_mem_append

theorem isUnbroken_intercalate {separator : String} {texts : List String}
    (hseparator : IsUnbroken separator) (h : ∀ text ∈ texts, IsUnbroken text) :
    IsUnbroken (separator.intercalate texts) :=
  forall_mem_intercalate hseparator h

/-- A line break is not plain. -/
theorem IsPlainChar.ne_newline {c : Char} (h : IsPlainChar c) : c ≠ '\n' := by
  rintro rfl
  revert h
  decide

theorem IsPlain.isUnbroken {text : String} (h : IsPlain text) : IsUnbroken text :=
  fun c hmem => (h c hmem).ne_newline

theorem isUnbroken_toString (n : Nat) : IsUnbroken (toString n) := (isPlain_toString n).isUnbroken

/-- A character is written by its code point in printable ASCII characters. -/
theorem isPlainChar_of_mem_byCodePoint {c x : Char} (h : x ∈ byCodePoint c) : IsPlainChar x := by
  have hstart : IsPlain "\\u\x7b" := by decide
  have hend : IsPlainChar '\x7d' := by decide
  rcases List.mem_append.mp h with h | h
  · rcases List.mem_append.mp h with h | h
    · exact hstart x h
    · exact isPlainChar_of_mem_toDigits (by decide) h
  · rw [List.mem_singleton.mp h]
    exact hend

/-- A quoted text holds no line break, whatever the text holds. -/
theorem isUnbroken_quoted (text : String) : IsUnbroken (quoted text) := by
  have hchar : ∀ c, ∀ x ∈ quotedChar c, x ≠ '\n' := by
    intro c
    unfold quotedChar
    split
    case h_7 hnewline _ _ =>
      split
      · exact fun x hmem => (isPlainChar_of_mem_byCodePoint hmem).ne_newline
      · intro x hmem
        rw [List.mem_singleton.mp hmem]
        exact hnewline
    all_goals simp
  intro x hmem
  rw [quoted, String.toList_ofList] at hmem
  have hquote : '"' ≠ '\n' := by decide
  simp only [List.mem_cons, List.mem_append, List.mem_flatMap, List.not_mem_nil, or_false] at hmem
  rcases hmem with rfl | ⟨c, -, hmem⟩ | rfl
  · exact hquote
  · exact hchar c x hmem
  · exact hquote

/-- Escaping makes no line breaks. -/
theorem isUnbroken_harmless {text : String} (h : IsUnbroken text) : IsUnbroken (harmless text) := by
  have hchar : ∀ c, c ≠ '\n' → ∀ x ∈ harmlessChar c, x ≠ '\n' := by
    intro c hc
    unfold harmlessChar
    split
    case h_6 =>
      split
      · exact fun x hmem => (isPlainChar_of_mem_byCodePoint hmem).ne_newline
      · intro x hmem
        rw [List.mem_singleton.mp hmem]
        exact hc
    all_goals simp
  intro x hmem
  rw [harmless, String.toList_ofList] at hmem
  obtain ⟨c, hc, hmem⟩ := List.mem_flatMap.mp hmem
  exact hchar c (h c hc) x hmem

/-! ### Lines -/

/-- Whether a text is one line: it ends with a line break and holds no other. -/
def IsLine (text : String) : Prop := ∃ body, text = body ++ "\n" ∧ IsUnbroken body

end Quartet.Text
