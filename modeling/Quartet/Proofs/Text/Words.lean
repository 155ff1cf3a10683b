import Quartet.Text.Token

namespace Quartet.Text

/-!
# Texts put together from pieces

A text that is made of pieces with a separator between them is cut into these pieces again,
unless a separator stands within one of them.

* `pieces_eq_splitOnP` — cutting is the library's `splitOnP`.
* `forall_of_mem_pieces`, `forall_of_mem_words` — no separator stands within a piece or a word.
* `pieces_intercalate` — pieces with a separator between them.
* `words_intercalate` — the same for words, none of which is empty.
-/

variable {α : Type} {isSeparator : α → Bool}

theorem pieces_cons (isSeparator : α → Bool) (item : α) (rest : List α) :
    pieces isSeparator (item :: rest)
      = if isSeparator item then [] :: pieces isSeparator rest
        else
          match pieces isSeparator rest with
          | [] => [[item]]
          | piece :: others => (item :: piece) :: others := rfl

/-- Cutting a list at separators is what the library does. -/
theorem pieces_eq_splitOnP (isSeparator : α → Bool) (items : List α) :
    pieces isSeparator items = items.splitOnP isSeparator := by
  induction items with
  | nil => rfl
  | cons item rest ih =>
    rw [List.splitOnP_cons_eq_if_modifyHead, ← ih, pieces_cons]
    split
    · rfl
    · -- there is always a first piece for the item to join
      cases hrest : pieces isSeparator rest with
      | nil => exact absurd (ih.symm.trans hrest) (List.splitOnP_ne_nil _ _)
      | cons piece others => rfl

/-- No separator stands in a piece. -/
theorem forall_of_mem_pieces {items piece : List α} (h : piece ∈ pieces isSeparator items) :
    ∀ x ∈ piece, isSeparator x = false := by
  induction items generalizing piece with
  | nil =>
    rw [List.mem_singleton.mp h]
    exact nofun
  | cons item rest ih =>
    rw [pieces_cons] at h
    split at h
    case isTrue =>
      rcases List.mem_cons.mp h with rfl | hrest
      · exact nofun
      · exact ih hrest
    case isFalse hitem =>
      have hsolid : isSeparator item = false := Bool.eq_false_iff.mpr hitem
      split at h
      case h_1 =>
        rw [List.mem_singleton.mp h]
        exact List.forall_mem_singleton.mpr hsolid
      case h_2 first others hpieces =>
        rw [hpieces] at ih
        rcases List.mem_cons.mp h with rfl | hothers
        · exact List.forall_mem_cons.mpr ⟨hsolid, ih List.mem_cons_self⟩
        · exact ih (List.mem_cons_of_mem _ hothers)

/-- No separator stands in a word. -/
theorem forall_of_mem_words {items word : List α} (h : word ∈ words isSeparator items) :
    ∀ x ∈ word, isSeparator x = false :=
  forall_of_mem_pieces (List.mem_filter.mp h).1

/-- Every line break is a blank. -/
theorem ne_newline_of_isBlank {c : Char} (h : isBlank c = false) : c ≠ '\n' := by
  rintro rfl
  revert h
  decide

/-- What is put together from pieces holds their items and those that stand between them. -/
theorem mem_intercalate {separator : List α} {x : α} {items : List (List α)}
    (h : x ∈ separator.intercalate items) : x ∈ separator ∨ ∃ item ∈ items, x ∈ item := by
  induction items with
  | nil => cases h
  | cons item rest ih =>
    cases rest with
    | nil =>
      rw [List.intercalate_singleton] at h
      exact .inr ⟨item, List.mem_cons_self, h⟩
    | cons second others =>
      rw [List.intercalate_cons_cons, List.append_assoc, List.mem_append, List.mem_append] at h
      rcases h with h | h | h
      · exact .inr ⟨item, List.mem_cons_self, h⟩
      · exact .inl h
      · rcases ih h with h | ⟨later, hlater, h⟩
        · exact .inl h
        · exact .inr ⟨later, List.mem_cons_of_mem _ hlater, h⟩

/-- Pieces with a separator between them are found again. -/
theorem pieces_intercalate {separator : α} (hseparator : isSeparator separator = true)
    {items : List (List α)} (hitems : ∀ item ∈ items, ∀ x ∈ item, isSeparator x = false)
    (hne : items ≠ []) : pieces isSeparator ([separator].intercalate items) = items := by
  -- the last item has no separator after it
  induction items with
  | nil => exact absurd rfl hne
  | cons item rest ih =>
    obtain ⟨hitem, hrest⟩ := List.forall_mem_cons.mp hitems
    cases rest with
    | nil => rw [List.intercalate_singleton, pieces_eq_splitOnP, List.splitOnP_eq_singleton hitem]
    | cons second others =>
      rw [List.intercalate_cons_cons, pieces_eq_splitOnP, List.append_assoc,
        List.singleton_append, List.splitOnP_append_cons_of_forall_mem hitem _ hseparator,
        ← pieces_eq_splitOnP, ih hrest (List.cons_ne_nil _ _)]

/-- Words with a separator between them are found again. -/
theorem words_intercalate {separator : α} (hseparator : isSeparator separator = true)
    {items : List (List α)} (hitems : ∀ item ∈ items, ∀ x ∈ item, isSeparator x = false)
    (hfull : ∀ item ∈ items, item ≠ []) (hne : items ≠ []) :
    words isSeparator ([separator].intercalate items) = items := by
  rw [words, pieces_intercalate hseparator hitems hne, List.filter_eq_self]
  intro item hmem
  simpa using hfull item hmem

end Quartet.Text
