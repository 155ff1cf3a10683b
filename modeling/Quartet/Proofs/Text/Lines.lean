import Quartet.Proofs.Text.Words
import Mathlib.Data.List.TakeWhile

namespace Quartet

open Text

/-!
# Tokens on their lines

A text may be cut at any of its blanks: its tokens are those of the part before the blank, and
those of the part behind it with the lines counted on.

* `Text.pieces_append`, `Text.words_append_cons` — texts put together, cut at separators.
* `Text.blankwise` — induction on the parts of a text between its blanks.
* `Token.ofChars` — the tokens of a text that begins on some line.
* `Token.renumber`, `Token.below` — a token on another line, and one some lines further down.
* `Token.ofChars_append_cons` — a text cut at a blank.
* `Token.Stands`, `Token.exists_before` — where a token stands, and the part of a text before it.
-/

namespace Text

variable {α : Type} {isSeparator : α → Bool}

/-! ### Texts put together -/

theorem exists_pieces_eq_cons (isSeparator : α → Bool) (items : List α) :
    ∃ head tail, pieces isSeparator items = head :: tail := by
  rw [pieces_eq_splitOnP]
  exact List.exists_cons_of_ne_nil (List.splitOnP_ne_nil _ _)

/-- A separator stands behind an empty piece. -/
theorem pieces_cons_of_pos {item : α} (h : isSeparator item = true) (rest : List α) :
    pieces isSeparator (item :: rest) = [] :: pieces isSeparator rest := by
  rw [pieces_cons, if_pos h]

/-- An item that is no separator joins the piece that comes next. -/
theorem pieces_cons_of_neg {item : α} (h : ¬ isSeparator item = true) {rest piece : List α}
    {others : List (List α)} (hrest : pieces isSeparator rest = piece :: others) :
    pieces isSeparator (item :: rest) = (item :: piece) :: others := by
  rw [pieces_cons, if_neg h, hrest]

/-- Where texts are put together, the last piece of the first and the first piece of the second
    become one. -/
theorem pieces_append (isSeparator : α → Bool) (first second : List α) :
    ∃ init last head tail, pieces isSeparator first = init ++ [last] ∧
      pieces isSeparator second = head :: tail ∧
      pieces isSeparator (first ++ second) = init ++ (last ++ head) :: tail ∧
      init.length = first.countP isSeparator := by
  induction first with
  | nil =>
    obtain ⟨head, tail, hsecond⟩ := exists_pieces_eq_cons isSeparator second
    exact ⟨[], [], head, tail, rfl, hsecond, hsecond, rfl⟩
  | cons item rest ih =>
    obtain ⟨init, last, head, tail, hrest, hsecond, hjoined, hlength⟩ := ih
    by_cases hitem : isSeparator item = true
    · refine ⟨[] :: init, last, head, tail, ?_, hsecond, ?_, ?_⟩
      · rw [pieces_cons_of_pos hitem, hrest, List.cons_append]
      · rw [List.cons_append, pieces_cons_of_pos hitem, hjoined, List.cons_append]
      · rw [List.length_cons, hlength, List.countP_cons_of_pos hitem]
    · rw [← List.countP_cons_of_neg hitem] at hlength
      -- the first piece is the last one, or another one
      cases init with
      | nil =>
        exact ⟨[], item :: last, head, tail, pieces_cons_of_neg hitem hrest, hsecond,
          pieces_cons_of_neg hitem hjoined, hlength⟩
      | cons piece init =>
        exact ⟨(item :: piece) :: init, last, head, tail, pieces_cons_of_neg hitem hrest, hsecond,
          pieces_cons_of_neg hitem hjoined, hlength⟩

/-- A text cut at a separator has the words of both parts. -/
theorem words_append_cons {separator : α} (h : isSeparator separator = true)
    (first second : List α) :
    words isSeparator (first ++ separator :: second)
      = words isSeparator first ++ words isSeparator second := by
  simp only [words, pieces_eq_splitOnP, List.splitOnP_append_cons first second h,
    List.filter_append]

/-- A text without a separator is one word, unless it is empty. -/
theorem words_of_forall {items : List α} (hne : items ≠ [])
    (h : ∀ item ∈ items, isSeparator item = false) : words isSeparator items = [items] := by
  rw [words, pieces_eq_splitOnP, List.splitOnP_eq_singleton h]
  simpa using hne

/-- What holds of all texts without a blank, and of two texts with a blank between them if it
    holds of both, holds of all texts. -/
@[elab_as_elim]
theorem blankwise {motive : List Char → Prop}
    (solid : ∀ chars, (∀ c ∈ chars, isBlank c = false) → motive chars)
    (blank : ∀ first c second, isBlank c = true → motive first → motive second →
      motive (first ++ c :: second))
    (chars : List Char) : motive chars := by
  have hsolid : ∀ c ∈ chars.takeWhile (!isBlank ·), isBlank c = false := fun c hmem => by
    simpa using List.mem_takeWhile_imp hmem
  have hsplit := List.takeWhile_append_dropWhile (p := (!isBlank ·)) (l := chars)
  cases hrest : chars.dropWhile (!isBlank ·) with
  | nil =>
    rw [hrest, List.append_nil] at hsplit
    exact hsplit ▸ solid _ hsolid
  | cons c rest =>
    have hblank : isBlank c = true := by
      have hhead := List.head?_dropWhile_not (!isBlank ·) chars
      rw [hrest] at hhead
      simpa using hhead
    have hlength : rest.length < chars.length := by
      have hsum := congrArg List.length hsplit
      rw [hrest, List.length_append, List.length_cons] at hsum
      omega
    rw [hrest] at hsplit
    exact hsplit ▸ blank _ c rest hblank (solid _ hsolid) (blankwise solid blank rest)
termination_by chars.length

end Text

namespace Token

/-! ### Lines -/

/-- The tokens of consecutive lines, the first of which has a given number. -/
def ofLines (line : Nat) (lines : List (List Char)) : List Token :=
  (lines.zipIdx line).flatMap fun (chars, line) => ofLine line chars

/-- The tokens of characters the first of which stands on a given line. -/
def ofChars (line : Nat) (chars : List Char) : List Token :=
  ofLines line (pieces (· == '\n') chars)

/-- A token whose line has another number. -/
def renumber (number : Nat → Nat) (token : Token) : Token :=
  { token with line := number token.line }

/-- A token some lines further down. -/
def below (lines : Nat) (token : Token) : Token := token.renumber (lines + ·)

theorem ofText_eq (text : String) : ofText text = ofChars 1 text.toList := rfl

@[simp] theorem ofLines_nil (line : Nat) : ofLines line [] = [] := rfl

theorem ofLines_cons (line : Nat) (chars : List Char) (rest : List (List Char)) :
    ofLines line (chars :: rest) = ofLine line chars ++ ofLines (line + 1) rest := by
  rw [ofLines, List.zipIdx_cons, List.flatMap_cons]
  rfl

theorem ofLines_append (line : Nat) (first second : List (List Char)) :
    ofLines line (first ++ second)
      = ofLines line first ++ ofLines (line + first.length) second := by
  rw [ofLines, List.zipIdx_append, List.flatMap_append]
  rfl

/-- A line that is cut at a blank. -/
theorem ofLine_append_cons {c : Char} (h : isBlank c = true) (line : Nat)
    (first second : List Char) :
    ofLine line (first ++ c :: second) = ofLine line first ++ ofLine line second := by
  rw [ofLine, words_append_cons h, List.map_append]
  rfl

/-- A text that is cut at a blank: what follows stands as many lines further down as lines end
    before it. -/
theorem ofChars_append_cons {c : Char} (h : isBlank c = true) (line : Nat)
    (first second : List Char) :
    ofChars line (first ++ c :: second)
      = ofChars line first ++ ofChars (line + (first ++ [c]).count '\n') second := by
  obtain ⟨init, last, head, tail, hfirst, hsecond, hjoined, hlength⟩ :=
    pieces_append (· == '\n') first (c :: second)
  rw [← List.count_eq_countP] at hlength
  rw [ofChars, hjoined, ofChars, hfirst, ofLines_append, ofLines_append, ofLines_cons, ofLines_cons,
    hlength, List.append_assoc, List.append_assoc, List.count_append]
  by_cases hnewline : c = '\n'
  · -- the line ends here, and the next one begins
    subst hnewline
    rw [pieces_cons_of_pos (by decide)] at hsecond
    obtain ⟨rfl, rfl⟩ := List.cons.inj hsecond
    rw [List.append_nil, ofLines_nil, List.nil_append, List.count_singleton_self, ofChars,
      Nat.add_assoc]
  · -- the line goes on behind the blank
    obtain ⟨piece, others, hpieces⟩ := exists_pieces_eq_cons (· == '\n') second
    rw [pieces_cons_of_neg (by simpa using hnewline) hpieces] at hsecond
    obtain ⟨rfl, rfl⟩ := List.cons.inj hsecond
    rw [ofLine_append_cons h, ofChars, hpieces, ofLines_cons, List.append_assoc,
      List.count_singleton, if_neg (by simpa using hnewline), Nat.add_zero]
    rfl

/-- Tokens of a text that begins further down stand further down. -/
theorem ofChars_add (lines line : Nat) (chars : List Char) :
    ofChars (lines + line) chars = (ofChars line chars).map (below lines) := by
  unfold ofChars
  generalize pieces (· == '\n') chars = rows
  induction rows generalizing line with
  | nil => rfl
  | cons row rest ih =>
    rw [ofLines_cons, ofLines_cons, List.map_append, Nat.add_assoc, ih, ofLine, ofLine,
      List.map_map]
    rfl

/-- A text that is cut at the end of a line. -/
theorem ofText_append_newline (first second : String) :
    ofText (first ++ "\n" ++ second)
      = ofText first ++ (ofText second).map (below (1 + first.toList.count '\n')) := by
  have hcut : (first ++ "\n" ++ second).toList = first.toList ++ '\n' :: second.toList := by
    rw [String.toList_append, String.toList_append, List.append_assoc]
    rfl
  have hline : 1 + (first.toList ++ ['\n']).count '\n' = 1 + first.toList.count '\n' + 1 := by
    rw [List.count_append, List.count_singleton_self, Nat.add_assoc]
  rw [ofText_eq, ofText_eq, ofText_eq, hcut, ofChars_append_cons (by decide), hline, ofChars_add]

/-! ### The text before a token -/

/-- Characters without a blank are one token, unless there are none. -/
theorem ofChars_of_forall {chars : List Char} (h : ∀ c ∈ chars, isBlank c = false) (line : Nat) :
    ofChars line chars = if chars = [] then [] else [⟨String.ofList chars, line⟩] := by
  have hnewline : ∀ c ∈ chars, (c == '\n') = false := fun c hmem =>
    beq_eq_false_iff_ne.mpr (ne_newline_of_isBlank (h c hmem))
  rw [ofChars, pieces_eq_splitOnP, List.splitOnP_eq_singleton hnewline, ofLines_cons, ofLine]
  split
  · subst_vars
    rfl
  · next hne =>
    rw [words_of_forall hne h]
    rfl

/-- Whether a token stands between two parts of a text: there is a blank on either side of it, or
    the end of the text, and none within it. -/
structure Stands (token : Token) (front back : List Char) : Prop where
  ne_nil : token.text.toList ≠ []
  solid : ∀ c ∈ token.text.toList, isBlank c = false
  front : ∀ c ∈ front.getLast?, isBlank c = true
  back : ∀ c ∈ back.head?, isBlank c = true

section

variable {token : Token} {front back : List Char} {c : Char}

/-- A token behind a blank, with what stands before the blank put in front. -/
theorem Stands.behind (hblank : isBlank c = true) (h : token.Stands front back)
    (first : List Char) : token.Stands (first ++ c :: front) back where
  ne_nil := h.ne_nil
  solid := h.solid
  front := by
    intro d hd
    rw [List.getLast?_append, List.getLast?_cons] at hd
    cases hlast : front.getLast? with
    | none =>
      rw [hlast] at hd
      obtain rfl : c = d := by simpa using hd
      exact hblank
    | some last =>
      rw [hlast] at hd
      obtain rfl : last = d := by simpa using hd
      exact h.front last hlast
  back := h.back

/-- A token before a blank, with what stands behind the blank put in. -/
theorem Stands.before (hblank : isBlank c = true) (h : token.Stands front back)
    (second : List Char) : token.Stands front (back ++ c :: second) where
  ne_nil := h.ne_nil
  solid := h.solid
  front := h.front
  back := by
    intro d hd
    cases back with
    | nil =>
      obtain rfl : c = d := by simpa using hd
      exact hblank
    | cons b rest => exact h.back d hd

end

/-- A token stands in its text as it is, on the line on which the part before it ends, and the
    tokens before it are those of this part.  The induction goes from blank to blank. -/
theorem exists_before {line : Nat} {chars : List Char} {before later : List Token} {token : Token}
    (h : ofChars line chars = before ++ token :: later) :
    ∃ front back, chars = front ++ token.text.toList ++ back ∧ token.Stands front back ∧
      token.line = line + front.count '\n' ∧ ofChars line front = before := by
  induction chars using blankwise generalizing line before later with
  | solid chars hsolid =>
    rw [ofChars_of_forall hsolid] at h
    split at h
    · cases before <;> cases h
    · next hne =>
      obtain ⟨rfl, htoken⟩ := List.append_eq_singleton_iff.mp h.symm |>.resolve_right (by simp)
      obtain ⟨rfl, -⟩ := List.cons.inj htoken
      refine ⟨[], [], by simp, ⟨?_, ?_, nofun, nofun⟩, rfl, rfl⟩
      · rwa [String.toList_ofList]
      · rwa [String.toList_ofList]
  | blank first c second hblank hfirst hsecond =>
    have hbehind : ∀ before', ofChars (line + (first ++ [c]).count '\n') second
        = before' ++ token :: later → before = ofChars line first ++ before' →
        ∃ front back, first ++ c :: second = front ++ token.text.toList ++ back ∧
          token.Stands front back ∧ token.line = line + front.count '\n' ∧
          ofChars line front = before := by
      rintro before' htokens rfl
      obtain ⟨front, back, rfl, hstands, hline, hfront⟩ := hsecond htokens
      refine ⟨first ++ c :: front, back, by simp, hstands.behind hblank first, ?_, ?_⟩
      · rw [hline, Nat.add_assoc, ← List.count_append, List.append_assoc]
        rfl
      · rw [ofChars_append_cons hblank, hfront]
    rw [ofChars_append_cons hblank] at h
    -- the token stands behind the blank or before it
    rcases List.append_eq_append_iff.mp h with ⟨before', hbefore, hlater⟩ | ⟨here, htokens, hlater⟩
    · exact hbehind before' hlater hbefore
    · cases here with
      | nil => exact hbehind [] hlater.symm (by rw [htokens, List.append_nil, List.append_nil])
      | cons found others =>
        obtain ⟨rfl, -⟩ := List.cons.inj hlater
        obtain ⟨front, back, rfl, hstands, hline, hfront⟩ := hfirst htokens
        exact ⟨front, back ++ c :: second, by simp, hstands.before hblank second, hline, hfront⟩

end Token

end Quartet
