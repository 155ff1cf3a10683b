import Quartet.Proofs.Text.Plain

namespace Quartet.Text

/-!
# Texts that show where they end

The text of a value delimits itself if it is never mistaken for the beginning of the text of
another value: whatever comes behind it, the value and what comes behind can be told apart.  Such
texts can be put one after the other, and a list of values is still known from them.

* `SelfDelimiting` — renderings whose texts show where they end.
* `selfDelimiting_line`, `selfDelimiting_numberLine` — lines are such texts.
* `SelfDelimiting.prepend`, `SelfDelimiting.append` — and so are texts that are put together from
  them.
* `SelfDelimiting.join_inj` — lists of values.
-/

/-- Whether the value and what comes behind are known from a text that begins with a rendered
    value. -/
def SelfDelimiting {α : Type} (render : α → String) : Prop :=
  ∀ value other (rest behind : List Char),
    (render value).toList ++ rest = (render other).toList ++ behind →
      value = other ∧ rest = behind

/-- A line is known from its line break, which stands nowhere else in it. -/
theorem selfDelimiting_line {α : Type} {body : α → String} (hinjective : Function.Injective body)
    (hunbroken : ∀ value, IsUnbroken (body value)) :
    SelfDelimiting fun value => body value ++ "\n" := by
  intro value other rest behind h
  have hbreak : ∀ value, '\n' ∉ (body value).toList :=
    fun value hmem => hunbroken value '\n' hmem rfl
  have hnewline : "\n".toList = ['\n'] := rfl
  simp only [String.toList_append, hnewline, List.append_assoc, List.singleton_append] at h
  -- the first line break says how long the body is
  have hlength : (body value).toList.length = (body other).toList.length := by
    have hindex := congrArg (List.idxOf '\n') h
    rwa [List.idxOf_append_of_notMem (hbreak value), List.idxOf_append_of_notMem (hbreak other),
      List.idxOf_cons_self, List.idxOf_cons_self] at hindex
  obtain ⟨hbody, hrest⟩ := List.append_inj h hlength
  exact ⟨hinjective (String.toList_inj.mp hbody), (List.cons.inj hrest).2⟩

theorem toList_toString (n : Nat) : (toString n).toList = Nat.toDigits 10 n := Nat.toList_repr

theorem isDigit_of_mem_toString {n : Nat} {c : Char} (h : c ∈ (toString n).toList) :
    c.isDigit = true := by
  rw [toList_toString] at h
  exact Nat.isDigit_of_mem_toDigits (by decide) (by decide) h

/-- A number is known from its digits. -/
theorem toString_injective : Function.Injective (toString : Nat → String) := by
  intro n m h
  have hvalue := congrArg (Nat.ofDigitChars 10 ·.toList 0) h
  simpa only [toList_toString, Nat.ofDigitChars_ten_toDigits] using hvalue

/-- A number is known from its digits also if a character that is none follows them. -/
theorem toString_append_cons_inj {n m : Nat} {c : Char} (hc : c.isDigit = false)
    {rest behind : List Char}
    (h : (toString n).toList ++ c :: rest = (toString m).toList ++ c :: behind) :
    n = m ∧ rest = behind := by
  have hrun : ∀ (n : Nat) (rest : List Char),
      ((toString n).toList ++ c :: rest).takeWhile Char.isDigit = (toString n).toList := by
    intro n rest
    rw [List.takeWhile_append_of_pos fun _ => isDigit_of_mem_toString,
      List.takeWhile_cons_of_neg (by simp [hc]), List.append_nil]
  have hdigits := congrArg (List.takeWhile Char.isDigit) h
  rw [hrun, hrun] at hdigits
  obtain rfl := toString_injective (String.toList_inj.mp hdigits)
  exact ⟨rfl, (List.cons.inj (List.append_cancel_left h)).2⟩

/-- A number is known from a line that ends with it. -/
theorem selfDelimiting_numberLine (label : String) (hlabel : IsUnbroken label) :
    SelfDelimiting fun n : Nat => label ++ toString n ++ "\n" := by
  refine selfDelimiting_line (fun n m h => ?_) fun n => ?_
  · exact toString_injective ((String.append_right_inj label).mp h)
  · exact isUnbroken_append_iff.mpr ⟨hlabel, isUnbroken_toString n⟩

namespace SelfDelimiting

variable {α β : Type} {render : α → String} {render' : β → String}

theorem of_eq (h : SelfDelimiting render) {other : α → String}
    (heq : ∀ value, other value = render value) : SelfDelimiting other := by
  rwa [show other = render from funext heq]

/-- Values may be rendered by way of others, if these are not the same for two of them. -/
theorem comp (h : SelfDelimiting render) {view : β → α} (hview : Function.Injective view) :
    SelfDelimiting (render ∘ view) := by
  intro value other rest behind heq
  obtain ⟨hsame, hrest⟩ := h _ _ _ _ heq
  exact ⟨hview hsame, hrest⟩

/-- The same text may stand in front of all values. -/
theorem prepend (h : SelfDelimiting render) (text : String) :
    SelfDelimiting fun value => text ++ render value := by
  intro value other rest behind heq
  simp only [String.toList_append, List.append_assoc] at heq
  exact h value other rest behind (List.append_cancel_left heq)

/-- A value may be followed by another. -/
theorem append (h : SelfDelimiting render) (h' : SelfDelimiting render') :
    SelfDelimiting fun values : α × β => render values.1 ++ render' values.2 := by
  rintro ⟨first, second⟩ ⟨first', second'⟩ rest behind heq
  simp only [String.toList_append, List.append_assoc] at heq
  obtain ⟨rfl, hsecond⟩ := h _ _ _ _ heq
  obtain ⟨rfl, hrest⟩ := h' _ _ _ _ hsecond
  exact ⟨rfl, hrest⟩

/-- A list of values is known from their texts, none of which is empty. -/
theorem join_inj (h : SelfDelimiting render) (hne : ∀ value, render value ≠ "")
    {values others : List α} :
    String.join (values.map render) = String.join (others.map render) ↔ values = others := by
  refine ⟨fun heq => ?_, fun heq => by rw [heq]⟩
  have hshort : ∀ value rest, String.join ((value :: rest).map render) ≠ "" := by
    intro value rest heq
    rw [List.map_cons, String.join_cons, String.append_eq_empty_iff] at heq
    exact hne value heq.1
  induction values generalizing others with
  | nil =>
    cases others with
    | nil => rfl
    | cons other behind => exact absurd heq.symm (hshort other behind)
  | cons value rest ih =>
    cases others with
    | nil => exact absurd heq (hshort value rest)
    | cons other behind =>
      rw [List.map_cons, List.map_cons, String.join_cons, String.join_cons,
        ← String.toList_inj, String.toList_append, String.toList_append] at heq
      obtain ⟨rfl, hrest⟩ := h _ _ _ _ heq
      rw [ih (String.toList_inj.mp hrest)]

end SelfDelimiting

end Quartet.Text
