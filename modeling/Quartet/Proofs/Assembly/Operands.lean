import Quartet.Proofs.Assembly.Forms
import Quartet.Text.Blank

namespace Quartet

open Text

/-!
# Operands as they are written

The text of an instruction is its mnemonic and its operand tokens with a space between them.
Each operand token is a sigil, a number and a mark, so that reading it gives the number back.

* `Operand.written` — an operand token.
* `Instruction.operandTexts`, `Instruction.text_eq` — the tokens of an instruction's text.
* `Operand.instruction_operandTexts` — an instruction is read back from its operand tokens.
* `Instruction.isWord_operandTexts` — no blank stands within a token.
-/

/-! ### Numbers -/

theorem Text.decimal_toDigits (n : Nat) : decimal (Nat.toDigits 10 n) = n :=
  Nat.ofDigitChars_ten_toDigits

theorem Text.isDigit_of_mem_toDigits {n : Nat} {c : Char} (h : c ∈ Nat.toDigits 10 n) :
    c.isDigit = true :=
  Nat.isDigit_of_mem_toDigits (by decide) (by decide) h

/-- No digit is a blank. -/
theorem Text.isBlank_of_isDigit {c : Char} (h : c.isDigit = true) : isBlank c = false := by
  simp only [Char.isDigit, Bool.and_eq_true, decide_eq_true_eq, ge_iff_le,
    UInt32.le_iff_toNat_le] at h
  obtain ⟨hlow, hhigh⟩ : 48 ≤ c.toNat ∧ c.toNat ≤ 57 := h
  -- in the table, the digits lie between the space and the next blank after it
  simp only [isBlank, Ranges.contains, blankRanges, Ranges.holds, Bool.and_eq_false_iff,
    Bool.or_eq_false_iff, decide_eq_false_iff_not]
  omega

namespace Operand

/-- The digits of a word denote the word. -/
theorem denotes_toDigits (value : Word) : Denotes (Nat.toDigits 10 value.toNat) value := by
  have hdigit : ∀ c ∈ Nat.toDigits 10 value.toNat, c.isDigit = true :=
    fun c => isDigit_of_mem_toDigits
  refine ⟨Nat.toDigits 10 value.toNat, leadingRun_iff.mpr (List.takeWhile_eq_self_iff.mpr hdigit),
    Nat.toDigits_ne_nil, ?_⟩
  rw [← decimal_eq_runValue fun c hc => mem_digits_iff.mpr (hdigit c hc), decimal_toDigits]

/-! ### Tokens -/

/-- A number between a sigil and a mark. -/
def written (sigil : String) (value : Word) (mark : String) : String :=
  sigil ++ toString value ++ mark

@[simp] theorem toList_written (sigil : String) (value : Word) (mark : String) :
    (written sigil value mark).toList
      = sigil.toList ++ (Nat.toDigits 10 value.toNat ++ mark.toList) := by
  have hvalue : (toString value).toList = Nat.toDigits 10 value.toNat := Nat.toList_repr
  rw [written, String.toList_append, String.toList_append, hvalue, List.append_assoc]

/-- A written number is what the token spells. -/
theorem spells_written (sigil : String) (value : Word) (mark : String) :
    Spells sigil mark (written sigil value mark) value :=
  ⟨_, by rw [toList_written, List.append_assoc], denotes_toDigits value⟩

end Operand

/-! ### Instructions -/

namespace Instruction

open Operand

/-- The tokens after the mnemonic in the text of an instruction. -/
def operandTexts : Instruction → List String
  | loadConstant destination value => [written "R" destination ",", written "#" value ""]
  | memoryRead base destination => [written "R" destination ",", written "[R" base "]"]
  | memoryWrite source offset base =>
    [written "[R" base "", "+", written "" offset "],", written "R" source ""]
  | bitwiseOr destination address source =>
    [written "R" destination ",", written "[" address "]", "|", written "R" source ""]

@[simp] theorem length_operandTexts (instruction : Instruction) :
    instruction.operandTexts.length = instruction.opcode.tokenCount := by
  cases instruction <;> rfl

/-- The text of an instruction is its tokens with a space between them. -/
theorem text_eq (instruction : Instruction) :
    instruction.text
      = " ".intercalate (instruction.opcode.mnemonic :: instruction.operandTexts) := by
  have hvalue : ∀ value : Word, (toString value).toList = Nat.toDigits 10 value.toNat :=
    fun _ => Nat.toList_repr
  have hliteral : ∀ literal : String, toString literal = literal := fun _ => rfl
  apply String.toList_inj.mp
  cases instruction <;>
    simp [text, operandTexts, opcode, String.intercalate_cons_cons, hvalue, hliteral]

end Instruction

/-- An instruction is read back from its operand tokens. -/
theorem Operand.instruction_operandTexts (i : Instruction) :
    instruction i.opcode i.operandTexts = .ok i := by
  rw [instruction_eq_ok_iff]
  cases i with
  | loadConstant destination value =>
    exact .loadConstant (spells_written _ _ _) (spells_written _ _ _)
  | memoryRead base destination =>
    exact .memoryRead (spells_written _ _ _) (spells_written _ _ _)
  | memoryWrite source offset base =>
    exact .memoryWrite (spells_written _ _ _) (spells_written _ _ _) (spells_written _ _ _)
  | bitwiseOr destination address source =>
    exact .bitwiseOr (spells_written _ _ _) (spells_written _ _ _) (spells_written _ _ _)

/-! ### Blanks -/

/-- Whether a text is a single token: it is not empty, and no blank stands within it. -/
def Token.isWord (text : String) : Bool :=
  !text.toList.isEmpty && text.toList.all (!isBlank ·)

theorem Token.isWord_iff {text : String} :
    isWord text = true ↔ text.toList ≠ [] ∧ ∀ c ∈ text.toList, isBlank c = false := by
  simp [isWord]

/-- A number is a token exactly if no blank stands in its sigil or its mark. -/
theorem Operand.isWord_written (sigil : String) (value : Word) (mark : String) :
    Token.isWord (written sigil value mark)
      = (sigil.toList.all (!isBlank ·) && mark.toList.all (!isBlank ·)) := by
  have hdigits : (Nat.toDigits 10 value.toNat).all (!isBlank ·) = true := by
    rw [List.all_eq_true]
    intro c hmem
    rw [isBlank_of_isDigit (isDigit_of_mem_toDigits hmem)]
    rfl
  have hfull : (written sigil value mark).toList.isEmpty = false := by
    simp [Nat.toDigits_ne_nil]
  rw [Token.isWord, hfull, toList_written, List.all_append, List.all_append, hdigits,
    Bool.not_false, Bool.true_and, Bool.true_and]

theorem Opcode.isWord_mnemonic (opcode : Opcode) : Token.isWord opcode.mnemonic = true := by
  cases opcode <;> decide

/-- Each operand token is a single token. -/
theorem Instruction.isWord_operandTexts (instruction : Instruction) :
    ∀ text ∈ instruction.operandTexts, Token.isWord text = true := by
  have hplus : Token.isWord "+" = true := by decide
  have hpipe : Token.isWord "|" = true := by decide
  cases instruction <;>
    simp [operandTexts, Operand.isWord_written, hplus, hpipe] <;> decide

end Quartet
