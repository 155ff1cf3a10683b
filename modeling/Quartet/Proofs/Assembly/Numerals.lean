import Quartet.Proofs.Assembly.Digits
import Mathlib.Data.List.Basic

namespace Quartet

/-!
# Numerals in operands

The number of an operand is the run of digits behind the sigil.  The value of this run decides
whether a word holds it, not its length: a run may start with any number of zeros.

* `Operand.leadingRun_append` — the run behind zeros and in front of other characters.
* `Operand.read_numeral` — what a token is read as, or why it is refused.
-/

namespace Operand

/-- Behind its sigil, a token is read as a number. -/
theorem read_of_append {sigil token : String} {rest : List Char} (missing : SyntaxError.Cause)
    (h : token.toList = sigil.toList ++ rest) : read sigil missing token = number rest := by
  have hrest : sigil.toList.isPrefixOf? token.toList = some rest :=
    List.isPrefixOf?_eq_some_iff_append_eq.mpr h.symm
  rw [read, hrest]

/-- The leading run stays the same if zeros come in front of it and something else behind it. -/
theorem leadingRun_append {run junk : List Char} (zeros : Nat) (h : ∀ c ∈ run, c ∈ digits)
    (hjunk : ∀ c ∈ junk.head?, c ∉ digits) :
    LeadingRun (List.replicate zeros '0' ++ run ++ junk) (List.replicate zeros '0' ++ run) := by
  refine leadingRun_of_append (fun c hc => ?_) hjunk
  rcases List.mem_append.mp hc with hzero | hrun
  · rw [List.eq_of_mem_replicate hzero]
    exact List.mem_cons_self
  · exact h c hrun

/-- A token without the sigil is missing.  With it, the token is read as the longest run of digits
    that stands behind the sigil: the number is refused exactly if there is no digit, or the value
    of the run is too large for a word, and otherwise it is this value.  Zeros in front of the run
    do not matter, and what stands behind it does not, as long as no digit follows. -/
theorem read_numeral (sigil : String) (missing : SyntaxError.Cause) (token : String) :
    (¬ sigil.toList <+: token.toList → read sigil missing token = .error missing) ∧
      ∀ rest, token.toList = sigil.toList ++ rest →
        (∃ run, LeadingRun rest run) ∧
          ∀ run, LeadingRun rest run →
            (read sigil missing token = .error .invalidNumber ↔
              run = [] ∨ 2 ^ 32 ≤ runValue run) ∧
            (∀ value, read sigil missing token = .ok value ↔
              run ≠ [] ∧ value.toNat = runValue run) ∧
            ∀ zeros junk, run ≠ [] → (∀ c ∈ junk.head?, c ∉ digits) →
              read sigil missing
                  (String.ofList (sigil.toList ++ (List.replicate zeros '0' ++ run ++ junk)))
                = read sigil missing token := by
  refine ⟨fun hsigil => ?_, fun rest htoken => ⟨⟨_, leadingRun_takeWhile rest⟩, ?_⟩⟩
  · cases hprefix : sigil.toList.isPrefixOf? token.toList with
    | none => rw [read, hprefix]
    | some rest =>
      have happend := List.isPrefixOf?_eq_some_iff_append_eq.mp hprefix
      exact absurd ⟨rest, happend⟩ hsigil
  · intro run hrun
    rw [read_of_append missing htoken]
    refine ⟨?_, number_eq_ok_of_leadingRun hrun, fun zeros junk hne hjunk => ?_⟩
    · rw [number_of_leadingRun hrun]
      split <;> simp_all
    · have hlonger := leadingRun_append zeros hrun.solid hjunk
      have hnone : List.replicate zeros '0' ++ run ≠ [] :=
        List.append_ne_nil_of_right_ne_nil _ hne
      rw [read_of_append missing String.toList_ofList, number_of_leadingRun hlonger,
        number_of_leadingRun hrun, runValue_replicate_zero]
      simp only [hne, hnone, false_or]

/-- The largest word behind zeros and in front of letters, one more than it, a sign, and a digit
    of another script. -/
theorem read_numeral_largest :
    read "#" .invalidOperand "#0000000000004294967295xyz" = .ok 4294967295 ∧
      read "#" .invalidOperand "#4294967296" = .error .invalidNumber ∧
      read "#" .invalidOperand "#+1" = .error .invalidNumber ∧
      read "#" .invalidOperand "#٣" = .error .invalidNumber ∧
      read "#" .invalidOperand "4294967295" = .error .invalidOperand := by
  have hrun : ∀ {chars run : List Char}, chars.takeWhile Char.isDigit = run →
      LeadingRun chars run := leadingRun_iff.mpr
  obtain ⟨-, hplain⟩ := read_numeral "#" .invalidOperand "#4294967295"
  obtain ⟨-, hvalue, hjoined⟩ := (hplain "4294967295".toList rfl).2 _ (hrun rfl)
  obtain ⟨-, hlarge⟩ := read_numeral "#" .invalidOperand "#4294967296"
  obtain ⟨-, hsign⟩ := read_numeral "#" .invalidOperand "#+1"
  obtain ⟨-, hscript⟩ := read_numeral "#" .invalidOperand "#٣"
  refine ⟨?_, ?_, ?_, ?_, ?_⟩
  · have hjunk : ∀ c ∈ "xyz".toList.head?, c ∉ digits := by
      intro c hc
      obtain rfl : 'x' = c := Option.some.inj hc
      decide
    have hsame := hjoined 12 "xyz".toList (by decide) hjunk
    exact hsame.trans ((hvalue _).mpr (by decide))
  · exact ((hlarge "4294967296".toList rfl).2 _ (hrun rfl)).1.mpr (.inr (by decide))
  · exact ((hsign "+1".toList rfl).2 [] (hrun rfl)).1.mpr (.inl rfl)
  · exact ((hscript "٣".toList rfl).2 [] (hrun rfl)).1.mpr (.inl rfl)
  · exact (read_numeral "#" .invalidOperand "4294967295").1 (by decide)

end Operand

end Quartet
