import Quartet.Proofs.Assembly.Digits
import Quartet.Proofs.Check
import Mathlib.Data.List.Basic

namespace Quartet

/-!
# The forms of operands

Each opcode has one form for the tokens after its mnemonic, in which a token is a sigil, a number
and a mark at the end.  Between the number and the mark anything may stand that does not go on
with the number.  What is not of this form breaks a rule, and the rule that is reported is the
first of those the tokens break, in an order that is not always that of the tokens.

* `Operand.Denotes`, `Operand.Spells` — the number that characters start with, and that of a token.
* `Operand.Follows` — the form of each opcode.
* `Operand.checks` — the rules of each form, in the order in which they are checked.
* `Operand.instruction_grammar` — the tokens that give an instruction, and the rule that the
  others break.
-/

namespace Operand

/-! ### Numbers -/

/-- Whether characters start with the decimal number of a word: the longest run of digits that they
    start with is not empty, and has the value of the word. -/
def Denotes (chars : List Char) (value : Word) : Prop :=
  ∃ run, LeadingRun chars run ∧ run ≠ [] ∧ value.toNat = runValue run

/-- The number that is read is the one that the characters start with. -/
theorem number_eq_ok_iff {chars : List Char} {value : Word} :
    number chars = .ok value ↔ Denotes chars value := by
  have hrun := leadingRun_takeWhile chars
  rw [number_eq_ok_of_leadingRun hrun]
  constructor
  · exact fun h => ⟨_, hrun, h⟩
  · rintro ⟨run, hother, h⟩
    rwa [hrun.unique hother]

/-- Characters start with at most one number. -/
theorem Denotes.unique {chars : List Char} {value other : Word} (h : Denotes chars value)
    (h' : Denotes chars other) : value = other := by
  have hvalue := number_eq_ok_iff.mpr h
  rw [number_eq_ok_iff.mpr h'] at hvalue
  exact (Except.ok.inj hvalue).symm

/-- Characters that start with no number, or with one that is too large, are refused. -/
theorem number_eq_error_iff {chars : List Char} {cause : SyntaxError.Cause} :
    number chars = .error cause ↔ (¬ ∃ value, Denotes chars value) ∧ cause = .invalidNumber := by
  cases hnumber : number chars with
  | ok value =>
    have hvalue := number_eq_ok_iff.mp hnumber
    exact iff_of_false nofun fun h => h.1 ⟨value, hvalue⟩
  | error found =>
    have hnone : ¬ ∃ value, Denotes chars value := by
      rintro ⟨value, hvalue⟩
      rw [number_eq_ok_iff.mpr hvalue] at hnumber
      cases hnumber
    have hfound : found = .invalidNumber := by
      unfold number at hnumber
      grind
    rw [hfound, Except.error.injEq]
    simp [hnone, eq_comm]

/-! ### Tokens -/

/-- Whether a token ends with a mark. -/
def Ends (mark token : String) : Prop := mark.toList <:+ token.toList

/-- Whether a token starts with a sigil, in front of the mark at its end. -/
def Opens (sigil mark token : String) : Prop :=
  ∃ rest, token.toList = sigil.toList ++ rest ++ mark.toList

/-- Whether a token is a sigil, a number, perhaps other characters that do not go on with the
    number, and a mark. -/
def Spells (sigil mark token : String) (value : Word) : Prop :=
  ∃ rest, token.toList = sigil.toList ++ rest ++ mark.toList ∧ Denotes rest value

section

variable {mark : Char} {missing : SyntaxError.Cause} {marks token whole : String}
  {tail : List Char}

/-- A mark is taken away from the end of a token. -/
theorem without_eq_ok_iff {rest : String} :
    without mark missing token = .ok rest ↔ token.toList = rest.toList ++ [mark] := by
  constructor
  · intro h
    unfold without at h
    split at h
    case isFalse hother => cases h
    case isTrue hlast =>
      cases h
      obtain ⟨body, hbody⟩ := List.getLast?_eq_some_iff.mp hlast
      rw [String.toList_ofList, hbody, List.dropLast_concat]
  · intro h
    have hlast : token.toList.getLast? = some mark := by rw [h, List.getLast?_concat]
    rw [without, if_pos hlast, h, List.dropLast_concat, String.ofList_toList]

/-- A token whose last marks were taken away but for the first of them has this one at its end
    exactly if it had all of them. -/
theorem governs_without (hmarks : marks.toList = mark :: tail)
    (h : token.toList = whole.toList ++ tail) :
    Check.Governs [⟨Ends marks token, missing⟩] (without mark missing whole) := by
  have hends : Ends marks token ↔ whole.toList.getLast? = some mark := by
    rw [Ends, hmarks, h, List.getLast?_eq_some_iff]
    constructor
    · rintro ⟨body, hbody⟩
      have hwhole : whole.toList ++ tail = body ++ [mark] ++ tail := by
        rw [← hbody, List.append_assoc, List.singleton_append]
      exact ⟨body, List.append_cancel_right hwhole⟩
    · rintro ⟨body, hbody⟩
      exact ⟨body, by rw [hbody, List.append_assoc, List.singleton_append]⟩
  refine Check.Governs.single fun cause => ?_
  show without mark missing whole = _ ↔ ¬ Ends marks token ∧ _
  rw [hends, without]
  split <;> simp_all [eq_comm]

variable (marks) in
/-- What is left of a token when its last marks have been taken away one after the other. -/
theorem toList_of_without {rest : String} (hmarks : marks.toList = mark :: tail)
    (h : token.toList = whole.toList ++ tail) (hrest : without mark missing whole = .ok rest) :
    token.toList = rest.toList ++ marks.toList := by
  rw [h, without_eq_ok_iff.mp hrest, hmarks, List.append_assoc, List.singleton_append]

end

section

variable {sigil mark token whole : String} {missing : SyntaxError.Cause}

/-- A token without its mark starts with a sigil exactly if the token does. -/
theorem isPrefixOf?_eq_some_iff (h : token.toList = whole.toList ++ mark.toList)
    (rest : List Char) :
    sigil.toList.isPrefixOf? whole.toList = some rest ↔
      token.toList = sigil.toList ++ rest ++ mark.toList := by
  rw [List.isPrefixOf?_eq_some_iff_append_eq, h, List.append_left_inj, eq_comm]

/-- What is read of a token without its mark is the number that the token spells. -/
theorem read_eq_ok_iff (h : token.toList = whole.toList ++ mark.toList) (value : Word) :
    read sigil missing whole = .ok value ↔ Spells sigil mark token value := by
  unfold read
  constructor
  · intro hread
    split at hread
    case h_1 rest hrest =>
      exact ⟨rest, (isPrefixOf?_eq_some_iff h rest).mp hrest, number_eq_ok_iff.mp hread⟩
    case h_2 hnone => cases hread
  · rintro ⟨rest, hrest, hvalue⟩
    rw [(isPrefixOf?_eq_some_iff h rest).mpr hrest]
    exact number_eq_ok_iff.mpr hvalue

/-- What is asked of a token between its mark and its end: the sigil, and then a number. -/
def numbered (sigil mark : String) (missing : SyntaxError.Cause) (token : String) :
    List (Check SyntaxError.Cause) :=
  [⟨Opens sigil mark token, missing⟩, ⟨∃ value, Spells sigil mark token value, .invalidNumber⟩]

/-- A token without its mark is read exactly if the token has a sigil and a number. -/
theorem governs_read (h : token.toList = whole.toList ++ mark.toList) :
    Check.Governs (numbered sigil mark missing token) (read sigil missing whole) := by
  intro cause
  rw [numbered, Check.firstFailure_cons_iff, Check.firstFailure_cons_iff]
  cases hsigil : sigil.toList.isPrefixOf? whole.toList with
  | none =>
    have hclosed : ¬ Opens sigil mark token := by
      rintro ⟨rest, hrest⟩
      rw [(isPrefixOf?_eq_some_iff h rest).mpr hrest] at hsigil
      cases hsigil
    simp [read, hsigil, hclosed, eq_comm]
  | some rest =>
    have hrest := (isPrefixOf?_eq_some_iff h rest).mp hsigil
    have hopens : Opens sigil mark token := ⟨rest, hrest⟩
    have hspells : (∃ value, Spells sigil mark token value) ↔ ∃ value, Denotes rest value := by
      refine exists_congr fun value => ?_
      have hread : read sigil missing whole = .ok value ↔ _ := read_eq_ok_iff h value
      rw [← hread, read, hsigil, number_eq_ok_iff]
    rw [read, hsigil]
    simp [number_eq_error_iff, hopens, hspells]

end

/-- A token without any mark is the whole token. -/
theorem unmarked (token : String) : token.toList = token.toList ++ "".toList := by simp

namespace Spells

variable {sigil mark token : String} {value other : Word}

/-- A token that spells a number has its mark. -/
theorem ends (h : Spells sigil mark token value) : Ends mark token := by
  obtain ⟨rest, hrest, -⟩ := h
  exact ⟨_, hrest.symm⟩

/-- A token that spells a number has its sigil. -/
theorem opens (h : Spells sigil mark token value) : Opens sigil mark token := by
  obtain ⟨rest, hrest, -⟩ := h
  exact ⟨rest, hrest⟩

/-- A token spells at most one number. -/
theorem unique (h : Spells sigil mark token value) (h' : Spells sigil mark token other) :
    value = other := by
  obtain ⟨rest, hrest, hvalue⟩ := h
  obtain ⟨rest', hrest', hother⟩ := h'
  have hsame : rest = rest' :=
    List.append_cancel_left (List.append_cancel_right (hrest.symm.trans hrest'))
  exact hvalue.unique (hsame ▸ hother)

/-- A token that spells a number passes the checks for one. -/
theorem holds (h : Spells sigil mark token value) (missing : SyntaxError.Cause) :
    ∀ check ∈ numbered sigil mark missing token, check.Holds := by
  simp only [numbered, List.forall_mem_cons]
  exact ⟨h.opens, ⟨value, h⟩, nofun⟩

end Spells

/-! ### Statements -/

/-- The form of the tokens after a mnemonic, and the instruction they give. -/
inductive Follows : Opcode → List String → Instruction → Prop
  | loadConstant {target constant : String} {destination value : Word}
    (htarget : Spells "R" "," target destination) (hconstant : Spells "#" "" constant value) :
    Follows .loadConstant [target, constant] (.loadConstant destination value)
  | memoryRead {target source : String} {destination base : Word}
    (htarget : Spells "R" "," target destination) (hsource : Spells "[R" "]" source base) :
    Follows .memoryRead [target, source] (.memoryRead base destination)
  | memoryWrite {pointer distance origin : String} {source offset base : Word}
    (hpointer : Spells "[R" "" pointer base) (hdistance : Spells "" "]," distance offset)
    (horigin : Spells "R" "" origin source) :
    Follows .memoryWrite [pointer, "+", distance, origin] (.memoryWrite source offset base)
  | bitwiseOr {target cell origin : String} {destination address source : Word}
    (htarget : Spells "R" "," target destination) (hcell : Spells "[" "]" cell address)
    (horigin : Spells "R" "" origin source) :
    Follows .bitwiseOr [target, cell, "|", origin] (.bitwiseOr destination address source)

/-- What is asked of the tokens after a mnemonic, in the order in which it is asked. -/
def checks : Opcode → List String → List (Check SyntaxError.Cause)
  | .loadConstant, [target, constant] =>
    ⟨Ends "," target, .missingComma⟩ ::
      (numbered "R" "," .invalidRegister target ++ numbered "#" "" .invalidOperand constant)
  | .memoryRead, [target, source] =>
    ⟨Ends "," target, .missingComma⟩ ::
      (numbered "R" "," .invalidRegister target ++
        ⟨Ends "]" source, .invalidOperand⟩ :: numbered "[R" "]" .invalidOperand source)
  | .memoryWrite, [pointer, plus, distance, origin] =>
    ⟨Ends "," distance, .missingComma⟩ :: ⟨plus = "+", .missingPlus⟩ ::
      (numbered "R" "" .invalidRegister origin ++
        ⟨Ends "]," distance, .invalidOperand⟩ ::
          (numbered "" "]," .invalidOperand distance ++
            numbered "[R" "" .invalidOperand pointer))
  | .bitwiseOr, [target, cell, pipe, origin] =>
    ⟨Ends "," target, .missingComma⟩ :: ⟨pipe = "|", .missingPipe⟩ ::
      (numbered "R" "," .invalidRegister target ++
        ⟨Ends "]" cell, .invalidOperand⟩ ::
          (numbered "[" "]" .invalidOperand cell ++
            numbered "R" "" .invalidRegister origin))
  | _, _ => [⟨False, .unexpectedEnd⟩]

/-- Tokens that give an instruction are of the opcode's form. -/
theorem follows_of_instruction {opcode : Opcode} {texts : List String} {i : Instruction}
    (h : instruction opcode texts = .ok i) : Follows opcode texts i := by
  unfold instruction at h
  split at h
  case h_1 target constant =>
    simp only [bind_eq_ok_iff] at h
    obtain ⟨rest, hrest, destination, hdestination, value, hvalue, hi⟩ := h
    cases hi
    have htarget := toList_of_without "," rfl (unmarked target) hrest
    exact .loadConstant ((read_eq_ok_iff htarget _).mp hdestination)
      ((read_eq_ok_iff (unmarked constant) _).mp hvalue)
  case h_2 target source =>
    simp only [bind_eq_ok_iff] at h
    obtain ⟨rest, hrest, destination, hdestination, inner, hinner, base, hbase, hi⟩ := h
    cases hi
    have htarget := toList_of_without "," rfl (unmarked target) hrest
    have hsource := toList_of_without "]" rfl (unmarked source) hinner
    exact .memoryRead ((read_eq_ok_iff htarget _).mp hdestination)
      ((read_eq_ok_iff hsource _).mp hbase)
  case h_3 pointer plus distance origin =>
    simp only [bind_eq_ok_iff] at h
    obtain ⟨rest, hrest, h⟩ := h
    split at h
    case isTrue hplus => cases h
    case isFalse hplus =>
      obtain rfl := Classical.not_not.mp hplus
      simp only [bind_eq_ok_iff] at h
      obtain ⟨source, hsource, inner, hinner, offset, hoffset, base, hbase, hi⟩ := h
      cases hi
      have hcomma := toList_of_without "," rfl (unmarked distance) hrest
      have hdistance := toList_of_without "]," rfl hcomma hinner
      exact .memoryWrite ((read_eq_ok_iff (unmarked pointer) _).mp hbase)
        ((read_eq_ok_iff hdistance _).mp hoffset)
        ((read_eq_ok_iff (unmarked origin) _).mp hsource)
  case h_4 target cell pipe origin =>
    simp only [bind_eq_ok_iff] at h
    obtain ⟨rest, hrest, h⟩ := h
    split at h
    case isTrue hpipe => cases h
    case isFalse hpipe =>
      obtain rfl := Classical.not_not.mp hpipe
      simp only [bind_eq_ok_iff] at h
      obtain ⟨destination, hdestination, inner, hinner, address, haddress, source, hsource, hi⟩ :=
        h
      cases hi
      have htarget := toList_of_without "," rfl (unmarked target) hrest
      have hcell := toList_of_without "]" rfl (unmarked cell) hinner
      exact .bitwiseOr ((read_eq_ok_iff htarget _).mp hdestination)
        ((read_eq_ok_iff hcell _).mp haddress)
        ((read_eq_ok_iff (unmarked origin) _).mp hsource)
  case h_5 => cases h

/-- Tokens give an instruction exactly if they pass all the checks of the opcode's form. -/
theorem governs_instruction (opcode : Opcode) (texts : List String) :
    Check.Governs (checks opcode texts) (instruction opcode texts) := by
  unfold checks
  split
  case h_1 target constant =>
    refine Check.Governs.cons (governs_without rfl (unmarked target)) fun rest hrest => ?_
    have htarget := toList_of_without "," rfl (unmarked target) hrest
    refine Check.Governs.bind (governs_read htarget) fun destination _ => ?_
    exact (governs_read (unmarked constant)).bind_pure _
  case h_2 target source =>
    refine Check.Governs.cons (governs_without rfl (unmarked target)) fun rest hrest => ?_
    have htarget := toList_of_without "," rfl (unmarked target) hrest
    refine Check.Governs.bind (governs_read htarget) fun destination _ => ?_
    refine Check.Governs.cons (governs_without rfl (unmarked source)) fun inner hinner => ?_
    have hsource := toList_of_without "]" rfl (unmarked source) hinner
    exact (governs_read hsource).bind_pure _
  case h_3 pointer plus distance origin =>
    refine Check.Governs.cons (governs_without rfl (unmarked distance)) fun rest hrest => ?_
    refine Check.Governs.stop_unless rfl ?_
    have hcomma := toList_of_without "," rfl (unmarked distance) hrest
    refine Check.Governs.bind (governs_read (unmarked origin)) fun source _ => ?_
    refine Check.Governs.cons (governs_without rfl hcomma) fun inner hinner => ?_
    have hdistance := toList_of_without "]," rfl hcomma hinner
    refine Check.Governs.bind (governs_read hdistance) fun offset _ => ?_
    exact (governs_read (unmarked pointer)).bind_pure _
  case h_4 target cell pipe origin =>
    refine Check.Governs.cons (governs_without rfl (unmarked target)) fun rest hrest => ?_
    refine Check.Governs.stop_unless rfl ?_
    have htarget := toList_of_without "," rfl (unmarked target) hrest
    refine Check.Governs.bind (governs_read htarget) fun destination _ => ?_
    refine Check.Governs.cons (governs_without rfl (unmarked cell)) fun inner hinner => ?_
    have hcell := toList_of_without "]" rfl (unmarked cell) hinner
    refine Check.Governs.bind (governs_read hcell) fun address _ => ?_
    exact (governs_read (unmarked origin)).bind_pure _
  case h_5 =>
    have herror : instruction opcode texts = .error .unexpectedEnd := by
      rw [instruction] <;> assumption
    rw [herror]
    exact Check.Governs.single fun cause => by simp [eq_comm]

/-- Tokens of the opcode's form pass all the checks. -/
theorem Follows.holds {opcode : Opcode} {texts : List String} {i : Instruction}
    (h : Follows opcode texts i) : ∀ check ∈ checks opcode texts, check.Holds := by
  cases h with
  | loadConstant htarget hconstant =>
    simp only [checks, List.forall_mem_cons, List.forall_mem_append]
    exact ⟨htarget.ends, htarget.holds _, hconstant.holds _⟩
  | memoryRead htarget hsource =>
    simp only [checks, List.forall_mem_cons, List.forall_mem_append]
    exact ⟨htarget.ends, htarget.holds _, hsource.ends, hsource.holds _⟩
  | memoryWrite hpointer hdistance horigin =>
    simp only [checks, List.forall_mem_cons, List.forall_mem_append]
    refine ⟨?_, trivial, horigin.holds _, hdistance.ends, hdistance.holds _, hpointer.holds _⟩
    exact List.IsSuffix.trans ⟨[']'], rfl⟩ hdistance.ends
  | bitwiseOr htarget hcell horigin =>
    simp only [checks, List.forall_mem_cons, List.forall_mem_append]
    exact ⟨htarget.ends, trivial, htarget.holds _, hcell.ends, hcell.holds _, horigin.holds _⟩

/-- Tokens of the opcode's form give one instruction. -/
theorem Follows.unique {opcode : Opcode} {texts : List String} {i j : Instruction}
    (h : Follows opcode texts i) (h' : Follows opcode texts j) : i = j := by
  cases h with
  | loadConstant htarget hconstant =>
    cases h' with
    | loadConstant htarget' hconstant' =>
      rw [htarget.unique htarget', hconstant.unique hconstant']
  | memoryRead htarget hsource =>
    cases h' with
    | memoryRead htarget' hsource' => rw [htarget.unique htarget', hsource.unique hsource']
  | memoryWrite hpointer hdistance horigin =>
    cases h' with
    | memoryWrite hpointer' hdistance' horigin' =>
      rw [hpointer.unique hpointer', hdistance.unique hdistance', horigin.unique horigin']
  | bitwiseOr htarget hcell horigin =>
    cases h' with
    | bitwiseOr htarget' hcell' horigin' =>
      rw [htarget.unique htarget', hcell.unique hcell', horigin.unique horigin']

/-- The form of an opcode gives instructions with this opcode. -/
theorem Follows.opcode_eq {opcode : Opcode} {texts : List String} {i : Instruction}
    (h : Follows opcode texts i) : i.opcode = opcode := by
  cases h <;> rfl

/-- Tokens give an instruction exactly if they are of the opcode's form. -/
theorem instruction_eq_ok_iff {opcode : Opcode} {texts : List String} {i : Instruction} :
    instruction opcode texts = .ok i ↔ Follows opcode texts i := by
  constructor
  · exact follows_of_instruction
  · intro h
    obtain ⟨j, hj⟩ := (governs_instruction opcode texts).exists_ok_iff.mpr h.holds
    rw [hj, h.unique (follows_of_instruction hj)]

/-- The tokens after a mnemonic give an instruction exactly if they are of the opcode's form, and
    this form has the operands of the instruction.  All others break a rule, and the error is the
    first rule they break in the order of the checks. -/
theorem instruction_grammar (opcode : Opcode) (texts : List String) :
    (∀ i, instruction opcode texts = .ok i ↔ Follows opcode texts i) ∧
      ∀ cause, instruction opcode texts = .error cause ↔
        Check.FirstFailure (checks opcode texts) cause :=
  ⟨fun _ => instruction_eq_ok_iff, governs_instruction opcode texts⟩

/-- No token of this statement is right; the third of them is asked first. -/
example : instruction .memoryWrite ["1", "-", "5", "6"] = .error .missingComma := by decide

end Operand

end Quartet
