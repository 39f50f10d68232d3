import LawnCalibration.Proofs.Formula.Recognition

/-
What the readers of formulas take from a text.

Whoever reads a phrase takes something: at least a byte for every node of its
tree, and as many closing parentheses as opening ones.  White space and the
tokens of a formula, parentheses apart, are counted in the same way, so that
every phrase is counted from its parts.
-/

set_option autoImplicit false

namespace LawnCalibration.Formula

open Text
open Grammar

/-- In front of the rest stand at least so many bytes, and parentheses in pairs. -/
def Takes (least : Nat) (text rest : List Char) : Prop :=
  ∃ taken, text = taken ++ rest ∧ least ≤ byteLength taken ∧ taken.count '(' = taken.count ')'

namespace Takes

variable {least more : Nat} {text middle rest token : List Char} {c : Char}

theorem refl (text : List Char) : Takes 0 text text :=
  ⟨[], rfl, Nat.zero_le _, rfl⟩

theorem trans (hFirst : Takes least text middle) (hSecond : Takes more middle rest) :
    Takes (least + more) text rest := by
  obtain ⟨front, rfl, hFront, hFrontPairs⟩ := hFirst
  obtain ⟨back, rfl, hBack, hBackPairs⟩ := hSecond
  refine ⟨front ++ back, (List.append_assoc _ _ _).symm, ?_, ?_⟩
  · rw [byteLength_append]
    omega
  · rw [List.count_append, List.count_append, hFrontPairs, hBackPairs]

theorem mono (hTakes : Takes least text rest) (hLess : more ≤ least) : Takes more text rest := by
  obtain ⟨taken, hText, hLeast, hPairs⟩ := hTakes
  exact ⟨taken, hText, hLess.trans hLeast, hPairs⟩

theorem suffix (hTakes : Takes least text rest) : rest <:+ text := by
  obtain ⟨taken, rfl, -⟩ := hTakes
  exact List.suffix_append taken rest

theorem shorter (hTakes : Takes (least + 1) text rest) : rest.length < text.length := by
  obtain ⟨taken, rfl, hLeast, -⟩ := hTakes
  have hSome : taken ≠ [] := by
    rintro rfl
    exact Nat.not_succ_le_zero least hLeast
  have hLength := List.length_pos_iff.2 hSome
  rw [List.length_append]
  omega

/-- A token without parentheses. -/
private theorem ofToken (hText : text = token ++ rest) (hToken : token ≠ [])
    (hPlain : '(' ∉ token ∧ ')' ∉ token) : Takes 1 text rest := by
  refine ⟨token, hText, ?_, ?_⟩
  · exact (List.length_pos_iff.2 hToken).trans_le (length_le_byteLength token)
  · rw [List.count_eq_zero_of_not_mem hPlain.1, List.count_eq_zero_of_not_mem hPlain.2]

theorem mark (hOpen : c ≠ '(') (hClose : c ≠ ')') : Takes 1 (c :: rest) rest :=
  ofToken List.singleton_append.symm (List.cons_ne_nil c [])
    ⟨fun hMember => hOpen (List.mem_singleton.1 hMember).symm,
      fun hMember => hClose (List.mem_singleton.1 hMember).symm⟩

/-- A pair of parentheses around what is taken. -/
theorem parenthesized (hTakes : Takes least text (')' :: rest)) : Takes least ('(' :: text) rest := by
  obtain ⟨taken, rfl, hLeast, hPairs⟩ := hTakes
  refine ⟨'(' :: (taken ++ [')']), by simp, ?_, ?_⟩
  · rw [byteLength_cons, byteLength_append]
    omega
  · simp [hPairs]

end Takes

theorem Grammar.Gap.takes {text rest : List Char} (hGap : Gap text rest) : Takes 0 text rest := by
  obtain ⟨space, rfl, hSpace⟩ := hGap
  have hNone : ∀ c, isSpace c = false → c ∉ space := by
    intro c hVisible hMember
    rw [hSpace c hMember] at hVisible
    cases hVisible
  refine ⟨space, rfl, Nat.zero_le _, ?_⟩
  rw [List.count_eq_zero_of_not_mem (hNone '(' rfl), List.count_eq_zero_of_not_mem (hNone ')' rfl)]

theorem Grammar.Gap.refl (text : List Char) : Gap text text :=
  ⟨[], rfl, List.forall_mem_nil _⟩

theorem takes_skipSpace (text : List Char) : Takes 0 text (skipSpace text) :=
  (gap_skipSpace text).takes

theorem takes_mark {text rest : List Char} {c : Char} (hMark : skipSpace text = c :: rest)
    (hOpen : c ≠ '(') (hClose : c ≠ ')') : Takes 1 text (skipSpace rest) := by
  have hHere : Takes 1 (skipSpace text) rest := hMark ▸ .mark hOpen hClose
  exact ((takes_skipSpace text).trans (hHere.trans (takes_skipSpace rest))).mono (by decide)

/-- A parenthesis is no letter of a word, whatever its case. -/
theorem Grammar.IsWord.takes {word text rest : List Char} (hWord : IsWord word text rest)
    (hLetters : word ≠ [] ∧ '(' ∉ word ∧ ')' ∉ word) : Takes 1 text rest := by
  obtain ⟨token, hText, rfl, -⟩ := hWord
  obtain ⟨hSome, hOpen, hClose⟩ := hLetters
  refine .ofToken hText (fun hEmpty => hSome (List.map_eq_nil_iff.2 hEmpty))
    ⟨fun hMember => ?_, fun hMember => ?_⟩
  · exact hOpen (List.mem_map.2 ⟨'(', hMember, rfl⟩)
  · exact hClose (List.mem_map.2 ⟨')', hMember, rfl⟩)

theorem Grammar.Operator.takes {level : Level} {op : BinaryOp} {text rest : List Char}
    (hOp : Operator level op text rest) : Takes 1 text rest := by
  have hSymbols : ∀ entry ∈ symbols level, entry.2 ≠ [] ∧ '(' ∉ entry.2 ∧ ')' ∉ entry.2 := by
    cases level <;> decide
  have hWords : ∀ entry ∈ words level, entry.2 ≠ [] ∧ '(' ∉ entry.2 ∧ ')' ∉ entry.2 := by
    cases level <;> decide
  cases hOp with
  | symbol rest hSymbol => exact .ofToken rfl (hSymbols _ hSymbol).1 (hSymbols _ hSymbol).2
  | word hListed hWord => exact hWord.takes (hWords _ hListed)

theorem Grammar.Sign.takes {op : UnaryOp} {text rest : List Char} (hSign : Sign op text rest) :
    Takes 1 text rest := by
  cases hSign with
  | minus => exact .mark (by decide) (by decide)
  | mark => exact .mark (by decide) (by decide)
  | word hWord => exact hWord.takes (by decide)

theorem Grammar.IsName.takes {text token rest : List Char} (hName : IsName token)
    (hText : text = token ++ rest) : Takes 1 text rest := by
  have hChars := hName.forall_isNameChar
  obtain ⟨first, others, rfl, -⟩ := hName
  refine .ofToken hText (List.cons_ne_nil _ _) ⟨fun hMember => ?_, fun hMember => ?_⟩
  · exact absurd (hChars _ hMember) (by decide)
  · exact absurd (hChars _ hMember) (by decide)

theorem Grammar.IsExponent.forall_mem {power : Int} {exponent : List Char}
    (hExponent : IsExponent power exponent) :
    ∀ c ∈ exponent, c.isDigit = true ∨ c ∈ ['e', 'E', '+', '-'] := by
  have hMarks : ∀ {mark}, IsExponentMark mark → mark ∈ ['e', 'E', '+', '-'] := by
    rintro mark (rfl | rfl) <;> decide
  cases hExponent with
  | absent => exact List.forall_mem_nil _
  | unsigned hMark hDigits =>
      exact List.forall_mem_cons.2 ⟨.inr (hMarks hMark), fun c hMember => .inl (hDigits.2 c hMember)⟩
  | plus hMark hDigits =>
      refine List.forall_mem_cons.2 ⟨.inr (hMarks hMark), List.forall_mem_cons.2 ⟨.inr ?_, ?_⟩⟩
      · decide
      · exact fun c hMember => .inl (hDigits.2 c hMember)
  | minus hMark hDigits =>
      refine List.forall_mem_cons.2 ⟨.inr (hMarks hMark), List.forall_mem_cons.2 ⟨.inr ?_, ?_⟩⟩
      · decide
      · exact fun c hMember => .inl (hDigits.2 c hMember)

theorem Grammar.IsNumeral.takes {numeral : Decimal} {text token rest : List Char}
    (hNumeral : IsNumeral numeral token) (hText : text = token ++ rest) : Takes 1 text rest := by
  obtain ⟨first, others, hFirst, -⟩ := hNumeral.head
  obtain ⟨mantissa, exponent, rfl, hMantissa, hExponent⟩ := hNumeral
  have hPlain : ∀ c, c.isDigit = false → c ∉ ['.', 'e', 'E', '+', '-'] → c ∉ mantissa ++ exponent := by
    intro c hDigit hMarks hMember
    rw [List.mem_cons, not_or] at hMarks
    rcases List.mem_append.1 hMember with hMember | hMember
    · rcases hMantissa.forall_mem c hMember with hIs | hPoint
      · rw [hDigit] at hIs
        cases hIs
      · exact hMarks.1 hPoint
    · rcases hExponent.forall_mem c hMember with hIs | hMark
      · rw [hDigit] at hIs
        cases hIs
      · exact hMarks.2 hMark
  refine .ofToken hText (hFirst ▸ List.cons_ne_nil _ _) ⟨?_, ?_⟩
  · exact hPlain '(' rfl (by decide)
  · exact hPlain ')' rfl (by decide)

theorem Expr.nodes_pos (tree : Expr) : 0 < tree.nodes := by
  cases tree <;> simp [Expr.nodes]

/-- By induction on the derivation: every node of the tree has a token of its own. -/
theorem takes_of_derives {category : Category} {text rest : List Char} {tree : Expr}
    (hTree : Derives category text tree rest) : Takes tree.nodes text rest := by
  induction hTree with
  | plain hTree ih => exact ih
  | @branches _ _ _ _ _ _ _ _ condition yes no hCondition hMark hYesGap hYes hColon hNoGap hNo
      ihCondition ihYes ihNo =>
      have hQuestion := hMark.takes.trans (.mark (by decide) (by decide))
      have hSeparator := hColon.takes.trans (.mark (by decide) (by decide))
      have hToNo := (ihCondition.trans hQuestion).trans
        ((hYesGap.takes.trans ihYes).trans (hSeparator.trans hNoGap.takes))
      refine (hToNo.trans ihNo).mono ?_
      rw [Expr.nodes]
      omega
  | single hTree ih => exact ih
  | joined hLeft hOpGap hOp hRightGap hRight ihLeft ihRight =>
      have hToRight := ihLeft.trans ((hOpGap.takes.trans hOp.takes).trans hRightGap.takes)
      refine (hToRight.trans ihRight).mono ?_
      rw [Expr.nodes]
      omega
  | signed hSign hGap hTree ih =>
      refine (hSign.takes.trans (hGap.takes.trans ih)).mono ?_
      rw [Expr.nodes]
      omega
  | bare hTree ih => exact ih
  | parenthesized hOpen hTree hClose ih =>
      refine ((hOpen.takes.trans ih).trans hClose.takes).parenthesized.mono ?_
      omega
  | number hToken hNumeral => exact hNumeral.takes hToken.1
  | name hToken hKeyword => exact hToken.2.1.takes hToken.1

/-- The reader of a category; each of them passes over the space in front of its phrase. -/
def Grammar.Category.read : Category → (text : List Char) → Reading text
  | .expr, text => readExpr text
  | .chain level, text => readLevel level text
  | .unary, text => readUnary text
  | .primary, text => (readPrimary (skipSpace text)).widen (skipSpace_suffix text)

theorem read_operand (level : Level) (text : List Char) :
    (operand level).read text = readOperand level text := by
  rw [readOperand]
  cases level <;> rfl

private theorem soundOperand_everywhere (level : Level) (text : List Char) :
    SoundOperand level text := by
  induction hLength : text.length using Nat.strong_induction_on generalizing level text with
  | _ size ih =>
      exact soundOperand (fun inner _ => soundExpr inner)
        (fun level inner hShorter => ih _ (hLength ▸ hShorter) level inner rfl) level

/-- What is read is a phrase behind space, with some of the space behind it. -/
theorem derives_of_read {category : Category} {text rest : List Char} {tree : Expr}
    (hYields : Yields (category.read text) tree rest) :
    ∃ after, Derives category (skipSpace text) tree after ∧ Gap after rest := by
  cases category with
  | expr =>
      obtain ⟨after, hTree, rfl⟩ := soundExpr text tree rest hYields
      exact ⟨after, hTree, gap_skipSpace after⟩
  | chain level =>
      have hTree := soundLevel (soundOperand_everywhere level text)
        (fun inner _ => soundOperand_everywhere level inner) tree rest hYields
      exact ⟨rest, hTree, .refl rest⟩
  | unary =>
      have hTree := derives_of_readUnary (fun inner _ => soundExpr inner)
        (fun inner _ => soundOperand_everywhere .product inner) hYields
      exact ⟨rest, hTree, .refl rest⟩
  | primary =>
      have hTree := derives_of_readPrimary (fun inner _ => soundExpr inner)
        ((yields_widen_iff _).1 hYields)
      exact ⟨rest, hTree, .refl rest⟩

theorem takes_of_read {category : Category} {text rest : List Char} {tree : Expr}
    (hYields : Yields (category.read text) tree rest) : Takes tree.nodes text rest := by
  obtain ⟨after, hTree, hGap⟩ := derives_of_read hYields
  refine ((takes_skipSpace text).trans ((takes_of_derives hTree).trans hGap.takes)).mono ?_
  omega

end LawnCalibration.Formula
