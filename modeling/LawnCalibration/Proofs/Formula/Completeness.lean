import LawnCalibration.Proofs.Formula.Readings

/-
Every derivation is read in full wherever what follows cannot prolong it.

The invariant of the induction says what may follow a phrase: behind an operand
of a level stand operators of that level and of looser ones only, behind a
whole formula a colon or a closing parenthesis.  An operator of a tighter level
would have been taken into the phrase.
-/

set_option autoImplicit false

namespace LawnCalibration.Formula

open Text

namespace Grammar

def Starts (c : Char) : Prop :=
  c ∈ ['(', '-', '!', '.'] ∨ c.isDigit = true ∨ isNameStart c = true

theorem Starts.not_isSpace {c : Char} (hStarts : Starts c) : isSpace c = false := by
  by_contra hSpace
  simp only [isSpace, Bool.not_eq_false, Bool.or_eq_true, beq_iff_eq] at hSpace
  rcases hSpace with ((rfl | rfl) | rfl) | rfl <;> revert hStarts <;> unfold Starts <;> decide

theorem Starts.ne_equals {c : Char} (hStarts : Starts c) : c ≠ '=' := by
  rintro rfl
  revert hStarts
  unfold Starts
  decide

private theorem sign_starts {op : UnaryOp} {text rest : List Char} (hSign : Sign op text rest) :
    ∃ c tail, text = c :: tail ∧ Starts c := by
  cases hSign with
  | minus => exact ⟨'-', rest, rfl, .inl (by decide)⟩
  | mark => exact ⟨'!', rest, rfl, .inl (by decide)⟩
  | word hWord =>
      obtain ⟨c, tail, rfl, hLowered⟩ := hWord.head
      refine ⟨c, tail, rfl, .inr (.inr ?_)⟩
      rcases eq_of_asciiLowered_eq hLowered with rfl | rfl <;> decide

theorem derives_starts {category : Category} {text rest : List Char} {tree : Expr}
    (hTree : Derives category text tree rest) : ∃ c tail, text = c :: tail ∧ Starts c := by
  induction hTree with
  | plain hTree ih => exact ih
  | branches hCondition hMark hYesGap hYes hColon hNoGap hNo ih => exact ih
  | single hTree ih => exact ih
  | joined hLeft hOpGap hOp hRightGap hRight ih => exact ih
  | signed hSign hGap hTree ih => exact sign_starts hSign
  | bare hTree ih => exact ih
  | @parenthesized inside => exact ⟨'(', inside, rfl, .inl (by decide)⟩
  | @number text token rest numeral hToken hNumeral =>
      obtain ⟨c, tail, rfl, hFirst⟩ := hNumeral.head
      refine ⟨c, tail ++ rest, hToken.1, ?_⟩
      rcases hFirst with hDigit | rfl
      · exact .inr (.inl hDigit)
      · exact .inl (by decide)
  | @name text token rest hToken hKeyword =>
      obtain ⟨rfl, ⟨first, others, rfl, hFirst, -⟩, -⟩ := hToken
      exact ⟨first, others ++ rest, rfl, .inr (.inr hFirst)⟩

private theorem derives_skipSpace {category : Category} {text rest : List Char} {tree : Expr}
    (hTree : Derives category text tree rest) : skipSpace text = text := by
  obtain ⟨c, tail, rfl, hStarts⟩ := derives_starts hTree
  exact skipSpace_cons hStarts.not_isSpace

theorem Gap.skipSpace_derives {category : Category} {text phrase rest : List Char} {tree : Expr}
    (hGap : Gap text phrase) (hTree : Derives category phrase tree rest) :
    skipSpace text = phrase := by
  rw [hGap.skipSpace_eq, derives_skipSpace hTree]

/-- An operator is not prolonged by the operand behind it: no operand starts with an equals
sign, and neither does the space in front of one. -/
theorem Gap.head?_ne_equals {category : Category} {text phrase rest : List Char} {tree : Expr}
    (hGap : Gap text phrase) (hTree : Derives category phrase tree rest) :
    text.head? ≠ some '=' := by
  intro hHead
  obtain ⟨after, rfl⟩ := List.head?_eq_some_iff.1 hHead
  have hPhrase : '=' :: after = phrase := by
    rw [← hGap.skipSpace_derives hTree, skipSpace_cons (by decide)]
  obtain ⟨c, tail, rfl, hStarts⟩ := derives_starts hTree
  exact hStarts.ne_equals (List.cons.inj hPhrase).1.symm

/-! ### What may follow a phrase -/

/-- Behind some space stands an operator of this rank or a looser one, an end of a formula, or a
question mark. -/
def Follows (rank : Nat) (rest : List Char) : Prop :=
  ∀ c, (skipSpace rest).head? = some c →
    c ∈ ['?', ':', ')'] ∨ ∃ level : Level, rank ≤ level.rank ∧ c ∈ opens level

/-- Behind some space stands nothing, a colon or a closing parenthesis. -/
def Ends (rest : List Char) : Prop :=
  ∀ c, (skipSpace rest).head? = some c → c ∈ [':', ')']

theorem Follows.mono {rank lower : Nat} {rest : List Char} (hFollows : Follows rank rest)
    (hLower : lower ≤ rank) : Follows lower rest := by
  intro c hHead
  rcases hFollows c hHead with hEnd | ⟨level, hRank, hOpens⟩
  · exact .inl hEnd
  · exact .inr ⟨level, hLower.trans hRank, hOpens⟩

theorem Ends.follows {rank : Nat} {rest : List Char} (hEnds : Ends rest) : Follows rank rest := by
  intro c hHead
  have hEnd := hEnds c hHead
  exact .inl (List.mem_cons_of_mem _ hEnd)

theorem Gap.ends {text after : List Char} {c : Char} (hGap : Gap text (c :: after))
    (hEnd : c ∈ [':', ')']) : Ends text := by
  intro d hHead
  have hSpace : isSpace c = false := by
    have hEither : c = ':' ∨ c = ')' := by simpa using hEnd
    rcases hEither with rfl | rfl <;> decide
  rw [hGap.skipSpace_eq, skipSpace_cons hSpace] at hHead
  cases hHead
  exact hEnd

private theorem not_isSpace_of_opens {level : Level} : ∀ c ∈ opens level, isSpace c = false := by
  cases level <;> simp [opens, isSpace]

private theorem not_end_of_opens {level : Level} :
    ∀ c ∈ opens level, c ∉ ['?', ':', ')'] ∧ ¬ IsExponentMark c := by
  unfold IsExponentMark
  cases level <;> simp [opens]

theorem Operator.skipSpace_eq {level : Level} {op : BinaryOp} {text after : List Char}
    (hOp : Operator level op text after) : skipSpace text = text := by
  obtain ⟨c, tail, rfl, hOpens⟩ := hOp.head
  exact skipSpace_cons (not_isSpace_of_opens c hOpens)

theorem Gap.follows_operator {level : Level} {op : BinaryOp} {text opText after : List Char}
    (hGap : Gap text opText) (hOp : Operator level op opText after) : Follows level.rank text := by
  intro c hHead
  rw [hGap.skipSpace_eq, hOp.skipSpace_eq] at hHead
  obtain ⟨first, tail, rfl, hOpens⟩ := hOp.head
  cases hHead
  exact .inr ⟨level, le_rfl, hOpens⟩

theorem Gap.follows_mark {text after : List Char} (hGap : Gap text ('?' :: after)) (rank : Nat) :
    Follows rank text := by
  intro c hHead
  rw [hGap.skipSpace_eq, skipSpace_cons (by decide)] at hHead
  cases hHead
  exact .inl (by decide)

theorem Follows.operator?_eq_none {level : Level} {rank : Nat} {rest : List Char}
    (hFollows : Follows rank rest) (hRank : level.rank < rank) : level.operator? rest = none := by
  rw [operator?_eq_none_iff]
  by_contra hSome
  obtain ⟨⟨op, after⟩, hSymbol⟩ := Option.ne_none_iff_exists'.1 hSome
  obtain ⟨c, tail, hText, hOpens⟩ := (symbol?_sound hSymbol).head
  rcases hFollows c (by rw [hText, List.head?_cons]) with hEnd | ⟨other, hOther, hOpensOther⟩
  · exact (not_end_of_opens c hOpens).1 hEnd
  · rw [level_eq_of_opens hOpens hOpensOther] at hRank
    omega

/-- No exponent mark follows: the operators that start with a letter start with another one. -/
theorem Follows.not_isExponentMark {rank : Nat} {rest : List Char} (hFollows : Follows rank rest) :
    ∀ c, rest.head? = some c → ¬ IsExponentMark c := by
  intro c hHead hMark
  obtain ⟨tail, rfl⟩ := List.head?_eq_some_iff.1 hHead
  have hSpace : isSpace c = false := by
    rcases hMark with rfl | rfl <;> decide
  rcases hFollows c (by rw [skipSpace_cons hSpace, List.head?_cons]) with hEnd | ⟨level, -, hOpens⟩
  · rcases hMark with rfl | rfl <;> exact absurd hEnd (by decide)
  · exact (not_end_of_opens c hOpens).2 hMark

end Grammar

open Grammar

private theorem yields_readUnary_congr {text other rest : List Char} {tree : Expr}
    (hText : skipSpace text = skipSpace other) :
    Yields (readUnary text) tree rest ↔ Yields (readUnary other) tree rest := by
  rw [yields_readUnary_iff, yields_readUnary_iff, hText]

/-- No sign stands in front of a phrase: neither a minus nor a negation can be read. -/
def Unsigned (text : List Char) : Prop :=
  text.head? ≠ some '-' ∧ dropNot text = none

private theorem unsigned_cons {c : Char} {tail : List Char} (hMinus : c ≠ '-') (hMark : c ≠ '!')
    (hLetter : asciiLowered c ≠ 'n') : Unsigned (c :: tail) := by
  refine ⟨by simpa using hMinus, ?_⟩
  unfold dropNot
  split
  · rename_i hText
    exact absurd (List.cons.inj hText).1 hMark
  · rename_i hText
    exact absurd (List.cons.inj hText).1 hMark
  · simp [dropKeyword, dropWord, hLetter]

private theorem unsigned_of_isNumeral {numeral : Decimal} {token : List Char} (rest : List Char)
    (hNumeral : IsNumeral numeral token) : Unsigned (token ++ rest) := by
  obtain ⟨c, tail, rfl, hFirst⟩ := hNumeral.head
  have hNone : ∀ d ∈ ['-', '!', 'n', 'N'], ¬ (d.isDigit = true ∨ d = '.') := by simp
  have hOther : ∀ d ∈ ['-', '!', 'n', 'N'], c ≠ d :=
    fun d hMember hEq => hNone d hMember (hEq ▸ hFirst)
  refine unsigned_cons (hOther _ (by decide)) (hOther _ (by decide)) ?_
  intro hLowered
  rcases eq_of_asciiLowered_eq hLowered with hSmall | hCapital
  · exact hOther 'n' (by decide) hSmall
  · exact hOther 'N' (by decide) hCapital

/-- A name that is no word operator is not read as a negation either: the negation would have to be
the whole name. -/
private theorem unsigned_of_longest {text token rest : List Char}
    (hToken : Longest IsName text token rest)
    (hKeyword : isKeyword token = false) : Unsigned text := by
  obtain ⟨hText, hName, hEnd⟩ := longest_isName_iff.1 hToken
  have hRun := takeWhile_run hName.forall_isNameChar hEnd
  rw [← hText] at hRun
  obtain ⟨first, others, rfl, hFirst, -⟩ := hName
  rw [List.cons_append] at hText
  refine ⟨?_, ?_⟩
  · rw [hText]
    rintro hMinus
    cases hMinus
    cases hFirst
  · by_contra hSome
    obtain ⟨after, hDrop⟩ := Option.ne_none_iff_exists'.1 hSome
    cases hSign : dropNot_sound hDrop with
    | mark =>
        cases hText
        cases hFirst
    | word hWord =>
        obtain ⟨word, rfl, hLetters, hBoundary⟩ := hWord
        have hChars : ∀ c ∈ word, isNameChar c = true := by
          intro c hMember
          have hLetter := List.mem_map_of_mem (f := asciiLowered) hMember
          rw [hLetters] at hLetter
          have hCases : asciiLowered c = 'n' ∨ asciiLowered c = 'o' ∨ asciiLowered c = 't' := by
            simpa using hLetter
          rcases hCases with hCase | hCase | hCase <;>
            rcases eq_of_asciiLowered_eq hCase with rfl | rfl <;> decide
        rw [takeWhile_run hChars hBoundary] at hRun
        rw [← hRun, isKeyword, hLetters] at hKeyword
        revert hKeyword
        decide

/-! ### Derivations are read -/

/-- What the reader of a category does with a derived phrase.  The chain of a level need not end
with the phrase: an operator of the level may follow. -/
def Accepts : Category → List Char → Expr → List Char → Prop
  | .expr, text, tree, rest => Ends rest → Yields (readExpr text) tree (skipSpace rest)
  | .chain level, text, tree, rest => Follows level.rank rest →
      ∃ front : Front Expr text, front.value = tree ∧ front.rest = rest ∧
        readLevel level text = readChain level text front
  | .unary, text, tree, rest => Follows 1 rest → Yields (readUnary text) tree rest
  | .primary, text, tree, rest => Follows 1 rest →
      Unsigned text ∧ Yields (readPrimary text) tree rest

private theorem yields_readLevel_of_accepts {level : Level} {text rest : List Char} {tree : Expr}
    (hAccepts : Accepts (.chain level) text tree rest) (hFollows : Follows (level.rank + 1) rest) :
    Yields (readLevel level text) tree rest := by
  obtain ⟨front, rfl, rfl, hRead⟩ := hAccepts (hFollows.mono (Nat.le_succ _))
  rw [hRead, readChain_end (hFollows.operator?_eq_none (Nat.lt_succ_self _))]
  exact yields_ok front

private theorem yields_readOperand_of_accepts {level : Level} {text rest : List Char} {tree : Expr}
    (hAccepts : Accepts (operand level) text tree rest) (hFollows : Follows level.rank rest) :
    Yields (readOperand level text) tree rest := by
  rw [yields_readOperand_iff]
  cases level with
  | product => exact hAccepts hFollows
  | disjunction => exact yields_readLevel_of_accepts hAccepts hFollows
  | conjunction => exact yields_readLevel_of_accepts hAccepts hFollows
  | comparison => exact yields_readLevel_of_accepts hAccepts hFollows
  | sum => exact yields_readLevel_of_accepts hAccepts hFollows

private theorem accepts_joined {level : Level}
    {text afterLeft opText afterOp rightText rest : List Char}
    {op : BinaryOp} {left right : Expr} (hLeft : Accepts (.chain level) text left afterLeft)
    (hOpGap : Gap afterLeft opText) (hOp : Operator level op opText afterOp)
    (hRightGap : Gap afterOp rightText) (hRight : Derives (operand level) rightText right rest)
    (hAccepts : Accepts (operand level) rightText right rest) :
    Accepts (.chain level) text (.binary op left right) rest := by
  intro hFollows
  obtain ⟨front, rfl, rfl, hRead⟩ := hLeft (hOpGap.follows_operator hOp)
  have hSymbol := hOp.symbol?_eq fun _ => hRightGap.head?_ne_equals hRight
  have hOpText : skipSpace front.rest = opText := by
    rw [hOpGap.skipSpace_eq, hOp.skipSpace_eq]
  have hTaken : ∃ taken, level.operator? front.rest = some taken := by
    rw [← Option.isSome_iff_exists, ← Option.ne_none_iff_isSome, Ne, operator?_eq_none_iff, hOpText,
      hSymbol]
    exact Option.some_ne_none _
  obtain ⟨taken, hTaken⟩ := hTaken
  obtain ⟨after, hValue, hRest⟩ := operator?_eq_some_iff.1 hTaken
  rw [hOpText, hSymbol] at hValue
  obtain ⟨rfl, rfl⟩ := Prod.mk.inj (Option.some.inj hValue)
  have hRightText : taken.rest = rightText := by
    rw [hRest, hRightGap.skipSpace_derives hRight]
  subst hRightText
  obtain ⟨operand, hOperand, rfl, rfl⟩ := yields_readOperand_of_accepts hAccepts hFollows
  exact ⟨extend front taken operand, rfl, rfl, hRead.trans (readChain_step hTaken hOperand)⟩

private theorem accepts_signed {text afterSign operandText rest : List Char} {op : UnaryOp}
    {tree : Expr}
    (hSign : Sign op text afterSign) (hGap : Gap afterSign operandText)
    (hTree : Derives .unary operandText tree rest) (hAccepts : Accepts .unary operandText tree rest) :
    Accepts .unary text (.unary op tree) rest := by
  intro hFollows
  have hOperand : Yields (readUnary afterSign) tree rest :=
    (yields_readUnary_congr hGap.skipSpace_eq).2 (hAccepts hFollows)
  have hHere : skipSpace text = text := by
    obtain ⟨c, tail, rfl, hStarts⟩ := sign_starts hSign
    exact skipSpace_cons hStarts.not_isSpace
  rw [yields_readUnary_iff, hHere]
  cases op with
  | neg =>
      cases hSign
      exact .inl ⟨afterSign, tree, rfl, hOperand, rfl⟩
  | not =>
      have hDrop := hSign.dropNot_eq (hGap.head?_ne_equals hTree)
      refine .inr ⟨?_, .inl ⟨afterSign, tree, hDrop, hOperand, rfl⟩⟩
      rintro hMinus
      obtain ⟨after, rfl⟩ := List.head?_eq_some_iff.1 hMinus
      cases hSign with
      | word hWord =>
          obtain ⟨c, tail, hText, hLowered⟩ := hWord.head
          cases hText
          exact absurd hLowered (by decide)

private theorem accepts_parenthesized {inside innerText afterInner rest : List Char} {tree : Expr}
    (hOpen : Gap inside innerText) (hTree : Derives .expr innerText tree afterInner)
    (hClose : Gap afterInner (')' :: rest)) (hAccepts : Accepts .expr innerText tree afterInner) :
    Accepts .primary ('(' :: inside) tree rest := by
  intro _
  refine ⟨unsigned_cons (by decide) (by decide) (by decide), yields_readPrimary_iff.2 (.inl ?_)⟩
  refine ⟨inside, skipSpace afterInner, rfl, ?_, ?_⟩
  · rw [hOpen.skipSpace_derives hTree]
    exact hAccepts (hClose.ends (by decide))
  · rw [skipSpace_skipSpace, hClose.skipSpace_eq, skipSpace_cons (by decide)]

private theorem accepts_number {text token rest : List Char} {numeral : Decimal}
    (hToken : Longest SpellsNumeral text token rest) (hNumeral : IsNumeral numeral token) :
    Accepts .primary text (.number numeral.toFloat) rest := by
  intro hFollows
  have hScan := scan_of_longest hToken hNumeral hFollows.not_isExponentMark
  refine ⟨hToken.1 ▸ unsigned_of_isNumeral rest hNumeral, yields_readPrimary_iff.2 (.inr ⟨?_, ?_⟩)⟩
  · obtain ⟨c, tail, rfl, hFirst⟩ := hNumeral.head
    rw [hToken.1, List.cons_append, List.head?_cons]
    rintro hOpen
    cases hOpen
    revert hFirst
    decide
  · exact yields_readAtom_iff.2 (.inl ⟨numeral, hScan, rfl⟩)

private theorem accepts_name {text token rest : List Char} (hToken : Longest IsName text token rest)
    (hKeyword : isKeyword token = false) :
    Accepts .primary text (.variable (String.ofList token)) rest := by
  intro _
  have hName := yields_readName_iff.2 ⟨token, hToken, hKeyword, rfl⟩
  have hUnsigned := unsigned_of_longest hToken hKeyword
  obtain ⟨rfl, ⟨first, others, rfl, hFirst, -⟩, -⟩ := hToken
  have hOther : ∀ d, isNameStart d = false → first ≠ d := by
    rintro d hNot rfl
    rw [hFirst] at hNot
    cases hNot
  have hAbsent : Decimal.scan (first :: (others ++ rest)) = .absent :=
    scan_eq_absent (not_isDigit_of_isNameStart hFirst) (hOther '.' (by decide))
  refine ⟨hUnsigned, yields_readPrimary_iff.2 (.inr ⟨?_, yields_readAtom_iff.2 (.inr ?_)⟩)⟩
  · rw [List.cons_append, List.head?_cons]
    exact fun hOpen => hOther '(' (by decide) (Option.some.inj hOpen)
  · refine ⟨hAbsent, ?_, hName⟩
    intro after
    rw [List.cons_append, scanSign_cons _ (hOther '+' (by decide)) (hOther '-' (by decide)), hAbsent]
    exact Decimal.Scan.noConfusion

/-- By induction on the derivation. -/
theorem accepts_of_derives {category : Category} {text rest : List Char} {tree : Expr}
    (hTree : Derives category text tree rest) : Accepts category text tree rest := by
  induction hTree with
  | plain hTree ih =>
      intro hEnds
      refine yields_readExpr_iff.2 ⟨_, _, yields_readLevel_of_accepts ih hEnds.follows, .inl ⟨?_, rfl, rfl⟩⟩
      intro hMark
      exact absurd (hEnds _ hMark) (by decide)
  | @branches text afterCondition afterMark yesText afterYes afterColon noText rest condition yes no
      hCondition hMark hYesGap hYes hColon hNoGap hNo ihCondition ihYes ihNo =>
      intro hEnds
      refine yields_readExpr_iff.2
        ⟨_, _, yields_readLevel_of_accepts ihCondition (hMark.follows_mark _), .inr ?_⟩
      refine ⟨afterMark, yes, skipSpace afterYes, afterColon, no, ?_, ?_, ?_, ?_, rfl⟩
      · rw [hMark.skipSpace_eq, skipSpace_cons (by decide)]
      · rw [hYesGap.skipSpace_derives hYes]
        exact ihYes (hColon.ends (by decide))
      · rw [skipSpace_skipSpace, hColon.skipSpace_eq, skipSpace_cons (by decide)]
      · rw [hNoGap.skipSpace_derives hNo]
        exact ihNo hEnds
  | single hTree ih =>
      intro hFollows
      obtain ⟨front, hRead, rfl, rfl⟩ := yields_readOperand_of_accepts ih hFollows
      exact ⟨front, rfl, rfl, readLevel_eq hRead⟩
  | joined hLeft hOpGap hOp hRightGap hRight ihLeft ihRight =>
      exact accepts_joined ihLeft hOpGap hOp hRightGap hRight ihRight
  | signed hSign hGap hTree ih => exact accepts_signed hSign hGap hTree ih
  | bare hTree ih =>
      intro hFollows
      obtain ⟨⟨hMinus, hNot⟩, hYields⟩ := ih hFollows
      rw [yields_readUnary_iff, derives_skipSpace hTree]
      exact .inr ⟨hMinus, .inr ⟨hNot, hYields⟩⟩
  | parenthesized hOpen hTree hClose ih => exact accepts_parenthesized hOpen hTree hClose ih
  | number hToken hNumeral => exact accepts_number hToken hNumeral
  | name hToken hKeyword => exact accepts_name hToken hKeyword

end LawnCalibration.Formula
