import LawnCalibration.Proofs.Formula.Prefixes
import LawnCalibration.Proofs.Formula.Recognition

/-
Where the reader of formulas gives up.

A position counts the bytes of a front of the trimmed text.  Where it stands in
front of characters that were not expected, that front is a formula: a derivation
does not look past its phrase.  It is also the longest front that is one, for a
reading of more text would not have stopped there.
-/

set_option autoImplicit false

namespace LawnCalibration.Formula

open Text
open Grammar

namespace Grammar

theorem Sign.cut {op : UnaryOp} {text rest tail : List Char}
    (hSign : Sign op (text ++ tail) (rest ++ tail)) : Sign op text rest := by
  generalize hText : text ++ tail = whole at hSign
  generalize hLeft : rest ++ tail = left at hSign
  cases hSign with
  | minus =>
      rw [← hLeft, ← List.cons_append, List.append_left_inj] at hText
      exact hText ▸ .minus rest
  | mark =>
      rw [← hLeft, ← List.cons_append, List.append_left_inj] at hText
      exact hText ▸ .mark rest
  | word hWord =>
      subst hText hLeft
      exact .word hWord.cut

/-- By induction on the derivation, from what it leaves back to its text. -/
private theorem derives_cut {category : Category} {text rest tail : List Char} {tree : Expr}
    (hTree : Derives category text tree (rest ++ tail)) :
    ∃ front, text = front ++ tail ∧ Derives category front tree rest := by
  generalize hLeft : rest ++ tail = left at hTree
  induction hTree generalizing rest with
  | plain hTree ih =>
      obtain ⟨front, rfl, hFront⟩ := ih hLeft
      exact ⟨front, rfl, .plain hFront⟩
  | branches hCondition hMark hYesGap hYes hColon hNoGap hNo ihCondition ihYes ihNo =>
      obtain ⟨noText, rfl, hNoFront⟩ := ihNo hLeft
      obtain ⟨afterColon, rfl, -⟩ := exists_front_of_suffix hNoGap.suffix
      obtain ⟨afterYes, rfl, -⟩ := exists_front_of_suffix ((List.suffix_cons _ _).trans hColon.suffix)
      obtain ⟨yesText, rfl, hYesFront⟩ := ihYes rfl
      obtain ⟨afterMark, rfl, -⟩ := exists_front_of_suffix hYesGap.suffix
      obtain ⟨afterCondition, rfl, -⟩ :=
        exists_front_of_suffix ((List.suffix_cons _ _).trans hMark.suffix)
      obtain ⟨front, rfl, hFront⟩ := ihCondition rfl
      exact ⟨front, rfl,
        .branches hFront hMark.cut hYesGap.cut hYesFront hColon.cut hNoGap.cut hNoFront⟩
  | single hTree ih =>
      obtain ⟨front, rfl, hFront⟩ := ih hLeft
      exact ⟨front, rfl, .single hFront⟩
  | joined _ hOpGap hOp hRightGap _ ihLeft ihRight =>
      obtain ⟨rightText, rfl, hRightFront⟩ := ihRight hLeft
      obtain ⟨afterOp, rfl, -⟩ := exists_front_of_suffix hRightGap.suffix
      obtain ⟨opText, rfl, -⟩ := exists_front_of_suffix hOp.suffix
      obtain ⟨afterLeft, rfl, -⟩ := exists_front_of_suffix hOpGap.suffix
      obtain ⟨front, rfl, hFront⟩ := ihLeft rfl
      exact ⟨front, rfl, .joined hFront hOpGap.cut hOp.cut hRightGap.cut hRightFront⟩
  | signed hSign hGap _ ih =>
      obtain ⟨operandText, rfl, hOperand⟩ := ih hLeft
      obtain ⟨afterSign, rfl, -⟩ := exists_front_of_suffix hGap.suffix
      obtain ⟨front, rfl, -⟩ := exists_front_of_suffix hSign.suffix
      exact ⟨front, rfl, .signed hSign.cut hGap.cut hOperand⟩
  | bare hTree ih =>
      obtain ⟨front, rfl, hFront⟩ := ih hLeft
      exact ⟨front, rfl, .bare hFront⟩
  | parenthesized hOpen _ hClose ih =>
      subst hLeft
      obtain ⟨afterInner, rfl, -⟩ :=
        exists_front_of_suffix ((List.suffix_cons _ _).trans hClose.suffix)
      obtain ⟨innerText, rfl, hInner⟩ := ih rfl
      obtain ⟨inside, rfl, -⟩ := exists_front_of_suffix hOpen.suffix
      exact ⟨'(' :: inside, rfl, .parenthesized hOpen.cut hInner hClose.cut⟩
  | number hToken hNumeral =>
      subst hLeft
      obtain ⟨front, rfl, -⟩ := exists_front_of_suffix (hToken.1 ▸ List.suffix_append _ _)
      exact ⟨front, rfl, .number hToken.cut hNumeral⟩
  | name hToken hKeyword =>
      subst hLeft
      obtain ⟨front, rfl, -⟩ := exists_front_of_suffix (hToken.1 ▸ List.suffix_append _ _)
      exact ⟨front, rfl, .name hToken.cut hKeyword⟩

/-! ### The last character of a phrase -/

private theorem not_isBlank_of_isNameChar {c : Char} (hChar : isNameChar c = true) :
    isBlank c = false := by
  have hRange : 48 ≤ c.toNat ∧ c.toNat ≤ 122 := by
    simp only [isNameChar, Char.isAlphanum, Char.isAlpha, Char.isUpper, Char.isLower, Char.isDigit,
      Bool.or_eq_true, Bool.and_eq_true, decide_eq_true_eq, beq_iff_eq, ge_iff_le,
      UInt32.le_iff_toNat_le] at hChar
    rcases hChar with ((hUpper | hLower) | hDigit) | rfl
    · exact ⟨le_trans (by decide) hUpper.1, le_trans hUpper.2 (by decide)⟩
    · exact ⟨le_trans (by decide) hLower.1, le_trans hLower.2 (by decide)⟩
    · exact ⟨le_trans (by decide) hDigit.1, le_trans hDigit.2 (by decide)⟩
    · decide
  simp only [isBlank, Bool.or_eq_false_iff, Bool.and_eq_false_iff, decide_eq_false_iff_not,
    beq_eq_false_iff_ne]
  omega

private theorem not_isBlank_of_isDigit {c : Char} (hDigit : c.isDigit = true) : isBlank c = false :=
  not_isBlank_of_isNameChar (by simp [isNameChar, Char.isAlphanum, hDigit])

theorem IsExponent.not_isBlank {power : Int} {exponent : List Char}
    (hExponent : IsExponent power exponent) : ∀ c ∈ exponent, isBlank c = false := by
  have hMarkBlank {mark : Char} (hMark : IsExponentMark mark) : isBlank mark = false := by
    rcases hMark with rfl | rfl <;> decide
  have hDigitsBlank {digits : List Char} (hDigits : IsDigits digits) :
      ∀ c ∈ digits, isBlank c = false := fun c hMember => not_isBlank_of_isDigit (hDigits.2 c hMember)
  cases hExponent with
  | absent => exact nofun
  | unsigned hMark hDigits => simpa [hMarkBlank hMark] using hDigitsBlank hDigits
  | plus hMark hDigits => simpa [hMarkBlank hMark] using ⟨by decide, hDigitsBlank hDigits⟩
  | minus hMark hDigits => simpa [hMarkBlank hMark] using ⟨by decide, hDigitsBlank hDigits⟩

theorem IsNumeral.not_isBlank {numeral : Decimal} {token : List Char}
    (hNumeral : IsNumeral numeral token) : ∀ c ∈ token, isBlank c = false := by
  obtain ⟨mantissa, exponent, rfl, hMantissa, hExponent⟩ := hNumeral
  intro c hMember
  rcases List.mem_append.1 hMember with hMember | hMember
  · rcases hMantissa.forall_mem c hMember with hDigit | rfl
    · exact not_isBlank_of_isDigit hDigit
    · decide
  · exact hExponent.not_isBlank c hMember

/-- A token that is not empty ends in its last character. -/
private theorem exists_last {token : List Char} (rest : List Char) (hToken : token ≠ [])
    (hBlank : ∀ c ∈ token, isBlank c = false) : ∃ c, isBlank c = false ∧ c :: rest <:+ token ++ rest := by
  refine ⟨token.getLast hToken, hBlank _ (List.getLast_mem hToken), token.dropLast, ?_⟩
  rw [← List.singleton_append, ← List.append_assoc, List.dropLast_append_getLast]

/-- No phrase ends in white space. -/
private theorem derives_last {category : Category} {text rest : List Char} {tree : Expr}
    (hTree : Derives category text tree rest) : ∃ c, isBlank c = false ∧ c :: rest <:+ text := by
  induction hTree with
  | plain hTree ih => exact ih
  | branches hCondition hMark hYesGap hYes hColon hNoGap hNo ihCondition ihYes ihNo =>
      obtain ⟨c, hBlank, hLast⟩ := ihNo
      have hToMark := (List.suffix_cons _ _).trans (hMark.suffix.trans (derives_suffix hCondition))
      have hToYes := (derives_suffix hYes).trans (hYesGap.suffix.trans hToMark)
      have hToColon := (List.suffix_cons _ _).trans (hColon.suffix.trans hToYes)
      exact ⟨c, hBlank, hLast.trans (hNoGap.suffix.trans hToColon)⟩
  | single hTree ih => exact ih
  | joined hLeft hOpGap hOp hRightGap hRight ihLeft ihRight =>
      obtain ⟨c, hBlank, hLast⟩ := ihRight
      have hToOp := hOp.suffix.trans (hOpGap.suffix.trans (derives_suffix hLeft))
      exact ⟨c, hBlank, hLast.trans (hRightGap.suffix.trans hToOp)⟩
  | signed hSign hGap hTree ih =>
      obtain ⟨c, hBlank, hLast⟩ := ih
      exact ⟨c, hBlank, hLast.trans (hGap.suffix.trans hSign.suffix)⟩
  | bare hTree ih => exact ih
  | parenthesized hOpen hTree hClose ih =>
      have hToInner := (derives_suffix hTree).trans (hOpen.suffix.trans (List.suffix_cons '(' _))
      exact ⟨')', by decide, hClose.suffix.trans hToInner⟩
  | number hToken hNumeral =>
      obtain ⟨c, tail, rfl, -⟩ := hNumeral.head
      rw [hToken.1]
      exact exists_last _ (List.cons_ne_nil c tail) hNumeral.not_isBlank
  | name hToken hKeyword =>
      obtain ⟨hText, hName, -⟩ := hToken
      obtain ⟨first, others, rfl, -⟩ := id hName
      rw [hText]
      exact exists_last _ (List.cons_ne_nil first others) fun c hMember =>
        not_isBlank_of_isNameChar (hName.forall_isNameChar c hMember)

theorem Starts.not_isBlank {c : Char} (hStarts : Starts c) : isBlank c = false := by
  rcases hStarts with hMark | hDigit | hName
  · simp only [List.mem_cons, List.not_mem_nil, or_false] at hMark
    rcases hMark with rfl | rfl | rfl | rfl <;> decide
  · exact not_isBlank_of_isDigit hDigit
  · exact not_isBlank_of_isNameChar (isNameChar_of_isNameStart hName)

/-- Of a phrase with white space behind it the phrase is left. -/
private theorem trim_phrase {category : Category} {phrase blanks : List Char} {tree : Expr}
    (hTree : Derives category phrase tree []) (hBlanks : ∀ c ∈ blanks, isBlank c = true) :
    trim (phrase ++ blanks) = phrase := by
  obtain ⟨first, others, hFirst, hStarts⟩ := derives_starts hTree
  have hStart : trimStart (phrase ++ blanks) = phrase ++ blanks := by
    refine trimStart_eq_self fun c hHead => ?_
    rw [hFirst] at hHead
    obtain rfl := Option.some.inj hHead
    exact hStarts.not_isBlank
  obtain ⟨last, hLast, front, rfl⟩ := derives_last hTree
  rw [trim, hStart, List.append_assoc, List.singleton_append, trimEnd_append_cons _ _ hLast,
    trimEnd_eq_nil hBlanks]

end Grammar

private theorem trimStart_skipSpace (text : List Char) : trimStart
    (skipSpace text) = trimStart text := by
  obtain ⟨space, hText, hSpace⟩ := gap_skipSpace text
  have hBlank : ∀ c ∈ space, isBlank c = true := fun c hMember => isBlank_of_isSpace (hSpace c hMember)
  conv_rhs => rw [hText, trimStart, List.dropWhile_append_of_pos hBlank]
  rfl

/-- In front of what a reading leaves stand a phrase and white space. -/
private theorem exists_phrase {text rest : List Char} {tree : Expr}
    (hYields : Yields (readExpr (trim text)) tree rest) :
    ∃ phrase blanks, trim text = phrase ++ blanks ++ trimStart rest ∧
      (∀ c ∈ blanks, isBlank c = true) ∧ Derives .expr phrase tree [] := by
  obtain ⟨after, hTree, rfl⟩ := soundExpr (trim text) tree rest hYields
  rw [skipSpace_trim] at hTree
  obtain ⟨phrase, hText, hPhrase⟩ :=
    derives_cut (show Derives .expr (trim text) tree ([] ++ after) from hTree)
  refine ⟨phrase, after.takeWhile isBlank, ?_, forall_mem_takeWhile, hPhrase⟩
  rw [trimStart_skipSpace, List.append_assoc, trimStart, List.takeWhile_append_dropWhile, hText]

/-- A phrase at the front of a text within the bounds is a formula. -/
theorem parse_phrase {phrase blanks behind : List Char} {tree : Expr}
    (hTree : Derives .expr phrase tree []) (hBlanks : ∀ c ∈ blanks, isBlank c = true)
    (hLength : byteLength (phrase ++ blanks ++ behind) ≤ maxLength)
    (hNests : NestsWithin maxDepth (phrase ++ blanks ++ behind)) :
    parse (String.ofList (phrase ++ blanks)) = .ok tree := by
  obtain ⟨first, others, hFirst, -⟩ := derives_starts hTree
  have hYields : Yields (readExpr phrase) tree [] := accepts_of_derives hTree (by simp [Ends, skipSpace])
  rw [List.append_assoc] at hLength hNests
  rw [byteLength_append] at hLength
  rw [parse, String.toList_ofList, trim_phrase hTree hBlanks, parseChars_eq_ok_iff]
  refine ⟨by simp [hFirst], by omega, ?_, [], hYields, rfl⟩
  exact fun part hPart => hNests part (hPart.trans (List.prefix_append _ _).isInfix)

private theorem not_isSpace_of_not_isBlank {c : Char} (hBlank : isBlank c = false) :
    isSpace c = false := by
  by_contra hSpace
  rw [isBlank_of_isSpace (by simpa using hSpace)] at hBlank
  cases hBlank

/-- A front of a trimmed text is only trimmed behind its last visible character. -/
private theorem trim_front {text front more behind : List Char} {c : Char}
    (hText : trim text = front ++ c :: more ++ behind) (hBlank : isBlank c = false) :
    trim (front ++ c :: more) = front ++ c :: trimEnd more := by
  have hStart : trimStart (front ++ c :: more) = front ++ c :: more := by
    refine trimStart_eq_self fun d hHead => ?_
    have hFirst : (trim text).head? = some d := by
      rw [hText, List.head?_append, hHead]
      rfl
    exact isBlank_head?_trim hFirst
  rw [trim, hStart, trimEnd_append_cons _ _ hBlank]

/-- A longer front of the text shows a character that the reading left. -/
private theorem exists_more {text front rest longer : List Char}
    (hText : text = front ++ trimStart rest)
    (hPrefix : longer <+: text) (hLonger : front.length < longer.length) :
    ∃ c more behind, isBlank c = false ∧ longer = front ++ c :: more ∧
      trimStart rest = c :: more ++ behind := by
  obtain ⟨shown, rfl⟩ :=
    List.prefix_of_prefix_length_le (hText ▸ List.prefix_append _ _) hPrefix hLonger.le
  obtain ⟨behind, hBehind⟩ := hPrefix
  have hLeft : trimStart rest = shown ++ behind := by
    rw [← hBehind, List.append_assoc] at hText
    exact (List.append_cancel_left hText).symm
  obtain ⟨c, more, rfl⟩ : ∃ c more, shown = c :: more := by
    refine List.exists_cons_of_ne_nil ?_
    rintro rfl
    simp at hLonger
  have hHead : (rest.dropWhile isBlank).head? = some c := congrArg List.head? hLeft
  exact ⟨c, more, behind, head?_dropWhile_run hHead, rfl, hLeft⟩

/-- The reading of a longer front would not stop where the reading of the text does. -/
theorem parse_longer_ne_ok {text front rest longer : List Char} {tree : Expr}
    (hYields : Yields (readExpr (trim text)) tree rest) (hText : trim text = front ++ trimStart rest)
    (hPrefix : longer <+: trim text) (hLonger : front.length < longer.length) (other : Expr) :
    parse (String.ofList longer) ≠ .ok other := by
  intro hParse
  obtain ⟨c, more, behind, hBlank, rfl, hLeft⟩ := exists_more hText hPrefix hLonger
  have hFront : trim text = front ++ c :: more ++ behind := by
    rw [hText, hLeft, List.append_assoc]
  -- the longer front is read without the white space at its end
  have hTrim := trim_front hFront hBlank
  obtain ⟨blanks, hMore⟩ := trimEnd_prefix more
  obtain ⟨space, hRest⟩ := trimStart_suffix rest
  rw [parse, String.toList_ofList, parseChars_eq_ok_iff] at hParse
  obtain ⟨-, -, -, after, hShort, hAfter⟩ := hParse
  have hNone : after = [] := eq_nil_of_suffix_trim hShort.suffix (trim_eq_nil_iff.1 hAfter)
  rw [hTrim] at hShort
  generalize trimEnd more = kept at hMore hShort
  subst hMore
  have hLong : Yields (readExpr ((front ++ c :: kept) ++ (blanks ++ behind))) tree
      ((space ++ c :: kept) ++ (blanks ++ behind)) := by
    have hSameText : (front ++ c :: kept) ++ (blanks ++ behind) = trim text := by
      rw [hFront]
      simp
    have hSameRest : (space ++ c :: kept) ++ (blanks ++ behind) = rest := by
      rw [← hRest, hLeft]
      simp
    rwa [hSameText, hSameRest]
  have hVisible : Visible (space ++ c :: kept) :=
    ⟨c, by simp, not_isSpace_of_not_isBlank hBlank⟩
  have hSame := settles_readExpr _ _ _ tree other after hVisible hLong hShort
  rw [hNone] at hSame
  exact hVisible.ne_nil hSame.symm

/-! ### Positions -/

theorem parseChars_malformed {source : List Char} {position : Nat} {problem : SyntaxProblem}
    (hFails : parseChars source = .error (.malformed position problem)) :
    byteLength source ≤ maxLength ∧ NestsWithin maxDepth source ∧
      ((∃ stop : Stop source, position = byteLength source - byteLength stop.remaining ∧
          problem = .expected stop.expected) ∨
        ∃ tree rest, Yields (readExpr source) tree rest ∧ trim rest ≠ [] ∧
          position = byteLength source - byteLength (trim rest) ∧
          problem = .unexpected (String.ofList (trim rest))) := by
  unfold parseChars at hFails
  split at hFails
  · cases hFails
  · split at hFails
    · cases hFails
    · rename_i hLength
      split at hFails
      · cases hFails
      · rename_i hDepth
        refine ⟨Nat.not_lt.1 hLength, ?_, ?_⟩
        · rw [← opensMoreThan_zero_eq_false_iff]
          simpa using hDepth
        · split at hFails
          · rename_i stop _
            cases hFails
            exact .inl ⟨stop, rfl, rfl⟩
          · rename_i front hRead
            split at hFails
            · cases hFails
            · rename_i hLeft
              cases hFails
              exact .inr ⟨front.value, front.rest, ⟨front, hRead, rfl, rfl⟩, hLeft, rfl, rfl⟩

/-- The bytes in front of an end of a text. -/
private theorem byteLength_front {text front behind : List Char} (hText : text = front ++ behind) :
    byteLength text - byteLength behind = byteLength front := by
  rw [hText, byteLength_append, Nat.add_sub_cancel]

private theorem unexpected_of_message {problem : SyntaxProblem} {rest : String}
    (hMessage : problem.message = "unexpected characters: '" ++ rest ++ "'") :
    problem = .unexpected rest := by
  cases problem with
  | expected what =>
      have hExpected : "expected ".toList.head? = some 'e' := by decide
      have hUnexpected : "unexpected characters: '".toList.head? = some 'u' := by decide
      change "expected " ++ what.label = _ at hMessage
      have hHead := congrArg (fun message : String => message.toList.head?) hMessage
      simp only [String.toList_append, List.head?_append, hExpected, hUnexpected, Option.some_or]
        at hHead
      exact absurd hHead (by decide)
  | unexpected found =>
      change "unexpected characters: '" ++ found ++ "'" = _ at hMessage
      have hChars := congrArg String.toList hMessage
      simp only [String.toList_append] at hChars
      have hSame := List.append_cancel_left (List.append_cancel_right hChars)
      rw [String.toList_inj.1 hSame]

/-- The position of a syntax error divides the trimmed text between two characters.  Where the
message shows characters that were not expected, these are all that stands behind the position;
what stands in front of it is a formula, and no longer front of the text is one. -/
theorem malformed_position_divides_text {text : String} {position : Nat} {problem : SyntaxProblem}
    (hFails : parse text = .error (.malformed position problem)) :
    (∃ front behind, trim text.toList = front ++ behind ∧ byteLength front = position) ∧
    ∀ rest : String, problem.message = "unexpected characters: '" ++ rest ++ "'" →
      rest ≠ "" ∧ ∃ front, trim text.toList = front ++ rest.toList ∧ byteLength front = position ∧
        (∃ tree, parse (String.ofList front) = .ok tree) ∧
        ∀ longer, longer <+: trim text.toList → front.length < longer.length →
          ∀ tree, parse (String.ofList longer) ≠ .ok tree := by
  obtain ⟨hLength, hNests, ⟨stop, rfl, rfl⟩ | ⟨tree, left, hYields, hLeft, rfl, rfl⟩⟩ :=
    parseChars_malformed hFails
  · obtain ⟨front, hText⟩ := stop.suffix
    refine ⟨⟨front, stop.remaining, hText.symm, (byteLength_front hText.symm).symm⟩, ?_⟩
    intro rest hMessage
    cases unexpected_of_message hMessage
  · rw [trim_of_suffix_trim hYields.suffix] at hLeft ⊢
    obtain ⟨phrase, blanks, hText, hBlanks, hTree⟩ := exists_phrase hYields
    have hPosition := (byteLength_front hText).symm
    refine ⟨⟨_, _, hText, hPosition⟩, ?_⟩
    intro rest hMessage
    obtain rfl := SyntaxProblem.unexpected.inj (unexpected_of_message hMessage)
    rw [String.toList_ofList]
    rw [hText] at hLength hNests
    refine ⟨?_, phrase ++ blanks, hText, hPosition, ⟨tree, parse_phrase hTree hBlanks hLength hNests⟩, ?_⟩
    · simpa using hLeft
    · intro longer hPrefix hLonger other
      exact parse_longer_ne_ok hYields hText hPrefix hLonger other

def brokenSum : String :=
  " rate + 2e1 \u00a0\u00e9 "

theorem brokenSum_divided :
    parse brokenSum = .error (.malformed 13 (.unexpected "\u00e9")) ∧
      ∃ front, trim brokenSum.toList = front ++ "\u00e9".toList ∧ byteLength front = 13 ∧
        (∃ tree, parse (String.ofList front) = .ok tree) ∧
        ∀ longer, longer <+: trim brokenSum.toList → front.length < longer.length →
          ∀ tree, parse (String.ofList longer) ≠ .ok tree := by
  have hFails : parse brokenSum = .error (.malformed 13 (.unexpected "\u00e9")) := by
    decide +kernel
  exact ⟨hFails, ((malformed_position_divides_text hFails).2 "\u00e9" rfl).2⟩

end LawnCalibration.Formula
