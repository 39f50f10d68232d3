import LawnCalibration.Proofs.Formula.Soundness

/-
Readings that do not depend on what stands further behind.

A reader that stops in front of something visible has not seen what stands
behind that.  With the text cut there, it stops in the same place or fails: an
operator or a negation that only the cut completes has no operand.
-/

set_option autoImplicit false

namespace LawnCalibration.Formula

open Text
open Grammar

def Visible (text : List Char) : Prop :=
  ∃ c ∈ text, isSpace c = false

section Ends

variable {text rest tail : List Char}

theorem Visible.of_suffix (hVisible : Visible rest) (hSuffix : rest <:+ text) : Visible text := by
  obtain ⟨c, hMember, hSpace⟩ := hVisible
  exact ⟨c, hSuffix.subset hMember, hSpace⟩

theorem Visible.skipSpace_ne_nil (hVisible : Visible text) : skipSpace text ≠ [] := by
  obtain ⟨c, hMember, hSpace⟩ := hVisible
  rw [skipSpace, ne_eq, List.dropWhile_eq_nil_iff]
  intro hAll
  rw [hAll c hMember] at hSpace
  cases hSpace

theorem Visible.skipSpace_append (hVisible : Visible text) (tail : List Char) :
    skipSpace (text ++ tail) = skipSpace text ++ tail := by
  have hSome : (text.dropWhile isSpace).isEmpty = false :=
    List.isEmpty_eq_false_iff.2 hVisible.skipSpace_ne_nil
  rw [skipSpace, List.dropWhile_append, hSome]
  rfl

theorem Visible.ne_nil (hVisible : Visible text) : text ≠ [] := by
  rintro rfl
  obtain ⟨c, hMember, -⟩ := hVisible
  cases hMember

theorem exists_front_of_suffix (hSuffix : rest ++ tail <:+ text) :
    ∃ front, text = front ++ tail ∧ rest <:+ front := by
  obtain ⟨before, rfl⟩ := hSuffix
  exact ⟨before ++ rest, by rw [List.append_assoc], List.suffix_append before rest⟩

private theorem suffix_of_append (hSuffix : rest ++ tail <:+ text ++ tail) : rest <:+ text := by
  obtain ⟨front, hFront, hRest⟩ := exists_front_of_suffix hSuffix
  rwa [List.append_cancel_right hFront]

/-- In front of something visible the space ends where it did. -/
theorem Visible.skipSpace_front (hVisible : Visible rest) (hSuffix : rest ++ tail <:+ text ++ tail) :
    skipSpace (text ++ tail) = skipSpace text ++ tail :=
  (hVisible.of_suffix (suffix_of_append hSuffix)).skipSpace_append tail

private theorem suffix_of_skipSpace_eq_cons {c : Char} (hMark : skipSpace text = c :: rest) :
    rest <:+ text := by
  have hRest : rest <:+ skipSpace text := hMark ▸ List.suffix_cons c rest
  exact hRest.trans (skipSpace_suffix text)

theorem Visible.skipSpace_eq_cons {c : Char} (hVisible : Visible rest)
    (hMark : skipSpace (text ++ tail) = c :: (rest ++ tail)) : skipSpace text = c :: rest := by
  rw [hVisible.skipSpace_front (suffix_of_skipSpace_eq_cons hMark), ← List.cons_append] at hMark
  exact List.append_cancel_right hMark

theorem Visible.head?_skipSpace (hVisible : Visible text) :
    (skipSpace (text ++ tail)).head? = (skipSpace text).head? := by
  rw [hVisible.skipSpace_append, List.head?_append_of_ne_nil _ hVisible.skipSpace_ne_nil]

private theorem ne_nil_of_yields {reading : Reading text} {tree : Expr}
    (hYields : Yields reading tree rest) :
    text ≠ [] := by
  rintro rfl
  exact Nat.not_lt_zero _ hYields.shorter

end Ends

/-! ### Tokens -/

namespace Grammar

section Tokens

variable {text rest tail : List Char}

theorem Gap.cut (hGap : Gap (text ++ tail) (rest ++ tail)) : Gap text rest := by
  obtain ⟨space, hText, hSpace⟩ := hGap
  rw [← List.append_assoc, List.append_left_inj] at hText
  exact ⟨space, hText, hSpace⟩

theorem IsWord.cut {word : List Char} (hWord : IsWord word (text ++ tail) (rest ++ tail)) :
    IsWord word text rest := by
  obtain ⟨token, hText, hToken, hBoundary⟩ := hWord
  rw [← List.append_assoc, List.append_left_inj] at hText
  refine ⟨token, hText, hToken, fun c hHead => hBoundary c ?_⟩
  rw [List.head?_append, hHead]
  rfl

/-- Where something is left, the boundary of a word does not lie at the cut. -/
theorem IsWord.extend {word : List Char} (hWord : IsWord word text rest) (hRest : rest ≠ []) :
    IsWord word (text ++ tail) (rest ++ tail) := by
  obtain ⟨token, rfl, hToken, hBoundary⟩ := hWord
  refine ⟨token, List.append_assoc _ _ _, hToken, ?_⟩
  rwa [List.head?_append_of_ne_nil rest hRest]

theorem Operator.cut {level : Level} {op : BinaryOp}
    (hOp : Operator level op (text ++ tail) (rest ++ tail)) : Operator level op text rest := by
  generalize hText : text ++ tail = whole at hOp
  generalize hLeft : rest ++ tail = left at hOp
  cases hOp with
  | symbol _ hSymbol =>
      rw [← hLeft, ← List.append_assoc, List.append_left_inj] at hText
      exact hText ▸ .symbol rest hSymbol
  | word hListed hWord =>
      subst hText hLeft
      exact .word hListed hWord.cut

theorem Operator.extend {level : Level} {op : BinaryOp} (hOp : Operator level op text rest)
    (hRest : rest ≠ []) : Operator level op (text ++ tail) (rest ++ tail) := by
  cases hOp with
  | symbol _ hSymbol =>
      rw [List.append_assoc]
      exact .symbol (rest ++ tail) hSymbol
  | word hListed hWord => exact .word hListed (hWord.extend hRest)

variable {pattern : List Char → Prop} {token other after : List Char}

theorem Longest.cut (hToken : Longest pattern (text ++ tail) token (rest ++ tail)) :
    Longest pattern text token rest := by
  obtain ⟨hText, hPattern, hLongest⟩ := hToken
  rw [← List.append_assoc, List.append_left_inj] at hText
  refine ⟨hText, hPattern, fun other after hOther hOtherPattern => ?_⟩
  refine hLongest other (after ++ tail) ?_ hOtherPattern
  rw [hOther, List.append_assoc]

theorem Longest.rest_eq (hToken : Longest pattern text token rest)
    (hOther : Longest pattern text other after) : rest = after := by
  have hLengths : token.length = other.length :=
    Nat.le_antisymm (hOther.2.2 token rest hToken.1 hToken.2.1)
      (hToken.2.2 other after hOther.1 hOther.2.1)
  exact (List.append_inj (hToken.1.symm.trans hOther.1) hLengths).2

/-- A numeral and a name start with different characters. -/
private theorem not_numeral_and_name (hNumeral : Longest SpellsNumeral text token rest)
    (hName : Longest IsName text other after) : False := by
  obtain ⟨hText, ⟨numeral, hSpelled⟩, -⟩ := hNumeral
  obtain ⟨hOther, ⟨first, others, rfl, hStart, -⟩, -⟩ := hName
  obtain ⟨c, characters, rfl, hFirst⟩ := hSpelled.head
  have hSame : c = first := List.head_eq_of_cons_eq (hText.symm.trans hOther)
  rw [hSame] at hFirst
  rcases hFirst with hDigit | rfl
  · rw [not_isDigit_of_isNameStart hStart] at hDigit
    cases hDigit
  · cases hStart

end Tokens

end Grammar

section Operators

variable {text rest tail : List Char}

theorem symbol?_append_iff {level : Level} {op : BinaryOp} (hRest : rest ≠ []) :
    level.symbol? (text ++ tail) = some (op, rest ++ tail) ↔ level.symbol? text = some (op, rest) := by
  have hHead : (rest ++ tail).head? = rest.head? := List.head?_append_of_ne_nil rest hRest
  constructor
  · intro hSymbol
    refine Operator.symbol?_eq (symbol?_sound hSymbol).cut fun hAngle => ?_
    rw [← hHead]
    exact head?_ne_equals_of_symbol? hSymbol hAngle
  · intro hSymbol
    refine Operator.symbol?_eq ((symbol?_sound hSymbol).extend hRest) fun hAngle => ?_
    rw [hHead]
    exact head?_ne_equals_of_symbol? hSymbol hAngle

private theorem dropNot_of_ne_mark {c : Char} (others : List Char) (hMark : c ≠ '!') :
    dropNot (c :: others) = dropKeyword ['n', 'o', 't'] (c :: others) := by
  unfold dropNot
  split <;> simp_all

private theorem dropNot_mark {c : Char} (others : List Char) (hEquals : c ≠ '=') :
    dropNot ('!' :: c :: others) = some (c :: others) := by
  unfold dropNot
  split <;> simp_all

theorem dropNot_append_iff (hRest : rest ≠ []) :
    dropNot (text ++ tail) = some (rest ++ tail) ↔ dropNot text = some rest := by
  have hSome : 1 ≤ rest.length := List.length_pos_iff.2 hRest
  -- a text of one character leaves nothing behind a negation
  have hShort (front : List Char) (hFront : front.length ≤ 1) :
      dropNot (front ++ tail) = some (rest ++ tail) ↔ dropNot front = some rest := by
    refine iff_of_false (fun hDrop => ?_) fun hDrop => ?_
    · have hLess := (dropNot_leaves hDrop).2
      rw [List.length_append, List.length_append] at hLess
      omega
    · have hLess := (dropNot_leaves hDrop).2
      omega
  cases text with
  | nil => exact hShort [] (Nat.zero_le 1)
  | cons c others =>
      by_cases hMark : c = '!'
      · subst hMark
        cases others with
        | nil => exact hShort ['!'] le_rfl
        | cons d others =>
            by_cases hEquals : d = '='
            · subst hEquals
              exact iff_of_false nofun nofun
            · rw [List.cons_append, List.cons_append, dropNot_mark _ hEquals, dropNot_mark _ hEquals,
                Option.some_inj, Option.some_inj, ← List.cons_append, List.append_left_inj]
      · rw [List.cons_append, dropNot_of_ne_mark _ hMark, dropNot_of_ne_mark _ hMark,
          dropKeyword_eq_some_iff, dropKeyword_eq_some_iff]
        exact ⟨fun hWord => IsWord.cut hWord, fun hWord => hWord.extend hRest⟩

def dropSign : List Char → Option (List Char)
  | '-' :: rest => some rest
  | text => dropNot text

private theorem dropSign_of_ne_minus (hMinus : text.head? ≠ some '-') :
    dropSign text = dropNot text := by
  unfold dropSign
  split
  · exact absurd rfl hMinus
  · rfl

private theorem dropSign_leaves (hDrop : dropSign text = some rest) :
    rest <:+ text ∧ rest.length < text.length := by
  unfold dropSign at hDrop
  split at hDrop
  · cases hDrop
    exact ⟨List.suffix_cons _ _, Nat.lt_succ_self _⟩
  · exact dropNot_leaves hDrop

private theorem dropSign_append_iff (hText : text ≠ []) (hRest : rest ≠ []) :
    dropSign (text ++ tail) = some (rest ++ tail) ↔ dropSign text = some rest := by
  have hHead : (text ++ tail).head? = text.head? := List.head?_append_of_ne_nil text hText
  by_cases hMinus : text.head? = some '-'
  · obtain ⟨inner, rfl⟩ := List.head?_eq_some_iff.1 hMinus
    rw [List.cons_append, dropSign, dropSign, Option.some_inj, Option.some_inj, List.append_left_inj]
  · rw [dropSign_of_ne_minus hMinus, dropSign_of_ne_minus (hHead ▸ hMinus), dropNot_append_iff hRest]

private theorem sign_of_readUnary {tree : Expr} (hYields : Yields (readUnary text) tree rest) :
    (∃ after operand, dropSign (skipSpace text) = some after ∧
      Yields (readUnary after) operand rest) ∨
    (dropSign (skipSpace text) = none ∧ Yields (readPrimary (skipSpace text)) tree rest) := by
  rcases yields_readUnary_iff.1 hYields with
    ⟨after, operand, hMinus, hOperand, -⟩ | ⟨hMinus, ⟨after, operand, hNot, hOperand, -⟩ | ⟨hNot, hPrimary⟩⟩
  · exact .inl ⟨after, operand, by rw [hMinus, dropSign], hOperand⟩
  · exact .inl ⟨after, operand, by rw [dropSign_of_ne_minus hMinus, hNot], hOperand⟩
  · exact .inr ⟨by rw [dropSign_of_ne_minus hMinus, hNot], hPrimary⟩

end Operators

/-- What a chain leaves of the text behind its operands: each operator takes one more. -/
inductive Leaves (level : Level) : List Char → List Char → Prop
  | stop {text : List Char} (hNone : level.symbol? (skipSpace text) = none) : Leaves level text text
  | step {text after right rest : List Char} {op : BinaryOp} {operand : Expr}
      (hSymbol : level.symbol? (skipSpace text) = some (op, after))
      (hOperand : Yields (readOperand level (skipSpace after)) operand right)
      (hMore : Leaves level right rest) : Leaves level text rest

theorem Leaves.suffix {level : Level} {text rest : List Char} (hLeaves : Leaves level text rest) :
    rest <:+ text := by
  induction hLeaves with
  | stop => exact List.suffix_refl _
  | @step text after _ _ _ _ hSymbol hOperand _ ih =>
      have hAfter := (Level.symbol?_leaves hSymbol).1.trans (skipSpace_suffix text)
      exact ih.trans (hOperand.suffix.trans ((skipSpace_suffix after).trans hAfter))

/-- By induction on what is left: each step takes an operator and an operand. -/
theorem leaves_of_readChain {level : Level} {text rest : List Char} {left : Front Expr text}
    {tree : Expr} (hYields : Yields (readChain level text left) tree rest) :
    Leaves level left.rest rest := by
  induction hLength : left.rest.length using Nat.strong_induction_on generalizing left with
  | _ size ih =>
      rcases yields_readChain hYields with ⟨hNone, -, rfl⟩ | ⟨op, right, hOp, hRight, hNext⟩
      · exact .stop (operator?_eq_none_iff.1 hNone)
      · obtain ⟨after, hSymbol, hAfter⟩ := operator?_eq_some_iff.1 hOp
        have hOperand : Yields (readOperand level (skipSpace after)) right.value right.rest := by
          rw [← hAfter]
          exact ⟨right, hRight, rfl, rfl⟩
        have hLess : (extend left op right).rest.length < size :=
          hLength ▸ right.shorter.trans op.shorter
        exact .step hSymbol hOperand (ih _ hLess hNext rfl)

theorem leaves_of_readLevel {level : Level} {text rest : List Char} {tree : Expr}
    (hYields : Yields (readLevel level text) tree rest) :
    ∃ operand after, Yields (readOperand level text) operand after ∧ Leaves level after rest := by
  obtain ⟨first, hFirst, hChain⟩ := yields_readLevel_iff.1 hYields
  exact ⟨first.value, first.rest, ⟨first, hFirst, rfl, rfl⟩, leaves_of_readChain hChain⟩

/-! ### Readers that are cut short -/

/-- On a longer text the reader stops in front of something visible within this one: then on this
text it stops in the same place, if it succeeds at all. -/
def Settles (reader : (text : List Char) → Reading text) (text : List Char) : Prop :=
  ∀ tail rest tree other after, Visible rest → Yields (reader (text ++ tail)) tree (rest ++ tail) →
    Yields (reader text) other after → after = rest

/-- The same behind space in front of the text. -/
theorem Settles.behind_space {reader : (text : List Char) → Reading text}
    {text tail rest after : List Char} {tree other : Expr} (hSettles : Settles reader (skipSpace text))
    (hVisible : Visible rest) (hLong : Yields (reader (skipSpace (text ++ tail))) tree (rest ++ tail))
    (hShort : Yields (reader (skipSpace text)) other after) : after = rest := by
  rw [hVisible.skipSpace_front (hLong.suffix.trans (skipSpace_suffix _))] at hLong
  exact hSettles tail rest tree other after hVisible hLong hShort

private theorem token_of_readAtom {text rest : List Char} {tree : Expr}
    (hYields : Yields (readAtom text) tree rest) :
    ∃ token, Longest SpellsNumeral text token rest ∨ Longest IsName text token rest := by
  rcases yields_readAtom_iff.1 hYields with ⟨numeral, hScan, -⟩ | ⟨-, -, hName⟩
  · obtain ⟨token, hToken, -⟩ := longest_of_scan hScan
    exact ⟨token, .inl hToken⟩
  · obtain ⟨token, hToken, -⟩ := yields_readName_iff.1 hName
    exact ⟨token, .inr hToken⟩

private theorem settles_readAtom (text : List Char) : Settles readAtom text := by
  intro tail rest tree other after _ hLong hShort
  obtain ⟨token, hNumeral | hName⟩ := token_of_readAtom hLong
  · obtain ⟨found, hFound | hFound⟩ := token_of_readAtom hShort
    · exact hFound.rest_eq hNumeral.cut
    · exact (not_numeral_and_name hNumeral.cut hFound).elim
  · obtain ⟨found, hFound | hFound⟩ := token_of_readAtom hShort
    · exact (not_numeral_and_name hFound hName.cut).elim
    · exact hFound.rest_eq hName.cut

private theorem settles_readPrimary {text : List Char}
    (hInner : ∀ inner, inner.length < text.length → Settles readExpr inner) :
    Settles readPrimary text := by
  intro tail rest tree other after hVisible hLong hShort
  obtain ⟨c, inside, rfl⟩ := List.exists_cons_of_ne_nil (ne_nil_of_yields hShort)
  rw [List.cons_append] at hLong
  by_cases hOpen : c = '('
  · subst hOpen
    have hLess : (skipSpace inside).length < ('(' :: inside).length :=
      Nat.lt_succ_of_le (skipSpace_suffix inside).length_le
    rcases yields_readPrimary_iff.1 hLong with ⟨_, long, hText, hTree, hClose⟩ | ⟨hNone, -⟩
    · obtain rfl := List.tail_eq_of_cons_eq hText
      rcases yields_readPrimary_iff.1 hShort with ⟨_, short, hText, hOther, hEnd⟩ | ⟨hNone, -⟩
      · obtain rfl := List.tail_eq_of_cons_eq hText
        have hRest := suffix_of_skipSpace_eq_cons hClose
        obtain ⟨left, rfl, hLeft⟩ := exists_front_of_suffix hRest
        obtain rfl := (hInner _ hLess).behind_space (hVisible.of_suffix hLeft) hTree hOther
        rw [hVisible.skipSpace_eq_cons hClose] at hEnd
        exact (List.tail_eq_of_cons_eq hEnd).symm
      · exact absurd rfl hNone
    · exact absurd rfl hNone
  · rcases yields_readPrimary_iff.1 hLong with ⟨_, _, hText, -⟩ | ⟨-, hAtom⟩
    · exact absurd (List.head_eq_of_cons_eq hText) hOpen
    · rcases yields_readPrimary_iff.1 hShort with ⟨_, _, hText, -⟩ | ⟨-, hOther⟩
      · exact absurd (List.head_eq_of_cons_eq hText) hOpen
      · exact settles_readAtom _ tail rest tree other after hVisible hAtom hOther

private theorem settles_readUnary {text : List Char}
    (hInner : ∀ inner, inner.length < text.length → Settles readExpr inner)
    (hUnary : ∀ inner, inner.length < text.length → Settles readUnary inner) :
    Settles readUnary text := by
  intro tail rest tree other after hVisible hLong hShort
  have hFront := hVisible.skipSpace_front hLong.suffix
  have hSome := (hVisible.of_suffix (suffix_of_append hLong.suffix)).skipSpace_ne_nil
  have hSkip := (skipSpace_suffix text).length_le
  rcases sign_of_readUnary hShort with ⟨inner, found, hSign, hShort⟩ | ⟨hSign, hShort⟩
  · have hSame : dropSign (skipSpace text ++ tail) = some (inner ++ tail) :=
      (dropSign_append_iff hSome (ne_nil_of_yields hShort)).2 hSign
    have hLess := (dropSign_leaves hSign).2
    rcases sign_of_readUnary hLong with ⟨behind, operand, hOther, hLong⟩ | ⟨hNone, -⟩
    · rw [hFront, hSame] at hOther
      obtain rfl := Option.some.inj hOther
      exact hUnary inner (by omega) tail rest operand found after hVisible hLong hShort
    · rw [hFront, hSame] at hNone
      cases hNone
  · rcases sign_of_readUnary hLong with ⟨behind, operand, hOther, hLong⟩ | ⟨-, hLong⟩
    · obtain ⟨inner, rfl, hInnerRest⟩ := exists_front_of_suffix hLong.suffix
      rw [hFront, dropSign_append_iff hSome (hVisible.of_suffix hInnerRest).ne_nil, hSign] at hOther
      cases hOther
    · rw [hFront] at hLong
      exact settles_readPrimary (fun inner hLess => hInner inner (by omega)) tail rest tree other after
        hVisible hLong hShort

/-- By induction on what the chain leaves of the longer text. -/
theorem Leaves.settles {level : Level} {text tail rest after : List Char} (hVisible : Visible rest)
    (hOperand : ∀ inner, inner.length < text.length → Settles (readOperand level) inner)
    (hLong : Leaves level (text ++ tail) (rest ++ tail)) (hShort : Leaves level text after) :
    after = rest := by
  generalize hWhole : text ++ tail = whole at hLong
  generalize hLeft : rest ++ tail = left at hLong
  induction hLong generalizing text with
  | stop hNone =>
      subst hLeft
      obtain rfl := List.append_cancel_right hWhole
      cases hShort with
      | stop => rfl
      | @step _ behind _ _ op _ hSymbol hFound _ =>
          have hBehind : behind ≠ [] := by
            rintro rfl
            exact ne_nil_of_yields hFound rfl
          have hTaken : level.symbol? (skipSpace text ++ tail) = some (op, behind ++ tail) :=
            (symbol?_append_iff hBehind).2 hSymbol
          rw [hVisible.skipSpace_append, hTaken] at hNone
          cases hNone
  | @step _ behind right _ op operand hSymbol hOther hMore ih =>
      subst hLeft hWhole
      have hBehind := hMore.suffix.trans (hOther.suffix.trans (skipSpace_suffix behind))
      have hText := hBehind.trans ((Level.symbol?_leaves hSymbol).1.trans (skipSpace_suffix _))
      obtain ⟨left, rfl, hRight⟩ := exists_front_of_suffix hMore.suffix
      obtain ⟨inner, rfl, hInner⟩ := exists_front_of_suffix hBehind
      have hSome := (hVisible.of_suffix hInner).ne_nil
      rw [hVisible.skipSpace_front hText, symbol?_append_iff hSome] at hSymbol
      have hLess := (Level.symbol?_leaves hSymbol).2
      have hSkip := (skipSpace_suffix text).length_le
      have hSkipInner := (skipSpace_suffix inner).length_le
      cases hShort with
      | stop hNone =>
          rw [hSymbol] at hNone
          cases hNone
      | step hSame hFound hNext =>
          obtain ⟨-, rfl⟩ := Prod.mk.inj (Option.some.inj (hSymbol.symm.trans hSame))
          have hInnerSettles := hOperand (skipSpace inner) (by omega)
          obtain rfl := hInnerSettles.behind_space (hVisible.of_suffix hRight) hOther hFound
          have hShorter := hFound.shorter
          exact ih (fun other hOtherLess => hOperand other (by omega)) hNext rfl rfl

private theorem settles_readLevel {level : Level} {text : List Char}
    (hFirst : Settles (readOperand level) text)
    (hOperand : ∀ inner, inner.length < text.length → Settles (readOperand level) inner) :
    Settles (readLevel level) text := by
  intro tail rest tree other after hVisible hLong hShort
  obtain ⟨operand, left, hOperandLong, hLeft⟩ := leaves_of_readLevel hLong
  obtain ⟨found, short, hOperandShort, hShortLeft⟩ := leaves_of_readLevel hShort
  obtain ⟨front, rfl, hRest⟩ := exists_front_of_suffix hLeft.suffix
  obtain rfl := hFirst tail front operand found short (hVisible.of_suffix hRest) hOperandLong hOperandShort
  have hShorter := hOperandShort.shorter
  exact hLeft.settles hVisible (fun inner hLess => hOperand inner (by omega)) hShortLeft

private theorem settles_readOperand {text : List Char}
    (hInner : ∀ inner, inner.length < text.length → Settles readExpr inner)
    (hOperand : ∀ level inner, inner.length < text.length → Settles (readOperand level) inner) :
    ∀ level, Settles (readOperand level) text := by
  have hProduct : Settles (readOperand .product) text := by
    have hUnary := settles_readUnary hInner fun inner hLess =>
      fun tail rest tree other after hVisible hLong hShort =>
        hOperand .product inner hLess tail rest tree other after hVisible
          (yields_readOperand_iff.2 hLong) (yields_readOperand_iff.2 hShort)
    intro tail rest tree other after hVisible hLong hShort
    exact hUnary tail rest tree other after hVisible (yields_readOperand_iff.1 hLong)
      (yields_readOperand_iff.1 hShort)
  have hTighter : ∀ (level : Level) {tighter : Level}, level.tighter? = some tighter →
      Settles (readOperand tighter) text → Settles (readOperand level) text := by
    intro level tighter hNext hSettles tail rest tree other after hVisible hLong hShort
    rw [yields_readOperand_iff, hNext] at hLong hShort
    exact settles_readLevel hSettles (hOperand tighter) tail rest tree other after hVisible hLong hShort
  have hSum := hTighter .sum rfl hProduct
  have hComparison := hTighter .comparison rfl hSum
  have hConjunction := hTighter .conjunction rfl hComparison
  have hDisjunction := hTighter .disjunction rfl hConjunction
  intro level
  cases level with
  | disjunction => exact hDisjunction
  | conjunction => exact hConjunction
  | comparison => exact hComparison
  | sum => exact hSum
  | product => exact hProduct

/-- The expressions behind one mark end in the same place. -/
private theorem settles_behind_mark {c : Char}
    {text tail rest after otherAfter otherRest : List Char}
    {tree other : Expr} (hVisible : Visible rest)
    (hInner : ∀ inner, inner.length < text.length → Settles readExpr inner)
    (hMark : skipSpace (text ++ tail) = c :: after)
    (hTree : Yields (readExpr (skipSpace after)) tree (rest ++ tail))
    (hOtherMark : skipSpace text = c :: otherAfter)
    (hOther : Yields (readExpr (skipSpace otherAfter)) other otherRest) : otherRest = rest := by
  have hSuffix : rest ++ tail <:+ after := hTree.suffix.trans (skipSpace_suffix after)
  obtain ⟨inside, rfl, hRest⟩ := exists_front_of_suffix hSuffix
  obtain rfl : inside = otherAfter := by
    rw [(hVisible.of_suffix hRest).skipSpace_eq_cons hMark] at hOtherMark
    exact List.tail_eq_of_cons_eq hOtherMark
  have hInside := (skipSpace_suffix inside).length_le
  have hText := (hOtherMark ▸ skipSpace_suffix text).length_le
  rw [List.length_cons] at hText
  exact (hInner (skipSpace inside) (by omega)).behind_space hVisible hTree hOther

private theorem settles_readExpr_of_level {text : List Char}
    (hLevel : Settles (readLevel .disjunction) text)
    (hInner : ∀ inner, inner.length < text.length → Settles readExpr inner) :
    Settles readExpr text := by
  intro tail rest tree other after hVisible hLong hShort
  obtain ⟨condition, long, hCondition, hCases⟩ := yields_readExpr_iff.1 hLong
  obtain ⟨found, short, hFound, hShortCases⟩ := yields_readExpr_iff.1 hShort
  have hLevelSame {left : List Char} (hLeft : rest <:+ left) (hText : long = left ++ tail) :
      short = left := by
    subst hText
    exact hLevel tail left condition found short (hVisible.of_suffix hLeft) hCondition hFound
  have hFirst := hFound.shorter
  rcases hCases with ⟨hMark, -, hRest⟩ |
    ⟨afterMark, yes, afterYes, afterColon, no, hMark, hYes, hColon, hNo, -⟩
  · have hSuffix : rest ++ tail <:+ long := hRest ▸ skipSpace_suffix long
    obtain ⟨left, rfl, hLeft⟩ := exists_front_of_suffix hSuffix
    obtain rfl := hLevelSame hLeft rfl
    rw [(hVisible.of_suffix hLeft).head?_skipSpace] at hMark
    rcases hShortCases with ⟨-, -, rfl⟩ | ⟨_, _, _, _, _, hShortMark, -⟩
    · rw [hVisible.skipSpace_front hSuffix] at hRest
      exact (List.append_cancel_right hRest).symm
    · rw [hShortMark] at hMark
      exact absurd rfl hMark
  · have hToYes := (hNo.suffix.trans (skipSpace_suffix afterColon)).trans
      (suffix_of_skipSpace_eq_cons hColon)
    have hToMark := hToYes.trans (hYes.suffix.trans (skipSpace_suffix afterMark))
    obtain ⟨left, rfl, hLeft⟩ :=
      exists_front_of_suffix (hToMark.trans (suffix_of_skipSpace_eq_cons hMark))
    obtain rfl := hLevelSame hLeft rfl
    obtain ⟨behindYes, rfl, hRestYes⟩ := exists_front_of_suffix hToYes
    rcases hShortCases with ⟨hNone, -⟩ |
      ⟨_, otherYes, shortYes, _, otherNo, hShortMark, hShortYes, hShortColon, hShortNo, -⟩
    · rw [← (hVisible.of_suffix hLeft).head?_skipSpace, hMark] at hNone
      exact absurd rfl hNone
    · obtain rfl := settles_behind_mark (hVisible.of_suffix hRestYes)
        (fun inner hLess => hInner inner (by omega)) hMark hYes hShortMark hShortYes
      have hSecond : shortYes.length ≤ short.length :=
        (hShortYes.suffix.trans ((skipSpace_suffix _).trans
          (suffix_of_skipSpace_eq_cons hShortMark))).length_le
      exact settles_behind_mark hVisible (fun inner hLess => hInner inner (by omega)) hColon hNo
        hShortColon hShortNo

/-- By induction on the length of the text, all readers together. -/
theorem settles_readExpr (text : List Char) : Settles readExpr text := by
  have hAll : Settles readExpr text ∧ ∀ level, Settles (readOperand level) text := by
    induction hLength : text.length using Nat.strong_induction_on generalizing text with
    | _ size ih =>
        have hInner : ∀ inner : List Char, inner.length < text.length → Settles readExpr inner :=
          fun inner hShorter => (ih _ (hLength ▸ hShorter) inner rfl).1
        have hOperand : ∀ level (inner : List Char), inner.length < text.length →
            Settles (readOperand level) inner :=
          fun level inner hShorter => (ih _ (hLength ▸ hShorter) inner rfl).2 level
        have hHere := settles_readOperand hInner hOperand
        exact ⟨settles_readExpr_of_level (settles_readLevel (hHere _) (hOperand _)) hInner, hHere⟩
  exact hAll.1

end LawnCalibration.Formula
