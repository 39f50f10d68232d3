import LawnCalibration.Proofs.Formula.Completeness
import LawnCalibration.Proofs.Formula.Soundness

/-
Formulas are recognized exactly.

The bounds on a formula are conditions on its trimmed text, and within them the
reader yields a tree just where the grammar derives it.  What is left behind a
formula can only be space, which a trimmed text does not end with.
-/

set_option autoImplicit false

namespace LawnCalibration.Formula

open Text
open Grammar

private theorem forall_prefix_cons {c : Char} {text : List Char} {P : List Char → Prop} :
    (∀ part, part <+: c :: text → P part) ↔ P [] ∧ ∀ part, part <+: text → P (c :: part) := by
  constructor
  · intro hAll
    exact ⟨hAll [] List.nil_prefix, fun part hPart => hAll _ (List.cons_prefix_cons.2 ⟨rfl, hPart⟩)⟩
  · rintro ⟨hEmpty, hCons⟩ part hPart
    rcases List.prefix_cons_iff.1 hPart with rfl | ⟨tail, rfl, hTail⟩
    · exact hEmpty
    · exact hCons tail hTail

/-- The parts at the front of a text do not open more than the limit, at a depth already reached. -/
private def FrontWithin (limit depth : Nat) (text : List Char) : Prop :=
  ∀ part, part <+: text → depth + part.count '(' ≤ part.count ')' + limit

private theorem frontWithin_zero {limit : Nat} {text : List Char}
    (hNests : NestsWithin limit text) :
    FrontWithin limit 0 text := by
  intro part hPrefix
  rw [Nat.zero_add]
  exact hNests part hPrefix.isInfix

private theorem nestsWithin_cons {limit : Nat} {c : Char} {text : List Char} :
    NestsWithin limit (c :: text) ↔ FrontWithin limit 0 (c :: text) ∧ NestsWithin limit text := by
  simp only [NestsWithin, FrontWithin, Nat.zero_add, List.infix_cons_iff, or_imp, forall_and]

private theorem frontWithin_cons {limit depth : Nat} {c : Char} {text : List Char}
    (hDepth : depth ≤ limit) : FrontWithin limit depth (c :: text) ↔
      ∀ part, part <+: text → depth + (c :: part).count '(' ≤ (c :: part).count ')' + limit := by
  rw [FrontWithin, forall_prefix_cons]
  exact and_iff_right (by simpa using hDepth)

private theorem within_cons_open {limit depth : Nat} {text : List Char} (hDepth : depth ≤ limit) :
    FrontWithin limit depth ('(' :: text) ∧ NestsWithin limit ('(' :: text) ↔
      depth + 1 ≤ limit ∧ FrontWithin limit (depth + 1) text ∧ NestsWithin limit text := by
  rw [nestsWithin_cons, frontWithin_cons hDepth, frontWithin_cons (Nat.zero_le limit)]
  have hFront : ∀ level : Nat, ∀ part : List Char,
      level + ('(' :: part).count '(' ≤ ('(' :: part).count ')' + limit ↔
        level + 1 + part.count '(' ≤ part.count ')' + limit := by
    intro level part
    rw [List.count_cons_self, List.count_cons_of_ne (by decide)]
    omega
  simp only [hFront]
  constructor
  · rintro ⟨hParts, -, hNests⟩
    exact ⟨by simpa using hParts [] List.nil_prefix, hParts, hNests⟩
  · rintro ⟨-, hParts, hNests⟩
    refine ⟨hParts, fun part hPart => ?_, hNests⟩
    have hPartHere := hParts part hPart
    omega

/-- A closing parenthesis that nothing opened does not count. -/
private theorem within_cons_close {limit depth : Nat} {text : List Char} (hDepth : depth ≤ limit) :
    FrontWithin limit depth (')' :: text) ∧ NestsWithin limit (')' :: text) ↔
      FrontWithin limit (depth - 1) text ∧ NestsWithin limit text := by
  rw [nestsWithin_cons, frontWithin_cons hDepth, frontWithin_cons (Nat.zero_le limit)]
  have hFront : ∀ level : Nat, ∀ part : List Char,
      level + (')' :: part).count '(' ≤ (')' :: part).count ')' + limit ↔
        level + part.count '(' ≤ part.count ')' + limit + 1 := by
    intro level part
    rw [List.count_cons_self, List.count_cons_of_ne (by decide)]
    omega
  simp only [hFront]
  constructor
  · rintro ⟨hParts, -, hNests⟩
    refine ⟨fun part hPart => ?_, hNests⟩
    have hPartHere := hParts part hPart
    have hPartNests := hNests part hPart.isInfix
    omega
  · rintro ⟨hParts, hNests⟩
    refine ⟨fun part hPart => ?_, fun part hPart => ?_, hNests⟩
    · have hPartHere := hParts part hPart
      omega
    · have hPartHere := hNests part hPart.isInfix
      omega

private theorem within_cons_other {limit depth : Nat} {c : Char} {text : List Char}
    (hDepth : depth ≤ limit) (hOpen : c ≠ '(') (hClose : c ≠ ')') :
    FrontWithin limit depth (c :: text) ∧ NestsWithin limit (c :: text) ↔
      FrontWithin limit depth text ∧ NestsWithin limit text := by
  rw [nestsWithin_cons, frontWithin_cons hDepth, frontWithin_cons (Nat.zero_le limit)]
  simp only [List.count_cons_of_ne hOpen, List.count_cons_of_ne hClose]
  constructor
  · rintro ⟨hParts, -, hNests⟩
    exact ⟨hParts, hNests⟩
  · rintro ⟨hParts, hNests⟩
    exact ⟨hParts, frontWithin_zero hNests, hNests⟩

/-- The depth already reached only matters to the parts at the front. -/
private theorem opensMoreThan_eq_false_iff {limit depth : Nat} {text : List Char}
    (hDepth : depth ≤ limit) :
    opensMoreThan limit depth text = false ↔ FrontWithin limit depth text ∧ NestsWithin limit text := by
  induction text generalizing depth with
  | nil =>
      simp only [opensMoreThan, true_iff, FrontWithin, NestsWithin, List.prefix_nil, List.infix_nil,
        forall_eq]
      exact ⟨by simpa using hDepth, by simp⟩
  | cons c text ih =>
      by_cases hOpen : c = '('
      · subst hOpen
        rw [within_cons_open hDepth]
        simp only [opensMoreThan, Bool.or_eq_false_iff, decide_eq_false_iff_not, not_lt]
        exact and_congr_right fun hRoom => ih hRoom
      · by_cases hClose : c = ')'
        · subst hClose
          rw [within_cons_close hDepth]
          simp only [opensMoreThan]
          exact ih ((Nat.sub_le depth 1).trans hDepth)
        · rw [within_cons_other hDepth hOpen hClose,
            opensMoreThan.eq_4 limit depth c text (fun h => hOpen h) (fun h => hClose h)]
          exact ih hDepth

theorem opensMoreThan_zero_eq_false_iff {limit : Nat} {text : List Char} :
    opensMoreThan limit 0 text = false ↔ NestsWithin limit text := by
  rw [opensMoreThan_eq_false_iff (Nat.zero_le limit)]
  exact ⟨fun hBoth => hBoth.2, fun hNests => ⟨frontWithin_zero hNests, hNests⟩⟩

/-! ### What a formula leaves -/

theorem isBlank_of_isSpace {c : Char} (hSpace : isSpace c = true) : isBlank c = true := by
  simp only [isSpace, Bool.or_eq_true, beq_iff_eq] at hSpace
  rcases hSpace with ((rfl | rfl) | rfl) | rfl <;> decide

theorem Grammar.Gap.suffix {text rest : List Char} (hGap : Gap text rest) : rest <:+ text := by
  obtain ⟨space, rfl, -⟩ := hGap
  exact List.suffix_append space rest

theorem Grammar.Operator.suffix {level : Level} {op : BinaryOp} {text rest : List Char}
    (hOp : Operator level op text rest) : rest <:+ text := by
  cases hOp with
  | symbol rest hSymbol => exact List.suffix_append _ rest
  | word hListed hWord =>
      obtain ⟨token, rfl, -⟩ := hWord
      exact List.suffix_append token rest

theorem Grammar.Sign.suffix {op : UnaryOp} {text rest : List Char} (hSign : Sign op text rest) :
    rest <:+ text := by
  cases hSign with
  | minus => exact List.suffix_cons _ _
  | mark => exact List.suffix_cons _ _
  | word hWord =>
      obtain ⟨token, rfl, -⟩ := hWord
      exact List.suffix_append token rest

theorem derives_suffix {category : Category} {text rest : List Char} {tree : Expr}
    (hTree : Derives category text tree rest) : rest <:+ text := by
  induction hTree with
  | plain hTree ih => exact ih
  | branches hCondition hMark hYesGap hYes hColon hNoGap hNo ihCondition ihYes ihNo =>
      have hToMark := (List.suffix_cons _ _).trans (hMark.suffix.trans ihCondition)
      have hToYes := ihYes.trans (hYesGap.suffix.trans hToMark)
      have hToColon := (List.suffix_cons _ _).trans (hColon.suffix.trans hToYes)
      exact ihNo.trans (hNoGap.suffix.trans hToColon)
  | single hTree ih => exact ih
  | joined hLeft hOpGap hOp hRightGap hRight ihLeft ihRight =>
      have hToOp := hOp.suffix.trans (hOpGap.suffix.trans ihLeft)
      exact ihRight.trans (hRightGap.suffix.trans hToOp)
  | signed hSign hGap hTree ih => exact ih.trans (hGap.suffix.trans hSign.suffix)
  | bare hTree ih => exact ih
  | parenthesized hOpen hTree hClose ih =>
      have hToClose := ih.trans (hOpen.suffix.trans (List.suffix_cons '(' _))
      exact (List.suffix_cons _ _).trans (hClose.suffix.trans hToClose)
  | number hToken hNumeral => exact hToken.1 ▸ List.suffix_append _ _
  | name hToken hKeyword => exact hToken.1 ▸ List.suffix_append _ _

theorem skipSpace_trim (text : List Char) : skipSpace (trim text) = trim text := by
  cases hText : trim text with
  | nil => rfl
  | cons c tail =>
      have hBlank : isBlank c = false := isBlank_head?_trim (by rw [hText, List.head?_cons])
      refine skipSpace_cons ?_
      by_contra hSpace
      rw [isBlank_of_isSpace (by simpa using hSpace)] at hBlank
      cases hBlank

/-- Of a trimmed text nothing is left behind a formula when only space is. -/
private theorem yields_readExpr_trim_iff {text : List Char} {tree : Expr} :
    Yields (readExpr (trim text)) tree [] ↔ Derives .expr (trim text) tree [] := by
  constructor
  · intro hYields
    obtain ⟨after, hTree, hAfter⟩ := soundExpr (trim text) tree [] hYields
    rw [skipSpace_trim] at hTree
    have hBlank : ∀ c ∈ after, isBlank c = true := fun c hMember =>
      isBlank_of_isSpace (List.dropWhile_eq_nil_iff.1 hAfter.symm c hMember)
    rwa [eq_nil_of_suffix_trim (derives_suffix hTree) hBlank] at hTree
  · intro hTree
    exact accepts_of_derives hTree (by simp [Ends, skipSpace])

theorem parseChars_eq_ok_iff {source : List Char} {tree : Expr} :
    parseChars source = .ok tree ↔ source ≠ [] ∧ byteLength source ≤ maxLength ∧
      NestsWithin maxDepth source ∧
      ∃ rest, Yields (readExpr source) tree rest ∧ trim rest = [] := by
  rw [← opensMoreThan_zero_eq_false_iff]
  unfold parseChars
  split
  · rename_i hEmpty
    simp [hEmpty]
  · rename_i hSource
    split
    · rename_i hLong
      simp [Nat.not_le.2 hLong]
    · rename_i hLong
      split
      · rename_i hDeep
        simp [hDeep]
      · rename_i hDeep
        have hDepth : opensMoreThan maxDepth 0 source = false := by simpa using hDeep
        simp only [ne_eq, hSource, not_false_eq_true, Nat.not_lt.1 hLong, hDepth, true_and]
        cases hRead : readExpr source with
        | error stop => simp [not_yields_error]
        | ok front =>
            simp only [yields_ok_iff]
            split
            · rename_i hEmpty
              simp [hEmpty]
            · rename_i hLeft
              simp only [reduceCtorEq, false_iff]
              rintro ⟨rest, ⟨-, rfl⟩, hTrim⟩
              exact hLeft hTrim

/-- A text is a formula exactly when its trimmed text lies within the bounds and the grammar
derives it as a whole; its tree is then the only one. -/
theorem parse_eq_ok_iff_derives (text : String) :
    (∀ tree, parse text = .ok tree ↔
      trim text.toList ≠ [] ∧ byteLength (trim text.toList) ≤ 1024 ∧
        NestsWithin 32 (trim text.toList) ∧ Derives .expr (trim text.toList) tree []) ∧
    ∀ tree other, Derives .expr (trim text.toList) tree [] →
      Derives .expr (trim text.toList) other [] → tree = other := by
  constructor
  · intro tree
    have hAll : (∃ rest, Yields (readExpr (trim text.toList)) tree rest ∧ trim rest = []) ↔
        Yields (readExpr (trim text.toList)) tree [] := by
      constructor
      · rintro ⟨rest, hYields, hTrim⟩
        rwa [eq_nil_of_suffix_trim hYields.suffix (trim_eq_nil_iff.1 hTrim)] at hYields
      · exact fun hYields => ⟨[], hYields, rfl⟩
    rw [← yields_readExpr_trim_iff, ← hAll]
    exact parseChars_eq_ok_iff
  · intro tree other hTree hOther
    obtain ⟨front, hRead, rfl, -⟩ := yields_readExpr_trim_iff.2 hTree
    obtain ⟨front', hRead', rfl, -⟩ := yields_readExpr_trim_iff.2 hOther
    rw [hRead] at hRead'
    rw [Except.ok.inj hRead']

end LawnCalibration.Formula
