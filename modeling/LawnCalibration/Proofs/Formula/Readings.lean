import LawnCalibration.Proofs.Formula.Numerals

/-
What each reader of formulas yields.

A reading succeeds with a tree and with what is left of the text.  For every
reader its successes are told from those of the readers that it calls; nothing
after this module unfolds a reader.
-/

set_option autoImplicit false

namespace LawnCalibration.Formula

open Text
open Grammar

theorem head?_ne_of_not_cons {text : List Char} {c : Char}
    (hNone : ∀ rest, text = c :: rest → False) : text.head? ≠ some c := by
  intro hHead
  obtain ⟨rest, hText⟩ := List.head?_eq_some_iff.1 hHead
  exact hNone rest hText

def Yields {text : List Char} (reading : Reading text) (tree : Expr) (rest : List Char) : Prop :=
  ∃ front, reading = .ok front ∧ front.value = tree ∧ front.rest = rest

theorem yields_ok {text : List Char} (front : Front Expr text) :
    Yields (.ok front) front.value front.rest :=
  ⟨front, rfl, rfl, rfl⟩

theorem yields_ok_iff {text rest : List Char} {front : Front Expr text} {tree : Expr} :
    Yields (.ok front) tree rest ↔ front.value = tree ∧ front.rest = rest := by
  simp [Yields]

theorem not_yields_error {text rest : List Char} {stop : Stop text} {tree : Expr} :
    ¬ Yields (.error stop) tree rest := by
  simp [Yields]

theorem yields_widen_iff {text longer rest : List Char} (hSuffix : text <:+ longer)
    {reading : Reading text} {tree : Expr} :
    Yields (reading.widen hSuffix) tree rest ↔ Yields reading tree rest := by
  cases reading with
  | error stop => simp [Yields, Reading.widen]
  | ok front => simp [Yields, Reading.widen, Front.widen]

theorem yields_readName_iff {text rest : List Char} {tree : Expr} :
    Yields (readName text) tree rest ↔
      ∃ token, Longest IsName text token rest ∧ isKeyword token = false ∧
        tree = .variable (String.ofList token) := by
  constructor
  · intro hYields
    unfold readName at hYields
    split at hYields
    · exact absurd hYields not_yields_error
    · rename_i c tail
      split at hYields
      · rename_i hStart
        dsimp only at hYields
        split at hYields
        · exact absurd hYields not_yields_error
        · rename_i hKeyword
          obtain ⟨rfl, rfl⟩ := yields_ok_iff.1 hYields
          refine ⟨c :: tail.takeWhile isNameChar, ?_, by simpa using hKeyword, rfl⟩
          refine longest_isName_iff.2 ⟨?_, ⟨c, _, rfl, hStart, forall_mem_takeWhile⟩, ?_⟩
          · rw [List.cons_append, List.takeWhile_append_dropWhile]
          · exact fun _ => head?_dropWhile_run
      · exact absurd hYields not_yields_error
  · rintro ⟨token, hToken, hKeyword, rfl⟩
    obtain ⟨rfl, ⟨first, others, rfl, hStart, hOthers⟩, hEnd⟩ := longest_isName_iff.1 hToken
    have hTake := takeWhile_run hOthers hEnd
    have hDrop := dropWhile_run hOthers hEnd
    simp only [List.cons_append, readName, if_pos hStart, hTake, hDrop, hKeyword,
      Bool.false_eq_true, if_false]
    exact yields_ok_iff.2 ⟨rfl, rfl⟩

theorem yields_readAtom_iff {text rest : List Char} {tree : Expr} :
    Yields (readAtom text) tree rest ↔
      (∃ numeral, Decimal.scan text = .found numeral rest ∧ tree = .number numeral.toFloat) ∨
      (Decimal.scan text = .absent ∧
        (∀ after, Decimal.scan (Decimal.scanSign text).2 ≠ .unfinished after) ∧
        Yields (readName text) tree rest) := by
  unfold readAtom
  split
  · rename_i numeral after hScan
    rw [yields_ok_iff]
    constructor
    · rintro ⟨rfl, rfl⟩
      exact .inl ⟨numeral, hScan, rfl⟩
    · rintro (⟨other, hOther, rfl⟩ | ⟨hAbsent, -⟩)
      · cases hScan.symm.trans hOther
        exact ⟨rfl, rfl⟩
      · cases hScan.symm.trans hAbsent
  · rename_i after hScan
    constructor
    · exact fun hYields => absurd hYields not_yields_error
    · rintro (⟨other, hOther, -⟩ | ⟨hAbsent, -⟩)
      · cases hScan.symm.trans hOther
      · cases hScan.symm.trans hAbsent
  · rename_i hScan
    split
    · rename_i after hSigned
      constructor
      · exact fun hYields => absurd hYields not_yields_error
      · rintro (⟨other, hOther, -⟩ | ⟨-, hWhole, -⟩)
        · cases hScan.symm.trans hOther
        · exact absurd hSigned (hWhole after)
    · rename_i hWhole
      constructor
      · exact fun hYields => .inr ⟨hScan, hWhole, hYields⟩
      · rintro (⟨other, hOther, -⟩ | ⟨-, -, hYields⟩)
        · cases hScan.symm.trans hOther
        · exact hYields

theorem yields_readPrimary_iff {text rest : List Char} {tree : Expr} :
    Yields (readPrimary text) tree rest ↔
      (∃ inside afterInner, text = '(' :: inside ∧
        Yields (readExpr (skipSpace inside)) tree afterInner ∧
        skipSpace afterInner = ')' :: rest) ∨
      (text.head? ≠ some '(' ∧ Yields (readAtom text) tree rest) := by
  by_cases hOpen : text.head? = some '('
  · obtain ⟨inside, rfl⟩ := List.head?_eq_some_iff.1 hOpen
    rw [readPrimary]
    constructor
    · intro hYields
      left
      split at hYields
      · split at hYields
        · exact absurd hYields not_yields_error
        · exact absurd hYields not_yields_error
      · rename_i inner hInner
        split at hYields
        · rename_i after hClose
          obtain ⟨rfl, rfl⟩ := yields_ok_iff.1 hYields
          exact ⟨inside, inner.rest, rfl, ⟨inner, hInner, rfl, rfl⟩, hClose⟩
        · exact absurd hYields not_yields_error
    · rintro (⟨inside', afterInner, hText, ⟨inner, hInner, rfl, rfl⟩, hClose⟩ | ⟨hOther, -⟩)
      · cases hText
        rw [hInner]
        dsimp only
        split
        · rename_i after hAfter
          rw [hClose] at hAfter
          cases hAfter
          exact yields_ok_iff.2 ⟨rfl, rfl⟩
        · rename_i hNone
          exact absurd hClose (hNone rest)
      · exact absurd hOpen hOther
  · have hNone : ∀ inside, text = '(' :: inside → False := by
      rintro inside rfl
      exact hOpen rfl
    rw [readPrimary.eq_2 text hNone]
    constructor
    · exact fun hYields => .inr ⟨hOpen, hYields⟩
    · rintro (⟨inside, afterInner, hText, -⟩ | ⟨-, hYields⟩)
      · exact absurd hText (hNone inside)
      · exact hYields

private theorem yields_signed_iff {text after rest : List Char} {op : UnaryOp} {tree : Expr}
    {reading : Reading after} (hSuffix : after <:+ text) :
    Yields (match reading with
      | .error stop => .error (stop.widen hSuffix)
      | .ok operand => .ok ((operand.widen hSuffix).map (.unary op)) : Reading text) tree rest ↔
      ∃ operand, Yields reading operand rest ∧ tree = .unary op operand := by
  cases reading with
  | error stop => simp [not_yields_error]
  | ok operand =>
      simp only [yields_ok_iff]
      constructor
      · rintro ⟨rfl, rfl⟩
        exact ⟨operand.value, ⟨rfl, rfl⟩, rfl⟩
      · rintro ⟨_, ⟨rfl, rfl⟩, rfl⟩
        exact ⟨rfl, rfl⟩

theorem yields_readUnary_iff {text rest : List Char} {tree : Expr} :
    Yields (readUnary text) tree rest ↔
      (∃ after operand, skipSpace text = '-' :: after ∧ Yields (readUnary after) operand rest ∧
        tree = .unary .neg operand) ∨
      ((skipSpace text).head? ≠ some '-' ∧
        ((∃ after operand, dropNot (skipSpace text) = some after ∧
            Yields (readUnary after) operand rest ∧ tree = .unary .not operand) ∨
          (dropNot (skipSpace text) = none ∧ Yields (readPrimary (skipSpace text)) tree rest))) := by
  rw [readUnary]
  split
  · rename_i after hMinus
    refine (yields_signed_iff _).trans ?_
    constructor
    · rintro ⟨operand, hOperand, rfl⟩
      exact .inl ⟨after, operand, hMinus, hOperand, rfl⟩
    · rintro (⟨after', operand, hText, hOperand, rfl⟩ | ⟨hOther, -⟩)
      · cases hMinus.symm.trans hText
        exact ⟨operand, hOperand, rfl⟩
      · exact absurd (congrArg List.head? hMinus) hOther
  · rename_i hNone
    have hHead : (skipSpace text).head? ≠ some '-' := head?_ne_of_not_cons hNone
    split
    · rename_i after hNot
      refine (yields_signed_iff _).trans ?_
      constructor
      · rintro ⟨operand, hOperand, rfl⟩
        exact .inr ⟨hHead, .inl ⟨after, operand, hNot, hOperand, rfl⟩⟩
      · rintro (⟨after', _, hText, -⟩ | ⟨-, ⟨after', operand, hText, hOperand, rfl⟩ | ⟨hText, -⟩⟩)
        · exact absurd hText (hNone after')
        · cases hNot.symm.trans hText
          exact ⟨operand, hOperand, rfl⟩
        · cases hNot.symm.trans hText
    · rename_i hNot
      rw [yields_widen_iff]
      constructor
      · exact fun hYields => .inr ⟨hHead, .inr ⟨hNot, hYields⟩⟩
      · rintro (⟨after, _, hText, -⟩ | ⟨-, ⟨after, _, hText, -⟩ | ⟨-, hYields⟩⟩)
        · exact absurd hText (hNone after)
        · cases hNot.symm.trans hText
        · exact hYields

theorem yields_readOperand_iff {level : Level} {text rest : List Char} {tree : Expr} :
    Yields (readOperand level text) tree rest ↔
      match level.tighter? with
      | some tighter => Yields (readLevel tighter text) tree rest
      | none => Yields (readUnary text) tree rest := by
  rw [readOperand]
  cases level <;> rfl

/-! ### Chains -/

theorem operator?_eq_none_iff {level : Level} {text : List Char} :
    level.operator? text = none ↔ level.symbol? (skipSpace text) = none := by
  unfold Level.operator?
  split
  · rename_i hNone
    simp [hNone]
  · rename_i op after hSome
    simp [hSome]

theorem operator?_eq_some_iff {level : Level} {text : List Char} {op : Front BinaryOp text} :
    level.operator? text = some op ↔
      ∃ after, level.symbol? (skipSpace text) = some (op.value, after) ∧
        op.rest = skipSpace after := by
  unfold Level.operator?
  split
  · rename_i hNone
    simp [hNone]
  · rename_i sign after hSome
    obtain ⟨value, rest, hSuffix, hShorter⟩ := op
    simp [hSome, eq_comm]

theorem readLevel_eq {level : Level} {text : List Char} {first : Front Expr text}
    (hFirst : readOperand level text = .ok first) :
    readLevel level text = readChain level text first := by
  rw [readLevel, hFirst]

theorem yields_readLevel_iff {level : Level} {text rest : List Char} {tree : Expr} :
    Yields (readLevel level text) tree rest ↔
      ∃ first, readOperand level text = .ok first ∧
        Yields (readChain level text first) tree rest := by
  cases hFirst : readOperand level text with
  | error stop =>
      rw [readLevel, hFirst]
      simp [not_yields_error]
  | ok first =>
      rw [readLevel_eq hFirst]
      simp

theorem readChain_end {level : Level} {text : List Char} {left : Front Expr text}
    (hEnd : level.operator? left.rest = none) : readChain level text left = .ok left := by
  rw [readChain, hEnd]

private theorem extend_suffix {text : List Char} (left : Front Expr text)
    (op : Front BinaryOp left.rest) :
    op.rest <:+ text :=
  op.suffix.trans left.suffix

def extend {text : List Char} (left : Front Expr text) (op : Front BinaryOp left.rest)
    (right : Front Expr op.rest) : Front Expr text :=
  (right.widen (extend_suffix left op)).map
    (fun operand => .binary op.value left.value operand)

theorem readChain_step {level : Level} {text : List Char} {left : Front Expr text}
    {op : Front BinaryOp left.rest} {right : Front Expr op.rest}
    (hOp : level.operator? left.rest = some op) (hRight : readOperand level op.rest = .ok right) :
    readChain level text left = readChain level text (extend left op right) := by
  rw [readChain, hOp]
  simp only [hRight]
  rfl

theorem yields_readChain {level : Level} {text rest : List Char} {left : Front Expr text}
    {tree : Expr} (hYields : Yields (readChain level text left) tree rest) :
    (level.operator? left.rest = none ∧ left.value = tree ∧ left.rest = rest) ∨
      ∃ op right, level.operator? left.rest = some op ∧ readOperand level op.rest = .ok right ∧
        Yields (readChain level text (extend left op right)) tree rest := by
  cases hOp : level.operator? left.rest with
  | none =>
      rw [readChain_end hOp, yields_ok_iff] at hYields
      exact .inl ⟨rfl, hYields⟩
  | some op =>
      cases hRight : readOperand level op.rest with
      | error stop =>
          rw [readChain, hOp] at hYields
          simp only [hRight] at hYields
          exact absurd hYields not_yields_error
      | ok right =>
          rw [readChain_step hOp hRight] at hYields
          exact .inr ⟨op, right, rfl, hRight, hYields⟩

theorem yields_readExpr_iff {text rest : List Char} {tree : Expr} :
    Yields (readExpr text) tree rest ↔
      ∃ condition after, Yields (readLevel .disjunction text) condition after ∧
        (((skipSpace after).head? ≠ some '?' ∧ tree = condition ∧ rest = skipSpace after) ∨
          ∃ afterMark yes afterYes afterColon no, skipSpace after = '?' :: afterMark ∧
            Yields (readExpr (skipSpace afterMark)) yes afterYes ∧
            skipSpace afterYes = ':' :: afterColon ∧
            Yields (readExpr (skipSpace afterColon)) no rest ∧
            tree = .ternary condition yes no) := by
  rw [readExpr]
  constructor
  · intro hYields
    split at hYields
    · exact absurd hYields not_yields_error
    · rename_i condition hCondition
      refine ⟨condition.value, condition.rest, ⟨condition, hCondition, rfl, rfl⟩, ?_⟩
      split at hYields
      · rename_i afterMark hMark
        right
        split at hYields
        · exact absurd hYields not_yields_error
        · rename_i yes hYes
          split at hYields
          · rename_i afterColon hColon
            split at hYields
            · exact absurd hYields not_yields_error
            · rename_i no hNo
              obtain ⟨rfl, rfl⟩ := yields_ok_iff.1 hYields
              exact ⟨afterMark, yes.value, yes.rest, afterColon, no.value, hMark,
                ⟨yes, hYes, rfl, rfl⟩, hColon, ⟨no, hNo, rfl, rfl⟩, rfl⟩
          · exact absurd hYields not_yields_error
      · rename_i hMark
        obtain ⟨rfl, rfl⟩ := yields_ok_iff.1 hYields
        exact .inl ⟨head?_ne_of_not_cons hMark, rfl, rfl⟩
  · rintro ⟨_, _, ⟨condition, hCondition, rfl, rfl⟩, hCases⟩
    rw [hCondition]
    dsimp only
    rcases hCases with ⟨hMark, rfl, rfl⟩ |
      ⟨afterMark, _, _, afterColon, _, hMark, ⟨yes, hYes, rfl, rfl⟩, hColon,
        ⟨no, hNo, rfl, rfl⟩, rfl⟩
    · split
      · rename_i afterMark hAfter
        exact absurd (congrArg List.head? hAfter) hMark
      · exact yields_ok_iff.2 ⟨rfl, rfl⟩
    · split
      · rename_i afterMark' hAfter
        cases hMark.symm.trans hAfter
        rw [hYes]
        dsimp only
        split
        · rename_i afterColon' hAfterColon
          cases hColon.symm.trans hAfterColon
          rw [hNo]
          exact yields_ok_iff.2 ⟨rfl, rfl⟩
        · rename_i hNone
          exact absurd hColon (hNone afterColon)
      · rename_i hNone
        exact absurd hMark (hNone afterMark)

end LawnCalibration.Formula
