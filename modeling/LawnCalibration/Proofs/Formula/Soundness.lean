import LawnCalibration.Proofs.Formula.Readings

/-
Formulas are read exactly as the grammar derives them.

A reading is a derivation of what it took: the reader passes over white space
in more places than one, so every statement is about the text behind its
leading space.  Conversely a derivation is read in full wherever what follows
it cannot prolong it; a numeral or a name then ends where the reader stops, and
a chain of operators takes all its operands.
-/

set_option autoImplicit false

namespace LawnCalibration.Formula

open Text
open Grammar

theorem Yields.shorter {text rest : List Char} {reading : Reading text} {tree : Expr}
    (hYields : Yields reading tree rest) : rest.length < text.length := by
  obtain ⟨front, -, -, rfl⟩ := hYields
  exact front.shorter

theorem Yields.suffix {text rest : List Char} {reading : Reading text} {tree : Expr}
    (hYields : Yields reading tree rest) : rest <:+ text := by
  obtain ⟨front, -, -, rfl⟩ := hYields
  exact front.suffix

/-- The readings of a whole formula are derivations; the reader also passes over the space behind
the formula. -/
def SoundExpr (text : List Char) : Prop :=
  ∀ tree rest, Yields (readExpr text) tree rest →
    ∃ after, Derives .expr (skipSpace text) tree after ∧ rest = skipSpace after

def SoundOperand (level : Level) (text : List Char) : Prop :=
  ∀ tree rest, Yields (readOperand level text) tree rest →
    Derives (operand level) (skipSpace text) tree rest

def SoundLevel (level : Level) (text : List Char) : Prop :=
  ∀ tree rest, Yields (readLevel level text) tree rest →
    Derives (.chain level) (skipSpace text) tree rest

theorem derives_of_readPrimary {text rest : List Char} {tree : Expr}
    (hInner : ∀ inner, inner.length < text.length → SoundExpr inner)
    (hYields : Yields (readPrimary text) tree rest) : Derives .primary text tree rest := by
  rcases yields_readPrimary_iff.1 hYields with
    ⟨inside, afterInner, rfl, hTree, hClose⟩ | ⟨-, hAtom⟩
  · have hShorter : (skipSpace inside).length < ('(' :: inside).length :=
      Nat.lt_succ_of_le (skipSpace_suffix inside).length_le
    obtain ⟨after, hDerives, rfl⟩ := hInner _ hShorter tree afterInner hTree
    rw [skipSpace_skipSpace] at hDerives hClose
    exact .parenthesized (gap_skipSpace inside) hDerives (hClose ▸ gap_skipSpace after)
  · rcases yields_readAtom_iff.1 hAtom with ⟨numeral, hScan, rfl⟩ | ⟨-, -, hName⟩
    · obtain ⟨token, hToken, hNumeral⟩ := longest_of_scan hScan
      exact .number hToken hNumeral
    · obtain ⟨token, hToken, hKeyword, rfl⟩ := yields_readName_iff.1 hName
      exact .name hToken hKeyword

theorem derives_of_readUnary {text rest : List Char} {tree : Expr}
    (hInner : ∀ inner, inner.length < text.length → SoundExpr inner)
    (hOperand : ∀ inner, inner.length < text.length → SoundOperand .product inner)
    (hYields : Yields (readUnary text) tree rest) : Derives .unary (skipSpace text) tree rest := by
  have hSkip := (skipSpace_suffix text).length_le
  have hSigned : ∀ op after operand, Sign op (skipSpace text) after →
      after.length < (skipSpace text).length → Yields (readUnary after) operand rest →
      Derives .unary (skipSpace text) (.unary op operand) rest := by
    intro op after operand hSign hShorter hReading
    have hTree := hOperand after (by omega) operand rest (yields_readOperand_iff.2 hReading)
    exact .signed hSign (gap_skipSpace after) hTree
  rcases yields_readUnary_iff.1 hYields with
    ⟨after, operand, hMinus, hReading, rfl⟩ | ⟨-, ⟨after, operand, hNot, hReading, rfl⟩ | ⟨-, hPrimary⟩⟩
  · exact hSigned _ after operand (hMinus ▸ .minus after) (by simp [hMinus]) hReading
  · exact hSigned _ after operand (dropNot_sound hNot) (dropNot_leaves hNot).2 hReading
  · exact .bare (derives_of_readPrimary (fun inner hShorter => hInner inner (by omega)) hPrimary)

/-- By induction on what is left: each step takes an operator and one more operand. -/
theorem derives_of_readChain {level : Level} {text rest : List Char} {tree : Expr}
    (hOperand : ∀ inner, inner.length < text.length → SoundOperand level inner)
    (left : Front Expr text) (hLeft : Derives (.chain level) (skipSpace text) left.value left.rest)
    (hYields : Yields (readChain level text left) tree rest) :
    Derives (.chain level) (skipSpace text) tree rest := by
  induction hLength : left.rest.length using Nat.strong_induction_on generalizing left with
  | _ size ih =>
      rcases yields_readChain hYields with ⟨-, rfl, rfl⟩ | ⟨op, right, hOp, hRight, hNext⟩
      · exact hLeft
      · obtain ⟨after, hSymbol, hAfter⟩ := operator?_eq_some_iff.1 hOp
        have hShorter : op.rest.length < text.length :=
          op.shorter.trans left.shorter
        have hSkip : skipSpace op.rest = op.rest := by rw [hAfter, skipSpace_skipSpace]
        have hTree := hOperand op.rest hShorter right.value right.rest ⟨right, hRight, rfl, rfl⟩
        rw [hSkip] at hTree
        have hJoined : Derives (.chain level) (skipSpace text) (extend left op right).value
            (extend left op right).rest :=
          .joined hLeft (gap_skipSpace left.rest) (symbol?_sound hSymbol)
            (hAfter ▸ gap_skipSpace after) hTree
        have hLess : (extend left op right).rest.length < size :=
          hLength ▸ right.shorter.trans op.shorter
        exact ih _ hLess (extend left op right) hJoined hNext rfl

theorem soundLevel {level : Level} {text : List Char} (hFirst : SoundOperand level text)
    (hOperand : ∀ inner, inner.length < text.length → SoundOperand level inner) :
    SoundLevel level text := by
  intro tree rest hYields
  obtain ⟨first, hRead, hChain⟩ := yields_readLevel_iff.1 hYields
  exact derives_of_readChain hOperand first (.single (hFirst _ _ ⟨first, hRead, rfl, rfl⟩)) hChain

theorem soundOperand {text : List Char}
    (hInner : ∀ inner, inner.length < text.length → SoundExpr inner)
    (hOperand : ∀ level inner, inner.length < text.length → SoundOperand level inner) :
    ∀ level, SoundOperand level text := by
  have hProduct : SoundOperand .product text := by
    intro tree rest hYields
    exact derives_of_readUnary hInner (hOperand .product) (yields_readOperand_iff.1 hYields)
  have hTighter : ∀ (level : Level) {tighter : Level}, level.tighter? = some tighter →
      operand level = .chain tighter → SoundOperand tighter text → SoundOperand level text := by
    intro level tighter hNext hCategory hSound tree rest hYields
    rw [yields_readOperand_iff, hNext] at hYields
    rw [hCategory]
    exact soundLevel hSound (hOperand tighter) tree rest hYields
  have hSum := hTighter .sum rfl rfl hProduct
  have hComparison := hTighter .comparison rfl rfl hSum
  have hConjunction := hTighter .conjunction rfl rfl hComparison
  have hDisjunction := hTighter .disjunction rfl rfl hConjunction
  intro level
  cases level with
  | disjunction => exact hDisjunction
  | conjunction => exact hConjunction
  | comparison => exact hComparison
  | sum => exact hSum
  | product => exact hProduct

private theorem soundExpr_of_level {text : List Char} (hLevel : SoundLevel .disjunction text)
    (hInner : ∀ inner, inner.length < text.length → SoundExpr inner) : SoundExpr text := by
  intro tree rest hYields
  obtain ⟨condition, after, hCondition, hCases⟩ := yields_readExpr_iff.1 hYields
  have hTree := hLevel _ _ hCondition
  have hAfter := hCondition.shorter
  rcases hCases with ⟨-, rfl, rfl⟩ |
    ⟨afterMark, yes, afterYes, afterColon, no, hMark, hYes, hColon, hNo, rfl⟩
  · exact ⟨after, .plain hTree, rfl⟩
  · have hSkips : ∀ inner : List Char, (skipSpace inner).length ≤ inner.length :=
      fun inner => (skipSpace_suffix inner).length_le
    have hMarkLength := congrArg List.length hMark
    have hColonLength := congrArg List.length hColon
    rw [List.length_cons] at hMarkLength hColonLength
    have hYesShorter : (skipSpace afterMark).length < text.length := by
      have h1 := hSkips afterMark
      have h2 := hSkips after
      omega
    have hNoShorter : (skipSpace afterColon).length < text.length := by
      have h1 := hSkips afterColon
      have h2 := hSkips afterYes
      have h3 := hYes.shorter
      omega
    obtain ⟨behindYes, hYesTree, rfl⟩ := hInner _ hYesShorter _ _ hYes
    obtain ⟨behindNo, hNoTree, rfl⟩ := hInner _ hNoShorter _ _ hNo
    rw [skipSpace_skipSpace] at hYesTree hNoTree hColon
    exact ⟨behindNo, .branches hTree (hMark ▸ gap_skipSpace after) (gap_skipSpace afterMark) hYesTree
      (hColon ▸ gap_skipSpace behindYes) (gap_skipSpace afterColon) hNoTree, rfl⟩

/-- By induction on the length of the text, all categories together. -/
theorem soundExpr (text : List Char) : SoundExpr text := by
  have hAll : SoundExpr text ∧ ∀ level, SoundOperand level text := by
    induction hLength : text.length using Nat.strong_induction_on generalizing text with
    | _ size ih =>
        have hInner : ∀ inner : List Char, inner.length < text.length → SoundExpr inner :=
          fun inner hShorter => (ih _ (hLength ▸ hShorter) inner rfl).1
        have hOperand : ∀ level (inner : List Char), inner.length < text.length →
            SoundOperand level inner :=
          fun level inner hShorter => (ih _ (hLength ▸ hShorter) inner rfl).2 level
        have hHere := soundOperand hInner hOperand
        exact ⟨soundExpr_of_level (soundLevel (hHere _) (hOperand _)) hInner, hHere⟩
  exact hAll.1

end LawnCalibration.Formula
