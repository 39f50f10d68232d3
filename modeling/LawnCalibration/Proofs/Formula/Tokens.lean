import LawnCalibration.Proofs.Formula.Grammar
import LawnCalibration.Proofs.Text.Span
import Mathlib

/-
The readers of single tokens meet the grammar.

Each reader is compared with the pattern of its token.  Operators of different
levels start with different characters, so that at most one level has an
operator at any place.
-/

set_option autoImplicit false

namespace LawnCalibration.Formula.Grammar

open Text

theorem gap_skipSpace (text : List Char) : Gap text (skipSpace text) :=
  ⟨text.takeWhile isSpace, List.takeWhile_append_dropWhile.symm, forall_mem_takeWhile⟩

theorem Gap.skipSpace_eq {text rest : List Char} (hGap : Gap text rest) :
    skipSpace text = skipSpace rest := by
  obtain ⟨space, rfl, hSpace⟩ := hGap
  exact List.dropWhile_append_of_pos hSpace

@[simp] theorem skipSpace_skipSpace (text : List Char) :
    skipSpace (skipSpace text) = skipSpace text :=
  List.dropWhile_idempotent isSpace text

theorem skipSpace_cons {c : Char} {text : List Char} (hSpace : isSpace c = false) :
    skipSpace (c :: text) = c :: text := by
  simp [skipSpace, hSpace]

theorem dropWord_eq_some_iff {word text rest : List Char} :
    dropWord word text = some rest ↔
      ∃ token, text = token ++ rest ∧ token.map asciiLowered = word := by
  induction word generalizing text with
  | nil => simp [dropWord, eq_comm]
  | cons letter word ih =>
      cases text with
      | nil =>
          simp only [dropWord, reduceCtorEq, false_iff, not_exists, not_and]
          intro token hEmpty hToken
          rw [(List.append_eq_nil_iff.1 hEmpty.symm).1] at hToken
          cases hToken
      | cons c text =>
          simp only [dropWord]
          constructor
          · intro hDrop
            split at hDrop
            · rename_i hLetter
              obtain ⟨token, rfl, rfl⟩ := ih.1 hDrop
              exact ⟨c :: token, rfl, by simp [hLetter]⟩
            · cases hDrop
          · rintro ⟨token, hText, hToken⟩
            cases token with
            | nil => cases hToken
            | cons first token =>
                simp only [List.cons_append, List.cons.injEq] at hText
                simp only [List.map_cons, List.cons.injEq] at hToken
                rw [hText.1, if_pos hToken.1]
                exact ih.2 ⟨token, hText.2, hToken.2⟩

theorem dropKeyword_eq_some_iff {word text rest : List Char} :
    dropKeyword word text = some rest ↔ IsWord word text rest := by
  have hHead : ∀ after : List Char, after.head?.any isNameChar = false ↔
      ∀ c, after.head? = some c → isNameChar c = false := by
    intro after
    cases after <;> simp
  unfold dropKeyword IsWord
  constructor
  · intro hDrop
    split at hDrop
    · rename_i after hAfter
      split at hDrop
      · cases hDrop
      · rename_i hBoundary
        cases hDrop
        obtain ⟨token, hText, hToken⟩ := dropWord_eq_some_iff.1 hAfter
        exact ⟨token, hText, hToken, (hHead rest).1 (by simpa using hBoundary)⟩
    · cases hDrop
  · rintro ⟨token, hText, hToken, hBoundary⟩
    rw [dropWord_eq_some_iff.2 ⟨token, hText, hToken⟩]
    simp [(hHead rest).2 hBoundary]

/-- A word starts with its first letter in one of the two cases. -/
theorem IsWord.head {letter : Char} {word text rest : List Char}
    (hWord : IsWord (letter :: word) text rest) :
    ∃ c tail, text = c :: tail ∧ asciiLowered c = letter := by
  obtain ⟨token, rfl, hToken, -⟩ := hWord
  cases token with
  | nil => cases hToken
  | cons c token => exact ⟨c, token ++ rest, rfl, (List.cons.inj hToken).1⟩

theorem isNameChar_of_isNameStart {c : Char} (hStart : isNameStart c = true) :
    isNameChar c = true := by
  simp only [isNameStart, isNameChar, Char.isAlphanum, Bool.or_eq_true] at hStart ⊢
  tauto

theorem not_isDigit_of_isNameStart {c : Char} (hStart : isNameStart c = true) :
    c.isDigit = false := by
  by_contra hDigit
  rw [Bool.not_eq_false] at hDigit
  simp only [isNameStart, Char.isAlpha, Char.isUpper, Char.isLower, Char.isDigit, Bool.or_eq_true,
    Bool.and_eq_true, decide_eq_true_eq, beq_iff_eq, ge_iff_le, UInt32.le_iff_toNat_le]
    at hStart hDigit
  rcases hStart with (hCapital | hSmall) | rfl
  · simp at hCapital hDigit
    omega
  · simp at hSmall hDigit
    omega
  · simp at hDigit

theorem IsName.forall_isNameChar {token : List Char} (hName : IsName token) :
    ∀ c ∈ token, isNameChar c = true := by
  obtain ⟨first, others, rfl, hFirst, hOthers⟩ := hName
  intro c hMember
  rcases List.mem_cons.1 hMember with rfl | hMember
  · exact isNameChar_of_isNameStart hFirst
  · exact hOthers c hMember

/-- A name is the longest in its place exactly when no character of a name follows it. -/
theorem longest_isName_iff {text token rest : List Char} :
    Longest IsName text token rest ↔ text = token ++ rest ∧ IsName token ∧
      ∀ c, rest.head? = some c → isNameChar c = false := by
  constructor
  · rintro ⟨rfl, hName, hLongest⟩
    refine ⟨rfl, hName, ?_⟩
    intro c hHead
    by_contra hChar
    rw [Bool.not_eq_false] at hChar
    cases rest with
    | nil => cases hHead
    | cons d rest =>
        cases hHead
        obtain ⟨first, others, rfl, hFirst, hOthers⟩ := hName
        have hLonger := hLongest (first :: (others ++ [c])) rest (by simp)
          ⟨first, others ++ [c], rfl, hFirst, by
            intro d hMember
            rcases List.mem_append.1 hMember with hMember | hMember
            · exact hOthers d hMember
            · rw [List.mem_singleton.1 hMember, hChar]⟩
        simp only [List.length_cons, List.length_append, List.length_nil] at hLonger
        omega
  · rintro ⟨rfl, hName, hBoundary⟩
    refine ⟨rfl, hName, ?_⟩
    intro other after hText hOther
    have hRun := takeWhile_run hName.forall_isNameChar hBoundary
    rw [hText, List.takeWhile_append_of_pos hOther.forall_isNameChar] at hRun
    rw [← hRun, List.length_append]
    omega

/-! ### Operators -/

def opens : Level → List Char
  | .disjunction => ['|', 'o', 'O']
  | .conjunction => ['&', 'a', 'A']
  | .comparison => ['>', '<', '=', '!']
  | .sum => ['+', '-']
  | .product => ['*', '/']

theorem level_eq_of_opens {level other : Level} {c : Char} (hLevel : c ∈ opens level)
    (hOther : c ∈ opens other) : level = other := by
  have hDisjoint : ∀ c ∈ opens level, c ∈ opens other → level = other := by
    cases level <;> cases other <;> simp [opens]
  exact hDisjoint c hLevel hOther

theorem eq_of_asciiLowered_eq {c letter : Char} (hLowered : asciiLowered c = letter) :
    c = letter ∨ c = Char.ofNat (letter.toNat - 32) := by
  unfold asciiLowered at hLowered
  split at hLowered
  · rename_i hCapital
    right
    have hBound : c.toNat ≤ 90 := hCapital.2
    have hValid : (c.toNat + 32).isValidChar := Or.inl (by omega)
    have hValue : letter.toNat = c.toNat + 32 := by
      rw [← hLowered, Char.ofNat, dif_pos hValid]
      rfl
    rw [hValue, Nat.add_sub_cancel, Char.ofNat_toNat]
  · exact Or.inl hLowered

private theorem symbols_head (level : Level) : ∀ entry ∈ symbols level,
    ∃ c ∈ opens level, entry.2.head? = some c := by
  cases level <;> simp [symbols, opens]

private theorem words_head (level : Level) : ∀ entry ∈ words level,
    ∃ letter ∈ opens level, Char.ofNat (letter.toNat - 32) ∈ opens level ∧
      entry.2.head? = some letter := by
  cases level <;> simp [words, opens]

theorem Operator.head {level : Level} {op : BinaryOp} {text rest : List Char}
    (hOp : Operator level op text rest) : ∃ c tail, text = c :: tail ∧ c ∈ opens level := by
  cases hOp with
  | symbol rest hSymbol =>
      obtain ⟨c, hOpens, hHead⟩ := symbols_head level _ hSymbol
      obtain ⟨tail, rfl⟩ := List.head?_eq_some_iff.1 hHead
      exact ⟨c, tail ++ rest, rfl, hOpens⟩
  | word hListed hWord =>
      obtain ⟨letter, hSmall, hCapital, hHead⟩ := words_head level _ hListed
      obtain ⟨letters, rfl⟩ := List.head?_eq_some_iff.1 hHead
      obtain ⟨c, tail, rfl, hLowered⟩ := hWord.head
      refine ⟨c, tail, rfl, ?_⟩
      rcases eq_of_asciiLowered_eq hLowered with rfl | rfl
      · exact hSmall
      · exact hCapital

theorem symbol?_sound {level : Level} {text rest : List Char} {op : BinaryOp}
    (hSymbol : level.symbol? text = some (op, rest)) : Operator level op text rest := by
  have hListed : ∀ listed token after, (listed, token) ∈ symbols level →
      some (listed, after) = some (op, rest) → Operator level op (token ++ after) rest := by
    intro listed token after hMember hSame
    cases hSame
    exact .symbol _ hMember
  have hWord : ∀ listed word, (listed, word) ∈ words level →
      (dropKeyword word text).map (listed, ·) = some (op, rest) → Operator level op text rest := by
    intro listed word hMember hSame
    obtain ⟨after, hDrop, hPair⟩ := Option.map_eq_some_iff.1 hSame
    cases hPair
    exact .word hMember (dropKeyword_eq_some_iff.1 hDrop)
  unfold Level.symbol? at hSymbol
  split at hSymbol
  · exact hListed .or ['|', '|'] _ (by decide) hSymbol
  · exact hWord .or _ (by decide) hSymbol
  · exact hListed .and ['&', '&'] _ (by decide) hSymbol
  · exact hWord .and _ (by decide) hSymbol
  · exact hListed .gte ['>', '='] _ (by decide) hSymbol
  · exact hListed .lte ['<', '='] _ (by decide) hSymbol
  · exact hListed .eq ['=', '='] _ (by decide) hSymbol
  · exact hListed .neq ['!', '='] _ (by decide) hSymbol
  · exact hListed .gt ['>'] _ (by decide) hSymbol
  · exact hListed .lt ['<'] _ (by decide) hSymbol
  · exact hListed .add ['+'] _ (by decide) hSymbol
  · exact hListed .sub ['-'] _ (by decide) hSymbol
  · exact hListed .mul ['*'] _ (by decide) hSymbol
  · exact hListed .div ['/'] _ (by decide) hSymbol
  · cases hSymbol

private theorem symbol?_angle {c : Char} {op : BinaryOp} {rest : List Char}
    (hAngle : c = '>' ∧ op = .gt ∨ c = '<' ∧ op = .lt) (hRest : rest.head? ≠ some '=') :
    Level.comparison.symbol? (c :: rest) = some (op, rest) := by
  cases rest with
  | nil => rcases hAngle with ⟨rfl, rfl⟩ | ⟨rfl, rfl⟩ <;> rfl
  | cons d rest =>
      have hDifferent : d ≠ '=' := by simpa using hRest
      rcases hAngle with ⟨rfl, rfl⟩ | ⟨rfl, rfl⟩ <;> simp [Level.symbol?, hDifferent]

/-- An operator is the one that is read, unless an equals sign makes a longer one of it. -/
theorem Operator.symbol?_eq {level : Level} {op : BinaryOp} {text rest : List Char}
    (hOp : Operator level op text rest) (hRest : op = .gt ∨ op = .lt → rest.head? ≠ some '=') :
    level.symbol? text = some (op, rest) := by
  cases hOp with
  | symbol _ hSymbol =>
      cases level <;> simp only [symbols, List.mem_cons, Prod.mk.injEq, List.not_mem_nil, or_false]
        at hSymbol
      case comparison =>
        rcases hSymbol with ⟨rfl, rfl⟩ | ⟨rfl, rfl⟩ | ⟨rfl, rfl⟩ | ⟨rfl, rfl⟩ | ⟨rfl, rfl⟩ |
          ⟨rfl, rfl⟩
        · rfl
        · rfl
        · rfl
        · rfl
        · exact symbol?_angle (.inl ⟨rfl, rfl⟩) (hRest (.inl rfl))
        · exact symbol?_angle (.inr ⟨rfl, rfl⟩) (hRest (.inr rfl))
      case disjunction => rw [hSymbol.1, hSymbol.2]; rfl
      case conjunction => rw [hSymbol.1, hSymbol.2]; rfl
      all_goals rcases hSymbol with ⟨rfl, rfl⟩ | ⟨rfl, rfl⟩ <;> rfl
  | word hListed hWord =>
      cases level <;> simp only [words, List.mem_cons, Prod.mk.injEq, List.not_mem_nil, or_false]
        at hListed
      all_goals
        obtain ⟨rfl, rfl⟩ := hListed
        obtain ⟨c, tail, rfl, hLowered⟩ := hWord.head
        have hDrop := dropKeyword_eq_some_iff.2 hWord
        rcases eq_of_asciiLowered_eq hLowered with rfl | rfl
        · simp [Level.symbol?, hDrop]
        · change Option.map _ (dropKeyword _ _) = _
          rw [hDrop]
          rfl

/-- Of two operators that start with one angle the longer one is read. -/
theorem head?_ne_equals_of_symbol? {level : Level} {op : BinaryOp} {text rest : List Char}
    (hSymbol : level.symbol? text = some (op, rest)) (hAngle : op = .gt ∨ op = .lt) :
    rest.head? ≠ some '=' := by
  intro hHead
  obtain ⟨tail, rfl⟩ := List.head?_eq_some_iff.1 hHead
  cases symbol?_sound hSymbol with
  | symbol _ hListed =>
      rcases hAngle with rfl | rfl
      all_goals
        cases level <;> simp [symbols] at hListed
        subst hListed
        cases hSymbol
  | word hListed _ =>
      rcases hAngle with rfl | rfl
      all_goals cases level <;> simp [words] at hListed

theorem dropNot_sound {text rest : List Char} (hDrop : dropNot text = some rest) :
    Sign .not text rest := by
  unfold dropNot at hDrop
  split at hDrop
  · cases hDrop
  · cases hDrop
    exact .mark rest
  · exact .word (dropKeyword_eq_some_iff.1 hDrop)

/-- A negation that an operand can follow is the one that is read. -/
theorem Sign.dropNot_eq {text rest : List Char} (hSign : Sign .not text rest)
    (hRest : rest.head? ≠ some '=') : dropNot text = some rest := by
  cases hSign with
  | mark =>
      unfold dropNot
      split
      · rename_i hText
        cases hText
        exact absurd rfl hRest
      · rename_i hText
        cases hText
        rfl
      · rename_i hMark
        exact absurd rfl (hMark rest)
  | word hWord =>
      have hDrop := dropKeyword_eq_some_iff.2 hWord
      obtain ⟨c, tail, rfl, hLowered⟩ := hWord.head
      unfold dropNot
      split
      · rename_i hText
        cases hText
        exact absurd hLowered (by decide)
      · rename_i hText
        cases hText
        exact absurd hLowered (by decide)
      · exact hDrop

end LawnCalibration.Formula.Grammar
