import LawnCalibration.Proofs.Predicate.Selection
import LawnCalibration.Proofs.Text.SnakeCase

/-
The names of a filter's fields in their two spellings.

Snake case only puts separators into a name.  Under ASCII names a field means
the same in either spelling, by its role and by its column.  Of an identifier it
makes an identifier, so that no field is lost that names its column by one.
-/

set_option autoImplicit false

namespace LawnCalibration.Predicate

open Text

private theorem isAscii_of_isColumnName {name : String} (hName : IsColumnName name) :
    ∀ c ∈ name.toList, IsAscii c := by
  obtain ⟨first, rest, hChars, hFirst, hRest⟩ := hName
  have hLast {c last : Char} (hRange : c ≤ last) (hAscii : IsAscii last) : IsAscii c :=
    Nat.lt_of_le_of_lt hRange hAscii
  rw [hChars, List.forall_mem_cons]
  constructor
  · rcases hFirst with ⟨-, hUpper⟩ | ⟨-, hLower⟩ | rfl
    · exact hLast hUpper (by decide)
    · exact hLast hLower (by decide)
    · decide
  · intro c hMember
    rcases hRest c hMember with ⟨-, hUpper⟩ | ⟨-, hLower⟩ | ⟨-, hDigit⟩ | rfl
    · exact hLast hUpper (by decide)
    · exact hLast hLower (by decide)
    · exact hLast hDigit (by decide)
    · decide

/-- In lower case the characters of an identifier keep their kinds. -/
private theorem isIdentifier_snakeCase {name : List Char} (hAscii : ∀ c ∈ name, IsAscii c)
    (hName : isIdentifier name = true) : isIdentifier (snakeCase name) = true := by
  cases name with
  | nil => cases hName
  | cons c rest =>
      have hFirst := hAscii c List.mem_cons_self
      rw [isIdentifier, Bool.and_eq_true_iff, List.all_eq_true] at hName
      obtain ⟨hStart, hRest⟩ := hName
      have hWords : ∀ d ∈ c :: rest, (d.isAlphanum || d == '_') = true := by
        rw [List.forall_mem_cons]
        refine ⟨?_, hRest⟩
        rw [Char.isAlphanum, Bool.or_right_comm, hStart, Bool.true_or]
      have hWhole : snakeCase (c :: rest) = asciiLowered c :: snakeTail c rest := by
        rw [snakeCase, lowered_of_isAscii hFirst]
        rfl
      rw [hWhole, isIdentifier, Bool.and_eq_true_iff, List.all_eq_true, isLetter_asciiLowered hFirst]
      refine ⟨hStart, fun d hMember => ?_⟩
      have hPlace : d ∈ snakeCase (c :: rest) := hWhole ▸ List.mem_cons_of_mem _ hMember
      rcases mem_snakeCase hPlace with rfl | ⟨e, hChar, hLowered⟩
      · rfl
      · rw [lowered_of_isAscii (hAscii e hChar)] at hLowered
        obtain rfl := List.mem_singleton.1 hLowered
        rw [isWordChar_asciiLowered (hAscii e hChar)]
        exact hWords e hChar

private theorem isIdentifier_snakeCased {name : String} (hName : isIdentifier name.toList = true) :
    isIdentifier (snakeCased name).toList = true := by
  rw [snakeCased, String.toList_ofList]
  exact isIdentifier_snakeCase (isAscii_of_isColumnName (isColumnName_of_isIdentifier hName)) hName

def IsAsciiText (text : String) : Prop :=
  ∀ c ∈ text.toList, IsAscii c

instance (text : String) : Decidable (IsAsciiText text) :=
  decidable_of_iff (text.toList.all fun c => decide (IsAscii c)) (by simp [IsAsciiText])

theorem snakeCased_snakeCased {name : String} (hAscii : IsAsciiText name) :
    snakeCased (snakeCased name) = snakeCased name := by
  rw [snakeCased, snakeCased, String.toList_ofList, snakeCase_snakeCase hAscii]

theorem rangeRole_snakeCased {name : String} (hAscii : IsAsciiText name) :
    rangeRole (snakeCased name) = rangeRole name := by
  unfold rangeRole
  rw [snakeCased, String.toList_ofList, snakeCase_snakeCase hAscii]

namespace Field

variable {field other : Field} {value : FieldValue}

/-- The same field, with its attribute and its serialization name as they are or in snake case. -/
structure Respells (field other : Field) : Prop where
  attributeName : other.attributeName = field.attributeName ∨
    other.attributeName = snakeCased field.attributeName
  serializationName : other.serializationName = field.serializationName ∨
    other.serializationName = field.serializationName.map snakeCased
  column : other.column = field.column
  value : other.value = field.value

structure HasAsciiNames (field : Field) : Prop where
  attributeName : IsAsciiText field.attributeName
  serializationName : ∀ name ∈ field.serializationName, IsAsciiText name

def sourceName (field : Field) : String :=
  (field.column.or field.serializationName).getD field.attributeName

theorem columnName_eq_getD (field : Field) : field.columnName =
    (field.column.or (field.serializationName.map snakeCased)).getD
      (snakeCased field.attributeName) := by
  unfold columnName
  cases field.column with
  | some column => rfl
  | none =>
      cases field.serializationName with
      | some name => rfl
      | none => rfl

theorem Respells.rangeRole_eq (hRespells : field.Respells other) (hAscii : field.HasAsciiNames) :
    rangeRole other.attributeName = rangeRole field.attributeName := by
  rcases hRespells.attributeName with hSame | hSnake
  · rw [hSame]
  · rw [hSnake, rangeRole_snakeCased hAscii.attributeName]

theorem Respells.columnName_eq (hRespells : field.Respells other) (hAscii : field.HasAsciiNames) :
    other.columnName = field.columnName := by
  have hAttribute : snakeCased other.attributeName = snakeCased field.attributeName := by
    rcases hRespells.attributeName with hSame | hSnake
    · rw [hSame]
    · rw [hSnake, snakeCased_snakeCased hAscii.attributeName]
  have hSerialization :
      other.serializationName.map snakeCased = field.serializationName.map snakeCased := by
    rcases hRespells.serializationName with hSame | hSnake
    · rw [hSame]
    · rw [hSnake, Option.map_map]
      exact Option.map_congr fun name hName =>
        snakeCased_snakeCased (hAscii.serializationName name hName)
  rw [columnName_eq_getD other, columnName_eq_getD field, hRespells.column, hSerialization,
    hAttribute]

theorem Respells.conditions_eq (hRespells : field.Respells other) (hAscii : field.HasAsciiNames) :
    other.conditions = field.conditions := by
  have hPresent : other.presentValue = field.presentValue := by
    rw [presentValue, presentValue, hRespells.value]
  rw [conditions, conditions, hPresent, hRespells.columnName_eq hAscii,
    hRespells.rangeRole_eq hAscii]

private theorem isIdentifier_columnName (hName : isIdentifier field.sourceName.toList = true) :
    isIdentifier field.columnName.toList = true := by
  unfold sourceName at hName
  unfold columnName
  cases hColumn : field.column with
  | some column =>
      rw [hColumn] at hName
      exact hName
  | none =>
      rw [hColumn, Option.none_or] at hName
      cases hSerialization : field.serializationName with
      | some name =>
          rw [hSerialization] at hName
          exact isIdentifier_snakeCased hName
      | none =>
          rw [hSerialization] at hName
          exact isIdentifier_snakeCased hName

/-- A field is not skipped if it takes its column from an identifier. -/
private theorem conditions_ne_nil (hName : isIdentifier field.sourceName.toList = true)
    (hValue : field.presentValue = some value) : field.conditions ≠ [] := by
  simp only [conditions, hValue, isIdentifier_columnName hName, if_true]
  exact fun hNone => comparisons_ne_nil _ _ (List.map_eq_nil_iff.1 hNone)

end Field

/-- Snake case only puts separators into a name.  Every underscore that it puts in stands between
two other characters, and without underscores the name is left in lower case.  Of ASCII
names nothing changes a second time: they have one role, one column and one set of conditions
in either spelling, and a field that takes its column from an identifier is never skipped. -/
theorem snake_case_only_separates :
    (∀ name : List Char,
      (snakeCase name).filter (· ≠ '_') = (name.filter (· ≠ '_')).flatMap lowered ∧
      snakeCase name = (placed name).flatMap Placed.written ∧
      (placed name).map Placed.char = name ∧
      ∀ front letter back, placed name = front ++ letter :: back → letter.separated = true →
        StandsApart (front.flatMap Placed.written)
          (lowered letter.char ++ back.flatMap Placed.written)) ∧
    (∀ name : String, IsAsciiText name →
      snakeCased (snakeCased name) = snakeCased name ∧
      (∀ c ∈ (snakeCased name).toList, isUpper c = false) ∧
      rangeRole name = rangeRole (snakeCased name)) ∧
    (∀ field other : Field, field.HasAsciiNames → field.Respells other →
      other.conditions = field.conditions) ∧
    (∀ name : String, isIdentifier name.toList = true →
      isIdentifier (snakeCased name).toList = true) ∧
    ∀ (field : Field) (value : FieldValue), isIdentifier field.sourceName.toList = true →
      field.presentValue = some value → field.conditions ≠ [] := by
  refine ⟨fun name => ?_, fun name hAscii => ?_, fun field other hAscii hRespells => ?_,
    fun name hName => ?_, fun field value hName hValue => ?_⟩
  · refine ⟨filter_snakeCase name, snakeCase_eq name, map_char_placed name, ?_⟩
    exact fun front letter back hName hSeparated => separator_standsApart hName hSeparated
  · refine ⟨snakeCased_snakeCased hAscii, fun c hMember => ?_, (rangeRole_snakeCased hAscii).symm⟩
    rw [snakeCased, String.toList_ofList] at hMember
    exact (snakeCase_of_ascii hAscii c hMember).2
  · exact hRespells.conditions_eq hAscii
  · exact isIdentifier_snakeCased hName
  · exact Field.conditions_ne_nil hName hValue

def dottedName : List Char :=
  ['e', 'n', 'd', Char.ofNat 0x130, 'D', '_', 'X']

private theorem season_isDay : Calendar.IsDay 2025 3 1 := by decide

def seasonField : Field where
  attributeName := "SeasonStartUTC"
  column := none
  serializationName := some "calibratedFrom2Day"
  value := some (.day ⟨2025, 3, 1, season_isDay⟩)

def seasonFieldInSnakeCase : Field where
  attributeName := "season_start_utc"
  column := none
  serializationName := some "calibrated_from2_day"
  value := some (.day ⟨2025, 3, 1, season_isDay⟩)

private theorem seasonField_asciiNames : seasonField.HasAsciiNames where
  attributeName := by decide +kernel
  serializationName := by decide +kernel

private theorem seasonField_respells : seasonField.Respells seasonFieldInSnakeCase where
  attributeName := .inr (by decide +kernel)
  serializationName := .inr (by decide +kernel)
  column := rfl
  value := rfl

theorem season_named_alike :
    (snakeCase dottedName = ['e', 'n', 'd', '_', 'i', Char.ofNat 0x307, 'd', '_', 'x'] ∧
      StandsApart ['e', 'n', 'd'] ['i', Char.ofNat 0x307, 'd', '_', 'x']) ∧
    rangeRole "SeasonStartUTC" = rangeRole (snakeCased "SeasonStartUTC") ∧
    seasonFieldInSnakeCase.conditions = seasonField.conditions ∧
    isIdentifier (snakeCased "SeasonStartUTC").toList = true ∧ seasonField.conditions ≠ [] := by
  obtain ⟨hSeparators, hNames, hFields, hIdentifiers, hKept⟩ := snake_case_only_separates
  have hPlaced : placed dottedName = (placed dottedName).take 3 ++
      ⟨true, Char.ofNat 0x130⟩ :: (placed dottedName).drop 4 := by decide +kernel
  have hBefore : ((placed dottedName).take 3).flatMap Placed.written = ['e', 'n', 'd'] := by
    decide +kernel
  have hAfter : lowered (Char.ofNat 0x130) ++ ((placed dottedName).drop 4).flatMap Placed.written =
      ['i', Char.ofNat 0x307, 'd', '_', 'x'] := by decide +kernel
  have hApart := (hSeparators dottedName).2.2.2 _ _ _ hPlaced rfl
  rw [hBefore, hAfter] at hApart
  refine ⟨⟨by decide +kernel, hApart⟩, ?_, ?_, ?_, ?_⟩
  · exact (hNames _ seasonField_asciiNames.attributeName).2.2
  · exact hFields _ _ seasonField_asciiNames seasonField_respells
  · exact hIdentifiers _ (by decide +kernel)
  · exact hKept _ _ (by decide +kernel) rfl

end LawnCalibration.Predicate
