import LawnCalibration.Proofs.Calendar.Timestamp
import LawnCalibration.Proofs.Predicate.QueryText
import LawnCalibration.Proofs.Store.Comparison
import LawnCalibration.Store.Query

/-
The rows that a filter selects.

A field says what it asks of a row: a day or an instant by the words of its
attribute, a number by its value, anything else by its text.  The rows that a
query gives are those that meet every field, and its text, read back with its
parameters, selects the same ones.
-/

set_option autoImplicit false

namespace LawnCalibration

open Calendar (Date Instant nanosPerSecond)
open Store (Affinity Cell Clock Column Columns Fault Operand columnsOf condition? findColumn folded
  instantText isOneOf readName selectRows selects)
open Store.Statement (reservedWords)

namespace Predicate

open Text

/-- A word stands between underscores of the attribute in snake case. -/
def HasWord (attributeName word : String) : Prop :=
  '_' :: (word.toList ++ ['_']) <:+: '_' :: (snakeCase attributeName.toList ++ ['_'])

instance (attributeName word : String) : Decidable (HasWord attributeName word) :=
  inferInstanceAs (Decidable (_ <:+: _))

/-- A value as a bound: the lower one under a word for a start, else the upper one under a word
for an end, else it has to be met exactly. -/
def BoundedBy (attributeName : String) (lower upper exactly : Prop) : Prop :=
  if HasWord attributeName "from" ∨ HasWord attributeName "start" then lower
  else if HasWord attributeName "to" ∨ HasWord attributeName "end" then upper
  else exactly

instance (attributeName : String) (lower upper exactly : Prop) [Decidable lower] [Decidable upper]
    [Decidable exactly] : Decidable (BoundedBy attributeName lower upper exactly) :=
  inferInstanceAs (Decidable
    (if HasWord attributeName "from" ∨ HasWord attributeName "start" then lower
      else if HasWord attributeName "to" ∨ HasWord attributeName "end" then upper
      else exactly))

section Words

variable {text word first : List Char} {later : List (List Char)}

private theorem words_ne_nil (text : List Char) : words text ≠ [] := by
  cases text with
  | nil => exact List.cons_ne_nil _ _
  | cons c rest =>
      rw [words]
      split
      · split <;> exact List.cons_ne_nil _ _
      · exact List.cons_ne_nil _ _

private theorem first_word_iff (hWords : words text = first :: later) (hBar : '_' ∉ word) :
    word = first ↔ word ++ ['_'] <+: text ++ ['_'] := by
  induction text generalizing word first later with
  | nil =>
      cases hWords
      cases word with
      | nil => simp
      | cons d others => simp
  | cons c rest ih =>
      obtain ⟨next, others, hRest⟩ := List.exists_cons_of_ne_nil (words_ne_nil rest)
      rw [words, hRest] at hWords
      dsimp only at hWords
      by_cases hUnderscore : c = '_'
      · rw [if_pos hUnderscore] at hWords
        cases hWords
        cases word with
        | nil => simp [hUnderscore]
        | cons d tail =>
            have hOther : d ≠ c := fun hSame => hBar (by simp [hSame, hUnderscore])
            simp [hOther]
      · rw [if_neg hUnderscore] at hWords
        cases hWords
        cases word with
        | nil => simp [Ne.symm hUnderscore]
        | cons d tail =>
            rw [List.cons_append, List.cons_append, List.cons_prefix_cons, List.cons.injEq,
              ih hRest fun hMember => hBar (List.mem_cons_of_mem d hMember)]

private theorem later_word_iff (hWords : words text = first :: later) (hBar : '_' ∉ word) :
    word ∈ later ↔ '_' :: (word ++ ['_']) <:+: text ++ ['_'] := by
  induction text generalizing first later with
  | nil =>
      cases hWords
      refine iff_of_false List.not_mem_nil fun hInfix => ?_
      have hLength := hInfix.length_le
      simp at hLength
  | cons c rest ih =>
      obtain ⟨next, others, hRest⟩ := List.exists_cons_of_ne_nil (words_ne_nil rest)
      rw [words, hRest] at hWords
      dsimp only at hWords
      rw [List.cons_append, List.infix_cons_iff, List.cons_prefix_cons, ← ih hRest,
        ← first_word_iff hRest hBar]
      by_cases hUnderscore : c = '_'
      · rw [if_pos hUnderscore] at hWords
        cases hWords
        rw [List.mem_cons, hUnderscore, eq_self, true_and]
      · rw [if_neg hUnderscore] at hWords
        cases hWords
        simp [Ne.symm hUnderscore]

theorem mem_words_iff (hBar : '_' ∉ word) :
    word ∈ words text ↔ '_' :: (word ++ ['_']) <:+: '_' :: (text ++ ['_']) := by
  obtain ⟨first, later, hWords⟩ := List.exists_cons_of_ne_nil (words_ne_nil text)
  rw [hWords, List.mem_cons, first_word_iff hWords hBar, later_word_iff hWords hBar,
    List.infix_cons_iff, List.cons_prefix_cons, eq_self, true_and]

end Words

theorem boundedBy_iff (attributeName : String) {lower upper exactly : Prop} :
    BoundedBy attributeName lower upper exactly ↔
      match rangeRole attributeName with
      | .lower => lower
      | .upper => upper
      | .exact => exactly := by
  have hWord {word : String} (hBar : '_' ∉ word.toList) : HasWord attributeName word ↔
      word.toList ∈ words (snakeCase attributeName.toList) := (mem_words_iff hBar).symm
  have hLower : (HasWord attributeName "from" ∨ HasWord attributeName "start") ↔
      (words (snakeCase attributeName.toList)).any lowerWords.contains = true := by
    rw [hWord (by decide), hWord (by decide)]
    simp [lowerWords, and_or_left, exists_or]
  have hUpper : (HasWord attributeName "to" ∨ HasWord attributeName "end") ↔
      (words (snakeCase attributeName.toList)).any upperWords.contains = true := by
    rw [hWord (by decide), hWord (by decide)]
    simp [upperWords, and_or_left, exists_or]
  unfold BoundedBy rangeRole
  simp only [hLower, hUpper]
  split
  · rfl
  · split <;> rfl

end Predicate

/-! ### What a field asks of a row -/

def Store.Cell.instant? : Cell → Option Instant
  | .text value => (Calendar.Timestamp.read value).toOption
  | _ => none

namespace Predicate

def FieldValue.IsMetBy (attributeName : String) (cell : Cell) : FieldValue → Prop
  | .identifier bits => cell = .text (Identifier.text (⟨bits⟩ : UserId))
  | .text value => cell = .text value
  | .integer value => cell.IsInteger value
  | .real value => cell.IsReal value
  | .boolean value => cell.IsInteger (if value then 1 else 0)
  | .day date => ∃ instant ∈ cell.instant?,
      BoundedBy attributeName (date ≤ instant.date) (instant.date ≤ date) (instant.date = date)
  | .instant value => ∃ instant ∈ cell.instant?,
      BoundedBy attributeName (value ≤ instant) (instant ≤ value) (instant = value)

instance (attributeName : String) (cell : Cell) :
    (value : FieldValue) → Decidable (value.IsMetBy attributeName cell)
  | .identifier bits => inferInstanceAs (Decidable (cell = .text (Identifier.text (⟨bits⟩ : UserId))))
  | .text value => inferInstanceAs (Decidable (cell = .text value))
  | .integer value => inferInstanceAs (Decidable (cell.IsInteger value))
  | .real value => inferInstanceAs (Decidable (cell.IsReal value))
  | .boolean value => inferInstanceAs (Decidable (cell.IsInteger (if value then 1 else 0)))
  | .day date => inferInstanceAs (Decidable (∃ instant ∈ cell.instant?, BoundedBy attributeName
      (date ≤ instant.date) (instant.date ≤ date) (instant.date = date)))
  | .instant value => inferInstanceAs (Decidable (∃ instant ∈ cell.instant?,
      BoundedBy attributeName (value ≤ instant) (instant ≤ value) (instant = value)))

/-- A value that constrains rows: no empty text, and its column can be named in a query. -/
def Field.Constrains (field : Field) (value : FieldValue) : Prop :=
  field.value = some value ∧ value ≠ .text "" ∧ IsColumnName field.columnName

/-- The column of the field is there and meets its value, if that constrains rows. -/
def Field.IsMetBy (field : Field) (columns : Columns) : Prop :=
  ∀ value, field.Constrains value →
    ∃ found ∈ columns field.columnName, value.IsMetBy field.attributeName found.2

private theorem isIdentifier_of_isColumnName {name : String} (hName : IsColumnName name) :
    isIdentifier name.toList = true := by
  obtain ⟨c, rest, hChars, hFirst, hRest⟩ := hName
  have hUpper {d : Char} (hRange : 'A' ≤ d ∧ d ≤ 'Z') : d.isUpper = true := decide_eq_true hRange
  have hLower {d : Char} (hRange : 'a' ≤ d ∧ d ≤ 'z') : d.isLower = true :=
    Bool.and_eq_true_iff.2 ⟨decide_eq_true hRange.1, decide_eq_true hRange.2⟩
  have hDigit {d : Char} (hRange : '0' ≤ d ∧ d ≤ '9') : d.isDigit = true :=
    Bool.and_eq_true_iff.2 ⟨decide_eq_true hRange.1, decide_eq_true hRange.2⟩
  have hAlpha {d : Char} (hRange : ('A' ≤ d ∧ d ≤ 'Z') ∨ ('a' ≤ d ∧ d ≤ 'z')) :
      d.isAlpha = true := Bool.or_eq_true_iff.2 (hRange.imp hUpper hLower)
  rw [hChars, isIdentifier, Bool.and_eq_true_iff, List.all_eq_true]
  constructor
  · rcases hFirst with hRange | hRange | rfl
    · rw [hAlpha (.inl hRange), Bool.true_or]
    · rw [hAlpha (.inr hRange), Bool.true_or]
    · rfl
  · intro d hMember
    rcases hRest d hMember with hRange | hRange | hRange | rfl
    · rw [Char.isAlphanum, hAlpha (.inl hRange), Bool.true_or, Bool.true_or]
    · rw [Char.isAlphanum, hAlpha (.inr hRange), Bool.true_or, Bool.true_or]
    · rw [Char.isAlphanum, hDigit hRange, Bool.or_true, Bool.true_or]
    · rfl

theorem isIdentifier_iff {name : String} : isIdentifier name.toList = true ↔ IsColumnName name :=
  ⟨isColumnName_of_isIdentifier, isIdentifier_of_isColumnName⟩

theorem Field.constrains_iff {field : Field} {value : FieldValue} :
    field.Constrains value ↔
      field.presentValue = some value ∧ isIdentifier field.columnName.toList = true := by
  rw [isIdentifier_iff, Constrains, presentValue, ← and_assoc]
  refine and_congr_left fun _ => ?_
  split
  · rename_i held hText
    by_cases hEmpty : held = ""
    · rw [if_pos hEmpty]
      refine iff_of_false ?_ (Option.some_ne_none _).symm
      rintro ⟨hSame, hOther⟩
      rw [hText, hEmpty] at hSame
      exact hOther (Option.some.inj hSame).symm
    · rw [if_neg hEmpty, hText, and_iff_left_iff_imp]
      rintro hSame rfl
      exact hEmpty (FieldValue.text.inj (Option.some.inj hSame))
  · rename_i hOther
    rw [and_iff_left_iff_imp]
    rintro hSame rfl
    exact hOther "" hSame

instance (field : Field) (columns : Columns) : Decidable (field.IsMetBy columns) :=
  decidable_of_iff (∀ value ∈ field.presentValue, isIdentifier field.columnName.toList = true →
      ∃ found ∈ columns field.columnName, value.IsMetBy field.attributeName found.2) <| by
    simp only [Field.IsMetBy, Field.constrains_iff, and_imp, Option.mem_def]

/-! ### Conditions of one value -/

/-- Null, or a time in storage form within the years of four digits and in no leap second. -/
def HoldsTime (cell : Cell) : Prop :=
  cell = .null ∨ ∃ instant : Instant, cell = .text (instantText instant) ∧
    instant.date.HasFourDigits ∧ instant.nano < nanosPerSecond

/-- The column of a cell is one for values of this kind, and a time in it can be compared. -/
def FieldValue.Suits (affinity : Affinity) (cell : Cell) : FieldValue → Prop
  | .identifier _ => affinity = .text
  | .text _ => affinity = .text
  | .integer _ => affinity ≠ .text
  | .real _ => affinity ≠ .text
  | .boolean _ => affinity ≠ .text
  | .day date => affinity = .text ∧ date.HasFourDigits ∧ HoldsTime cell
  | .instant value => affinity = .text ∧ value.date.HasFourDigits ∧ HoldsTime cell

section Values

variable {columns : Columns} {column : String} {affinity : Affinity} {cell : Cell}

private theorem instant?_instantText {instant : Instant} (hYear : instant.date.HasFourDigits) :
    (Cell.text (instantText instant)).instant? = some instant := by
  rw [Cell.instant?, instantText, Calendar.Timestamp.read_text hYear]
  rfl

private theorem condition?_null (hColumn : columns column = some (affinity, .null))
    (comparison : Comparison)
    (parameter : Parameter) : condition? columns ⟨column, comparison, parameter⟩ = some false := by
  unfold condition?
  rw [hColumn]
  rfl

private theorem condition?_instant_iff {instant value : Instant}
    (hColumn : columns column = some (.text, .text (instantText instant)))
    (hYear : instant.date.HasFourDigits) (hValue : value.date.HasFourDigits)
    (comparison : Comparison) :
    condition? columns ⟨column, comparison, instantParameter value⟩ = some true ↔
      match comparison with
      | .equal => instant = value
      | .atLeast => value ≤ instant
      | .atMost => instant ≤ value := by
  rw [instantParameter, Store.condition?_text hColumn, Option.some_inj]
  cases comparison with
  | equal =>
      rw [Store.meets_equal_iff]
      refine ⟨fun hSame => ?_, congrArg _⟩
      have hRead := congrArg Calendar.Timestamp.read hSame
      rw [instantText, Calendar.Timestamp.read_text hYear, Calendar.Timestamp.read_text hValue] at hRead
      exact Except.ok.inj hRead
  | atLeast => rw [Store.meets_atLeast_iff, instantText, Calendar.Timestamp.text_le_text_iff hValue hYear]
  | atMost => rw [Store.meets_atMost_iff, instantText, Calendar.Timestamp.text_le_text_iff hYear hValue]

theorem comparisons_ne_nil (role : RangeRole) (value : FieldValue) : comparisons role value ≠ [] := by
  cases value <;> cases role <;> simp [comparisons]

private theorem times_hold_iff {pairs : List (Comparison × Parameter)} {asked : Instant → Prop}
    (hPairs : pairs ≠ []) (hColumn : columns column = some (.text, cell)) (hTime : HoldsTime cell)
    (hAsked : ∀ instant : Instant, columns column = some (.text, .text (instantText instant)) →
      instant.date.HasFourDigits → instant.nano < nanosPerSecond →
        ((∀ pair ∈ pairs, condition? columns ⟨column, pair.1, pair.2⟩ = some true) ↔
          asked instant)) :
    (∀ pair ∈ pairs, condition? columns ⟨column, pair.1, pair.2⟩ = some true) ↔
      ∃ instant ∈ cell.instant?, asked instant := by
  rcases hTime with rfl | ⟨instant, rfl, hYear, hLeap⟩
  · obtain ⟨pair, hPair⟩ := List.exists_mem_of_ne_nil pairs hPairs
    refine iff_of_false (fun hAll => ?_) ?_
    · have hMet := hAll pair hPair
      rw [condition?_null hColumn] at hMet
      cases hMet
    · rintro ⟨instant, hInstant, -⟩
      cases hInstant
  · rw [hAsked instant hColumn hYear hLeap, instant?_instantText hYear]
    simp only [Option.mem_some_iff, exists_eq_left']

/-- The comparisons of a value hold of a cell just when it meets the value. -/
private theorem comparisons_hold_iff {value : FieldValue} (attributeName : String)
    (hColumn : columns column = some (affinity, cell)) (hSuits : value.Suits affinity cell) :
    (∀ pair ∈ comparisons (rangeRole attributeName) value,
      condition? columns ⟨column, pair.1, pair.2⟩ = some true) ↔
      value.IsMetBy attributeName cell := by
  cases value with
  | identifier bits =>
      cases hSuits
      simp [comparisons, FieldValue.IsMetBy, Store.condition?_equal_text_iff hColumn]
  | text value =>
      cases hSuits
      simp [comparisons, FieldValue.IsMetBy, Store.condition?_equal_text_iff hColumn]
  | integer value =>
      simp [comparisons, FieldValue.IsMetBy, Store.condition?_equal_integer_iff hColumn hSuits]
  | real value =>
      simp [comparisons, FieldValue.IsMetBy, Store.condition?_equal_real_iff hColumn hSuits]
  | boolean value =>
      simp [comparisons, FieldValue.IsMetBy, Store.condition?_equal_integer_iff hColumn hSuits]
  | day date =>
      obtain ⟨rfl, hDate, hTime⟩ := hSuits
      refine times_hold_iff (comparisons_ne_nil _ _) hColumn hTime fun instant hText hYear hLeap => ?_
      have hFirst : (Instant.startOfDay date).date.HasFourDigits := hDate
      have hLast : (Instant.endOfDay date).date.HasFourDigits :=
        Calendar.Timestamp.hasFourDigits_endOfDay.2 hDate
      have hStart := condition?_instant_iff hText hYear hFirst
      have hStop := condition?_instant_iff hText hYear hLast
      rw [boundedBy_iff]
      cases rangeRole attributeName with
      | lower => simp [comparisons, hStart, Instant.startOfDay_le_iff]
      | upper => simp [comparisons, hStop, Instant.le_endOfDay_iff hLeap]
      | exact =>
          simp [comparisons, hStart, hStop, Instant.startOfDay_le_iff,
            Instant.le_endOfDay_iff hLeap, Date.le_and_le_iff]
  | instant value =>
      obtain ⟨rfl, hValue, hTime⟩ := hSuits
      refine times_hold_iff (comparisons_ne_nil _ _) hColumn hTime fun instant hText hYear _ => ?_
      have hMet := condition?_instant_iff hText hYear hValue
      rw [boundedBy_iff]
      cases rangeRole attributeName <;> simp [comparisons, hMet]

end Values

/-! ### The rows that are selected -/

section Rows

variable {ρ : Type} {columns : List (Column ρ)} {rows : List ρ} {row : ρ} {fields : List Field}

/-- A field that constrains rows names a column for values of its kind. -/
def Field.Fits (field : Field) (columns : List (Column ρ)) (rows : List ρ) : Prop :=
  ∀ value, field.Constrains value →
    ∃ column, findColumn columns field.columnName = some column ∧
      ∀ row ∈ rows, value.Suits column.affinity (column.get row)

/-- The keywords that are no names where a condition starts. -/
def startingKeywords : List String :=
  reservedWords ++ ["cast", "current_date", "current_time", "current_timestamp", "raise"]

def StandsFirst (name : String) : Prop :=
  folded name ∉ startingKeywords.map String.toList

instance (name : String) : Decidable (StandsFirst name) :=
  inferInstanceAs (Decidable (_ ∉ _))

/-- A query reads a name as that of a column: none of the names in its place is a keyword, and a
name for the table needs no quotes. -/
def NamesColumn (qualifier : Option String) (name : String) : Prop :=
  match qualifier with
  | some table => isIdentifier table.toList = true ∧ StandsFirst table ∧
      folded name ∉ reservedWords.map String.toList
  | none => StandsFirst name

instance : (qualifier : Option String) → (name : String) → Decidable (NamesColumn qualifier name)
  | some _, _ => inferInstanceAs (Decidable (_ ∧ _ ∧ _))
  | none, name => inferInstanceAs (Decidable (StandsFirst name))

/-- A clause with the parameter that its number stands for. -/
def Clause.withParameter (first : Nat) (parameters : List Parameter) (clause : Clause) :
    Option Condition :=
  if first ≤ clause.number then
    parameters[clause.number - first]?.map fun parameter =>
      ⟨clause.column, clause.comparison, parameter⟩
  else none

def readPredicate (qualifier : Option String) (first : Nat) (text : String)
    (parameters : List Parameter) : Option Predicate := do
  let clauses ← readQuery qualifier text.toList
  return ⟨← clauses.mapM (Clause.withParameter first parameters)⟩

/-- The rows that a query text selects with its parameters. -/
def queryText (clock : Clock) (qualifier : Option String) (first : Nat) (text : String)
    (parameters : List Parameter) (columns : List (Column ρ)) (rows : List ρ) :
    Option (Except Fault (List ρ)) :=
  (readPredicate qualifier first text parameters).map fun predicate =>
    selectRows (readName clock qualifier columns) columns predicate rows

private theorem mem_conditions_iff {field : Field} {condition : Condition} :
    condition ∈ field.conditions ↔ ∃ value, field.Constrains value ∧
      ∃ pair ∈ comparisons (rangeRole field.attributeName) value,
        ⟨field.columnName, pair.1, pair.2⟩ = condition := by
  simp only [Field.constrains_iff]
  unfold Field.conditions
  cases field.presentValue with
  | none => simp
  | some value =>
      cases hName : isIdentifier field.columnName.toList with
      | false => simp [hName]
      | true => simp [hName]

private theorem field_conditions_hold_iff {field : Field} (hFits : field.Fits columns rows)
    (hRow : row ∈ rows) :
    (∀ condition ∈ field.conditions, condition? (columnsOf columns row) condition = some true) ↔
      field.IsMetBy (columnsOf columns row) := by
  have hColumnOf {column : Column ρ} (hFound : findColumn columns field.columnName = some column) :
      columnsOf columns row field.columnName = some (column.affinity, column.get row) := by
    rw [columnsOf, hFound, Option.map_some]
  constructor
  · intro hAll value hConstrains
    obtain ⟨column, hFound, hSuits⟩ := hFits value hConstrains
    have hColumn := hColumnOf hFound
    refine ⟨_, hColumn, (comparisons_hold_iff _ hColumn (hSuits row hRow)).1 ?_⟩
    intro pair hPair
    exact hAll _ (mem_conditions_iff.2 ⟨value, hConstrains, pair, hPair, rfl⟩)
  · intro hMet condition hMember
    obtain ⟨value, hConstrains, pair, hPair, rfl⟩ := mem_conditions_iff.1 hMember
    obtain ⟨column, hFound, hSuits⟩ := hFits value hConstrains
    have hColumn := hColumnOf hFound
    obtain ⟨found, hSame, hValue⟩ := hMet value hConstrains
    rw [hColumn, Option.mem_some_iff] at hSame
    subst hSame
    exact (comparisons_hold_iff _ hColumn (hSuits row hRow)).2 hValue pair hPair

theorem conditions_hold_iff (hFit : ∀ field ∈ fields, field.Fits columns rows) (hRow : row ∈ rows) :
    (∀ condition ∈ (ofFields fields).conditions,
      condition? (columnsOf columns row) condition = some true) ↔
      ∀ field ∈ fields, field.IsMetBy (columnsOf columns row) := by
  simp only [ofFields, List.mem_flatMap]
  constructor
  · intro hAll field hField
    rw [← field_conditions_hold_iff (hFit field hField) hRow]
    exact fun condition hMember => hAll condition ⟨field, hField, hMember⟩
  · rintro hMet condition ⟨field, hField, hMember⟩
    exact (field_conditions_hold_iff (hFit field hField) hRow).2 (hMet field hField) condition hMember

theorem selects_iff {predicate : Predicate} {columns : Columns} :
    selects predicate columns = true ↔
      ∀ condition ∈ predicate.conditions, condition? columns condition = some true := by
  rw [selects, List.all_eq_true]
  refine forall₂_congr fun condition _ => ?_
  cases condition? columns condition <;> simp

private theorem isOneOf_eq_false_iff {words : List String} {name : String} :
    isOneOf words name = false ↔ folded name ∉ words.map String.toList := by
  simp only [isOneOf, List.any_eq_false, beq_iff_eq, List.mem_map, not_exists, not_and]

theorem StandsFirst.isOneOf_eq_false {name : String} (hName : StandsFirst name)
    {words : List String} (hWords : words ⊆ startingKeywords) : isOneOf words name = false :=
  isOneOf_eq_false_iff.2 fun hMember => hName (List.map_subset _ hWords hMember)

private theorem clock_words_subset (clock : Clock) :
    clock.words.map Prod.fst ⊆ startingKeywords := by
  have hWords : clock.words.map Prod.fst =
      ["null", "current_date", "current_time", "current_timestamp"] := rfl
  rw [hWords]
  decide

private theorem openingWords_subset : Store.openingWords ⊆ startingKeywords := by
  decide

/-- A name that is no keyword in its place is read as that of its column. -/
theorem readName_eq_column {clock : Clock} {qualifier : Option String} {condition : Condition}
    (hName : NamesColumn qualifier condition.column)
    (hThere : (findColumn columns condition.column).isSome = true) :
    readName clock qualifier columns condition = .column := by
  cases qualifier with
  | some table =>
      obtain ⟨-, hTable, hReserved⟩ := hName
      have hWords : isOneOf (clock.words.map Prod.fst ++ Store.openingWords) table = false :=
        hTable.isOneOf_eq_false (List.append_subset_of_subset_of_subset (clock_words_subset clock)
          openingWords_subset)
      have hFree : isOneOf reservedWords table = false :=
        hTable.isOneOf_eq_false (List.subset_append_left _ _)
      have hColumn : isOneOf reservedWords condition.column = false :=
        isOneOf_eq_false_iff.2 hReserved
      simp only [readName, Store.readQualified, hWords, hFree, hColumn, Bool.false_eq_true, if_false]
  | none =>
      have hAlone : StandsFirst condition.column := hName
      have hWords : clock.words.find? (fun word => word.1.toList == folded condition.column) =
          none := by
        have hNone := hAlone.isOneOf_eq_false (clock_words_subset clock)
        rw [isOneOf, List.any_eq_false] at hNone
        rw [List.find?_eq_none]
        exact fun word hWord => hNone word.1 (List.mem_map_of_mem hWord)
      have hOpening : isOneOf Store.openingWords condition.column = false :=
        hAlone.isOneOf_eq_false openingWords_subset
      have hFree : isOneOf reservedWords condition.column = false :=
        hAlone.isOneOf_eq_false (List.subset_append_left _ _)
      simp only [readName, Store.readAlone, hThere, if_true, List.append_nil, hWords, hOpening,
        hFree, Bool.false_eq_true, if_false]

private theorem mapM_eq_some_map {α β : Type} {f : α → Option β} {g : α → β} {list : List α}
    (hAll : ∀ a ∈ list, f a = some (g a)) : list.mapM f = some (list.map g) := by
  induction list with
  | nil => rfl
  | cons a rest ih =>
      obtain ⟨hFirst, hRest⟩ := List.forall_mem_cons.1 hAll
      rw [List.mapM_cons, hFirst, ih hRest]
      rfl

/-- The text of a predicate and its parameters say no more and no less than the predicate. -/
theorem readPredicate_sql (fields : List Field) (qualifier : Option String) (first : Nat) :
    readPredicate qualifier first ((ofFields fields).sql qualifier first)
      (ofFields fields).parameters = some (ofFields fields) := by
  have hEach : ∀ numbered ∈ (ofFields fields).conditions.zipIdx first,
      Clause.withParameter first (ofFields fields).parameters
        ⟨numbered.1.column, numbered.1.comparison, numbered.2⟩ = some numbered.1 := by
    intro numbered hNumbered
    obtain ⟨hFirst, hCondition⟩ := List.mem_zipIdx_iff_le_and_getElem?_sub.1 hNumbered
    rw [Clause.withParameter, if_pos hFirst, parameters, List.getElem?_map, hCondition]
    rfl
  have hAll : ((ofFields fields).clauses first).mapM
      (Clause.withParameter first (ofFields fields).parameters) =
        some (ofFields fields).conditions := by
    rw [clauses, List.mapM_map]
    exact (mapM_eq_some_map hEach).trans (congrArg some (List.zipIdx_map_fst _ _))
  rw [readPredicate, readQuery_sql, Option.bind_eq_bind, Option.bind_some, hAll]
  rfl

/-- Where all columns are found, the rows are those that meet all conditions. -/
theorem selectRows_eq {clock : Clock} {qualifier : Option String}
    (hFit : ∀ field ∈ fields, field.Fits columns rows)
    (hNames : ∀ field ∈ fields, ∀ value, field.Constrains value →
      NamesColumn qualifier field.columnName) :
    selectRows (readName clock qualifier columns) columns (ofFields fields) rows =
      .ok (rows.filter fun row => ∀ field ∈ fields, field.IsMetBy (columnsOf columns row)) := by
  have hColumns : ∀ condition ∈ (ofFields fields).conditions,
      NamesColumn qualifier condition.column ∧
        (findColumn columns condition.column).isSome = true := by
    intro condition hMember
    obtain ⟨field, hField, hCondition⟩ := List.mem_flatMap.1 hMember
    obtain ⟨value, hConstrains, pair, -, rfl⟩ := mem_conditions_iff.1 hCondition
    obtain ⟨column, hFound, -⟩ := hFit field hField value hConstrains
    exact ⟨hNames field hField value hConstrains, hFound ▸ rfl⟩
  rw [Store.selectRows_eq_ok
    (fun condition hMember => readName_eq_column (hColumns condition hMember).1
      (hColumns condition hMember).2) fun condition hMember => (hColumns condition hMember).2]
  refine congrArg Except.ok (List.filter_congr fun row hRow => ?_)
  rw [Bool.eq_iff_iff, decide_eq_true_iff, selects_iff, conditions_hold_iff hFit hRow]

end Rows

/-- The records since a day with an area of ten; two of the fields constrain nothing. -/
def autumnSearch : List Field := [
  .mapped "measuredFrom" "created_at" (some (.day ⟨2025, 10, 9, by decide⟩)),
  .plain "measurementArea" (some (.real 10.0)),
  .plain "measurementUnit" (some (.text "")),
  .mapped "note" "note; drop" (some (.text "note"))]

/-- A measurement just before the day, one at its start, and one later with another area. -/
def autumnRows : List Store.RecordRow :=
  let measured (number : Int) (area : UInt32) (created : Instant) :=
    Store.RecordRow.ofRecord number ⟨⟨1⟩, ⟨2⟩, 1.5, "g", area, created, created, 0.0⟩
  [measured 1 10 (Instant.endOfDay ⟨2025, 10, 8, by decide⟩),
    measured 2 10 (Instant.startOfDay ⟨2025, 10, 9, by decide⟩),
    measured 3 11 (Instant.endOfDay ⟨2025, 10, 9, by decide⟩)]

private theorem autumnSearch_fits :
    ∀ field ∈ autumnSearch, field.Fits Store.RecordRow.columns autumnRows := by
  intro field hField value hConstrains
  obtain ⟨hValue, hPresent, hName⟩ := hConstrains
  simp only [autumnSearch, List.mem_cons, List.not_mem_nil, or_false] at hField
  rcases hField with rfl | rfl | rfl | rfl
  · cases hValue
    refine ⟨_, rfl, fun row hRow => ⟨rfl, by decide, ?_⟩⟩
    simp only [autumnRows, List.mem_cons, List.not_mem_nil, or_false] at hRow
    rcases hRow with rfl | rfl | rfl
    all_goals exact .inr ⟨_, rfl, by decide, by decide⟩
  · cases hValue
    have hAffinity : Affinity.integer ≠ .text := by decide
    exact ⟨_, rfl, fun _ _ => hAffinity⟩
  · cases hValue
    exact absurd rfl hPresent
  · exact absurd (isIdentifier_of_isColumnName hName) (by decide)

private theorem autumnSearch_names :
    ∀ field ∈ autumnSearch, ∀ value, field.Constrains value →
      NamesColumn (some "r") field.columnName := by
  rintro field hField value ⟨-, -, hName⟩
  simp only [autumnSearch, List.mem_cons, List.not_mem_nil, or_false] at hField
  rcases hField with rfl | rfl | rfl | rfl
  · decide
  · decide
  · decide
  · exact absurd (isIdentifier_of_isColumnName hName) (by decide)

def placeColumns : List (Column Cell) :=
  [.ofNumber "order" .integer id fun _ place => place]

private theorem place_query_refused :
    let fields : List Field := [.plain "order" (some (.integer 1))]
    queryText ⟨"", "", ""⟩ none 1 ((ofFields fields).sql none 1) (ofFields fields).parameters
      placeColumns [.integer 1, .integer 2] = some (.error (.syntaxNear "order")) := by
  decide +kernel

end Predicate
end LawnCalibration
