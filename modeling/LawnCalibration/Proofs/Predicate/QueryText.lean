import LawnCalibration.Predicate.Condition
import LawnCalibration.Proofs.Text.Digits
import LawnCalibration.Proofs.Text.Span
import Mathlib.Data.List.Basic
import Mathlib.Tactic.Common

/-
What the query text of a filter holds.

Of the values the text holds nothing: it is decided by the shapes of the fields.
Read back without the filter, it gives well-formed columns and placeholders in one
unbroken sequence, each at the place of the parameter that it stands for.
-/

set_option autoImplicit false

namespace LawnCalibration.Predicate

open Text

inductive FieldValue.SameKind : FieldValue → FieldValue → Prop
  | identifier (bits others : BitVec 128) : SameKind (.identifier bits) (.identifier others)
  | text (value other : String) : SameKind (.text value) (.text other)
  | integer (value other : Int) : SameKind (.integer value) (.integer other)
  | real (value other : Float) : SameKind (.real value) (.real other)
  | boolean (value other : Bool) : SameKind (.boolean value) (.boolean other)
  | day (date other : Calendar.Date) : SameKind (.day date) (.day other)
  | instant (value other : Calendar.Instant) : SameKind (.instant value) (.instant other)

/-- Fields that differ in nothing but what a present value holds. -/
structure Field.SameShape (field other : Field) : Prop where
  attributeName : field.attributeName = other.attributeName
  column : field.column = other.column
  serializationName : field.serializationName = other.serializationName
  presentValue : Option.Rel FieldValue.SameKind field.presentValue other.presentValue

def Condition.shape (condition : Condition) : String × Comparison :=
  (condition.column, condition.comparison)

private theorem comparisons_sameKind (role : RangeRole) {value other : FieldValue}
    (hKind : value.SameKind other) :
    (comparisons role value).map Prod.fst = (comparisons role other).map Prod.fst := by
  cases hKind with
  | day => cases role <;> simp [comparisons]
  | instant => cases role <;> simp [comparisons]
  | _ => simp [comparisons]

theorem Field.SameShape.columnName {field other : Field} (hShape : field.SameShape other) :
    field.columnName = other.columnName := by
  rw [Field.columnName, Field.columnName, hShape.column, hShape.serializationName,
    hShape.attributeName]

theorem Field.SameShape.conditions {field other : Field} (hShape : field.SameShape other) :
    field.conditions.map Condition.shape = other.conditions.map Condition.shape := by
  have hPresent := hShape.presentValue
  unfold Field.conditions
  rw [hShape.columnName, hShape.attributeName]
  generalize field.presentValue = value at hPresent ⊢
  generalize other.presentValue = otherValue at hPresent ⊢
  cases hPresent with
  | none => rfl
  | some hKind =>
      have hSame := congrArg (List.map fun comparison => (other.columnName, comparison))
        (comparisons_sameKind (rangeRole other.attributeName) hKind)
      cases hColumn : isIdentifier other.columnName.toList with
      | false => simp [hColumn]
      | true => simpa [hColumn, Function.comp_def, Condition.shape] using hSame

private theorem ofFields_sameShape {fields others : List Field}
    (hShapes : List.Forall₂ Field.SameShape fields others) :
    (ofFields fields).conditions.map Condition.shape =
      (ofFields others).conditions.map Condition.shape := by
  unfold ofFields
  induction hShapes with
  | nil => rfl
  | cons hShape _ ih =>
      rw [List.flatMap_cons, List.flatMap_cons, List.map_append, List.map_append,
        hShape.conditions, ih]

/-- A condition as a query text shows it: its parameter is no more than a number. -/
structure Clause where
  column : String
  comparison : Comparison
  number : Nat
deriving DecidableEq

def clauses (predicate : Predicate) (first : Nat) : List Clause :=
  (predicate.conditions.zipIdx first).map fun (condition, number) =>
    ⟨condition.column, condition.comparison, number⟩

def marker : Option String → List Char
  | some table => table.toList ++ ['.']
  | none => []

def Clause.chars (qualifier : Option String) (clause : Clause) : List Char :=
  marker qualifier ++ (clause.column.toList ++ ' ' :: (clause.comparison.symbol.toList ++
    ' ' :: '?' :: decimalDigits clause.number))

def textOf (qualifier : Option String) (clauses : List Clause) : List Char :=
  if clauses = [] then "1 = 1".toList
  else " AND ".toList.intercalate (clauses.map (Clause.chars qualifier))

section Clauses

variable {predicate other : Predicate} {first : Nat} {qualifier : Option String}

theorem clauses_congr
    (hShapes : predicate.conditions.map Condition.shape = other.conditions.map Condition.shape) :
    predicate.clauses first = other.clauses first := by
  have hNumbered := congrArg
    (fun shapes => (shapes.zipIdx first).map fun (shape, number) =>
      (⟨shape.1, shape.2, number⟩ : Clause)) hShapes
  simpa [List.zipIdx_map, Function.comp_def, Condition.shape, clauses] using hNumbered

private theorem clauses_number : (predicate.clauses first).map Clause.number =
    List.range' first predicate.parameters.length := by
  rw [clauses, List.map_map, parameters, List.length_map, ← List.zipIdx_map_snd]
  rfl

private theorem clauses_getElem? {i : Nat} {condition : Condition}
    (hCondition : predicate.conditions[i]? = some condition) :
    (predicate.clauses first)[i]? =
      some ⟨condition.column, condition.comparison, first + i⟩ := by
  simp [clauses, hCondition]

private theorem condition_sql_toList (condition : Condition) (number : Nat) :
    (condition.sql qualifier number).toList =
      Clause.chars qualifier ⟨condition.column, condition.comparison, number⟩ := by
  cases qualifier <;> simp [Condition.sql, Clause.chars, marker, decimalText]

theorem sql_toList :
    (predicate.sql qualifier first).toList = textOf qualifier (predicate.clauses first) := by
  by_cases hEmpty : predicate.conditions = []
  · simp [sql, textOf, clauses, hEmpty]
  · have hClauses : predicate.clauses first ≠ [] := by simp [clauses, hEmpty]
    have hNumbered := List.zipIdx_eq_map_add (l := predicate.conditions) (i := first)
    rw [sql, if_neg hEmpty, textOf, if_neg hClauses, String.toList_intercalate, clauses, hNumbered]
    simp [Function.comp_def, condition_sql_toList]

end Clauses

/-! ### Reading a query text -/

def readComparison : List Char → Option (Comparison × List Char)
  | '=' :: rest => some (.equal, rest)
  | '>' :: '=' :: rest => some (.atLeast, rest)
  | '<' :: '=' :: rest => some (.atMost, rest)
  | _ => none

def readNumber (text : List Char) : Option (Nat × List Char) :=
  let digits := text.takeWhile Char.isDigit
  if digits = [] then none else some (decimalValue digits, text.dropWhile Char.isDigit)

def readClause (qualifier : Option String) (text : List Char) : Option (Clause × List Char) := do
  let named ← text.dropPrefix? (marker qualifier)
  let compared ← (named.dropWhile (· != ' ')).dropPrefix? [' ']
  let (comparison, numbered) ← readComparison compared
  let (number, rest) ← readNumber (← numbered.dropPrefix? [' ', '?'])
  pure (⟨String.ofList (named.takeWhile (· != ' ')), comparison, number⟩, rest)

private theorem dropPrefix?_length_le {text front rest : List Char}
    (hDrop : text.dropPrefix? front = some rest) : rest.length ≤ text.length := by
  obtain ⟨start, rfl, -⟩ := List.dropPrefix?_eq_some_iff.1 hDrop
  simp

private theorem readComparison_shorter {text rest : List Char} {comparison : Comparison}
    (hRead : readComparison text = some (comparison, rest)) : rest.length < text.length := by
  unfold readComparison at hRead
  split at hRead
  case h_4 => cases hRead
  all_goals
    cases hRead
    simp only [List.length_cons]
    omega

private theorem readNumber_length_le {text rest : List Char} {number : Nat}
    (hRead : readNumber text = some (number, rest)) : rest.length ≤ text.length := by
  simp only [readNumber, Option.ite_none_left_eq_some, Option.some.injEq, Prod.mk.injEq] at hRead
  obtain ⟨-, -, rfl⟩ := hRead
  exact (List.dropWhile_suffix _).length_le

private theorem readClause_shorter {qualifier : Option String} {text rest : List Char}
    {clause : Clause}
    (hRead : readClause qualifier text = some (clause, rest)) : rest.length < text.length := by
  simp only [readClause, Option.bind_eq_bind, Option.bind_eq_some_iff, Option.pure_def,
    Option.some.injEq, Prod.mk.injEq, Prod.exists] at hRead
  obtain ⟨named, hNamed, compared, hCompared, comparison, numbered, hComparison, digits, hDigits,
    number, rest, hNumber, -, rfl⟩ := hRead
  have hMarker := dropPrefix?_length_le hNamed
  have hColumn := (List.dropWhile_suffix (l := named) (· != ' ')).length_le
  have hBlank := dropPrefix?_length_le hCompared
  have hShorter := readComparison_shorter hComparison
  have hSign := dropPrefix?_length_le hDigits
  have hRest := readNumber_length_le hNumber
  omega

def readClauses (qualifier : Option String) (text : List Char) : Option (List Clause) :=
  match _ : readClause qualifier text with
  | none => none
  | some (clause, rest) =>
      if rest = [] then some [clause]
      else
        match _ : rest.dropPrefix? " AND ".toList with
        | none => none
        | some later => (readClauses qualifier later).map (clause :: ·)
termination_by text.length
decreasing_by
  have hShorter := readClause_shorter ‹_›
  have hLater := dropPrefix?_length_le ‹_›
  omega

def readQuery (qualifier : Option String) (text : List Char) : Option (List Clause) :=
  if text = "1 = 1".toList then some [] else readClauses qualifier text

/-- What stands as a number behind the question marks of a text, wherever these are. -/
def placeholders : List Char → List (List Char)
  | [] => []
  | c :: rest =>
      if c = '?' then rest.takeWhile Char.isDigit :: placeholders rest else placeholders rest

/-- Names with nothing in them that needs quotation: a letter or underscore, and then letters, digits
and underscores. -/
def IsColumnName (name : String) : Prop :=
  ∃ c rest, name.toList = c :: rest ∧
    (('A' ≤ c ∧ c ≤ 'Z') ∨ ('a' ≤ c ∧ c ≤ 'z') ∨ c = '_') ∧
    ∀ d ∈ rest, ('A' ≤ d ∧ d ≤ 'Z') ∨ ('a' ≤ d ∧ d ≤ 'z') ∨ ('0' ≤ d ∧ d ≤ '9') ∨ d = '_'

private theorem range_of_isAlpha {c : Char} (hAlpha : c.isAlpha = true) :
    ('A' ≤ c ∧ c ≤ 'Z') ∨ ('a' ≤ c ∧ c ≤ 'z') := by
  rcases Bool.or_eq_true_iff.1 hAlpha with hUpper | hLower
  · exact Or.inl (of_decide_eq_true hUpper)
  · obtain ⟨hFirst, hLast⟩ := Bool.and_eq_true_iff.1 hLower
    exact Or.inr ⟨of_decide_eq_true hFirst, of_decide_eq_true hLast⟩

private theorem range_of_isDigit {c : Char} (hDigit : c.isDigit = true) : '0' ≤ c ∧ c ≤ '9' := by
  obtain ⟨hFirst, hLast⟩ := Bool.and_eq_true_iff.1 hDigit
  exact ⟨of_decide_eq_true hFirst, of_decide_eq_true hLast⟩

theorem isColumnName_of_isIdentifier {name : String} (hName : isIdentifier name.toList = true) :
    IsColumnName name := by
  cases hChars : name.toList with
  | nil =>
      rw [hChars] at hName
      cases hName
  | cons c rest =>
      rw [hChars, isIdentifier, Bool.and_eq_true_iff, List.all_eq_true] at hName
      obtain ⟨hFirst, hRest⟩ := hName
      refine ⟨c, rest, hChars, ?_, ?_⟩
      · rcases Bool.or_eq_true_iff.1 hFirst with hAlpha | hBar
        · rcases range_of_isAlpha hAlpha with hUpper | hLower
          · exact Or.inl hUpper
          · exact Or.inr (Or.inl hLower)
        · exact Or.inr (Or.inr (beq_iff_eq.1 hBar))
      · intro d hMember
        rcases Bool.or_eq_true_iff.1 (hRest d hMember) with hWord | hBar
        · rcases Bool.or_eq_true_iff.1 hWord with hAlpha | hDigit
          · rcases range_of_isAlpha hAlpha with hUpper | hLower
            · exact Or.inl hUpper
            · exact Or.inr (Or.inl hLower)
          · exact Or.inr (Or.inr (Or.inl (range_of_isDigit hDigit)))
        · exact Or.inr (Or.inr (Or.inr (beq_iff_eq.1 hBar)))

theorem IsColumnName.ne {name : String} (hName : IsColumnName name) {c : Char}
    (hMember : c ∈ name.toList) : c ≠ ' ' ∧ c ≠ '?' := by
  obtain ⟨first, rest, hChars, hFirst, hRest⟩ := hName
  rw [hChars, List.mem_cons] at hMember
  constructor
  all_goals
    rintro rfl
    rcases hMember with rfl | hMember
    · revert hFirst
      decide
    · have hRange := hRest _ hMember
      revert hRange
      decide

private theorem isColumnName_of_conditions {fields : List Field} {condition : Condition}
    (hMember : condition ∈ (ofFields fields).conditions) : IsColumnName condition.column := by
  obtain ⟨field, -, hField⟩ := List.mem_flatMap.1 hMember
  unfold Field.conditions at hField
  cases hValue : field.presentValue with
  | none => simp [hValue] at hField
  | some value =>
      cases hName : isIdentifier field.columnName.toList with
      | false => simp [hValue, hName] at hField
      | true =>
          simp only [hValue, hName, if_true, List.mem_map] at hField
          obtain ⟨comparison, -, rfl⟩ := hField
          exact isColumnName_of_isIdentifier hName

section Reading

variable {qualifier : Option String} {clause : Clause} {listed : List Clause} {rest : List Char}

private theorem readComparison_symbol (comparison : Comparison) (rest : List Char) :
    readComparison (comparison.symbol.toList ++ rest) = some (comparison, rest) := by
  cases comparison <;> rfl

private theorem takeWhile_decimalDigits (number : Nat)
    (hRest : ∀ c, rest.head? = some c → c.isDigit = false) :
    (decimalDigits number ++ rest).takeWhile Char.isDigit = decimalDigits number :=
  takeWhile_run (fun _ hMember => isDigit_of_mem_decimalDigits hMember) hRest

private theorem readNumber_decimalDigits (number : Nat)
    (hRest : ∀ c, rest.head? = some c → c.isDigit = false) :
    readNumber (decimalDigits number ++ rest) = some (number, rest) := by
  have hAfter : (decimalDigits number ++ rest).dropWhile Char.isDigit = rest :=
    dropWhile_run (fun _ hMember => isDigit_of_mem_decimalDigits hMember) hRest
  rw [readNumber, takeWhile_decimalDigits number hRest, if_neg (decimalDigits_ne_nil number),
    decimalValue_decimalDigits, hAfter]

private theorem dropPrefix?_append (front rest : List Char) :
    (front ++ rest).dropPrefix? front = some rest :=
  List.dropPrefix?_append_of_beq rest (beq_self_eq_true front)

private theorem readClause_chars (hColumn : IsColumnName clause.column)
    (hRest : ∀ c, rest.head? = some c → c.isDigit = false) :
    readClause qualifier (clause.chars qualifier ++ rest) = some (clause, rest) := by
  have hName : ∀ c ∈ clause.column.toList, (c != ' ') = true := by
    intro c hMember
    exact bne_iff_ne.2 (hColumn.ne hMember).1
  have hBlank (behind : List Char) :
      ∀ c, (' ' :: behind).head? = some c → (c != ' ') = false := by simp
  have hComparison := readComparison_symbol clause.comparison
    (' ' :: '?' :: (decimalDigits clause.number ++ rest))
  simp only [readClause, Clause.chars, List.append_assoc, List.cons_append, dropPrefix?_append,
    takeWhile_run hName (hBlank _), dropWhile_run hName (hBlank _), Option.bind_eq_bind,
    Option.bind_some]
  simp [List.dropPrefix?, hComparison, readNumber_decimalDigits _ hRest]

private theorem readClauses_last {text : List Char}
    (hRead : readClause qualifier text = some (clause, [])) :
    readClauses qualifier text = some [clause] := by
  rw [readClauses]
  split
  next hNone => cases hRead.symm.trans hNone
  next hSome =>
    cases hRead.symm.trans hSome
    exact if_pos rfl

private theorem readClauses_next {text later : List Char}
    (hRead : readClause qualifier text = some (clause, " AND ".toList ++ later)) :
    readClauses qualifier text = (readClauses qualifier later).map (clause :: ·) := by
  have hDrop := dropPrefix?_append " AND ".toList later
  rw [readClauses]
  split
  next hNone => cases hRead.symm.trans hNone
  next hSome =>
    cases hRead.symm.trans hSome
    rw [if_neg (by simp)]
    split
    next hNone => cases hDrop.symm.trans hNone
    next hSome =>
      cases hDrop.symm.trans hSome
      rfl

/-- By induction on the clauses: what follows one is the end of the text or no digit. -/
theorem readClauses_intercalate (hColumns : ∀ clause ∈ listed, IsColumnName clause.column)
    (hSome : listed ≠ []) :
    readClauses qualifier (" AND ".toList.intercalate (listed.map (Clause.chars qualifier))) =
      some listed := by
  induction listed with
  | nil => exact absurd rfl hSome
  | cons clause later ih =>
      rw [List.forall_mem_cons] at hColumns
      obtain ⟨hColumn, hLater⟩ := hColumns
      cases later with
      | nil =>
          have hRead : readClause qualifier (clause.chars qualifier ++ []) = some (clause, []) :=
            readClause_chars hColumn (by simp)
          rw [List.append_nil] at hRead
          rw [List.map_singleton, List.intercalate_singleton]
          exact readClauses_last hRead
      | cons next later =>
          rw [List.map_cons, List.map_cons, List.intercalate_cons_cons, List.append_assoc,
            readClauses_next (readClause_chars hColumn (by simp)), ← List.map_cons,
            ih hLater (List.cons_ne_nil next later), Option.map_some]

/-! ### Placeholders -/

private theorem placeholders_append {front : List Char} (hFront : '?' ∉ front) (rest : List Char) :
    placeholders (front ++ rest) = placeholders rest := by
  induction front with
  | nil => rfl
  | cons c front ih =>
      rw [List.mem_cons, not_or] at hFront
      rw [List.cons_append, placeholders, if_neg (Ne.symm hFront.1), ih hFront.2]

private theorem questionMark_not_mem_decimalDigits (number : Nat) : '?' ∉ decimalDigits number := by
  intro hMember
  have hDigit := isDigit_of_mem_decimalDigits hMember
  revert hDigit
  decide

private theorem questionMark_not_mem_symbol (comparison : Comparison) :
    '?' ∉ comparison.symbol.toList := by
  cases comparison <;> decide

private theorem placeholders_chars (hMarker : '?' ∉ marker qualifier)
    (hColumn : IsColumnName clause.column)
    (hRest : ∀ c, rest.head? = some c → c.isDigit = false) :
    placeholders (clause.chars qualifier ++ rest) =
      decimalDigits clause.number :: placeholders rest := by
  have hName : '?' ∉ clause.column.toList := fun hMember => (hColumn.ne hMember).2 rfl
  have hBlank (behind : List Char) : placeholders (' ' :: behind) = placeholders behind :=
    if_neg (by decide)
  have hSign (behind : List Char) : placeholders ('?' :: behind) =
      behind.takeWhile Char.isDigit :: placeholders behind := if_pos rfl
  simp only [Clause.chars, List.append_assoc, List.cons_append]
  rw [placeholders_append hMarker, placeholders_append hName, hBlank,
    placeholders_append (questionMark_not_mem_symbol clause.comparison), hBlank, hSign,
    takeWhile_decimalDigits clause.number hRest,
    placeholders_append (questionMark_not_mem_decimalDigits clause.number)]

private theorem placeholders_intercalate (hMarker : '?' ∉ marker qualifier)
    (hColumns : ∀ clause ∈ listed, IsColumnName clause.column) :
    placeholders (" AND ".toList.intercalate (listed.map (Clause.chars qualifier))) =
      listed.map fun clause => decimalDigits clause.number := by
  induction listed with
  | nil => rfl
  | cons clause later ih =>
      rw [List.forall_mem_cons] at hColumns
      obtain ⟨hColumn, hLater⟩ := hColumns
      cases later with
      | nil =>
          have hChars : placeholders (clause.chars qualifier ++ []) =
              [decimalDigits clause.number] := placeholders_chars hMarker hColumn (by simp)
          rw [List.append_nil] at hChars
          rw [List.map_singleton, List.intercalate_singleton]
          exact hChars
      | cons next later =>
          rw [List.map_cons, List.map_cons, List.intercalate_cons_cons, List.append_assoc,
            placeholders_chars hMarker hColumn (by simp),
            placeholders_append (by decide : '?' ∉ " AND ".toList), ← List.map_cons, ih hLater]
          rfl

end Reading

section QueryTexts

variable {fields : List Field} {qualifier : Option String} {first : Nat}

private theorem isColumnName_of_clauses :
    ∀ clause ∈ (ofFields fields).clauses first, IsColumnName clause.column := by
  intro clause hMember
  obtain ⟨numbered, hNumbered, rfl⟩ := List.mem_map.1 hMember
  exact isColumnName_of_conditions (List.fst_mem_of_mem_zipIdx hNumbered)

private theorem textOf_ne_true {clause : Clause} {later : List Clause} :
    textOf qualifier (clause :: later) ≠ "1 = 1".toList := by
  intro hSame
  have hSign : '?' ∈ textOf qualifier (clause :: later) := by
    rw [textOf, if_neg (List.cons_ne_nil clause later)]
    cases later <;> simp [Clause.chars]
  rw [hSame] at hSign
  revert hSign
  decide

theorem readQuery_sql : readQuery qualifier ((ofFields fields).sql qualifier first).toList =
    some ((ofFields fields).clauses first) := by
  have hColumns : ∀ clause ∈ (ofFields fields).clauses first, IsColumnName clause.column :=
    isColumnName_of_clauses
  rw [sql_toList]
  cases hClauses : (ofFields fields).clauses first with
  | nil => rfl
  | cons clause later =>
      rw [hClauses] at hColumns
      rw [readQuery, if_neg textOf_ne_true, textOf, if_neg (List.cons_ne_nil clause later)]
      exact readClauses_intercalate hColumns (List.cons_ne_nil clause later)

theorem placeholders_sql (hMarker : '?' ∉ marker qualifier) :
    placeholders ((ofFields fields).sql qualifier first).toList =
      (List.range' first (ofFields fields).parameters.length).map decimalDigits := by
  rw [sql_toList, ← clauses_number, List.map_map]
  cases hClauses : (ofFields fields).clauses first with
  | nil => rfl
  | cons clause later =>
      have hColumns : ∀ clause ∈ (ofFields fields).clauses first, IsColumnName clause.column :=
        isColumnName_of_clauses
      rw [hClauses] at hColumns
      rw [textOf, if_neg (List.cons_ne_nil clause later)]
      exact placeholders_intercalate hMarker hColumns

/-- The query texts of filters of one shape are the same.  The text of any filter reads as clauses
with well-formed columns, and the clauses number their placeholders from the first number on, one
for each parameter, where the parameter of the condition stands.  Under a qualifier without a
question mark no other placeholder stands in the text. -/
theorem query_text_holds_no_values :
    (∀ fields others : List Field, List.Forall₂ Field.SameShape fields others →
      ∀ (qualifier : Option String) (first : Nat),
        (ofFields fields).sql qualifier first = (ofFields others).sql qualifier first) ∧
    ∀ (fields : List Field) (qualifier : Option String) (first : Nat),
      (∃ read, readQuery qualifier ((ofFields fields).sql qualifier first).toList = some read ∧
        (∀ clause ∈ read, IsColumnName clause.column) ∧
        read.map Clause.number = List.range' first (ofFields fields).parameters.length ∧
        ∀ (i : Nat) (condition : Condition), (ofFields fields).conditions[i]? = some condition →
          read[i]? = some ⟨condition.column, condition.comparison, first + i⟩ ∧
            (ofFields fields).parameters[i]? = some condition.parameter) ∧
      ('?' ∉ marker qualifier →
        placeholders ((ofFields fields).sql qualifier first).toList =
          (List.range' first (ofFields fields).parameters.length).map decimalDigits) := by
  constructor
  · intro fields others hShapes qualifier first
    rw [← String.toList_inj, sql_toList, sql_toList, clauses_congr (ofFields_sameShape hShapes)]
  · intro fields qualifier first
    refine ⟨⟨_, readQuery_sql, isColumnName_of_clauses, clauses_number, ?_⟩, placeholders_sql⟩
    intro i condition hCondition
    refine ⟨clauses_getElem? hCondition, ?_⟩
    rw [parameters, List.getElem?_map, hCondition, Option.map_some]

/-- A search for one day and one name; the third field names no column that a query may hold. -/
def daySearch (date : Calendar.Date) (name note : String) : List Field := [
  .mapped "day" "created_at" (some (.day date)),
  .plain "fullName" (some (.text name)),
  .mapped "note" "note; drop" (some (.text note))]

private theorem daySearch_sameShape {date other : Calendar.Date}
    {name note otherName otherNote : String}
    (hNames : name ≠ "" ∧ otherName ≠ "") (hNotes : note ≠ "" ∧ otherNote ≠ "") :
    List.Forall₂ Field.SameShape (daySearch date name note)
      (daySearch other otherName otherNote) := by
  refine .cons ⟨rfl, rfl, rfl, .some (.day date other)⟩ (.cons ⟨rfl, rfl, rfl, ?_⟩
    (.cons ⟨rfl, rfl, rfl, ?_⟩ .nil))
  · simpa [Field.plain, Field.presentValue, hNames] using FieldValue.SameKind.text name otherName
  · simpa [Field.mapped, Field.presentValue, hNotes] using FieldValue.SameKind.text note otherNote

theorem daySearch_text :
    let first := daySearch ⟨2025, 10, 9, by decide⟩ "Ann" "none"
    let second := daySearch ⟨1999, 2, 28, by decide⟩ "Ann OR ?9 = ?9" "?"
    (ofFields second).sql (some "l") 3 =
        "l.created_at >= ?3 AND l.created_at <= ?4 AND l.full_name = ?5" ∧
      (ofFields first).sql (some "l") 3 = (ofFields second).sql (some "l") 3 ∧
      (∃ read, readQuery (some "l") ((ofFields second).sql (some "l") 3).toList = some read ∧
        read[2]? = some ⟨"full_name", .equal, 5⟩) ∧
      (ofFields second).parameters[2]? = some (.text "Ann OR ?9 = ?9") ∧
      placeholders ((ofFields second).sql (some "l") 3).toList =
        (List.range' 3 (ofFields second).parameters.length).map decimalDigits := by
  intro first second
  have hText : (ofFields second).sql (some "l") 3 =
      "l.created_at >= ?3 AND l.created_at <= ?4 AND l.full_name = ?5" := by
    decide +kernel
  have hName : (ofFields second).conditions[2]? =
      some ⟨"full_name", .equal, .text "Ann OR ?9 = ?9"⟩ := by
    decide +kernel
  obtain ⟨hShapes, hRead⟩ := query_text_holds_no_values
  obtain ⟨⟨read, hSome, -, -, hPlaces⟩, hPlaceholders⟩ := hRead second (some "l") 3
  obtain ⟨hClause, hParameter⟩ := hPlaces 2 _ hName
  exact ⟨hText, hShapes first second (daySearch_sameShape (by decide) (by decide)) (some "l") 3,
    ⟨read, hSome, hClause⟩, hParameter, hPlaceholders (by decide)⟩

end QueryTexts

end LawnCalibration.Predicate
