import LawnCalibration.Decimal
import LawnCalibration.Formula.Error
import LawnCalibration.Formula.Token
import LawnCalibration.Text.Blank

/-
Reading a formula from its text.

A formula is a condition with two branches or a chain of operands; a chain of
one precedence groups to the left, and a chain ends where no operator of its
group follows.  Once an operator has been read its operand is due.  Each reader
returns what is left of its text together with the fact that it is a shorter
end of it, which is why the recursion stops.
-/

set_option autoImplicit false

namespace LawnCalibration.Formula

open Text

/-- Where and why a reader gave up.  A committed failure also ends the readers
around it; after any other one an enclosing parenthesis is tried as an operand
and fails in its own place. -/
structure Stop (text : List Char) where
  remaining : List Char
  suffix : remaining <:+ text
  expected : Expectation
  committed : Bool

def Stop.widen {text longer : List Char} (stop : Stop text) (hSuffix : text <:+ longer) :
    Stop longer where
  remaining := stop.remaining
  suffix := stop.suffix.trans hSuffix
  expected := stop.expected
  committed := stop.committed

def Stop.here (text : List Char) (expected : Expectation) : Stop text where
  remaining := text
  suffix := List.suffix_refl text
  expected := expected
  committed := false

abbrev Reading (text : List Char) : Type :=
  Except (Stop text) (Front Expr text)

def Reading.widen {text longer : List Char} (hSuffix : text <:+ longer) :
    Reading text → Reading longer
  | .ok front => .ok (front.widen hSuffix)
  | .error stop => .error (stop.widen hSuffix)

/-- A parameter name, the longest that stands here and no word operator. -/
def readName (text : List Char) : Reading text :=
  match text with
  | [] => .error (Stop.here _ .operand)
  | c :: rest =>
      if isNameStart c then
        let name := c :: rest.takeWhile isNameChar
        if isKeyword name then .error (Stop.here _ .notKeyword)
        else .ok {
          value := .variable (String.ofList name)
          rest := rest.dropWhile isNameChar
          suffix := (List.dropWhile_suffix isNameChar).trans (List.suffix_cons c rest)
          shorter := Nat.lt_succ_of_le (List.dropWhile_suffix isNameChar).length_le }
      else .error (Stop.here _ .operand)

/-- A number or a parameter name.  A plus sign may not lead a number, yet a
signed numeral that breaks off in its exponent is a committed failure too. -/
def readAtom (text : List Char) : Reading text :=
  match hScan : Decimal.scan text with
  | .found numeral rest =>
      .ok {
        value := .number numeral.toFloat
        rest := rest
        suffix := (Decimal.scan_found_leaves hScan).1
        shorter := (Decimal.scan_found_leaves hScan).2 }
  | .unfinished rest =>
      .error {
        remaining := rest
        suffix := Decimal.scan_unfinished_suffix hScan
        expected := .exponentDigit
        committed := true }
  | .absent =>
      match hSigned : Decimal.scan (Decimal.scanSign text).2 with
      | .unfinished rest =>
          .error {
            remaining := rest
            suffix := (Decimal.scan_unfinished_suffix hSigned).trans (Decimal.scanSign_suffix text)
            expected := .exponentDigit
            committed := true }
      | _ => readName text

/-- The text after a negation sign that is not the front of an inequality. -/
def dropNot (text : List Char) : Option (List Char) :=
  match text with
  | '!' :: '=' :: _ => none
  | '!' :: rest => some rest
  | _ => dropKeyword ['n', 'o', 't'] text

theorem dropNot_leaves {text rest : List Char} (hDrop : dropNot text = some rest) :
    rest <:+ text ∧ rest.length < text.length := by
  unfold dropNot at hDrop
  split at hDrop
  · simp at hDrop
  · simp only [Option.some.injEq] at hDrop
    subst hDrop
    exact ⟨List.suffix_cons _ _, by simp⟩
  · exact dropKeyword_leaves (by simp) hDrop

mutual

def readExpr (text : List Char) : Reading text :=
  match readLevel .disjunction text with
  | .error stop => .error stop
  | .ok condition =>
      match hMark : skipSpace condition.rest with
      | '?' :: afterMark =>
          have hAfterMark : afterMark <:+ condition.rest :=
            (List.suffix_cons _ _).trans (hMark ▸ skipSpace_suffix condition.rest)
          have hYesText := (skipSpace_suffix afterMark).trans hAfterMark
          match readExpr (skipSpace afterMark) with
          | .error stop => .error (stop.widen (hYesText.trans condition.suffix))
          | .ok yes =>
              have hYes := yes.suffix.trans (hYesText.trans condition.suffix)
              match hColon : skipSpace yes.rest with
              | ':' :: afterColon =>
                  have hAfterColon : afterColon <:+ yes.rest :=
                    (List.suffix_cons _ _).trans (hColon ▸ skipSpace_suffix yes.rest)
                  have hNoText := ((skipSpace_suffix afterColon).trans hAfterColon).trans hYes
                  match readExpr (skipSpace afterColon) with
                  | .error stop => .error (stop.widen hNoText)
                  | .ok no =>
                      .ok ((no.widen hNoText).map
                        (fun branch => .ternary condition.value yes.value branch))
              | _ =>
                  .error ((Stop.here _ .colon).widen ((skipSpace_suffix yes.rest).trans hYes))
      | _ => .ok (condition.advance _ (skipSpace_suffix condition.rest))
termination_by 16 * text.length + 12
decreasing_by
  · simp only [Level.rank]
    omega
  · have h1 := hYesText.length_le
    have h2 := condition.shorter
    omega
  · have h1 := (skipSpace_suffix afterColon).length_le
    have h2 := hAfterColon.length_le
    have h3 := yes.shorter
    have h4 := hYesText.length_le
    have h5 := condition.shorter
    omega

def readLevel (level : Level) (text : List Char) : Reading text :=
  match readOperand level text with
  | .error stop => .error stop
  | .ok first => readChain level text first
termination_by 16 * text.length + 2 * level.rank + 1
decreasing_by
  · omega
  · have h1 := first.shorter
    omega

def readChain (level : Level) (text : List Char) (left : Front Expr text) : Reading text :=
  match level.operator? left.rest with
  | none => .ok left
  | some op =>
      have hAfter := op.suffix.trans left.suffix
      match readOperand level op.rest with
      | .error stop => .error (stop.widen hAfter)
      | .ok right =>
          readChain level text
            ((right.widen hAfter).map (fun operand => .binary op.value left.value operand))
termination_by 16 * left.rest.length + 13
decreasing_by
  · have h1 := op.shorter
    have h2 : level.rank ≤ 5 := by cases level <;> simp [Level.rank]
    omega
  · have h1 := op.shorter
    have h2 := right.shorter
    simp only [Front.map, Front.widen]
    omega

/-- An operand of a group: a chain of the next tighter group. -/
def readOperand (level : Level) (text : List Char) : Reading text :=
  match _hTighter : level.tighter? with
  | some tighter => readLevel tighter text
  | none => readUnary text
termination_by 16 * text.length + 2 * level.rank
decreasing_by
  · cases level <;> simp only [Level.tighter?, Option.some.injEq, reduceCtorEq] at _hTighter <;>
      subst _hTighter <;> simp [Level.rank]
  · cases level <;> simp [Level.rank]

/-- Signs and negations in front of an operand bind tighter than any operator between operands. -/
def readUnary (text : List Char) : Reading text :=
  match hFront : skipSpace text with
  | '-' :: rest =>
      have hRest : rest <:+ text := (List.suffix_cons _ _).trans (hFront ▸ skipSpace_suffix text)
      match readUnary rest with
      | .error stop => .error (stop.widen hRest)
      | .ok operand => .ok ((operand.widen hRest).map (.unary .neg))
  | front =>
      match hNot : dropNot front with
      | some rest =>
          have hRest : rest <:+ text :=
            (dropNot_leaves hNot).1.trans (hFront ▸ skipSpace_suffix text)
          match readUnary rest with
          | .error stop => .error (stop.widen hRest)
          | .ok operand => .ok ((operand.widen hRest).map (.unary .not))
      | none => (readPrimary front).widen (hFront ▸ skipSpace_suffix text)
termination_by 16 * text.length + 1
decreasing_by
  · have h1 := congrArg List.length hFront
    have h2 := (skipSpace_suffix text).length_le
    simp only [List.length_cons] at h1
    omega
  · have h1 := congrArg List.length hFront
    have h2 := (skipSpace_suffix text).length_le
    have h3 := (dropNot_leaves hNot).2
    omega
  · have h1 := congrArg List.length hFront
    have h2 := (skipSpace_suffix text).length_le
    omega

def readPrimary (text : List Char) : Reading text :=
  match text with
  | '(' :: inside =>
      have hInside : skipSpace inside <:+ '(' :: inside :=
        (skipSpace_suffix inside).trans (List.suffix_cons _ _)
      match readExpr (skipSpace inside) with
      | .error stop =>
          if stop.committed then .error (stop.widen hInside)
          else .error (Stop.here _ .operand)
      | .ok inner =>
          match hClose : skipSpace inner.rest with
          | ')' :: rest =>
              .ok ((inner.widen hInside).advance rest
                ((List.suffix_cons _ _).trans (hClose ▸ skipSpace_suffix inner.rest)))
          | _ => .error (Stop.here _ .operand)
  | other => readAtom other
termination_by 16 * text.length
decreasing_by
  · have h1 := (skipSpace_suffix inside).length_le
    simp only [List.length_cons]
    omega

end

/-! ### From text to tree -/

def maxLength : Nat := 1024

def maxDepth : Nat := 32

/-- Whether more than `limit` parentheses are open at one place; a closing one
that nothing opened does not count. -/
def opensMoreThan (limit : Nat) : Nat → List Char → Bool
  | _, [] => false
  | depth, '(' :: rest => limit < depth + 1 || opensMoreThan limit (depth + 1) rest
  | depth, ')' :: rest => opensMoreThan limit (depth - 1) rest
  | depth, _ :: rest => opensMoreThan limit depth rest

def parseChars (source : List Char) : Except FormulaError Expr :=
  if source = [] then .error .empty
  else if maxLength < byteLength source then .error (.tooLong (byteLength source) maxLength)
  else if opensMoreThan maxDepth 0 source then .error (.nestedTooDeep maxDepth)
  else
    match readExpr source with
    | .error stop =>
        .error (.malformed (byteLength source - byteLength stop.remaining)
          (.expected stop.expected))
    | .ok front =>
        match trim front.rest with
        | [] => .ok front.value
        | left =>
            .error (.malformed (byteLength source - byteLength left)
              (.unexpected (String.ofList left)))

def parse (text : String) : Except FormulaError Expr :=
  parseChars (trim text.toList)

end LawnCalibration.Formula
