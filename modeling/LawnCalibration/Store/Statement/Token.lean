import LawnCalibration.Text.Digits

/-
The tokens of a statement.

A token is a word, a name between quotes, or a symbol; numbers and parameters
count as symbols.  White space and comments stand between tokens.  A text is
read up to its first null character.
-/

set_option autoImplicit false

namespace LawnCalibration.Store.Statement

open Text

inductive TokenKind where
  | space
  | word
  | quoted
  | symbol
  /-- what starts no token, or a token without its end -/
  | illegal
deriving DecidableEq, Repr

structure Token where
  kind : TokenKind
  text : List Char
deriving DecidableEq, Repr

def isSpace (c : Char) : Bool :=
  c == ' ' || (9 ≤ c.toNat && c.toNat ≤ 13)

/-- The vertical tab may go on with white space but not begin it. -/
def startsSpace (c : Char) : Bool :=
  (isSpace c && c.toNat != 11) || c.toNat == 0xFEFF

def startsWord (c : Char) : Bool :=
  c.isAlpha || c == '_' || 128 ≤ c.toNat

def isWordChar (c : Char) : Bool :=
  c.isAlphanum || c == '_' || c == '$' || 128 ≤ c.toNat

def isNumberChar (c : Char) : Bool :=
  c.isDigit || c == '_'

def runLength (accepts : Char → Bool) (text : List Char) : Nat :=
  (text.takeWhile accepts).length

def commentLength : List Char → Nat
  | '*' :: '/' :: _ => 2
  | _ :: rest => commentLength rest + 1
  | [] => 0

def quoteLength? (mark : Char) : List Char → Option Nat
  | [] => none
  | [c] => if c = mark then some 1 else none
  | c :: d :: rest =>
      if c ≠ mark then (quoteLength? mark (d :: rest)).map (· + 1)
      else if d = mark then (quoteLength? mark rest).map (· + 2)
      else some 1

def hasExponent : List Char → Bool
  | mark :: c :: rest =>
      (mark == 'e' || mark == 'E') &&
        (c.isDigit || ((c == '+' || c == '-') && rest.head?.any Char.isDigit))
  | _ => false

def numberLength (text : List Char) : Nat :=
  match text with
  | '0' :: mark :: digit :: _ =>
      if (mark = 'x' ∨ mark = 'X') ∧ (hexValue? digit).isSome then
        2 + runLength (fun c => (hexValue? c).isSome || c == '_') (text.drop 2)
      else decimalLength text
  | _ => decimalLength text
where
  decimalLength (text : List Char) : Nat :=
    let whole := runLength isNumberChar text
    let point :=
      if (text.drop whole).head? = some '.' then
        1 + runLength isNumberChar (text.drop (whole + 1))
      else 0
    let mantissa := whole + point
    if hasExponent (text.drop mantissa) then
      mantissa + 2 + runLength isNumberChar (text.drop (mantissa + 2))
    else mantissa

def parameterLength : Nat → List Char → Nat × Nat
  | named, ':' :: ':' :: rest =>
      let (length, count) := parameterLength named rest
      (length + 2, count)
  | named, c :: rest =>
      if isWordChar c then
        let (length, count) := parameterLength (named + 1) rest
        (length + 1, count)
      else (0, named)
  | named, [] => (0, named)

def lengthThrough? (mark : Char) (text : List Char) : Option Nat :=
  let length := runLength (· != mark) text
  if length < text.length then some (length + 1) else none

/-- The kind of the token that starts with a character, and how many of the characters after it
belong to the token. -/
def extent (c : Char) (rest : List Char) : TokenKind × Nat :=
  let next (accepts : Char → Bool) : Bool := rest.head?.any accepts
  if startsSpace c then (.space, runLength isSpace rest)
  else if (c = 'x' ∨ c = 'X') ∧ next (· == '\'') then
    let digits := runLength (fun d => (hexValue? d).isSome) (rest.drop 1)
    if digits % 2 = 0 ∧ (rest.drop (digits + 1)).head? = some '\'' then (.symbol, digits + 2)
    else (.illegal, ((lengthThrough? '\'' (rest.drop 1)).getD (rest.length - 1)) + 1)
  else if startsWord c then (.word, runLength isWordChar rest)
  else if c.isDigit ∨ (c = '.' ∧ next Char.isDigit) then
    let length := numberLength (c :: rest)
    match runLength isWordChar ((c :: rest).drop length) with
    | 0 => (.symbol, length - 1)
    | more => (.illegal, length + more - 1)
  else if c = '\'' ∨ c = '"' ∨ c.toNat = 96 then
    match quoteLength? c rest with
    | some length => (.quoted, length)
    | none => (.illegal, rest.length)
  else if c = '[' then
    match lengthThrough? ']' rest with
    | some length => (.quoted, length)
    | none => (.illegal, rest.length)
  else if c = '-' then
    match rest with
    | '-' :: more => (.space, 1 + runLength (· != '\n') more)
    | '>' :: '>' :: _ => (.symbol, 2)
    | '>' :: _ => (.symbol, 1)
    | _ => (.symbol, 0)
  else if c = '/' then
    match rest with
    | '*' :: d :: more => (.space, 1 + commentLength (d :: more))
    | _ => (.symbol, 0)
  else if c = '?' then (.symbol, runLength Char.isDigit rest)
  else if c = '$' ∨ c = '@' ∨ c = '#' ∨ c = ':' then
    match parameterLength 0 rest with
    | (length, 0) => (.illegal, length)
    | (length, _) => (.symbol, length)
  else if c = '!' then if next (· == '=') then (.symbol, 1) else (.illegal, 0)
  else if c = '=' then (.symbol, if next (· == '=') then 1 else 0)
  else if c = '|' then (.symbol, if next (· == '|') then 1 else 0)
  else if c = '<' then (.symbol, if next (fun d => d == '=' || d == '>' || d == '<') then 1 else 0)
  else if c = '>' then (.symbol, if next (fun d => d == '=' || d == '>') then 1 else 0)
  else if ['(', ')', ';', '+', '*', ',', '&', '~', '%', '.'].contains c then (.symbol, 0)
  else (.illegal, 0)

def scan : List Char → List Token
  | [] => []
  | c :: rest =>
      let (kind, length) := extent c rest
      { kind, text := c :: rest.take length } :: scan (rest.drop length)
termination_by text => text.length
decreasing_by
  simp only [List.length_drop, List.length_cons]
  omega

def tokens (text : List Char) : List Token :=
  (scan (text.takeWhile fun c => c.toNat != 0)).filter fun token => token.kind != .space

/-- Removes the quotes of a name; a quote written twice inside counts once. -/
def unquote (text : List Char) : List Char :=
  match text with
  | '[' :: rest => rest.dropLast
  | mark :: rest => single mark rest.dropLast
  | [] => []
where
  single (mark : Char) : List Char → List Char
    | c :: d :: rest =>
        if c = mark ∧ d = mark then c :: single mark rest else c :: single mark (d :: rest)
    | rest => rest

def Token.name (token : Token) : List Char :=
  if token.kind = .quoted then unquote token.text else token.text

end LawnCalibration.Store.Statement
