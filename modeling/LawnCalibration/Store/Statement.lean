import LawnCalibration.Store.Error
import LawnCalibration.Store.Statement.Token
import LawnCalibration.Text.LetterCase

/-
The statements that make a table, change one row or remove it.

The names of the table and of the column are parts of the statement's text, so a
keyword is no name unless it stands between quotes, and whatever else stands in
a name is read as what it is in a statement.  The first token that cannot stand
where it stands is reported; a statement that ends too early is incomplete.
-/

set_option autoImplicit false

namespace LawnCalibration.Store.Statement

def reservedWords : List String := [
  "add", "all", "alter", "and", "as", "autoincrement", "between", "case", "check", "collate",
  "commit", "constraint", "create", "default", "deferrable", "delete", "distinct", "drop", "else",
  "escape", "except", "exists", "foreign", "from", "group", "having", "in", "index", "insert",
  "intersect", "into", "is", "isnull", "join", "limit", "not", "nothing", "notnull", "null", "on",
  "or", "order", "primary", "references", "returning", "select", "set", "table", "then", "to",
  "transaction", "union", "unique", "update", "using", "values", "when", "where"]

def Token.isWord (word : String) (token : Token) : Bool :=
  token.kind == .word && token.text.map Text.asciiLowered == word.toList

def Token.isSymbol (symbol : String) (token : Token) : Bool :=
  token.kind == .symbol && token.text == symbol.toList

def Token.isName (token : Token) : Bool :=
  token.kind == .quoted ||
    (token.kind == .word && !reservedWords.any fun word => token.isWord word)

def expect (accepts : Token → Bool) : List Token → Except Fault (Token × List Token)
  | [] => .error .incompleteStatement
  | token :: rest =>
      if token.kind = .illegal then .error (.unrecognizedToken (String.ofList token.text))
      else if accepts token then .ok (token, rest)
      else .error (.syntaxNear (String.ofList token.text))

def readName (tokens : List Token) : Except Fault (String × List Token) :=
  (expect Token.isName tokens).map fun (token, rest) => (String.ofList token.name, rest)

def readWord (word : String) (tokens : List Token) : Except Fault (List Token) :=
  (expect (Token.isWord word) tokens).map Prod.snd

def readSymbol (symbol : String) (tokens : List Token) : Except Fault (List Token) :=
  (expect (Token.isSymbol symbol) tokens).map Prod.snd

def follows (accepts : Token → Bool) (tokens : List Token) : Bool :=
  tokens.head?.any accepts

structure TableReference where
  schema? : Option String
  name : String
deriving DecidableEq, Repr

def readTableName (tokens : List Token) : Except Fault (TableReference × List Token) := do
  let (first, tokens) ← readName tokens
  if follows (Token.isSymbol ".") tokens then
    let (second, tokens) ← readName (tokens.drop 1)
    return ({ schema? := some first, name := second }, tokens)
  else return ({ schema? := none, name := first }, tokens)

def readTable (tokens : List Token) : Except Fault (TableReference × List Token) := do
  let (table, tokens) ← readTableName tokens
  if follows (Token.isWord "as") tokens then
    return (table, (← readName (tokens.drop 1)).2)
  else return (table, tokens)

/-- The names of a list in brackets, of which the first has been read. -/
def readMoreNames : Nat → List Token → Except Fault (List String × List Token)
  | 0, tokens => (readSymbol ")" tokens).map ([], ·)
  | fuel + 1, tokens =>
      if follows (Token.isSymbol ",") tokens then do
        let (name, tokens) ← readName (tokens.drop 1)
        let (names, tokens) ← readMoreNames fuel tokens
        return (name :: names, tokens)
      else (readSymbol ")" tokens).map ([], ·)

/-- The columns to the left of an equals sign: one, or some between brackets. -/
def readTarget (tokens : List Token) : Except Fault (List String × List Token) :=
  if follows (Token.isSymbol "(") tokens then do
    let (first, tokens) ← readName (tokens.drop 1)
    let (names, tokens) ← readMoreNames tokens.length tokens
    return (first :: names, tokens)
  else (readName tokens).map fun (name, rest) => ([name], rest)

def isEquals (token : Token) : Bool :=
  token.isSymbol "=" || token.isSymbol "=="

/-- A statement ends with its text or with a semicolon; what comes after that is not read. -/
def isEnd (tokens : List Token) : Bool :=
  tokens.isEmpty || follows (Token.isSymbol ";") tokens

def readEnd (tokens : List Token) : Except Fault Unit :=
  if isEnd tokens then .ok () else (readSymbol ";" tokens).map fun _ => ()

def readCondition (parameter : String) (tokens : List Token) : Except Fault (Option String) := do
  if isEnd tokens then return none
  let tokens ← readWord "where" tokens
  let (key, tokens) ← readName tokens
  let (_, tokens) ← expect isEquals tokens
  let tokens ← readSymbol parameter tokens
  readEnd tokens
  return some key

/-- The ways to meet a violated constraint that all refuse the statement. -/
def refusals : List String := ["abort", "fail", "rollback"]

def readRefusal (tokens : List Token) : Except Fault (List Token) :=
  if follows (Token.isWord "or") tokens then
    (expect (fun token => refusals.any fun word => token.isWord word) (tokens.drop 1)).map Prod.snd
  else .ok tokens

structure Update where
  table : TableReference
  column : String
  key? : Option String
deriving DecidableEq, Repr

structure Delete where
  table : TableReference
  key? : Option String
deriving DecidableEq, Repr

def Update.text (table column key : String) : String :=
  "UPDATE " ++ table ++ " SET " ++ column ++ " = ?1 WHERE " ++ key ++ " = ?2"

def Update.read (text : String) : Except Fault Update := do
  let tokens ← readWord "update" (tokens text.toList)
  let tokens ← readRefusal tokens
  let (table, tokens) ← readTable tokens
  let tokens ← readWord "set" tokens
  let (columns, tokens) ← readTarget tokens
  let (_, tokens) ← expect isEquals tokens
  let tokens ← readSymbol "?1" tokens
  match columns with
  | [column] =>
      let key? ← readCondition "?2" tokens
      return { table, column, key? }
  | _ => .error (.assignedColumns columns.length)

def Delete.text (table key : String) : String :=
  "DELETE FROM " ++ table ++ " WHERE " ++ key ++ " = ?1"

def Delete.read (text : String) : Except Fault Delete := do
  let tokens ← readWord "delete" (tokens text.toList)
  let tokens ← readWord "from" tokens
  let (table, tokens) ← readTable tokens
  let key? ← readCondition "?1" tokens
  return { table, key? }

structure Create where
  table : TableReference
  onlyIfAbsent : Bool
deriving DecidableEq, Repr

def Create.text (table : String) : String :=
  "CREATE TABLE " ++ table ++ " (x)"

def Create.read (text : String) : Except Fault Create := do
  let tokens ← readWord "create" (tokens text.toList)
  let tokens ← readWord "table" tokens
  let onlyIfAbsent := follows (Token.isWord "if") tokens
  let tokens ←
    if onlyIfAbsent then do readWord "exists" (← readWord "not" (tokens.drop 1)) else pure tokens
  let (table, tokens) ← readTableName tokens
  let tokens ← readSymbol "(" tokens
  let (_, tokens) ← readName tokens
  readEnd (← readSymbol ")" tokens)
  return { table, onlyIfAbsent }

end LawnCalibration.Store.Statement
