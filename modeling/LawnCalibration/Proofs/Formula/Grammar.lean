import LawnCalibration.Formula.Reader

/-
The grammar of formulas over characters.

A derivation relates a text, the tree of the phrase at its front and what stands
behind that phrase.  Space, tab, carriage return and line feed may stand between
any two tokens; a numeral and a name are the longest that stand in their place,
so that what follows them takes part in the derivation.  Nothing here refers to
the order in which a reader tries its alternatives.
-/

set_option autoImplicit false

namespace LawnCalibration.Formula.Grammar

open Text

def Gap (text rest : List Char) : Prop :=
  ∃ space, text = space ++ rest ∧ ∀ c ∈ space, isSpace c = true

/-- A token of some pattern at the front of a text where no longer one of the pattern stands. -/
def Longest (pattern : List Char → Prop) (text token rest : List Char) : Prop :=
  text = token ++ rest ∧ pattern token ∧
    ∀ other after, text = other ++ after → pattern other → other.length ≤ token.length

def IsName (token : List Char) : Prop :=
  ∃ first others, token = first :: others ∧ isNameStart first = true ∧
    ∀ c ∈ others, isNameChar c = true

def IsDigits (token : List Char) : Prop :=
  token ≠ [] ∧ ∀ c ∈ token, c.isDigit = true

inductive IsMantissa : List Char → List Char → List Char → Prop
  | whole {digits : List Char} (hDigits : IsDigits digits) : IsMantissa digits [] digits
  | pointed {digits fraction : List Char} (hDigits : IsDigits digits)
      (hFraction : ∀ c ∈ fraction, c.isDigit = true) :
      IsMantissa digits fraction (digits ++ '.' :: fraction)
  | fraction {digits : List Char} (hDigits : IsDigits digits) :
      IsMantissa [] digits ('.' :: digits)

def IsExponentMark (mark : Char) : Prop :=
  mark = 'e' ∨ mark = 'E'

inductive IsExponent : Int → List Char → Prop
  | absent : IsExponent 0 []
  | unsigned {mark : Char} {digits : List Char} (hMark : IsExponentMark mark)
      (hDigits : IsDigits digits) : IsExponent (decimalValue digits) (mark :: digits)
  | plus {mark : Char} {digits : List Char} (hMark : IsExponentMark mark)
      (hDigits : IsDigits digits) : IsExponent (decimalValue digits) (mark :: '+' :: digits)
  | minus {mark : Char} {digits : List Char} (hMark : IsExponentMark mark)
      (hDigits : IsDigits digits) : IsExponent (-(decimalValue digits : Int)) (mark :: '-' :: digits)

def IsNumeral (numeral : Decimal) (token : List Char) : Prop :=
  ∃ mantissa exponent, token = mantissa ++ exponent ∧
    IsMantissa numeral.whole numeral.fraction mantissa ∧ IsExponent numeral.exponent exponent

def SpellsNumeral (token : List Char) : Prop :=
  ∃ numeral, IsNumeral numeral token

/-- A word operator, in any case and only where no character of a name follows. -/
def IsWord (word text rest : List Char) : Prop :=
  ∃ token, text = token ++ rest ∧ token.map asciiLowered = word ∧
    ∀ c, rest.head? = some c → isNameChar c = false

def symbols : Level → List (BinaryOp × List Char)
  | .disjunction => [(.or, ['|', '|'])]
  | .conjunction => [(.and, ['&', '&'])]
  | .comparison => [(.gte, ['>', '=']), (.lte, ['<', '=']), (.eq, ['=', '=']), (.neq, ['!', '=']),
      (.gt, ['>']), (.lt, ['<'])]
  | .sum => [(.add, ['+']), (.sub, ['-'])]
  | .product => [(.mul, ['*']), (.div, ['/'])]

def words : Level → List (BinaryOp × List Char)
  | .disjunction => [(.or, ['o', 'r'])]
  | .conjunction => [(.and, ['a', 'n', 'd'])]
  | _ => []

inductive Operator (level : Level) : BinaryOp → List Char → List Char → Prop
  | symbol {op : BinaryOp} {token : List Char} (rest : List Char)
      (hSymbol : (op, token) ∈ symbols level) : Operator level op (token ++ rest) rest
  | word {op : BinaryOp} {word text rest : List Char} (hListed : (op, word) ∈ words level)
      (hWord : IsWord word text rest) : Operator level op text rest

inductive Sign : UnaryOp → List Char → List Char → Prop
  | minus (rest : List Char) : Sign .neg ('-' :: rest) rest
  | mark (rest : List Char) : Sign .not ('!' :: rest) rest
  | word {text rest : List Char} (hWord : IsWord ['n', 'o', 't'] text rest) : Sign .not text rest

inductive Category where
  | expr
  | chain (level : Level)
  | unary
  | primary

def operand : Level → Category
  | .disjunction => .chain .conjunction
  | .conjunction => .chain .comparison
  | .comparison => .chain .sum
  | .sum => .chain .product
  | .product => .unary

/-- The phrases of a category: the text, the tree of the phrase and what is left behind it. -/
inductive Derives : Category → List Char → Expr → List Char → Prop
  | plain {text rest : List Char} {tree : Expr}
      (hTree : Derives (.chain .disjunction) text tree rest) : Derives .expr text tree rest
  | branches {text afterCondition afterMark yesText afterYes afterColon noText rest : List Char}
      {condition yes no : Expr}
      (hCondition : Derives (.chain .disjunction) text condition afterCondition)
      (hMark : Gap afterCondition ('?' :: afterMark)) (hYesGap : Gap afterMark yesText)
      (hYes : Derives .expr yesText yes afterYes)
      (hColon : Gap afterYes (':' :: afterColon)) (hNoGap : Gap afterColon noText)
      (hNo : Derives .expr noText no rest) : Derives .expr text (.ternary condition yes no) rest
  | single {level : Level} {text rest : List Char} {tree : Expr}
      (hTree : Derives (operand level) text tree rest) : Derives (.chain level) text tree rest
  | joined {level : Level} {text afterLeft opText afterOp rightText rest : List Char}
      {op : BinaryOp} {left right : Expr}
      (hLeft : Derives (.chain level) text left afterLeft)
      (hOpGap : Gap afterLeft opText) (hOp : Operator level op opText afterOp)
      (hRightGap : Gap afterOp rightText) (hRight : Derives (operand level) rightText right rest) :
      Derives (.chain level) text (.binary op left right) rest
  | signed {text afterSign operandText rest : List Char} {op : UnaryOp} {tree : Expr}
      (hSign : Sign op text afterSign) (hGap : Gap afterSign operandText)
      (hTree : Derives .unary operandText tree rest) :
      Derives .unary text (.unary op tree) rest
  | bare {text rest : List Char} {tree : Expr} (hTree : Derives .primary text tree rest) :
      Derives .unary text tree rest
  | parenthesized {inside innerText afterInner rest : List Char} {tree : Expr}
      (hOpen : Gap inside innerText) (hTree : Derives .expr innerText tree afterInner)
      (hClose : Gap afterInner (')' :: rest)) : Derives .primary ('(' :: inside) tree rest
  | number {text token rest : List Char} {numeral : Decimal}
      (hToken : Longest SpellsNumeral text token rest)
      (hNumeral : IsNumeral numeral token) : Derives .primary text (.number numeral.toFloat) rest
  | name {text token rest : List Char} (hToken : Longest IsName text token rest)
      (hKeyword : isKeyword token = false) :
      Derives .primary text (.variable (String.ofList token)) rest

/-- Nowhere are more than `limit` parentheses open: no part of the text opens more than
`limit` beyond those that it closes. -/
def NestsWithin (limit : Nat) (text : List Char) : Prop :=
  ∀ part, part <:+: text → part.count '(' ≤ part.count ')' + limit

end LawnCalibration.Formula.Grammar
