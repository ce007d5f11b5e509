import Stricture.Rendering.Precedence
import Stricture.Value

/-!
# Lines

An expression is rendered as one line of text, from the left to the right. Some expressions have no
text: a line then fails with the first reason in that order.
-/

namespace Stricture

/-- Why an expression has no text. -/
inductive RenderingError where
  /-- A comparison without operators. -/
  | noOperator
  /-- A formatted value that does not say how it is converted. -/
  | noConversion
  /-- A conversion that fails: of a code that is no character, or of a number with too many
  digits. -/
  | wrongConversion
  /-- A part of a formatted text that is neither text nor a value. -/
  | wrongPart
  /-- Something that is no expression. -/
  | notExpression
  deriving DecidableEq

/-- A line, or the reason why it has no text. -/
abbrev Line := Except RenderingError String

namespace Line

/-- One line after the other. The second one is not reached if the first one fails. -/
def append (a b : Line) : Line :=
  a.bind fun s => b.map fun t => s ++ t

instance : Append Line :=
  ⟨append⟩

instance : Coe String Line :=
  ⟨.ok⟩

/-- The texts of several lines, or the first failure. -/
def texts : List Line → Except RenderingError (List String)
  | [] => .ok []
  | a :: rest => a.bind fun s => (texts rest).map (s :: ·)

/-- Several lines with a text between them. -/
def join (separator : String) (lines : List Line) : Line :=
  (texts lines).map separator.intercalate

/-- A line that may be missing, with a text in front of it. -/
def after (front : String) (line : Option Line) : Line :=
  match line with
  | some line => front ++ line
  | none => ""

/-- The line stands in brackets unless the slot is loose enough. -/
def delimit (own slot : Nat) (line : Line) : Line :=
  if slot ≤ own then line else "(" ++ line ++ ")"

end Line

namespace Rendering

/-! ### Signs -/

/-- The sign of an operation. -/
def binarySign : BinaryOp → String
  | .add => "+" | .sub => "-" | .mult => "*" | .div => "/" | .floorDiv => "//" | .mod => "%"
  | .pow => "**" | .matMult => "@" | .bitOr => "|" | .bitXor => "^" | .bitAnd => "&"
  | .leftShift => "<<" | .rightShift => ">>"

/-- The word that joins conditions. -/
def booleanSign : BooleanOp → String
  | .and => "and"
  | .or => "or"

/-- The sign in front of an expression. -/
def unarySign : UnaryOp → String
  | .plus => "+"
  | .minus => "-"
  | .invert => "~"
  | .not => "not "

/-- The sign between compared expressions. -/
def compareSign : CompareOp → String
  | .eq => "==" | .notEq => "!=" | .lt => "<" | .ltE => "<=" | .gt => ">" | .gtE => ">="
  | .is => "is" | .isNot => "is not" | .isIn => "in" | .notIn => "not in"

/-! ### Constants -/

/-- A double with a letter after it. There is no literal for infinity, so a number too large to be
finite stands for it, and a difference of two of them for what is no number. -/
def double (x : Double) (letter : String) : String :=
  match x with
  | .infinite negative => (if negative then "-1e1000" else "1e1000") ++ letter
  | .undefined => "(1e1000" ++ letter ++ "-1e1000" ++ letter ++ ")"
  | x => x.written ++ letter

/-- A value as it is written, if it can be. -/
def valueLine (text : Option String) : Line :=
  match text with
  | some text => text
  | none => .error .wrongConversion

/-- A number. -/
def number : Literal → Line
  | .float x => double x ""
  | .imaginary x => double x "j"
  | literal => valueLine (Value.ofLiteral literal).written?

/-- A text. One that starts the line is a long literal. -/
def text (leads : Bool) (s : String) : String :=
  if leads then Text.quoteLong s else Text.quote s

/-- A constant. -/
def constant (leads : Bool) (slot : Nat) (literal : Literal) (kind : Option String) : Line :=
  match literal with
  | .none => "None"
  | .ellipsis => "..."
  | .text s => kind.getD "" ++ text leads s
  | .bytes bs => Text.quoteBytes bs
  | literal => Line.delimit Precedence.number slot (number literal)

/-! ### Parts of formatted texts -/

/-- The braces of a plain part of a formatted text are doubled. -/
def doubleBraces (s : String) : String :=
  String.ofList (s.toList.flatMap fun c => if c = '\x7b' ∨ c = '\x7d' then [c, c] else [c])

/-- The conversion of a formatted value: none, or a letter by its code. -/
def conversion : Option Int → Line
  | some code =>
    if code = -1 then ""
    else if 0 ≤ code ∧ code < 0x110000 then "!" ++ String.singleton (Char.ofNat code.toNat)
    else .error .wrongConversion
  | none => .error .noConversion

/-! ### Lists of parts -/

/-- Keys with their values; a missing key spreads its value. -/
def entries (keys : List (Option Line)) (values : List Line) : List Line :=
  (keys.zip values).map fun
    | (some k, v) => k ++ ": " ++ v
    | (none, v) => "**" ++ v

/-- Parameters with the defaults at their end. -/
def withDefaults (names : List Line) (defaults : List (Option Line)) : List Line :=
  let padding := List.replicate (names.length - defaults.length) none
  (names.zip (padding ++ defaults)).map fun (name, value) => name ++ Line.after "=" value

/-- All parameters of a function in order. -/
def parameters (positionalOnly positional : List Line) (variadic : Option Line)
    (keywordOnly : List Line) (keywordDefaults : List (Option Line))
    (variadicKeyword : Option Line) (defaults : List Line) : Line :=
  let cut := frontDefaults positionalOnly.length positional.length defaults.length
  let front :=
    if positionalOnly.isEmpty then []
    else withDefaults positionalOnly ((defaults.take cut).map some) ++ [.ok "/"]
  let middle := withDefaults positional ((defaults.drop cut).map some)
  let star :=
    match variadic with
    | some name => ["*" ++ name]
    | none => if keywordOnly.isEmpty then [] else [.ok "*"]
  let back := withDefaults keywordOnly keywordDefaults
  let last := variadicKeyword.toList.map fun (name : Line) => "**" ++ name
  Line.join ", " (front ++ middle ++ star ++ back ++ last)

/-- A chain of comparisons. One without operators has no text. -/
def chain (left : Line) (ops : List CompareOp) (rights : List Line) : Line :=
  if ops.isEmpty then .error .noOperator
  else
    left ++ Line.join "" ((ops.zip rights).map fun (op, right) =>
      " " ++ compareSign op ++ " " ++ right)

/-- A slice. -/
def slice (lower upper step : Option Line) : Line :=
  Line.after "" lower ++ ":" ++ Line.after "" upper ++ Line.after ":" step

/-- What stands before the value of a keyword argument; one without a name is spread. -/
def keywordSign (name : Option String) : String :=
  match name.filter fun n => n != "" with
  | some n => n ++ "="
  | none => "**"

/-- The elements of a set. There is no literal for an empty one. -/
def setElements (elements : List Line) : Line :=
  if elements.isEmpty then "\x7b1\x7d.__class__()"
  else "\x7b" ++ Line.join ", " elements ++ "\x7d"

end Rendering

end Stricture
