import Stricture.Finding
import Stricture.Grouping
import Stricture.Name.Builtin
import Stricture.Token.Text

/-!
# Rules for the layout of tokens

Indentation, brackets, and keywords that touch what follows them.
-/

namespace Stricture.Rules

/-! ### Indentation -/

/-- The rows with their first tokens, in the order of the rows. -/
def firstTokens (tokens : List Token) : List (Int × Token) :=
  ((grouped Token.startRow tokens).filterMap fun (row, group) =>
    group.head?.map fun t => (row, t)).mergeSort fun a b => a.1 ≤ b.1

/-- How far a row is indented, seen by its first token. -/
def tokenOffset (t : Token) : Int :=
  if t.exactKind = .indent then t.endColumn else t.startColumn

/-- A row that is indented by more than four columns against the row before. -/
def isOverIndented (previous current : Int × Token) : Bool :=
  current.1 == previous.1 + 1 && current.2.exactKind != .lineEnd
    && previous.2.exactKind != .blankEnd && tokenOffset previous.2 + 4 < tokenOffset current.2

/-- Rows that are indented too far. -/
def extraIndentation (tokens : List Token) : Report :=
  let rows := firstTokens tokens
  .ofFindings (((rows.zip (rows.drop 1)).filter fun (a, b) => isOverIndented a b).map fun (_, b) =>
    Violation.extraIndentation.atToken b.2)

/-! ### Brackets -/

/-- The opening bracket that belongs to a closing one. -/
def openingOf? : TokenKind → Option TokenKind
  | .rightBrace => some .leftBrace
  | .rightBracket => some .leftBracket
  | .rightParen => some .leftParen
  | _ => none

/-- How many brackets of a kind are open after some tokens; one that was not opened there closes
nothing. -/
def openBrackets (opening : TokenKind) (tokens : List Token) : Nat :=
  tokens.foldl (fun count t =>
    if t.exactKind = opening then count + 1
    else if openingOf? t.exactKind = some opening then count - 1
    else count) 0

/-- The tokens that may stand before a closing bracket that begins its row. -/
def rowOpeners : List TokenKind :=
  [.blankEnd, .lineEnd, .rightBrace, .rightBracket, .rightParen]

/-- The token closes a bracket of an earlier row although something else stands before it. -/
def isMisplacedBracket (before : List Token) (t : Token) : Bool :=
  (openingOf? t.exactKind).any fun opening =>
    openBrackets opening before == 0 && !Token.onlyOf rowOpeners before

/-- The misplaced brackets of a row, after the tokens before them. -/
def rowBrackets : List Token → List Token → List Finding
  | _, [] => []
  | before, t :: rest =>
    reportIf (isMisplacedBracket before t) (Violation.wrongBracketPosition.atToken t)
      ++ rowBrackets (before ++ [t]) rest

/-- Closing brackets, row by row. -/
def brackets (tokens : List Token) : Report :=
  .ofFindings ((grouped Token.startRow tokens).flatMap fun row => rowBrackets [] row.2)

/-! ### Keywords -/

/-- A keyword right before an opening bracket. -/
def touchesBracket (t : Token) : Bool :=
  t.exactKind == .name && Name.keywords.contains t.text
    && t.lineAfter.head? == some '('

/-- Keywords that touch a bracket. -/
def keywordSpacing (tokens : List Token) : Report :=
  .ofFindings ((tokens.filter touchesBracket).map fun t =>
    Violation.missingSpaceBetweenKeywordAndParen.atToken t)

/-- The first token after the start of a block. -/
def blockStart? (tokens : List Token) : Option Token :=
  (tokens.dropWhile fun t =>
    [.lineEnd, .blankEnd, .colon, .indent].contains t.exactKind).head?

/-- A branch that begins the other case of a branch. -/
def elseBranches (tokens : List Token) : Report :=
  .ofFindings ((tokens.filter fun t => t.exactKind == .name && t.text == "else").flatMap fun t =>
    let following := (tokens.dropWhile fun u => u != t).drop 1
    (blockStart? following).toList.flatMap fun u =>
      reportIf (u.text == "if") (Violation.implicitElif.atToken u))

end Stricture.Rules
