import Stricture.Finding
import Stricture.Text.Digit
import Stricture.Text.Word
import Stricture.Token.Text

/-!
# Rules for comments

Comments that turn rules off, name types, stand for documentation or exclude code from measuring,
and the line after the encoding of a file.
-/

namespace Stricture.Rules

/-- What follows an opening of a text. -/
def after? : List Char → List Char → Option (List Char)
  | [], rest => some rest
  | _ :: _, [] => none
  | c :: opening, d :: rest => if c = d then after? opening rest else none

/-- A character of the list of rules that a comment turns off. -/
def isRuleListChar (c : Char) : Bool :=
  ('A' ≤ c && c ≤ 'W') || Text.isDigit c || c == ',' || Text.isBlank c

/-- The list of rules that a comment turns off, without the blanks at its ends; nothing if the
comment turns none off. The list may follow a colon, and an empty one ends the comment. -/
def silencedRules? (comment : String) : Option (List Char) :=
  match after? "noqa".toList comment.toList with
  | none => none
  | some rest =>
    let rest := if rest.head? = some ':' then rest.drop 1 else rest
    let rules := rest.takeWhile isRuleListChar
    if rest.isEmpty || !rules.isEmpty then some (Text.trimWhere Text.isBlank rules) else none

/-- A character of a type in a comment. -/
def isTypeChar (c : Char) : Bool :=
  Text.isWord c || ['[', ']', '\'', '"', '.'].contains c

/-- The type that a comment names. -/
def namedType? (comment : String) : Option (List Char) :=
  match after? "type:".toList comment.toList with
  | none => none
  | some rest =>
    let type := if rest.head?.any Text.isBlank then rest.drop 1 else rest
    if !type.isEmpty && type.all isTypeChar then some type else none

/-- What follows at least one blank. -/
def afterBlanks? (cs : List Char) : Option (List Char) :=
  if cs.head?.any Text.isBlank then some (cs.dropWhile Text.isBlank) else none

/-- The comment excludes code from measuring how much of it is tested. -/
def excludesCoverage (comment : String) : Bool :=
  (do
    let rest ← afterBlanks? (← after? "pragma:".toList comment.toList)
    let rest ← afterBlanks? (← after? "no".toList rest)
    after? "cover".toList rest).isSome

/-- The findings for one comment. -/
def commentFindings (t : Token) : List Finding :=
  let comment := t.commentText
  reportIf ((silencedRules? comment).any List.isEmpty)
      (Violation.wrongMagicComment.atToken t comment)
    ++ reportIf ((namedType? comment).any fun type => type != "ignore".toList)
      (Violation.wrongMagicComment.atToken t comment)
    ++ reportIf (comment == ":") (Violation.wrongDocComment.atToken t)

/-- How many comments may turn rules off. -/
def maxSilencing : Nat := 10

/-- How many comments may exclude code from measuring. -/
def maxExcluding : Nat := 5

/-- All comments: each on its own, and then how many there are of them. -/
def comments (tokens : List Token) : Report :=
  let comments := tokens.filter fun t => t.exactKind == .comment
  let silencing := comments.countP fun t => (silencedRules? t.commentText).isSome
  let excluding := comments.countP fun t => excludesCoverage t.commentText
  .ofFindings (comments.flatMap commentFindings
    ++ reportIf (maxSilencing < silencing)
      (Violation.overuseOfNoqaComment.atFile (toString silencing))
    ++ reportIf (maxExcluding < excluding)
      (Violation.overuseOfNoCoverComment.atFile (toString excluding)))

/-! ### The first lines -/

/-- The first token after comments at the start of a file, each of them with the token after it.
`skip` tokens still belong to a comment. -/
def afterOpeningComments? : Nat → List Token → Option Token
  | _, [] => none
  | 0, t :: rest => if t.exactKind = .comment then afterOpeningComments? 1 rest else some t
  | skip + 1, _ :: rest => afterOpeningComments? skip rest

/-- The tokens from the first copy of a token on. -/
def tokensFrom (tokens : List Token) (t : Token) : List Token :=
  tokens.dropWhile fun u => u != t

/-- The finding for a comment on the first line: an empty line comes after it and the comments that
follow it. -/
def openingComment (tokens : List Token) (t : Token) : Report :=
  if t.exactKind = .comment ∧ t.startRow = 1 ∧ t.startColumn = 0 then
    match afterOpeningComments? 2 (tokensFrom tokens t) with
    | none => .stopped .endOfTokens
    | some u =>
      .ofFindings (reportIf (!(u.exactKind == .blankEnd || u.exactKind == .lineEnd
        || u.exactKind == .fileEnd)) (Violation.emptyLineAfterCoding.atToken t))
  else .empty

/-- The comments at the start of a file. -/
def openingComments (tokens : List Token) : Report :=
  .sequence (tokens.map (openingComment tokens))

end Stricture.Rules
