import Stricture.Text.Blank
import Stricture.Token.Basic

/-!
# Texts of tokens

Taking apart string literals and comments.
-/

namespace Stricture

/-- The pieces of a text between the copies of a character. -/
def piecesAt (separator : Char) : List Char → List (List Char)
  | [] => [[]]
  | c :: rest =>
    if c == separator then [] :: piecesAt separator rest
    else (piecesAt separator rest).modifyHead (c :: ·)

/-- A text without the first copy of a part, wherever it stands. -/
def removeFirst (part : List Char) : List Char → List Char
  | [] => []
  | c :: rest =>
    if part.isPrefixOf (c :: rest) then (c :: rest).drop part.length
    else c :: removeFirst part rest

/-- The first piece of a text that is cut at its last character, and the text without the first copy
of this piece. For a string literal, whose last character is its quote, these are the letters in
front of the first quote and the rest. An empty text has no last character. -/
def splitModifiers? (text : List Char) : Option (List Char × List Char) := do
  let last ← text.getLast?
  let modifiers ← (piecesAt last text).head?
  return (modifiers, removeFirst modifiers text)

/-- The text stands between triple quotes of one kind. -/
def hasTripleQuotes (text : List Char) : Bool :=
  let opens (q : Char) (cs : List Char) : Bool := cs.take 3 == [q, q, q]
  (opens '"' text && opens '"' text.reverse) || (opens '\'' text && opens '\'' text.reverse)

namespace Token

/-- Letters and quoted part of a string literal. -/
def modifiers? (t : Token) : Option (List Char × List Char) :=
  splitModifiers? t.text.toList

/-- The text of a comment without its first character and the blanks at its ends. -/
def commentText (t : Token) : String :=
  Text.strip (String.ofList (t.text.toList.drop 1))

/-- The rest of the line after the token. A column below zero counts from the end of the line. -/
def lineAfter (t : Token) : List Char :=
  let cs := t.line.toList
  cs.drop (if 0 ≤ t.endColumn then t.endColumn else cs.length + t.endColumn).toNat

/-- All tokens are of the given exact kinds. -/
def onlyOf (kinds : List TokenKind) (tokens : List Token) : Bool :=
  tokens.all fun t => kinds.contains t.exactKind

end Token

end Stricture
