/-!
# Tokens

A program as a sequence of tokens. The exact kind of an operator token depends on its text; every
other token has the kind that it was read with.
-/

namespace Stricture

/-- The kinds of tokens: first those that a reader tells apart, then the operators one by one. -/
inductive TokenKind where
  | name | number | string | op | comment | blankEnd | lineEnd | indent | dedent | fileEnd
  | encoding | mistake
  | leftParen | rightParen | leftBracket | rightBracket | leftBrace | rightBrace | colon | comma
  | semicolon | plus | minus | star | slash | bar | ampersand | less | greater | equal | dot
  | percent | doubleEqual | notEqual | lessEqual | greaterEqual | tilde | caret | leftShift
  | rightShift | doubleStar | plusEqual | minusEqual | starEqual | slashEqual | percentEqual
  | ampersandEqual | barEqual | caretEqual | leftShiftEqual | rightShiftEqual | doubleStarEqual
  | doubleSlash | doubleSlashEqual | atSign | atEqual | arrow | ellipsis | colonEqual
  deriving DecidableEq

namespace TokenKind

/-- The name of a kind. -/
def title : TokenKind → String
  | .name => "NAME" | .number => "NUMBER" | .string => "STRING" | .op => "OP"
  | .comment => "COMMENT" | .blankEnd => "NL" | .lineEnd => "NEWLINE" | .indent => "INDENT"
  | .dedent => "DEDENT" | .fileEnd => "ENDMARKER" | .encoding => "ENCODING"
  | .mistake => "ERRORTOKEN" | .leftParen => "LPAR" | .rightParen => "RPAR"
  | .leftBracket => "LSQB" | .rightBracket => "RSQB" | .leftBrace => "LBRACE"
  | .rightBrace => "RBRACE" | .colon => "COLON" | .comma => "COMMA" | .semicolon => "SEMI"
  | .plus => "PLUS" | .minus => "MINUS" | .star => "STAR" | .slash => "SLASH" | .bar => "VBAR"
  | .ampersand => "AMPER" | .less => "LESS" | .greater => "GREATER" | .equal => "EQUAL"
  | .dot => "DOT" | .percent => "PERCENT" | .doubleEqual => "EQEQUAL" | .notEqual => "NOTEQUAL"
  | .lessEqual => "LESSEQUAL" | .greaterEqual => "GREATEREQUAL" | .tilde => "TILDE"
  | .caret => "CIRCUMFLEX" | .leftShift => "LEFTSHIFT" | .rightShift => "RIGHTSHIFT"
  | .doubleStar => "DOUBLESTAR" | .plusEqual => "PLUSEQUAL" | .minusEqual => "MINEQUAL"
  | .starEqual => "STAREQUAL" | .slashEqual => "SLASHEQUAL" | .percentEqual => "PERCENTEQUAL"
  | .ampersandEqual => "AMPEREQUAL" | .barEqual => "VBAREQUAL" | .caretEqual => "CIRCUMFLEXEQUAL"
  | .leftShiftEqual => "LEFTSHIFTEQUAL" | .rightShiftEqual => "RIGHTSHIFTEQUAL"
  | .doubleStarEqual => "DOUBLESTAREQUAL" | .doubleSlash => "DOUBLESLASH"
  | .doubleSlashEqual => "DOUBLESLASHEQUAL" | .atSign => "AT" | .atEqual => "ATEQUAL"
  | .arrow => "RARROW" | .ellipsis => "ELLIPSIS" | .colonEqual => "COLONEQUAL"

/-- The kinds that a reader tells apart. -/
def general : List TokenKind := [
  .name, .number, .string, .op, .comment, .blankEnd, .lineEnd, .indent, .dedent, .fileEnd,
  .encoding, .mistake]

/-- The operators. -/
def operators : List (String × TokenKind) := [
  ("(", .leftParen), (")", .rightParen), ("[", .leftBracket), ("]", .rightBracket),
  ("\x7b", .leftBrace), ("\x7d", .rightBrace), (":", .colon), (",", .comma), (";", .semicolon),
  ("+", .plus), ("-", .minus), ("*", .star), ("/", .slash), ("|", .bar), ("&", .ampersand),
  ("<", .less), (">", .greater), ("=", .equal), (".", .dot), ("%", .percent),
  ("==", .doubleEqual), ("!=", .notEqual), ("<=", .lessEqual), (">=", .greaterEqual),
  ("~", .tilde), ("^", .caret), ("<<", .leftShift), (">>", .rightShift), ("**", .doubleStar),
  ("+=", .plusEqual), ("-=", .minusEqual), ("*=", .starEqual), ("/=", .slashEqual),
  ("%=", .percentEqual), ("&=", .ampersandEqual), ("|=", .barEqual), ("^=", .caretEqual),
  ("<<=", .leftShiftEqual), (">>=", .rightShiftEqual), ("**=", .doubleStarEqual),
  ("//", .doubleSlash), ("//=", .doubleSlashEqual), ("@", .atSign), ("@=", .atEqual),
  ("->", .arrow), ("...", .ellipsis), (":=", .colonEqual)]

/-- The kind with a name. -/
def ofTitle? (title : String) : Option TokenKind :=
  (general ++ operators.map Prod.snd).find? fun k => k.title == title

/-- The kind of an operator by its text; a text that is no operator is just an operator token. -/
def ofOperator (text : String) : TokenKind :=
  ((operators.find? fun entry => entry.1 == text).map Prod.snd).getD .op

end TokenKind

/-- A token: its kind and text, where it starts and ends, and the text of its line. -/
structure Token where
  kind : TokenKind
  text : String
  startRow : Int
  startColumn : Int
  endRow : Int
  endColumn : Int
  line : String
  deriving DecidableEq

namespace Token

/-- The kind of the token, with operators told apart. -/
def exactKind (t : Token) : TokenKind :=
  if t.kind = .op then .ofOperator t.text else t.kind

end Token

end Stricture
