import Stricture.Name.Access
import Stricture.Name.Builtin
import Stricture.Number.Amount
import Stricture.Text.Digit
import Stricture.Text.Uppercase

/-!
# Good and bad names

The questions that rules ask of a name: its length, its characters, its underscores, and whether it
belongs to the language or to a file.
-/

namespace Stricture.Name

/-- The name is one of the words, maybe with one underscore before it or after it. -/
def isWrong (words : List String) (name : String) : Bool :=
  words.any fun word => name == word || name == "_" ++ word || name == word ++ "_"

/-- The name has an upper-case character. -/
def hasUpper (name : String) : Bool :=
  name.toList.any Text.isUpper

/-- The name is written in upper-case characters and underscores. -/
def isConstant (name : String) : Bool :=
  !isUnused name && name.toList.all fun c => Text.isUpper c || c == '_'

/-- The name without the underscores at its ends has fewer characters than required. -/
def isTooShort (least : Amount) (name : String) : Bool :=
  !isUnused name && .ofNat (Text.stripChar '_' name).length < least

/-- The whole name has fewer characters than required. -/
def isTooShortUntrimmed (least : Amount) (name : String) : Bool :=
  !isUnused name && .ofNat name.length < least

/-- The name has more characters than allowed. -/
def isTooLong (most : Amount) (name : String) : Bool :=
  most < .ofNat name.length

/-- Somewhere after the first character, and before any line break in front of it, stand a
character that is no digit, an underscore and a digit. -/
def underscoredFrom : List Char → Bool
  | before :: '_' :: digit :: rest =>
    (!Text.isDigit before && Text.isDigit digit) ||
      (before != '\n' && underscoredFrom ('_' :: digit :: rest))
  | before :: rest => before != '\n' && underscoredFrom rest
  | [] => false

/-- A number is set off from the rest of the name by an underscore. -/
def hasUnderscoredNumber (name : String) : Bool :=
  match name.toList with
  | [] => false
  | first :: rest => first != '\n' && underscoredFrom rest

/-- Two underscores stand side by side. -/
def hasDouble : List Char → Bool
  | '_' :: '_' :: _ => true
  | _ :: rest => hasDouble rest
  | [] => false

/-- Two underscores stand side by side. Those at the ends of a magic or private name do not
count. -/
def hasConsecutiveUnderscores (name : String) : Bool :=
  if isMagic name || isPrivate name then hasDouble (Text.stripChar '_' name).toList
  else hasDouble name.toList

/-- The name has a character outside of ASCII. -/
def hasUnicode (name : String) : Bool :=
  name.toList.any fun c => 127 < c.toNat

/-- The name ends with an underscore that does not tell it apart from a name of the language. -/
def hasTrailingUnderscore (name : String) : Bool :=
  !isMagic name && !isUnused name && name.toList.getLast? == some '_' &&
    !isBuiltin (String.ofList name.toList.dropLast)

/-- The name is that of a class of the language that should not be extended: one in small letters,
except for the roots of the class hierarchy. -/
def isForbiddenBase (name : String) : Bool :=
  name.toList.any Char.isLower && !name.toList.any Char.isUpper &&
    !(["type", "object"].contains name) && isBuiltin name

/-- The name is a kind of method. -/
def isMethodKind (name : String) : Bool :=
  ["method", "classmethod", "staticmethod"].contains name

/-! ### Files -/

/-- The components of a path that say something. -/
def pathComponents (path : String) : List String :=
  (path.splitOn "/").filter fun part => part != "" && part != "."

/-- Cuts the last extension off a file name. A point at its start or its end does not begin one. -/
def dropExtension (name : List Char) : List Char :=
  let extension := name.reverse.takeWhile (· != '.')
  let stem := (name.reverse.dropWhile (· != '.')).reverse.dropLast
  if stem.isEmpty || extension.isEmpty then name else stem

/-- The file name at the end of a path without its extension. -/
def stem (path : String) : String :=
  match (pathComponents path).getLast? with
  | none => ""
  | some name => String.ofList (dropExtension name.toList)

/-- The inside of a module name: small letters, digits and underscores, with a small letter at its
start and no underscore at its end. -/
def isModuleCore (cs : List Char) : Bool :=
  let lower (c : Char) : Bool := 'a' ≤ c && c ≤ 'z'
  2 ≤ cs.length && cs.head?.any lower &&
    cs.all (fun c => lower c || Text.isDigit c || c == '_') &&
    cs.getLast?.any fun c => lower c || Text.isDigit c

/-- The text after none, one or two of the underscores at its start. -/
def withoutOpening : List Char → List (List Char)
  | '_' :: '_' :: rest => [rest, '_' :: rest, '_' :: '_' :: rest]
  | '_' :: rest => [rest, '_' :: rest]
  | cs => [cs]

/-- The text with and without two underscores at its end. -/
def withoutClosing (cs : List Char) : List (List Char) :=
  match cs.reverse with
  | '_' :: '_' :: rest => [rest.reverse, cs]
  | _ => [cs]

/-- The pattern of module names: a core, up to two underscores before it, and two or none after. -/
def isModulePattern (name : String) : Bool :=
  (withoutOpening (Text.beforeLastBreak name.toList)).any fun cs =>
    (withoutClosing cs).any isModuleCore

end Stricture.Name
