import Stricture.Finding
import Stricture.Token.Docstring
import Stricture.Token.Text

/-!
# Rules for how strings are written
-/

namespace Stricture.Rules

/-- The letters contain the given one in either case. -/
def hasModifier (modifiers : List Char) (small : Char) : Bool :=
  modifiers.any fun c => c.toLower == small

/-- A long string on a single line, which is only right for documentation. -/
def isNeedlesslyLong (docstrings : List Token) (t : Token) (body : List Char) : Bool :=
  hasTripleQuotes body && !body.contains '\n' && !docstrings.contains t

/-- The text of a string without its quotes. -/
def unquoted (body : List Char) : List Char :=
  if body.head? = some '"' then Text.trimWhere (· == '"') body
  else Text.trimWhere (· == '\'') body

/-- Two backslashes with something after them on the same line. -/
def hasDoubleBackslash : List Char → Bool
  | '\\' :: '\\' :: c :: rest => c != '\n' || hasDoubleBackslash ('\\' :: c :: rest)
  | _ :: rest => hasDoubleBackslash rest
  | [] => false

/-- The escapes that mean characters, which bytes do not have. -/
def isCharacterEscape (c : Char) : Bool :=
  c == 'u' || c == 'U' || c == 'N'

/-- The place of the first backslash that does not stand before the given place. -/
def backslashFrom? (body : List Char) (place : Nat) : Option Nat :=
  ((body.drop place).findIdx? (· == '\\')).map (· + place)

theorem backslashFrom?_eq_some {body : List Char} {place i : Nat}
    (h : backslashFrom? body place = some i) : place ≤ i ∧ body[i]? = some '\\' ∧
      ∀ j, place ≤ j → j < i → body[j]? ≠ some '\\' := by
  obtain ⟨k, hk, rfl⟩ := Option.map_eq_some_iff.mp h
  obtain ⟨hlt, hhere, hbefore⟩ := List.findIdx?_eq_some_iff_getElem.mp hk
  rw [List.getElem_drop, beq_iff_eq] at hhere
  refine ⟨Nat.le_add_left place k, ?_, fun j hplace hj heq => ?_⟩
  · rw [Nat.add_comm, ← hhere]
    exact List.getElem?_eq_getElem _
  · obtain ⟨hinside, hchar⟩ := List.getElem?_eq_some_iff.mp heq
    refine hbefore (j - place) (by omega) ?_
    rw [List.getElem_drop, beq_iff_eq, ← hchar]
    congr 1
    omega

/-- What is left to scan gets shorter. -/
theorem length_sub_lt_of_backslashFrom? {body : List Char} {place i : Nat}
    (h : backslashFrom? body place = some i) : body.length - (i + 2) < body.length - place := by
  obtain ⟨hplace, hhere, -⟩ := backslashFrom?_eq_some h
  obtain ⟨hinside, -⟩ := List.getElem?_eq_some_iff.mp hhere
  omega

/-- Letters in front of a string. -/
def modifierFindings (t : Token) (modifiers : List Char) : List Finding :=
  reportIf (hasModifier modifiers 'u') (Violation.unicodeString.atToken t t.text)
    ++ (modifiers.filter fun c => ['R', 'F', 'B', 'U'].contains c).map fun c =>
      Violation.uppercaseStringModifier.atToken t (String.singleton c)

/-- Escapes that mean characters in a string of bytes, from the given place on. The scan goes from
backslash to backslash, reads the character behind it, which has to be there, and goes on behind
both. -/
def escapeReportFrom (t : Token) (modifiers body : List Char) (place : Nat) : Report :=
  match _ : backslashFrom? body place with
  | none => .empty
  | some i =>
    match body[i + 1]? with
    | none => .stopped .endOfText
    | some next =>
      (Report.ofFindings (reportIf (hasModifier modifiers 'b' && isCharacterEscape next)
        (Violation.wrongUnicodeEscape.atToken t t.text))).andThen
        (escapeReportFrom t modifiers body (i + 2))
  termination_by body.length - place
  decreasing_by exact length_sub_lt_of_backslashFrom? ‹_›

/-- Escapes that mean characters in a string of bytes. -/
def escapeReport (t : Token) (modifiers body : List Char) : Report :=
  escapeReportFrom t modifiers body 0

/-- The report for one string. -/
def stringReport (docstrings : List Token) (t : Token) : Report :=
  match t.modifiers? with
  | none => .stopped .endOfText
  | some (modifiers, body) =>
    (Report.ofFindings
      (reportIf (isNeedlesslyLong docstrings t body) (Violation.wrongMultilineString.atToken t)
        ++ modifierFindings t modifiers
        ++ reportIf (!hasModifier modifiers 'r' && hasDoubleBackslash (unquoted body))
          (Violation.implicitRawString.atToken t t.text))).andThen
      (escapeReport t modifiers body)

/-- All strings. -/
def strings (tokens : List Token) : Report :=
  let docstrings := Docstring.all tokens
  .sequence ((tokens.filter fun t => t.exactKind == .string).map (stringReport docstrings))

/-- Strings that stand side by side. `isAfterString` says that the last token was a string, where
the ends of lines and their indentation do not count. -/
def adjacentStrings : Bool → List Token → List Finding
  | _, [] => []
  | isAfterString, t :: rest =>
    match t.exactKind with
    | .blankEnd | .lineEnd | .indent => adjacentStrings isAfterString rest
    | .string =>
      reportIf isAfterString (Violation.implicitStringConcatenation.atToken t)
        ++ adjacentStrings true rest
    | _ => adjacentStrings false rest

end Stricture.Rules
