import Stricture.Finding
import Stricture.Tree.Unwrap

/-!
# Rules for literals

Numbers that should have a name, and formatted texts.
-/

namespace Stricture.Rules

/-- A number that needs no name: a small whole number, or one that everybody knows. -/
def isKnownNumber (literal : Literal) : Bool :=
  [0, 100, 1000, 1024, 24, 60].any literal.isWhole
    || match literal with
      | .int n => n ≤ 10
      | .float x => x.same (.ofDecimal false 5 (-1))
      | .imaginary x => x.sameInt 1
      | _ => false

/-- The places that give a number a meaning. -/
def meaningfulParents : List Kind := [
  .assign, .annAssign, .functionDef, .asyncFunctionDef, .params, .list, .dict, .setOf, .tuple]

/-- Numbers without a name. -/
def magicNumbers (s : Site) : List Finding :=
  match s.node.literal? with
  | some literal =>
    reportIf (literal.isNumber && !(s.realParent?.any fun p => p.isAny meaningfulParents)
        && !isKnownNumber literal)
      (Violation.magicNumber.atNode s.node literal.display)
  | none => []

/-- Formatted texts. -/
def formattedTexts (s : Site) : List Finding :=
  reportIf (s.node.kind == .joined) (Violation.formattedString.atNode s.node)

end Stricture.Rules
