import Stricture.Text.Blank

/-!
# What a name says about its use

Underscores around a name tell how public it is. A name of underscores only is for values that
nobody uses.
-/

namespace Stricture.Name

/-- The text begins with two underscores. -/
def opensDouble : List Char → Bool
  | '_' :: '_' :: _ => true
  | _ => false

/-- The name has underscores only, and at least one. -/
def isUnused (name : String) : Bool :=
  let cs := Text.beforeLastBreak name.toList
  !cs.isEmpty && cs.all (· == '_')

/-- The name has two underscores on both ends. -/
def isMagic (name : String) : Bool :=
  opensDouble name.toList && opensDouble name.toList.reverse

/-- The name begins with two underscores and is not magic. -/
def isPrivate (name : String) : Bool :=
  opensDouble name.toList && !isMagic name

/-- The name begins with one underscore and says something after it. -/
def isProtected (name : String) : Bool :=
  name.toList.head? == some '_' && !isUnused name && !isPrivate name && !isMagic name

end Stricture.Name
