import Stricture.Grouping
import Stricture.Name.Access
import Stricture.Tree.Kind

/-!
# Scopes

Which names are bound in which context. A store is a log of bindings: a context, given by the
identity of its node, and a name. The module itself belongs to no context, so `none` is a key like
any other. Names of underscores only are never entered.

Blocks and plain assignments bind in separate stores. Names in these may clash inside of one
context. A third store knows all names that can be seen from inner contexts; the names of a class
cannot.
-/

namespace Stricture

/-- A log of bindings. -/
abbrev BindingLog := List (Option Nat × String)

namespace BindingLog

/-- The name was bound in the context. -/
def knows (log : BindingLog) (context : Option Nat) (name : String) : Bool :=
  log.contains (context, name)

/-- The log with the names bound in the context, except for unused ones. -/
def bind (log : BindingLog) (context : Option Nat) (names : List String) : BindingLog :=
  log ++ (names.filter fun name => !Name.isUnused name).map fun name => (context, name)

end BindingLog

/-- How a name is bound: by a plain assignment or a parameter, or by a block such as a loop, a
definition or an import. -/
inductive BindingMode where
  | plain
  | block
  deriving DecidableEq

/-- The stores of all contexts. -/
structure Scopes where
  blocks : BindingLog := []
  locals : BindingLog := []
  outer : BindingLog := []

namespace Scopes

/-- The key of the context of a site. -/
def key (s : Site) : Option Nat :=
  s.context?.map Node.id

/-- Enters names at a site into the store of their mode. -/
def addInner (scopes : Scopes) (mode : BindingMode) (s : Site) (names : List String) : Scopes :=
  match mode with
  | .plain => { scopes with locals := scopes.locals.bind (key s) names }
  | .block => { scopes with blocks := scopes.blocks.bind (key s) names }

/-- The names that clash at a site: a plain name with the blocks of its context, and a block name
with everything in its context. -/
def innerClash (scopes : Scopes) (mode : BindingMode) (s : Site) (names : List String) :
    List String :=
  names.filter fun name =>
    scopes.blocks.knows (key s) name || (mode = .block && scopes.locals.knows (key s) name)

/-- The contexts around the context of a site, from the inside out, and the place outside of all
of them. -/
def outerKeys (s : Site) : List (Option Nat) :=
  (s.contexts.drop 1).map (fun n => some n.id) ++ [none]

/-- Enters names at a site into the store of visible names. -/
def addOuter (scopes : Scopes) (s : Site) (names : List String) : Scopes :=
  if s.contextIsAny [.classDef] then scopes
  else { scopes with outer := scopes.outer.bind (key s) names }

/-- The names at a site that hide a name of an outer context. -/
def outerClash (scopes : Scopes) (s : Site) (names : List String) : List String :=
  if s.contextIsAny [.classDef] then []
  else names.filter fun name => (outerKeys s).any fun k => scopes.outer.knows k name

end Scopes

/-! ### Names in messages -/

/-- The names in order, each one once. -/
def sortedNames (names : List String) : List String :=
  (names.mergeSort fun a b => !(b < a)).eraseDups

/-- An order in which names are listed, each one once. -/
structure NameOrder where
  list : List String → List String
  nodup (names : List String) : (list names).Nodup
  mem_iff {names : List String} {x : String} : x ∈ list names ↔ x ∈ names

/-- The order of texts. -/
def NameOrder.sorted : NameOrder where
  list := sortedNames
  nodup names := nodup_eraseDups _
  mem_iff := by simp [sortedNames]

end Stricture
