import Stricture.Scope
import Stricture.Subject
import Stricture.Tree.Signature
import Stricture.Tree.Target

/-!
# Rules for bound names

Names that clash with other names of their context or hide names of an outer one, and names of a
block that are used after it.

Going over a program, every node that binds names is an event. An event is compared with everything
that was bound before it, and then entered itself.
-/

namespace Stricture.Rules

/-- A place that binds names. -/
structure BindingEvent where
  site : Site
  mode : BindingMode
  names : List String

/-- What a definition binds under its own name: nothing if the name is empty. -/
def ownName (name : String) : List String :=
  if name = "" then [] else [name]

/-- The event at a site. An imported name is bound by its import, and the target of a context
manager by its statement. -/
def bindingEvent? (s : Site) : Option BindingEvent :=
  match s.node.shape with
  | .functionDef _ name _ _ _ _ | .classDef name _ _ _ _ => some ⟨s, .block, ownName name⟩
  | .handler _ name _ => some ⟨s, .block, (name.map ownName).getD []⟩
  | .forLoop _ target _ _ _ => some ⟨s, .block, target.variables⟩
  | .importedName .. => s.parent?.map fun p => ⟨p, .block, [s.node.aliasName]⟩
  | .withItem _ (some target) => s.parent?.map fun p => ⟨p, .block, target.variables⟩
  | .assign .. | .annAssign .. => some ⟨s, .plain, s.node.assignedVariables⟩
  | .param name _ => some ⟨s, .plain, [name]⟩
  | _ => none

/-- A finding that lists names. -/
def namesFinding (order : NameOrder) (v : Violation) (n : Node) (names : List String) :
    List Finding :=
  reportIf (!names.isEmpty) (v.atNode n (", ".intercalate (order.list names)))

/-- Compares an event with what was bound before, and enters it. -/
def BindingEvent.judge (order : NameOrder) (scopes : Scopes) (e : BindingEvent) :
    List Finding × Scopes :=
  let inner := scopes.innerClash e.mode e.site e.names
  let scopes' := scopes.addInner e.mode e.site e.names
  let outer := scopes'.outerClash e.site e.names
  (namesFinding order .blockAndLocalOverlap e.site.node inner
      ++ namesFinding order .outerScopeShadowing e.site.node outer,
    scopes'.addOuter e.site e.names)

/-- Goes over events one after the other. -/
def judgeEvents (order : NameOrder) : Scopes → List BindingEvent → List Finding × Scopes
  | scopes, [] => ([], scopes)
  | scopes, e :: rest =>
    let (findings, scopes') := e.judge order scopes
    let (others, scopes'') := judgeEvents order scopes' rest
    (findings ++ others, scopes'')

/-- The events of a program in visiting order. -/
def bindingEvents (p : Program) : List BindingEvent :=
  p.sites.filterMap bindingEvent?

/-- Names that clash. -/
def boundNames : Judgement := fun subject memory =>
  let (findings, scopes) := judgeEvents memory.order memory.scopes (bindingEvents subject.program)
  (.ofFindings findings, { memory with scopes := scopes })

/-! ### Names that are used after their block -/

/-- A name that is bound for a block. -/
structure BlockName where
  context : Option Nat
  name : String
  block : Node

/-- The names that the node at a site binds for a block. -/
def blockNames (s : Site) : List BlockName :=
  let names (t : Site) (names : List String) : List BlockName :=
    names.map fun name => ⟨t.context?.map Node.id, name, t.node⟩
  match s.node.shape with
  | .handler _ (some name) _ => names s (ownName name)
  | .forLoop _ target _ _ _ => names s target.variables
  | .withItem _ (some target) => (s.parent?.map fun p => names p target.variables).getD []
  | _ => []

/-- The name at a site was bound in its context by a block around which it does not stand. -/
def isUsedAfter (known : List BlockName) (s : Site) (name : String) : Bool :=
  known.any fun b =>
    b.context == s.context?.map Node.id && b.name == name && !s.isInside b.block

/-- Goes over sites with the names that blocks have bound so far. -/
def usesAfterBlocks : List BlockName → List Site → List Finding
  | _, [] => []
  | known, s :: rest =>
    let here := match s.node.shape with
      | .name id (some .load) =>
        reportIf (isUsedAfter known s id) (Violation.controlVarUsedAfterBlock.atNode s.node id)
      | _ => []
    here ++ usesAfterBlocks (known ++ blockNames s) rest

end Stricture.Rules
