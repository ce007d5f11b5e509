import Stricture.Number.Shortest
import Stricture.Text.Quoted
import Stricture.Tree.Literal

/-!
# Values

The values that constant expressions evaluate to, which of them are equal, which can be keys, and
how they are written.
-/

namespace Stricture

/-- A value. Sets and dictionaries list their members in the order in which they were added. -/
inductive Value where
  | none
  | ellipsis
  | bool (value : Bool)
  | int (value : Int)
  | float (value : Double)
  | complex (real imaginary : Double)
  | text (value : String)
  | bytes (value : List UInt8)
  | tuple (members : List Value)
  | list (members : List Value)
  | setOf (members : List Value)
  | dict (entries : List (Value × Value))

namespace Value

/-- The value of a constant. -/
def ofLiteral : Literal → Value
  | .none => none
  | .ellipsis => ellipsis
  | .bool b => bool b
  | .int n => int n
  | .float x => float x
  | .imaginary x => complex (.finite false 0 0) x
  | .text s => text s
  | .bytes bs => bytes bs

/-! ### Numbers -/

/-- The size of a real number, whole or not. -/
inductive Real where
  | whole (n : Int)
  | double (x : Double)

/-- The same real number. -/
def Real.same : Real → Real → Bool
  | whole m, whole n => m == n
  | whole n, double x | double x, whole n => x.sameInt n
  | double x, double y => x.same y

/-- The real and the imaginary part of a number; the truth values count as one and zero. -/
def number? : Value → Option (Real × Real)
  | bool b => some (.whole (if b then 1 else 0), .whole 0)
  | int n => some (.whole n, .whole 0)
  | float x => some (.double x, .whole 0)
  | complex x y => some (.double x, .double y)
  | _ => Option.none

/-- The same number, whatever the kinds of the two values. -/
def sameNumber (v w : Value) : Bool :=
  match v.number?, w.number? with
  | some (a, b), some (c, d) => a.same c && b.same d
  | _, _ => false

/-- Equality of two values without parts. -/
def sameAtom : Value → Value → Bool
  | none, none => true
  | ellipsis, ellipsis => true
  | text s, text t => s == t
  | bytes s, bytes t => s == t
  | v, w => sameNumber v w

mutual

/-- Equality of values: numbers by value across their kinds, tuples member by member. Containers
that cannot be keys are never compared, and equal to nothing here. -/
def same : Value → Value → Bool
  | tuple vs, tuple ws => sameAll vs ws
  | tuple _, _ | list _, _ | setOf _, _ | dict _, _ => false
  | v, w => sameAtom v w

/-- Equality member by member. -/
def sameAll : List Value → List Value → Bool
  | [], [] => true
  | v :: vs, w :: ws => same v w && sameAll vs ws
  | _, _ => false

end

mutual

/-- The value can be a member of a set or a key of a dictionary. -/
def isKey : Value → Bool
  | list _ | setOf _ | dict _ => false
  | tuple vs => allKeys vs
  | _ => true

/-- All values can be keys. -/
def allKeys : List Value → Bool
  | [] => true
  | v :: vs => isKey v && allKeys vs

end

/-- A container that changes: its kind alone rules it out as a key. -/
def isMutable : Value → Bool
  | list _ | setOf _ | dict _ => true
  | _ => false

/-! ### Sets and dictionaries -/

/-- Adds a member to a set unless an equal one is there. -/
def addMember (members : List Value) (v : Value) : List Value :=
  if members.any (same v) then members else members ++ [v]

/-- Puts an entry into a dictionary. An equal key keeps its place and gets the new value. -/
def addEntry (entries : List (Value × Value)) (key value : Value) : List (Value × Value) :=
  if entries.any (fun e => same key e.1) then
    entries.map fun e => if same key e.1 then (e.1, value) else e
  else entries ++ [(key, value)]

/-! ### Notation -/

/-- One part of a complex number. -/
def writePart (x : Double) : List Char :=
  (if x.isNegative then ['-'] else []) ++ x.writeSize false

/-- A complex number: an imaginary one stands alone, any other in brackets with both its parts. -/
def writeComplex (x y : Double) : String :=
  if x.isZero && !x.isNegative then String.ofList (writePart y ++ ['j'])
  else
    let sign := if y.isNegative then [] else ['+']
    String.ofList ('(' :: writePart x ++ sign ++ writePart y ++ ['j', ')'])

/-- The value inside of a container, where texts are quoted, for values without parts. -/
def writeAtom : Value → String
  | none => "None"
  | ellipsis => "Ellipsis"
  | bool b => if b then "True" else "False"
  | int n => toString n
  | float x => x.written
  | complex x y => writeComplex x y
  | text s => Text.quote s
  | bytes bs => Text.quoteBytes bs
  | tuple _ | list _ | setOf _ | dict _ => ""

/-- The texts of the members of a set in the order in which they are written: whole numbers below
eight ascend, and other members keep the order in which they were added. -/
def arrange (members : List Value) (texts : List String) : List String :=
  let digits := (List.range 8).map fun n => int (n : Nat)
  if members.all fun v => digits.any v.sameNumber then
    digits.flatMap fun d => ((members.zip texts).filter fun m => m.1.sameNumber d).map fun m => m.2
  else texts

mutual

/-- The value as it is written inside of a container. -/
def writeMember : Value → String
  | tuple [] => "()"
  | tuple [v] => "(" ++ writeMember v ++ ",)"
  | tuple vs => "(" ++ ", ".intercalate (writeMembers vs) ++ ")"
  | list vs => "[" ++ ", ".intercalate (writeMembers vs) ++ "]"
  | setOf [] => "set()"
  | setOf vs => "\x7b" ++ ", ".intercalate (arrange vs (writeMembers vs)) ++ "\x7d"
  | dict entries => "\x7b" ++ ", ".intercalate (writeEntries entries) ++ "\x7d"
  | v => writeAtom v

/-- The members one by one. -/
def writeMembers : List Value → List String
  | [] => []
  | v :: vs => writeMember v :: writeMembers vs

/-- The entries of a dictionary one by one. -/
def writeEntries : List (Value × Value) → List String
  | [] => []
  | (k, v) :: rest => (writeMember k ++ ": " ++ writeMember v) :: writeEntries rest

end

/-- The value as a message shows it: a text stands for itself. -/
def display : Value → String
  | text s => s
  | v => v.writeMember

/-- The most digits with which whole numbers are written. -/
def maxDigits : Nat :=
  4300

/-- A whole number that has too many digits to be written. -/
def isTooLong (n : Int) : Bool :=
  maxDigits < n.natAbs.repr.length

mutual

/-- A whole number with too many digits is in the value. -/
def holdsLong : Value → Bool
  | int n => isTooLong n
  | tuple vs => anyHoldsLong vs
  | list vs => anyHoldsLong vs
  | setOf vs => anyHoldsLong vs
  | dict entries => anyEntryHoldsLong entries
  | _ => false

/-- Such a number is in one of the values. -/
def anyHoldsLong : List Value → Bool
  | [] => false
  | v :: vs => holdsLong v || anyHoldsLong vs

/-- Such a number is in a key or a value of one of the entries. -/
def anyEntryHoldsLong : List (Value × Value) → Bool
  | [] => false
  | (k, v) :: rest => holdsLong k || holdsLong v || anyEntryHoldsLong rest

end

/-- The text of the value, unless there is a number with too many digits in it. -/
def written? (v : Value) : Option String :=
  if v.holdsLong then Option.none else some v.display

end Value

/-- The constant as a message shows it. -/
def Literal.display (literal : Literal) : String :=
  (Value.ofLiteral literal).display

end Stricture
