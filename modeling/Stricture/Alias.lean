/-!
# Aliases

A table of handlers by name, in which one handler is entered under further names. Beside its own
entries a table has inherited ones, which its own hide. Where it has no entry, whatever keeps the
table may still give an answer.
-/

namespace Stricture

/-- Handlers by name. An entry may be there without a handler. -/
structure HandlerTable where
  own : List (String × Option String)
  inherited : List (String × Option String) := []
  /-- What is answered for names without an entry. This is no part of the table. -/
  answers : List (String × Option String) := []

/-- Why a handler cannot get further names. -/
inductive AliasError where
  /-- Two of the names are equal. -/
  | duplicate
  /-- There is no handler to name. -/
  | missing (name : String)
  /-- One of the names has a handler of its own. -/
  | taken (name : String)
  deriving DecidableEq

/-- The message for an impossible alias. -/
def AliasError.message : AliasError → String
  | duplicate => "Found duplicate aliases"
  | missing name => "Aliased attribute " ++ name ++ " does not exist"
  | taken name => "Alias " ++ name ++ " already exists"

namespace HandlerTable

/-- The names that every class inherits, or has before anything is defined in it. -/
def standardNames : List String := [
  "__class__", "__delattr__", "__dir__", "__eq__", "__format__", "__ge__", "__getattribute__",
  "__getstate__", "__gt__", "__hash__", "__init__", "__init_subclass__", "__le__", "__lt__",
  "__module__", "__ne__", "__new__", "__reduce__", "__reduce_ex__", "__repr__", "__setattr__",
  "__sizeof__", "__str__", "__subclasshook__", "__weakref__"]

/-- The names to which a class answers without having them: they stand in the class of classes. -/
def classNames : List String := [
  "__base__", "__bases__", "__basicsize__", "__call__", "__dict__", "__dictoffset__", "__flags__",
  "__instancecheck__", "__mro__", "__name__", "__or__", "__prepare__", "__qualname__", "__ror__",
  "__subclasscheck__", "__subclasses__", "__weakrefoffset__", "mro"]

/-- The table of a class that defines the given handlers and nothing else. -/
def ofHandlers (handlers : List (String × String)) : HandlerTable where
  own := handlers.map fun (name, handler) => (name, some handler)
  inherited := standardNames.map fun name => (name, some name)
  answers := ("__annotations__", some "") :: classNames.map fun name => (name, some name)

/-- The entry with a name: its own before an inherited one. -/
def entry? (table : HandlerTable) (name : String) : Option (String × Option String) :=
  (table.own ++ table.inherited).find? fun entry => entry.1 == name

/-- The handler with a name, which is answered for if there is no entry. -/
def handler? (table : HandlerTable) (name : String) : Option String :=
  ((table.entry? name).or (table.answers.find? fun entry => entry.1 == name)).bind Prod.snd

/-- The name is taken: something that says something stands under it. -/
def isTaken (table : HandlerTable) (name : String) : Bool :=
  (table.handler? name).any fun text => text != ""

/-- Enters a handler under a name. -/
def put (table : HandlerTable) (name handler : String) : HandlerTable :=
  if table.own.any fun entry => entry.1 == name then
    { table with
      own := table.own.map fun entry =>
        if entry.1 == name then (name, some handler) else entry }
  else { table with own := table.own ++ [(name, some handler)] }

/-- Enters a handler under several names, one after the other. Each of them must be free when its
turn comes. -/
def putAll (handler : String) : HandlerTable → List String → Except AliasError HandlerTable
  | table, [] => .ok table
  | table, name :: rest =>
    if table.isTaken name then .error (.taken name)
    else putAll handler (table.put name handler) rest

/-- Gives further names to the handler with a name. -/
def addNames (table : HandlerTable) (name : String) (names : List String) :
    Except AliasError HandlerTable :=
  if (names ++ [name]).eraseDups.length ≠ (names ++ [name]).length then .error .duplicate
  else
    match table.handler? name with
    | none => .error (.missing name)
    | some handler => putAll handler table names

/-- The entries that are listed: its own ones, except those whose names begin with two
underscores. -/
def listed (table : HandlerTable) : List (String × Option String) :=
  table.own.filter fun entry => !entry.1.startsWith "__"

end HandlerTable

end Stricture
