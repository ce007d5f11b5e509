import Stricture.Number.Amount

/-!
# Options

The limits that users can set. Every limit is at least one; anything else is refused, the first
limit in the order of the fields that is wrong deciding the error.
-/

namespace Stricture

/-- A number as a user gives it. Truth values count as one and zero. -/
inductive Quantity where
  | truth (value : Bool)
  | whole (value : Int)
  | real (value : Double)

namespace Quantity

/-- What a number amounts to. -/
def amount? : Quantity → Option Amount
  | truth b => some (.ofInt (if b then 1 else 0))
  | whole n => some (.ofInt n)
  | real x => x.amount?

/-- How a number is shown in a message. -/
def display : Quantity → String
  | truth b => if b then "True" else "False"
  | whole n => toString n
  | real x => x.written

/-- The number counts as true. -/
def isOn : Quantity → Bool
  | truth b => b
  | whole n => n != 0
  | real x => !x.isZero

end Quantity

/-- The value of an option as a user gives it. -/
inductive Setting where
  | absent
  | number (quantity : Quantity)
  | text (value : String)
  | list (items : List Setting)
  | table (entries : List (String × Setting))
  deriving Inhabited

namespace Setting

/-- A setting that is on or off. -/
@[match_pattern]
abbrev flag (value : Bool) : Setting :=
  number (.truth value)

/-- A setting that counts. -/
@[match_pattern]
abbrev count (value : Int) : Setting :=
  number (.whole value)

/-- The number in a setting. -/
def quantity? : Setting → Option Quantity
  | number q => some q
  | _ => none

/-- What a setting amounts to. -/
def amount? (s : Setting) : Option Amount :=
  s.quantity?.bind Quantity.amount?

/-- The setting counts as true. -/
def isOn : Setting → Bool
  | absent => false
  | number q => q.isOn
  | text s => s != ""
  | list items => !items.isEmpty
  | table entries => !entries.isEmpty

end Setting

/-- A limit that has passed validation: the number that was given and what it amounts to. -/
structure Limit where
  quantity : Quantity
  amount : Amount
  agrees : quantity.amount? = some amount
  positive : .ofNat 1 ≤ amount

namespace Limit

/-- The setting that was given. -/
def setting (limit : Limit) : Setting :=
  .number limit.quantity

/-- A count is above the limit. -/
def isExceededBy (limit : Limit) (count : Nat) : Bool :=
  limit.amount < .ofNat count

end Limit

/-- Why options are refused. -/
inductive OptionError where
  /-- The setting is no number. -/
  | notNumber (name : String)
  /-- The number is below one. -/
  | outOfBounds (name : String) (quantity : Quantity)

/-- The message for refused options. A setting that is no number is refused without one. -/
def OptionError.message : OptionError → Option String
  | notNumber _ => none
  | outOfBounds name quantity =>
    some ("Option " ++ name ++ " is out of bounds: " ++ quantity.display)

/-- Validates one limit. -/
def Limit.validate (name : String) (setting : Setting) : Except OptionError Limit :=
  match setting.quantity? with
  | none => .error (.notNumber name)
  | some q =>
    match h : q.amount? with
    | none => .error (.notNumber name)
    | some amount =>
      if positive : .ofNat 1 ≤ amount then .ok ⟨q, amount, h, positive⟩
      else .error (.outOfBounds name q)

/-- Validated options. -/
structure Options where
  minNameLength : Limit
  controlsCode : Setting
  maxNameLength : Limit
  maxArguments : Limit
  maxLocalVariables : Limit
  maxReturns : Limit
  maxExpressions : Limit
  maxModuleMembers : Limit
  maxMethods : Limit
  maxLineComplexity : Limit
  maxJonesScore : Limit
  maxImports : Limit
  maxImportedNames : Limit
  maxBaseClasses : Limit
  maxDecorators : Limit
  maxStringUsages : Limit
  maxAwaits : Limit
  maxTryBodyLength : Limit
  maxModuleExpressions : Limit
  maxFunctionExpressions : Limit
  maxAsserts : Limit

namespace Options

/-- Reads the options from a table of settings, in the order of the fields. -/
def validate (setting : String → Setting) : Except OptionError Options := do
  let limit (name : String) : Except OptionError Limit := Limit.validate name (setting name)
  let minNameLength ← limit "min_name_length"
  let maxNameLength ← limit "max_name_length"
  let maxArguments ← limit "max_arguments"
  let maxLocalVariables ← limit "max_local_variables"
  let maxReturns ← limit "max_returns"
  let maxExpressions ← limit "max_expressions"
  let maxModuleMembers ← limit "max_module_members"
  let maxMethods ← limit "max_methods"
  let maxLineComplexity ← limit "max_line_complexity"
  let maxJonesScore ← limit "max_jones_score"
  let maxImports ← limit "max_imports"
  let maxImportedNames ← limit "max_imported_names"
  let maxBaseClasses ← limit "max_base_classes"
  let maxDecorators ← limit "max_decorators"
  let maxStringUsages ← limit "max_string_usages"
  let maxAwaits ← limit "max_awaits"
  let maxTryBodyLength ← limit "max_try_body_length"
  let maxModuleExpressions ← limit "max_module_expressions"
  let maxFunctionExpressions ← limit "max_function_expressions"
  let maxAsserts ← limit "max_asserts"
  return {
    minNameLength, controlsCode := setting "i_control_code", maxNameLength, maxArguments,
    maxLocalVariables, maxReturns, maxExpressions, maxModuleMembers, maxMethods,
    maxLineComplexity, maxJonesScore, maxImports, maxImportedNames, maxBaseClasses, maxDecorators,
    maxStringUsages, maxAwaits, maxTryBodyLength, maxModuleExpressions, maxFunctionExpressions,
    maxAsserts }

/-- The options by their names, in the order of the fields. -/
def entries (o : Options) : List (String × Setting) := [
  ("min_name_length", o.minNameLength.setting), ("i_control_code", o.controlsCode),
  ("max_name_length", o.maxNameLength.setting), ("max_arguments", o.maxArguments.setting),
  ("max_local_variables", o.maxLocalVariables.setting), ("max_returns", o.maxReturns.setting),
  ("max_expressions", o.maxExpressions.setting),
  ("max_module_members", o.maxModuleMembers.setting), ("max_methods", o.maxMethods.setting),
  ("max_line_complexity", o.maxLineComplexity.setting),
  ("max_jones_score", o.maxJonesScore.setting), ("max_imports", o.maxImports.setting),
  ("max_imported_names", o.maxImportedNames.setting),
  ("max_base_classes", o.maxBaseClasses.setting), ("max_decorators", o.maxDecorators.setting),
  ("max_string_usages", o.maxStringUsages.setting), ("max_awaits", o.maxAwaits.setting),
  ("max_try_body_length", o.maxTryBodyLength.setting),
  ("max_module_expressions", o.maxModuleExpressions.setting),
  ("max_function_expressions", o.maxFunctionExpressions.setting),
  ("max_asserts", o.maxAsserts.setting)]

end Options

/-! ### The options that users see -/

/-- An option as it is offered to users. -/
structure OptionOffer where
  name : String
  initial : Setting
  explanation : String

namespace OptionOffer

/-- Every explanation says where the value comes from if none is given. -/
def help (o : OptionOffer) : String :=
  o.explanation ++ " Defaults to: %default"

/-- The name under which values are stored: without the dashes in front, the others as
underscores. -/
def key (o : OptionOffer) : String :=
  String.ofList ((o.name.toList.dropWhile (· == '-')).map fun c => if c = '-' then '_' else c)

/-- An option that is on when it is given, and takes no value. -/
def isSwitch (o : OptionOffer) : Bool :=
  match o.initial with
  | .flag _ => true
  | _ => false

/-- All options in the order in which they are offered. -/
def all : List OptionOffer := [
  ⟨"--max-returns", .count 5, "Maximum allowed number of return statements in one function."⟩,
  ⟨"--max-local-variables", .count 5,
    "Maximum allowed number of local variables in one function."⟩,
  ⟨"--max-expressions", .count 9, "Maximum allowed number of expressions in one function."⟩,
  ⟨"--max-arguments", .count 5, "Maximum allowed number of arguments in one function."⟩,
  ⟨"--max-module-members", .count 7,
    "Maximum number of classes and functions in a single module."⟩,
  ⟨"--max-methods", .count 7, "Maximum number of methods in a single class."⟩,
  ⟨"--max-line-complexity", .count 14, "Maximum line complexity, measured in `ast` nodes."⟩,
  ⟨"--max-jones-score", .count 12, "Maximum median module complexity, based on sum of lines."⟩,
  ⟨"--max-imports", .count 12, "Maximum number of imports in a single module."⟩,
  ⟨"--max-imported-names", .count 50, "Maximum number of imported names in a single module."⟩,
  ⟨"--max-base-classes", .count 3, "Maximum number of base classes."⟩,
  ⟨"--max-decorators", .count 5, "Maximum number of decorators."⟩,
  ⟨"--max-string-usages", .count 3, "Maximum number of string constant usages."⟩,
  ⟨"--max-awaits", .count 5, "Maximum allowed number of await expressions in one function."⟩,
  ⟨"--max-try-body-length", .count 2, "Maximum amount of try block node body length."⟩,
  ⟨"--max-module-expressions", .count 7, "Maximum amount of expression usages in a module."⟩,
  ⟨"--max-function-expressions", .count 4,
    "Maximum amount of expression usages in a function or method."⟩,
  ⟨"--max-asserts", .count 5, "Maximum allowed number of assert statements in one function."⟩,
  ⟨"--min-name-length", .count 2, "Minimum required length of variable and module names."⟩,
  ⟨"--max-name-length", .count 45, "Maximum possible length of the variable and module names."⟩,
  ⟨"--i-control-code", .flag true, "Whether you control ones who use your code."⟩]

/-- The initial value of the option with a key. -/
def initialSetting (key : String) : Setting :=
  ((all.find? fun o => o.key == key).map OptionOffer.initial).getD .absent

/-- Every initial value passes validation. -/
theorem validate_initialSetting :
    (Options.validate initialSetting).toOption.isSome = true := by
  decide +kernel

end OptionOffer

/-- The options if nothing is set. -/
def Options.initial : Options :=
  (Options.validate OptionOffer.initialSetting).toOption.get OptionOffer.validate_initialSetting

end Stricture
