/-!
# Violations

The catalogue of everything that can be wrong with a program: a title, a family, a code that users
refer to, and a message. Some messages end with a detail that depends on the place.
-/

namespace Stricture

/-- The families of violations. -/
inductive Category where
  | naming | complexity | consistency | bestPractices | refactoring | objects
  deriving DecidableEq

/-- What a violation is reported at: a node, a node or the file as a whole, a token, or always the
file as a whole. -/
inductive Anchor where
  | node | maybeNode | token | nowhere
  deriving DecidableEq

/-- The violations, family by family. -/
inductive Violation where
  -- Naming
  | wrongModuleName | wrongModuleMagicName | wrongModuleNamePattern | wrongVariableName
  | tooShortName | privateName | sameAliasImport | underscoredNumberName | upperCaseAttribute
  | consecutiveUnderscoresInName | reservedArgumentName | tooLongName | unicodeName
  | trailingUnderscore | unusedVariableIsUsed | unusedVariableIsDefined | wrongUnusedVariableName
  -- Complexity
  | jonesScore | tooManyImports | tooManyModuleMembers | tooManyImportedNames | overusedExpression
  | tooManyLocals | tooManyArguments | tooManyReturns | tooManyExpressions | tooManyMethods
  | tooManyBaseClasses | tooManyDecorators | tooManyAwaits | tooManyAsserts | tooDeepNesting
  | lineComplexity | tooManyConditions | tooManyElifs | tooManyForsInComprehension
  | tooManyExceptCases | overusedString | tooLongYieldTuple | tooLongCompare | tooLongTryBody
  -- Consistency
  | localFolderImport | dottedRawImport | unicodeString | underscoredNumber | partialFloat
  | formattedString | requiredBaseClass | multipleIfsInComprehension | constantCompare
  | compareOrder | badNumberSuffix | multipleInCompare | uselessCompare
  | missingSpaceBetweenKeywordAndParen | constantCondition | objectInBaseClassesList
  | multipleContextManagerAssignments | parametersIndentation | extraIndentation
  | wrongBracketPosition | multilineFunctionHint | uppercaseStringModifier
  | wrongMultilineString | emptyLineAfterCoding | inconsistentReturn | inconsistentYield
  | implicitStringConcatenation | uselessContinue | uselessNode | uselessExceptCase
  | uselessOperators | inconsistentReturnVariable | implicitTernary | implicitComplexCompare
  | reversedComplexCompare | wrongLoopIterType | explicitStringConcat | multilineConditions
  | wrongMethodOrder | numberWithMeaninglessZero | positiveExponent | wrongHexNumberCase
  | implicitRawString | badComplexNumberSuffix | zeroDivision | meaninglessNumberOperation
  | operationSignNegation
  -- Best practices
  | wrongMagicComment | wrongDocComment | overuseOfNoqaComment | overuseOfNoCoverComment
  | complexDefaultValue | loopVariableDefinition | contextManagerVariableDefinition
  | mutableModuleConstant | sameElementsInCondition | heterogenousCompare | wrongModuleMetadata
  | emptyModule | initModuleHasLogic | badMagicModuleFunction | wrongUnpacking
  | duplicateException | yieldInComprehension | nonUniqueItemsInHash | baseExceptionSubclass
  | tryExceptMultipleReturnPath | wrongKeyword | wrongFunctionCall | futureImport
  | raiseNotImplemented | baseException | booleanPositionalArgument | lambdaInsideLoop
  | unreachableCode | statementHasNoEffect | multipleAssignments | nestedFunction | nestedClass
  | magicNumber | nestedImport | reassigningVariableToItself | yieldInsideInit | protectedModule
  | protectedAttribute | stopIterationInsideGenerator | wrongUnicodeEscape | blockAndLocalOverlap
  | controlVarUsedAfterBlock | outerScopeShadowing | unhashableTypeInHash | listMultiply
  -- Refactoring
  | uselessLoopElse | uselessFinally | simplifiableIf | uselessReturningElse | negatedConditions
  | nestedTry | uselessLambda | uselessLenCompare | notOperatorWithCompare | nestedTernary
  | wrongInCompareType | unmergedIsinstanceCalls | wrongIsinstanceWithTuple | implicitElif
  | implicitInCondition
  -- Classes and methods
  | builtinSubclass | shadowedClassAttribute | staticMethod | badMagicMethod
  | wrongClassBodyContent | methodWithoutArguments | wrongBaseClass | wrongSlots | wrongSuperCall
  | directMagicAttributeAccess | asyncMagicMethod | uselessOverwrittenMethod
  deriving DecidableEq

/-- An entry of the catalogue. `detailed` says that the message ends with a detail. -/
structure Description where
  title : String
  category : Category
  anchor : Anchor
  code : Nat
  message : String
  detailed : Bool
  formerCodes : List Nat

namespace Violation

/-- The catalogue. -/
def describe : Violation → Description
  | wrongModuleName =>
    ⟨"WrongModuleName", .naming, .nowhere, 100,
      "Found wrong module name", false, []⟩
  | wrongModuleMagicName =>
    ⟨"WrongModuleMagicName", .naming, .nowhere, 101,
      "Found wrong module magic name", false, []⟩
  | wrongModuleNamePattern =>
    ⟨"WrongModuleNamePattern", .naming, .nowhere, 102,
      "Found incorrect module name pattern", false, []⟩
  | wrongVariableName =>
    ⟨"WrongVariableName", .naming, .node, 110,
      "Found wrong variable name: ", true, []⟩
  | tooShortName =>
    ⟨"TooShortName", .naming, .maybeNode, 111,
      "Found too short name: ", true, []⟩
  | privateName =>
    ⟨"PrivateName", .naming, .maybeNode, 112,
      "Found private name pattern: ", true, []⟩
  | sameAliasImport =>
    ⟨"SameAliasImport", .naming, .node, 113,
      "Found same alias import: ", true, []⟩
  | underscoredNumberName =>
    ⟨"UnderscoredNumberName", .naming, .maybeNode, 114,
      "Found underscored name pattern: ", true, []⟩
  | upperCaseAttribute =>
    ⟨"UpperCaseAttribute", .naming, .node, 115,
      "Found upper-case constant in a class: ", true, []⟩
  | consecutiveUnderscoresInName =>
    ⟨"ConsecutiveUnderscoresInName", .naming, .maybeNode, 116,
      "Found consecutive underscores name: ", true, []⟩
  | reservedArgumentName =>
    ⟨"ReservedArgumentName", .naming, .node, 117,
      "Found name reserved for first argument: ", true, []⟩
  | tooLongName =>
    ⟨"TooLongName", .naming, .maybeNode, 118,
      "Found too long name: ", true, []⟩
  | unicodeName =>
    ⟨"UnicodeName", .naming, .maybeNode, 119,
      "Found unicode name: ", true, []⟩
  | trailingUnderscore =>
    ⟨"TrailingUnderscore", .naming, .node, 120,
      "Found regular name with trailing underscore: ", true, []⟩
  | unusedVariableIsUsed =>
    ⟨"UnusedVariableIsUsed", .naming, .node, 121,
      "Found usage of a variable marked as unused: ", true, []⟩
  | unusedVariableIsDefined =>
    ⟨"UnusedVariableIsDefined", .naming, .node, 122,
      "Found all unused variables definition: ", true, []⟩
  | wrongUnusedVariableName =>
    ⟨"WrongUnusedVariableName", .naming, .node, 123,
      "Found wrong unused variable name: ", true, []⟩
  | jonesScore =>
    ⟨"JonesScore", .complexity, .nowhere, 200,
      "Found module with high Jones Complexity score: ", true, []⟩
  | tooManyImports =>
    ⟨"TooManyImports", .complexity, .nowhere, 201,
      "Found module with too many imports: ", true, []⟩
  | tooManyModuleMembers =>
    ⟨"TooManyModuleMembers", .complexity, .nowhere, 202,
      "Found too many module members: ", true, []⟩
  | tooManyImportedNames =>
    ⟨"TooManyImportedNames", .complexity, .nowhere, 203,
      "Found module with too many imported names: ", true, []⟩
  | overusedExpression =>
    ⟨"OverusedExpression", .complexity, .node, 204,
      "Found overused expression: ", true, []⟩
  | tooManyLocals =>
    ⟨"TooManyLocals", .complexity, .node, 210,
      "Found too many local variables: ", true, []⟩
  | tooManyArguments =>
    ⟨"TooManyArguments", .complexity, .node, 211,
      "Found too many arguments: ", true, []⟩
  | tooManyReturns =>
    ⟨"TooManyReturns", .complexity, .node, 212,
      "Found too many return statements: ", true, []⟩
  | tooManyExpressions =>
    ⟨"TooManyExpressions", .complexity, .node, 213,
      "Found too many expressions: ", true, []⟩
  | tooManyMethods =>
    ⟨"TooManyMethods", .complexity, .node, 214,
      "Found too many methods: ", true, []⟩
  | tooManyBaseClasses =>
    ⟨"TooManyBaseClasses", .complexity, .node, 215,
      "Too many base classes: ", true, []⟩
  | tooManyDecorators =>
    ⟨"TooManyDecorators", .complexity, .node, 216,
      "Too many decorators: ", true, []⟩
  | tooManyAwaits =>
    ⟨"TooManyAwaits", .complexity, .node, 217,
      "Found too many await expressions: ", true, []⟩
  | tooManyAsserts =>
    ⟨"TooManyAsserts", .complexity, .node, 218,
      "Found too many `assert` statements: ", true, []⟩
  | tooDeepNesting =>
    ⟨"TooDeepNesting", .complexity, .node, 220,
      "Found too deep nesting: ", true, []⟩
  | lineComplexity =>
    ⟨"LineComplexity", .complexity, .node, 221,
      "Found line with high Jones Complexity: ", true, []⟩
  | tooManyConditions =>
    ⟨"TooManyConditions", .complexity, .node, 222,
      "Found a condition with too much logic: ", true, []⟩
  | tooManyElifs =>
    ⟨"TooManyElifs", .complexity, .node, 223,
      "Found too many `elif` branches: ", true, []⟩
  | tooManyForsInComprehension =>
    ⟨"TooManyForsInComprehension", .complexity, .node, 224,
      "Found a comprehension with too many `for` statements", false, []⟩
  | tooManyExceptCases =>
    ⟨"TooManyExceptCases", .complexity, .node, 225,
      "Found too many `except` cases", false, []⟩
  | overusedString =>
    ⟨"OverusedString", .complexity, .maybeNode, 226,
      "Found string constant over-use: ", true, []⟩
  | tooLongYieldTuple =>
    ⟨"TooLongYieldTuple", .complexity, .node, 227,
      "Found too long yield tuple: ", true, []⟩
  | tooLongCompare =>
    ⟨"TooLongCompare", .complexity, .node, 228,
      "Found too long compare", false, []⟩
  | tooLongTryBody =>
    ⟨"TooLongTryBody", .complexity, .node, 229,
      "Found too long ``try`` body length: ", true, []⟩
  | localFolderImport =>
    ⟨"LocalFolderImport", .consistency, .node, 300,
      "Found local folder import", false, []⟩
  | dottedRawImport =>
    ⟨"DottedRawImport", .consistency, .node, 301,
      "Found dotted raw import: ", true, []⟩
  | unicodeString =>
    ⟨"UnicodeString", .consistency, .token, 302,
      "Found unicode string prefix: ", true, []⟩
  | underscoredNumber =>
    ⟨"UnderscoredNumber", .consistency, .token, 303,
      "Found underscored number: ", true, []⟩
  | partialFloat =>
    ⟨"PartialFloat", .consistency, .token, 304,
      "Found partial float: ", true, []⟩
  | formattedString =>
    ⟨"FormattedString", .consistency, .node, 305,
      "Found `f` string", false, []⟩
  | requiredBaseClass =>
    ⟨"RequiredBaseClass", .consistency, .node, 306,
      "Found class without a base class: ", true, []⟩
  | multipleIfsInComprehension =>
    ⟨"MultipleIfsInComprehension", .consistency, .node, 307,
      "Found list comprehension with multiple `if`s", false, []⟩
  | constantCompare =>
    ⟨"ConstantCompare", .consistency, .node, 308,
      "Found constant compare", false, []⟩
  | compareOrder =>
    ⟨"CompareOrder", .consistency, .node, 309,
      "Found reversed compare order", false, []⟩
  | badNumberSuffix =>
    ⟨"BadNumberSuffix", .consistency, .token, 310,
      "Found bad number suffix: ", true, []⟩
  | multipleInCompare =>
    ⟨"MultipleInCompare", .consistency, .node, 311,
      "Found multiple `in` compares", false, []⟩
  | uselessCompare =>
    ⟨"UselessCompare", .consistency, .node, 312,
      "Found compare between same variable", false, []⟩
  | missingSpaceBetweenKeywordAndParen =>
    ⟨"MissingSpaceBetweenKeywordAndParen", .consistency, .token, 313,
      "Found parens right after a keyword", false, []⟩
  | constantCondition =>
    ⟨"ConstantCondition", .consistency, .node, 314,
      "Conditional always evaluates to same result", false, []⟩
  | objectInBaseClassesList =>
    ⟨"ObjectInBaseClassesList", .consistency, .node, 315,
      "Founded extra `object` in parent classes list", false, []⟩
  | multipleContextManagerAssignments =>
    ⟨"MultipleContextManagerAssignments", .consistency, .node, 316,
      "Found context manager with too many assignments", false, []⟩
  | parametersIndentation =>
    ⟨"ParametersIndentation", .consistency, .node, 317,
      "Found incorrect multi-line parameters", false, []⟩
  | extraIndentation =>
    ⟨"ExtraIndentation", .consistency, .token, 318,
      "Found extra indentation", false, []⟩
  | wrongBracketPosition =>
    ⟨"WrongBracketPosition", .consistency, .token, 319,
      "Found bracket in wrong position", false, []⟩
  | multilineFunctionHint =>
    ⟨"MultilineFunctionAnnotation", .consistency, .node, 320,
      "Found multi-line function type annotation", false, []⟩
  | uppercaseStringModifier =>
    ⟨"UppercaseStringModifier", .consistency, .token, 321,
      "Found uppercase string modifier: ", true, []⟩
  | wrongMultilineString =>
    ⟨"WrongMultilineString", .consistency, .token, 322,
      "Found incorrect multi-line string", false, []⟩
  | emptyLineAfterCoding =>
    ⟨"EmptyLineAfterCoding", .consistency, .token, 323,
      "Found missing empty line between `coding` magic comment and code", false, []⟩
  | inconsistentReturn =>
    ⟨"InconsistentReturn", .consistency, .node, 324,
      "Found inconsistent `return` statement", false, []⟩
  | inconsistentYield =>
    ⟨"InconsistentYield", .consistency, .node, 325,
      "Found inconsistent `yield` statement", false, []⟩
  | implicitStringConcatenation =>
    ⟨"ImplicitStringConcatenation", .consistency, .token, 326,
      "Found implicit string concatenation", false, []⟩
  | uselessContinue =>
    ⟨"UselessContinue", .consistency, .node, 327,
      "Found useless `continue` at the end of the loop", false, []⟩
  | uselessNode =>
    ⟨"UselessNode", .consistency, .node, 328,
      "Found useless node: ", true, []⟩
  | uselessExceptCase =>
    ⟨"UselessExceptCase", .consistency, .node, 329,
      "Found useless `except` case", false, []⟩
  | uselessOperators =>
    ⟨"UselessOperators", .consistency, .node, 330,
      "Found unnecessary operator: ", true, []⟩
  | inconsistentReturnVariable =>
    ⟨"InconsistentReturnVariable", .consistency, .node, 331,
      "Found local variable that are only used in `return` statements", false, []⟩
  | implicitTernary =>
    ⟨"ImplicitTernary", .consistency, .node, 332,
      "Found implicit ternary expression", false, []⟩
  | implicitComplexCompare =>
    ⟨"ImplicitComplexCompare", .consistency, .node, 333,
      "Found implicit complex compare", false, []⟩
  | reversedComplexCompare =>
    ⟨"ReversedComplexCompare", .consistency, .node, 334,
      "Found reversed complex compare", false, []⟩
  | wrongLoopIterType =>
    ⟨"WrongLoopIterType", .consistency, .node, 335,
      "Found incorrect `for` loop iter type", false, []⟩
  | explicitStringConcat =>
    ⟨"ExplicitStringConcat", .consistency, .node, 336,
      "Found explicit string concat", false, []⟩
  | multilineConditions =>
    ⟨"MultilineConditions", .consistency, .node, 337,
      "Found multiline conditions", false, [465]⟩
  | wrongMethodOrder =>
    ⟨"WrongMethodOrder", .consistency, .node, 338,
      "Found incorrect order of methods in a class", false, []⟩
  | numberWithMeaninglessZero =>
    ⟨"NumberWithMeaninglessZero", .consistency, .token, 339,
      "Found number with meaningless zeros: ", true, []⟩
  | positiveExponent =>
    ⟨"PositiveExponent", .consistency, .token, 340,
      "Found exponent number with positive exponent: ", true, []⟩
  | wrongHexNumberCase =>
    ⟨"WrongHexNumberCase", .consistency, .token, 341,
      "Found wrong hex number case: ", true, []⟩
  | implicitRawString =>
    ⟨"ImplicitRawString", .consistency, .token, 342,
      "Found implicit raw string: ", true, []⟩
  | badComplexNumberSuffix =>
    ⟨"BadComplexNumberSuffix", .consistency, .token, 343,
      "Found wrong complex number suffix: ", true, []⟩
  | zeroDivision =>
    ⟨"ZeroDivision", .consistency, .node, 344,
      "Found explicit zero division", false, []⟩
  | meaninglessNumberOperation =>
    ⟨"MeaninglessNumberOperation", .consistency, .node, 345,
      "Found meaningless number operation", false, []⟩
  | operationSignNegation =>
    ⟨"OperationSignNegation", .consistency, .node, 346,
      "Found wrong operation sign", false, []⟩
  | wrongMagicComment =>
    ⟨"WrongMagicComment", .bestPractices, .nowhere, 400,
      "Found wrong magic comment: ", true, []⟩
  | wrongDocComment =>
    ⟨"WrongDocComment", .bestPractices, .token, 401,
      "Found wrong doc comment", false, []⟩
  | overuseOfNoqaComment =>
    ⟨"OveruseOfNoqaComment", .bestPractices, .nowhere, 402,
      "Found `noqa` comments overuse: ", true, []⟩
  | overuseOfNoCoverComment =>
    ⟨"OveruseOfNoCoverComment", .bestPractices, .nowhere, 403,
      "Found `noqa` comments overuse: ", true, []⟩
  | complexDefaultValue =>
    ⟨"ComplexDefaultValue", .bestPractices, .node, 404,
      "Found complex default value", false, [459]⟩
  | loopVariableDefinition =>
    ⟨"LoopVariableDefinition", .bestPractices, .node, 405,
      "Found wrong `for` loop variable definition", false, [460]⟩
  | contextManagerVariableDefinition =>
    ⟨"ContextManagerVariableDefinition", .bestPractices, .node, 406,
      "Found wrong context manager variable definition", false, [461]⟩
  | mutableModuleConstant =>
    ⟨"MutableModuleConstant", .bestPractices, .node, 407,
      "Found mutable module constant", false, [466]⟩
  | sameElementsInCondition =>
    ⟨"SameElementsInCondition", .bestPractices, .node, 408,
      "Found duplicate logical condition", false, [469]⟩
  | heterogenousCompare =>
    ⟨"HeterogenousCompare", .bestPractices, .node, 409,
      "Found heterogenous compare", false, [471]⟩
  | wrongModuleMetadata =>
    ⟨"WrongModuleMetadata", .bestPractices, .node, 410,
      "Found wrong metadata variable: ", true, []⟩
  | emptyModule =>
    ⟨"EmptyModule", .bestPractices, .nowhere, 411,
      "Found empty module", false, []⟩
  | initModuleHasLogic =>
    ⟨"InitModuleHasLogic", .bestPractices, .nowhere, 412,
      "Found `__init__.py` module with logic", false, []⟩
  | badMagicModuleFunction =>
    ⟨"BadMagicModuleFunction", .bestPractices, .node, 413,
      "Found bad magic module function: ", true, []⟩
  | wrongUnpacking =>
    ⟨"WrongUnpacking", .bestPractices, .node, 414,
      "Found incorrect unpacking target", false, [446]⟩
  | duplicateException =>
    ⟨"DuplicateException", .bestPractices, .node, 415,
      "Found duplicate exception: ", true, [447]⟩
  | yieldInComprehension =>
    ⟨"YieldInComprehension", .bestPractices, .node, 416,
      "Found `yield` inside comprehension", false, [448]⟩
  | nonUniqueItemsInHash =>
    ⟨"NonUniqueItemsInHash", .bestPractices, .node, 417,
      "Found non-unique item in hash: ", true, [449]⟩
  | baseExceptionSubclass =>
    ⟨"BaseExceptionSubclass", .bestPractices, .node, 418,
      "Found exception inherited from `BaseException`", false, [450]⟩
  | tryExceptMultipleReturnPath =>
    ⟨"TryExceptMultipleReturnPath", .bestPractices, .node, 419,
      "Found `try`/`else`/`finally` with multiple return paths", false, [458]⟩
  | wrongKeyword =>
    ⟨"WrongKeyword", .bestPractices, .node, 420,
      "Found wrong keyword: ", true, []⟩
  | wrongFunctionCall =>
    ⟨"WrongFunctionCall", .bestPractices, .node, 421,
      "Found wrong function call: ", true, []⟩
  | futureImport =>
    ⟨"FutureImport", .bestPractices, .node, 422,
      "Found future import: ", true, []⟩
  | raiseNotImplemented =>
    ⟨"RaiseNotImplemented", .bestPractices, .node, 423,
      "Found raise NotImplemented", false, []⟩
  | baseException =>
    ⟨"BaseException", .bestPractices, .node, 424,
      "Found except `BaseException`", false, []⟩
  | booleanPositionalArgument =>
    ⟨"BooleanPositionalArgument", .bestPractices, .node, 425,
      "Found boolean non-keyword argument: ", true, []⟩
  | lambdaInsideLoop =>
    ⟨"LambdaInsideLoop", .bestPractices, .node, 426,
      "Found `lambda` in loop's body", false, [442]⟩
  | unreachableCode =>
    ⟨"UnreachableCode", .bestPractices, .node, 427,
      "Found unreachable code", false, [443]⟩
  | statementHasNoEffect =>
    ⟨"StatementHasNoEffect", .bestPractices, .node, 428,
      "Found statement that has no effect", false, [444]⟩
  | multipleAssignments =>
    ⟨"MultipleAssignments", .bestPractices, .node, 429,
      "Found multiple assign targets", false, [445]⟩
  | nestedFunction =>
    ⟨"NestedFunction", .bestPractices, .node, 430,
      "Found nested function: ", true, []⟩
  | nestedClass =>
    ⟨"NestedClass", .bestPractices, .node, 431,
      "Found nested class: ", true, []⟩
  | magicNumber =>
    ⟨"MagicNumber", .bestPractices, .node, 432,
      "Found magic number: ", true, []⟩
  | nestedImport =>
    ⟨"NestedImport", .bestPractices, .node, 433,
      "Found nested import", false, [435]⟩
  | reassigningVariableToItself =>
    ⟨"ReassigningVariableToItself", .bestPractices, .node, 434,
      "Found reassigning variable to itself: ", true, [438]⟩
  | yieldInsideInit =>
    ⟨"YieldInsideInit", .bestPractices, .node, 435,
      "Found `yield` inside `__init__` method", false, [439]⟩
  | protectedModule =>
    ⟨"ProtectedModule", .bestPractices, .node, 436,
      "Found protected module import", false, [440]⟩
  | protectedAttribute =>
    ⟨"ProtectedAttribute", .bestPractices, .node, 437,
      "Found protected attribute usage: ", true, [441]⟩
  | stopIterationInsideGenerator =>
    ⟨"StopIterationInsideGenerator", .bestPractices, .node, 438,
      "Found `StopIteration` raising inside generator", false, []⟩
  | wrongUnicodeEscape =>
    ⟨"WrongUnicodeEscape", .bestPractices, .token, 439,
      "Found unicode escape in a binary string: ", true, []⟩
  | blockAndLocalOverlap =>
    ⟨"BlockAndLocalOverlap", .bestPractices, .node, 440,
      "Found block variables overlap: ", true, []⟩
  | controlVarUsedAfterBlock =>
    ⟨"ControlVarUsedAfterBlock", .bestPractices, .node, 441,
      "Found control variable used after block: ", true, []⟩
  | outerScopeShadowing =>
    ⟨"OuterScopeShadowing", .bestPractices, .node, 442,
      "Found outer scope names shadowing: ", true, []⟩
  | unhashableTypeInHash =>
    ⟨"UnhashableTypeInHash", .bestPractices, .node, 443,
      "Found unhashable item", false, []⟩
  | listMultiply =>
    ⟨"ListMultiply", .bestPractices, .node, 444,
      "Found list multiply", false, []⟩
  | uselessLoopElse =>
    ⟨"UselessLoopElse", .refactoring, .node, 500,
      "Found `else` in a loop without `break`", false, [436]⟩
  | uselessFinally =>
    ⟨"UselessFinally", .refactoring, .node, 501,
      "Found `finally` in `try` block without `except`", false, [437]⟩
  | simplifiableIf =>
    ⟨"SimplifiableIf", .refactoring, .node, 502,
      "Found simplifiable `if` condition", false, [451]⟩
  | uselessReturningElse =>
    ⟨"UselessReturningElse", .refactoring, .node, 503,
      "Found useless returning `else` statement", false, [457]⟩
  | negatedConditions =>
    ⟨"NegatedConditions", .refactoring, .node, 504,
      "Found negated condition", false, [463]⟩
  | nestedTry =>
    ⟨"NestedTry", .refactoring, .node, 505,
      "Found nested `try` block", false, [464]⟩
  | uselessLambda =>
    ⟨"UselessLambda", .refactoring, .node, 506,
      "Found useless lambda declaration", false, [467]⟩
  | uselessLenCompare =>
    ⟨"UselessLenCompare", .refactoring, .node, 507,
      "Found useless `len()` compare", false, [468]⟩
  | notOperatorWithCompare =>
    ⟨"NotOperatorWithCompare", .refactoring, .node, 508,
      "Found incorrect `not` with compare usage", false, [470]⟩
  | nestedTernary =>
    ⟨"NestedTernary", .refactoring, .node, 509,
      "Found incorrectly nested ternary", false, [472]⟩
  | wrongInCompareType =>
    ⟨"WrongInCompareType", .refactoring, .node, 510,
      "Found `in` used with a non-set container", false, [473]⟩
  | unmergedIsinstanceCalls =>
    ⟨"UnmergedIsinstanceCalls", .refactoring, .node, 511,
      "Found separate `isinstance` calls that can be merged for: ", true, [474]⟩
  | wrongIsinstanceWithTuple =>
    ⟨"WrongIsinstanceWithTuple", .refactoring, .node, 512,
      "Found `isinstance` call with a single element tuple", false, [475]⟩
  | implicitElif =>
    ⟨"ImplicitElif", .refactoring, .token, 513,
      "Found implicit `elif` condition", false, []⟩
  | implicitInCondition =>
    ⟨"ImplicitInCondition", .refactoring, .node, 514,
      "Found implicit `in` condition", false, [336]⟩
  | builtinSubclass =>
    ⟨"BuiltinSubclass", .objects, .node, 600,
      "Found subclassing a builtin: ", true, [426]⟩
  | shadowedClassAttribute =>
    ⟨"ShadowedClassAttribute", .objects, .node, 601,
      "Found shadowed class attribute: ", true, [427]⟩
  | staticMethod =>
    ⟨"StaticMethod", .objects, .node, 602,
      "Found using `@staticmethod`", false, [433]⟩
  | badMagicMethod =>
    ⟨"BadMagicMethod", .objects, .node, 603,
      "Found using restricted magic method: ", true, [434]⟩
  | wrongClassBodyContent =>
    ⟨"WrongClassBodyContent", .objects, .node, 604,
      "Found incorrect node inside `class` body", false, [452]⟩
  | methodWithoutArguments =>
    ⟨"MethodWithoutArguments", .objects, .node, 605,
      "Found method without arguments: ", true, [453]⟩
  | wrongBaseClass =>
    ⟨"WrongBaseClass", .objects, .node, 606,
      "Found incorrect base class", false, [454]⟩
  | wrongSlots =>
    ⟨"WrongSlots", .objects, .node, 607,
      "Found incorrect `__slots__` syntax", false, [455]⟩
  | wrongSuperCall =>
    ⟨"WrongSuperCall", .objects, .node, 608,
      "Found incorrect `super()` call: ", true, [456]⟩
  | directMagicAttributeAccess =>
    ⟨"DirectMagicAttributeAccess", .objects, .node, 609,
      "Found direct magic attribute usage: ", true, [462]⟩
  | asyncMagicMethod =>
    ⟨"AsyncMagicMethod", .objects, .node, 610,
      "Found forbidden async magic method usage: ", true, []⟩
  | uselessOverwrittenMethod =>
    ⟨"UselessOverwrittenMethod", .objects, .node, 611,
      "Found useless overwritten method: ", true, []⟩

/-- All violations in the order of the catalogue. -/
def all : List Violation := [
  .wrongModuleName, .wrongModuleMagicName, .wrongModuleNamePattern, .wrongVariableName,
  .tooShortName, .privateName, .sameAliasImport, .underscoredNumberName, .upperCaseAttribute,
  .consecutiveUnderscoresInName, .reservedArgumentName, .tooLongName, .unicodeName,
  .trailingUnderscore, .unusedVariableIsUsed, .unusedVariableIsDefined, .wrongUnusedVariableName,
  .jonesScore, .tooManyImports, .tooManyModuleMembers, .tooManyImportedNames, .overusedExpression,
  .tooManyLocals, .tooManyArguments, .tooManyReturns, .tooManyExpressions, .tooManyMethods,
  .tooManyBaseClasses, .tooManyDecorators, .tooManyAwaits, .tooManyAsserts, .tooDeepNesting,
  .lineComplexity, .tooManyConditions, .tooManyElifs, .tooManyForsInComprehension,
  .tooManyExceptCases, .overusedString, .tooLongYieldTuple, .tooLongCompare, .tooLongTryBody,
  .localFolderImport, .dottedRawImport, .unicodeString, .underscoredNumber, .partialFloat,
  .formattedString, .requiredBaseClass, .multipleIfsInComprehension, .constantCompare,
  .compareOrder, .badNumberSuffix, .multipleInCompare, .uselessCompare,
  .missingSpaceBetweenKeywordAndParen, .constantCondition, .objectInBaseClassesList,
  .multipleContextManagerAssignments, .parametersIndentation, .extraIndentation,
  .wrongBracketPosition, .multilineFunctionHint, .uppercaseStringModifier,
  .wrongMultilineString, .emptyLineAfterCoding, .inconsistentReturn, .inconsistentYield,
  .implicitStringConcatenation, .uselessContinue, .uselessNode, .uselessExceptCase,
  .uselessOperators, .inconsistentReturnVariable, .implicitTernary, .implicitComplexCompare,
  .reversedComplexCompare, .wrongLoopIterType, .explicitStringConcat, .multilineConditions,
  .wrongMethodOrder, .numberWithMeaninglessZero, .positiveExponent, .wrongHexNumberCase,
  .implicitRawString, .badComplexNumberSuffix, .zeroDivision, .meaninglessNumberOperation,
  .operationSignNegation, .wrongMagicComment, .wrongDocComment, .overuseOfNoqaComment,
  .overuseOfNoCoverComment, .complexDefaultValue, .loopVariableDefinition,
  .contextManagerVariableDefinition, .mutableModuleConstant, .sameElementsInCondition,
  .heterogenousCompare, .wrongModuleMetadata, .emptyModule, .initModuleHasLogic,
  .badMagicModuleFunction, .wrongUnpacking, .duplicateException, .yieldInComprehension,
  .nonUniqueItemsInHash, .baseExceptionSubclass, .tryExceptMultipleReturnPath, .wrongKeyword,
  .wrongFunctionCall, .futureImport, .raiseNotImplemented, .baseException,
  .booleanPositionalArgument, .lambdaInsideLoop, .unreachableCode, .statementHasNoEffect,
  .multipleAssignments, .nestedFunction, .nestedClass, .magicNumber, .nestedImport,
  .reassigningVariableToItself, .yieldInsideInit, .protectedModule, .protectedAttribute,
  .stopIterationInsideGenerator, .wrongUnicodeEscape, .blockAndLocalOverlap,
  .controlVarUsedAfterBlock, .outerScopeShadowing, .unhashableTypeInHash, .listMultiply,
  .uselessLoopElse, .uselessFinally, .simplifiableIf, .uselessReturningElse, .negatedConditions,
  .nestedTry, .uselessLambda, .uselessLenCompare, .notOperatorWithCompare, .nestedTernary,
  .wrongInCompareType, .unmergedIsinstanceCalls, .wrongIsinstanceWithTuple, .implicitElif,
  .implicitInCondition, .builtinSubclass, .shadowedClassAttribute, .staticMethod, .badMagicMethod,
  .wrongClassBodyContent, .methodWithoutArguments, .wrongBaseClass, .wrongSlots, .wrongSuperCall,
  .directMagicAttributeAccess, .asyncMagicMethod, .uselessOverwrittenMethod]

/-- The violation with a title. -/
def ofTitle? (title : String) : Option Violation :=
  all.find? fun v => v.describe.title == title

/-- The code as users write it: at least three digits after the letters. -/
def fullCode (v : Violation) : String :=
  let digits := toString v.describe.code
  "WPS" ++ String.ofList (List.replicate (3 - digits.length) '0') ++ digits

/-- The message with its code. A detail that is asked for and not given reads `None`. -/
def message (v : Violation) (detail : Option String) : String :=
  let d := v.describe
  v.fullCode ++ " " ++ d.message ++ (if d.detailed then detail.getD "None" else "")

end Violation

end Stricture
