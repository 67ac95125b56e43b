import RobotCell.Cell.Action
import RobotCell.Script.Lookup
import RobotCell.Script.StmtCheck

/-!
# What a compilation can fail with

## Main definitions

- `CompileError` — the causes
- `CompileError.message`, `CompileError.kind` — the wording of a cause and its name in reports
-/

namespace RobotCell

/-- Why actions do not form one path. -/
inductive PathFault where
  | cycle (action : String)
  | noSuccessor (action : String)
  | notReachable (actions : List String)
  | notCalled (actions : List String)
  deriving DecidableEq

/-- The wording of a fault. -/
def PathFault.message : PathFault → String
  | .cycle action => "cycle through action `" ++ action ++ "`"
  | .noSuccessor action => "action `" ++ action ++ "` has no successor"
  | .notReachable actions =>
    "actions not reachable from 'start': " ++ Text.joinWith ", " actions
  | .notCalled actions =>
    "actions not called from the main loop: " ++ Text.joinWith ", " actions

/-- Why the parameters of an action do not fit its method. -/
inductive ParameterFault where
  | missing (name : String)
  | wrongType (name found expected : String)
  | unknown (name : String)
  deriving DecidableEq

/-- The wording of a fault. -/
def ParameterFault.message : ParameterFault → String
  | .missing name => "missing parameter `" ++ name ++ "`"
  | .wrongType name found expected =>
    "parameter `" ++ name ++ "` has type `" ++ found ++ "`, expected `" ++ expected ++ "`"
  | .unknown name => "unknown parameter `" ++ name ++ "`"

/-- What a compilation can fail with. -/
inductive CompileError where
  | source (e : Script.SourceError)
  /-- A script was built that cannot be printed. -/
  | render (e : Script.RenderError)
  | cell (e : CellError)
  | startActionNotFound
  | endActionNotFound
  | multipleStartActions (ids : List String)
  | multipleEndActions (ids : List String)
  | unknownAction (id : String)
  | brokenChain (fault : PathFault)
  | invalidActionId (id : String)
  | unknownObject (action object : String)
  | unknownObjectAction (type method : String)
  | parameterMismatch (action : String) (fault : ParameterFault)
  | duplicateObjectId (id : String)
  | ambiguousObjectName (name first second : String)
  | invalidParameterName (name : String)
  | noActionCalls
  | unexpectedContent (text : String)
  | duplicateAction (id : String)
  | actionTypeMismatch (type found : String)
  | noClassDefinition
  | multipleClassDefinitions
  | multipleBases (cls : String)
  | invalidDescription (cls : String)
  | unknownFlag (method flag : String)
  | invalidFlagValue (method flag : String)
  | invalidFlags (method : String)
  | missingFlags (method : String)
  | missingDecorator (method : String)
  | untypedArgument (method arg : String)
  | unsupportedArgument (method arg : String)
  | invalidTypeReference (reference : String)
  deriving DecidableEq

namespace CompileError

/-- The wording of an error. -/
def message : CompileError → String
  | .source e => e.message
  | .render e => "internal error while rendering the program: " ++ e.message
  | .cell e => e.message
  | .startActionNotFound => "'start' action not found"
  | .endActionNotFound => "'end' action not found"
  | .multipleStartActions ids => "more than one 'start' action: " ++ Text.joinWith ", " ids
  | .multipleEndActions ids => "more than one 'end' action: " ++ Text.joinWith ", " ids
  | .unknownAction id => "unknown action `" ++ id ++ "`"
  | .brokenChain fault => "broken action chain: " ++ fault.message
  | .invalidActionId id => "action id `" ++ id ++ "` is not usable as a resource attribute"
  | .unknownObject action object =>
    "action `" ++ action ++ "` refers to unknown object `" ++ object ++ "`"
  | .unknownObjectAction type method =>
    "object type `" ++ type ++ "` has no action `" ++ method ++ "`"
  | .parameterMismatch action fault =>
    "parameters of action `" ++ action ++ "` do not match: " ++ fault.message
  | .duplicateObjectId id => "duplicate object id `" ++ id ++ "` in scene"
  | .ambiguousObjectName name first second =>
    "objects `" ++ first ++ "` and `" ++ second ++ "` both map to variable `" ++ name ++ "`"
  | .invalidParameterName name => "resource parameter `" ++ name ++ "` is not a valid identifier"
  | .noActionCalls => "unexpected content in the main loop: main loop holds no action calls"
  | .unexpectedContent text => "unexpected content in the main loop: " ++ text
  | .duplicateAction id => "action `" ++ id ++ "` is called more than once"
  | .actionTypeMismatch type found =>
    "action type `" ++ type ++ "` does not match the program, which calls `" ++ found ++ "`"
  | .noClassDefinition => "no class definition found"
  | .multipleClassDefinitions => "more than one class definition found"
  | .multipleBases cls =>
    "class `" ++ cls ++ "` has more than one base; only one base class is supported"
  | .invalidDescription cls => "`__DESCRIPTION__` of class `" ++ cls ++ "` must be a string"
  | .unknownFlag method flag =>
    "unknown `__action__` flag `" ++ flag ++ "` on method `" ++ method ++ "`"
  | .invalidFlagValue method flag =>
    "`__action__` flag `" ++ flag ++ "` of method `" ++ method ++ "` must be True or False"
  | .invalidFlags method =>
    "`__action__` of method `" ++ method ++
      "` must be an `ActionMetadata(...)` call with keyword flags"
  | .missingFlags method =>
    "method `" ++ method ++ "` has an `@action` decorator but no metadata"
  | .missingDecorator method =>
    "method `" ++ method ++ "` has metadata but no `@action` decorator"
  | .untypedArgument method arg =>
    "argument `" ++ arg ++ "` of method `" ++ method ++ "` is not annotated"
  | .unsupportedArgument method arg =>
    "argument `" ++ arg ++ "` of method `" ++ method ++
      "` is variadic; actions take named arguments only"
  | .invalidTypeReference reference =>
    "invalid type reference `" ++ reference ++ "`, expected `<module>/<Class>`"

/-- The name of an error in reports. -/
def kind : CompileError → String
  | .source (.syntaxError _) => "parse"
  | .source _ => "source_structure"
  | .render _ => "render"
  | .cell (.invalidActionType _) => "invalid_action_type"
  | .cell (.duplicateActionId _) => "duplicate_action_id"
  | .cell (.unknownObjectType _) => "unknown_object_type"
  | .cell (.baseChainCycle _) => "base_chain_cycle"
  | .startActionNotFound => "start_action_not_found"
  | .endActionNotFound => "end_action_not_found"
  | .multipleStartActions _ => "multiple_start_actions"
  | .multipleEndActions _ => "multiple_end_actions"
  | .unknownAction _ => "unknown_action"
  | .brokenChain _ => "broken_chain"
  | .invalidActionId _ => "invalid_action_id"
  | .unknownObject _ _ => "unknown_object"
  | .unknownObjectAction _ _ => "unknown_object_action"
  | .parameterMismatch _ _ => "parameter_mismatch"
  | .duplicateObjectId _ => "duplicate_object_id"
  | .ambiguousObjectName _ _ _ => "ambiguous_object_name"
  | .invalidParameterName _ => "invalid_parameter_name"
  | .noActionCalls => "unexpected_content"
  | .unexpectedContent _ => "unexpected_content"
  | .duplicateAction _ => "duplicate_action"
  | .actionTypeMismatch _ _ => "action_type_mismatch"
  | .noClassDefinition => "no_class_definition"
  | .multipleClassDefinitions => "multiple_class_definitions"
  | .multipleBases _ => "multiple_bases"
  | .invalidDescription _ => "invalid_description"
  | .unknownFlag _ _ => "unknown_metadata_flag"
  | .invalidFlagValue _ _ => "invalid_metadata_value"
  | .invalidFlags _ => "invalid_metadata"
  | .missingFlags _ => "missing_metadata"
  | .missingDecorator _ => "missing_action_decorator"
  | .untypedArgument _ _ => "unannotated_argument"
  | .unsupportedArgument _ _ => "unsupported_argument"
  | .invalidTypeReference _ => "invalid_type_reference"

/-- The error is a fault of the compiler and not of its input. -/
def isInternal : CompileError → Bool
  | .render _ => true
  | _ => false

/-- A result of an edit or a look-up as a result of a compilation. -/
def ofSource {α : Type} : Except Script.SourceError α → Except CompileError α
  | .ok a => .ok a
  | .error e => .error (.source e)

/-- A result of printing as a result of a compilation. -/
def ofRender {α : Type} : Except Script.RenderError α → Except CompileError α
  | .ok a => .ok a
  | .error e => .error (.render e)

/-- A result about a cell as a result of a compilation. -/
def ofCell {α : Type} : Except CellError α → Except CompileError α
  | .ok a => .ok a
  | .error e => .error (.cell e)

/-- The tree of a script. -/
def parseScript (text : String) : Except CompileError Script.Block :=
  match Script.parse text with
  | .ok script => .ok script
  | .error e => .error (.source (.syntaxError e))

end CompileError

end RobotCell
