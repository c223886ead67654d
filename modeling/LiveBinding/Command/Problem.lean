import LiveBinding.Command.Assignment
import LiveBinding.Context.Tree
import LiveBinding.Engine.Effect
import LiveBinding.Settings.Reader

/-!
# Problems of a command

Why a command ends without all of its answers, and what it finds in files.
-/

namespace LiveBinding.Command

/-- Why a file cannot be read. -/
inductive FileFault where
  | missing
  | unreadable (reason : String)
  deriving DecidableEq, Repr

/-- The wording of a fault of a file. -/
def FileFault.message : FileFault → String
  | .missing => "No such file or directory (os error 2)"
  | .unreadable reason => reason

/-- The contents of files by their paths. -/
abbrev Files : Type := String → Except FileFault String

/-- The kind of a document that is no object. -/
def documentKind : Json → String
  | .null => "null"
  | .bool _ => "a boolean"
  | .number _ => "a number"
  | .string _ => "a string"
  | .array _ => "an array"
  | .object _ => "an object"

/-- Why a command ends early. -/
inductive Problem where
  | settingsFile (path : String) (fault : FileFault)
  | settingsInvalid
  | expression (text : String) (error : ParseError)
  | assignment (text : String) (fault : Assignment.Fault)
  | contextFile (path : String) (fault : FileFault)
  | contextNoDocument (path : String)
  | contextNoObject (path kind : String)
  | tree (error : Tree.Error)
  | write (error : WriteError)

/-- The wording of a problem. -/
def Problem.message : Problem → String
  | .settingsFile path fault =>
    "cannot read config file '" ++ path ++ "': " ++ fault.message
  | .settingsInvalid => "invalid config: not a document of settings"
  | .expression text error => "invalid expression '" ++ text ++ "': " ++ error.message
  | .assignment text fault => fault.message text
  | .contextFile path fault => "error reading file '" ++ path ++ "': " ++ fault.message
  | .contextNoDocument path => "error parsing JSON in '" ++ path ++ "': not a document"
  | .contextNoObject path kind =>
    "context file '" ++ path ++ "' must hold a JSON object, found " ++ kind
  | .tree error => error.message
  | .write error => error.message

/-- The settings in a file, if one is named. -/
def loadSettings (files : Files) : Option String → Except Problem Settings
  | none => .ok {}
  | some path =>
    match files path with
    | .error fault => .error (.settingsFile path fault)
    | .ok text =>
      match Settings.read? text with
      | none => .error .settingsInvalid
      | some settings => .ok settings

/-- The contexts that the fields of an object stand for. -/
def contextsOf (fields : Fields Json) : List Context :=
  fields.map fun field => ⟨field.1, .ofJson field.2⟩

/-- The contexts in a file, if one is named. -/
def loadContexts (files : Files) : Option String → Except Problem (List Context)
  | none => .ok []
  | some path =>
    match files path with
    | .error fault => .error (.contextFile path fault)
    | .ok text =>
      match Json.read? text with
      | none => .error (.contextNoDocument path)
      | some (.object fields) => .ok (contextsOf fields)
      | some document => .error (.contextNoObject path (documentKind document))

/-- An expression is read before anything else is done; of a template nothing can be wrong. -/
def checkText (text : String) (template : Bool) : Except Problem Unit :=
  if template then .ok ()
  else
    match Expr.read text with
    | .ok _ => .ok ()
    | .error error => .error (.expression text error)

/-- The assignments that some texts are. -/
def readAssignments : List String → Except Problem (List Assignment)
  | [] => .ok []
  | text :: rest =>
    match Assignment.read text with
    | .error fault => .error (.assignment text fault)
    | .ok assignment => (readAssignments rest).map (assignment :: ·)

end LiveBinding.Command
