import LiveBinding.Command.Report
import LiveBinding.Engine.Run

/-!
# Running a command

A command works on an engine with a single node that declares the contexts of a file. Watching
binds a text on this node, does the assignments one after the other, and says what the listener
is told. It ends with the first assignment that cannot be done.
-/

namespace LiveBinding.Command

/-- An engine whose listener only listens. -/
abbrev Machine : Type := Engine Unit Unit

/-- The listener asks for nothing. -/
def silent : Listen Unit Unit := fun _ _ memory => ([], memory)

/-- Declare contexts on a node. -/
def declareAll (node : NodeId) : List Context → Machine → Except Problem Machine
  | [], engine => .ok engine
  | context :: rest, engine =>
    let step := engine.declare silent node context
    match step.answer with
    | .error error => .error (.tree error)
    | .ok _ => declareAll node rest step.engine

/-- An engine with one node that declares the contexts, and that node. -/
def engineOver (settings : Settings) (contexts : List Context) :
    Except Problem (Machine × NodeId) :=
  let step := (Engine.new settings () : Machine).attach none
  match step.answer with
  | .error error => .error (.tree error)
  | .ok node => (declareAll node contexts step.engine).map fun engine => (engine, node)

/-- The value of a text on a node. -/
def valueOn (engine : Machine) (node : NodeId) (text : String) (template : Bool) : Value :=
  if template then (engine.evaluateTemplateText node text).answer
  else (engine.evaluateText node text).answer

/-- Bind a text on a node. -/
def bindOn (engine : Machine) (node : NodeId) (text : String) (template : Bool) :
    Step Unit Unit (Except Tree.Error Bound) :=
  if template then engine.bindTemplate node text () else engine.bind node text ()

/-- The values that the listener was told. -/
def toldValues (journal : List Event) : List Value :=
  journal.filterMap fun event =>
    match event with
    | .notified notification => some notification.value
    | _ => none

/-- Do assignments from a node on, and say what the listener is told. -/
def follow (node : NodeId) : List Assignment → Machine → Reports
  | [], _ => .all []
  | assignment :: rest, engine =>
    let step := engine.write silent
      ⟨node, assignment.contextId, assignment.path, assignment.value, none⟩
    match step.answer with
    | .error error => .ended (.write error)
    | .ok _ =>
      let reports := follow node rest step.engine
      ⟨(toldValues step.journal).map (.notified assignment.label) ++ reports.said,
        reports.problem⟩

/-- Watch a text while assignments are done. -/
def watch (settings : Settings) (contexts : List Context) (text : String) (template : Bool)
    (assignments : List Assignment) : Except Problem Reports := do
  let (engine, node) ← engineOver settings contexts
  let step := bindOn engine node text template
  match step.answer with
  | .error error => .error (.tree error)
  | .ok bound =>
    let reports := follow node assignments step.engine
    .ok ⟨.initial bound.value :: reports.said, reports.problem⟩

/-- Do a task. -/
def perform (files : Files) (settings : Settings) : Task → Except Problem Reports
  | .parse text =>
    match Expr.read text with
    | .ok expr => .ok (.all [.expression expr])
    | .error error => .error (.expression text error)
  | .eval text template context => do
    checkText text template
    let contexts ← loadContexts files context
    let (engine, node) ← engineOver settings contexts
    .ok (.all [.value (valueOn engine node text template)])
  | .watch text template context assignments => do
    checkText text template
    let assignments ← readAssignments assignments
    let contexts ← loadContexts files (some context)
    watch settings contexts text template assignments

/-- Do what an invocation asks for. The settings are read first. -/
def invoke (files : Files) (invocation : Invocation) : Reports :=
  let reports := do
    let settings ← loadSettings files invocation.preferences.config
    perform files settings invocation.task
  match reports with
  | .ok reports => reports
  | .error problem => .ended problem

/-- Run the program. -/
def run (files : Files) (words : List String) : Outcome :=
  match Invocation.read words with
  | .error stop => .ofStop stop
  | .ok invocation => .ofReports invocation.preferences (invoke files invocation)

end LiveBinding.Command
