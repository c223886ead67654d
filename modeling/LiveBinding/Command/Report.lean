import LiveBinding.Command.Invocation
import LiveBinding.Command.Problem
import LiveBinding.Expr.Text
import LiveBinding.Json.Text

/-!
# Reports

What a command says, and the lines that say it in either format.
-/

namespace LiveBinding.Command

/-- Something that a command says. -/
inductive Report where
  | expression (expr : Expr)
  | value (value : Value)
  /-- The value at the start of a watch. -/
  | initial (value : Value)
  /-- The value after an assignment. -/
  | notified (assignment : String) (value : Value)

/-- A line, or more than one, that says it. -/
def Report.render : Format → Report → String
  | .text, .expression expr => expr.toText
  | .text, .value found => found.toText
  | .text, .initial found => found.toText
  | .text, .notified assignment found => assignment ++ " -> " ++ found.toText
  | .json, .expression expr => expr.toJson.pretty
  | .json, .value found => found.toJson.pretty
  | .json, .initial found =>
    Json.toText (.object [("event", .string "initial"), ("value", found.toJson)])
  | .json, .notified assignment found =>
    Json.toText (.object [("event", .string "notify"), ("value", found.toJson),
      ("write", .string assignment)])

/-- The line that states a problem. -/
def Problem.render (format : Format) (problem : Problem) : String :=
  match format with
  | .text => problem.message
  | .json => Json.toText (.object [("error", .string problem.message)])

/-- What a command has said, and why it ended early if it did. -/
structure Reports where
  said : List Report
  problem : Option Problem

/-- Nothing was said. -/
def Reports.ended (problem : Problem) : Reports := ⟨[], some problem⟩

/-- Everything was said. -/
def Reports.all (said : List Report) : Reports := ⟨said, none⟩

/-- What a program leaves behind: its code and its lines on both outputs. -/
structure Outcome where
  code : Nat
  output : List String
  complaints : List String
  deriving DecidableEq, Repr

namespace Outcome

/-- Lines, each with its end. -/
def linesText (lines : List String) : String := String.join (lines.map (· ++ "\n"))

/-- The outcome of a command. With a problem the code is 1, and it is stated unless the command
is to be quiet. -/
def ofReports (preferences : Preferences) (reports : Reports) : Outcome where
  code := if reports.problem.isSome then 1 else 0
  output := reports.said.map (·.render preferences.format)
  complaints :=
    if preferences.quiet then []
    else reports.problem.toList.map (·.render preferences.format)

/-- The outcome of a command line that was not read to its end. -/
def ofStop : Stop → Outcome
  | .version => ⟨0, ["tether 0.1.0"], []⟩
  | .help =>
    ⟨0, ["Usage: tether [OPTIONS] <COMMAND>", "", "Commands: parse, eval, watch",
      "Options: --output <text|json>, --quiet, --config <PATH>, --help, --version"], []⟩
  | .misuse fault => ⟨2, [], ["error: " ++ fault.message]⟩

end Outcome

end LiveBinding.Command
