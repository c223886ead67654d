import LiveBinding.Text.Quote
import LiveBinding.Text.Numeral

/-!
# Paths

A path leads from a value to one of its parts, by names into objects and by positions into lists.
-/

namespace LiveBinding

/-- One step of a path. -/
inductive Segment where
  | key (name : String)
  | index (position : Nat)
  deriving DecidableEq, Repr

/-- A way into a value, outermost step first. -/
abbrev Path := List Segment

/-- The first position that no index may have. -/
def Segment.indexLimit : Nat := Nat.pow 2 64

/-- The text of a step by itself. -/
def Segment.toText : Segment → String
  | .key name => name
  | .index position => "[" ++ Text.natText position ++ "]"

namespace Path

/-- The text of the steps that follow another step. -/
def tailText : Path → String
  | [] => ""
  | .key name :: rest => "." ++ name ++ tailText rest
  | .index position :: rest => (Segment.index position).toText ++ tailText rest

/-- The text of a path. Only a name that follows another step has a point before it. -/
def toText : Path → String
  | [] => ""
  | step :: rest => step.toText ++ tailText rest

end Path

end LiveBinding
