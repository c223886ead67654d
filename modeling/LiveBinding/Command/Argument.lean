import LiveBinding.Text.Cut

/-!
# Arguments of the command line

The words of a command line are words that stand for themselves, options with two dashes, which
may have a value behind an equals sign or in the next word, and letters behind one dash. Behind a
word of two dashes all words stand for themselves.
-/

namespace LiveBinding.Command

/-- A part of a command line. -/
inductive Argument where
  /-- A word, which may name a command. -/
  | word (text : String)
  /-- The word of two dashes. -/
  | divider
  /-- A word behind the two dashes, which names no command. -/
  | literal (text : String)
  | option (name : String) (value : Option String)
  | letters (text : String)
  deriving DecidableEq, Repr

namespace Argument

/-- The options that have a value. -/
def valued : List String := ["output", "config", "context", "set"]

/-- Whether a word is an option, so that it is no value of the option before it. One dash alone
is a word. -/
def isOptionWord (word : String) : Bool :=
  match word.toList with
  | '-' :: _ :: _ => true
  | _ => false

/-- The name of an option and the value that is attached to it. -/
def cutOption (text : String) : String × Option String :=
  match Text.cut? '=' text with
  | none => (text, none)
  | some (name, value) => (name, some value)

/-- The arguments that words spell. -/
def ofWords : List String → List Argument
  | [] => []
  | first :: rest =>
    match first.toList with
    | ['-', '-'] => .divider :: rest.map .literal
    | '-' :: '-' :: chars =>
      match cutOption (String.ofList chars) with
      | (name, some value) => .option name (some value) :: ofWords rest
      | (name, none) =>
        match rest with
        | [] => [.option name none]
        | next :: after =>
          if valued.contains name && !isOptionWord next then
            .option name (some next) :: ofWords after
          else .option name none :: ofWords (next :: after)
    | '-' :: char :: chars => .letters (String.ofList (char :: chars)) :: ofWords rest
    | _ => .word first :: ofWords rest

/-- Whether the argument is a word that may name a command. -/
def isWord : Argument → Bool
  | .word _ => true
  | _ => false

end Argument

end LiveBinding.Command
