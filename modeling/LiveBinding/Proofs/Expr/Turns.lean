import LiveBinding.Proofs.Expr.Recognition

/-!
# The readers of tokens in steps

A path tail is read step by step, and the arguments of a call one by one.  So both are read by a
loop, of which each turn finds one thing more, or is done, or fails.
-/

namespace LiveBinding

namespace Parser

/-- A reader takes tokens from the front, or it fails. -/
abbrev Reader (α : Type) : Type := StateT (List Token) (Except Failure) α

namespace Reader

variable {α β : Type}

/-- The first of the tokens. -/
def front : Reader (Option Token) := fun input => .ok (input.head?, input)

/-- Take a token. -/
def skip : Reader Unit := fun input => .ok ((), input.tail)

/-- Fail in front of the tokens. -/
def fail (cause : ParseError.Cause) : Reader α := fun input => failAt input cause

/-- A loop: a turn, and what the turns behind it read. -/
def loop (turn : α → Reader (ForInStep α)) (others : α → Reader α) (found : α) : Reader α := do
  match ← turn found with
  | .yield more => others more
  | .done all => return all

section

variable {reader : Reader α} {others : α → Reader β} {input rest : List Token}

theorem bind_of_ok {value : α} (read : reader input = .ok (value, rest)) :
    (reader >>= others) input = others value rest := by
  change Except.bind (reader input) _ = _
  rw [read]
  rfl

theorem bind_of_error {failure : Failure} (failed : reader input = .error failure) :
    (reader >>= others) input = .error failure := by
  change Except.bind (reader input) _ = _
  rw [failed]
  rfl

theorem front_bind {others : Option Token → Reader β} :
    (front >>= others) input = others input.head? input := rfl

theorem skip_bind {others : Unit → Reader β} :
    (skip >>= others) input = others () input.tail := rfl

end

/-! ### Paths -/

/-- A name of a field. -/
def name : Reader String := do
  let found ← front
  match found.bind key? with
  | some name =>
    skip
    return name
  | none => fail (.expectedKey found)

/-- A position, without its brackets. -/
def number : Reader Nat := do
  match ← front with
  | some (.integer digits) =>
    match index? digits with
    | none => fail (.invalidIndex digits)
    | some position =>
      skip
      return position
  | found => fail (.expectedIndex found)

/-- The bracket behind a position. -/
def close : Reader Unit := do
  let found ← front
  if found = some .closeBracket then skip else fail (.expectedCloseBracket found)

/-- A position behind the bracket that opens it. -/
def index : Reader Nat := do
  let position ← number
  close
  return position

/-- The steps that follow those of a path. -/
def tail (path : Path) : Reader Path := do
  let more ← (pathTail : Reader Path)
  return path ++ more

/-- One step more behind a path, if it goes on. -/
def tailTurn (path : Path) : Reader (ForInStep Path) := do
  match ← front with
  | some .dot =>
    skip
    return .yield (path ++ [.key (← name)])
  | some .openBracket =>
    skip
    return .yield (path ++ [.index (← index)])
  | _ => return .done path

/-- The first step of a path. -/
def firstStep : Reader Segment := do
  if (← front) = some .openBracket then
    skip
    return .index (← index)
  else
    return .key (← name)

theorem name_cons (token : Token) (rest : List Token) :
    name (token :: rest) =
      match key? token with
      | some key => .ok (key, rest)
      | none => failAt (token :: rest) (.expectedKey (some token)) := by
  rw [name, front_bind, List.head?_cons, Option.bind_some]
  cases key? token <;> rfl

theorem number_integer (digits : String) (rest : List Token) :
    number (.integer digits :: rest) =
      match index? digits with
      | none => failAt (.integer digits :: rest) (.invalidIndex digits)
      | some position => .ok (position, rest) := by
  rw [number, front_bind, List.head?_cons]
  dsimp only
  cases index? digits <;> rfl

theorem close_of_ne {rest : List Token} (unclosed : rest.head? ≠ some .closeBracket) :
    close rest = failAt rest (.expectedCloseBracket rest.head?) := by
  rw [close, front_bind, if_neg unclosed]
  rfl

theorem tail_eq (path : Path) (input : List Token) :
    tail path input = (pathTail input).map fun out => (path ++ out.1, out.2) := by
  cases read : pathTail input with
  | error failure => exact bind_of_error read
  | ok out => exact bind_of_ok read

/-- A path goes on with a name behind a point. -/
theorem pathTail_dot (rest : List Token) :
    pathTail (.dot :: rest) = (name >>= fun key => tail [.key key]) rest := by
  cases rest with
  | nil => rfl
  | cons token others =>
      rw [pathTail]
      have named := name_cons token others
      cases isKey : key? token with
      | none =>
          rw [isKey] at named
          exact (bind_of_error named).symm
      | some key =>
          rw [isKey] at named
          rw [bind_of_ok named, tail_eq]
          rfl

/-- A path goes on with a position in brackets. -/
theorem pathTail_openBracket (rest : List Token) :
    pathTail (.openBracket :: rest) = (index >>= fun position => tail [.index position]) rest := by
  cases rest with
  | nil => rfl
  | cons token others =>
      cases token with
      | integer digits =>
          rw [pathTail]
          have number := number_integer digits others
          cases denotes : index? digits with
          | none =>
              rw [denotes] at number
              exact (bind_of_error (bind_of_error number)).symm
          | some position =>
              rw [denotes] at number
              dsimp only
              split
              · next rest =>
                  have closed : close (.closeBracket :: rest) = .ok ((), rest) := rfl
                  have read : index (.integer digits :: .closeBracket :: rest) =
                      .ok (position, rest) := (bind_of_ok number).trans (bind_of_ok closed)
                  rw [bind_of_ok read, tail_eq]
                  rfl
              · next unclosed =>
                  have noBracket : others.head? ≠ some .closeBracket := by
                    intro closed
                    obtain ⟨behind, rfl⟩ := List.head?_eq_some_iff.mp closed
                    exact unclosed behind rfl
                  have failed : index (.integer digits :: others) = _ :=
                    (bind_of_ok number).trans (bind_of_error (close_of_ne noBracket))
                  exact (bind_of_error failed).symm
      | _ => rfl

theorem tail_append (path more : Path) (input : List Token) :
    tail (path ++ more) input = (tail more input).map fun out => (path ++ out.1, out.2) := by
  rw [tail_eq, tail_eq]
  cases pathTail input with
  | error failure => rfl
  | ok out => simp [Except.map]

/-- A turn that finds a step, and the loop behind it. -/
theorem tail_of_turn {path : Path} {reader : Reader α} {step : α → Segment}
    {input rest : List Token}
    (turn : tailTurn path input =
      (reader >>= fun found => pure (.yield (path ++ [step found]))) rest)
    (tails : pathTail input = (reader >>= fun found => tail [step found]) rest) :
    tail path input = loop tailTurn tail path input := by
  rw [tail_eq, tails]
  cases read : reader rest with
  | error failure =>
      rw [bind_of_error read] at turn ⊢
      exact (bind_of_error turn).symm
  | ok out =>
      rw [bind_of_ok read] at turn ⊢
      rw [← tail_append, loop, bind_of_ok turn]

/-- A path tail is read by a loop. -/
theorem tail_loop (path : Path) : tail path = loop tailTurn tail path := by
  funext input
  have stops (nothing : pathTail input = .ok ([], input))
      (turn : tailTurn path input = .ok (.done path, input)) :
      tail path input = loop tailTurn tail path input := by
    rw [tail_eq, nothing, loop, bind_of_ok turn, Except.map, List.append_nil]
    rfl
  cases input with
  | nil => exact stops rfl rfl
  | cons token rest =>
      cases token with
      | dot => exact tail_of_turn rfl (pathTail_dot rest)
      | openBracket => exact tail_of_turn rfl (pathTail_openBracket rest)
      | _ => exact stops rfl rfl

/-- A path that is not the whole value is read from its first step on. -/
theorem path_eq {token : Token} (noStar : token ≠ .star) (rest : List Token) :
    path (token :: rest) =
      complete ((firstStep >>= fun step => tail [step]) (token :: rest)) := by
  have named (first : firstStep (token :: rest) =
      (name >>= fun key => pure (Segment.key key)) (token :: rest)) :
      (match key? token with
        | some name => complete ((pathTail rest).map fun out => (.key name :: out.1, out.2))
        | none => failAt (token :: rest) (.expectedKey (some token))) =
          complete ((firstStep >>= fun step => tail [step]) (token :: rest)) := by
    have read := name_cons token rest
    cases isKey : key? token with
    | none =>
        rw [isKey] at read
        rw [bind_of_error read] at first
        rw [bind_of_error first]
        rfl
    | some key =>
        rw [isKey] at read
        rw [bind_of_ok read] at first
        rw [bind_of_ok first, tail_eq]
        rfl
  cases token with
  | star => contradiction
  | openBracket =>
      rw [path, pathTail_openBracket, firstStep, bind_assoc, front_bind, List.head?_cons,
        if_pos rfl, bind_assoc, skip_bind, bind_assoc]
      rfl
  | _ => exact named rfl

/-! ### Expressions -/

/-- What a reader answers, without the proof that it took a token. -/
def plain {input : List Token} (outcome : Outcome α input) : Except Failure (α × List Token) :=
  outcome.map (·.val)

/-- An expression inside of so many calls. -/
def expr (depth : Nat) : Reader Expr := fun input => plain (exprFrom depth input)

/-- A binding. -/
def binding : Reader Expr := do
  let root ← name
  let path ← tail [.key root]
  return .binding path

/-- The arguments that follow those of a call. -/
def argumentLoop (depth : Nat) (name : String) (found : List Expr) : Reader (List Expr) := do
  let more ← (fun input => plain (argumentsFrom depth name input) : Reader (List Expr))
  return found ++ more

/-- A call behind the parenthesis that opens it. -/
def call (depth : Nat) (name : String) : Reader Expr := do
  if (← front) = some .closeParen then
    skip
    return .call name []
  else
    return .call name (← argumentLoop depth name [])

/-- One argument more, and what separates it from the next one or closes the call. -/
def argumentTurn (depth : Nat) (name : String) (found : List Expr) :
    Reader (ForInStep (List Expr)) := do
  let first ← front
  if first = some .comma ∨ first = some .closeParen then fail (.emptyArgument name)
  else
    let argument ← expr depth
    match ← front with
    | some .comma =>
      skip
      return .yield (found ++ [argument])
    | some .closeParen =>
      skip
      return .done (found ++ [argument])
    | none => fail (.unbalancedCall name)
    | some token => fail (.expectedSeparator name token)

/-- A reader of expressions takes a token. -/
theorem length_lt_of_expr {depth : Nat} {input rest : List Token} {value : Expr}
    (read : expr depth input = .ok (value, rest)) : rest.length < input.length := by
  unfold expr at read
  cases outcome : exprFrom depth input with
  | error failure =>
      rw [outcome] at read
      contradiction
  | ok found =>
      obtain ⟨out, shorter⟩ := found
      rw [outcome] at read
      cases read
      exact shorter

theorem binding_cons (token : Token) (rest : List Token) :
    binding (token :: rest) =
      match key? token with
      | some key => (pathTail rest).map fun out => (.binding (.key key :: out.1), out.2)
      | none => failAt (token :: rest) (.expectedKey (some token)) := by
  have read := name_cons token rest
  cases isKey : key? token with
  | none =>
      rw [isKey] at read
      exact bind_of_error read
  | some key =>
      rw [isKey] at read
      rw [binding, bind_of_ok read]
      have tails := tail_eq [.key key] rest
      cases others : pathTail rest with
      | error failure =>
          rw [others] at tails
          exact bind_of_error tails
      | ok out =>
          rw [others] at tails
          exact bind_of_ok tails

theorem plain_bindingFrom {name : String} {first : Token} (isKey : key? first = some name)
    (rest : List Token) : plain (bindingFrom name first rest) = binding (first :: rest) := by
  rw [binding_cons, isKey]
  unfold bindingFrom
  split
  · next failed =>
      rw [failed]
      rfl
  · next found read =>
      simp only [read]
      rfl

theorem expr_integer (depth : Nat) (digits : String) (rest : List Token) :
    expr depth (.integer digits :: rest) =
      if continuesPath rest then binding (.integer digits :: rest)
      else
        match Text.readInt64? digits with
        | some value => .ok (.literal (.int value), rest)
        | none => failAt (.integer digits :: rest) (.integerOutOfRange digits) := by
  rw [expr, exprFrom, integerFrom]
  split
  · cases isKey : key? (.integer digits) with
    | none =>
        rw [binding_cons, isKey]
        rfl
    | some name => exact plain_bindingFrom isKey rest
  · cases Text.readInt64? digits <;> rfl

theorem expr_word (depth : Nat) (name : String) {rest : List Token}
    (noCall : rest.head? ≠ some .openParen) :
    expr depth (.word name :: rest) =
      match if continuesPath rest then none else keyword? name with
      | some value => .ok (.literal value, rest)
      | none => binding (.word name :: rest) := by
  have noParen (others : List Token) (same : rest = .openParen :: others) : False := by
    rw [same] at noCall
    exact noCall rfl
  rw [expr, exprFrom, wordFrom]
  · split
    · exact plain_bindingFrom rfl rest
    · cases keyword? name with
      | none => exact plain_bindingFrom rfl rest
      | some value => rfl
  · exact fun others same => noParen _ same
  · exact fun others same => noParen _ same

theorem argumentLoop_eq (depth : Nat) (name : String) (found : List Expr) (input : List Token) :
    argumentLoop depth name found input =
      (plain (argumentsFrom depth name input)).map fun out => (found ++ out.1, out.2) := by
  cases read : plain (argumentsFrom depth name input) with
  | error failure => exact bind_of_error read
  | ok out => exact bind_of_ok read

theorem expr_call (depth : Nat) (name : String) (rest : List Token) :
    expr depth (.word name :: .openParen :: rest) =
      if Expr.maxNesting ≤ depth then failAt (.openParen :: rest) .nestedTooDeeply
      else call (depth + 1) name rest := by
  rw [call, front_bind, expr]
  by_cases empty : rest.head? = some .closeParen
  · obtain ⟨others, rfl⟩ := List.head?_eq_some_iff.mp empty
    rw [exprFrom]
    split <;> rfl
  · rw [if_neg empty, exprFrom]
    · split
      · rfl
      · have loop := argumentLoop_eq (depth + 1) name [] rest
        split
        · next failed =>
            rw [failed] at loop
            exact (bind_of_error loop).symm
        · next read =>
            rw [read] at loop
            rw [bind_of_ok loop]
            rfl
    · rintro others rfl
      exact empty rfl

/-- The arguments of a call are read by a loop. -/
theorem argumentLoop_loop (depth : Nat) (name : String) (found : List Expr) :
    argumentLoop depth name found =
      loop (argumentTurn depth name) (argumentLoop depth name) found := by
  funext input
  rw [argumentLoop_eq, argumentsFrom, loop, argumentTurn, bind_assoc, front_bind]
  split
  · rfl
  · rw [bind_assoc]
    split
    · next failed =>
        have failed : expr depth input = _ := congrArg plain failed
        exact (bind_of_error failed).symm
    · next argument left shorter read =>
        have read : expr depth input = _ := congrArg plain read
        rw [bind_of_ok read, bind_assoc, front_bind]
        dsimp only
        split
        · next behind _ _ =>
            change _ = argumentLoop depth name (found ++ [argument]) behind
            rw [argumentLoop_eq]
            cases argumentsFrom depth name behind with
            | error failure => rfl
            | ok out => simp [plain, Except.map]
        · rfl
        · rfl
        · next token behind _ noComma noParen _ =>
            cases token with
            | comma => exact absurd rfl noComma
            | closeParen => exact absurd rfl noParen
            | _ => rfl

end Reader

end Parser

end LiveBinding
