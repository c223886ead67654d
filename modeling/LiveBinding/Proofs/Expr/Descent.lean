import LiveBinding.Expr.Parser

/-!
# Reading with a cursor

A second way to read the tokens of a text.  A cursor stands at one of the places of the text, which
are its tokens and the end.  Readers look at the place where it stands and at the next one, and move
it on.  At the end it stays where it is, so a reader that goes on there would never stop.

Nothing is promised by the form of these readers.  Loops and readers that call each other go on up
to a bound, where they have no outcome.  A reading ends if from some bound on its outcome is always
the same.  A reader that looks at a place that is not there stops at once, and the open calls are
counted up and down by hand.  The cursor keeps two more counts that no reader looks at: how often an
expression was begun, and how many of them were being read at once.
-/

namespace LiveBinding

/-- A place of a text: a token, or the end, which is no token. -/
structure Place where
  token : Option Token
  offset : Nat
  deriving DecidableEq, Repr

/-- The places of a text in order.  The end is the last of them. -/
def TokenStream.places (stream : TokenStream) : List Place :=
  stream.located.map (fun found => ⟨some found.token, found.offset⟩) ++ [⟨none, stream.length⟩]

/-- Where a reader stands, and inside how many calls.  Then how many expressions were begun, and how
many of these were being read at once at most. -/
structure Cursor where
  position : Nat := 0
  depth : Nat := 0
  begun : Nat := 0
  deepest : Nat := 0
  deriving DecidableEq, Repr

/-- Note that an expression is begun, with which so many are being read. -/
def Cursor.begin (level : Nat) (cursor : Cursor) : Cursor :=
  { cursor with begun := cursor.begun + 1, deepest := max cursor.deepest level }

/-- An index at which there is no place. -/
structure OutOfRange where
  index : Nat
  deriving DecidableEq, Repr

/-- A position and the wording of what is wrong there. -/
structure Complaint where
  offset : Nat
  message : String
  deriving DecidableEq, Repr

/-- An error as it is reported. -/
def ParseError.complaint (error : ParseError) : Complaint := ⟨error.offset, error.cause.message⟩

/-- A part of a reading.  It has no outcome if it would go on beyond a bound.  Else it stops where
no place is, or it leaves the cursor, and what it found or a complaint. -/
abbrev Descent (α : Type) : Type :=
  ExceptT Complaint (StateT Cursor (ExceptT OutOfRange Option)) α

namespace Descent

open ParseError (Cause)

variable (places : List Place)

/-! ### The cursor -/

/-- The place at an index. -/
def look (index : Nat) : Descent Place :=
  match places[index]? with
  | some place => return place
  | none => throwThe OutOfRange ⟨index⟩

/-- The place where the cursor stands. -/
def here : Descent Place := do
  look places (min (← get).position (places.length - 1))

/-- The token where the cursor stands. -/
def peek : Descent (Option Token) := do
  return (← here places).token

/-- The token behind the one where the cursor stands. -/
def peekNext : Descent (Option Token) := do
  return (← look places (min ((← get).position + 1) (places.length - 1))).token

/-- Move on to the next place, if there is one. -/
def advance : Descent Unit :=
  modify fun cursor =>
    if cursor.position < places.length - 1 then { cursor with position := cursor.position + 1 }
    else cursor

/-- Stop at the bound. -/
def pause {α : Type} : Descent α := ExceptT.mk fun _ => ExceptT.mk none

/-- Complain about the place where the cursor stands. -/
def complain {α : Type} (message : String) : Descent α := do
  throw ⟨(← here places).offset, message⟩

/-- What a part answers, with its complaint as an answer too. -/
def answerOf {α : Type} (part : Descent α) : Descent (Except Complaint α) := ExceptT.lift part.run

/-- Pass a certain token. -/
def expect (token : Token) (what : String) : Descent Unit := do
  let found ← peek places
  if found = some token then advance places
  else complain places ("expected " ++ what ++ ", got " ++ Token.describe found)

/-- Make sure that nothing is left over. -/
def expectEnd : Descent Unit := do
  match ← peek places with
  | none => return ()
  | some token => complain places (Cause.trailingContent token).message

/-! ### Paths -/

/-- A name of a field. -/
def key : Descent String := do
  let found ← peek places
  match found.bind Parser.key? with
  | some name =>
    advance places
    return name
  | none => complain places (Cause.expectedKey found).message

/-- A position, without its brackets. -/
def number : Descent Nat := do
  match ← peek places with
  | some (.integer digits) =>
    match Parser.index? digits with
    | none => complain places (Cause.invalidIndex digits).message
    | some position =>
      advance places
      return position
  | found => complain places (Cause.expectedIndex found).message

/-- A position in brackets. -/
def index : Descent Nat := do
  expect places .openBracket "'['"
  let position ← number places
  expect places .closeBracket "']'"
  return position

/-- One turn of the loop over the steps of a path, behind those found so far. -/
def tailTurn (path : Path) : Descent (ForInStep Path) := do
  match ← peek places with
  | some .dot =>
    advance places
    return .yield (path ++ [.key (← key places)])
  | some .openBracket => return .yield (path ++ [.index (← index places)])
  | _ => return .done path

/-- The loop over the steps of a path. -/
def tail (path : Path) : (bound : Nat) → Descent Path
  | 0 => pause
  | bound + 1 => do
    match ← tailTurn places path with
    | .yield path => tail path bound
    | .done path => return path

/-- A binding. -/
def binding (bound : Nat) : Descent Expr := do
  let root ← key places
  return .binding (← tail places [.key root] bound)

/-! ### Expressions -/

/-- Whether a path goes on with a token. -/
def leadsOn : Option Token → Bool
  | some .dot => true
  | some .openBracket => true
  | _ => false

mutual

/-- An expression.  With it, `level` expressions are being read. -/
def expression (level : Nat) : (bound : Nat) → Descent Expr
  | 0 => pause
  | bound + 1 => do
    modify (·.begin level)
    let next ← peekNext places
    match ← peek places with
    | none => complain places Cause.unexpectedEnd.message
    | some (.string text) =>
      advance places
      return .literal (.string text)
    | some (.decimal digits) =>
      match Decimal.ofText? digits with
      | none => complain places ("invalid decimal '" ++ digits ++ "'")
      | some decimal =>
        advance places
        return .literal (.decimal decimal)
    | some (.integer digits) =>
      if leadsOn next then binding places bound
      else
        match Text.readInt64? digits with
        | none => complain places (Cause.integerOutOfRange digits).message
        | some value =>
          advance places
          return .literal (.int value)
    | some (.word name) =>
      if next = some .openParen then
        advance places
        call level name bound
      else
        match if leadsOn next then none else Parser.keyword? name with
        | some value =>
          advance places
          return .literal value
        | none => binding places bound
    | some token => complain places (Cause.expectedExpression token).message
termination_by structural bound => bound

/-- A call behind its name.  The count of open calls is put back whatever the arguments are. -/
def call (level : Nat) (name : String) : (bound : Nat) → Descent Expr
  | 0 => pause
  | bound + 1 => do
    if Expr.maxNesting ≤ (← get).depth then
      complain places Cause.nestedTooDeeply.message
    else
      modify fun cursor => { cursor with depth := cursor.depth + 1 }
      let answer ← answerOf (arguments level name bound)
      modify fun cursor => { cursor with depth := cursor.depth - 1 }
      MonadExcept.ofExcept answer
termination_by structural bound => bound

/-- The arguments of a call with both parentheses. -/
def arguments (level : Nat) (name : String) : (bound : Nat) → Descent Expr
  | 0 => pause
  | bound + 1 => do
    expect places .openParen "'('"
    if (← peek places) = some .closeParen then
      advance places
      return .call name []
    else
      return .call name (← argumentLoop level name [] bound)
termination_by structural bound => bound

/-- The loop over the arguments of a call, behind those found so far. -/
def argumentLoop (level : Nat) (name : String) (found : List Expr) :
    (bound : Nat) → Descent (List Expr)
  | 0 => pause
  | bound + 1 => do
    match ← argumentTurn level name found bound with
    | .yield found => argumentLoop level name found bound
    | .done found => return found
termination_by structural bound => bound

/-- One turn of the loop over the arguments: an argument and what separates or ends it. -/
def argumentTurn (level : Nat) (name : String) (found : List Expr) :
    (bound : Nat) → Descent (ForInStep (List Expr))
  | 0 => pause
  | bound + 1 => do
    let first ← peek places
    if first = some .comma ∨ first = some .closeParen then
      complain places (Cause.emptyArgument name).message
    else
      let argument ← expression (level + 1) bound
      match ← peek places with
      | some .comma =>
        advance places
        return .yield (found ++ [argument])
      | some .closeParen =>
        advance places
        return .done (found ++ [argument])
      | none => complain places (Cause.unbalancedCall name).message
      | some token => complain places (Cause.expectedSeparator name token).message
termination_by structural bound => bound

end

/-! ### Whole texts -/

/-- The expression that all places together are. -/
def readExpression (bound : Nat) : Descent Expr := do
  if (← peek places) = none then
    complain places Cause.emptyExpression.message
  else
    let expr ← expression places 1 bound
    expectEnd places
    return expr

/-- The first step of a path. -/
def firstStep : Descent Segment := do
  if (← peek places) = some .openBracket then return .index (← index places)
  else return .key (← key places)

/-- The steps of a path, of which there is one at least. -/
def steps (bound : Nat) : Descent Path := do
  let step ← firstStep places
  tail places [step] bound

/-- The path that all places together are. -/
def readPath (bound : Nat) : Descent Path := do
  match ← peek places with
  | none => return []
  | some .star =>
    advance places
    expectEnd places
    return []
  | some _ =>
    let path ← steps places bound
    expectEnd places
    return path

/-- Read a text by its places. -/
def readText {α : Type} (reader : List Place → Nat → Descent α) (text : String) (bound : Nat) :
    Descent α :=
  match Token.lex text with
  | .error error => throw error.complaint
  | .ok stream => reader stream.places bound

end Descent

/-! ### How readings end -/

namespace Descent

variable {α β : Type} {before after between : Cursor}

/-- A reading ends if from some bound on its outcome is always the same, and is no look at a place
that is not there.  Then something holds of what it leaves. -/
def Ends (run : Nat → Descent α) (before : Cursor)
    (holds : Except Complaint α → Cursor → Prop) : Prop :=
  ∃ answer after, (∃ enough, ∀ bound, enough ≤ bound →
    run bound before = some (.ok (answer, after))) ∧ holds answer after

/-- A complaint is what a reading leaves, or it goes on behind what it found. -/
def GoesOn (next : α → Nat → Descent β) (holds : Except Complaint β → Cursor → Prop) :
    Except Complaint α → Cursor → Prop
  | .error complaint, between => holds (.error complaint) between
  | .ok value, between => Ends (next value) between holds

section

variable {run : Nat → Descent α} {holds also : Except Complaint α → Cursor → Prop}

theorem Ends.mono (ends : Ends run before holds)
    (weaker : ∀ answer after, holds answer after → also answer after) : Ends run before also := by
  obtain ⟨answer, after, settles, held⟩ := ends
  exact ⟨answer, after, settles, weaker answer after held⟩

/-- What ends with one bound more, ends. -/
theorem Ends.later (ends : Ends (fun bound => run (bound + 1)) before holds) :
    Ends run before holds := by
  obtain ⟨answer, after, ⟨enough, settles⟩, held⟩ := ends
  refine ⟨answer, after, ⟨enough + 1, fun bound above => ?_⟩, held⟩
  obtain ⟨bound, rfl⟩ := Nat.exists_eq_add_of_le' above
  exact settles (bound + enough) (Nat.le_add_left _ _)

/-- What needs no bound ends with what it leaves. -/
theorem ends_iff_of_eq {part : Descent α} {answer : Except Complaint α}
    (runs : part before = some (.ok (answer, after))) :
    Ends (fun _ => part) before holds ↔ holds answer after := by
  constructor
  · rintro ⟨other, left, ⟨enough, settles⟩, held⟩
    cases runs.symm.trans (settles enough (Nat.le_refl _))
    exact held
  · exact fun held => ⟨answer, after, ⟨0, fun _ _ => runs⟩, held⟩

theorem ends_pure {value : α} :
    Ends (fun _ => pure value) before holds ↔ holds (.ok value) before :=
  ends_iff_of_eq rfl

end

section

variable {holds : Except Complaint β → Cursor → Prop} {next : α → Nat → Descent β}

theorem bind_eq {first : Descent α} {next : α → Descent β} {value : α}
    (runs : first before = some (.ok (.ok value, between))) :
    (first >>= next) before = next value between := by
  change ExceptT.bind (first before) _ = _
  rw [runs]
  rfl

theorem bind_eq_of_error {first : Descent α} {next : α → Descent β} {complaint : Complaint}
    (runs : first before = some (.ok (.error complaint, between))) :
    (first >>= next) before = some (.ok (.error complaint, between)) := by
  change ExceptT.bind (first before) _ = _
  rw [runs]
  rfl

/-- Readers behind one another. -/
theorem Ends.bind {first : Nat → Descent α} (ends : Ends first before (GoesOn next holds)) :
    Ends (fun bound => first bound >>= fun value => next value bound) before holds := by
  obtain ⟨answer, between, ⟨enough, settles⟩, goesOn⟩ := ends
  cases answer with
  | error complaint =>
      exact ⟨_, between, ⟨enough, fun bound above => bind_eq_of_error (settles bound above)⟩,
        goesOn⟩
  | ok value =>
      obtain ⟨last, after, ⟨enoughNext, settlesNext⟩, held⟩ := goesOn
      refine ⟨last, after, ⟨max enough enoughNext, fun bound above => ?_⟩, held⟩
      dsimp only
      rw [bind_eq (settles bound (Nat.le_trans (Nat.le_max_left _ _) above))]
      exact settlesNext bound (Nat.le_trans (Nat.le_max_right _ _) above)

/-- A complaint may be looked at. -/
theorem Ends.answerOf {part : Nat → Descent α} {next : Except Complaint α → Nat → Descent β}
    (ends : Ends part before fun answer between => Ends (next answer) between holds) :
    Ends (fun bound => answerOf (part bound) >>= fun answer => next answer bound) before holds := by
  refine Ends.bind ?_
  obtain ⟨answer, between, ⟨enough, settles⟩, goesOn⟩ := ends
  refine ⟨.ok answer, between, ⟨enough, fun bound above => ?_⟩, goesOn⟩
  change ExceptT.bind (part bound before) _ = _
  rw [settles bound above]
  rfl

/-- A step that needs no bound is taken at once. -/
theorem ends_bind_of_eq {first : Descent α} {value : α}
    (runs : first before = some (.ok (.ok value, between))) :
    Ends (fun bound => first >>= fun found => next found bound) before holds ↔
      Ends (next value) between holds := by
  simp only [Ends, bind_eq runs]

theorem ends_get {next : Cursor → Nat → Descent β} :
    Ends (fun bound => get >>= fun cursor => next cursor bound) before holds ↔
      Ends (next before) before holds :=
  ends_bind_of_eq rfl

theorem ends_modify {change : Cursor → Cursor} {next : Unit → Nat → Descent β} :
    Ends (fun bound => modify change >>= fun done => next done bound) before holds ↔
      Ends (next ()) (change before) holds :=
  ends_bind_of_eq rfl

theorem ends_ofExcept {answer : Except Complaint β} :
    Ends (fun _ => MonadExcept.ofExcept answer) before holds ↔ holds answer before :=
  ends_iff_of_eq (by cases answer <;> rfl)

end

end Descent

/-! ### Looks at the places of a text -/

/-- The tokens from the place on where the cursor stands. -/
def Cursor.left (stream : TokenStream) (cursor : Cursor) : List Token :=
  stream.tokens.drop cursor.position

/-- The cursor some places further on. -/
def Cursor.moved (steps : Nat) (cursor : Cursor) : Cursor :=
  { cursor with position := cursor.position + steps }

theorem Cursor.left_begin (stream : TokenStream) (level : Nat) (cursor : Cursor) :
    (cursor.begin level).left stream = cursor.left stream := rfl

@[simp] theorem Cursor.moved_moved (first second : Nat) (cursor : Cursor) :
    (cursor.moved first).moved second = cursor.moved (first + second) := by
  simp only [moved, Nat.add_assoc]

@[simp] theorem Cursor.left_moved (stream : TokenStream) (steps : Nat) (cursor : Cursor) :
    (cursor.moved steps).left stream = (cursor.left stream).drop steps := by
  rw [left, left, moved, List.drop_drop]

theorem Cursor.length_left (stream : TokenStream) (cursor : Cursor) :
    (cursor.left stream).length = stream.tokens.length - cursor.position :=
  List.length_drop

/-- Behind the first of the tokens that are left are the others. -/
theorem Cursor.left_behind {stream : TokenStream} {cursor : Cursor} {token : Token}
    {rest : List Token} (left : cursor.left stream = token :: rest) :
    (cursor.moved 1).left stream = rest := by
  rw [left_moved, left, List.drop_one, List.tail_cons]

/-- A cursor at which tokens are left stands in front of the end. -/
theorem Cursor.position_lt {stream : TokenStream} {cursor : Cursor} {token : Token}
    {rest : List Token} (left : cursor.left stream = token :: rest) :
    cursor.position < stream.tokens.length := by
  refine Nat.lt_of_not_le fun beyond => ?_
  rw [Cursor.left, List.drop_eq_nil_of_le beyond] at left
  contradiction

theorem TokenStream.length_places (stream : TokenStream) :
    stream.places.length = stream.tokens.length + 1 := by
  simp [places, tokens]

/-- A look is never beyond the end, and finds the first of the tokens that are left. -/
theorem TokenStream.getElem?_places (stream : TokenStream) (index : Nat) :
    stream.places[min index (stream.places.length - 1)]? =
      some ⟨(stream.tokens.drop index).head?,
        stream.offsetAt (stream.tokens.drop index).length⟩ := by
  rw [length_places, Nat.add_sub_cancel, places, tokens, offsetAt, List.head?_drop,
    List.length_drop, List.length_map]
  by_cases inside : index < stream.located.length
  · have same : stream.located.length - (stream.located.length - index) = index := by omega
    rw [Nat.min_eq_left (Nat.le_of_lt inside), same, List.drop_eq_getElem_cons inside,
      List.getElem?_append_left (by simpa using inside)]
    simp [inside]
  · have same : stream.located.length - (stream.located.length - index) =
        stream.located.length := by omega
    rw [Nat.min_eq_right (Nat.le_of_not_lt inside), same, List.drop_length]
    simp [Nat.le_of_not_lt inside]

namespace Descent

variable {stream : TokenStream} {α : Type} {cursor : Cursor}

theorem look_eq (index : Nat) :
    look stream.places (min index (stream.places.length - 1)) cursor =
      some (.ok (.ok ⟨(stream.tokens.drop index).head?,
        stream.offsetAt (stream.tokens.drop index).length⟩, cursor)) := by
  rw [look, stream.getElem?_places]
  rfl

theorem here_eq : here stream.places cursor =
    some (.ok (.ok ⟨(cursor.left stream).head?, stream.offsetAt (cursor.left stream).length⟩,
      cursor)) :=
  (bind_eq rfl).trans (look_eq cursor.position)

theorem peek_eq : peek stream.places cursor = some (.ok (.ok (cursor.left stream).head?, cursor)) :=
  (bind_eq here_eq).trans rfl

theorem peekNext_eq : peekNext stream.places cursor =
    some (.ok (.ok (cursor.left stream).tail.head?, cursor)) := by
  rw [Cursor.left, List.tail_drop]
  exact (bind_eq rfl).trans ((bind_eq (look_eq (cursor.position + 1))).trans rfl)

theorem complain_eq (message : String) : complain (α := α) stream.places message cursor =
    some (.ok (.error ⟨stream.offsetAt (cursor.left stream).length, message⟩, cursor)) :=
  (bind_eq here_eq).trans rfl

section

variable {token : Token} {rest : List Token} (left : cursor.left stream = token :: rest)
include left

/-- The cursor moves on if it stands at a token. -/
theorem advance_eq : advance stream.places cursor = some (.ok (.ok (), cursor.moved 1)) := by
  have below : cursor.position < stream.places.length - 1 := by
    rw [stream.length_places, Nat.add_sub_cancel]
    exact Cursor.position_lt left
  change some (Except.ok (Except.ok (), ite _ _ _)) = _
  rw [if_pos below]
  rfl

theorem expect_eq (what : String) :
    expect stream.places token what cursor = some (.ok (.ok (), cursor.moved 1)) := by
  rw [expect, bind_eq peek_eq, left, List.head?_cons, if_pos rfl]
  exact advance_eq left

end

/-- What stands in the place of a token is named. -/
theorem expect_eq_of_ne {token : Token} (other : (cursor.left stream).head? ≠ some token)
    (what : String) : expect stream.places token what cursor =
      some (.ok (.error ⟨stream.offsetAt (cursor.left stream).length,
        "expected " ++ what ++ ", got " ++ Token.describe (cursor.left stream).head?⟩,
          cursor)) := by
  rw [expect, bind_eq peek_eq, if_neg other]
  exact complain_eq _

end Descent

end LiveBinding
