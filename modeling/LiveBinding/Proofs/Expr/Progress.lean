import LiveBinding.Proofs.Expr.Finiteness
import LiveBinding.Proofs.Expr.Following

/-!
# Readers make progress

A reader with a cursor ends wherever it starts, and it never looks where no place is.  Each turn of
a loop that goes on takes a token, so no loop goes on at the end.

The measure is the number of tokens that are left.  It carries the mutual recursion of expressions
and arguments too, whether they can be read or not.
-/

namespace LiveBinding

namespace Descent

open LiveBinding.Parser (Failure Reader failAt)

variable {stream : TokenStream} {α β : Type} {before between after : Cursor}

/-! ### How far readers of expressions go -/

/-- What a reader of expressions does to the cursor.  Two tokens are taken for each expression that
is begun, but for so many to spare.  Expressions are nested so much deeper as calls may be open. -/
structure Advances (stream : TokenStream) (level spare : Nat) (before after : Cursor) : Prop where
  depth : after.depth = before.depth
  forward : before.position ≤ after.position
  within : after.position ≤ max before.position stream.tokens.length
  begun : 2 * after.begun + before.position ≤ 2 * before.begun + after.position + spare
  deepest : after.deepest ≤ max before.deepest (level + (Expr.maxNesting - before.depth))

/-- What is to spare depends on whether a reader succeeds. -/
def granted (success failure : Nat) : Except Complaint α → Nat
  | .ok _ => success
  | .error _ => failure

/-- If fewer tokens are left, the cursor has moved on. -/
theorem movesOn_of_length_lt (within : after.position ≤ max before.position stream.tokens.length)
    (shorter : (after.left stream).length < (before.left stream).length) :
    MovesOn stream before after := by
  rw [Cursor.length_left, Cursor.length_left] at shorter
  exact ⟨by omega, by omega⟩

theorem Walks.advances {level : Nat} (walks : Walks stream before after) :
    Advances stream level 0 before after := by
  obtain ⟨steps, within, rfl⟩ := walks
  rw [Cursor.length_left] at within
  refine ⟨rfl, Nat.le_add_right _ _, ?_, ?_, ?_⟩
  all_goals
    simp only [Cursor.moved]
    omega

namespace Advances

variable {level spare more : Nat}

theorem refl (level spare : Nat) (cursor : Cursor) : Advances stream level spare cursor cursor :=
  ⟨rfl, Nat.le_refl _, Nat.le_max_left _ _, Nat.le_add_right _ _, Nat.le_max_left _ _⟩

theorem weaken (advances : Advances stream level spare before after) (larger : spare ≤ more) :
    Advances stream level more before after :=
  ⟨advances.depth, advances.forward, advances.within,
    advances.begun.trans (Nat.add_le_add_left larger _), advances.deepest⟩

theorem trans (first : Advances stream level spare before between)
    (second : Advances stream level more between after) :
    Advances stream level (spare + more) before after := by
  obtain ⟨depth, forward, within, begun, deepest⟩ := first
  obtain ⟨depthNext, forwardNext, withinNext, begunNext, deepestNext⟩ := second
  rw [depth] at deepestNext
  exact ⟨depthNext.trans depth, by omega, by omega, by omega, by omega⟩

variable {token : Token} {rest : List Token}

/-- A token in front pays for a half of what is to spare. -/
theorem behind_token (left : before.left stream = token :: rest)
    (advances : Advances stream level spare (before.moved 1) after) :
    Advances stream level (spare - 1) before after := by
  have below := Cursor.position_lt left
  obtain ⟨depth, forward, within, begun, deepest⟩ := advances
  simp only [Cursor.moved] at depth forward within begun deepest
  exact ⟨depth, by omega, by omega, by omega, deepest⟩

/-- A token behind pays for a half of what is to spare. -/
theorem before_token (advances : Advances stream level spare before after)
    (left : after.left stream = token :: rest) :
    Advances stream level (spare - 1) before (after.moved 1) := by
  have below := Cursor.position_lt left
  obtain ⟨depth, forward, within, begun, deepest⟩ := advances
  refine ⟨depth, ?_, ?_, ?_, deepest⟩
  all_goals
    simp only [Cursor.moved]
    omega

/-- The first token of a call pays for a half of the expression that is begun with it. -/
theorem behind_begin (left : before.left stream = token :: rest)
    (advances : Advances stream level spare ((before.begin level).moved 1) after) :
    Advances stream level (spare + 1) before after := by
  have below := Cursor.position_lt left
  obtain ⟨depth, forward, within, begun, deepest⟩ := advances
  simp only [Cursor.moved, Cursor.begin] at depth forward within begun deepest
  exact ⟨depth, by omega, by omega, by omega, by omega⟩

end Advances

/-- What the reader of expressions leaves. -/
def ExpressionRead (stream : TokenStream) (level : Nat) (before : Cursor) :
    Except Complaint Expr → Cursor → Prop :=
  Leaves stream (Reader.expr before.depth)
    (fun answer after => Advances stream level (granted 1 2 answer) before after) before

theorem ExpressionRead.movesOn {level : Nat} {expr : Expr}
    (read : ExpressionRead stream level before (.ok expr) after) : MovesOn stream before after :=
  movesOn_of_length_lt read.2.within (Reader.length_lt_of_expr read.1.eq_ok)

/-- An expression without calls is what another reader reads. -/
theorem Reads.expressionRead {level : Nat} {answer : Except Complaint Expr} {reader : Reader Expr}
    (read : Reads stream reader (before.begin level) answer after)
    (same : Reader.expr before.depth (before.left stream) = reader (before.left stream)) :
    ExpressionRead stream level before answer after := by
  obtain ⟨follows, steps, within, rfl⟩ := read
  rw [Cursor.left_begin] at follows within
  rw [← same] at follows
  -- a token is taken, or the reader fails, for which more is to spare
  have spare : 2 ≤ steps + granted 1 2 answer := by
    cases answer with
    | error complaint => exact Nat.le_add_left 2 steps
    | ok expr =>
        have shorter := Reader.length_lt_of_expr follows.eq_ok
        rw [Cursor.left_moved, List.length_drop, Cursor.left_begin] at shorter
        simp only [granted]
        omega
  rw [Cursor.length_left] at within
  refine ⟨follows, rfl, Nat.le_add_right _ _, ?_, ?_, ?_⟩
  all_goals
    simp only [Cursor.moved, Cursor.begin]
    omega

/-! ### Arguments -/

/-- What the loop over the arguments of a call leaves. -/
def ArgumentsRead (stream : TokenStream) (level : Nat) (name : String) (found : List Expr)
    (before : Cursor) : Except Complaint (List Expr) → Cursor → Prop :=
  Leaves stream (Reader.argumentLoop before.depth name found)
    (fun answer after => Advances stream (level + 1) (granted 0 2 answer) before after) before

/-- What a turn of that loop does to the cursor. -/
def TurnMoves (stream : TokenStream) (level : Nat) (before : Cursor)
    (answer : Except Complaint (ForInStep (List Expr))) (after : Cursor) : Prop :=
  Advances stream (level + 1) (granted 0 2 answer) before after ∧
    ∀ turn, answer = .ok turn → MovesOn stream before after

section

variable {level : Nat} {name : String} {found : List Expr}

namespace TurnMoves

theorem of_error {complaint : Complaint} (advances : Advances stream (level + 1) 2 before after) :
    TurnMoves stream level before (.error complaint) after := by
  refine ⟨advances, ?_⟩
  rintro turn ⟨⟩

/-- What separates an argument from the next one, or closes the call, pays for the argument. -/
theorem behind_argument {turn : ForInStep (List Expr)} {token : Token} {rest : List Token}
    (advances : Advances stream (level + 1) 1 before between)
    (further : MovesOn stream before between) (left : between.left stream = token :: rest) :
    TurnMoves stream level before (.ok turn) (between.moved 1) :=
  ⟨advances.before_token left,
    fun _ _ => ⟨Nat.lt_succ_of_lt further.1, Cursor.position_lt left⟩⟩

end TurnMoves

/-- A turn of the loop over arguments.  If it finds an argument, it has taken a token. -/
theorem argumentTurn_ends
    (expressionEnds : Ends (expression stream.places (level + 1)) before
      (ExpressionRead stream (level + 1) before)) :
    Ends (argumentTurn stream.places level name found) before
      (Leaves stream (Reader.argumentTurn before.depth name found)
        (TurnMoves stream level before) before) := by
  refine Ends.later (front_ends ?_)
  by_cases misses : Parser.MissesArgument (before.left stream)
  · simp only [if_pos misses]
    exact fail_ends (.of_error (.refl _ _ before))
  · simp only [if_neg misses]
    refine bind_ends expressionEnds (fun _ _ advances => .of_error advances) ?_
    intro argument between advances read
    have further := movesOn_of_length_lt advances.within (Reader.length_lt_of_expr read)
    have failing := advances.weaken (Nat.le_succ 1)
    refine front_ends ?_
    cases left : between.left stream with
    | nil => exact fail_ends (.of_error failing)
    | cons token rest =>
        cases token with
        | comma => exact skip_ends left (pure_ends (.behind_argument advances further left))
        | closeParen => exact skip_ends left (pure_ends (.behind_argument advances further left))
        | _ => exact fail_ends (.of_error failing)

/-- Where a call is opened, its arguments are read. -/
theorem arguments_ends
    (loopEnds : ∀ inside : Cursor, (inside.left stream).length < (before.left stream).length →
      Ends (argumentLoop stream.places level name []) inside
        (ArgumentsRead stream level name [] inside)) :
    Ends (arguments stream.places level name) before fun answer after =>
      ((before.left stream).head? = some .openParen →
        Follows stream (Reader.call before.depth name ((before.moved 1).left stream)) answer
          after) ∧
        Advances stream (level + 1) (granted 0 1 answer) before after := by
  refine Ends.later ?_
  by_cases opens : (before.left stream).head? = some .openParen
  · obtain ⟨rest, left⟩ := List.head?_eq_some_iff.mp opens
    have behind := Cursor.left_behind left
    have calls : Ends (fun bound => arguments stream.places level name (bound + 1)) before
        (Leaves stream (Reader.call before.depth name)
          (fun answer after => Advances stream (level + 1) (granted 0 1 answer) before after)
            (before.moved 1)) := by
      refine (ends_bind_of_eq (expect_eq left _)).mpr (front_ends ?_)
      by_cases closes : ((before.moved 1).left stream).head? = some .closeParen
      · obtain ⟨others, further⟩ := List.head?_eq_some_iff.mp closes
        simp only [if_pos closes]
        exact skip_ends further (pure_ends ((Walks.one further).advances.behind_token left))
      · simp only [if_neg closes]
        refine bind_ends (loopEnds (before.moved 1) ?_)
          (fun _ _ advances => advances.behind_token left)
          fun _ _ advances _ => pure_ends (advances.behind_token left)
        rw [behind, left]
        exact Nat.lt_succ_self _
    exact calls.mono fun answer after read => ⟨fun _ => read.1, read.2⟩
  · refine Ends.bind ((ends_iff_of_eq (expect_eq_of_ne opens _)).mpr ⟨?_, ?_⟩)
    · exact fun opened => absurd opened opens
    · exact .refl _ _ before

/-- A call leaves as many calls open as it finds, whether it succeeds or not. -/
theorem call_ends
    (loopEnds : ∀ inside : Cursor, (inside.left stream).length < (before.left stream).length →
      Ends (argumentLoop stream.places level name []) inside
        (ArgumentsRead stream level name [] inside)) :
    Ends (call stream.places level name) before fun answer after =>
      ((before.left stream).head? = some .openParen →
        Follows stream (Reader.expr before.depth (.word name :: before.left stream)) answer
          after) ∧
        Advances stream level (granted 0 1 answer) before after := by
  refine Ends.later (ends_get.mpr ?_)
  by_cases deep : Expr.maxNesting ≤ before.depth
  · simp only [if_pos deep]
    refine (ends_iff_of_eq (complain_eq _)).mpr ⟨fun opens => ?_, .refl _ _ before⟩
    obtain ⟨rest, left⟩ := List.head?_eq_some_iff.mp opens
    rw [left, Reader.expr_call, if_pos deep, ← left]
    exact .failed _ before
  · simp only [if_neg deep]
    refine ends_modify.mpr ?_
    have argumentsEnd : Ends (arguments stream.places level name)
        { before with depth := before.depth + 1 } _ := arguments_ends loopEnds
    refine Ends.answerOf (argumentsEnd.mono ?_)
    rintro answer after ⟨follows, depth, forward, within, begun, deepest⟩
    refine ends_modify.mpr (ends_ofExcept.mpr ⟨fun opens => ?_, ?_, forward, within, begun, ?_⟩)
    · obtain ⟨rest, left⟩ := List.head?_eq_some_iff.mp opens
      have behind : (before.moved 1).left stream = rest := Cursor.left_behind left
      rw [left, Reader.expr_call, if_neg deep, ← behind]
      exact (follows opens).congr rfl
    -- the arguments leave the count as they find it, which is one more than before
    · dsimp only at depth ⊢
      omega
    · dsimp only at deepest ⊢
      omega

end

/-! ### Expressions -/

/-- Decimals among the tokens denote something. -/
def DecimalsDenote (stream : TokenStream) : Prop :=
  ∀ digits, .decimal digits ∈ stream.tokens → (Decimal.ofText? digits).isSome

theorem continuesPath_eq (rest : List Token) :
    Parser.continuesPath rest = leadsOn rest.head? := by
  cases rest with
  | nil => rfl
  | cons token others => cases token <;> rfl

section

variable {level : Nat} {token : Token} {rest : List Token}

/-- A literal that is one token. -/
theorem literal_ends {value : Value} (left : before.left stream = token :: rest)
    (outcome : Reader.expr before.depth (token :: rest) = .ok (.literal value, rest)) :
    Ends (fun _ => advance stream.places >>= fun _ => pure (.literal value))
      (before.begin level) (ExpressionRead stream level before) := by
  have begun : (before.begin level).left stream = token :: rest := left
  have reads : Ends (fun _ => advance stream.places >>= fun _ => pure (.literal value))
      (before.begin level)
        (Reads stream (Reader.skip >>= fun _ => pure (Expr.literal value)) (before.begin level)) :=
    skip_ends begun (pure_ends (.one begun))
  refine reads.mono fun answer after read => read.expressionRead ?_
  rw [left, outcome]
  rfl

/-- No expression begins here. -/
theorem noExpression_ends {cause : ParseError.Cause}
    (outcome : Reader.expr before.depth (before.left stream) =
      failAt (before.left stream) cause) :
    Ends (fun _ => complain stream.places cause.message) (before.begin level)
      (ExpressionRead stream level before) := by
  have fails : Ends (fun _ => complain (α := Expr) stream.places cause.message)
      (before.begin level) (Reads stream (Reader.fail cause) (before.begin level)) :=
    fail_ends (.refl stream _)
  exact fails.mono fun answer after read => read.expressionRead outcome

/-- A binding. -/
theorem bound_ends (left : before.left stream = token :: rest)
    (outcome : Reader.expr before.depth (token :: rest) = Reader.binding (token :: rest)) :
    Ends (binding stream.places) (before.begin level) (ExpressionRead stream level before) := by
  refine (binding_ends (before.begin level)).mono fun answer after read => read.expressionRead ?_
  rw [left, outcome]

end

mutual

/-- The reader of expressions ends. -/
theorem expression_ends (denote : DecimalsDenote stream) (level : Nat) (before : Cursor) :
    Ends (expression stream.places level) before (ExpressionRead stream level before) := by
  refine Ends.later (ends_modify.mpr ?_)
  cases left : before.left stream with
  | nil =>
      refine (ends_bind_of_eq peekNext_eq).mpr ((ends_bind_of_eq peek_eq).mpr ?_)
      rw [Cursor.left_begin, left]
      refine noExpression_ends ?_
      rw [left, Reader.expr, Parser.exprFrom]
      rfl
  | cons token rest =>
      have begun : (before.begin level).left stream = token :: rest := left
      have next : peekNext stream.places (before.begin level) =
          some (.ok (.ok rest.head?, before.begin level)) := by
        rw [peekNext_eq, begun, List.tail_cons]
      have first : peek stream.places (before.begin level) =
          some (.ok (.ok (some token), before.begin level)) := by
        rw [peek_eq, begun, List.head?_cons]
      refine (ends_bind_of_eq next).mpr ((ends_bind_of_eq first).mpr ?_)
      cases token with
      | string text =>
          refine literal_ends left ?_
          rw [Reader.expr, Parser.exprFrom]
          rfl
      | decimal digits =>
          -- the reader of tokens has no complaint for digits that denote nothing
          have member : .decimal digits ∈ stream.tokens := by
            refine List.mem_of_mem_drop (?_ : _ ∈ before.left stream)
            rw [left]
            exact List.mem_cons_self
          obtain ⟨decimal, denotes⟩ := Option.isSome_iff_exists.mp (denote digits member)
          simp only [denotes]
          refine literal_ends left ?_
          rw [Reader.expr, Parser.exprFrom, Parser.decimalOf, denotes]
          rfl
      | integer digits =>
          have outcome := Reader.expr_integer before.depth digits rest
          rw [continuesPath_eq] at outcome
          by_cases goesOn : leadsOn rest.head? = true
          · simp only [if_pos goesOn]
            rw [if_pos goesOn] at outcome
            exact bound_ends left outcome
          · simp only [if_neg goesOn]
            rw [if_neg goesOn] at outcome
            cases read : Text.readInt64? digits with
            | none =>
                rw [read] at outcome
                refine noExpression_ends ?_
                rw [left, outcome]
            | some value =>
                rw [read] at outcome
                exact literal_ends left outcome
      | word name =>
          by_cases opens : rest.head? = some .openParen
          · have behind := Cursor.left_behind begun
            simp only [if_pos opens]
            refine (ends_bind_of_eq (advance_eq begun)).mpr ?_
            -- inside of the call fewer tokens are left, by two at least
            refine (call_ends fun inside shorter =>
              argumentLoop_ends denote level name [] inside).mono ?_
            rintro answer after ⟨follows, advances⟩
            rw [behind] at follows
            refine ⟨?_, (advances.behind_begin left).weaken ?_⟩
            · rw [left]
              exact follows opens
            · cases answer <;> exact Nat.le_refl _
          · simp only [if_neg opens]
            have outcome := Reader.expr_word before.depth name opens
            rw [continuesPath_eq] at outcome
            cases keyword : if leadsOn rest.head? then none else Parser.keyword? name with
            | none =>
                rw [keyword] at outcome
                exact bound_ends left outcome
            | some value =>
                rw [keyword] at outcome
                exact literal_ends left outcome
      | _ =>
          refine noExpression_ends ?_
          rw [left, Reader.expr, Parser.exprFrom]
          · rfl
          all_goals nofun
termination_by 2 * (before.left stream).length
decreasing_by
  rw [behind] at shorter
  rw [left, List.length_cons]
  omega

/-- The loop over arguments ends.  With each turn that goes on fewer tokens are left. -/
theorem argumentLoop_ends (denote : DecimalsDenote stream) (level : Nat) (name : String)
    (found : List Expr) (before : Cursor) :
    Ends (argumentLoop stream.places level name found) before
      (ArgumentsRead stream level name found before) := by
  refine Ends.later ?_
  unfold ArgumentsRead
  rw [Reader.argumentLoop_loop]
  refine bind_ends (argumentTurn_ends (expression_ends denote (level + 1) before))
    (fun _ _ moved => moved.1) ?_
  rintro turn between ⟨advances, further⟩ read
  cases turn with
  | done found => exact pure_ends advances
  | yield more =>
      have shorter := (further _ rfl).length_lt
      have rest := argumentLoop_ends denote level name more between
      rw [ArgumentsRead, advances.depth] at rest
      exact rest.mono fun answer after read =>
        ⟨read.1, (advances.trans read.2).weaken (Nat.le_of_eq (Nat.zero_add _))⟩
termination_by 2 * (before.left stream).length + 1

end

/-! ### Whole texts -/

/-- What a reader of tokens answers, as it is reported for a text. -/
def report (stream : TokenStream) (outcome : Except Failure α) : Except Complaint α :=
  outcome.mapError fun failure => ⟨stream.offsetAt failure.remaining, failure.cause.message⟩

theorem report_of_lex {reader : List Token → Except Failure α} {text : String}
    (lexed : Token.lex text = .ok stream) :
    (Parser.readText reader text).mapError ParseError.complaint =
      report stream (reader stream.tokens) := by
  rw [Parser.readText, lexed]
  dsimp only
  cases reader stream.tokens with
  | error failure => rfl
  | ok found => rfl

section

variable {reader : List Place → Nat → Descent α} {text : String}

theorem readText_of_lex (lexed : Token.lex text = .ok stream) :
    readText reader text = reader stream.places := by
  funext bound
  rw [readText, lexed]

theorem ends_of_lex_error {error : ParseError} {holds : Except Complaint α → Cursor → Prop}
    (lexed : Token.lex text = .error error) :
    Ends (readText reader text) before holds ↔ holds (.error error.complaint) before := by
  have refuses : readText reader text = fun _ => throw error.complaint := by
    funext bound
    rw [readText, lexed]
  rw [refuses]
  exact ends_iff_of_eq rfl

end

/-- The decimals of a text denote something. -/
theorem decimalsDenote_of_lex {text : String} (lexed : Token.lex text = .ok stream) :
    DecimalsDenote stream := by
  intro digits member
  obtain ⟨_, -, decimal⟩ := (Token.areSpelled_of_lex lexed).exists_of_mem member
  obtain ⟨negative, whole, fraction, wholeDigits, fractionDigits, spelling⟩ :=
    decimal.exists_signText
  exact Option.isSome_of_eq_some
    (Decimal.ofText?_eq negative wholeDigits fractionDigits spelling)

/-- What was read is the answer if nothing is left over. -/
theorem expectEnd_ends {outcome : Except Failure (α × List Token)} {value : α}
    {holds : Cursor → Prop} (follows : Follows stream outcome (.ok value) before)
    (held : holds before) :
    Ends (fun _ => expectEnd stream.places >>= fun _ => pure value) before fun answer after =>
      answer = report stream (Parser.complete outcome) ∧ holds after := by
  rw [follows.eq_ok]
  refine Ends.bind ((ends_bind_of_eq peek_eq).mpr ?_)
  cases left : before.left stream with
  | nil => exact ends_pure.mpr (ends_pure.mpr ⟨rfl, held⟩)
  | cons token rest =>
      refine (ends_iff_of_eq (complain_eq _)).mpr ⟨?_, held⟩
      rw [left]
      rfl

theorem whole_ends {part : Nat → Descent α} {outcome : Except Failure (α × List Token)}
    {holds : Cursor → Prop}
    (ends : Ends part before fun answer after =>
      Follows stream outcome answer after ∧ holds after) :
    Ends (fun bound => part bound >>= fun found => expectEnd stream.places >>= fun _ => pure found)
      before fun answer after =>
        answer = report stream (Parser.complete outcome) ∧ holds after := by
  refine Ends.bind (ends.mono ?_)
  rintro answer between ⟨follows, held⟩
  cases answer with
  | error complaint =>
      obtain ⟨cause, rfl, rfl⟩ := follows.eq_failAt
      exact ⟨rfl, held⟩
  | ok found => exact expectEnd_ends follows held

/-- From the start of a text at most one expression is begun for each token. -/
theorem Advances.of_start {answer : Except Complaint α}
    (advances : Advances stream 1 (granted 1 2 answer) {} after)
    (notEmpty : 0 < stream.tokens.length) :
    after.begun ≤ stream.tokens.length ∧ after.deepest ≤ Expr.maxNesting + 1 := by
  obtain ⟨-, -, within, begun, deepest⟩ := advances
  have spare : granted 1 2 answer ≤ 2 := by
    cases answer <;> simp [granted]
  dsimp only at within begun deepest
  omega

theorem readExpression_ends (denote : DecimalsDenote stream) :
    Ends (readExpression stream.places) {} fun answer after =>
      answer = report stream (Parser.expr stream.tokens) ∧ after.begun ≤ stream.tokens.length ∧
        after.deepest ≤ Expr.maxNesting + 1 := by
  have start : Cursor.left stream {} = stream.tokens := rfl
  refine (ends_bind_of_eq peek_eq).mpr ?_
  rw [start, Parser.expr]
  by_cases empty : stream.tokens = []
  · simp only [empty, List.head?_nil]
    refine (ends_iff_of_eq (complain_eq _)).mpr ⟨?_, Nat.zero_le _, Nat.zero_le _⟩
    rw [start, empty]
    rfl
  · have notEnd : stream.tokens.head? ≠ none := by
      rw [Ne, List.head?_eq_none_iff]
      exact empty
    simp only [if_neg notEnd, if_neg empty]
    refine whole_ends ((expression_ends denote 1 {}).mono ?_)
    rintro answer after ⟨follows, advances⟩
    exact ⟨follows, advances.of_start (List.length_pos_iff.mpr empty)⟩

theorem readPath_ends :
    Ends (readPath stream.places) {} fun answer after =>
      answer = report stream (Parser.path stream.tokens) ∧ Walks stream {} after := by
  have start : stream.tokens = Cursor.left stream {} := rfl
  refine (ends_bind_of_eq peek_eq).mpr ?_
  rw [start]
  cases left : Cursor.left stream {} with
  | nil => exact ends_pure.mpr ⟨rfl, .refl stream {}⟩
  | cons token rest =>
      by_cases star : token = .star
      · subst star
        refine (ends_bind_of_eq (advance_eq left)).mpr ?_
        have nothing : Follows stream (.ok (([] : Path), rest)) (.ok []) (Cursor.moved 1 {}) := by
          rw [← Cursor.left_behind left]
          exact .found [] _
        exact expectEnd_ends nothing (Walks.one left)
      · have whole : Ends (fun bound => steps stream.places bound >>= fun path =>
            expectEnd stream.places >>= fun _ => pure path) {} _ := whole_ends (steps_end {})
        rw [left, ← Reader.path_eq star] at whole
        cases token with
        | star => contradiction
        | _ => exact whole

/-- Whatever the text is, and wherever in it a reader starts, it ends without a look beyond the
end, which stands behind all tokens.  The cursor moves on with each expression that is read, with
each turn of the loop over arguments that does not fail, and with each turn of the loop over a path
with which the loop goes on.  A call leaves as many calls open as it finds.

From the start of a text the readers with a cursor answer what the readers of texts answer.  They
begin at most one expression for each token, and never read more of them at once than one for each
call that may be open, and one more. -/
theorem readers_progress (text : String) :
    (∀ stream, Token.lex text = .ok stream → ∀ before : Cursor,
      (∀ level, Ends (expression stream.places level) before fun answer after =>
        Advances stream level 2 before after ∧
          ∀ expr, answer = .ok expr → MovesOn stream before after) ∧
      (∀ level name, Ends (call stream.places level name) before fun _ after =>
        after.depth = before.depth) ∧
      (∀ level name found, Ends (argumentTurn stream.places level name found) before
        fun answer after => ∀ turn, answer = .ok turn → MovesOn stream before after) ∧
      (∀ path, Ends (fun _ => tailTurn stream.places path) before fun answer after =>
        ∀ more, answer = .ok (.yield more) → MovesOn stream before after)) ∧
    Ends (readText readExpression text) {} (fun answer after =>
      answer = (Expr.read text).mapError ParseError.complaint ∧
      (∀ stream, Token.lex text = .ok stream → after.begun ≤ stream.tokens.length) ∧
      after.deepest ≤ Expr.maxNesting + 1) ∧
    Ends (readText readPath text) {} fun answer after =>
      answer = (Path.read text).mapError ParseError.complaint ∧ after.begun = 0 := by
  refine ⟨fun stream lexed before => ?_, ?_, ?_⟩
  · have denote := decimalsDenote_of_lex lexed
    refine ⟨fun level => ?_, fun level name => ?_, fun level name found => ?_, fun path => ?_⟩
    · refine (expression_ends denote level before).mono fun answer after read => ⟨?_, ?_⟩
      · exact read.2.weaken (by cases answer <;> simp [granted])
      · rintro expr rfl
        exact read.movesOn
    · refine (call_ends fun inside _ => argumentLoop_ends denote level name [] inside).mono ?_
      exact fun answer after read => read.2.depth
    · refine (argumentTurn_ends (expression_ends denote (level + 1) before)).mono ?_
      exact fun answer after read => read.2.2
    · exact (tailTurn_ends path before).mono fun answer after read => read.2.2
  · cases lexed : Token.lex text with
    | error error =>
        rw [ends_of_lex_error lexed, Expr.read, Parser.readText, lexed]
        refine ⟨rfl, ?_, Nat.zero_le _⟩
        rintro stream ⟨⟩
    | ok stream =>
        rw [readText_of_lex lexed, Expr.read, report_of_lex lexed]
        refine (readExpression_ends (decimalsDenote_of_lex lexed)).mono ?_
        rintro answer after ⟨answered, begun, deepest⟩
        refine ⟨answered, ?_, deepest⟩
        rintro _ ⟨⟩
        exact begun
  · cases lexed : Token.lex text with
    | error error =>
        rw [ends_of_lex_error lexed, Path.read, Parser.readText, lexed]
        exact ⟨rfl, rfl⟩
    | ok stream =>
        rw [readText_of_lex lexed, Path.read, report_of_lex lexed]
        refine readPath_ends.mono ?_
        rintro answer after ⟨answered, steps, -, rfl⟩
        exact ⟨answered, rfl⟩

/-- Nothing is closed in this text.  Its second call is given up inside the first one. -/
theorem readers_progress_unclosed :
    ∃ stream, Token.lex "f(a.b, g(1" = .ok stream ∧
      Ends (call stream.places 2 "g") ⟨7, 1, 3, 2⟩ (fun _ after => after.depth = 1) ∧
      Ends (readText readExpression "f(a.b, g(1") {} fun answer after =>
        answer = .error ⟨10, "unbalanced parentheses in call to 'g'"⟩ ∧ after.begun ≤ 9 ∧
          after.deepest ≤ 257 := by
  have failed : Expr.read "f(a.b, g(1" = .error ⟨10, .unbalancedCall "g"⟩ := by decide +kernel
  have length : (Token.lex "f(a.b, g(1").map (·.tokens.length) = .ok 9 := by decide +kernel
  obtain ⟨readers, expression, -⟩ := readers_progress "f(a.b, g(1"
  cases lexed : Token.lex "f(a.b, g(1" with
  | error error =>
      rw [lexed] at length
      contradiction
  | ok stream =>
      rw [lexed] at length
      refine ⟨stream, rfl, (readers stream lexed ⟨7, 1, 3, 2⟩).2.1 2 "g", ?_⟩
      refine expression.mono ?_
      rintro answer after ⟨answered, begun, deepest⟩
      rw [failed] at answered
      refine ⟨answered, ?_, deepest⟩
      exact (begun stream lexed).trans (Nat.le_of_eq (Except.ok.inj length))

example : ((readText readExpression "f(a.b, g(1" 20).run.run {}).run =
    some (.ok (.error ⟨10, "unbalanced parentheses in call to 'g'"⟩, ⟨9, 0, 4, 3⟩)) := by
  decide +kernel

end Descent

end LiveBinding
