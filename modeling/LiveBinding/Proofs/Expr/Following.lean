import LiveBinding.Proofs.Expr.Descent
import LiveBinding.Proofs.Expr.Turns

/-!
# Readers with a cursor follow readers of tokens

What a reader with a cursor answers is what a reader of tokens answers, and the cursor is left in
front of the tokens that this one leaves over.  Both are made of the same steps, so they are
compared step by step.  The readers of paths move the cursor over tokens and do nothing else.
-/

namespace LiveBinding

namespace Descent

open LiveBinding.Parser (Failure Reader failAt)

variable {stream : TokenStream} {α β : Type} {before between after : Cursor}

/-! ### What readers leave -/

/-- A complaint about the place where a cursor stands. -/
def complaintAt (stream : TokenStream) (cursor : Cursor) (cause : ParseError.Cause) : Complaint :=
  ⟨stream.offsetAt (cursor.left stream).length, cause.message⟩

/-- An answer is what a reader of tokens answers, and the cursor stands where that one stops or
fails. -/
inductive Follows (stream : TokenStream) :
    Except Failure (α × List Token) → Except Complaint α → Cursor → Prop where
  | found (value : α) (after : Cursor) :
      Follows stream (.ok (value, after.left stream)) (.ok value) after
  | failed (cause : ParseError.Cause) (after : Cursor) :
      Follows stream (failAt (after.left stream) cause) (.error (complaintAt stream after cause))
        after

namespace Follows

variable {outcome : Except Failure (α × List Token)}

theorem eq_ok {value : α} (follows : Follows stream outcome (.ok value) after) :
    outcome = .ok (value, after.left stream) := by
  cases follows
  rfl

theorem eq_failAt {complaint : Complaint}
    (follows : Follows stream outcome (.error complaint) after) :
    ∃ cause, outcome = failAt (after.left stream) cause ∧
      complaint = complaintAt stream after cause := by
  cases follows with
  | failed cause => exact ⟨cause, rfl, rfl⟩

theorem skipped (before : Cursor) :
    Follows stream (Reader.skip (before.left stream)) (.ok ()) (before.moved 1) := by
  have behind : (before.left stream).tail = (before.moved 1).left stream := by
    rw [Cursor.left_moved, List.drop_one]
  rw [Reader.skip, behind]
  exact .found () _

/-- Only the position of the cursor counts. -/
theorem congr {answer : Except Complaint α} {other : Cursor}
    (follows : Follows stream outcome answer after) (same : after.left stream = other.left stream) :
    Follows stream outcome answer other := by
  cases follows with
  | found value =>
      rw [same]
      exact .found value other
  | failed cause =>
      rw [same, complaintAt, same]
      exact .failed cause other

end Follows

/-- A reader of tokens is followed, and the cursor is moved in some way. -/
def Leaves (stream : TokenStream) (reader : Reader α)
    (moves : Except Complaint α → Cursor → Prop) (before : Cursor)
    (answer : Except Complaint α) (after : Cursor) : Prop :=
  Follows stream (reader (before.left stream)) answer after ∧ moves answer after

section

variable {moves : Except Complaint α → Cursor → Prop}

theorem pure_ends {value : α} (moved : moves (.ok value) before) :
    Ends (fun _ => pure value) before (Leaves stream (pure value) moves before) :=
  ends_pure.mpr ⟨.found value before, moved⟩

theorem fail_ends {cause : ParseError.Cause}
    (moved : moves (.error (complaintAt stream before cause)) before) :
    Ends (fun _ => complain stream.places cause.message) before
      (Leaves stream (Reader.fail cause) moves before) :=
  (ends_iff_of_eq (complain_eq _)).mpr ⟨.failed cause before, moved⟩

theorem front_ends {next : Option Token → Nat → Descent α} {others : Option Token → Reader α}
    (ends : Ends (next (before.left stream).head?) before
      (Leaves stream (others (before.left stream).head?) moves before)) :
    Ends (fun bound => peek stream.places >>= fun found => next found bound) before
      (Leaves stream (Reader.front >>= others) moves before) :=
  (ends_bind_of_eq peek_eq).mpr ends

theorem leaves_skip {others : Unit → Reader α} :
    Leaves stream (Reader.skip >>= others) moves before =
      Leaves stream (others ()) moves (before.moved 1) := by
  unfold Leaves
  rw [Reader.skip_bind, Cursor.left_moved, List.drop_one]

theorem skip_ends {token : Token} {rest : List Token} (left : before.left stream = token :: rest)
    {next : Unit → Nat → Descent α} {others : Unit → Reader α}
    (ends : Ends (next ()) (before.moved 1) (Leaves stream (others ()) moves (before.moved 1))) :
    Ends (fun bound => advance stream.places >>= fun done => next done bound) before
      (Leaves stream (Reader.skip >>= others) moves before) := by
  rw [leaves_skip]
  exact (ends_bind_of_eq (advance_eq left)).mpr ends

/-- Readers behind one another are followed one by one. -/
theorem bind_ends {first : Nat → Descent β} {next : β → Nat → Descent α} {reader : Reader β}
    {others : β → Reader α} {start : Cursor} {along : Except Complaint β → Cursor → Prop}
    (ends : Ends first before (Leaves stream reader along start))
    (stops : ∀ complaint between, along (.error complaint) between →
      moves (.error complaint) between)
    (goesOn : ∀ value between, along (.ok value) between →
      reader (start.left stream) = .ok (value, between.left stream) →
        Ends (next value) between (Leaves stream (others value) moves between)) :
    Ends (fun bound => first bound >>= fun value => next value bound) before
      (Leaves stream (reader >>= others) moves start) := by
  refine Ends.bind (ends.mono ?_)
  rintro answer between ⟨follows, moved⟩
  cases answer with
  | error complaint =>
      obtain ⟨cause, failed, rfl⟩ := follows.eq_failAt
      refine ⟨?_, stops _ _ moved⟩
      rw [Reader.bind_of_error failed]
      exact .failed cause between
  | ok value =>
      have read := follows.eq_ok
      refine (goesOn value between moved read).mono ?_
      rintro answer after ⟨follows, moved⟩
      refine ⟨?_, moved⟩
      rw [Reader.bind_of_ok read]
      exact follows

end

/-- The cursor moved over tokens, and nothing else has changed. -/
def Walks (stream : TokenStream) (before after : Cursor) : Prop :=
  ∃ steps ≤ (before.left stream).length, after = before.moved steps

namespace Walks

theorem refl (stream : TokenStream) (cursor : Cursor) : Walks stream cursor cursor :=
  ⟨0, Nat.zero_le _, rfl⟩

theorem one {token : Token} {rest : List Token} (left : before.left stream = token :: rest) :
    Walks stream before (before.moved 1) := by
  refine ⟨1, ?_, rfl⟩
  rw [left]
  exact Nat.succ_le_succ (Nat.zero_le _)

theorem trans (first : Walks stream before between) (second : Walks stream between after) :
    Walks stream before after := by
  obtain ⟨steps, within, rfl⟩ := first
  obtain ⟨others, bounded, rfl⟩ := second
  rw [Cursor.left_moved, List.length_drop] at bounded
  exact ⟨steps + others, by omega, Cursor.moved_moved _ _ _⟩

end Walks

/-- The cursor moved on, and not beyond the end. -/
def MovesOn (stream : TokenStream) (before after : Cursor) : Prop :=
  before.position < after.position ∧ after.position ≤ stream.tokens.length

/-- What walks on behind a token has moved on. -/
theorem Walks.movesOn {token : Token} {rest : List Token}
    (left : before.left stream = token :: rest) (walks : Walks stream (before.moved 1) after) :
    MovesOn stream before after := by
  obtain ⟨steps, within, rfl⟩ := walks
  have below := Cursor.position_lt left
  rw [Cursor.length_left] at within
  simp only [Cursor.moved] at within
  simp only [MovesOn, Cursor.moved]
  omega

theorem MovesOn.length_lt (movesOn : MovesOn stream before after) :
    (after.left stream).length < (before.left stream).length := by
  obtain ⟨forward, within⟩ := movesOn
  rw [Cursor.length_left, Cursor.length_left]
  omega

/-- A reader of tokens is followed, and the cursor does nothing but move over tokens. -/
def Reads (stream : TokenStream) (reader : Reader α) (before : Cursor) :
    Except Complaint α → Cursor → Prop :=
  Leaves stream reader (fun _ after => Walks stream before after) before

theorem bind_reads {first : Nat → Descent β} {next : β → Nat → Descent α} {reader : Reader β}
    {others : β → Reader α} {start : Cursor} (ends : Ends first before (Reads stream reader start))
    (goesOn : ∀ value between, Ends (next value) between (Reads stream (others value) between)) :
    Ends (fun bound => first bound >>= fun value => next value bound) before
      (Reads stream (reader >>= others) start) := by
  refine bind_ends ends (fun _ _ walks => walks) fun value between walks _ => ?_
  exact (goesOn value between).mono fun answer after read => ⟨read.1, walks.trans read.2⟩

/-! ### Paths -/

theorem close_ends (before : Cursor) :
    Ends (fun _ => expect stream.places .closeBracket "']'") before
      (Reads stream Reader.close before) := by
  refine front_ends ?_
  by_cases closed : (before.left stream).head? = some .closeBracket
  · obtain ⟨rest, left⟩ := List.head?_eq_some_iff.mp closed
    simp only [if_pos closed]
    exact (ends_iff_of_eq (advance_eq left)).mpr ⟨.skipped before, .one left⟩
  · simp only [if_neg closed]
    have fails (cause : ParseError.Cause) :
        Ends (fun _ => complain (α := Unit) stream.places cause.message) before
          (Reads stream (Reader.fail cause) before) := fail_ends (.refl stream before)
    exact fails (.expectedCloseBracket _)

theorem key_ends (before : Cursor) :
    Ends (fun _ => key stream.places) before (Reads stream Reader.name before) := by
  refine front_ends ?_
  cases found : (before.left stream).head?.bind Parser.key? with
  | none => exact fail_ends (.refl stream before)
  | some name =>
      obtain ⟨token, first, -⟩ := Option.bind_eq_some_iff.mp found
      obtain ⟨rest, left⟩ := List.head?_eq_some_iff.mp first
      exact skip_ends left (pure_ends (.one left))

theorem number_ends (before : Cursor) :
    Ends (fun _ => number stream.places) before (Reads stream Reader.number before) := by
  refine front_ends ?_
  cases left : before.left stream with
  | nil => exact fail_ends (.refl stream before)
  | cons token rest =>
      cases token with
      | integer digits =>
          dsimp only [List.head?_cons]
          cases Parser.index? digits with
          | none => exact fail_ends (.refl stream before)
          | some position => exact skip_ends left (pure_ends (.one left))
      | _ => exact fail_ends (.refl stream before)

/-- A position in brackets is read as one behind the first of them. -/
theorem index_ends {rest : List Token} (left : before.left stream = .openBracket :: rest) :
    Ends (fun _ => index stream.places) before (Reads stream Reader.index (before.moved 1)) := by
  refine (ends_bind_of_eq (expect_eq left _)).mpr ?_
  refine bind_reads (number_ends _) fun position between => ?_
  exact bind_reads (close_ends between) fun _ after => pure_ends (.refl stream after)

/-! ### The loop over a path -/

/-- A turn of the loop over a path.  If it goes on, it has taken a token. -/
theorem tailTurn_ends (path : Path) (before : Cursor) :
    Ends (fun _ => tailTurn stream.places path) before
      (Leaves stream (Reader.tailTurn path) (fun answer after => Walks stream before after ∧
        ∀ more, answer = .ok (.yield more) → MovesOn stream before after) before) := by
  refine front_ends ?_
  cases left : before.left stream with
  | nil => exact pure_ends ⟨.refl stream before, nofun⟩
  | cons token rest =>
      dsimp only [List.head?_cons]
      have further {after : Cursor} (walks : Walks stream (before.moved 1) after) :
          Walks stream before after ∧ MovesOn stream before after :=
        ⟨(Walks.one left).trans walks, walks.movesOn left⟩
      cases token with
      | dot =>
          refine skip_ends left ?_
          exact bind_ends (key_ends _) (fun _ _ walks => ⟨(further walks).1, nofun⟩)
            fun key after walks _ => pure_ends ⟨(further walks).1, fun _ _ => (further walks).2⟩
      | openBracket =>
          dsimp only
          rw [leaves_skip]
          exact bind_ends (index_ends left) (fun _ _ walks => ⟨(further walks).1, nofun⟩)
            fun key after walks _ => pure_ends ⟨(further walks).1, fun _ _ => (further walks).2⟩
      | _ => exact pure_ends ⟨.refl stream before, nofun⟩

/-- The loop over a path ends.  With each turn that goes on fewer tokens are left. -/
theorem tail_ends (path : Path) (before : Cursor) :
    Ends (tail stream.places path) before (Reads stream (Reader.tail path) before) := by
  refine Ends.later ?_
  rw [Reader.tail_loop]
  refine bind_ends (tailTurn_ends path before) (fun _ _ moved => moved.1) ?_
  rintro turn between ⟨walks, further⟩ read
  cases turn with
  | done path => exact pure_ends walks
  | yield more =>
      have shorter := (further more rfl).length_lt
      exact (tail_ends more between).mono fun answer after read => ⟨read.1, walks.trans read.2⟩
termination_by (before.left stream).length

theorem binding_ends (before : Cursor) :
    Ends (binding stream.places) before (Reads stream Reader.binding before) :=
  bind_reads (key_ends before) fun root between =>
    bind_reads (tail_ends [.key root] between) fun _ after => pure_ends (.refl stream after)

theorem firstStep_ends (before : Cursor) :
    Ends (fun _ => firstStep stream.places) before (Reads stream Reader.firstStep before) := by
  refine front_ends ?_
  by_cases opens : (before.left stream).head? = some .openBracket
  · obtain ⟨rest, left⟩ := List.head?_eq_some_iff.mp opens
    simp only [if_pos opens]
    rw [leaves_skip]
    exact bind_ends (index_ends left) (fun _ _ walks => (Walks.one left).trans walks)
      fun _ _ walks _ => pure_ends ((Walks.one left).trans walks)
  · simp only [if_neg opens]
    exact bind_reads (key_ends before) fun _ after => pure_ends (.refl stream after)

theorem steps_end (before : Cursor) :
    Ends (steps stream.places) before
      (Reads stream (Reader.firstStep >>= fun step => Reader.tail [step]) before) :=
  bind_reads (firstStep_ends before) fun step between => tail_ends [step] between

end Descent

end LiveBinding
