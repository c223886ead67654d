import LiveBinding.Proofs.Evaluation
import LiveBinding.Proofs.Expr.Arguments

/-!
# Which operations can be called from text

The names that a registry accepts are those that the reader takes for words, except for the names
that are digits only: these are taken for numbers, so that no text calls them.  A call of any other
registered operation is read as one, and is the operation of the values of its arguments.
-/

namespace LiveBinding

/-! ### Registered operations -/

namespace Registry

variable {registry registered : Registry} {name : String} {operation : Operation}

/-- A name that is accepted is made of word characters, and calls its operation from then on. -/
theorem call_of_register (registers : registry.register name operation = .ok registered) :
    Text.isName name = true ∧ registered.call name = operation := by
  unfold register at registers
  split at registers
  · contradiction
  · next free =>
      split at registers
      · next isName =>
          cases registers
          have custom : Builtin.ofName? name = none := by simpa using free
          refine ⟨isName, funext fun parameters => ?_⟩
          rw [call, custom]
          simp only [Fields.get?_insert_self]
      · contradiction

end Registry

namespace Expr

variable {registry : Registry} {scope : Scope}

theorem evaluate_of_seen {expr : Expr}
    (seen : ∀ id ∈ expr.contextIds, (scope.find? id).isSome) :
    expr.evaluate registry scope = expr.reduce registry scope := by
  rw [evaluate, if_pos (List.all_eq_true.mpr seen)]

theorem reduceAll_eq_map (arguments : List Expr) :
    reduce.reduceAll registry scope arguments = arguments.map (reduce registry scope) := by
  induction arguments with
  | nil => rfl
  | cons argument rest ih => rw [reduce.reduceAll, ih, List.map_cons]

theorem reads_subset_readsAll {argument : Expr} {arguments : List Expr}
    (member : argument ∈ arguments) : argument.reads ⊆ reads.readsAll arguments := by
  induction arguments with
  | nil => contradiction
  | cons first rest ih =>
      rw [reads.readsAll]
      obtain rfl | later := List.mem_cons.mp member
      · exact List.subset_append_left _ _
      · exact List.Subset.trans (ih later) (List.subset_append_right _ _)

/-- What a call is where all its contexts are seen: the operation of the values of the arguments. -/
theorem evaluate_call {name : String} {arguments : List Expr}
    (seen : ∀ id ∈ (Expr.call name arguments).contextIds, (scope.find? id).isSome) :
    (Expr.call name arguments).evaluate registry scope =
      registry.call name (arguments.map (·.evaluate registry scope)) := by
  have values : arguments.map (·.evaluate registry scope) =
      arguments.map (reduce registry scope) := by
    refine List.map_congr_left fun argument member => evaluate_of_seen fun id read => seen id ?_
    rw [contextIds, mem_distinct] at read ⊢
    exact reads_subset_readsAll member read
  rw [evaluate_of_seen seen, reduce, reduceAll_eq_map, values]

theorem ofText_of_read {text : String} {expr : Expr} (read : Expr.read text = .ok expr) :
    Expr.ofText text = expr := by
  rw [ofText, read]

/-- A text that is no expression is its own value. -/
theorem evaluate_of_not_read {text : String} (unread : ∀ expr, Expr.read text ≠ .ok expr)
    (registry : Registry) (scope : Scope) :
    (Expr.ofText text).evaluate registry scope = .string text := by
  rw [ofText]
  cases read : Expr.read text with
  | ok expr => exact absurd read (unread expr)
  | error => rfl

end Expr

/-! ### Calls in texts -/

namespace Registry

variable {registry registered : Registry} {name : String} {operation : Operation}

/-- A name that was registered calls its operation from every text that writes it in front of
arguments in parentheses, if it is not made of digits only.  In front of digits there is no call:
the text is no expression, and is its own value. -/
theorem calls_from_text (registers : registry.register name operation = .ok registered)
    {texts : List String} {arguments : List Expr} (areRead : Expr.AreRead texts arguments)
    (shallow : (Expr.call name arguments).nesting ≤ Expr.maxNesting) :
    let text := Text.callText name texts
    (Text.isNumeral name.toList = false →
        Expr.read text = .ok (.call name arguments) ∧
          ∀ scope : Scope, (∀ id ∈ (Expr.ofText text).contextIds, (scope.find? id).isSome) →
            (Expr.ofText text).evaluate registered scope =
              operation (arguments.map (·.evaluate registered scope))) ∧
      (Text.isNumeral name.toList = true →
        (∀ expr, Expr.read text ≠ .ok expr) ∧
          ∀ scope : Scope, (Expr.ofText text).evaluate registered scope = .string text) := by
  intro text
  obtain ⟨isName, calls⟩ := call_of_register registers
  constructor
  · intro noNumeral
    have word : Text.isWord name = true := by rw [Text.isWord, isName, noNumeral]; rfl
    have read := Expr.read_callText word areRead shallow
    refine ⟨read, fun scope seen => ?_⟩
    rw [show Expr.ofText text = _ from Expr.ofText_of_read read] at seen ⊢
    rw [Expr.evaluate_call seen, calls]
  · intro numeral
    have unread := Expr.read_callText_of_isNumeral numeral texts
    exact ⟨unread, fun scope => Expr.evaluate_of_not_read unread registered scope⟩

/-- A name that begins with digits is called, with a call, a string with a comma and a binding
among the arguments; a name that is a digit is not. -/
theorem calls_from_text_digits :
    let count : Operation := fun parameters => .int (.ofNat parameters.length)
    let texts := ["gt(1, 2.5)", "'),'", " a.b[0]"]
    let scope := Scope.ofContexts [⟨"a", .null⟩]
    (∃ registered, Registry.empty.register "2fa" count = .ok registered ∧
        (Expr.ofText (Text.callText "2fa" texts)).evaluate registered scope = .int 3) ∧
      ∃ registered, Registry.empty.register "1" count = .ok registered ∧
        (Expr.ofText (Text.callText "1" texts)).evaluate registered scope =
          .string "1(gt(1, 2.5), '),',  a.b[0])" := by
  intro count texts scope
  let arguments : List Expr := [.call "gt" [.literal (.int 1), .literal (.decimal
    (Parser.decimalOf "2.5"))], .literal (.string "),"), .binding [.key "a", .key "b", .index 0]]
  have areRead : Expr.AreRead texts arguments :=
    .cons (by decide +kernel) (.cons (by decide +kernel) (.cons (by decide +kernel) .nil))
  constructor
  · have registers : Registry.empty.register "2fa" count = .ok ⟨[("2fa", count)]⟩ := rfl
    have shallow : (Expr.call "2fa" arguments).nesting ≤ Expr.maxNesting := by decide +kernel
    have seen : ∀ id ∈ (Expr.ofText (Text.callText "2fa" texts)).contextIds,
        (scope.find? id).isSome := by decide +kernel
    exact ⟨_, registers,
      ((calls_from_text registers areRead shallow).1 (by decide +kernel)).2 scope seen⟩
  · have registers : Registry.empty.register "1" count = .ok ⟨[("1", count)]⟩ := rfl
    have shallow : (Expr.call "1" arguments).nesting ≤ Expr.maxNesting := by decide +kernel
    exact ⟨_, registers,
      ((calls_from_text registers areRead shallow).2 (by decide +kernel)).2 scope⟩

end Registry

end LiveBinding
