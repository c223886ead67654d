import LiveBinding.Evaluation
import LiveBinding.Proofs.Decimal.Range
import LiveBinding.Proofs.Expr.RoundTrip
import LiveBinding.Proofs.Operation.Finiteness
import LiveBinding.Proofs.Value.InPlace

/-!
# Where infinite decimals come from

A decimal in the value of an expression is finite, or it is one of the contexts, or a literal of
the expression.  With finite decimals in the contexts only a literal can bring in an infinite one,
and it does so exactly if its digits are out of range.  No literal is undefined.
-/

namespace LiveBinding

/-! ### Parts of a value -/

namespace Value

variable {allowed : Decimal → Prop}

theorem CarriesOnly.child? {step : Segment} {target child : Value}
    (carries : target.CarriesOnly allowed) (found : target.child? step = some child) :
    child.CarriesOnly allowed := by
  unfold Value.child? at found
  split at found
  · exact (carriesOnly_object _).mp carries _ (Fields.mem_of_get? found)
  · exact (carriesOnly_array _).mp carries _ (List.mem_of_getElem? found)
  · contradiction

theorem CarriesOnly.lookup? {path : Path} {target part : Value}
    (carries : target.CarriesOnly allowed) (found : target.lookup? path = some part) :
    part.CarriesOnly allowed := by
  induction path generalizing target with
  | nil =>
      cases found
      exact carries
  | cons step rest ih =>
      rw [lookup?_cons, Option.bind_eq_some_iff] at found
      obtain ⟨child, here, found⟩ := found
      exact ih (carries.child? here) found

end Value

/-- All that is seen in a scope has only some decimals in it. -/
def Scope.CarriesOnly (allowed : Decimal → Prop) (scope : Scope) : Prop :=
  ∀ id value, scope.value? id = some value → value.CarriesOnly allowed

namespace Scope

variable {allowed : Decimal → Prop}

theorem carriesOnly_ofContexts {contexts : List Context}
    (carries : ∀ context ∈ contexts, context.value.CarriesOnly allowed) :
    (ofContexts contexts).CarriesOnly allowed := by
  intro id value seen
  rw [value?, ofContexts, find?_ofEntries, Option.map_eq_some_iff] at seen
  obtain ⟨entry, found, rfl⟩ := seen
  obtain ⟨context, member, rfl⟩ := List.mem_map.mp (List.mem_of_find?_eq_some found)
  exact carries context member

theorem CarriesOnly.read? {scope : Scope} (carries : scope.CarriesOnly allowed) {path : Path}
    {value : Value} (found : scope.read? path = some value) : value.CarriesOnly allowed := by
  unfold Scope.read? at found
  split at found
  · rw [Option.bind_eq_some_iff] at found
    obtain ⟨whole, visible, found⟩ := found
    exact (carries _ whole visible).lookup? found
  · contradiction

end Scope

namespace Expr

/-! ### The value of an expression -/

/-- The decimals in the literals of an expression. -/
def decimals : Expr → List Decimal
  | .literal value => value.decimals
  | .binding _ => []
  | .call _ arguments => inAll arguments
  | .invalid .. => []
where
  inAll : List Expr → List Decimal
    | [] => []
    | argument :: rest => argument.decimals ++ inAll rest

variable {allowed : Decimal → Prop} {scope : Scope}

mutual

/-- What holds of all finite decimals, of those that are seen and of the literals holds of the
decimals in the value. -/
theorem carriesOnly_reduce (finite : ∀ decimal, decimal.isFinite = true → allowed decimal)
    (seen : scope.CarriesOnly allowed) : (expr : Expr) →
      (∀ decimal ∈ expr.decimals, allowed decimal) →
        (expr.reduce .empty scope).CarriesOnly allowed
  | .literal _, literals => literals
  | .binding path, _ => by
      rw [reduce]
      cases found : scope.read? path with
      | none => exact Value.carriesOnly_null
      | some value => exact seen.read? found
  | .call name arguments, literals =>
      Registry.carriesOnly_call_empty finite
        (carriesOnly_reduceAll finite seen arguments literals) name
  | .invalid text _, _ => Value.carriesOnly_string text

theorem carriesOnly_reduceAll (finite : ∀ decimal, decimal.isFinite = true → allowed decimal)
    (seen : scope.CarriesOnly allowed) : (arguments : List Expr) →
      (∀ decimal ∈ decimals.inAll arguments, allowed decimal) →
        ∀ value ∈ reduce.reduceAll .empty scope arguments, value.CarriesOnly allowed
  | [], _ => nofun
  | argument :: rest, literals => by
      obtain ⟨here, behind⟩ := List.forall_mem_append.mp literals
      exact List.forall_mem_cons.mpr
        ⟨carriesOnly_reduce finite seen argument here,
          carriesOnly_reduceAll finite seen rest behind⟩

end

theorem carriesOnly_evaluate (finite : ∀ decimal, decimal.isFinite = true → allowed decimal)
    (seen : scope.CarriesOnly allowed) {expr : Expr}
    (literals : ∀ decimal ∈ expr.decimals, allowed decimal) :
    (expr.evaluate .empty scope).CarriesOnly allowed := by
  rw [evaluate]
  split
  · exact carriesOnly_reduce finite seen expr literals
  · exact Value.carriesOnly_null

end Expr

/-! ### The literals of a text -/

namespace Phrase

theorem decimals_exprOfWord (name : String) : (exprOfWord name).decimals = [] := by
  obtain same | ⟨-, same⟩ | ⟨-, same⟩ | ⟨-, same⟩ := exprOfWord_cases name
  all_goals
    rw [same]
    rfl

mutual

/-- Each decimal literal of an expression is denoted by a token of its own. -/
theorem exists_mem_tokens : (phrase : Phrase) → ∀ {decimal : Decimal},
    decimal ∈ phrase.expr.decimals →
      ∃ digits, .decimal digits ∈ phrase.tokens ∧ decimalOf digits = decimal
  | .string _, _, member => by contradiction
  | .decimal digits, _, member =>
      ⟨digits, List.mem_singleton_self _, (List.mem_singleton.mp member).symm⟩
  | .integer _, _, member => by contradiction
  | .word name, _, member => by
      rw [expr, decimals_exprOfWord] at member
      contradiction
  | .path .., _, member => by contradiction
  | .call _ [], _, member => by contradiction
  | .call _ (first :: rest), _, member => by
      rw [expr, expr.exprs, Expr.decimals, Expr.decimals.inAll, List.mem_append] at member
      simp only [tokens, List.mem_cons, List.mem_append]
      obtain here | behind := member
      · obtain ⟨digits, found, denotes⟩ := exists_mem_tokens first here
        exact ⟨digits, .inr (.inr (.inl found)), denotes⟩
      · obtain ⟨digits, found, denotes⟩ := exists_mem_argumentTokens rest behind
        exact ⟨digits, .inr (.inr (.inr (.inl found))), denotes⟩

theorem exists_mem_argumentTokens : (arguments : List Phrase) → ∀ {decimal : Decimal},
    decimal ∈ Expr.decimals.inAll (expr.exprs arguments) →
      ∃ digits, .decimal digits ∈ tokens.argumentTokens arguments ∧ decimalOf digits = decimal
  | [], _, member => by contradiction
  | argument :: rest, _, member => by
      rw [expr.exprs, Expr.decimals.inAll, List.mem_append] at member
      simp only [tokens.argumentTokens, List.mem_cons, List.mem_append]
      obtain here | behind := member
      · obtain ⟨digits, found, denotes⟩ := exists_mem_tokens argument here
        exact ⟨digits, .inr (.inl found), denotes⟩
      · obtain ⟨digits, found, denotes⟩ := exists_mem_argumentTokens rest behind
        exact ⟨digits, .inr (.inr found), denotes⟩

end

end Phrase

/-- Each token of a text is spelled as it must be, behind a point or elsewhere. -/
theorem Token.AreSpelled.exists_of_mem {afterDot : Bool} {tokens : List Token} {token : Token}
    (spelled : AreSpelled afterDot tokens) (member : token ∈ tokens) :
    ∃ behindDot, token.IsSpelled behindDot := by
  induction tokens generalizing afterDot with
  | nil => contradiction
  | cons first rest ih =>
      obtain rfl | later := List.mem_cons.mp member
      · exact ⟨afterDot, spelled.1⟩
      · exact ih spelled.2 later

/-! ### Literals out of range -/

/-- Whether digits with a point denote a number that is too large for a finite decimal. -/
def Text.IsOutOfRange (negative : Bool) (digits : String) : Prop :=
  ∃ whole fraction, isNumeral whole = true ∧ isNumeral fraction = true ∧
    digits.toList = (signText negative).toList ++ (whole ++ '.' :: fraction) ∧
      Decimal.leastInfinite * 10 ^ fraction.length ≤ readNat (whole ++ fraction)

theorem Text.IsOutOfRange.isDecimal {negative : Bool} {digits : String}
    (outOfRange : IsOutOfRange negative digits) : IsDecimal digits.toList := by
  obtain ⟨whole, fraction, wholeDigits, fractionDigits, spelling, -⟩ := outOfRange
  refine ⟨_, whole, fraction, isSign_signText negative, wholeDigits, fractionDigits, ?_⟩
  rw [spelling, List.append_assoc]

namespace Phrase

theorem decimalOf_of_isOutOfRange {negative : Bool} {digits : String}
    (outOfRange : Text.IsOutOfRange negative digits) :
    decimalOf digits = .infinite negative := by
  obtain ⟨whole, fraction, wholeDigits, fractionDigits, spelling, large⟩ := outOfRange
  rw [decimalOf_eq negative wholeDigits fractionDigits spelling]
  refine (Decimal.toDecimal_cases _ negative).resolve_left ?_
  rw [Decimal.Digits.isFinite_toDecimal, Nat.not_lt]
  exact large

/-- A decimal literal is finite or out of range. -/
theorem decimalOf_cases {digits : String} (decimal : Text.IsDecimal digits.toList) :
    (decimalOf digits).isFinite = true ∨ ∃ negative, Text.IsOutOfRange negative digits := by
  obtain ⟨negative, whole, fraction, wholeDigits, fractionDigits, spelling⟩ :=
    decimal.exists_signText
  rw [decimalOf_eq negative wholeDigits fractionDigits spelling,
    Decimal.Digits.isFinite_toDecimal]
  rcases Nat.lt_or_ge (Text.readNat (whole ++ fraction))
    (Decimal.leastInfinite * 10 ^ fraction.length) with small | large
  · exact .inl small
  · exact .inr ⟨negative, whole, fraction, wholeDigits, fractionDigits, spelling, large⟩

end Phrase

namespace Expr

/-- Digits with a point among them are a literal. -/
theorem ofText_of_isDecimal {digits : String} (decimal : Text.IsDecimal digits.toList) :
    ofText digits = .literal (.decimal (Phrase.decimalOf digits)) := by
  have lexed := Token.tokensFrom_decimal decimal (Text.stops_nil _)
  rw [List.append_nil, Token.tokensFrom_nil, Option.map_some, String.ofList_toList] at lexed
  have derives : (Phrase.decimal digits).Derives digits := derives_iff.mpr ⟨lexed, trivial⟩
  rw [ofText, read_eq_ok_iff.mpr ⟨_, derives, rfl⟩]
  rfl

/-- A decimal literal of a text is finite, or it is infinite and its digits are out of range. -/
theorem cases_of_mem_decimals {text : String} {decimal : Decimal}
    (member : decimal ∈ (ofText text).decimals) :
    decimal.isFinite = true ∨ ∃ stream digits negative, Token.lex text = .ok stream ∧
      .decimal digits ∈ stream.tokens ∧ Text.IsOutOfRange negative digits ∧
        decimal = .infinite negative := by
  unfold ofText at member
  split at member
  · next expr read =>
      obtain ⟨phrase, derives, rfl⟩ := read_eq_ok_iff.mp read
      obtain ⟨digits, found, rfl⟩ := phrase.exists_mem_tokens member
      obtain ⟨behindDot, spelled⟩ := derives.areSpelled.exists_of_mem found
      obtain finite | ⟨negative, outOfRange⟩ := Phrase.decimalOf_cases spelled.2
      · exact .inl finite
      · have tokens := derives.1
        cases lexed : Token.lex text with
        | error failure =>
            rw [lexed] at tokens
            contradiction
        | ok stream =>
            rw [lexed] at tokens
            have same : stream.tokens = phrase.tokens := Except.ok.inj tokens
            exact .inr ⟨stream, digits, negative, rfl, same ▸ found, outOfRange,
              Phrase.decimalOf_of_isOutOfRange outOfRange⟩
  · contradiction

/-- With the built-in operations alone and only finite decimals in the contexts, each decimal in
the value of a text, at any depth, is finite, or else the text has a literal out of range and the
decimal is infinite like that literal.  A text that is such a literal has that infinite value. -/
theorem finite_but_for_literals (text : String) (contexts : List Context)
    (finite : ∀ context ∈ contexts, ∀ decimal ∈ context.value.decimals,
      decimal.isFinite = true) :
    (∀ decimal ∈ ((ofText text).evaluate .empty (.ofContexts contexts)).decimals,
      decimal.isFinite = true ∨ ∃ stream digits negative, Token.lex text = .ok stream ∧
        .decimal digits ∈ stream.tokens ∧ Text.IsOutOfRange negative digits ∧
          decimal = .infinite negative) ∧
      ∀ negative, Text.IsOutOfRange negative text →
        (ofText text).evaluate .empty (.ofContexts contexts) = .decimal (.infinite negative) := by
  constructor
  · have seen := Scope.carriesOnly_ofContexts finite
    refine carriesOnly_evaluate (fun decimal isFinite => .inl isFinite) ?_
      fun decimal member => cases_of_mem_decimals member
    exact fun id value visible decimal member => .inl (seen id value visible decimal member)
  · intro negative outOfRange
    rw [ofText_of_isDecimal outOfRange.isDecimal, Phrase.decimalOf_of_isOutOfRange outOfRange]
    rfl

/-- A sum of a number and a numeric text is put behind a decimal of a context.  A literal of 309
digits in front of its point is infinite. -/
theorem finite_but_for_literals_insert :
    let contexts : List Context := [⟨"a", .array [.decimal (Decimal.ofInt 2)]⟩]
    let call := (ofText "insert(a, sum(1, '0.5'))").evaluate .empty (.ofContexts contexts)
    let large := String.ofList ('2' :: List.replicate 308 '0' ++ ['.', '0'])
    call.decimals.length = 2 ∧ (∀ decimal ∈ call.decimals, decimal.isFinite = true) ∧
      (ofText large).evaluate .empty (.ofContexts contexts) = .decimal (.infinite false) := by
  intro contexts call large
  have finite : ∀ context ∈ contexts, ∀ decimal ∈ context.value.decimals,
      decimal.isFinite = true := by decide +kernel
  have noLiterals : ((Token.lex "insert(a, sum(1, '0.5'))").toOption.map TokenStream.tokens) =
      some [.word "insert", .openParen, .word "a", .comma, .word "sum", .openParen,
        .integer "1", .comma, .string "0.5", .closeParen, .closeParen] := by decide +kernel
  have outOfRange : Text.IsOutOfRange false large :=
    ⟨'2' :: List.replicate 308 '0', ['0'], by decide +kernel, by decide +kernel,
      String.toList_ofList, by decide +kernel⟩
  refine ⟨by decide +kernel, fun decimal member => ?_,
    (finite_but_for_literals large contexts finite).2 false outOfRange⟩
  obtain isFinite | ⟨stream, digits, _, lexed, found, -⟩ :=
    (finite_but_for_literals _ contexts finite).1 decimal member
  · exact isFinite
  · rw [lexed] at noLiterals
    have tokens := Option.some.inj noLiterals
    rw [tokens] at found
    simp at found

end Expr

end LiveBinding
