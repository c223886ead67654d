import LiveBinding.Proofs.Expr.RoundTrip

/-!
# Canonical expressions

An expression is canonical if each of its parts can be written and is taken for nothing else:
literals have a literal form, names are made of word characters, positions are in range, and digits
in front of a path do not run together with what follows.  The text of a canonical expression is
read as this expression.  It need not have been read before, so the proof follows the expression
and not a phrase of some other text.
-/

namespace LiveBinding

/-! ### What is canonical -/

/-- Whether a value has a literal form. -/
def Value.isLiteral : Value → Bool
  | .number (.decimal value) => value.isFinite
  | .array _ | .object _ => false
  | _ => true

/-- Whether a step of a path can be written. -/
def Segment.isCanonical : Segment → Bool
  | .key name => Text.isName name
  | .index position => decide (position < indexLimit)

/-- Whether a text is a name that is not made of digits only. -/
def Text.isWord (text : String) : Bool := isName text && !isNumeral text.toList

/-- The words that are literals where they stand alone. -/
def Expr.reservedWords : List String := ["null", "true", "false"]

/-- Whether a path is that of a binding and is taken for nothing else. -/
def Path.isCanonical : Path → Bool
  | [.key root] => Text.isWord root && !Expr.reservedWords.contains root
  | .key root :: rest =>
    Text.isName root && rest.all Segment.isCanonical && !beginsLikeDecimal (.key root :: rest)
  | _ => false

/-- Whether each part of an expression can be written and is taken for nothing else. -/
def Expr.isCanonical : Expr → Bool
  | .literal value => value.isLiteral
  | .binding path => path.isCanonical
  | .call name arguments => Text.isWord name && allCanonical arguments
  | .invalid .. => false
where
  allCanonical : List Expr → Bool
    | [] => true
    | argument :: rest => argument.isCanonical && allCanonical rest

/-- How many calls stand in each other at most. -/
def Expr.nesting : Expr → Nat
  | .call _ arguments => deepest arguments + 1
  | _ => 0
where
  deepest : List Expr → Nat
    | [] => 0
    | argument :: rest => max argument.nesting (deepest rest)

/-! ### Words -/

theorem isSpelled_of_isWord {name : String} (word : Text.isWord name = true) :
    (Token.word name).IsSpelled false := by
  rw [Text.isWord, Bool.and_eq_true, Bool.not_eq_true'] at word
  exact ⟨word.1, fun _ => word.2⟩

/-- A word that is not reserved is the name of a context. -/
theorem exprOfWord_of_free {name : String}
    (free : Expr.reservedWords.contains name = false) :
    Phrase.exprOfWord name = .binding [.key name] := by
  obtain same | ⟨rfl, -⟩ | ⟨rfl, -⟩ | ⟨rfl, -⟩ := Phrase.exprOfWord_cases name
  · exact same
  all_goals contradiction

/-! ### Canonical paths -/

namespace PathStep

@[simp] theorem map_segment_ofSegment (path : Path) : (path.map ofSegment).map segment = path := by
  rw [List.map_map]
  exact (List.map_congr_left fun segment _ => segment_ofSegment segment).trans (List.map_id _)

theorem isValid_ofSegment {segment : Segment} (canonical : segment.isCanonical = true) :
    (ofSegment segment).IsValid := by
  cases segment with
  | key => trivial
  | index position =>
      rw [ofSegment, IsValid, Text.toList_natText, Text.readNat_digitChars]
      exact ⟨Text.isNumeral_digitChars position, of_decide_eq_true canonical⟩

/-- The steps of a canonical path are spelled as tokens are. -/
theorem areSpelled_ofSegments {path : Path}
    (canonical : ∀ segment ∈ path, segment.isCanonical = true) :
    Token.AreSpelled false ((path.map ofSegment).flatMap tokens) := by
  induction path with
  | nil => trivial
  | cons segment path ih =>
      have here := canonical segment List.mem_cons_self
      have later := ih fun other member => canonical other (List.mem_cons_of_mem segment member)
      cases segment with
      | key name => exact ⟨trivial, ⟨here, nofun⟩, later⟩
      | index position =>
          have digits : Text.IsInteger (Text.natText position).toList := by
            rw [Text.toList_natText]
            exact ⟨[], _, .inl rfl, Text.isNumeral_digitChars position, rfl⟩
          exact ⟨trivial, ⟨rfl, digits⟩, trivial, later⟩

end PathStep

/-- A name in front of a path is spelled as a number or as a word. -/
theorem exists_pathRoot {name : String} (isName : Text.isName name = true) :
    ∃ root : PathRoot, root.name = name ∧ root.IsValid ∧
      ∀ tokens, Token.AreSpelled false tokens → Token.AreSpelled false (root.token :: tokens) := by
  cases numeral : Text.isNumeral name.toList with
  | true =>
      have digits : Text.IsInteger name.toList := ⟨[], _, .inl rfl, numeral, rfl⟩
      exact ⟨.number name, rfl, numeral, fun _ spelled => ⟨⟨rfl, digits⟩, spelled⟩⟩
  | false =>
      exact ⟨.word name, rfl, trivial, fun _ spelled => ⟨⟨isName, fun _ => numeral⟩, spelled⟩⟩

theorem exists_readsAs_canonicalPath (depth : Nat) {path : Path}
    (canonical : path.isCanonical = true) : ∃ own, ReadsAs depth (.binding path) own := by
  unfold Path.isCanonical at canonical
  split at canonical
  · next root =>
      rw [Bool.and_eq_true, Bool.not_eq_true'] at canonical
      rw [← exprOfWord_of_free canonical.2]
      exact ⟨_, readsAs_word depth (isSpelled_of_isWord canonical.1)⟩
  · next root rest several =>
      cases rest with
      | nil => exact (several rfl).elim
      | cons first rest =>
          rw [Bool.and_eq_true, Bool.and_eq_true, List.all_eq_true] at canonical
          obtain ⟨⟨isName, steps⟩, -⟩ := canonical
          obtain ⟨root, rfl, rootValid, rootSpelled⟩ := exists_pathRoot isName
          have valid :
              (Phrase.path root (.ofSegment first) (rest.map .ofSegment)).IsValid depth := by
            refine ⟨rootValid, fun step member => ?_⟩
            rw [← List.map_cons] at member
            obtain ⟨segment, listed, rfl⟩ := List.mem_map.mp member
            exact PathStep.isValid_ofSegment (steps segment listed)
          have read := exists_readsAs_path valid
            (rootSpelled _ (PathStep.areSpelled_ofSegments steps))
          rw [Phrase.expr, ← List.map_cons, PathStep.map_segment_ofSegment] at read
          exact read
  · contradiction

/-! ### Canonical expressions -/

theorem exists_readsAs_literal (depth : Nat) {value : Value} (literal : value.isLiteral = true) :
    ∃ own, ReadsAs depth (.literal value) own := by
  have reserved : ∀ word ∈ Expr.reservedWords,
      ∃ own, ReadsAs depth (Phrase.exprOfWord word) own := by
    intro word member
    have words : Expr.reservedWords.all Text.isWord = true := by decide +kernel
    have isWord := List.all_eq_true.mp words word member
    exact ⟨_, readsAs_word depth (isSpelled_of_isWord isWord)⟩
  cases value with
  | null => exact reserved "null" (by decide)
  | bool value =>
      cases value with
      | true => exact reserved "true" (by decide)
      | false => exact reserved "false" (by decide)
  | number number =>
      cases number with
      | int value => exact ⟨_, readsAs_integer depth value⟩
      | decimal value =>
          refine exists_readsAs_decimal depth ?_
          rintro rfl
          contradiction
  | string text => exact ⟨_, readsAs_string depth text⟩
  | array | object => contradiction

/-- Where arguments fit, each of them does. -/
theorem fits_of_deepest {depth : Nat} {argument : Expr} {rest : List Expr}
    (fits : depth + Expr.nesting.deepest (argument :: rest) ≤ Expr.maxNesting) :
    depth + argument.nesting ≤ Expr.maxNesting ∧
      depth + Expr.nesting.deepest rest ≤ Expr.maxNesting := by
  rw [Expr.nesting.deepest] at fits
  omega

mutual

/-- However a canonical expression is read, it is read as its faithfulness says. -/
theorem exists_readsAs_canonical : (expr : Expr) → ∀ {depth : Nat}, expr.isCanonical = true →
    depth + expr.nesting ≤ Expr.maxNesting → ∃ own, ReadsAs depth expr own
  | .literal _, depth, canonical, _ => exists_readsAs_literal depth canonical
  | .binding _, depth, canonical, _ => exists_readsAs_canonicalPath depth canonical
  | .call name [], depth, canonical, shallow => by
      rw [Expr.isCanonical, Bool.and_eq_true] at canonical
      rw [Expr.nesting] at shallow
      exact ⟨_, readsAs_emptyCall (isSpelled_of_isWord canonical.1) (by omega)⟩
  | .call name (first :: later), depth, canonical, shallow => by
      rw [Expr.isCanonical, Bool.and_eq_true] at canonical
      rw [Expr.nesting] at shallow
      have fits : depth + 1 + Expr.nesting.deepest (first :: later) ≤ Expr.maxNesting := by omega
      obtain ⟨own, reads⟩ := exists_argumentsReadAs_canonical first later canonical.2 fits
      exact ⟨_, reads.call (isSpelled_of_isWord canonical.1) (by omega)⟩
  | .invalid .., _, canonical, _ => by contradiction
termination_by expr => sizeOf expr

theorem exists_argumentsReadAs_canonical : (first : Expr) → (later : List Expr) →
    ∀ {depth : Nat}, Expr.isCanonical.allCanonical (first :: later) = true →
      depth + Expr.nesting.deepest (first :: later) ≤ Expr.maxNesting →
        ∃ own, ArgumentsReadAs depth (first :: later) own
  | first, [], depth, canonical, shallow => by
      rw [Expr.isCanonical.allCanonical, Bool.and_eq_true] at canonical
      obtain ⟨fits, -⟩ := fits_of_deepest shallow
      obtain ⟨own, reads⟩ := exists_readsAs_canonical first canonical.1 fits
      exact ⟨_, reads.last⟩
  | first, second :: others, depth, canonical, shallow => by
      rw [Expr.isCanonical.allCanonical, Bool.and_eq_true] at canonical
      obtain ⟨fits, laterFit⟩ := fits_of_deepest shallow
      obtain ⟨own, reads⟩ := exists_readsAs_canonical first canonical.1 fits
      obtain ⟨ownLater, readsLater⟩ :=
        exists_argumentsReadAs_canonical second others canonical.2 laterFit
      exact ⟨_, reads.more readsLater⟩
termination_by first later => 1 + sizeOf first + sizeOf later

end

theorem Path.beginsLikeDecimal_of_isCanonical {path : Path} (canonical : path.isCanonical = true) :
    path.beginsLikeDecimal = false := by
  unfold Path.isCanonical at canonical
  split at canonical
  · rfl
  · rw [Bool.and_eq_true, Bool.not_eq_true'] at canonical
    exact canonical.2
  · contradiction

mutual

/-- Canonical expressions are faithful. -/
theorem isFaithful_of_isCanonical : (expr : Expr) → expr.isCanonical = true →
    expr.isFaithful = true
  | .literal (.number (.decimal _)), canonical => canonical
  | .literal (.number (.int _)), _ | .literal .null, _ | .literal (.bool _), _
  | .literal (.string _), _ | .literal (.array _), _ | .literal (.object _), _ => rfl
  | .binding path, canonical => by
      rw [Expr.isFaithful, Path.beginsLikeDecimal_of_isCanonical canonical]
      rfl
  | .call _ arguments, canonical => by
      rw [Expr.isCanonical, Bool.and_eq_true] at canonical
      exact allFaithful_of_allCanonical arguments canonical.2
  | .invalid .., _ => rfl

theorem allFaithful_of_allCanonical : (arguments : List Expr) →
    Expr.isCanonical.allCanonical arguments = true →
      Expr.isFaithful.allFaithful arguments = true
  | [], _ => rfl
  | argument :: rest, canonical => by
      rw [Expr.isCanonical.allCanonical, Bool.and_eq_true] at canonical
      rw [Expr.isFaithful.allFaithful, Bool.and_eq_true]
      exact ⟨isFaithful_of_isCanonical argument canonical.1,
        allFaithful_of_allCanonical rest canonical.2⟩

end

/-- The text of a canonical expression with at most 256 calls in each other is read as this
expression. -/
theorem Expr.read_toText_of_isCanonical (expr : Expr) (canonical : expr.isCanonical = true)
    (shallow : expr.nesting ≤ 256) : Expr.read expr.toText = .ok expr := by
  have fits : 0 + expr.nesting ≤ maxNesting := by rwa [Nat.zero_add]
  obtain ⟨own, reads⟩ := exists_readsAs_canonical expr canonical fits
  exact reads.read_toText_iff.mpr (isFaithful_of_isCanonical expr canonical)

/-- Reserved words and digits in places where they are names, quotes and escapes in a string, and as
many calls in each other as there may be. -/
theorem Expr.read_toText_of_isCanonical_mixed :
    let mixed : Expr := .call "2x"
      [.literal (.string "it's \\ \x7d"), .literal (.int (-5)),
        .literal (.decimal (Parser.decimalOf "-0.50")),
        .binding [.key "007", .index 3, .key "5"], .binding [.key "null", .key "1e5"]]
    let deep : Expr := Nat.repeat (fun inner => .call "f" [inner]) 256 (.literal .null)
    (mixed.isCanonical = true ∧ mixed.nesting ≤ 256 ∧ Expr.read mixed.toText = .ok mixed) ∧
      deep.isCanonical = true ∧ deep.nesting ≤ 256 ∧ Expr.read deep.toText = .ok deep := by
  intro mixed deep
  have mixedCanonical : mixed.isCanonical = true := by decide +kernel
  have mixedShallow : mixed.nesting ≤ 256 := by decide +kernel
  have deepCanonical : deep.isCanonical = true := by decide +kernel
  have deepShallow : deep.nesting ≤ 256 := by decide +kernel
  have mixedRead := read_toText_of_isCanonical mixed mixedCanonical mixedShallow
  have deepRead := read_toText_of_isCanonical deep deepCanonical deepShallow
  exact ⟨⟨mixedCanonical, mixedShallow, mixedRead⟩, deepCanonical, deepShallow, deepRead⟩

end LiveBinding
