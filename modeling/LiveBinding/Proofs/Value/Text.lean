import LiveBinding.Operation.Comparison
import LiveBinding.Proofs.Decimal.Text
import LiveBinding.Proofs.Text.Quoted
import LiveBinding.Proofs.Value.Agreement

/-!
# The text of a value shows the value

With finite decimals, the text of a value shows which value it is, and it shows where it ends in
front of a comma or a closing bracket.  So lists of values are told apart by the texts of their
items with commas between, which is how lists are compared.
-/

namespace LiveBinding

namespace Text

/-! ### What follows the text of a value -/

/-- The characters that may follow the text of a value. -/
def endings : List Char := [',', ']', '\x7d']

/-- What may follow the text of a value: one of these characters, or nothing. -/
def Ends (rest : List Char) : Prop := ∀ char, rest.head? = some char → char ∈ endings

/-- What may follow the text of the last value of some. -/
def Closes (rest : List Char) : Prop := Ends rest ∧ rest.head? ≠ some ','

theorem Ends.of_append {chars rest : List Char} (ends : Ends (chars ++ rest)) : Ends chars := by
  intro char first
  exact ends char (by rw [List.head?_append, first, Option.some_or])

theorem closes_nil : Closes [] := ⟨nofun, nofun⟩

theorem ends_cons {char : Char} (ending : char ∈ endings) (rest : List Char) :
    Ends (char :: rest) := by
  rintro other ⟨⟩
  exact ending

theorem not_ends_cons {char : Char} (noEnding : char ∉ endings) (rest : List Char) :
    ¬Ends (char :: rest) :=
  fun ends => noEnding (ends char rfl)

theorem closes_bracket (rest : List Char) : Closes (']' :: rest) :=
  ⟨ends_cons (by decide) rest, nofun⟩

theorem closes_brace (rest : List Char) : Closes ('\x7d' :: rest) :=
  ⟨ends_cons (by decide) rest, nofun⟩

/-! ### Texts with commas between -/

theorem toList_join_cons (first : String) (later : List String) :
    (join "," (first :: later)).toList =
      first.toList ++ later.flatMap fun text => ',' :: text.toList := by
  induction later generalizing first with
  | nil => rw [join, List.flatMap_nil, List.append_nil]
  | cons second later ih =>
      rw [join, String.toList_append, String.toList_append, ih, List.flatMap_cons,
        List.append_assoc]
      · rfl
      · exact List.cons_ne_nil _ _

section

variable {α : Type} (text : α → String)

/-- Two items whose texts are told apart, also in front of what follows. -/
def AreToldApart (item other : α) : Prop :=
  ∀ {rest left : List Char}, Ends rest → Ends left →
    (text item).toList ++ rest = (text other).toList ++ left → item = other ∧ rest = left

variable {text} {items others : List α} {rest left : List Char}

theorem ends_flatMap_append (ends : Ends rest) :
    Ends ((items.flatMap fun item => ',' :: (text item).toList) ++ rest) := by
  cases items with
  | nil => exact ends
  | cons item items => exact ends_cons (by decide) _

theorem eq_of_flatMap_append
    (apart : ∀ item ∈ items, ∀ other ∈ others, AreToldApart text item other)
    (closes : Closes rest) (closesLeft : Closes left)
    (same : (items.flatMap fun item => ',' :: (text item).toList) ++ rest =
      (others.flatMap fun item => ',' :: (text item).toList) ++ left) :
    items = others ∧ rest = left := by
  induction items generalizing others with
  | nil =>
      cases others with
      | nil => exact ⟨rfl, same⟩
      | cons other others => exact absurd (congrArg List.head? same) closes.2
  | cons item items ih =>
      cases others with
      | nil => exact absurd (congrArg List.head? same).symm closesLeft.2
      | cons other others =>
          obtain ⟨first, later⟩ := List.forall_mem_cons.mp apart
          obtain ⟨firstFirst, firstLater⟩ := List.forall_mem_cons.mp first
          rw [List.flatMap_cons, List.flatMap_cons, List.append_assoc, List.append_assoc,
            List.cons_append, List.cons_append] at same
          obtain ⟨rfl, behind⟩ := firstFirst (ends_flatMap_append closes.1)
            (ends_flatMap_append closesLeft.1) (List.cons.inj same).2
          obtain ⟨rfl, sameRest⟩ := ih
            (fun item member => (List.forall_mem_cons.mp (later item member)).2) behind
          exact ⟨rfl, sameRest⟩

/-- Lists are told apart by the texts of their items with commas between, if the items are and none
of their texts begins as if it were over. -/
theorem eq_of_join_append (begins : ∀ item ∈ items ++ others, ¬Ends (text item).toList)
    (apart : ∀ item ∈ items, ∀ other ∈ others, AreToldApart text item other)
    (closes : Closes rest) (closesLeft : Closes left)
    (same : (join "," (items.map text)).toList ++ rest =
      (join "," (others.map text)).toList ++ left) :
    items = others ∧ rest = left := by
  cases items with
  | nil =>
      cases others with
      | nil => exact ⟨rfl, same⟩
      | cons other others =>
          rw [List.map_cons, toList_join_cons, List.append_assoc] at same
          change rest = _ at same
          rw [same] at closes
          exact absurd closes.1.of_append (begins other List.mem_cons_self)
  | cons item items =>
      rw [List.map_cons, toList_join_cons, List.append_assoc] at same
      cases others with
      | nil =>
          change _ = left at same
          rw [← same] at closesLeft
          exact absurd closesLeft.1.of_append (begins item List.mem_cons_self)
      | cons other others =>
          rw [List.map_cons, toList_join_cons, List.append_assoc, List.flatMap_map,
            List.flatMap_map] at same
          obtain ⟨rfl, behind⟩ := apart item List.mem_cons_self other List.mem_cons_self
            (ends_flatMap_append closes.1) (ends_flatMap_append closesLeft.1) same
          obtain ⟨rfl, sameRest⟩ := eq_of_flatMap_append
            (fun item member other otherMember => apart item (List.mem_cons_of_mem _ member) other
              (List.mem_cons_of_mem _ otherMember)) closes closesLeft behind
          exact ⟨rfl, sameRest⟩

end

end Text

open Text (endings Ends not_ends_cons closes_nil closes_bracket closes_brace AreToldApart
  eq_of_join_append)

/-! ### Numbers -/

/-- The characters of a number with a finite value. -/
def isNumberChar (char : Char) : Bool := char.isDigit || char == '-' || char == '.'

theorem isNumberChar_eq_false : ∀ char ∈ endings, isNumberChar char = false := by
  simp [endings, isNumberChar]

theorem stops_of_ends {rest : List Char} (ends : Ends rest) : Text.Stops isNumberChar rest :=
  fun char first => isNumberChar_eq_false char (ends char first)

namespace Number

theorem isNumberChar_of_isDigit {char : Char} (digit : char.isDigit = true) :
    isNumberChar char = true := by
  rw [isNumberChar, digit, Bool.true_or, Bool.true_or]

variable {number other : Number}

/-- The text of a number is that of an integer, or one with a point. -/
theorem isInteger_or_isDecimal (finite : (Value.number number).CarriesOnly (·.isFinite = true)) :
    Text.IsInteger number.toText.toList ∨ Text.IsDecimal number.toText.toList := by
  cases number with
  | int value => exact .inl (Text.isInteger_intText value.toInt)
  | decimal value =>
      exact .inr (Decimal.isDecimal_toText ((Value.carriesOnly_decimal value).mp finite))

theorem toText_ne_nil (finite : (Value.number number).CarriesOnly (·.isFinite = true)) :
    number.toText.toList ≠ [] := by
  obtain ⟨sign, whole, -, numeral, shape⟩ | ⟨sign, whole, fraction, -, -, -, shape⟩ :=
    isInteger_or_isDecimal finite
  · rw [shape]
    exact List.append_ne_nil_of_right_ne_nil _ (Text.isNumeral_iff.mp numeral).1
  · rw [shape]
    exact List.append_ne_nil_of_right_ne_nil _ (List.cons_ne_nil _ _)

theorem isNumberChar_of_mem_toText
    (finite : (Value.number number).CarriesOnly (·.isFinite = true)) :
    ∀ char ∈ number.toText.toList, isNumberChar char = true := by
  have signChars : ∀ {sign : List Char}, Text.IsSign sign →
      ∀ char ∈ sign, isNumberChar char = true := by
    rintro sign (rfl | rfl)
    · exact nofun
    · simp [isNumberChar]
  have digitChars : ∀ {digits : List Char}, Text.isNumeral digits = true →
      ∀ char ∈ digits, isNumberChar char = true := fun numeral char member =>
    isNumberChar_of_isDigit ((Text.isNumeral_iff.mp numeral).2 char member)
  obtain ⟨sign, whole, isSign, numeral, shape⟩ |
      ⟨sign, whole, fraction, isSign, numeral, fractionNumeral, shape⟩ :=
    isInteger_or_isDecimal finite
  · rw [shape, List.forall_mem_append]
    exact ⟨signChars isSign, digitChars numeral⟩
  · rw [shape, List.forall_mem_append, List.forall_mem_append, List.forall_mem_cons]
    exact ⟨⟨signChars isSign, digitChars numeral⟩, by decide, digitChars fractionNumeral⟩

theorem point_notMem_of_isInteger {chars : List Char} (integer : Text.IsInteger chars) :
    '.' ∉ chars := by
  obtain ⟨sign, whole, isSign, numeral, rfl⟩ := integer
  rw [List.mem_append]
  rintro (inSign | inWhole)
  · obtain rfl | rfl := isSign
    · contradiction
    · exact absurd inSign (by decide)
  · exact absurd ((Text.isNumeral_iff.mp numeral).2 '.' inWhole) (by decide)

theorem point_mem_of_isDecimal {chars : List Char} (decimal : Text.IsDecimal chars) :
    '.' ∈ chars := by
  obtain ⟨sign, whole, fraction, -, -, -, rfl⟩ := decimal
  exact List.mem_append_right _ List.mem_cons_self

/-- An integer has no point, a decimal has one, and each is read back from its text. -/
theorem eq_of_toText (finite : (Value.number number).CarriesOnly (·.isFinite = true))
    (otherFinite : (Value.number other).CarriesOnly (·.isFinite = true))
    (same : number.toText = other.toText) : number = other := by
  cases number with
  | int value =>
      have integer := Text.isInteger_intText value.toInt
      cases other with
      | int otherValue =>
          have read := Text.readInt64?_intText value
          rw [show Text.intText value.toInt = Text.intText otherValue.toInt from same,
            Text.readInt64?_intText] at read
          rw [Option.some.inj read]
      | decimal otherValue =>
          have decimal := Decimal.isDecimal_toText ((Value.carriesOnly_decimal _).mp otherFinite)
          have point := point_mem_of_isDecimal decimal
          rw [show otherValue.toText = Text.intText value.toInt from same.symm] at point
          exact absurd point (point_notMem_of_isInteger integer)
  | decimal value =>
      have isFinite := (Value.carriesOnly_decimal value).mp finite
      cases other with
      | int otherValue =>
          have point := point_mem_of_isDecimal (Decimal.isDecimal_toText isFinite)
          rw [show value.toText = Text.intText otherValue.toInt from same] at point
          exact absurd point (point_notMem_of_isInteger (Text.isInteger_intText _))
      | decimal otherValue =>
          have otherIsFinite := (Value.carriesOnly_decimal otherValue).mp otherFinite
          have read := Decimal.ofText?_toText isFinite
          rw [show value.toText = otherValue.toText from same,
            Decimal.ofText?_toText otherIsFinite] at read
          rw [Option.some.inj read]

theorem areToldApart (finite : (Value.number number).CarriesOnly (·.isFinite = true))
    (otherFinite : (Value.number other).CarriesOnly (·.isFinite = true)) :
    AreToldApart toText number other := by
  intro rest left ends endsLeft same
  have stops := stops_of_ends ends
  have stopsLeft := stops_of_ends endsLeft
  have chars := isNumberChar_of_mem_toText finite
  have otherChars := isNumberChar_of_mem_toText otherFinite
  have sameText := congrArg (List.takeWhile isNumberChar) same
  rw [Text.takeWhile_append_of_stops chars stops,
    Text.takeWhile_append_of_stops otherChars stopsLeft] at sameText
  rw [sameText] at same
  exact ⟨eq_of_toText finite otherFinite (String.toList_inj.mp sameText),
    List.append_cancel_left same⟩

end Number

/-! ### Values -/

namespace Value

/-- What the first character of a text says of the value. -/
inductive Kind where
  | null
  | bool
  | number
  | string
  | array
  | object

/-- The kind of a value. -/
def kind : Value → Kind
  | .null => .null
  | .bool _ => .bool
  | .number _ => .number
  | .string _ => .string
  | .array _ => .array
  | .object _ => .object

/-- The kind of value whose text begins with a character. -/
def kindOfFirst (char : Char) : Kind :=
  match char with
  | 'n' => .null
  | 't' => .bool
  | 'f' => .bool
  | '"' => .string
  | '[' => .array
  | '{' => .object
  | _ => .number

theorem kindOfFirst_of_isNumberChar {char : Char} (numberChar : isNumberChar char = true) :
    kindOfFirst char = .number := by
  unfold kindOfFirst
  split
  case h_7 => rfl
  all_goals exact absurd numberChar (by decide)

/-- The text of a field. -/
def fieldText (field : String × Value) : String :=
  Text.quote field.1 ++ ":" ++ field.2.toText

theorem fieldTexts_eq_map (fields : List (String × Value)) :
    toText.fieldTexts fields = fields.map fieldText := by
  induction fields with
  | nil => rfl
  | cons field fields ih =>
      rw [toText.fieldTexts, ih]
      rfl

theorem toList_toText_array (items : List Value) :
    (array items).toText.toList = '[' :: ((Text.join "," (items.map toText)).toList ++ [']']) := by
  rw [toText, itemTexts_eq_map, String.toList_append, String.toList_append]
  rfl

theorem toList_toText_object (fields : List (String × Value)) :
    (object fields).toText.toList =
      '\x7b' :: ((Text.join "," (fields.map fieldText)).toList ++ ['\x7d']) := by
  rw [toText, fieldTexts_eq_map, String.toList_append, String.toList_append]
  rfl

/-- The first character of a text shows the kind of the value, and that a value begins. -/
theorem exists_first {value : Value} (finite : value.CarriesOnly (·.isFinite = true)) :
    ∃ char rest, value.toText.toList = char :: rest ∧ kindOfFirst char = value.kind ∧
      char ∉ endings := by
  cases value with
  | null => exact ⟨'n', _, rfl, rfl, by decide⟩
  | bool value =>
      cases value with
      | true => exact ⟨'t', _, rfl, rfl, by decide⟩
      | false => exact ⟨'f', _, rfl, rfl, by decide⟩
  | number number =>
      obtain ⟨char, rest, shape⟩ := List.exists_cons_of_ne_nil (Number.toText_ne_nil finite)
      have numberChar := Number.isNumberChar_of_mem_toText finite char
        (shape ▸ List.mem_cons_self)
      refine ⟨char, rest, shape, kindOfFirst_of_isNumberChar numberChar, fun ending => ?_⟩
      rw [isNumberChar_eq_false char ending] at numberChar
      contradiction
  | string text => exact ⟨'"', _, Text.toList_quote text, rfl, by decide⟩
  | array items => exact ⟨'[', _, toList_toText_array items, rfl, by decide⟩
  | object fields => exact ⟨'\x7b', _, toList_toText_object fields, rfl, by decide⟩

theorem kind_eq_of_toText_append {left right : Value} {rest behind : List Char}
    (leftFinite : left.CarriesOnly (·.isFinite = true))
    (rightFinite : right.CarriesOnly (·.isFinite = true))
    (same : left.toText.toList ++ rest = right.toText.toList ++ behind) :
    left.kind = right.kind := by
  obtain ⟨char, _, shape, kind, -⟩ := exists_first leftFinite
  obtain ⟨other, _, otherShape, otherKind, -⟩ := exists_first rightFinite
  rw [shape, otherShape, List.cons_append, List.cons_append] at same
  rw [← kind, ← otherKind, (List.cons.inj same).1]

theorem not_ends_toText {value : Value} (finite : value.CarriesOnly (·.isFinite = true)) :
    ¬Ends value.toText.toList := by
  obtain ⟨char, rest, shape, -, noEnding⟩ := exists_first finite
  rw [shape]
  exact not_ends_cons noEnding rest

theorem not_ends_fieldText (field : String × Value) : ¬Ends (fieldText field).toList := by
  rw [fieldText, String.toList_append, String.toList_append, Text.toList_quote]
  exact not_ends_cons (by decide) _

/-- The text of a field is told apart from that of another if the values of the fields are. -/
theorem areToldApart_field {field other : String × Value}
    (apart : AreToldApart toText field.2 other.2) :
    AreToldApart fieldText field other := by
  intro rest left ends endsLeft same
  simp only [fieldText, String.toList_append, List.append_assoc] at same
  obtain ⟨sameName, behind⟩ := Text.eq_of_quote_append same
  obtain ⟨sameValue, sameRest⟩ := apart ends endsLeft (List.append_cancel_left behind)
  exact ⟨Prod.ext sameName sameValue, sameRest⟩

/-- Values with finite decimals are told apart by their texts, whatever follows them in a list. -/
theorem areToldApart {left right : Value} (leftFinite : left.CarriesOnly (·.isFinite = true))
    (rightFinite : right.CarriesOnly (·.isFinite = true)) : AreToldApart toText left right := by
  induction left using induction generalizing right with
  | null =>
      intro rest behind ends endsBehind same
      cases right with
      | null => exact ⟨rfl, List.append_cancel_left same⟩
      | _ => exact nomatch kind_eq_of_toText_append leftFinite rightFinite same
  | bool value =>
      intro rest behind ends endsBehind same
      cases right with
      | bool other =>
          cases value <;> cases other
          · exact ⟨rfl, List.append_cancel_left same⟩
          · exact nomatch (List.cons.inj same).1
          · exact nomatch (List.cons.inj same).1
          · exact ⟨rfl, List.append_cancel_left same⟩
      | _ => exact nomatch kind_eq_of_toText_append leftFinite rightFinite same
  | number value =>
      intro rest behind ends endsBehind same
      cases right with
      | number other =>
          obtain ⟨rfl, sameRest⟩ :=
            Number.areToldApart leftFinite rightFinite ends endsBehind same
          exact ⟨rfl, sameRest⟩
      | _ => exact nomatch kind_eq_of_toText_append leftFinite rightFinite same
  | string text =>
      intro rest behind ends endsBehind same
      cases right with
      | string other =>
          obtain ⟨rfl, sameRest⟩ := Text.eq_of_quote_append same
          exact ⟨rfl, sameRest⟩
      | _ => exact nomatch kind_eq_of_toText_append leftFinite rightFinite same
  | array items ih =>
      intro rest behind ends endsBehind same
      cases right with
      | array others =>
          have finite := (carriesOnly_array items).mp leftFinite
          have otherFinite := (carriesOnly_array others).mp rightFinite
          rw [toList_toText_array, toList_toText_array, List.cons_append, List.cons_append,
            List.append_assoc, List.append_assoc] at same
          obtain ⟨rfl, sameRest⟩ := eq_of_join_append
            (fun item member => (List.mem_append.mp member).elim
              (fun here => not_ends_toText (finite item here))
              (fun there => not_ends_toText (otherFinite item there)))
            (fun item member other otherMember =>
              ih item member (finite item member) (otherFinite other otherMember))
            (closes_bracket rest) (closes_bracket behind) (List.cons.inj same).2
          exact ⟨rfl, (List.cons.inj sameRest).2⟩
      | _ => exact nomatch kind_eq_of_toText_append leftFinite rightFinite same
  | object fields ih =>
      intro rest behind ends endsBehind same
      cases right with
      | object others =>
          have finite := (carriesOnly_object fields).mp leftFinite
          have otherFinite := (carriesOnly_object others).mp rightFinite
          rw [toList_toText_object, toList_toText_object, List.cons_append, List.cons_append,
            List.append_assoc, List.append_assoc] at same
          obtain ⟨rfl, sameRest⟩ := eq_of_join_append
            (fun field _ => not_ends_fieldText field)
            (fun field member other otherMember => areToldApart_field
              (ih field member (finite field member) (otherFinite other otherMember)))
            (closes_brace rest) (closes_brace behind) (List.cons.inj same).2
          exact ⟨rfl, (List.cons.inj sameRest).2⟩
      | _ => exact nomatch kind_eq_of_toText_append leftFinite rightFinite same

/-! ### Equality of lists -/

theorem eq_of_toText {left right : Value} (leftFinite : left.CarriesOnly (·.isFinite = true))
    (rightFinite : right.CarriesOnly (·.isFinite = true)) (same : left.toText = right.toText) :
    left = right := by
  have sameChars : left.toText.toList ++ [] = right.toText.toList ++ [] := by rw [same]
  exact (areToldApart leftFinite rightFinite closes_nil.1 closes_nil.1 sameChars).1

theorem eq_of_join_toText {items others : List Value}
    (finite : ∀ item ∈ items ++ others, item.CarriesOnly (·.isFinite = true))
    (same : Text.join "," (items.map toText) = Text.join "," (others.map toText)) :
    items = others := by
  obtain ⟨itemsFinite, othersFinite⟩ := List.forall_mem_append.mp finite
  have begins : ∀ item ∈ items ++ others, ¬Ends item.toText.toList :=
    fun item member => not_ends_toText (finite item member)
  have apart : ∀ item ∈ items, ∀ other ∈ others, AreToldApart toText item other :=
    fun item member other otherMember =>
      areToldApart (itemsFinite item member) (othersFinite other otherMember)
  exact (eq_of_join_append begins apart closes_nil closes_nil (congrArg (·.toList ++ []) same)).1

/-- Values with finite decimals have the same text exactly if they are identical.  So a list of such
values equals another exactly if the lists are identical, although lists are compared by the texts
of their items with commas between. -/
theorem toText_eq_iff :
    (∀ left right : Value, left.CarriesOnly (·.isFinite = true) →
      right.CarriesOnly (·.isFinite = true) → (left.toText = right.toText ↔ left = right)) ∧
      ∀ items others : List Value,
        (∀ item ∈ items ++ others, item.CarriesOnly (·.isFinite = true)) →
          Relation.eq.apply [.array items, .array others] = .bool (decide (items = others)) := by
  constructor
  · exact fun left right leftFinite rightFinite =>
      ⟨eq_of_toText leftFinite rightFinite, congrArg toText⟩
  · intro items others finite
    have compared : Relation.eq.apply [.array items, .array others] =
        .bool (some (compare (Text.join "," (items.map toText))
          (Text.join "," (others.map toText))) == some .eq) := rfl
    have texts : Text.join "," (items.map toText) = Text.join "," (others.map toText) ↔
        items = others := ⟨eq_of_join_toText finite, fun same => same ▸ rfl⟩
    rw [compared, bool.injEq, Bool.eq_iff_iff, beq_iff_eq, Option.some.injEq,
      Std.compare_eq_iff_eq, texts, decide_eq_true_iff]

/-- Lists of two texts each that have a comma, quotes and a bracket in different places, and a
negative zero beside a zero. -/
theorem toText_eq_iff_of_quotes :
    let items : List Value := [.string "a\",\"b", .string "]", .decimal (.zero true)]
    let others : List Value := [.string "a", .string "b\",\"]", .decimal (.zero false)]
    (∀ item ∈ items ++ others, item.CarriesOnly (·.isFinite = true)) ∧
      Relation.eq.apply [.array items, .array others] = .bool false ∧
      (Value.array items).CarriesOnly (·.isFinite = true) ∧
      (Value.array others).CarriesOnly (·.isFinite = true) ∧
      (Value.array items).toText ≠ (Value.array others).toText := by
  intro items others
  have finite : ∀ item ∈ items ++ others, item.CarriesOnly (·.isFinite = true) := by
    simp [items, others, Decimal.zero, Decimal.isFinite]
  obtain ⟨itemsFinite, othersFinite⟩ := List.forall_mem_append.mp finite
  have listFinite := (carriesOnly_array items).mpr itemsFinite
  have otherFinite := (carriesOnly_array others).mpr othersFinite
  have different : items ≠ others := by decide
  obtain ⟨values, lists⟩ := toText_eq_iff
  refine ⟨finite, ?_, listFinite, otherFinite, ?_⟩
  · rw [lists items others finite, decide_eq_false different]
  · rw [ne_eq, values _ _ listFinite otherFinite, array.injEq]
    exact different

end Value

end LiveBinding
