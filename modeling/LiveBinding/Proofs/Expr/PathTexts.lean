import LiveBinding.Proofs.Expr.Canonical
import LiveBinding.Proofs.Expr.Paths

/-!
# Paths that survive printing

The text of a path is read by itself.  Names and positions in range are found again wherever they
stand, be they like numbers or like reserved words, as behind a point digits are a name, and in
brackets they are a position.  Only at the beginning may two steps run together: digits, a point and
a digit are a decimal, which is no path.
-/

namespace LiveBinding

namespace Path

/-- The text of steps behind another one has the tokens of these steps. -/
theorem exists_steps_of_tailText {path : Path}
    (canonical : ∀ segment ∈ path, segment.isCanonical = true) :
    ∃ steps : List PathStep, (∀ step ∈ steps, step.IsValid) ∧ steps.map PathStep.segment = path ∧
      Token.tokensFrom false path.tailText.toList = some (steps.flatMap PathStep.tokens) := by
  refine ⟨(path.map PathStep.ofSegment).map PathStep.rewritten, ?_, ?_, ?_⟩
  · intro step member
    obtain ⟨source, listed, rfl⟩ := List.mem_map.mp member
    obtain ⟨segment, inPath, rfl⟩ := List.mem_map.mp listed
    exact (PathStep.isValid_ofSegment (canonical segment inPath)).rewritten
  · rw [PathStep.map_segment_rewritten, PathStep.map_segment_ofSegment]
  · have names := keysAreNames (PathStep.areSpelled_ofSegments canonical)
    have read := Token.tokensFrom_tailText names (Text.stops_nil _)
    rwa [PathStep.map_segment_ofSegment, List.append_nil, Token.tokensFrom_nil, Option.map_some,
      List.append_nil] at read

theorem stops_tailText_nil (path : Path) : Text.Stops Text.isWordChar path.tailText.toList := by
  have stops := stops_tailText path (Text.stops_nil Text.isWordChar)
  rwa [List.append_nil] at stops

theorem toList_toText_key (name : String) (rest : Path) :
    (toText (.key name :: rest)).toList = name.toList ++ rest.tailText.toList :=
  String.toList_append

/-- A path with a name in front begins like a decimal exactly if its text does. -/
theorem beginsDecimal_toText {name : String} {rest : Path} (isName : Text.isName name = true)
    (canonical : ∀ segment ∈ rest, segment.isCanonical = true) :
    Token.beginsDecimal (toText (.key name :: rest)).toList =
      beginsLikeDecimal (.key name :: rest) := by
  rw [toList_toText_key, Bool.eq_iff_iff, Token.beginsDecimal_name isName (stops_tailText_nil rest)]
  cases rest with
  | nil => exact iff_of_false (fun both => both.2 rfl) nofun
  | cons segment rest =>
      have named : ∀ other, segment = .key other → Text.isName other = true := by
        rintro other rfl
        exact canonical _ List.mem_cons_self
      have same : beginsLikeDecimal (.key name :: segment :: rest) = true ↔ _ :=
        beginsLikeDecimal_cons_iff named []
      rw [List.append_nil] at same
      exact same.symm

/-- A position and steps behind it are read back. -/
theorem read_toText_index {position : Nat} {rest : Path}
    (canonical : ∀ segment ∈ Segment.index position :: rest, segment.isCanonical = true) :
    read (toText (.index position :: rest)) = .ok (.index position :: rest) := by
  obtain ⟨steps, valid, segments, lexed⟩ := exists_steps_of_tailText canonical
  obtain ⟨first, others, rfl, isIndex, -⟩ := List.map_eq_cons_iff.mp segments
  cases first with
  | key => contradiction
  | index digits =>
      rw [← segments]
      exact read_eq_ok_of_tokens (segments ▸ lexed) (Parser.path_of_index valid)

/-- A name and steps behind it are read back, unless they begin like a decimal. -/
theorem read_toText_key {name : String} {rest : Path} (isName : Text.isName name = true)
    (canonical : ∀ segment ∈ rest, segment.isCanonical = true)
    (other : beginsLikeDecimal (.key name :: rest) = false) :
    read (toText (.key name :: rest)) = .ok (.key name :: rest) := by
  rw [← beginsDecimal_toText isName canonical, toList_toText_key] at other
  have stops := stops_tailText_nil rest
  obtain ⟨steps, valid, rfl, lexed⟩ := exists_steps_of_tailText canonical
  obtain ⟨token, isKey, noStar, noBracket, tokens⟩ :=
    Token.tokensFrom_at_start isName stops lexed other
  rw [← toList_toText_key] at tokens
  exact read_eq_ok_of_tokens tokens (Parser.path_of_key? isKey noStar noBracket valid)

/-- What begins like a decimal is no path. -/
theorem exists_error_toText_key {name : String} {rest : Path} (isName : Text.isName name = true)
    (canonical : ∀ segment ∈ rest, segment.isCanonical = true)
    (likeDecimal : beginsLikeDecimal (.key name :: rest) = true) :
    ∃ error, read (toText (.key name :: rest)) = .error error := by
  rw [← beginsDecimal_toText isName canonical, toList_toText_key] at likeDecimal
  refine exists_error_of_tokens fun tokens lexed => ?_
  rw [toList_toText_key] at lexed
  obtain ⟨digits, others, rfl⟩ :=
    Token.tokensFrom_of_beginsDecimal isName (stops_tailText_nil rest) likeDecimal lexed
  exact ⟨_, rfl⟩

end Path

/-- The text of a path of names and positions in range is read back as this path exactly if the path
does not begin with digits and a name that begins with a digit.  Otherwise the text is no path. -/
theorem Path.read_toText_eq_ok_iff {path : Path}
    (canonical : ∀ segment ∈ path, segment.isCanonical = true) :
    (Path.read path.toText = .ok path ↔ path.beginsLikeDecimal = false) ∧
      (path.beginsLikeDecimal = true → ∃ error, Path.read path.toText = .error error) := by
  cases path with
  | nil => exact ⟨iff_of_true (by decide +kernel) rfl, nofun⟩
  | cons segment rest =>
      cases segment with
      | index => exact ⟨iff_of_true (read_toText_index canonical) rfl, nofun⟩
      | key name =>
          obtain ⟨isName, canonical⟩ := List.forall_mem_cons.mp canonical
          cases begins : beginsLikeDecimal (.key name :: rest) with
          | false => exact ⟨iff_of_true (read_toText_key isName canonical begins) rfl, nofun⟩
          | true =>
              obtain ⟨error, failed⟩ := exists_error_toText_key isName canonical begins
              rw [failed]
              exact ⟨iff_of_false nofun nofun, fun _ => ⟨error, rfl⟩⟩

/-- Keys like numbers, decimals and reserved words behind a position and behind digits survive; a
digit right behind digits and a point does not. -/
theorem Path.read_toText_eq_ok_iff_digits :
    let survives : Path := [.key "007", .index 3, .key "5", .key "null", .key "1e5"]
    let indexFirst : Path := [.index 18446744073709551615, .key "1", .key "5"]
    let lost : Path := [.key "1", .key "5x"]
    (survives.beginsLikeDecimal = false ∧ Path.read survives.toText = .ok survives) ∧
      (indexFirst.beginsLikeDecimal = false ∧ Path.read indexFirst.toText = .ok indexFirst) ∧
        lost.beginsLikeDecimal = true ∧ Path.read lost.toText ≠ .ok lost ∧
          ∃ error, Path.read lost.toText = .error error := by
  intro survives indexFirst lost
  have first : ∀ segment ∈ survives, segment.isCanonical = true := by decide +kernel
  have second : ∀ segment ∈ indexFirst, segment.isCanonical = true := by decide +kernel
  have third : ∀ segment ∈ lost, segment.isCanonical = true := by decide +kernel
  have noDecimal : survives.beginsLikeDecimal = false := by decide +kernel
  have bracket : indexFirst.beginsLikeDecimal = false := rfl
  have decimal : lost.beginsLikeDecimal = true := by decide +kernel
  obtain ⟨reads, fails⟩ := read_toText_eq_ok_iff third
  exact ⟨⟨noDecimal, (read_toText_eq_ok_iff first).1.mpr noDecimal⟩,
    ⟨bracket, (read_toText_eq_ok_iff second).1.mpr bracket⟩, decimal,
    fun read => Bool.eq_false_iff.mp (reads.mp read) decimal, fails decimal⟩

end LiveBinding
