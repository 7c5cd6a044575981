import EntityMapping.Like.Automaton
import EntityMapping.Proofs.Like.Matching

/-!
What LIKE patterns mean. A pattern describes texts, and whether it describes one is asked in two
ways. A simple pattern is answered by its text as a whole, which is the description itself. Part by
part, the wildcards leave out line feeds, so a text is found exactly if it is described and has no
more line feeds than the pattern: then the pattern's own characters take all of them. On texts
without line feeds both ways answer the description, and on others they may differ.
-/

namespace EntityMapping.Like

variable {p ps cs part text pattern : List Char}

/-! ### Descriptions -/

/-- A pattern describes a text: a percent sign stands for any characters, an underscore for any one,
a backslash takes the character after it at its word and stands for itself at the end, and all else
stands for itself. -/
inductive Describes : List Char → List Char → Prop where
  | nil : Describes [] []
  | run {taken ps cs : List Char} (rest : Describes ps cs) : Describes ('%' :: ps) (taken ++ cs)
  | one {c : Char} {ps cs : List Char} (rest : Describes ps cs) : Describes ('_' :: ps) (c :: cs)
  | escaped {c : Char} {ps cs : List Char} (rest : Describes ps cs) :
      Describes ('\\' :: c :: ps) (c :: cs)
  | lastBackslash : Describes ['\\'] ['\\']
  | plain {c : Char} {ps cs : List Char} (other : c ∉ ['%', '_', '\\']) (rest : Describes ps cs) :
      Describes (c :: ps) (c :: cs)

theorem describes_nil_iff : Describes [] cs ↔ cs = [] := by
  constructor
  · intro h
    cases h
    rfl
  · rintro rfl
    exact .nil

theorem describes_run_iff :
    Describes ('%' :: ps) cs ↔ ∃ taken rest, cs = taken ++ rest ∧ Describes ps rest := by
  constructor
  · intro h
    cases h with
    | run rest => exact ⟨_, _, rfl, rest⟩
    | plain other => exact absurd (List.mem_cons_self ..) other
  · rintro ⟨taken, rest, rfl, described⟩
    exact .run described

theorem describes_one_iff :
    Describes ('_' :: ps) cs ↔ ∃ c rest, cs = c :: rest ∧ Describes ps rest := by
  constructor
  · intro h
    cases h with
    | one rest => exact ⟨_, _, rfl, rest⟩
    | plain other => simp at other
  · rintro ⟨c, rest, rfl, described⟩
    exact .one described

theorem describes_escaped_iff {c : Char} :
    Describes ('\\' :: c :: ps) cs ↔ ∃ rest, cs = c :: rest ∧ Describes ps rest := by
  constructor
  · intro h
    cases h with
    | escaped rest => exact ⟨_, rfl, rest⟩
    | plain other => simp at other
  · rintro ⟨rest, rfl, described⟩
    exact .escaped described

theorem describes_lastBackslash_iff : Describes ['\\'] cs ↔ cs = ['\\'] := by
  constructor
  · intro h
    cases h with
    | lastBackslash => rfl
    | plain other => simp at other
  · rintro rfl
    exact .lastBackslash

theorem describes_plain_iff {c : Char} (other : c ∉ ['%', '_', '\\']) :
    Describes (c :: ps) cs ↔ ∃ rest, cs = c :: rest ∧ Describes ps rest := by
  constructor
  · intro h
    cases h with
    | plain _ rest => exact ⟨_, rfl, rest⟩
    | _ => simp at other
  · rintro ⟨rest, rfl, described⟩
    exact .plain other described

/-- A text has at least the line feeds of a pattern that describes it. -/
theorem Describes.count_le (h : Describes ps cs) : ps.count '\n' ≤ cs.count '\n' := by
  induction h with
  | nil => exact Nat.le_refl 0
  | run _ ih => simp [List.count_append]; omega
  | one _ ih => simp [List.count_cons]; omega
  | escaped _ ih => simp [List.count_cons]; omega
  | lastBackslash => decide
  | plain _ _ ih => simp [List.count_cons]; omega

/-! ### Part by part -/

/-- With regard to case a literal matches itself only. -/
theorem matches_literal_iff {c : Char} {ts : List Token} :
    Matches (sameChar true) (.literal c :: ts) cs ↔
      ∃ rest, cs = c :: rest ∧ Matches (sameChar true) ts rest := by
  cases cs with
  | nil => exact ⟨nofun, nofun⟩
  | cons d cs =>
    rw [matches_literal_cons, sameChar, if_pos rfl, beq_iff_eq]
    constructor
    · rintro ⟨rfl, matched⟩
      exact ⟨cs, rfl, matched⟩
    · rintro ⟨rest, parts, matched⟩
      obtain ⟨rfl, rfl⟩ := List.cons.inj parts
      exact ⟨rfl, matched⟩

theorem matches_one_iff {ts : List Token} :
    Matches (sameChar true) (.one :: ts) cs ↔
      ∃ d rest, cs = d :: rest ∧ d ≠ '\n' ∧ Matches (sameChar true) ts rest := by
  cases cs with
  | nil => exact ⟨nofun, nofun⟩
  | cons d cs =>
    rw [matches_one_cons]
    constructor
    · rintro ⟨other, matched⟩
      exact ⟨d, cs, rfl, other, matched⟩
    · rintro ⟨e, rest, parts, other, matched⟩
      obtain ⟨rfl, rfl⟩ := List.cons.inj parts
      exact ⟨other, matched⟩

/-- A character that stands for itself takes a line feed if it is one. -/
theorem exists_cons_and_count {c : Char} {P : List Char → Prop} :
    (∃ rest, cs = c :: rest ∧ P rest ∧ rest.count '\n' = ps.count '\n') ↔
      (∃ rest, cs = c :: rest ∧ P rest) ∧ cs.count '\n' = (c :: ps).count '\n' := by
  constructor
  · rintro ⟨rest, rfl, described, feeds⟩
    exact ⟨⟨rest, rfl, described⟩, by rw [List.count_cons, List.count_cons, feeds]⟩
  · rintro ⟨⟨rest, rfl, described⟩, feeds⟩
    rw [List.count_cons, List.count_cons] at feeds
    exact ⟨rest, rfl, described, Nat.add_right_cancel feeds⟩

/-- The parts of a pattern match a text exactly if the pattern describes it and has its line feeds:
each of them is then taken by a character of the pattern, and none by a wildcard. -/
theorem matches_tokens_iff :
    Matches (sameChar true) (tokens ps) cs ↔ Describes ps cs ∧ cs.count '\n' = ps.count '\n' := by
  induction ps using tokens.induct generalizing cs with
  | case1 =>
    rw [tokens, matches_nil_iff, describes_nil_iff]
    exact ⟨fun h => ⟨h, congrArg _ h⟩, And.left⟩
  | case2 =>
    rw [tokens, matches_literal_iff, describes_lastBackslash_iff]
    simp only [matches_nil_iff]
    constructor
    · rintro ⟨rest, rfl, rfl⟩
      exact ⟨rfl, rfl⟩
    · exact fun h => ⟨[], h.1, rfl⟩
  | case3 c ps ih =>
    rw [tokens, matches_literal_iff, describes_escaped_iff, List.count_cons_of_ne (by decide)]
    simp only [ih]
    exact exists_cons_and_count
  | case4 ps ih =>
    rw [tokens, matches_run_iff, describes_run_iff, List.count_cons_of_ne (by decide)]
    simp only [ih]
    constructor
    · rintro ⟨taken, rest, rfl, feedless, described, feeds⟩
      refine ⟨⟨taken, rest, rfl, described⟩, ?_⟩
      rw [List.count_append, List.count_eq_zero.2 feedless, feeds, Nat.zero_add]
    · rintro ⟨⟨taken, rest, rfl, described⟩, feeds⟩
      -- The rest has the line feeds of the pattern at least, so the run has none.
      have atLeast := described.count_le
      rw [List.count_append] at feeds
      exact ⟨taken, rest, rfl, List.count_eq_zero.1 (by omega), described, by omega⟩
  | case5 ps ih =>
    rw [tokens, matches_one_iff, describes_one_iff, List.count_cons_of_ne (by decide)]
    simp only [ih]
    constructor
    · rintro ⟨d, rest, rfl, other, described, feeds⟩
      exact ⟨⟨d, rest, rfl, described⟩, by rw [List.count_cons_of_ne other, feeds]⟩
    · rintro ⟨⟨d, rest, rfl, described⟩, feeds⟩
      have atLeast := described.count_le
      have other : d ≠ '\n' := by
        rintro rfl
        rw [List.count_cons_self] at feeds
        omega
      rw [List.count_cons_of_ne other] at feeds
      exact ⟨d, rest, rfl, other, described, feeds⟩
  | case6 c ps notLast notEscape notRun notOne ih =>
    have notBackslash : c ≠ '\\' := by
      rintro rfl
      cases ps with
      | nil => exact notLast rfl rfl
      | cons d rest => exact notEscape d rest rfl rfl
    have other : c ∉ ['%', '_', '\\'] := by
      simp only [List.mem_cons, List.not_mem_nil, or_false]
      rintro (run | one | backslash)
      · exact notRun run
      · exact notOne one
      · exact notBackslash backslash
    rw [tokens, matches_literal_iff, describes_plain_iff other]
    · simp only [ih]
      exact exists_cons_and_count
    all_goals assumption

theorem matches_tokens_iff_of_feedless (feedless : '\n' ∉ cs) :
    Matches (sameChar true) (tokens ps) cs ↔ Describes ps cs := by
  rw [matches_tokens_iff, and_iff_left_iff_imp]
  intro described
  have atMost := described.count_le
  rw [List.count_eq_zero.2 feedless] at atMost ⊢
  exact (Nat.le_zero.1 atMost).symm

/-! ### By the text as a whole -/

/-- A text without wildcards and backslashes. -/
def Plain (p : List Char) : Prop := ∀ c ∈ p, c ∉ ['%', '_', '\\']

/-- What is left of a pattern without underscores and backslashes when its runs are taken off. -/
theorem plain_of_subset (noOne : '_' ∉ pattern) (noBackslash : '\\' ∉ pattern) (sub : p ⊆ pattern)
    (noRun : p.count '%' = 0) : Plain p := by
  intro c mem special
  simp only [List.mem_cons, List.not_mem_nil, or_false] at special
  rcases special with rfl | rfl | rfl
  · exact List.count_eq_zero.1 noRun mem
  · exact noOne (sub mem)
  · exact noBackslash (sub mem)

theorem Plain.describes_append_iff (plain : Plain p) :
    Describes (p ++ ps) cs ↔ ∃ rest, cs = p ++ rest ∧ Describes ps rest := by
  induction p generalizing cs with
  | nil => simp
  | cons c p ih =>
    rw [List.cons_append, describes_plain_iff (plain c (List.mem_cons_self ..))]
    simp only [ih fun d mem => plain d (List.mem_cons_of_mem _ mem)]
    constructor
    · rintro ⟨_, rfl, rest, rfl, described⟩
      exact ⟨rest, rfl, described⟩
    · rintro ⟨rest, rfl, described⟩
      exact ⟨p ++ rest, rfl, rest, rfl, described⟩

theorem Plain.describes_iff (plain : Plain p) : Describes p cs ↔ cs = p := by
  have parts : Describes (p ++ []) cs ↔ ∃ rest, cs = p ++ rest ∧ Describes [] rest :=
    plain.describes_append_iff
  simpa [describes_nil_iff] using parts

theorem describes_run : Describes ['%'] cs := by
  have all : Describes ['%'] (cs ++ []) := .run .nil
  rwa [List.append_nil] at all

theorem Plain.describes_front_iff (plain : Plain p) : Describes (p ++ ['%']) cs ↔ p <+: cs := by
  rw [plain.describes_append_iff]
  constructor
  · rintro ⟨rest, rfl, -⟩
    exact List.prefix_append ..
  · rintro ⟨rest, rfl⟩
    exact ⟨rest, rfl, describes_run⟩

theorem Plain.describes_back_iff (plain : Plain p) : Describes ('%' :: p) cs ↔ p <:+ cs := by
  simp only [describes_run_iff, plain.describes_iff]
  constructor
  · rintro ⟨taken, _, rfl, rfl⟩
    exact List.suffix_append ..
  · rintro ⟨taken, rfl⟩
    exact ⟨taken, p, rfl, rfl⟩

theorem Plain.describes_middle_iff (plain : Plain p) :
    Describes ('%' :: (p ++ ['%'])) cs ↔ p <:+: cs := by
  simp only [describes_run_iff, plain.describes_front_iff]
  constructor
  · rintro ⟨taken, _, rfl, rest, rfl⟩
    exact ⟨taken, rest, List.append_assoc ..⟩
  · rintro ⟨taken, rest, rfl⟩
    exact ⟨taken, p ++ rest, List.append_assoc .., List.prefix_append ..⟩

theorem occursIn_iff : occursIn part cs = true ↔ part <:+: cs := by
  induction cs with
  | nil => rw [occursIn, List.isEmpty_iff, List.infix_nil]
  | cons c cs ih =>
    rw [occursIn, Bool.or_eq_true, List.isPrefixOf_iff_prefix, ih, List.infix_cons_iff]

theorem exists_of_ends (double : pattern.count '%' = 2) (atFront : pattern.head? = some '%')
    (atEnd : pattern.getLast? = some '%') : ∃ p, pattern = '%' :: (p ++ ['%']) := by
  obtain ⟨q, rfl⟩ := List.getLast?_eq_some_iff.1 atEnd
  cases q with
  | nil => simp at double
  | cons c p =>
    cases atFront
    exact ⟨p, rfl⟩

/-- The answer that the text as a whole gives to a pattern is what the pattern describes. -/
theorem describes_iff_of_byShape? {b : Bool} (h : byShape? true text pattern = some b) :
    b = true ↔ Describes pattern text := by
  rw [byShape?] at h
  split at h
  · cases h
  rename_i simple
  obtain ⟨noOne, noBackslash⟩ := not_or.1 simple
  simp only [if_true] at h
  split at h
  · rename_i noRun
    cases h
    have plain := plain_of_subset noOne noBackslash (List.Subset.refl pattern) noRun
    rw [plain.describes_iff, beq_iff_eq]
  · rename_i single
    split at h
    · rename_i atEnd
      cases h
      obtain ⟨p, rfl⟩ := List.getLast?_eq_some_iff.1 atEnd
      have plain : Plain p :=
        plain_of_subset noOne noBackslash (List.subset_append_left ..)
          (by simpa [List.count_append] using single)
      rw [List.dropLast_concat, plain.describes_front_iff, List.isPrefixOf_iff_prefix]
    · split at h
      · rename_i atFront
        cases h
        obtain ⟨p, rfl⟩ := List.head?_eq_some_iff.1 atFront
        have plain : Plain p :=
          plain_of_subset noOne noBackslash (List.subset_cons_self ..) (by simpa using single)
        rw [List.tail_cons, plain.describes_back_iff, List.isSuffixOf_iff_suffix]
      · cases h
  · rename_i double
    split at h
    · rename_i ends
      cases h
      obtain ⟨p, rfl⟩ := exists_of_ends double ends.1 ends.2
      have plain : Plain p :=
        plain_of_subset noOne noBackslash
          (List.subset_cons_of_subset _ (List.subset_append_left ..))
          (by simpa [List.count_append] using double)
      rw [List.tail_cons, List.dropLast_concat, plain.describes_middle_iff, occursIn_iff]
    · cases h
  · cases h

/-! ### Both ways -/

/-- A pattern that is answered by the text as a whole is answered as it describes. Part by part the
answer is the same exactly if no wildcard has to take a line feed: if the text is not described, or
has just the line feeds of the pattern. -/
theorem ways_agree_iff_feeds_spelled {b : Bool} (h : byShape? true text pattern = some b) :
    (b = true ↔ Describes pattern text) ∧
    (matchTokens (sameChar true) (tokens pattern) text = b ↔
      (b = true → text.count '\n' = pattern.count '\n')) := by
  have answer := describes_iff_of_byShape? h
  have parts : matchTokens (sameChar true) (tokens pattern) text = true ↔
      b = true ∧ text.count '\n' = pattern.count '\n' := by
    rw [matchTokens_iff, matches_tokens_iff, answer]
  refine ⟨answer, ?_⟩
  cases b with
  | false => simpa using parts
  | true => simpa using parts

/-- A text with a line feed that the pattern spells, and a run behind it. -/
theorem ways_agree_iff_feeds_spelled_lines :
    byShape? true ['a', '\n', 'b'] ['a', '\n', '%'] = some true ∧
      Describes ['a', '\n', '%'] ['a', '\n', 'b'] ∧
      matchTokens (sameChar true) (tokens ['a', '\n', '%']) ['a', '\n', 'b'] = true := by
  have shape : byShape? true ['a', '\n', 'b'] ['a', '\n', '%'] = some true := by decide
  obtain ⟨described, agree⟩ := ways_agree_iff_feeds_spelled shape
  exact ⟨shape, described.1 rfl, agree.2 fun _ => by decide⟩

/-- The ways do not always agree: by the text as a whole a run takes a line feed, and part by part
it does not. Two patterns of the same parts are answered differently then. -/
theorem ways_differ_at_line_feed :
    (¬ ∀ (text pattern : List Char) (b : Bool), byShape? true text pattern = some b →
      matchTokens (sameChar true) (tokens pattern) text = b) ∧
    tokens "\\a%".toList = tokens "a%".toList ∧
    like (.ofCase true) "a\nb" "a%" = .ok true ∧
    like (.ofCase true) "a\nb" "\\a%" = .ok false := by
  refine ⟨fun agree => ?_, by decide, by rfl, by rfl⟩
  have matched := agree ['a', '\n', 'b'] ['a', '%'] true (by decide)
  revert matched
  decide

end EntityMapping.Like

namespace EntityMapping

/-- With regard to case, a text without line feeds is answered by what the pattern describes, as far
as there is an answer. Whatever patterns there are automata for, these are answered. -/
theorem like_answers_description (fits : List Like.Token → Bool) {text pattern : String}
    (feedless : '\n' ∉ text.toList) :
    (∀ b, like ⟨true, fits⟩ text pattern = .ok b →
      (b = true ↔ Like.Describes pattern.toList text.toList)) ∧
    (fits (Like.tokens pattern.toList) = true → ∃ b, like ⟨true, fits⟩ text pattern = .ok b) := by
  constructor
  · intro b answered
    rw [like] at answered
    split at answered
    · rename_i shape
      cases answered
      exact Like.describes_iff_of_byShape? shape
    · rw [Like.byTokens] at answered
      split at answered
      · cases answered
        rw [Like.matchTokens_iff, Like.matches_tokens_iff_of_feedless feedless]
      · cases answered
  · intro there
    simp only [like, Like.byTokens, there, if_true]
    split
    · exact ⟨_, rfl⟩
    · exact ⟨_, rfl⟩

theorem like_answers_description_discount :
    '\n' ∉ "5% off".toList ∧ Like.fits true (Like.tokens "_\\%%o_f".toList) = true ∧
      like (.ofCase true) "5% off" "_\\%%o_f" = .ok true ∧
      Like.Describes "_\\%%o_f".toList "5% off".toList := by
  have feedless : '\n' ∉ "5% off".toList := by decide
  have answered : like (.ofCase true) "5% off" "_\\%%o_f" = .ok true := by rfl
  exact ⟨feedless, by decide +kernel, answered,
    ((like_answers_description (Like.fits true) feedless).1 true answered).1 rfl⟩

end EntityMapping
