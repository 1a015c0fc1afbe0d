import ItemQuery.Proofs.Query.Faithful
import ItemQuery.Query.Builder
import Mathlib.Computability.Language

/-!
# `Proofs.Query.Pattern` — a text that is searched for means itself

The store matches a text by a pattern, and in a pattern most punctuation is an operator. A text that somebody types
must not become one, so that a backslash is put before what could be. That this is enough is a statement about reading
and not about writing: where the text itself has backslashes, they and the ones put before them stand in a row, and a
reader that pairs them off otherwise would see operators between them.

So the reader comes first here. It cuts a pattern into characters that denote themselves, bare or behind a backslash,
and everything else, and it has its own list of operators. What a pattern with operators matches is left to the store
and stands here as a parameter; a row of characters matches one text only, and then the parameter does not matter.

## Contents
- `Pattern.Token`, `Pattern.tokens`: how a pattern is read.
- `Pattern.language`, `Pattern.FoundIn`: what a pattern matches.
- `Pattern.tokens_escapePattern`: what is read of a text behind its backslashes.
- `Query.contains_means_itself`: the whole.
-/

namespace ItemQuery

namespace Pattern

/-! ## Reading a pattern -/

/-- The characters that are operators where no backslash stands before them. The backslash itself is read first. -/
def operators : List Char :=
  ['.', '+', '*', '?', '(', ')', '|', '[', ']', '\x7b', '\x7d', '^', '$', '#', '&', '-', '~']

/-- Punctuation of the first 128 characters. -/
def isPunctuation (c : Char) : Bool :=
  ('!' ≤ c && c ≤ '/') || (':' ≤ c && c ≤ '@') || ('[' ≤ c && c ≤ '\x60') || ('\x7b' ≤ c && c ≤ '~')

/-- What stands in a pattern. -/
inductive Token where
  /-- A character that denotes itself. -/
  | bare (c : Char)
  /-- Punctuation behind a backslash, which denotes itself as well. -/
  | escaped (c : Char)
  | operator (c : Char)
  /-- Any other character behind a backslash: a class, an anchor or nothing at all. -/
  | special (c : Char)
  /-- A backslash with nothing behind it. -/
  | dangling

/-- How a token is written. -/
def Token.source : Token → List Char
  | bare c => [c]
  | escaped c => ['\\', c]
  | operator c => [c]
  | special c => ['\\', c]
  | dangling => ['\\']

/-- A token that stands for one character. -/
def Token.isLiteral : Token → Bool
  | bare _ => true
  | escaped _ => true
  | _ => false

/-- The tokens of a pattern. -/
def tokens : List Char → List Token
  | [] => []
  | c :: s =>
    if c = '\\' then
      match s with
      | [] => [.dangling]
      | d :: s => (if isPunctuation d then .escaped d else .special d) :: tokens s
    else (if c ∈ operators then .operator c else .bare c) :: tokens s

theorem tokens_backslash (d : Char) (s : List Char) :
    tokens ('\\' :: d :: s) = (if isPunctuation d then .escaped d else .special d) :: tokens s := by
  rw [tokens, if_pos rfl]

theorem tokens_cons {c : Char} (h : c ≠ '\\') (s : List Char) :
    tokens (c :: s) = (if c ∈ operators then .operator c else .bare c) :: tokens s := by
  rw [tokens.eq_def]
  exact if_neg h

/-- The tokens leave nothing of a pattern out. -/
theorem source_tokens (p : List Char) : (tokens p).flatMap Token.source = p := by
  induction p using tokens.induct with
  | case1 => rfl
  | case2 => rfl
  | case3 d s ih =>
      rw [tokens_backslash, List.flatMap_cons, ih]
      split <;> rfl
  | case4 c s hc ih =>
      rw [tokens_cons hc, List.flatMap_cons, ih]
      split <;> rfl

/-! ## What a pattern matches -/

/-- The texts that a single token matches, if it stands for a character. -/
def Token.letter : Token → Language Char
  | bare c => {[c]}
  | escaped c => {[c]}
  | _ => 0

/-- The texts that tokens match. Characters match one after the other; what is matched where there is an operator
    is up to `engine`. -/
def language (engine : List Token → Language Char) (ts : List Token) : Language Char :=
  if ts.all Token.isLiteral then (ts.map Token.letter).prod else engine ts

/-- A pattern matches somewhere in a text. -/
def FoundIn (engine : List Token → Language Char) (p s : String) : Prop :=
  ∃ before found after : List Char, s.toList = before ++ found ++ after ∧ found ∈ language engine (tokens p.toList)

/-! ## Escaped texts -/

/-- How a character of a text is read. -/
def literal (c : Char) : Token := if c ∈ patternChars then .escaped c else .bare c

theorem isLiteral_literal (c : Char) : (literal c).isLiteral = true := by
  unfold literal
  split <;> rfl

theorem letter_literal (c : Char) : (literal c).letter = {[c]} := by
  unfold literal
  split <;> rfl

/-- Every character that gets a backslash may have one. -/
theorem isPunctuation_of_mem {c : Char} (h : c ∈ patternChars) : isPunctuation c = true := by
  have hall : patternChars.all isPunctuation = true := by decide
  exact List.all_eq_true.mp hall c h

/-- Every operator gets a backslash, and so does the backslash. -/
theorem mem_patternChars_of_operator {c : Char} (h : c = '\\' ∨ c ∈ operators) : c ∈ patternChars := by
  have hall : ('\\' :: operators).all patternChars.contains = true := by decide
  exact List.contains_iff_mem.mp (List.all_eq_true.mp hall c (List.mem_cons.mpr h))

/-- One character of a text is read as one token, whatever comes behind it. -/
theorem tokens_escapePatternChar (c : Char) (s : List Char) :
    tokens (escapePatternChar c ++ s) = literal c :: tokens s := by
  unfold escapePatternChar literal
  simp only [List.contains_iff_mem]
  by_cases hc : c ∈ patternChars
  · have hpunctuation : isPunctuation c = true := isPunctuation_of_mem hc
    rw [if_pos hc, if_pos hc, List.cons_append, List.singleton_append, tokens_backslash, if_pos hpunctuation]
  · have hbackslash : c ≠ '\\' := fun h => hc (mem_patternChars_of_operator (.inl h))
    have hoperator : c ∉ operators := fun h => hc (mem_patternChars_of_operator (.inr h))
    rw [if_neg hc, if_neg hc, List.singleton_append, tokens_cons hbackslash, if_neg hoperator]

/-- **What is read** of a text behind its backslashes: its characters. -/
theorem tokens_escapePattern (u : String) : tokens (escapePattern u).toList = u.toList.map literal := by
  rw [escapePattern, String.toList_ofList]
  induction u.toList with
  | nil => rfl
  | cons c s ih => rw [List.flatMap_cons, tokens_escapePatternChar, ih, List.map_cons]

theorem singleton_mul_singleton (c : Char) (s : List Char) : ({[c]} : Language Char) * {s} = {c :: s} := by
  ext text
  rw [Language.mem_mul]
  constructor
  · rintro ⟨_, rfl, _, rfl, rfl⟩
    rfl
  · rintro rfl
    exact ⟨[c], rfl, s, rfl, rfl⟩

theorem prod_letter_literal (s : List Char) : ((s.map literal).map Token.letter).prod = {s} := by
  induction s with
  | nil => rfl
  | cons c s ih =>
      rw [List.map_cons, List.map_cons, List.prod_cons, ih, letter_literal, singleton_mul_singleton]

theorem all_isLiteral (s : List Char) : (s.map literal).all Token.isLiteral = true := by
  rw [List.all_map, List.all_eq_true]
  exact fun c _ => isLiteral_literal c

/-- **Only the text** is matched by its pattern. -/
theorem language_escapePattern (engine : List Token → Language Char) (u : String) :
    language engine (tokens (escapePattern u).toList) = {u.toList} := by
  rw [language, tokens_escapePattern, if_pos (all_isLiteral _), prod_letter_literal]

theorem foundIn_escapePattern_iff (engine : List Token → Language Char) (u s : String) :
    FoundIn engine (escapePattern u) s ↔ u.toList <:+: s.toList := by
  unfold FoundIn
  rw [language_escapePattern]
  constructor
  · rintro ⟨before, found, after, hs, hfound⟩
    rw [Set.mem_singleton_iff.mp hfound] at hs
    exact ⟨before, after, hs.symm⟩
  · rintro ⟨before, after, hs⟩
    exact ⟨before, u.toList, after, hs.symm, rfl⟩

end Pattern

/-! ## The whole -/

open Pattern

/-- **A text that is searched for means itself**, in a query built by hand and in a compiled one. Its pattern is read as
    characters, with no operator among them and no backslash left over at the end, so that whatever the store does with
    operators, the pattern matches this text and no other, and is found in the texts that have this one as a part.
    Different texts have different patterns. -/
theorem Query.contains_means_itself (u : String) :
    ∃ p : String,
      (∀ d field, (Step.run d (.contains field u)).lookup field =
        some (.document [("$regex", .string p), ("$options", .string "i")])) ∧
      (∀ d path, (Step.run d (.clause ⟨path, .contains u⟩)).lookup path.text =
        some (.document [("$regex", .string p), ("$options", .string "i")])) ∧
      (tokens p.toList).flatMap Token.source = p.toList ∧
      (tokens p.toList).all Token.isLiteral = true ∧
      (∀ engine, language engine (tokens p.toList) = {u.toList}) ∧
      (∀ engine s, FoundIn engine p s ↔ u.toList <:+: s.toList) ∧
      ∀ v, Query.contains v = Query.contains u ↔ v = u := by
  refine ⟨escapePattern u, ?_, ?_, source_tokens _, ?_, fun engine => language_escapePattern engine u,
    fun engine => foundIn_escapePattern_iff engine u, ?_⟩
  · intro d field
    rw [Step.run, Assoc.lookup_set]
    exact if_pos rfl
  · intro d path
    rw [Step.run, Assoc.lookup_set]
    exact if_pos rfl
  · rw [tokens_escapePattern]
    exact all_isLiteral _
  · intro v
    constructor
    · intro h
      simp only [Query.contains, Query.pattern, Bson.document.injEq, List.cons.injEq, Prod.mk.injEq,
        Bson.string.injEq, true_and, and_true] at h
      exact escapePattern_injective h
    · exact fun h => by rw [h]

/-- Two backslashes, an operator and one more backslash are four characters to the reader. -/
example :
    tokens (escapePattern "\\\\.\\").toList = [.escaped '\\', .escaped '\\', .escaped '.', .escaped '\\'] := by
  cbv

end ItemQuery
