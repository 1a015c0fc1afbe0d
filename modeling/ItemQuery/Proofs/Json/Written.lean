import ItemQuery.Proofs.Decimal.Shortest
import ItemQuery.Proofs.Json.Literals

/-!
# `Proofs.Json.Written` — the text of a value is read as the value

What is written is JSON, and it is read as what was written. The reader keeps numbers as they stand in the text, so
that this can be said without a word on what numbers mean: every value has one `node`, and reading its text gives
that node, with nothing left over (`ofString_compact`). What a decoder makes of a text that was written is therefore
what it makes of the node.

The reader takes a bounded number of steps. The bound that it starts with, twice the length of the text, is carried
through the induction on the value: each value needs at most twice its own length.

## Contents
- `Escaped`, `readString_escape`: strings.
- `Json.node`, `isWhole_node`: the node that a value is written as.
- `readNode_quote`, …, `readMembers_member`: one step of the reader.
- `readNode_write`: a value is read from its text, whatever may follow a value.
- `ofString_compact`, `node_eq_of_compact`, `decodeText_compact`: a whole text.
-/

namespace ItemQuery

open Decimal (Magnitude isNegative)

namespace Json

open Text (hexValue?)

/-! ## Strings -/

/-- What is read from the escape of a character: a unit if it is written by its code point, else itself. -/
def pieceOf (c : Char) : Piece :=
  if c.toNat < 0x20 ∧ c ∉ ['\x08', '\x0c', '\n', '\r', '\t'] then .unit c.toNat else .char c

/-- **The three ways in which a character is written**: by a letter, by its code point, or as it is. -/
inductive Escaped (c : Char) : Prop
  | letter (e : Char) (hword : escapeChar c = ['\\', e]) (hunescape : unescape e = some c)
      (hpiece : pieceOf c = .char c)
  | point (hword : escapeChar c = ['\\', 'u', '0', '0', hexDigit (c.toNat / 16), hexDigit (c.toNat % 16)])
      (hcontrol : c.toNat < 0x20) (hpiece : pieceOf c = .unit c.toNat)
  | plain (hword : escapeChar c = [c]) (hprintable : ¬ c.toNat < 0x20) (hquote : c ≠ '"')
      (hbackslash : c ≠ '\\') (hpiece : pieceOf c = .char c)

theorem escaped (c : Char) : Escaped c := by
  by_cases hquote : c = '"'
  · subst hquote
    exact .letter '"' rfl rfl rfl
  by_cases hbackslash : c = '\\'
  · subst hbackslash
    exact .letter '\\' rfl rfl rfl
  by_cases hb : c = '\x08'
  · subst hb
    exact .letter 'b' rfl rfl rfl
  by_cases hf : c = '\x0c'
  · subst hf
    exact .letter 'f' rfl rfl rfl
  by_cases hn : c = '\n'
  · subst hn
    exact .letter 'n' rfl rfl rfl
  by_cases hr : c = '\r'
  · subst hr
    exact .letter 'r' rfl rfl rfl
  by_cases ht : c = '\t'
  · subst ht
    exact .letter 't' rfl rfl rfl
  by_cases hcontrol : c.toNat < 0x20
  · have hpiece : pieceOf c = .unit c.toNat := by simp [pieceOf, hcontrol, hb, hf, hn, hr, ht]
    exact .point (by simp [escapeChar, hquote, hbackslash, hb, hf, hn, hr, ht, hcontrol]) hcontrol hpiece
  · have hpiece : pieceOf c = .char c := by simp [pieceOf, hcontrol]
    exact .plain (by simp [escapeChar, hquote, hbackslash, hb, hf, hn, hr, ht, hcontrol]) hcontrol hquote
      hbackslash hpiece

theorem hexValue_hexDigit {n : Nat} (h : n < 16) : hexValue? (hexDigit n) = some n := by
  have hall : ∀ m < 16, hexValue? (hexDigit m) = some m := by decide
  exact hall n h

theorem readPieces_letter {e c : Char} (h : unescape e = some c) (s : List Char) :
    readPieces ('\\' :: e :: s) = (readPieces s).map fun p => (.char c :: p.1, p.2) := by
  -- the letter of an escape is not the one that a code point follows
  have hu : e ≠ 'u' := by
    rintro rfl
    exact nomatch h
  rw [readPieces]
  · rw [h, Option.bind_eq_bind, Option.bind_some]
    cases readPieces s <;> rfl
  · intro _ _ _ _ _ he _
    exact hu he

/-- **One character is read from its escape**, before whatever follows. -/
theorem readPieces_escapeChar (c : Char) (s : List Char) :
    readPieces (escapeChar c ++ s) = (readPieces s).map fun p => (pieceOf c :: p.1, p.2) := by
  cases escaped c with
  | letter e hword hunescape hpiece =>
      rw [hword, hpiece]
      exact readPieces_letter hunescape s
  | point hword hcontrol hpiece =>
      have hzero : hexValue? '0' = some 0 := rfl
      have hhigh := hexValue_hexDigit (n := c.toNat / 16) (by omega)
      have hlow := hexValue_hexDigit (n := c.toNat % 16) (by omega)
      have hunit : 0 * 4096 + 0 * 256 + c.toNat / 16 * 16 + c.toNat % 16 = c.toNat := by omega
      rw [hword, hpiece]
      simp only [List.cons_append, List.nil_append, readPieces, hzero, hhigh, hlow, Option.bind_eq_bind,
        Option.bind_some, hunit]
      cases readPieces s <;> rfl
  | plain hword hprintable hquote hbackslash hpiece =>
      have hguard : ¬ (c.toNat < 0x20 || c = '\\') = true := by simp [hprintable, hbackslash]
      rw [hword, hpiece, List.singleton_append, readPieces, if_neg hguard]
      · exact hquote
      · intro _ _ _ _ _ h _
        exact hbackslash h
      · intro _ _ h _
        exact hbackslash h

theorem readPieces_escape (cs rest : List Char) :
    readPieces (cs.flatMap escapeChar ++ '"' :: rest) = some (cs.map pieceOf, rest) := by
  induction cs with
  | nil => rfl
  | cons c cs ih => rw [List.flatMap_cons, List.append_assoc, readPieces_escapeChar, ih, Option.map_some, List.map_cons]

/-- A unit of a control character is no half of a surrogate pair, whatever comes after it. -/
theorem joinPieces_unit {n : Nat} (h : n < 0x20) (ps : List Piece) :
    joinPieces (.unit n :: ps) = (joinPieces ps).map (Char.ofNat n :: ·) := by
  have hlow : ¬ (0xd800 ≤ n && n < 0xdc00) = true := by
    rw [Bool.and_eq_true, decide_eq_true_eq]
    omega
  have hhigh : ¬ (0xdc00 ≤ n && n < 0xe000) = true := by
    rw [Bool.and_eq_true, decide_eq_true_eq]
    omega
  have hhalf : ¬ (0xd800 ≤ n && n < 0xe000) = true := by
    rw [Bool.and_eq_true, decide_eq_true_eq]
    omega
  -- a unit after the unit is looked at together with it, as it could be the second half
  cases ps with
  | nil =>
      show (if (0xd800 ≤ n && n < 0xe000) = true then none else (joinPieces []).map (Char.ofNat n :: ·)) = _
      rw [if_neg hhalf]
  | cons p ps =>
      cases p with
      | char c =>
          show (if (0xd800 ≤ n && n < 0xe000) = true then none
            else (joinPieces (.char c :: ps)).map (Char.ofNat n :: ·)) = _
          rw [if_neg hhalf]
      | unit m => rw [joinPieces, if_neg hlow, if_neg hhigh]

theorem joinPieces_pieceOf (cs : List Char) : joinPieces (cs.map pieceOf) = some cs := by
  induction cs with
  | nil => rfl
  | cons c cs ih =>
      rw [List.map_cons]
      cases escaped c with
      | point _ hcontrol hpiece =>
          rw [hpiece, joinPieces_unit hcontrol, ih, Option.map_some, Char.ofNat_toNat]
      | letter _ _ _ hpiece => rw [hpiece, joinPieces, ih, Option.map_some]
      | plain _ _ _ _ hpiece => rw [hpiece, joinPieces, ih, Option.map_some]

/-- **A string is read from what is written for it**, after its opening quote. -/
theorem readString_escape (s : String) (rest : List Char) :
    readString (s.toList.flatMap escapeChar ++ '"' :: rest) = some (some s, rest) := by
  rw [readString, readPieces_escape, Option.map_some]
  dsimp only
  rw [joinPieces_pieceOf, Option.map_some, String.ofList_toList]

/-! ## Values as nodes -/

mutual

/-- **The node that a value is written as.** -/
def node : Json → Node
  | null => .null
  | bool b => .bool b
  | int n => .number (.ofInt n)
  | float x => match Magnitude.ofFloat x with
    | .finite b => .number (.ofNumeral layout (isNegative x) (b.shortest layout.tie))
    | _ => .null
  | string s => .string (some s)
  | array items => .array (itemNodes items) true
  | object members => .object (memberNodes members) true

/-- The nodes of items. -/
def itemNodes : List Json → List Node
  | [] => []
  | v :: vs => v.node :: itemNodes vs

/-- The nodes of members, under the same keys. -/
def memberNodes : List (String × Json) → List (Option String × Node)
  | [] => []
  | (k, v) :: ms => (some k, v.node) :: memberNodes ms

end

theorem itemNodes_eq_map (vs : List Json) : itemNodes vs = vs.map node := by
  induction vs with
  | nil => rfl
  | cons v vs ih => rw [itemNodes, ih, List.map_cons]

theorem memberNodes_eq_map (ms : List (String × Json)) :
    memberNodes ms = ms.map fun m => (some m.1, m.2.node) := by
  induction ms with
  | nil => rfl
  | cons m ms ih => rw [memberNodes, ih, List.map_cons]

mutual

/-- Nothing that is written is broken. -/
theorem isWhole_node (v : Json) : v.node.isWhole = true := by
  cases v with
  | float x =>
      rw [node]
      split <;> rfl
  | array items => exact allWhole_itemNodes items
  | object members => exact membersWhole_memberNodes members
  | _ => rfl

theorem allWhole_itemNodes (vs : List Json) : allWhole (itemNodes vs) = true := by
  cases vs with
  | nil => rfl
  | cons v vs =>
      rw [itemNodes, allWhole, Bool.and_eq_true]
      exact ⟨isWhole_node v, allWhole_itemNodes vs⟩

theorem membersWhole_memberNodes (ms : List (String × Json)) : membersWhole (memberNodes ms) = true := by
  cases ms with
  | nil => rfl
  | cons m ms =>
      rw [memberNodes, membersWhole, Bool.and_eq_true]
      exact ⟨isWhole_node m.2, membersWhole_memberNodes ms⟩

end

/-- Every member that is written has a text as its key, and can be skipped. -/
theorem forall_mem_memberNodes (ms : List (String × Json)) :
    ∀ m ∈ memberNodes ms, m.1.isSome = true ∧ m.2.isWhole = true := by
  rw [memberNodes_eq_map, List.forall_mem_map]
  exact fun m _ => ⟨rfl, isWhole_node m.2⟩

/-! ## How a text begins -/

theorem skipBlanks_cons {c : Char} (h : isBlank c = false) (s : List Char) : skipBlanks (c :: s) = c :: s := by
  rw [skipBlanks, List.dropWhile_cons, h]
  rfl

/-- The first character of a literal is a minus or a digit. -/
theorem Literal.Proper.head {l : Literal} (hl : l.Proper) :
    ∃ c s, l.text = c :: s ∧ (c = '-' ∨ c.isDigit = true) := by
  obtain ⟨negative, whole, fraction, exponent⟩ := l
  cases negative with
  | true => exact ⟨'-', _, rfl, .inl rfl⟩
  | false =>
      cases whole with
      | nil => exact absurd rfl hl.whole.1
      | cons d ds => exact ⟨d, _, rfl, .inr (hl.whole.2 d List.mem_cons_self)⟩

theorem not_isBlank_of_number {c : Char} (h : c = '-' ∨ c.isDigit = true) : isBlank c = false := by
  rcases h with rfl | h
  · rfl
  · have hblank : ∀ b ∈ [' ', '\n', '\t', '\r'], b.isDigit = false := by simp
    by_contra hc
    rw [Bool.not_eq_false] at hc
    have hmem : c ∈ [' ', '\n', '\t', '\r'] := by simpa [isBlank, or_assoc] using hc
    rw [hblank c hmem] at h
    exact nomatch h

theorem readNode_literal {l : Literal} (hl : l.Proper) {rest : List Char} (h : Follows rest) (steps : Nat) :
    readNode (steps + 1) (l.text ++ rest) = (.number l, some rest) := by
  have hlex := lex_text hl h
  obtain ⟨c, s, htext, hc⟩ := hl.head
  have hskip : skipBlanks (c :: (s ++ rest)) = c :: (s ++ rest) := skipBlanks_cons (not_isBlank_of_number hc) _
  rw [htext, List.cons_append] at hlex ⊢
  rw [readNode, hskip]
  -- none of the characters that other values begin with is a minus or a digit
  split
  case h_7 => rw [hlex]
  all_goals
    rename_i heq
    rw [(List.cons.inj heq).1] at hc
    exact absurd hc (by decide)

theorem proper_ofFinite {x : Float} {b : Decimal.Binary} (h : Magnitude.ofFloat x = .finite b) :
    (Literal.ofNumeral layout (isNegative x) (b.shortest layout.tie)).Proper :=
  proper_ofNumeral _ _ (b.coefficient_shortest (Decimal.le_exponent_of_finite h) layout.tie)

theorem writeFloat_finite {x : Float} {b : Decimal.Binary} (h : Magnitude.ofFloat x = .finite b) :
    writeFloat x = (Literal.ofNumeral layout (isNegative x) (b.shortest layout.tie)).text := by
  rw [writeFloat, h, text_ofNumeral]
  rfl

/-- What a value is written with begins with a character that is no blank and no closing bracket. -/
theorem head_write (v : Json) : ∃ c s, v.write = c :: s ∧ isBlank c = false ∧ c ≠ ']' := by
  have hliteral {l : Literal} (hl : l.Proper) : ∃ c s, l.text = c :: s ∧ isBlank c = false ∧ c ≠ ']' := by
    obtain ⟨c, s, htext, hc⟩ := hl.head
    refine ⟨c, s, htext, not_isBlank_of_number hc, ?_⟩
    rintro rfl
    exact absurd hc (by decide)
  cases v with
  | null => exact ⟨'n', _, rfl, rfl, by decide⟩
  | bool b => cases b <;> exact ⟨_, _, rfl, rfl, by decide⟩
  | int n =>
      rw [write, ← text_ofInt]
      exact hliteral (proper_ofInt n)
  | float x =>
      rw [write]
      cases hx : Magnitude.ofFloat x with
      | finite b =>
          rw [writeFloat_finite hx]
          exact hliteral (proper_ofFinite hx)
      | _ =>
          rw [writeFloat, hx]
          exact ⟨'n', _, rfl, rfl, by decide⟩
  | string s => exact ⟨'"', _, rfl, rfl, by decide⟩
  | array items => exact ⟨'[', _, rfl, rfl, by decide⟩
  | object members => exact ⟨'\x7b', _, rfl, rfl, by decide⟩

/-! ## What comes next -/

theorem next_close (closing : Char) (hblank : isBlank closing = false) (first : Bool) (rest : List Char) :
    next closing first (closing :: rest) = .close rest := by
  rw [next, skipBlanks_cons hblank]
  exact if_pos rfl

/-- Before the first item stands nothing, before any other a comma. -/
theorem next_item {closing c : Char} (hblank : isBlank c = false) (hc : c ≠ closing) (hcomma : closing ≠ ',')
    (first : Bool) (s : List Char) :
    next closing first ((if first then [] else [',']) ++ c :: s) = .item (c :: s) := by
  cases first with
  | true =>
      show next closing true (c :: s) = _
      rw [next, skipBlanks_cons hblank]
      exact if_neg hc
  | false =>
      show next closing false (',' :: c :: s) = _
      rw [next, skipBlanks_cons rfl]
      dsimp only
      rw [if_neg hcomma.symm, skipBlanks_cons hblank]
      rfl

theorem follows_cons {c : Char} (h : c ∈ [',', ']', '\x7d']) (s : List Char) : Follows (c :: s) := by
  intro c' hc'
  rwa [← Option.some.inj hc']

/-- After an item come a comma and the next one, or the closing bracket. -/
theorem follows_items (vs : List Json) (rest : List Char) : Follows (writeItems false vs ++ ']' :: rest) := by
  cases vs with
  | nil => exact follows_cons (by decide) rest
  | cons v vs => exact follows_cons (by decide) _

theorem follows_members (ms : List (String × Json)) (rest : List Char) :
    Follows (writeMembers false ms ++ '\x7d' :: rest) := by
  cases ms with
  | nil => exact follows_cons (by decide) rest
  | cons m ms => exact follows_cons (by decide) _

/-! ## One step of reading -/

theorem readNode_quote {steps : Nat} {s after : List Char} {text : Option String}
    (h : readString s = some (text, after)) :
    readNode (steps + 1) ('"' :: s) = (.string text, some after) := by
  rw [readNode, skipBlanks_cons rfl]
  simp only [h]

theorem readNode_bracket {steps : Nat} {s after : List Char} {vs : List Node}
    (h : readItems steps true s = (vs, some after)) :
    readNode (steps + 1) ('[' :: s) = (.array vs true, some after) := by
  rw [readNode, skipBlanks_cons rfl]
  show (Node.array (readItems steps true s).1 (readItems steps true s).2.isSome, (readItems steps true s).2) = _
  rw [h]
  rfl

theorem readNode_brace {steps : Nat} {s after : List Char} {ms : List (Option String × Node)}
    (h : readMembers steps true s = (ms, some after)) :
    readNode (steps + 1) ('\x7b' :: s) = (.object ms true, some after) := by
  rw [readNode, skipBlanks_cons rfl]
  show (Node.object (readMembers steps true s).1 (readMembers steps true s).2.isSome,
    (readMembers steps true s).2) = _
  rw [h]
  rfl

theorem readItems_item {steps : Nat} {first : Bool} {s value more rest : List Char} {v : Node} {vs : List Node}
    (hnext : next ']' first s = .item value) (hvalue : readNode steps value = (v, some more))
    (hitems : readItems steps false more = (vs, some rest)) :
    readItems (steps + 1) first s = (v :: vs, some rest) := by
  rw [readItems, hnext]
  dsimp only
  rw [hvalue]
  dsimp only
  rw [hitems]

theorem readMembers_member {steps : Nat} {first : Bool} {s name value more rest : List Char} {v : Node}
    {key : Option String} {ms : List (Option String × Node)} (hnext : next '\x7d' first s = .item ('"' :: name))
    (hname : readString name = some (key, ':' :: value)) (hvalue : readNode steps value = (v, some more))
    (hmembers : readMembers steps false more = (ms, some rest)) :
    readMembers (steps + 1) first s = ((key, v) :: ms, some rest) := by
  have hcolon : skipBlanks (':' :: value) = ':' :: value := skipBlanks_cons (c := ':') rfl value
  rw [readMembers, hnext]
  simp only [hname, hcolon, hvalue, hmembers]

/-! ## Whole values -/

mutual

/-- **A value is read from its text**, whatever may follow a value. -/
theorem readNode_write (v : Json) {rest : List Char} (h : Follows rest) {steps : Nat}
    (hsteps : 2 * v.write.length ≤ steps) : readNode steps (v.write ++ rest) = (v.node, some rest) := by
  -- a value takes at least one character, so that there is a first step
  obtain ⟨c, s, hhead, -, -⟩ := v.head_write
  obtain ⟨steps, rfl⟩ : ∃ n, steps = n + 1 := ⟨steps - 1, by rw [hhead, List.length_cons] at hsteps; omega⟩
  cases v with
  | null => rfl
  | bool b => cases b <;> rfl
  | int n =>
      rw [write, ← text_ofInt, readNode_literal (proper_ofInt n) h, node]
  | float x =>
      rw [write, node]
      cases hx : Magnitude.ofFloat x with
      | finite b => rw [writeFloat_finite hx, readNode_literal (proper_ofFinite hx) h]
      | _ =>
          rw [writeFloat, hx]
          rfl
  | string s =>
      show readNode (steps + 1) ('"' :: (s.toList.flatMap escapeChar ++ ['"']) ++ rest) = _
      rw [List.cons_append, List.append_assoc]
      exact readNode_quote (readString_escape s rest)
  | array items =>
      have hfuel : 2 * (writeItems true items).length + 1 ≤ steps := by
        simp only [write, List.length_append, List.length_cons, List.length_nil] at hsteps
        omega
      show readNode (steps + 1) ('[' :: (writeItems true items ++ [']']) ++ rest) = _
      rw [List.cons_append, List.append_assoc]
      exact readNode_bracket (readItems_write true items rest hfuel)
  | object members =>
      have hfuel : 2 * (writeMembers true members).length + 1 ≤ steps := by
        simp only [write, List.length_append, List.length_cons, List.length_nil] at hsteps
        omega
      show readNode (steps + 1) ('\x7b' :: (writeMembers true members ++ ['\x7d']) ++ rest) = _
      rw [List.cons_append, List.append_assoc]
      exact readNode_brace (readMembers_write true members rest hfuel)

/-- Items are read up to their closing bracket. -/
theorem readItems_write (first : Bool) (vs : List Json) (rest : List Char) {steps : Nat}
    (hsteps : 2 * (writeItems first vs).length + 1 ≤ steps) :
    readItems steps first (writeItems first vs ++ ']' :: rest) = (itemNodes vs, some rest) := by
  obtain ⟨steps, rfl⟩ : ∃ n, steps = n + 1 := ⟨steps - 1, by omega⟩
  cases vs with
  | nil =>
      show readItems (steps + 1) first (']' :: rest) = _
      rw [readItems, next_close ']' rfl, itemNodes]
  | cons v vs =>
      obtain ⟨c, s, hhead, hblank, hclose⟩ := v.head_write
      have hlen : (writeItems first (v :: vs)).length =
          (if first then [] else [',']).length + v.write.length + (writeItems false vs).length := by
        rw [writeItems, List.length_append, List.length_append]
      -- the first character of the item pays for this step
      have hpos : 0 < v.write.length := by rw [hhead]; exact Nat.succ_pos _
      have hitem : readNode steps (v.write ++ (writeItems false vs ++ ']' :: rest)) =
          (v.node, some (writeItems false vs ++ ']' :: rest)) :=
        readNode_write v (follows_items vs rest) (by omega)
      have hitems : readItems steps false (writeItems false vs ++ ']' :: rest) = (itemNodes vs, some rest) :=
        readItems_write false vs rest (by omega)
      have hnext := next_item hblank hclose (by decide) first (s ++ (writeItems false vs ++ ']' :: rest))
      rw [← List.cons_append, ← hhead] at hnext
      rw [writeItems, List.append_assoc, List.append_assoc]
      exact readItems_item hnext hitem hitems

/-- Members are read up to their closing brace. -/
theorem readMembers_write (first : Bool) (ms : List (String × Json)) (rest : List Char) {steps : Nat}
    (hsteps : 2 * (writeMembers first ms).length + 1 ≤ steps) :
    readMembers steps first (writeMembers first ms ++ '\x7d' :: rest) = (memberNodes ms, some rest) := by
  obtain ⟨steps, rfl⟩ : ∃ n, steps = n + 1 := ⟨steps - 1, by omega⟩
  cases ms with
  | nil =>
      show readMembers (steps + 1) first ('\x7d' :: rest) = _
      rw [readMembers, next_close '\x7d' rfl, memberNodes]
  | cons m ms =>
      obtain ⟨k, v⟩ := m
      obtain ⟨c, s, hhead, hblank, -⟩ := v.head_write
      have htext : writeMembers first ((k, v) :: ms) ++ '\x7d' :: rest =
          (if first then [] else [',']) ++ '"' :: (k.toList.flatMap escapeChar ++
            '"' :: ':' :: (v.write ++ (writeMembers false ms ++ '\x7d' :: rest))) := by
        simp [writeMembers, writeString]
      -- the quotes and the colon pay for this step
      have hlen : v.write.length + (writeMembers false ms).length < (writeMembers first ((k, v) :: ms)).length := by
        simp only [writeMembers, List.length_append, List.length_cons]
        omega
      have hvalue : readNode steps (v.write ++ (writeMembers false ms ++ '\x7d' :: rest)) =
          (v.node, some (writeMembers false ms ++ '\x7d' :: rest)) :=
        readNode_write v (follows_members ms rest) (by omega)
      have hmembers : readMembers steps false (writeMembers false ms ++ '\x7d' :: rest) =
          (memberNodes ms, some rest) :=
        readMembers_write false ms rest (by omega)
      rw [htext]
      exact readMembers_member (next_item rfl (by decide) (by decide) first _) (readString_escape k _) hvalue hmembers

end

/-- **Reading the text of a value** gives its node, and nothing is left over. -/
theorem ofString_compact (v : Json) : Source.ofString v.compact = ⟨v.node, true⟩ := by
  have hread : readNode (2 * v.write.length + 2) (v.write ++ []) = (v.node, some []) :=
    v.readNode_write follows_nil (Nat.le_add_right _ 2)
  rw [List.append_nil] at hread
  rw [Source.ofString, compact, String.toList_ofList, Source.ofList, hread]
  rfl

/-- Values with one text have one node. -/
theorem node_eq_of_compact {v w : Json} (h : v.compact = w.compact) : v.node = w.node := by
  have hsource : (⟨v.node, true⟩ : Source) = ⟨w.node, true⟩ := by rw [← ofString_compact, h, ofString_compact]
  exact congrArg Source.node hsource

/-- What a decoder makes of the text of a value is what it makes of the node. -/
theorem decodeText_compact {α : Type} (d : Decoder α) (v : Json) (a : α) :
    decodeText d v.compact = .ok a ↔ d v.node = .ok a := by
  rw [decodeText_eq_ok_iff, ofString_compact]
  simp only [and_true]

end Json

end ItemQuery
