import ItemQuery.Command.Render
import ItemQuery.Predicate.Display
import ItemQuery.Proofs.Decimal.Spelled
import ItemQuery.Proofs.Predicate.Legible
import ItemQuery.Proofs.Predicate.Written
import ItemQuery.Proofs.Text.Quoted
import ItemQuery.Text.Split

/-!
# `Proofs.Predicate.Lines` — one line for each predicate, and no two readings of a line

As text, compiled criteria are one line for each predicate. Texts of a caller stand in these lines in quotes, and
names without; neither can break a line, or make one that reads as another predicate.

A line is taken apart at its first mark. Before it stands a path, or the lower bound of a range, and a word that tells
some kinds of conditions apart (`Clause.lead`); the mark tells the others apart, and the operand stands behind it
(`Clause.trail`). This finds the path, since legible paths hold no marks. The path fixes the kind of the operand, and
an operand of a known kind is found from its text: the texts of doubles are all different, and a quoted text shows
where it ends. The last is what tells a line with an anchor from one without.

## Contents
- `OfKind.eq_of_display`, `isQuiet_number`, `not_isControl_operand`: operands.
- `Clause.lead`, `Clause.trail`, `split_at_mark`: lines taken apart.
- `Clause.eq_of_display`, `Predicate.eq_of_display`: a line shows its predicate.
- `render_text_lines`: the text output.
-/

namespace ItemQuery

open Json (Literal)

/-! ## Operands -/

theorem int64_repr_injective {n m : Int64} (h : n.toInt.repr = m.toInt.repr) : n = m := by
  have htext : (Literal.ofInt n.toInt).text = (Literal.ofInt m.toInt).text := by
    rw [Json.text_ofInt, Json.text_ofInt, h]
  have hliteral := (Json.proper_ofInt n.toInt).eq_of_text (Json.proper_ofInt m.toInt) htext
  exact Int64.toInt_inj.mp (Json.ofInt_injective hliteral)

/-- **The text of an operand shows it among those of its kind.** -/
theorem Operand.OfKind.eq_of_display {k : Kind} {v w : Operand} (hv : v.OfKind k) (hw : w.OfKind k)
    (h : v.display = w.display) : v = w := by
  cases hv with
  | truth a =>
      cases hw with
      | truth b => cases a <;> cases b <;> first | rfl | exact absurd h (by decide)
  | whole n =>
      cases hw with
      | whole m => rw [int64_repr_injective h]
  | real x =>
      cases hw with
      | real y => exact congrArg ofFloat (Decimal.displayFloat_injective h)
  | label s =>
      cases hw with
      | label t =>
          have hchars : (Text.quote s).toList ++ [] = (Text.quote t).toList ++ [] := congrArg (String.toList · ++ []) h
          rw [(Text.quote_append_inj hchars).1]

theorem isQuiet_repr {n : Int} {c : Char} (h : c ∈ n.repr.toList) : IsQuiet c := by
  have hfixed : ∀ a ∈ ['-', '.', 'e', '+'], IsQuiet a := List.all_iff_forall_prop.mp (by decide)
  rw [← Json.text_ofInt] at h
  exact ((Json.proper_ofInt n).mem_text h).elim isQuiet_of_isDigit (hfixed c)

theorem isQuiet_displayFloat {x : Float} {c : Char} (h : c ∈ (Decimal.displayFloat x).toList) : IsQuiet c := by
  have hfixed : ∀ a ∈ "-.e+infNa".toList, IsQuiet a := List.all_iff_forall_prop.mp (by decide)
  exact (Decimal.mem_displayFloat h).elim isQuiet_of_isDigit (hfixed c)

/-- The text of a number is quiet. -/
theorem isQuiet_number {k : Kind} (hk : k.IsNumeric) {v : Operand} (hv : v.OfKind k) :
    ∀ c ∈ v.display.toList, IsQuiet c := by
  intro c hc
  rcases hk with rfl | rfl
  · cases hv with
    | whole n => exact isQuiet_repr hc
  · cases hv with
    | real x => exact isQuiet_displayFloat hc

/-- The text of an operand does not disturb a line. -/
theorem not_isControl_operand {v : Operand} : ∀ c ∈ v.display.toList, ¬ Text.IsControl c := by
  intro c hc
  cases v with
  | bool b =>
      have htrue : ∀ a ∈ "true".toList, ¬ Text.IsControl a := List.all_iff_forall_prop.mp (by decide)
      have hfalse : ∀ a ∈ "false".toList, ¬ Text.IsControl a := List.all_iff_forall_prop.mp (by decide)
      cases b with
      | true => exact htrue c hc
      | false => exact hfalse c hc
  | int n => exact (isQuiet_repr hc).2
  | float x => exact (isQuiet_displayFloat hc).2
  | text s => exact Text.not_isControl_of_isPrintable (Text.isPrintable_of_mem_quote hc)

/-! ## A line taken apart -/

/-- The members of a list, between brackets. -/
def membersText (ns : List Int64) : String := ", ".intercalate (ns.map fun n => n.toInt.repr)

namespace Clause

/-- What stands before the first mark of a legible clause. -/
def lead (c : Clause) : List Char :=
  match c.condition with
  | .equals _ => c.path.text.toList ++ [' ']
  | .contains _ => c.path.text.toList ++ " contains ".toList
  | .atLeast _ => c.path.text.toList ++ [' ']
  | .atMost _ => c.path.text.toList ++ [' ']
  | .between lo _ => lo.display.toList ++ [' ']
  | .oneOf _ => c.path.text.toList ++ " in ".toList
  | .present => c.path.text.toList ++ " exists".toList

/-- What stands from the first mark on. -/
def trail (c : Clause) : List Char :=
  match c.condition with
  | .equals v => "= ".toList ++ v.display.toList
  | .contains s => (Text.quote s).toList ++ " (case-insensitive)".toList
  | .atLeast v => ">= ".toList ++ v.display.toList
  | .atMost v => "<= ".toList ++ v.display.toList
  | .between _ hi => "<= ".toList ++ (c.path.text.toList ++ [' '] ++ ("<= ".toList ++ hi.display.toList))
  | .oneOf ns => "[".toList ++ ((membersText ns).toList ++ "]".toList)
  | .present => []

theorem toList_display (c : Clause) : c.display.toList = c.lead ++ c.trail := by
  obtain ⟨path, condition⟩ := c
  cases condition <;> simp [display, lead, trail, membersText]

/-- A clause is told by its first mark; only the upper bound and the range have the same. -/
theorem trail_head (c : Clause) : ∀ ch, c.trail.head? = some ch → isMark ch = true := by
  obtain ⟨path, condition⟩ := c
  cases condition <;> simp [trail, Text.toList_quote] <;> decide

/-- Quiet text before one of the words that stand before a mark. -/
theorem isMark_append_word {l : List Char} (word : String) (hword : word ∈ [" ", " contains ", " in ", " exists"])
    (hl : ∀ ch ∈ l, IsQuiet ch) : ∀ ch ∈ l ++ word.toList, isMark ch = false := by
  have hwords : ∀ word ∈ [" ", " contains ", " in ", " exists"], word.toList.all (fun ch => !isMark ch) = true := by
    decide
  intro ch hch
  refine (List.mem_append.mp hch).elim (fun h => (hl ch h).1) fun h => ?_
  exact (Bool.not_eq_true' _).mp (List.all_eq_true.mp (hwords word hword) ch h)

/-- Before the first mark there is none. -/
theorem isMark_lead {c : Clause} (hc : c.Legible) : ∀ ch ∈ c.lead, isMark ch = false := by
  obtain ⟨path, condition⟩ := c
  obtain ⟨hquiet, hfits⟩ := hc
  cases hfits with
  | equals _ => exact isMark_append_word " " (by decide) hquiet
  | contains s => exact isMark_append_word " contains " (by decide) hquiet
  | atLeast _ _ => exact isMark_append_word " " (by decide) hquiet
  | atMost _ _ => exact isMark_append_word " " (by decide) hquiet
  | between hk hlo _ => exact isMark_append_word " " (by decide) (isQuiet_number hk hlo)
  | oneOf _ => exact isMark_append_word " in " (by decide) hquiet
  | present => exact isMark_append_word " exists" (by decide) hquiet

end Clause

/-- **The first mark is where it is**: texts that are the same have the same part before it. -/
theorem split_at_mark {l l' t t' : List Char} (hl : ∀ c ∈ l, isMark c = false) (hl' : ∀ c ∈ l', isMark c = false)
    (ht : ∀ c, t.head? = some c → isMark c = true) (ht' : ∀ c, t'.head? = some c → isMark c = true)
    (h : l ++ t = l' ++ t') : l = l' ∧ t = t' := by
  have hspan {l t : List Char} (hl : ∀ c ∈ l, isMark c = false) (ht : ∀ c, t.head? = some c → isMark c = true) :
      (l ++ t).span (fun c => !isMark c) = (l, t) := by
    have hlead : ∀ c ∈ l, (!isMark c) = true := fun c hc => by rw [hl c hc]; rfl
    have htrail : t.takeWhile (fun c => !isMark c) = [] ∧ t.dropWhile (fun c => !isMark c) = t := by
      cases t with
      | nil => exact ⟨rfl, rfl⟩
      | cons c t => simp [ht c rfl]
    rw [List.span_eq_takeWhile_dropWhile, List.takeWhile_append_of_pos hlead, List.dropWhile_append_of_pos hlead,
      htrail.1, htrail.2, List.append_nil]
  have hsplit := hspan hl ht
  rw [h, hspan hl' ht'] at hsplit
  exact ⟨(Prod.mk.inj hsplit).1.symm, (Prod.mk.inj hsplit).2.symm⟩

/-! ## Clauses -/

theorem toList_membersText (ns : List Int64) :
    (membersText ns).toList = [',', ' '].intercalate (ns.map fun n => n.toInt.repr.toList) := by
  rw [membersText, String.toList_intercalate, List.map_map]
  rfl

theorem not_isControl_membersText (ns : List Int64) : ∀ ch ∈ (membersText ns).toList, ¬ Text.IsControl ch := by
  rw [toList_membersText]
  refine Text.forall_mem_intercalate (List.all_iff_forall_prop.mp (by decide)) ?_
  rw [List.forall_mem_map]
  exact fun n _ ch hch => (isQuiet_repr hch).2

theorem membersText_injective : Function.Injective membersText := by
  intro ns ms h
  have hparts (ns : List Int64) : ∀ p ∈ ns.map (fun n => n.toInt.repr.toList), p ≠ [] ∧ ',' ∉ p := by
    rw [List.forall_mem_map]
    intro n _
    rw [← Json.text_ofInt]
    refine ⟨?_, fun hcomma => ?_⟩
    · obtain ⟨c, s, htext, _⟩ := (Json.proper_ofInt n.toInt).head
      rw [htext]
      exact List.cons_ne_nil c s
    · exact absurd ((Json.proper_ofInt n.toInt).mem_text hcomma) (by decide)
  have hchars := congrArg String.toList h
  rw [toList_membersText, toList_membersText] at hchars
  have hmembers := Text.intercalate_inj (hparts ns) (hparts ms) hchars
  exact List.map_injective_iff.mpr (fun _ _ h => int64_repr_injective (String.toList_inj.mp h)) hmembers

namespace Clause

/-- Clauses with the same line are the same up to their first marks, and from there on. -/
theorem lead_trail_of_display {c d : Clause} (hc : c.Legible) (hd : d.Legible) (h : c.display = d.display) :
    c.lead = d.lead ∧ c.trail = d.trail := by
  have hchars := congrArg String.toList h
  rw [toList_display, toList_display] at hchars
  exact split_at_mark (isMark_lead hc) (isMark_lead hd) c.trail_head d.trail_head hchars

/-- An upper bound is no range: behind the mark of a range there is another one. -/
theorem trail_atMost_ne_between {k : Kind} (hk : k.IsNumeric) {v : Operand} (hv : v.OfKind k) (path path' : Path)
    (lo hi : Operand) : trail ⟨path, .atMost v⟩ ≠ trail ⟨path', .between lo hi⟩ := by
  intro h
  have hdisplay : v.display.toList = path'.text.toList ++ [' '] ++ ("<= ".toList ++ hi.display.toList) :=
    List.append_cancel_left h
  have hmark : '<' ∈ v.display.toList := by
    rw [hdisplay]
    simp
  exact absurd (isQuiet_number hk hv '<' hmark).1 (by decide)

/-- The path stands before a word, and fixes the kind of the operand that stands behind a mark. -/
theorem path_operand_inj {path path' : String} {v w : Operand} (word mark : List Char)
    (hv : v.OfKind (kindAt path)) (hw : w.OfKind (kindAt path')) (hlead : path.toList ++ word = path'.toList ++ word)
    (htrail : mark ++ v.display.toList = mark ++ w.display.toList) : path = path' ∧ v = w := by
  obtain rfl : path = path' := String.toList_inj.mp (List.append_cancel_right hlead)
  exact ⟨rfl, hv.eq_of_display hw (String.toList_inj.mp (List.append_cancel_left htrail))⟩

/-- **The line of a legible clause shows the clause.** -/
theorem eq_of_display {c d : Clause} (hc : c.Legible) (hd : d.Legible) (h : c.display = d.display) : c = d := by
  obtain ⟨hlead, htrail⟩ := lead_trail_of_display hc hd h
  obtain ⟨⟨path⟩, condition⟩ := c
  obtain ⟨⟨path'⟩, condition'⟩ := d
  obtain ⟨hquiet, hfits⟩ := hc
  obtain ⟨hquiet', hfits'⟩ := hd
  have hpath (word : List Char) (h : path.toList ++ word = path'.toList ++ word) : path = path' :=
    String.toList_inj.mp (List.append_cancel_right h)
  cases hfits with
  | equals hv =>
      cases hfits' with
      | equals hw =>
          obtain ⟨rfl, rfl⟩ := path_operand_inj [' '] "= ".toList hv hw hlead htrail
          rfl
      | _ => simp [trail, Text.toList_quote] at htrail
  | contains s =>
      cases hfits' with
      | contains t =>
          obtain rfl := hpath _ hlead
          rw [(Text.quote_append_inj htrail).1]
      | _ => simp [trail, Text.toList_quote] at htrail
  | atLeast hk hv =>
      cases hfits' with
      | atLeast hk' hw =>
          obtain ⟨rfl, rfl⟩ := path_operand_inj [' '] ">= ".toList hv hw hlead htrail
          rfl
      | _ => simp [trail, Text.toList_quote] at htrail
  | atMost hk hv =>
      cases hfits' with
      | atMost hk' hw =>
          obtain ⟨rfl, rfl⟩ := path_operand_inj [' '] "<= ".toList hv hw hlead htrail
          rfl
      | between => exact absurd htrail (trail_atMost_ne_between hk hv _ _ _ _)
      | _ => simp [trail, Text.toList_quote] at htrail
  | between hk hlo hhi =>
      cases hfits' with
      | atMost hk' hw => exact absurd htrail.symm (trail_atMost_ne_between hk' hw _ _ _ _)
      | between hk' hlo' hhi' =>
          -- the path stands behind the first mark here, and before the second
          have hrest := split_at_mark (isMark_append_word " " (by decide) hquiet)
            (isMark_append_word " " (by decide) hquiet') (by simp; decide) (by simp; decide)
            (List.append_cancel_left htrail)
          obtain ⟨rfl, rfl⟩ := path_operand_inj [' '] "<= ".toList hhi hhi' hrest.1 hrest.2
          rw [hlo.eq_of_display hlo' (String.toList_inj.mp (List.append_cancel_right hlead))]
      | _ => simp [trail, Text.toList_quote] at htrail
  | oneOf ns =>
      cases hfits' with
      | oneOf ms =>
          obtain rfl := hpath _ hlead
          have hmembers := List.append_cancel_right (List.append_cancel_left htrail)
          rw [membersText_injective (String.toList_inj.mp hmembers)]
      | _ => simp [trail, Text.toList_quote] at htrail
  | present =>
      cases hfits' with
      | present =>
          obtain rfl := hpath _ hlead
          rfl
      | _ => simp [trail, Text.toList_quote] at htrail

theorem not_isControl_display {c : Clause} (hc : c.Legible) : ∀ ch ∈ c.display.toList, ¬ Text.IsControl ch := by
  have hall : ∀ word ∈ [" = ", " contains ", " (case-insensitive)", " >= ", " <= ", " in [", "]", " exists"],
      word.toList.all (fun ch => decide (¬ Text.IsControl ch)) = true := by decide
  have hwords {word : String} (hword : word ∈ [" = ", " contains ", " (case-insensitive)", " >= ", " <= ", " in [", "]",
      " exists"]) : ∀ ch ∈ word.toList, ¬ Text.IsControl ch := List.all_iff_forall_prop.mp (hall word hword)
  have hpath : ∀ ch ∈ c.path.text.toList, ¬ Text.IsControl ch := fun ch hch => (hc.quiet ch hch).2
  have hquote (s : String) : ∀ ch ∈ (Text.quote s).toList, ¬ Text.IsControl ch :=
    fun ch hch => Text.not_isControl_of_isPrintable (Text.isPrintable_of_mem_quote hch)
  obtain ⟨path, condition⟩ := c
  cases condition <;> simp only [display, String.toList_append, List.forall_mem_append]
  case equals v => exact ⟨⟨hpath, hwords (by decide)⟩, not_isControl_operand⟩
  case contains s => exact ⟨⟨⟨hpath, hwords (by decide)⟩, hquote s⟩, hwords (by decide)⟩
  case atLeast v => exact ⟨⟨hpath, hwords (by decide)⟩, not_isControl_operand⟩
  case atMost v => exact ⟨⟨hpath, hwords (by decide)⟩, not_isControl_operand⟩
  case between lo hi =>
    exact ⟨⟨⟨⟨not_isControl_operand, hwords (by decide)⟩, hpath⟩, hwords (by decide)⟩, not_isControl_operand⟩
  case oneOf ns => exact ⟨⟨⟨hpath, hwords (by decide)⟩, not_isControl_membersText ns⟩, hwords (by decide)⟩
  case present => exact ⟨hpath, hwords (by decide)⟩

theorem display_ne_empty (c : Clause) : c.display ≠ "" := by
  intro h
  have hchars := congrArg String.toList h
  rw [toList_display, String.toList_empty, List.append_eq_nil_iff] at hchars
  obtain ⟨path, condition⟩ := c
  cases condition <;> simp [lead] at hchars

end Clause

/-! ## Predicates -/

namespace Predicate

/-- What an anchored predicate's line begins with. -/
theorem toList_display_anchored (code : String) (c : Clause) :
    (display ⟨some (currencyClause code), c⟩).toList =
      (currencyClause code).lead ++
        ("= ".toList ++ ((Text.quote code).toList ++ (" and ".toList ++ c.display.toList))) := by
  simp only [display, String.toList_append, Clause.toList_display (currencyClause code), List.append_assoc]
  rfl

/-- **An anchor shows in the line**: what stands behind the quotes of a currency alone is nothing. -/
theorem display_plain_ne_anchored {c d : Clause} (hc : c.Legible) (code : String) :
    display ⟨none, c⟩ ≠ display ⟨some (currencyClause code), d⟩ := by
  intro h
  have hchars : c.display.toList = _ := congrArg String.toList h
  rw [toList_display_anchored, Clause.toList_display] at hchars
  obtain ⟨hlead, htrail⟩ := split_at_mark (Clause.isMark_lead hc) (Clause.isMark_lead (legible_currencyClause code))
    c.trail_head (by simp; decide) hchars
  obtain ⟨⟨path⟩, condition⟩ := c
  obtain ⟨hquiet, hfits⟩ := hc
  cases hfits with
  | equals hv =>
      obtain rfl : path = "Price.Currency" := String.toList_inj.mp (List.append_cancel_right hlead)
      cases hv with
      | label s =>
          have hquotes : (Text.quote s).toList ++ [] = _ := (List.append_nil _).trans (List.append_cancel_left htrail)
          exact nomatch (Text.quote_append_inj hquotes).2
  | _ => simp [Clause.trail, Text.toList_quote] at htrail

/-- **The line of a legible predicate shows the predicate.** -/
theorem eq_of_display {p q : Predicate} (hp : p.Legible) (hq : q.Legible) (h : p.display = q.display) : p = q := by
  obtain ⟨anchor, c⟩ := p
  obtain ⟨anchor', d⟩ := q
  cases anchor with
  | none =>
      cases anchor' with
      | none => exact congrArg (mk none) (Clause.eq_of_display hp.clause hq.clause h)
      | some a' =>
          obtain ⟨code, rfl⟩ := hq.anchor a' rfl
          exact absurd h (display_plain_ne_anchored hp.clause code)
  | some a =>
      obtain ⟨code, rfl⟩ := hp.anchor a rfl
      cases anchor' with
      | none => exact absurd h.symm (display_plain_ne_anchored hq.clause code)
      | some a' =>
          obtain ⟨code', rfl⟩ := hq.anchor a' rfl
          have hchars := congrArg String.toList h
          rw [toList_display_anchored, toList_display_anchored] at hchars
          obtain ⟨rfl, hrest⟩ := Text.quote_append_inj (List.append_cancel_left (List.append_cancel_left hchars))
          have hclause := String.toList_inj.mp (List.append_cancel_left hrest)
          exact congrArg (mk _) (Clause.eq_of_display hp.clause hq.clause hclause)

theorem not_isControl_display {p : Predicate} (hp : p.Legible) : ∀ ch ∈ p.display.toList, ¬ Text.IsControl ch := by
  obtain ⟨anchor, c⟩ := p
  cases anchor with
  | none => exact Clause.not_isControl_display hp.clause
  | some a =>
      obtain ⟨code, rfl⟩ := hp.anchor a rfl
      have hword : ∀ ch ∈ " and ".toList, ¬ Text.IsControl ch := List.all_iff_forall_prop.mp (by decide)
      simp only [display, String.toList_append, List.forall_mem_append]
      exact ⟨⟨Clause.not_isControl_display (legible_currencyClause code), hword⟩,
        Clause.not_isControl_display hp.clause⟩

theorem display_ne_empty (p : Predicate) : p.display ≠ "" := by
  obtain ⟨anchor, c⟩ := p
  cases anchor with
  | none => exact c.display_ne_empty
  | some a => simp [display]

end Predicate

/-! ## The text output -/

namespace Command

/-- The lines of predicates, joined. -/
theorem toList_write_text (ps : List Predicate) :
    (Format.write ps .text).toList = ['\n'].intercalate (ps.map fun p => p.display.toList) := by
  rw [Format.write, String.toList_intercalate, List.map_map]
  rfl

theorem newline_not_mem_lines {ps : List Predicate} (hps : ∀ p ∈ ps, p.Legible) :
    ∀ line ∈ ps.map (fun p => p.display.toList), line ≠ [] ∧ '\n' ∉ line := by
  rw [List.forall_mem_map]
  intro p hp
  refine ⟨?_, fun h => Predicate.not_isControl_display (hps p hp) '\n' h (by decide)⟩
  rw [Ne, String.toList_eq_nil_iff]
  exact p.display_ne_empty

/-- **The text of legible predicates shows the predicates.** -/
theorem eq_of_write_text {ps qs : List Predicate} (hps : ∀ p ∈ ps, p.Legible) (hqs : ∀ q ∈ qs, q.Legible)
    (h : Format.write ps .text = Format.write qs .text) : ps = qs := by
  have hchars := congrArg String.toList h
  rw [toList_write_text, toList_write_text] at hchars
  have hlines := Text.intercalate_inj (newline_not_mem_lines hps) (newline_not_mem_lines hqs) hchars
  exact eq_of_map_eq (fun _ _ hp hq h => Predicate.eq_of_display hp hq (String.toList_inj.mp h)) hps hqs hlines

/-- **Compiled criteria are one line for each predicate as text, and the text shows the predicates.** Split at its line
    breaks, the text of a list that is not empty has the predicates' own lines, in order. No line is empty or holds a
    control character, whatever texts, names and codes the criteria and the table of currencies consist of. Two lists
    that were compiled, of whatever compilers and criteria, have the same text only if they are the same. -/
theorem render_text_lines :
    (∀ (c : Compiler) (x : Criteria) (ps : List Predicate), c.compile x = .ok ps → ps ≠ [] →
      ∃ text, render c x .text = .ok text ∧
        (Text.splitAll '\n' text.toList).map String.ofList = ps.map Predicate.display ∧
        ∀ line ∈ ps.map Predicate.display, line ≠ "" ∧ ∀ ch ∈ line.toList, ¬ Text.IsControl ch) ∧
    ∀ (c d : Compiler) (x y : Criteria) (ps qs : List Predicate), c.compile x = .ok ps → d.compile y = .ok qs →
      (render c x .text = render d y .text ↔ ps = qs) := by
  constructor
  · intro c x ps h hne
    have hps := Compiler.legible_of_compile h
    refine ⟨Format.write ps .text, by rw [render, h], ?_, ?_⟩
    · rw [toList_write_text, Text.splitAll_intercalate (by simpa using hne)
        fun line hline => (newline_not_mem_lines hps line hline).2, List.map_map]
      exact List.map_congr_left fun p _ => String.ofList_toList
    · rw [List.forall_mem_map]
      exact fun p hp => ⟨p.display_ne_empty, Predicate.not_isControl_display (hps p hp)⟩
  · intro c d x y ps qs hc hd
    rw [render, hc, render, hd]
    constructor
    · intro h
      exact eq_of_write_text (Compiler.legible_of_compile hc) (Compiler.legible_of_compile hd) (Except.ok.inj h)
    · rintro rfl
      rfl

/-- A type line that is made up to read as two lines is one, and is not taken for a type line and a league. -/
theorem render_text_of_forged_line :
    ∃ text, render {} { typeLine := some "a\"\nleague = \"b" } .text = .ok text ∧
      (Text.splitAll '\n' text.toList).length = 1 ∧
      render {} { typeLine := some "a\"\nleague = \"b" } .text ≠
        render {} { typeLine := some "a", league := some "b" } .text := by
  have hforged : ({} : Compiler).compile { typeLine := some "a\"\nleague = \"b" } =
      .ok [.on "typeLine" (.equals (.text "a\"\nleague = \"b"))] := by rfl
  have hplain : ({} : Compiler).compile { typeLine := some "a", league := some "b" } =
      .ok [.on "typeLine" (.equals (.text "a")), .on "league" (.equals (.text "b"))] := by rfl
  obtain ⟨text, htext, hlines, -⟩ := render_text_lines.1 _ _ _ hforged (List.cons_ne_nil _ _)
  refine ⟨text, htext, ?_, ?_⟩
  · have hlength := congrArg List.length hlines
    rwa [List.length_map, List.length_map] at hlength
  · rw [Ne, render_text_lines.2 _ _ _ _ _ _ hforged hplain]
    decide

end Command

end ItemQuery
