import ItemQuery.Predicate.Json
import ItemQuery.Proofs.Decimal.Spelled
import ItemQuery.Proofs.Json.Written

/-!
# `Proofs.Predicate.Written` — the JSON of predicates shows the predicates

A predicate is written as one object, into which its clause is flattened, and the kind and the value of the condition
into the clause. Nothing is lost in this: the first key says whether there is an anchor, the kind of condition whether
there is a value and of what form, and the form of a number whether it is an integer or a double.

The argument is on nodes. What is read from a text is the node of the value that was written, so that two texts that
are the same have the same node; and each layer of a predicate is recovered from its node. That a number shows which
double it was is `eq_of_ofNumeral`, for the finite ones: all others are written as `null`.

## Contents
- `Operand.isFinite`, `Condition.operands`, `Predicate.isFinite`: doubles that JSON has a word for.
- `Operand.eq_of_node`, `Condition.eq_of_node`, `Clause.eq_of_memberNodes`, `Predicate.eq_of_node`: one layer each.
- `predicatesJson_compact_inj`: whole lists.
-/

namespace ItemQuery

open Decimal (Magnitude isNegative)
open Json (Literal Node memberNodes itemNodes_eq_map)

/-! ## Numbers -/

namespace Json

/-- **In JSON a decimal always shows a point or an exponent.** -/
theorem not_isWhole_ofNumeral {l : Decimal.Layout} (hl : l.keepsPoint = true) (negative : Bool)
    (d : Decimal.Numeral) : ¬ (Literal.ofNumeral l negative d).IsWhole := by
  have hlength : 0 < d.digits.length := List.length_pos_of_ne_nil Nat.toDigits_ne_nil
  unfold Literal.ofNumeral Literal.IsWhole
  dsimp only
  -- the fraction is not empty, save where there is an exponent
  split_ifs with hpositional hexponent hplaces
  · exact fun h => nomatch h.1
  · intro h
    have hdrop := congrArg List.length h.1
    rw [List.length_nil, List.length_drop] at hdrop
    omega
  · intro h
    have hzeros := congrArg List.length h.1
    rw [List.length_nil, List.length_append] at hzeros
    omega
  · exact fun h => nomatch h.2

/-- So it is never written like an integer, which shows neither. -/
theorem ofInt_ne_ofNumeral {l : Decimal.Layout} (hl : l.keepsPoint = true) (n : Int) (negative : Bool)
    (d : Decimal.Numeral) : Literal.ofInt n ≠ Literal.ofNumeral l negative d := by
  intro h
  have hwhole : (Literal.ofInt n).IsWhole := ⟨rfl, rfl⟩
  rw [h] at hwhole
  exact not_isWhole_ofNumeral hl negative d hwhole

theorem node_finite {x : Float} {b : Decimal.Binary} (h : Magnitude.ofFloat x = .finite b) :
    (Json.float x).node = .number (.ofNumeral layout (isNegative x) (b.shortest layout.tie)) := by
  rw [node, h]

end Json

/-! ## Operands -/

namespace Operand

/-- An operand is finite unless it is a double that is not. -/
def isFinite : Operand → Bool
  | float x => Decimal.isFinite x.toFloat
  | _ => true

theorem exists_binary {x : Double} (h : (float x).isFinite = true) : ∃ b, Magnitude.ofFloat x.toFloat = .finite b := by
  have hfinite : Decimal.isFinite x.toFloat = true := h
  unfold Decimal.isFinite at hfinite
  cases hx : Magnitude.ofFloat x.toFloat with
  | finite b => exact ⟨b, rfl⟩
  | _ => simp [hx] at hfinite

/-- The sign of NaN is all that a double has besides its `Float`. -/
theorem eq_of_toFloat {x y : Double} {b : Decimal.Binary} (hx : Magnitude.ofFloat x.toFloat = .finite b)
    (h : x.toFloat = y.toFloat) : x = y := by
  have hnan : Magnitude.ofFloat (Double.negativeNaN).toFloat = .notANumber := by decide
  cases x with
  | negativeNaN => exact nomatch hnan.symm.trans hx
  | ofFloat x =>
      cases y with
      | negativeNaN =>
          rw [h] at hx
          exact nomatch hnan.symm.trans hx
      | ofFloat y =>
          rw [Double.toFloat_ofFloat, Double.toFloat_ofFloat] at h
          rw [h]

/-- The node of a double is a number, and that of no integer. -/
theorem node_float {x : Double} (hx : (float x).isFinite = true) :
    ∃ l, (float x).toJson.node = .number l ∧ ∀ n, Literal.ofInt n ≠ l := by
  obtain ⟨b, hb⟩ := exists_binary hx
  exact ⟨_, Json.node_finite hb, fun n => Json.ofInt_ne_ofNumeral rfl n _ _⟩

/-- **The node of an operand shows the operand**: its kind and its value. -/
theorem eq_of_node {v w : Operand} (hv : v.isFinite = true) (hw : w.isFinite = true)
    (h : v.toJson.node = w.toJson.node) : v = w := by
  cases v with
  | bool a =>
      cases w with
      | bool b => exact congrArg bool (Node.bool.inj h)
      | float y =>
          obtain ⟨l, hl, -⟩ := node_float hw
          exact nomatch h.trans hl
      | _ => exact nomatch h
  | int n =>
      cases w with
      | int m => exact congrArg int (Int64.toInt_inj.mp (Json.ofInt_injective (Node.number.inj h)))
      | float y =>
          obtain ⟨l, hl, hne⟩ := node_float hw
          exact absurd (Node.number.inj (h.trans hl)) (hne _)
      | _ => exact nomatch h
  | float x =>
      obtain ⟨l, hl, hne⟩ := node_float hv
      cases w with
      | int m => exact absurd (Node.number.inj (h.symm.trans hl)) (hne _)
      | float y =>
          obtain ⟨b, hb⟩ := exists_binary hv
          obtain ⟨b', hb'⟩ := exists_binary hw
          rw [toJson, toJson, Json.node_finite hb, Json.node_finite hb'] at h
          exact congrArg float (eq_of_toFloat hb (Json.eq_of_ofNumeral hb hb' (Node.number.inj h)))
      | _ => exact nomatch hl.symm.trans h
  | text s =>
      cases w with
      | text t => exact congrArg text (Option.some.inj (Node.string.inj h))
      | float y =>
          obtain ⟨l, hl, -⟩ := node_float hw
          exact nomatch h.trans hl
      | _ => exact nomatch h

end Operand

/-! ## Conditions -/

namespace Condition

/-- What a condition compares with, save for the members of a list, which are integers. -/
def operands : Condition → List Operand
  | equals v => [v]
  | atLeast v => [v]
  | atMost v => [v]
  | between lo hi => [lo, hi]
  | _ => []

theorem map_ofInt_injective : Function.Injective fun ns : List Int64 => ns.map fun n => (Json.int n.toInt).node :=
  List.map_injective_iff.mpr fun _ _ h => Int64.toInt_inj.mp (Json.ofInt_injective (Node.number.inj h))

/-- **The name and the value show the condition.** -/
theorem eq_of_node {c d : Condition} (hc : ∀ v ∈ c.operands, v.isFinite = true)
    (hd : ∀ v ∈ d.operands, v.isFinite = true) (hname : c.name = d.name)
    (hvalue : c.valueJson.map Json.node = d.valueJson.map Json.node) : c = d := by
  -- every kind has a name of its own
  cases c with
  | equals v =>
      cases d with
      | equals w =>
          exact congrArg equals (Operand.eq_of_node (hc v (.head _)) (hd w (.head _)) (Option.some.inj hvalue))
      | _ => simp [name] at hname
  | contains s =>
      cases d with
      | contains t => exact congrArg contains (Option.some.inj (Node.string.inj (Option.some.inj hvalue)))
      | _ => simp [name] at hname
  | atLeast v =>
      cases d with
      | atLeast w =>
          exact congrArg atLeast (Operand.eq_of_node (hc v (.head _)) (hd w (.head _)) (Option.some.inj hvalue))
      | _ => simp [name] at hname
  | atMost v =>
      cases d with
      | atMost w =>
          exact congrArg atMost (Operand.eq_of_node (hc v (.head _)) (hd w (.head _)) (Option.some.inj hvalue))
      | _ => simp [name] at hname
  | between lo hi =>
      cases d with
      | between lo' hi' =>
          have hmembers := (Node.object.inj (Option.some.inj hvalue)).1
          simp only [memberNodes, List.cons.injEq, Prod.mk.injEq, true_and, and_true] at hmembers
          have hlo := Operand.eq_of_node (hc lo (by simp [operands])) (hd lo' (by simp [operands])) hmembers.1
          have hhi := Operand.eq_of_node (hc hi (by simp [operands])) (hd hi' (by simp [operands])) hmembers.2
          rw [hlo, hhi]
      | _ => simp [name] at hname
  | oneOf ns =>
      cases d with
      | oneOf ms =>
          have hitems := (Node.array.inj (Option.some.inj hvalue)).1
          rw [itemNodes_eq_map, itemNodes_eq_map, List.map_map, List.map_map] at hitems
          exact congrArg oneOf (map_ofInt_injective hitems)
      | _ => simp [name] at hname
  | present =>
      cases d with
      | present => rfl
      | _ => simp [name] at hname

end Condition

/-! ## Clauses and predicates -/

/-- A clause compares with nothing that is not finite. -/
def Clause.isFinite (c : Clause) : Bool := c.condition.operands.all Operand.isFinite

/-- A predicate compares with nothing that is not finite, its anchor included. -/
def Predicate.isFinite (p : Predicate) : Bool := p.clauses.all Clause.isFinite

theorem Clause.memberNodes_members (c : Clause) :
    memberNodes c.members = (some "path", .string (some c.path.text)) :: (some "op", .string (some c.condition.name)) ::
      ((c.condition.valueJson.map Json.node).map fun n => (some "value", n)).toList := by
  cases hvalue : c.condition.valueJson <;> simp [members, hvalue, memberNodes, Json.node]

/-- **The members of a clause show the clause.** -/
theorem Clause.eq_of_memberNodes {c d : Clause} (hc : c.isFinite = true) (hd : d.isFinite = true)
    (h : memberNodes c.members = memberNodes d.members) : c = d := by
  rw [memberNodes_members, memberNodes_members] at h
  simp only [List.cons.injEq, Prod.mk.injEq, true_and, Node.string.injEq, Option.some.injEq] at h
  obtain ⟨hpath, hname, hvalue⟩ := h
  have hkey : Function.Injective fun n : Node => (some "value", n) := fun _ _ h => (Prod.mk.inj h).2
  have hhead := congrArg List.head? hvalue
  rw [Option.head?_toList, Option.head?_toList] at hhead
  have hnode := Option.map_injective hkey hhead
  have hcondition := Condition.eq_of_node (List.all_eq_true.mp hc) (List.all_eq_true.mp hd) hname hnode
  obtain ⟨⟨path⟩, condition⟩ := c
  obtain ⟨⟨path'⟩, condition'⟩ := d
  simp only at hpath hcondition
  rw [hpath, hcondition]

namespace Predicate

variable {a a' c c' : Clause} {p q : Predicate}

theorem isFinite_plain : isFinite ⟨none, c⟩ = c.isFinite := Bool.and_true _

theorem isFinite_anchored : isFinite ⟨some a, c⟩ = (a.isFinite && c.isFinite) :=
  congrArg (a.isFinite && ·) (Bool.and_true _)

theorem node_plain : (toJson ⟨none, c⟩).node = .object (memberNodes c.members) true := rfl

theorem node_anchored : (toJson ⟨some a, c⟩).node =
    .object ((some "anchor", .object (memberNodes a.members) true) :: memberNodes c.members) true := rfl

/-- The key of the anchor is not the first key of a clause. -/
theorem node_plain_ne_anchored : (toJson ⟨none, c⟩).node ≠ (toJson ⟨some a', c'⟩).node := by
  rw [node_plain, node_anchored, Clause.memberNodes_members]
  simp

/-- **The node of a predicate shows the predicate**: whether there is an anchor, the anchor, and the clause. -/
theorem eq_of_node (hp : p.isFinite = true) (hq : q.isFinite = true) (h : p.toJson.node = q.toJson.node) :
    p = q := by
  obtain ⟨anchor, c⟩ := p
  obtain ⟨anchor', c'⟩ := q
  cases anchor with
  | none =>
      cases anchor' with
      | none =>
          rw [isFinite_plain] at hp hq
          rw [Clause.eq_of_memberNodes hp hq (Node.object.inj h).1]
      | some a' => exact absurd h node_plain_ne_anchored
  | some a =>
      cases anchor' with
      | none => exact absurd h.symm node_plain_ne_anchored
      | some a' =>
          rw [isFinite_anchored, Bool.and_eq_true] at hp hq
          rw [node_anchored, node_anchored, Node.object.injEq, List.cons.injEq, Prod.mk.injEq, Node.object.injEq] at h
          obtain ⟨⟨⟨-, hanchor, -⟩, hclause⟩, -⟩ := h
          rw [Clause.eq_of_memberNodes hp.1 hq.1 hanchor, Clause.eq_of_memberNodes hp.2 hq.2 hclause]

end Predicate

/-! ## Lists of predicates -/

/-- Lists of what a function tells apart are told apart by their images. -/
theorem eq_of_map_eq {α β : Type} {f : α → β} {P : α → Prop} (hf : ∀ a b, P a → P b → f a = f b → a = b)
    {as bs : List α} (has : ∀ a ∈ as, P a) (hbs : ∀ b ∈ bs, P b) (h : as.map f = bs.map f) : as = bs := by
  induction as generalizing bs with
  | nil => exact (List.map_eq_nil_iff.mp h.symm).symm
  | cons a as ih =>
      cases bs with
      | nil => exact nomatch h
      | cons b bs =>
          rw [List.map_cons, List.map_cons, List.cons.injEq] at h
          rw [List.forall_mem_cons] at has hbs
          rw [hf a b has.1 hbs.1 h.1, ih has.2 hbs.2 h.2]

/-- **Two lists of predicates have the same JSON text only if they are the same.** -/
theorem predicatesJson_compact_inj (ps qs : List Predicate) (hps : ∀ p ∈ ps, p.isFinite = true)
    (hqs : ∀ q ∈ qs, q.isFinite = true) : (predicatesJson ps).compact = (predicatesJson qs).compact ↔ ps = qs := by
  constructor
  · intro h
    have hitems := (Node.array.inj (Json.node_eq_of_compact h)).1
    rw [itemNodes_eq_map, itemNodes_eq_map, List.map_map, List.map_map] at hitems
    exact eq_of_map_eq (fun _ _ => Predicate.eq_of_node) hps hqs hitems
  · rintro rfl
    rfl

/-- An integer and the double of the same value, a list of two members either way round, and a clause with and
    without its anchor. -/
theorem predicatesJson_compact_apart :
    let ints := [Predicate.on "ilvl" (.atLeast (.int 80))]
    let doubles := [Predicate.on "ilvl" (.atLeast (.float (.ofFloat 80)))]
    let upwards := [Predicate.on "frameType" (.oneOf [0, 9])]
    let downwards := [Predicate.on "frameType" (.oneOf [9, 0])]
    let price : Clause := ⟨⟨"Price.Currency"⟩, .equals (.text "chaos")⟩
    let anchored := [(⟨some price, ⟨⟨"Price.Number"⟩, .present⟩⟩ : Predicate)]
    let plain := [Predicate.on "Price.Number" .present]
    (predicatesJson ints).compact ≠ (predicatesJson doubles).compact ∧
      (predicatesJson upwards).compact ≠ (predicatesJson downwards).compact ∧
      (predicatesJson anchored).compact ≠ (predicatesJson plain).compact := by
  refine ⟨?_, ?_, ?_⟩
  · rw [Ne, predicatesJson_compact_inj _ _ (by decide) (by decide)]
    decide
  · rw [Ne, predicatesJson_compact_inj _ _ (by decide) (by decide)]
    decide
  · rw [Ne, predicatesJson_compact_inj _ _ (by decide) (by decide)]
    decide

end ItemQuery
