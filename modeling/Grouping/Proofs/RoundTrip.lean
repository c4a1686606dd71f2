import Grouping.Entity
import Grouping.Proofs.ByteOrder
import Grouping.Proofs.WrittenJson
import Mathlib.Algebra.Ring.Nat

/-! # Entities that were written

An entity is read back as it was written, apart from the order of its fields: the object that lists
them sorts them by name.
-/

namespace Grouping

/-! ## Ids -/

theorem Json.int64?_toInt (n : Int64) : Json.int64? (.int n.toInt) = some n.toInt :=
  if_pos ⟨n.le_toInt, n.toInt_le⟩

theorem EntityId.reads : Json.Reads EntityId.ofJson? EntityId.toJson := by
  intro id
  cases id with
  | int n => simp [toJson, ofJson?, Json.int64?_toInt]
  | name s => rfl

theorem FieldItem.reads_int64 : Json.Reads FieldItem.int64? fun n => .int n.toInt := by
  intro n
  simp [int64?, Json.int64?_toInt]

namespace Uuid

variable {ns : List Nat} {cs : List Char}

theorem length_hyphenate (h : cs.length = ns.sum) :
    (hyphenate ns cs).length = cs.length + (ns.length - 1) := by
  induction ns, cs using hyphenate.induct with
  | case1 cs | case2 n cs => rfl
  | case3 n ns cs hns ih =>
    have hlength := List.length_pos_iff.mpr hns
    rw [List.sum_cons] at h
    rw [hyphenate.eq_3 _ _ _ hns, List.length_append, List.length_cons, ih (by simp; omega)]
    simp
    omega

theorem unhyphenate?_hyphenate (h : cs.length = ns.sum) :
    unhyphenate? ns (hyphenate ns cs) = some cs := by
  induction ns, cs using hyphenate.induct with
  | case1 cs | case2 n cs => simp_all [unhyphenate?, hyphenate]
  | case3 n ns cs hns ih =>
    rw [List.sum_cons] at h
    have hn : (cs.take n).length = n := by
      rw [List.length_take]
      omega
    rw [hyphenate.eq_3 _ _ _ hns, unhyphenate?.eq_3 _ _ _ hns, List.drop_left' hn,
      List.take_left' hn]
    simp [ih (by simp; omega)]

theorem ofHex?_digits (u : Uuid) : ofHex? (u.digits.map digitChar) = some u := by
  simp [ofHex?, Json.mapM_map_eq_some digitOf?_digitChar, u.length_digits]

theorem parse?_text (u : Uuid) : parse? u.text = some u := by
  have hsum : (u.digits.map digitChar).length = widths.sum := by
    rw [List.length_map, u.length_digits]
    rfl
  have hlength : u.chars.length = 36 := by
    rw [chars, length_hyphenate hsum, hsum]
    rfl
  have hread : ofHyphenated? u.chars = some u := by
    rw [ofHyphenated?, chars, unhyphenate?_hyphenate hsum]
    exact u.ofHex?_digits
  obtain ⟨d, cs, hcs⟩ : ∃ d cs, u.chars = digitChar d :: cs := by
    cases hdigits : u.digits with
    | nil => exact absurd (hdigits ▸ u.length_digits) (by decide)
    | cons d ds => exact ⟨d, _, by rw [chars, hdigits]; rfl⟩
  -- a digit opens neither a braced nor a `urn:uuid:` text
  have hopens : ∀ d, digitChar d ≠ '{' ∧ (digitChar d).toLower ≠ 'u' := by decide
  have hurn : isUrn u.chars = false := by simp [isUrn, hcs, urn, (hopens d).2]
  rw [parse?, text, String.toList_ofList, ofChars?, hurn]
  · simp [hlength, hread]
  · intro r hr
    rw [hcs] at hr
    exact (hopens d).1 (List.cons.inj hr).1

end Uuid

theorem Entity.reads_uuid : Json.Reads Entity.uuid? fun u => .str u.text := Uuid.parse?_text

/-! ## Fields -/

theorem FieldKind.reads : Json.Reads FieldKind.ofJson? FieldKind.toJson := by
  intro k
  cases k <;> rfl

theorem FieldDefinition.reads : Json.Reads FieldDefinition.ofJson? FieldDefinition.toJson := by
  intro d
  have htarget := Json.reads_string.optional (by simp) d.targetType
  have hlabel := Json.reads_string.optional (by simp) d.label
  rw [ofJson?, toJson, Json.slots_object (by simp)]
  simp [FieldKind.reads d.kind, htarget, hlabel]

theorem FieldItem.ofJson?_object {l : List (String × Json)} {kind : String}
    (h : (l.map Prod.fst).Nodup) (hkind : Json.lookup "kind" l = some (.str kind)) :
    ofJson? (.object l) = ofContent? kind (.object l) := by
  simp only [Json.object, ofJson?, Json.lookup_sortMembers h, hkind]
  rfl

theorem FieldItem.reads : Json.Reads FieldItem.ofJson? FieldItem.toJson := by
  intro i
  cases i with
  | reference k revision =>
    have hrevision := reads_int64.optional (by simp) revision
    rw [toJson, ofJson?_object (by simp) rfl, ofContent?, Json.slots_object (by simp)]
    simp [EntityId.reads k.id, hrevision]
  | text body summary format =>
    have hsummary := Json.reads_string.optional (by simp) summary
    have hformat := Json.reads_string.optional (by simp) format
    rw [toJson, ofJson?_object (by simp) rfl, ofContent?, Json.slots_object (by simp)]
    simp [hsummary, hformat]
  | plain v =>
    rw [toJson, ofJson?_object (by simp) rfl, ofContent?, Json.slots_object (by simp)]
    simp

theorem Field.reads : Json.Reads Field.ofJson? Field.toJson := by
  intro f
  have hitems := FieldItem.reads.list f.items
  rw [ofJson?, toJson, Json.slots_object (by simp)]
  simp [FieldDefinition.reads f.definition, hitems]

namespace Entity

/-- An entity is read back with the same fields, in the byte-wise order of their names. -/
theorem ofJson?_toJson (e : Entity) :
    ∃ fields, ofJson? e.toJson = some { e with fields } ∧ fields.entries.Perm e.fields.entries ∧
      (fields.keys.map Text.utf8).Pairwise (· < ·) := by
  obtain ⟨l, hl, hperm, hsorted⟩ := Field.reads.object e.fields.keys_nodup
  have hnodup : (l.map Prod.fst).Nodup := (hperm.map _).nodup_iff.mpr e.fields.keys_nodup
  have hid := EntityId.reads.optional (fun id => by cases id <;> simp [EntityId.toJson]) e.id
  have howner := FieldItem.reads_int64.optional (by simp) e.owner
  refine ⟨⟨l, hnodup⟩, ?_, hperm, ?_⟩
  · rw [ofJson?, toJson, Json.slots_object (by simp)]
    simpa [hid, howner, hl, reads_uuid e.uuid] using OrderedMap.ofList_of_nodup hnodup
  · rw [List.pairwise_map]
    exact hsorted.imp Text.utf8_lt_utf8_iff.mpr

end Entity

end Grouping
