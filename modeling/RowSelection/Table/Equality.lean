import RowSelection.Table.Schema

set_option autoImplicit false

namespace RowSelection

mutual

def DataType.same : DataType → DataType → Bool
  | .null, .null => true
  | .boolean, .boolean => true
  | .int8, .int8 => true
  | .int16, .int16 => true
  | .int32, .int32 => true
  | .int64, .int64 => true
  | .uint8, .uint8 => true
  | .uint16, .uint16 => true
  | .uint32, .uint32 => true
  | .uint64, .uint64 => true
  | .float16, .float16 => true
  | .float32, .float32 => true
  | .float64, .float64 => true
  | .date32, .date32 => true
  | .date64, .date64 => true
  | .utf8, .utf8 => true
  | .largeUtf8, .largeUtf8 => true
  | .utf8View, .utf8View => true
  | .binary, .binary => true
  | .largeBinary, .largeBinary => true
  | .binaryView, .binaryView => true
  | .timestamp unit zone, .timestamp other otherZone => unit == other && zone == otherZone
  | .time32 unit, .time32 other => unit == other
  | .time64 unit, .time64 other => unit == other
  | .duration unit, .duration other => unit == other
  | .interval unit, .interval other => unit == other
  | .fixedSizeBinary width, .fixedSizeBinary other => width == other
  | .decimal128 precision scale, .decimal128 other otherScale => precision == other && scale == otherScale
  | .decimal256 precision scale, .decimal256 other otherScale => precision == other && scale == otherScale
  | .list item, .list other => item.same other
  | .listView item, .listView other => item.same other
  | .largeList item, .largeList other => item.same other
  | .largeListView item, .largeListView other => item.same other
  | .fixedSizeList item size, .fixedSizeList other otherSize => item.same other && size == otherSize
  | .struct members, .struct others => Field.sameAll members others
  | .dictionary index value, .dictionary other otherValue => index.same other && value.same otherValue
  | .map entries sorted, .map other otherSorted => entries.same other && sorted == otherSorted
  | .runEndEncoded ends values, .runEndEncoded other otherValues => ends.same other && values.same otherValues
  | .union members mode, .union others otherMode => UnionMember.sameAll members others && mode == otherMode
  | _, _ => false
termination_by structural x => x

-- Tags number the dictionaries of a transfer and are no part of a field's type.
def Field.same : Field → Field → Bool
  | .mk name dataType nullable metadata _, .mk other otherType otherNullable otherMetadata _ =>
      name == other && dataType.same otherType && nullable == otherNullable && metadata.same otherMetadata
termination_by structural x => x

def Field.sameAll : List Field → List Field → Bool
  | [], [] => true
  | field :: rest, other :: others => field.same other && Field.sameAll rest others
  | _, _ => false
termination_by structural x => x

def UnionMember.same : UnionMember → UnionMember → Bool
  | .mk id field, .mk otherId other => id == otherId && field.same other
termination_by structural x => x

def UnionMember.sameAll : List UnionMember → List UnionMember → Bool
  | [], [] => true
  | member :: rest, other :: others => member.same other && UnionMember.sameAll rest others
  | _, _ => false
termination_by structural x => x

end

instance : BEq DataType := ⟨DataType.same⟩

mutual

theorem DataType.same_self (type : DataType) : type.same type = true := by
  cases type with
  | list item => exact item.same_self
  | listView item => exact item.same_self
  | largeList item => exact item.same_self
  | largeListView item => exact item.same_self
  | fixedSizeList item size => simp [DataType.same, item.same_self]
  | struct members => exact Field.same_all_self members
  | dictionary index value => simp [DataType.same, index.same_self, value.same_self]
  | map entries sorted => simp [DataType.same, entries.same_self]
  | runEndEncoded ends values => simp [DataType.same, ends.same_self, values.same_self]
  | union members mode => simp [DataType.same, UnionMember.same_all_self members]
  | _ => simp [DataType.same]

theorem Field.same_self (field : Field) : field.same field = true := by
  obtain ⟨name, dataType, nullable, metadata, tag⟩ := field
  have entries : metadata.same metadata = true := (Metadata.same_iff _ _).mpr fun _ => rfl
  simp [Field.same, dataType.same_self, entries]

theorem Field.same_all_self (fields : List Field) : Field.sameAll fields fields = true := by
  cases fields with
  | nil => rfl
  | cons field rest => simp [Field.sameAll, field.same_self, Field.same_all_self rest]

theorem UnionMember.same_self (member : UnionMember) : member.same member = true := by
  obtain ⟨id, field⟩ := member
  simp [UnionMember.same, field.same_self]

theorem UnionMember.same_all_self (members : List UnionMember) : UnionMember.sameAll members members = true := by
  cases members with
  | nil => rfl
  | cons member rest => simp [UnionMember.sameAll, member.same_self, UnionMember.same_all_self rest]

end

def Congruent {α : Type} (same : α → α → Bool) (a b : α) : Prop :=
  same a b = true → ∀ c, same a c = same b c

theorem same_congr :
    (∀ type other, Congruent DataType.same type other) ∧
    (∀ members others, Congruent UnionMember.sameAll members others) ∧
    (∀ member other, Congruent UnionMember.same member other) ∧
    (∀ field other, Congruent Field.same field other) ∧
    ∀ fields others, Congruent Field.sameAll fields others := by
  apply DataType.same.mutual_induct (Congruent DataType.same) (Congruent UnionMember.sameAll)
    (Congruent UnionMember.same) (Congruent Field.same) (Congruent Field.sameAll)
  all_goals intros
  all_goals try (intro _ _; rfl)
  all_goals intro agree third
  -- Nested types ask the same of the third as of one another, all others are equal or have no match.
  case case30 | case31 | case32 | case33 | case34 | case35 | case36 | case37 | case38 | case39 =>
    cases third <;> first | rfl | simp_all [Congruent, DataType.same]
  case case41 =>
    obtain ⟨_, _, _, _, _⟩ := third
    simp only [Field.same, Bool.and_eq_true] at agree
    simp_all [Congruent, Field.same, Metadata.same_congr agree.2]
  case case42 =>
    obtain ⟨_, _⟩ := third
    simp_all [Congruent, UnionMember.same]
  case case44 | case47 => cases third <;> simp_all [Congruent, Field.sameAll, UnionMember.sameAll]
  all_goals simp_all [DataType.same, Field.sameAll, UnionMember.sameAll]

theorem equivalence_of_congruent {α : Type} {same : α → α → Bool} (self : ∀ a, same a a = true)
    (congruent : ∀ a b, Congruent same a b) : Equivalence fun a b => same a b = true where
  refl := self
  symm {a b} agree := (congruent a b agree a).symm.trans (self a)
  trans {a b c} first second := (congruent a b first c).trans second

theorem DataType.equivalence : Equivalence fun type other : DataType => type.same other = true :=
  equivalence_of_congruent DataType.same_self same_congr.1

instance : EquivBEq DataType where
  rfl := DataType.equivalence.refl _
  symm := DataType.equivalence.symm
  trans := DataType.equivalence.trans

theorem DataType.lists_congruent (types others : List DataType) : Congruent List.beq types others := by
  induction types generalizing others with
  | nil =>
      cases others with
      | nil => exact fun _ _ => rfl
      | cons other others => intro agree; cases agree
  | cons type rest ih =>
      cases others with
      | nil => intro agree; cases agree
      | cons other others =>
          intro agree thirds
          obtain ⟨head, tail⟩ := Bool.and_eq_true_iff.mp agree
          cases thirds with
          | nil => rfl
          | cons third thirds => rw [List.beq, List.beq, BEq.congr_left head, ih others tail]

theorem DataType.list_equivalence : Equivalence fun types others : List DataType => (types == others) = true :=
  equivalence_of_congruent (fun _ => BEq.rfl) DataType.lists_congruent

end RowSelection
