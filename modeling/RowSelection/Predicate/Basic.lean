import RowSelection.Key.Set
import RowSelection.KeySchema
import RowSelection.Predicate.Binding

set_option autoImplicit false

namespace RowSelection

inductive PredicateError where
  | unsupportedDataType (dataType : DataType)
  | unsupportedHostType (host : HostType)
  | noKey
  | keysAlreadyAdded
  | boundAlreadySet
  | textRange
  -- The absent value has no host type.
  | typeMismatch (expected : HostType) (actual : Option HostType)
  | rowMismatch (source : SchemaError)
  | missingValue
  | compositeKey
  | untypedKey
  | unresolved (source : SchemaError)

def PredicateError.message : PredicateError → String
  | .unsupportedDataType dataType => "unsupported key type: " ++ dataType.text
  | .unsupportedHostType host => "unsupported key type: " ++ host.path
  | .noKey => "row key does not exist on schema for key predicate"
  | .keysAlreadyAdded => "condition conflict: distinct keys have already been specified"
  | .boundAlreadySet => "condition conflict: start or finish key has already been specified"
  | .textRange => "unsupported operation: range condition is not supported for text keys"
  | .typeMismatch expected actual =>
      "row key type unmatched: expected " ++ expected.path ++ ", got " ++
        actual.elim "null" HostType.path
  | .rowMismatch source => "row key schema unmatched: " ++ source.message
  | .missingValue => "missing value for distinct key"
  | .compositeKey => "illegal state: key type is undefined for a composite row key"
  | .untypedKey => "illegal state: key schema has no supported key column"
  | .unresolved source => "schema error: " ++ source.message

inductive Selection where
  | range (start finish : Value)
  | distinct (keys : KeySet)

structure Predicate where
  binding : Binding
  rangeEligible : Bool
  selection : Selection

inductive Origin where
  | keyType (type : KeyType)
  | dataType (dataType : DataType)
  | hostType (host : HostType)
  | table (table : TableSchema)
  | keySchema (schema : KeySchema)

namespace Predicate

def schema (p : Predicate) : KeySchema := p.binding.schema

def variant (p : Predicate) : KeyVariant := p.binding.variant

def ofBinding (binding : Binding) (options : Options) : Except PredicateError Predicate :=
  if binding.schema.hasKey then
    .ok ⟨binding, binding.allowsRange options, .range none none⟩
  else .error .noKey

def ofKeyType (type : KeyType) (options : Options) : Except PredicateError Predicate :=
  ofBinding (.tag type) options

def ofDataType (dataType : DataType) (options : Options) : Except PredicateError Predicate :=
  match KeyType.ofDataType? dataType with
  | some type => ofKeyType type options
  | none => .error (.unsupportedDataType dataType)

def ofHostType (host : HostType) (options : Options) : Except PredicateError Predicate :=
  match host.keyType? with
  | some type => ofBinding (.host type) options
  | none => .error (.unsupportedHostType host)

def ofKeySchema (schema : KeySchema) (options : Options) : Except PredicateError Predicate :=
  ofBinding (.rows schema) options

def ofTable (table : TableSchema) (options : Options) : Except PredicateError Predicate :=
  match KeySchema.resolve table with
  | .ok schema => ofKeySchema schema options
  | .error source => .error (.unresolved source)

def make (origin : Origin) (options : Options) : Except PredicateError Predicate :=
  match origin with
  | .keyType type => ofKeyType type options
  | .dataType dataType => ofDataType dataType options
  | .hostType host => ofHostType host options
  | .table table => ofTable table options
  | .keySchema schema => ofKeySchema schema options

def returned (p : Predicate) : Key → Key := p.variant.handOver Key.copy

def start (p : Predicate) : Value :=
  match p.selection with
  | .range start _ => start.map p.returned
  | .distinct _ => none

def finish (p : Predicate) : Value :=
  match p.selection with
  | .range _ finish => finish.map p.returned
  | .distinct _ => none

def keys? (p : Predicate) : Option KeySet :=
  match p.selection with
  | .range _ _ => none
  | .distinct keys => some keys

def keyType (p : Predicate) : Except PredicateError KeyType :=
  if p.schema.category ≠ .single then .error .compositeKey
  else
    match p.binding.keyType?.or p.schema.keyTypes.head? with
    | some type => .ok type
    | none => .error .untypedKey

@[simp] theorem returned_eq (p : Predicate) : p.returned = id :=
  p.variant.hand_over_eq Key.copy_eq

@[simp] theorem start_range (binding : Binding) (eligible : Bool) (start finish : Value) :
    Predicate.start ⟨binding, eligible, .range start finish⟩ = start := by
  simp [Predicate.start]

@[simp] theorem finish_range (binding : Binding) (eligible : Bool) (start finish : Value) :
    Predicate.finish ⟨binding, eligible, .range start finish⟩ = finish := by
  simp [Predicate.finish]

end Predicate
end RowSelection
