import RowSelection.KeySchema

set_option autoImplicit false

namespace RowSelection

structure Predicate.Options where
  strictTextRange : Bool
deriving DecidableEq

namespace Predicate.Options

def default : Options := ⟨false⟩

def withStrictTextRange (_ : Options) (strict : Bool) : Options := ⟨strict⟩

end Predicate.Options

-- Plain keys never change once made; temporal and composite ones can, so they are copied whenever
-- they are handed over.
inductive KeyVariant where
  | plain
  | temporal
  | composite
deriving DecidableEq

namespace KeyVariant

def ofKeyType : KeyType → KeyVariant
  | .timestamp => .temporal
  | .text | .integer | .long => .plain

def isImmutable (variant : KeyVariant) : Bool := variant == .plain

def handOver {κ : Type} (copy : κ → κ) : KeyVariant → κ → κ
  | .plain, key => key
  | .temporal, key | .composite, key => copy key

theorem hand_over_eq {κ : Type} {copy : κ → κ} (same : ∀ key, copy key = key) (variant : KeyVariant) :
    variant.handOver copy = id := by
  funext key
  cases variant with
  | plain => rfl
  | temporal => exact same key
  | composite => exact same key

def name : KeyVariant → String
  | .plain => "Plain"
  | .temporal => "Temporal"
  | .composite => "Composite"

end KeyVariant

inductive Binding where
  -- Keys of the type, and rows of one component of it, which are unwrapped.
  | tag (type : KeyType)
  -- Keys that the key type's host type carries, and no rows.
  | host (type : KeyType)
  -- Rows that fit the schema.
  | rows (schema : KeySchema)
deriving DecidableEq

namespace Binding

def keyType? : Binding → Option KeyType
  | .tag type | .host type => some type
  | .rows _ => none

def schema : Binding → KeySchema
  | .tag type | .host type => .ofKeyType type
  | .rows schema => schema

def variant : Binding → KeyVariant
  | .tag type | .host type => .ofKeyType type
  | .rows _ => .composite

-- Strict text ranges forbid bounds on text keys, and on rows with a text column.
def allowsRange (binding : Binding) (options : Predicate.Options) : Bool :=
  !options.strictTextRange ||
    match binding.keyType? with
    | some type => type != .text
    | none => !binding.schema.keyTypes.contains .text

def text : Binding → String
  | .tag type => "Dynamic(" ++ type.name ++ ")"
  | .host type =>
      "Native \x7b native: " ++ type.hostType.path ++ ", key_type: " ++ type.name ++ " \x7d"
  | .rows _ => "GenericKey"

end Binding
end RowSelection
