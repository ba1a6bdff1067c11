import WireSchema.DataType.Basic

/-!
# DataType/Equality — when two types are the same

Primitives are the same if they are written the same, arrays if all their parts are, and composites
if they are one and the same object, whatever they look like: each definition makes a type of its
own.
-/

namespace WireSchema

/-- **Whether two types are the same.** -/
def DataType.same : DataType → DataType → Bool
  | .boolean, .boolean => true
  | .unsigned t, .unsigned u => t = u
  | .signed t, .signed u => t = u
  | .float t, .float u => t = u
  | .void t, .void u => t = u
  | .fixedArray e n s, .fixedArray e' n' s' => e.same e' && n == n' && s = s'
  | .variableArray e n f s, .variableArray e' n' f' s' => e.same e' && n == n' && f = f' && s = s'
  | .composite c, .composite d => c.identity = d.identity
  | _, _ => false

/-- **Whether two attributes are the same**: in sort, name, type and value. -/
def Attribute.same : Attribute → Attribute → Bool
  | .field n t, .field n' t' => n == n' && t.same t'
  | .padding v, .padding v' => v = v'
  | .constant n t v, .constant n' t' v' => n == n' && t.same t' && v = v'
  | _, _ => false

end WireSchema
