import ShaderBuild.Uniform.Block

/-! # The std140 layout of a uniform block

Every field type has a size and an alignment in bytes.  `layout` places the fields one after the
other, each at the least aligned offset past the field before it, and rounds the total up to a
multiple of sixteen.  Offsets and sizes are 32-bit words. -/

namespace ShaderBuild

/-- The types a uniform may have. -/
inductive UniformType where
  | bool
  | int
  | uint
  | float
  | vec2
  | vec3
  | vec4
  | mat3
  | mat4
deriving DecidableEq, Repr

/-- A field with its place in the buffer, and the size and the alignment of its type. -/
structure PlacedField where
  type : UniformType
  name : String
  offset : UInt32
  size : UInt32
  alignment : UInt32
deriving DecidableEq, Repr

/-- The placed fields of a block and the size of its buffer. -/
structure UniformLayout where
  fields : List PlacedField
  size : UInt32
deriving DecidableEq, Repr

namespace UniformType

/-! ### Types -/

/-- The type a word names. -/
def ofString? : String → Option UniformType
  | "bool" => some .bool
  | "int" => some .int
  | "uint" => some .uint
  | "float" => some .float
  | "vec2" => some .vec2
  | "vec3" => some .vec3
  | "vec4" => some .vec4
  | "mat3" => some .mat3
  | "mat4" => some .mat4
  | _ => none

/-- The number of bytes a value takes; the columns of a matrix are padded to sixteen. -/
def size : UniformType → UInt32
  | .bool | .int | .uint | .float => 4
  | .vec2 => 8
  | .vec3 => 12
  | .vec4 => 16
  | .mat3 => 48
  | .mat4 => 64

/-- What the offset of a value is a multiple of. -/
def alignment : UniformType → UInt32
  | .bool | .int | .uint | .float => 4
  | .vec2 => 8
  | .vec3 | .vec4 | .mat3 | .mat4 => 16

end UniformType

/-! ### Placement -/

/-- The number of whole `alignment`s that cover `value`. -/
def ceilDiv (value alignment : UInt32) : UInt32 :=
  if value % alignment > 0 then value / alignment + 1 else value / alignment

/-- The least multiple of `alignment` that is not below `value`. -/
def alignUp (value alignment : UInt32) : UInt32 :=
  ceilDiv value alignment * alignment

/-- What the size of a buffer is a multiple of. -/
def blockAlignment : UInt32 := 16

/-- Place the fields from offset `next` on; also gives the end of the last field. -/
def placeFields : UInt32 → List UniformField → Except SourceFault (List PlacedField × UInt32)
  | next, [] => .ok ([], next)
  | next, f :: fs =>
    match UniformType.ofString? f.type with
    | none => .error (.unknownType f.type f.name)
    | some type =>
      let offset := alignUp next type.alignment
      (placeFields (offset + type.size) fs).map fun x =>
        (⟨type, f.name, offset, type.size, type.alignment⟩ :: x.1, x.2)

/-- The std140 layout of a list of fields. -/
def layout (fs : List UniformField) : Except SourceFault UniformLayout :=
  (placeFields 0 fs).map fun x => ⟨x.1, alignUp x.2 blockAlignment⟩

end ShaderBuild
