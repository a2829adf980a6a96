import ResourceApi.Descriptor.StandardPool

/-!
Pools as generated files see them: whether a pool declares a type, and in which of its files.
-/

namespace ResourceApi.Pool

variable {pool : Pool} {type : String}

def Declares (pool : Pool) (type : String) : Prop := (pool.declaring? type).isSome

instance : Decidable (pool.Declares type) := inferInstanceAs (Decidable ((pool.declaring? type).isSome = true))

/-- The name of the file that declares a type. It does not matter what it is if there is none. -/
def home (pool : Pool) (type : String) : String := ((pool.declaring? type).map PoolFile.name).getD ""

theorem home_eq_of_declaring? {f : PoolFile} (h : pool.declaring? type = some f) : pool.home type = f.name := by
  rw [home, h]
  rfl

/-- What can be taken for granted of the pool that a program comes with: the two types that generated files refer to
without declaring them are in the files that are there for them. -/
structure HasWellKnown (pool : Pool) : Prop where
  fieldMask : (pool.declaring? "google.protobuf.FieldMask").map PoolFile.name = some "google/protobuf/field_mask.proto"
  empty : (pool.declaring? "google.protobuf.Empty").map PoolFile.name = some "google/protobuf/empty.proto"

theorem standard_hasWellKnown : standard.HasWellKnown := ⟨rfl, rfl⟩

namespace HasWellKnown

variable (h : pool.HasWellKnown)

include h

theorem home_fieldMask : pool.home "google.protobuf.FieldMask" = "google/protobuf/field_mask.proto" := by
  rw [home, h.fieldMask, Option.getD_some]

theorem home_empty : pool.home "google.protobuf.Empty" = "google/protobuf/empty.proto" := by
  rw [home, h.empty, Option.getD_some]

theorem declares_fieldMask : pool.Declares "google.protobuf.FieldMask" := by
  rw [Declares, ← Option.isSome_map, h.fieldMask, Option.isSome_some]

theorem declares_empty : pool.Declares "google.protobuf.Empty" := by
  rw [Declares, ← Option.isSome_map, h.empty, Option.isSome_some]

end HasWellKnown

end ResourceApi.Pool
