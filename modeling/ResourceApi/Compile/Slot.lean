import ResourceApi.Record.Message
import ResourceApi.Schema.Resource

/-!
The fields of request and response messages. Each has a name and number of its own in every generated API, so that
messages stay readable by clients of earlier files.
-/

namespace ResourceApi

structure Slot where
  name : String
  number : Int
  deriving DecidableEq, Repr

namespace Slot

def parent : Slot := ⟨"parent", 1⟩
def id : Slot := ⟨"id", 2⟩
def path : Slot := ⟨"path", 1⟩
def pageToken : Slot := ⟨"page_token", 10010⟩
def nextPageToken : Slot := ⟨"next_page_token", 10011⟩
def updateMask : Slot := ⟨"update_mask", 10012⟩
def results : Slot := ⟨"results", 10016⟩
def maxPageSize : Slot := ⟨"max_page_size", 10017⟩

def resourceNumber : Int := 10015

/-- The field for the resource is named after the kind. -/
def resource (r : Resource) : Slot := ⟨r.fieldName, resourceNumber⟩

end Slot

def fieldMaskType : String := "google.protobuf.FieldMask"
def emptyType : String := "google.protobuf.Empty"

namespace Field

def inSlot (slot : Slot) (type : FieldType) (comment : String) : Field :=
  { name := slot.name, number := slot.number, type, comment }

def parent (r : Resource) : Field :=
  { inSlot .parent (.scalar .string) ("A field for the parent of " ++ r.kind) with
    required := true, reference := some "" }

def id : Field :=
  inSlot .id (.scalar .string) "An id that uniquely identifies the resource within the collection"

def path (r : Resource) : Field :=
  { inSlot .path (.scalar .string) "The globally unique identifier for the resource" with
    required := true, reference := some r.type }

/-- The resource itself; `message` is the full name of its message. -/
def resource (r : Resource) (message : String) : Field :=
  { inSlot (.resource r) (.message message) "The resource to perform the operation on." with required := true }

def results (r : Resource) (message : String) : Field :=
  { inSlot .results (.message message) ("A list of " ++ r.plural) with repeated := true }

def pageToken : Field :=
  inSlot .pageToken (.scalar .string) "The page token indicating the starting point of the page"

def nextPageToken : Field :=
  inSlot .nextPageToken (.scalar .string) "The page token indicating the ending point of this response."

def maxPageSize : Field :=
  inSlot .maxPageSize (.scalar .int32) "The maximum number of resources to return in a single page."

def updateMask : Field := inSlot .updateMask (.message fieldMaskType) "The update mask for the resource"

end Field

end ResourceApi
