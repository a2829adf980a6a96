import ResourceApi.Schema.Raw
import ResourceApi.Schema.Resource
import ResourceApi.Text.Numeral

/-!
Reading resources from raw data. All faults are reported, field after field in the order kind, plural, type, fields,
parents, methods. `Declaration.toRaw` writes what `Declaration.ofRaw` reads back.
-/

namespace ResourceApi

namespace Raw

def member? (name : String) (members : List (String × Raw)) : Option Raw :=
  (members.find? fun m => m.1 == name).map Prod.snd

/-- A required member. -/
def required {α : Type} (name : String) (read : Raw → Checked α) (members : List (String × Raw)) : Checked α :=
  (match member? name members with
  | some value => read value
  | none => Checked.fault .missing).under (.key name)

/-- A member that may be left out. -/
def optional {α : Type} (name : String) (read : Raw → Checked α) (default : α) (members : List (String × Raw)) :
    Checked α :=
  (match member? name members with
  | some value => read value
  | none => .ok default).under (.key name)

def readText : Raw → Checked String
  | .text s => .ok s
  | _ => Checked.fault .notText

/-- The value of `m * 2 ^ e` if it is whole. -/
def wholeValue? (m e : Int) : Option Int :=
  if 0 ≤ e then some (m * Int.pow 2 e.toNat)
  else if m % Int.pow 2 (-e).toNat = 0 then some (m / Int.pow 2 (-e).toNat)
  else none

/-- Floating-point numbers count up to this magnitude, exclusively. -/
def floatBound : Int := 9223372036854775808

def readFloat (m e : Int) : Checked Int :=
  match wholeValue? m e with
  | none => Checked.fault .fractional
  | some n => if -floatBound < n && n < floatBound then .ok n else Checked.fault .tooLarge

def readNumeral (s : String) : Checked Int :=
  match Text.integer s with
  | .ok n => .ok n
  | .error .malformed => Checked.fault .badNumeral
  | .error .tooLong => Checked.fault .tooLarge

/-- Truth values count as one and zero, and numbers may come from a floating-point format or as a numeral. -/
def readInteger : Raw → Checked Int
  | .int n => .ok n
  | .bool b => .ok (if b then 1 else 0)
  | .binary m e => readFloat m e
  | .notFinite => Checked.fault .notFinite
  | .text s => readNumeral s
  | _ => Checked.fault .notInteger

def readPositive (raw : Raw) : Checked Int :=
  match raw.readInteger with
  | .ok n => if 0 < n then .ok n else Checked.fault .notPositive
  | .faulty fs => .faulty fs

def readSequence {α : Type} (read : Raw → Checked α) : Raw → Checked (List α)
  | .list items => Checked.elements 0 (items.map read)
  | _ => Checked.fault .notSequence

end Raw

open Raw

/-- Members other than the three of a property are ignored. -/
def Property.ofRaw : Raw → Checked Property
  | .object ms =>
    Property.mk <$> required "name" readText ms <*> required "type" readText ms <*> required "number" readPositive ms
  | _ => Checked.fault .notObject

def Property.toRaw (p : Property) : Raw :=
  .object [("name", .text p.name), ("type", .text p.type), ("number", .int p.number)]

def Method.ofRaw : Raw → Checked Method
  | .text s => match Method.ofName? s with
    | some m => .ok m
    | none => Checked.fault .unknownMethod
  | _ => Checked.fault .unknownMethod

/-- A method named twice counts once. -/
def MethodSet.ofRaw : Raw → Checked MethodSet
  | .list items => MethodSet.ofList <$> Checked.elements 0 (items.map Method.ofRaw)
  | _ => Checked.fault .notSet

def MethodSet.toRaw (ms : MethodSet) : Raw := .list (ms.toList.map fun m => .text m.name)

def Declaration.assemble (kind plural type : String) (fields : List Property) (parents : List Declaration)
    (methods : MethodSet) : Declaration :=
  .inline { kind, plural, type, fields, methods } parents

/-- Parents may be written in place down to this many resources, the lowest one included. -/
def Declaration.maxDepth : Nat := 255

/-- Reads a resource with at most the given number of resources on every chain of parents. -/
def Declaration.ofRawWithin : Nat → Raw → Checked Declaration
  | 0, _ => Checked.fault .tooDeep
  | _ + 1, .known i => .ok (.known i)
  | depth + 1, .object ms =>
    Declaration.assemble <$> required "kind" readText ms <*> required "plural" readText ms
      <*> required "type" readText ms <*> optional "fields" (readSequence Property.ofRaw) [] ms
      <*> optional "parents" (readSequence (Declaration.ofRawWithin depth)) [] ms
      <*> optional "methods" MethodSet.ofRaw MethodSet.empty ms
  | _ + 1, _ => Checked.fault .notObject

def Declaration.ofRaw (raw : Raw) : Checked Declaration := Declaration.ofRawWithin Declaration.maxDepth raw

mutual

def Declaration.toRaw : Declaration → Raw
  | .known i => .known i
  | .inline r parents => .object [("kind", .text r.kind), ("plural", .text r.plural), ("type", .text r.type),
      ("fields", .list (r.fields.map Property.toRaw)), ("parents", .list (Declaration.toRaws parents)),
      ("methods", r.methods.toRaw)]

def Declaration.toRaws : List Declaration → List Raw
  | [] => []
  | d :: ds => d.toRaw :: Declaration.toRaws ds

end

end ResourceApi
