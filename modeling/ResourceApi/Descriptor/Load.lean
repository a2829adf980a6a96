import ResourceApi.Descriptor.Basic
import ResourceApi.Descriptor.Pool
import ResourceApi.Record.Registry
import ResourceApi.Text.Identifier

/-!
Loading of a file. It is added to a fresh pool behind its imports and then looked up there. A file is refused if its
names or numbers are not legal, clash with each other or with what is loaded, or if a type that it uses is not there.
-/

namespace ResourceApi

/-- The name in JSON data: underscores are left out, and a small ASCII letter after one becomes a capital. -/
def jsonNameFrom (afterUnderscore : Bool) : List Char → List Char
  | [] => []
  | c :: cs =>
    if c = '_' then jsonNameFrom true cs
    else (if afterUnderscore then c.toUpper else c) :: jsonNameFrom false cs

def jsonName (name : String) : String := String.ofList (jsonNameFrom false name.toList)

/-- Identifiers with dots between them; one more dot may stand at the end. -/
def isPackageName (package : String) : Bool :=
  let components := package.splitOn "."
  (if components.getLast? = some "" then components.dropLast else components).all Text.isIdentifier

/-- What the dot at the start of a type name is followed by. -/
def absoluteName (typeName : String) : String := String.ofList (typeName.toList.drop 1)

/-- The reason, unless the condition holds. -/
def demand (holds : Bool) (reason : Refusal) : List Refusal := if holds then [] else [reason]

/-- What the types of fields and methods are looked up in. -/
structure TypeScope where
  messages : List String
  enums : List PoolEnum

namespace TypeScope

def isMessage (scope : TypeScope) (type : String) : Bool := scope.messages.contains type

def isEnum (scope : TypeScope) (type : String) : Bool := scope.enums.any fun e => e.fullName == type

/-- Fields hold messages or values of an enum. A single value has to have zero for its default. -/
def isFieldType (scope : TypeScope) (repeated : Bool) (type : String) : Bool :=
  scope.isMessage type || scope.enums.any fun e => e.fullName == type && (repeated || e.startsAtZero)

end TypeScope

namespace FieldDescriptor

def messageType (f : FieldDescriptor) : Option String := f.typeName.map absoluteName

/-- Reserved numbers are let through. -/
def refusals (scope : TypeScope) (f : FieldDescriptor) : List Refusal :=
  demand (Text.isIdentifier f.name) (.notIdentifier f.name) ++
    demand (1 ≤ f.number.toInt && f.number.toInt ≤ maxFieldNumber) (.fieldNumber f.name f.number.toInt) ++
    f.messageType.toList.flatMap fun type => demand (scope.isFieldType f.repeated type) (.unknownType type)

end FieldDescriptor

def MessageDescriptor.refusals (scope : TypeScope) (m : MessageDescriptor) : List Refusal :=
  demand (Text.isIdentifier m.name) (.notIdentifier m.name) ++ m.fields.flatMap (·.refusals scope) ++
    demand (decide (m.fields.map FieldDescriptor.number).Nodup) (.repeatedNumber m.name) ++
    demand (decide (m.fields.map FieldDescriptor.name).Nodup) (.repeatedName m.name) ++
    demand (decide (m.fields.map fun f => jsonName f.name).Nodup) (.repeatedJsonName m.name)

def MethodDescriptor.refusals (scope : TypeScope) (m : MethodDescriptor) : List Refusal :=
  demand (Text.isIdentifier m.name) (.notIdentifier m.name) ++
    [absoluteName m.inputType, absoluteName m.outputType].flatMap fun type =>
      demand (scope.isMessage type) (.unknownType type)

namespace FileDescriptor

def messageNames (f : FileDescriptor) : List String := f.messages.map fun m => fullName f.package m.name

/-- Full names that the file declares. -/
def symbols (f : FileDescriptor) : List String := f.messageNames ++ [fullName f.package f.service.name]

/-- The types of the file itself and of those that are loaded. -/
def scope (f : FileDescriptor) (loaded : List PoolFile) : TypeScope where
  messages := f.messageNames ++ loaded.flatMap PoolFile.messages
  enums := loaded.flatMap PoolFile.enums

/-- What speaks against a file behind those that are loaded. -/
def refusals (f : FileDescriptor) (loaded : List PoolFile) : List Refusal :=
  let scope := f.scope loaded
  let taken := loaded.flatMap PoolFile.symbols
  demand (!(loaded.map PoolFile.name).contains f.name) (.fileTaken f.name) ++
    demand (!f.name.toList.contains (Char.ofNat 0)) (.fileName f.name) ++
    demand (f.package = "" || isPackageName f.package) (.packageName f.package) ++
    demand (Text.isIdentifier f.service.name) (.notIdentifier f.service.name) ++
    (f.symbols.filter taken.contains).map .symbolTaken ++ demand (decide f.symbols.Nodup) .repeatedSymbol ++
    f.messages.flatMap (·.refusals scope) ++ f.service.methods.flatMap (·.refusals scope)

end FileDescriptor

/-- A loaded field. The type is that of a message, not of an enum. -/
structure LoadedField where
  name : String
  number : Int
  jsonName : String
  messageType : Option String

structure LoadedMessage where
  fullName : String
  fields : List LoadedField

/-- A loaded file as its users see it, with the messages by name. -/
structure LoadedFile where
  name : String
  package : String
  imports : List String
  messages : List LoadedMessage
  service : String
  methods : List (String × String × String)

namespace FileDescriptor

def view (f : FileDescriptor) (loaded : List PoolFile) : LoadedFile where
  name := f.name
  package := f.package
  imports := f.imports
  messages := (f.messages.mergeSort fun a b => decide (a.name ≤ b.name)).map fun m => {
    fullName := ResourceApi.fullName f.package m.name
    fields := m.fields.map fun x => {
      name := x.name, number := x.number.toInt, jsonName := jsonName x.name
      messageType := x.messageType.filter fun type => !(f.scope loaded).isEnum type } }
  service := ResourceApi.fullName f.package f.service.name
  methods := f.service.methods.map fun m => (m.name, absoluteName m.inputType, absoluteName m.outputType)

/-- What others see of the file in a pool. -/
def poolFile (f : FileDescriptor) : PoolFile where
  name := f.name
  imports := f.imports
  messages := f.messageNames
  others := [ResourceApi.fullName f.package f.service.name]

/-- Adds the file to a pool, unless something speaks against it. -/
def addTo (fresh : Pool) (f : FileDescriptor) : Except LoadError Pool :=
  match f.refusals fresh.files with
  | [] => .ok (fresh.add f.poolFile)
  | reasons => .error (.refused reasons)

/-- Files are found by names of ASCII characters only. -/
def isFound (f : FileDescriptor) : Bool := f.name.toList.all fun c => c.toNat < 128

/-- Adds the file to a pool and looks it up there by its name. -/
def loadInto (fresh : Pool) (f : FileDescriptor) : Except LoadError LoadedFile := do
  let pool ← f.addTo fresh
  if f.isFound then return f.view pool.files else throw (.unknown (.file f.name))

/-- Loads the file behind its imports, all of which have to be in the pool. -/
def load (p : Pool) (f : FileDescriptor) : Except LoadError LoadedFile := do
  let fresh ← (p.stock f.imports).mapError .unknown
  f.loadInto fresh

end FileDescriptor

end ResourceApi
