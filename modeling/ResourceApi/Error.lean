import ResourceApi.Text.Quoted

/-!
Causes of failure and their wording.
-/

namespace ResourceApi

/-- The greatest field number there is. -/
def maxFieldNumber : Int := 536870911

/-- Why a record cannot be built, registered or rendered. -/
inductive Rejection where
  | typeCount (field : String)
  | notScalar (name : String)
  | unknownVerb (name : String)
  | fieldName (message field : String)
  | numberRange (message : String) (number : Int)
  | numberReserved (message : String) (number : Int)
  | numberTaken (message : String) (number : Int) (earlier later : String)
  | fieldTaken (message field : String)
  | messageTaken (message file : String)
  | rpcTaken (rpc service : String)
  | notInt32 (number : Int)
  deriving DecidableEq, Repr

def Rejection.message : Rejection → String
  | .typeCount field =>
    "field " ++ Text.quoted field ++ " must have exactly one of a scalar type or a message type"
  | .notScalar name => Text.quoted name ++ " is not a valid ScalarType"
  | .unknownVerb name =>
    "Unsupported HTTP verb '" ++ name ++ "'. Supported: ['get', 'put', 'post', 'delete', 'patch']"
  | .fieldName message field =>
    "field name " ++ Text.quoted field ++ " of " ++ message ++ " is not a valid identifier"
  | .numberRange message number =>
    "field number " ++ toString number ++ " of " ++ message ++ " is outside 1.." ++ toString maxFieldNumber
  | .numberReserved message number =>
    "field number " ++ toString number ++ " of " ++ message ++ " is in the reserved range 19000-19999"
  | .numberTaken message number earlier later =>
    "field number " ++ toString number ++ " of " ++ message ++ " used by both " ++ earlier ++ " and " ++ later
  | .fieldTaken message field => "field name " ++ Text.quoted field ++ " of " ++ message ++ " used twice"
  | .messageTaken message file => "message " ++ message ++ " already registered in " ++ file
  | .rpcTaken rpc service => "method " ++ rpc ++ " already registered in service " ++ service
  | .notInt32 number => "Value out of range: " ++ toString number

/-- Why a resource cannot be compiled. -/
inductive Cause where
  | unsupportedType (field type : String)
  | unknownType (type : String)
  | parentCycle (walk : List String)
  | rejected (why : Rejection)
  deriving DecidableEq, Repr

def Cause.reason : Cause → String
  | .unsupportedType field type =>
    "proto mapping for type " ++ type ++ " not found (field " ++ Text.quoted field ++ ")"
  | .unknownType type => "unable to load well-known type " ++ type
  | .parentCycle walk => "parent chain forms a cycle: " ++ " -> ".intercalate walk
  | .rejected why => why.message

/-- A failure on account of the resource of the given kind. -/
structure ResourceError where
  kind : String
  cause : Cause
  deriving DecidableEq, Repr

def ResourceError.message (e : ResourceError) : String :=
  "unable to generate resource " ++ e.kind ++ ": " ++ e.cause.reason

/-- Something that a pool of files does not hold. -/
inductive Unknown where
  | file (name : String)
  | type (fullName : String)
  deriving DecidableEq, Repr

def Unknown.message : Unknown → String
  | .file name => "Couldn't find file " ++ name
  | .type fullName => "Couldn't find message " ++ fullName

/-- What is wrong with a file that is to be loaded. -/
inductive Refusal where
  | fileTaken (file : String)
  | fileName (file : String)
  | packageName (package : String)
  | notIdentifier (name : String)
  | symbolTaken (fullName : String)
  | repeatedSymbol
  | fieldNumber (field : String) (number : Int)
  | repeatedNumber (message : String)
  | repeatedName (message : String)
  | repeatedJsonName (message : String)
  | unknownType (fullName : String)
  deriving DecidableEq, Repr

/-- Why a file cannot be loaded together with its imports. An import may be unknown, and so may the file itself, if it
cannot be found under its name. -/
inductive LoadError where
  | unknown (what : Unknown)
  | refused (reasons : List Refusal)
  deriving DecidableEq, Repr

/-- Everything that a request to the library can end in besides an answer. -/
inductive Failure where
  | resource (error : ResourceError)
  | rejected (why : Rejection)
  | unknownName (name : String)
  | load (file : String) (error : LoadError)
  deriving DecidableEq, Repr

end ResourceApi
