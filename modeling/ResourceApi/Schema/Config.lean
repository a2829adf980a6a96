import ResourceApi.Schema.Reading

/-!
Settings of a compilation: the service's name, its package and where the file goes.
-/

namespace ResourceApi

structure Config where
  name : String
  package : String
  fileName : Option String

namespace Config

/-- A file name given and not empty wins. Otherwise the file is named after the service in small letters and lies in
the folders that the package's components name. -/
def targetFile (c : Config) : String :=
  match c.fileName.filter (· ≠ "") with
  | some given => given
  | none =>
    let base := Text.lower c.name ++ ".proto"
    if c.package = "" then base else c.package.map (fun c => if c = '.' then '/' else c) ++ "/" ++ base

def readOptionalText : Raw → Checked (Option String)
  | .null => .ok none
  | raw => some <$> Raw.readText raw

def ofRaw : Raw → Checked Config
  | .object ms => Config.mk <$> Raw.required "name" Raw.readText ms <*> Raw.required "package" Raw.readText ms
      <*> Raw.optional "file_name" readOptionalText none ms
  | _ => Checked.fault .notObject

end Config

end ResourceApi
