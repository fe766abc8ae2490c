import FluentSql.Config.Basic
import FluentSql.Json.Shape

/-! Configurations and options as JSON. They are written as objects with every field, and read from
objects in which only the backend has to be named, or from arrays of the first fields in order. -/

namespace FluentSql

namespace Config

def toJson (c : Config) : Json :=
  .object [("type", .string c.backend.name), ("host", .string c.host),
    ("port", .integer c.port.toNat), ("username", .string c.username),
    ("password", .string c.password), ("database", .string c.database)]

/-- The names of the fields, in order. -/
def fieldNames : List String :=
  ["type", "host", "port", "username", "password", "database"]

/-- What has been read of a configuration: its backend, and all else under whatever backend. -/
structure Draft where
  backend : Option Backend := none
  rest : Config := { backend := .sqlite }

def Draft.read (d : Draft) (field : String) (x : Json) : Json.Shaped Draft :=
  match field with
  | "type" => do
    let name ← x.asText
    let backend ← (Backend.ofText name).mapError .refused
    return { d with backend := some backend }
  | "host" => do return { d with rest := { d.rest with host := ← x.asText } }
  | "port" => do return { d with rest := { d.rest with port := ← x.asUInt16 } }
  | "username" => do return { d with rest := { d.rest with username := ← x.asText } }
  | "password" => do return { d with rest := { d.rest with password := ← x.asText } }
  | "database" => do return { d with rest := { d.rest with database := ← x.asText } }
  | _ => .ok d

def Draft.finish (d : Draft) : Json.Shaped Config :=
  match d.backend with
  | some backend => .ok { d.rest with backend }
  | none => .error (.missingField "type")

def ofJson (x : Json) : Json.Shaped Config := do
  if x matches .array [] then throw (.tooFew 0 "struct DatabaseConfig with 6 elements")
  let draft ← x.readFields "struct DatabaseConfig" fieldNames Draft.read {}
  draft.finish

end Config

namespace Options

def toJson (o : Options) : Json :=
  .object [("logging", .bool o.logging)]

def readField (o : Options) (field : String) (x : Json) : Json.Shaped Options :=
  match field with
  | "logging" => do return { o with logging := ← x.asBool }
  | _ => .ok o

def ofJson : Json → Json.Shaped Options :=
  Json.readFields "struct ForgeOptions" ["logging"] readField {}

end Options

end FluentSql
