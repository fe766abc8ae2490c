import FluentSql.Error
import FluentSql.Text.Quoted
import FluentSql.Url.Basic

/-! Where a database is and who asks for it. A configuration names one of three backends, each known
by several names, and the place of the database on a host or in a file. It can be read from a URL:
an embedded database is `sqlite:` and a path, a server is a URL of its scheme, with user, password
and the database's name percent-encoded. -/

namespace FluentSql

inductive Backend where
  | mysql
  | postgres
  | sqlite
  deriving DecidableEq, Repr

namespace Backend

def name : Backend → String
  | .mysql => "mysql"
  | .postgres => "postgres"
  | .sqlite => "sqlite"

/-- The name in an overview. -/
def title : Backend → String
  | .mysql => "MySql"
  | .postgres => "Postgres"
  | .sqlite => "Sqlite"

/-- The port that a server of this kind listens to; an embedded database has none. -/
def defaultPort : Backend → UInt16
  | .mysql => 3306
  | .postgres => 5432
  | .sqlite => 0

/-- The names of a backend, in lower case. -/
def aliases : Backend → List String
  | .mysql => ["mysql", "mariadb"]
  | .postgres => ["postgres", "postgresql", "pg"]
  | .sqlite => ["sqlite", "sqlite3"]

def ofText (s : String) : Except Error Backend :=
  let spelling := Text.lower (Text.trim s)
  match [mysql, postgres, sqlite].find? (fun b => b.aliases.contains spelling) with
  | some b => .ok b
  | none => .error (.unsupported s!"unsupported database type '{s}'")

/-- The backends that URLs name by their scheme. -/
def ofScheme (scheme : String) : Except Error Backend :=
  match scheme with
  | "mysql" => .ok .mysql
  | "mariadb" => .ok .mysql
  | "postgres" => .ok .postgres
  | "postgresql" => .ok .postgres
  | other => .error (.unsupported s!"unsupported database url scheme '{other}'")

end Backend

structure Config where
  backend : Backend
  host : String := "localhost"
  port : UInt16 := 0
  username : String := ""
  password : String := ""
  database : String := ""
  deriving DecidableEq, Repr

namespace Config

/-- The configuration of an embedded database in a file. -/
def embedded (path : String) : Config :=
  { backend := .sqlite, database := path }

/-- The port to use; zero stands for the backend's own. -/
def effectivePort (c : Config) : UInt16 :=
  if c.port = 0 then c.backend.defaultPort else c.port

/-- An overview that does not show the password. -/
def summary (c : Config) : String :=
  "DatabaseConfig \x7b kind: " ++ c.backend.title ++ ", host: " ++ Text.Quoted.quote c.host ++
    ", port: " ++ toString c.port.toNat ++ ", username: " ++ Text.Quoted.quote c.username ++
    ", password: \"***\", database: " ++ Text.Quoted.quote c.database ++ " \x7d"

/-! ### From a URL -/

/-- What follows the scheme of embedded databases. -/
def embeddedRest? (url : String) : Option (List Char) :=
  match url.toList with
  | 's' :: 'q' :: 'l' :: 'i' :: 't' :: 'e' :: ':' :: '/' :: '/' :: rest => some rest
  | 's' :: 'q' :: 'l' :: 'i' :: 't' :: 'e' :: ':' :: rest => some rest
  | _ => none

/-- Reads the path of an embedded database, which ends before a query. -/
def ofEmbeddedRest (url : String) (rest : List Char) : Except Error Config :=
  match rest.takeWhile (· != '?') with
  | [] => .error (.config s!"sqlite url '{url}' has no database path")
  | path => .ok (embedded (String.ofList path))

def percentDecoded (s : String) : Except Error String :=
  (Text.Percent.decode s).mapError fun e => .config ("invalid url encoding: " ++ e.message)

/-- The path of a URL without the slashes at its front. -/
def databaseOf (path : String) : String :=
  String.ofList (path.toList.dropWhile (· == '/'))

/-- The configuration of a server. -/
def ofServerUrl (u : Url) : Except Error Config := do
  let backend ← Backend.ofScheme u.scheme
  let username ← percentDecoded u.username
  let password ← percentDecoded u.password
  let database ← percentDecoded (databaseOf u.path)
  return { backend, username, password, database
           host := u.host.getD "localhost"
           port := UInt16.ofNat (u.port.getD 0) }

def ofUrl (url : String) : Except Error Config :=
  match embeddedRest? url with
  | some rest => ofEmbeddedRest url rest
  | none =>
    match Url.read url with
    | .error e => .error (.config ("invalid database url: " ++ e.message))
    | .ok u => ofServerUrl u

/-- The configuration in the variable `DATABASE_URL`, given its value if it is set. -/
def ofEnvironment : Option String → Except Error Config
  | some url => ofUrl url
  | none => .error (.config "DATABASE_URL is not set")

end Config

/-- The options of a client. -/
structure Options where
  logging : Bool := false
  deriving DecidableEq, Repr

end FluentSql
