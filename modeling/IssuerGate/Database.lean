import IssuerGate.Issuer.Store

/-!
The database: the table of issuers, its migration, and seeding.

A migration is recorded in a table of versions; seeding creates missing tables on its own and
records nothing.
-/

namespace IssuerGate

/-- A column of a table as the schema declares it. -/
structure Database.ColumnSpec where
  name : String
  type : String
  notNull : Bool := false
  default : Option String := none
  primary : Bool := false
  unique : Bool := false
deriving Repr

/-- The tables that may be there: issuers, and the recorded versions. -/
structure Database where
  issuers : Option Issuer.Table := none
  versions : Option (List Text) := none
deriving Repr

namespace Database

/-- The one revision of the schema. -/
def revision : Text := "0001_create_issuers_table"

def issuersName : Text := "issuers"

def versionsName : Text := "alembic_version"

/-- The columns that the migration creates. -/
def columns : List ColumnSpec :=
  let now := some "CURRENT_TIMESTAMP"
  [
    { name := "id", type := "VARCHAR(36)", notNull := true, primary := true },
    { name := "name", type := "VARCHAR(200)", notNull := true },
    { name := "public_key", type := "VARCHAR(128)", notNull := true, unique := true },
    { name := "description", type := "TEXT" },
    { name := "is_active", type := "BOOLEAN", notNull := true, default := some "1" },
    { name := "website", type := "VARCHAR(512)" },
    { name := "contact_email", type := "VARCHAR(256)" },
    { name := "tier", type := "VARCHAR(16)", default := some "'free'" },
    { name := "api_key_hash", type := "VARCHAR(64)" },
    { name := "created_at", type := "DATETIME", notNull := true, default := now },
    { name := "updated_at", type := "DATETIME", notNull := true, default := now }
  ]

/-- The unique indexes of the issuers table, in order. -/
def uniqueIndexes : List Text := ["api_key_hash", "id", "public_key"]

/-- Why a migration does not run. -/
inductive MigrationFault where
  | noDatabase
  | tableExists
deriving DecidableEq, Repr

def MigrationFault.message : MigrationFault → Text
  | noDatabase => "DATABASE_URL must be set for migrations"
  | tableExists => "table issuers already exists"

/-- Does the table of versions record the migration? -/
def isRecorded (db : Database) : Bool := (db.versions.getD []).contains revision

/-- Runs the migration unless it is recorded. Either way the table of versions is there then. -/
def upgrade (db : Database) : Database × Except MigrationFault Unit :=
  if db.isRecorded then (db, .ok ())
  else
    let versions := db.versions.getD []
    match db.issuers with
    -- a table that seeding created is in the way
    | some _ => ({ db with versions := some versions }, .error .tableExists)
    | none => ({ issuers := some [], versions := some (versions ++ [revision]) }, .ok ())

/-- Takes the migration back if it is recorded. -/
def downgrade (db : Database) : Database :=
  if db.isRecorded then
    { issuers := none, versions := some ((db.versions.getD []).filter (· ≠ revision)) }
  else { db with versions := some (db.versions.getD []) }

/-- Creates the issuers table if it is missing. -/
def createTables (db : Database) : Database := { db with issuers := some (db.issuers.getD []) }

/-- The names of the tables, sorted. -/
def tableNames (db : Database) : List Text :=
  (if db.versions.isSome then [versionsName] else [])
    ++ (if db.issuers.isSome then [issuersName] else [])

/-- A column as the statement declares it. -/
def ColumnSpec.sql (c : ColumnSpec) : Text :=
  Text.ofString c.name ++ Text.ofString " " ++ Text.ofString c.type
    ++ (match c.default with
        | some d => Text.ofString " DEFAULT " ++ Text.ofString d
        | none => [])
    ++ (if c.notNull then Text.ofString " NOT NULL" else [])

/-- The statement that creates a table, from the lines between its parentheses. -/
def createTableSql (name : Text) (lines : List Text) : Text :=
  Text.ofString "CREATE TABLE " ++ name ++ Text.ofString " (\n"
    ++ Text.join ", \n" (lines.map fun l => Text.ofString "    " ++ l) ++ Text.ofString "\n);"

/-- The statements of the migration, for a database that cannot be reached. -/
def script : Text :=
  let statements : List Text :=
    [
      createTableSql versionsName
        ["version_num VARCHAR(32) NOT NULL",
          "CONSTRAINT alembic_version_pkc PRIMARY KEY (version_num)"],
      Text.ofString "-- Running upgrade  -> " ++ revision,
      createTableSql issuersName
        (columns.map ColumnSpec.sql
          ++ (columns.filter (·.primary)).map (fun c =>
            Text.ofString "PRIMARY KEY (" ++ Text.ofString c.name ++ Text.ofString ")")
          ++ (columns.filter (·.unique)).map (fun c =>
            Text.ofString "UNIQUE (" ++ Text.ofString c.name ++ Text.ofString ")")),
      "CREATE UNIQUE INDEX ix_issuers_api_key_hash ON issuers (api_key_hash);",
      Text.ofString "INSERT INTO alembic_version (version_num) VALUES (" ++ revision.quoted
        ++ Text.ofString ") RETURNING version_num;"
    ]
  statements.flatMap fun s => s ++ Text.ofString "\n\n"

end Database

end IssuerGate
