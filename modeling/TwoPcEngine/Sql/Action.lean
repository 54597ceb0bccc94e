import TwoPcEngine.Protocol

/-! `SQLAction` and the statements a participant renders from it (`parseSQLAction`,
`validateSQLAction`, `safeIdent`, `placeholder`, `sortedKeys`, `applySQLAction`). -/

namespace TwoPc.Sql

abbrev GoMap (V : Type) := AList (fun _ : String => V)

structure SQLAction (V : Type) where
  table : String
  operation : String
  values : GoMap V
  where_ : GoMap V

/-- The payload decoding `parseSQLAction` delegates to `encoding/json`: the type switch on a
non-nil payload, and the marshalling of the payload into the audit row. -/
structure Codec (P V : Type) where
  unmarshal : P → Except String (SQLAction V)
  marshal : Option P → Except String String

/-- A statement handed to `ExecContext`: its text and its positional arguments. A Go map index
of a missing key yields `nil`, here `none`. -/
structure Stmt (V : Type) where
  text : String
  args : List (Option V)
  deriving DecidableEq

variable {P V : Type}

def validateSQLAction (action : SQLAction V) : Except String Unit :=
  if action.table = "" then .error "table is required"
  else if action.values.entries.isEmpty then .error "values are required"
  else if action.operation = "INSERT" then .ok ()
  else if action.operation = "UPDATE" then
    if action.where_.entries.isEmpty then .error "where is required for UPDATE" else .ok ()
  else .error ("unsupported operation: " ++ action.operation)

def normalize (action : SQLAction V) : SQLAction V :=
  let op := toUpper (trimSpace action.operation)
  { action with operation := if op = "" then "INSERT" else op, table := trimSpace action.table }

def parseSQLAction (codec : Codec P V) : Option P → Except String (SQLAction V)
  | none => .error "payload is required"
  | some payload => do
    let action := normalize (← codec.unmarshal payload)
    validateSQLAction action
    pure action

def isIdentChar (r : Char) : Bool :=
  r = '_' || r = '-' || ('0' ≤ r && r ≤ '9') || ('a' ≤ r && r ≤ 'z') || ('A' ≤ r && r ≤ 'Z')

def safeIdent (id : String) : Except String String :=
  if id = "" then .error "identifier empty"
  else if id.toList.all isIdentChar then .ok (toLower id)
  else .error "identifier contains invalid characters"

def placeholder (idx : Nat) : String := "$" ++ toString idx

def sortedKeys (m : GoMap V) : List String := sortStrings m.keys

def insertCols (m : GoMap V) : Nat → List String →
    Except String (List String × List (Option V) × List String)
  | _, [] => .ok ([], [], [])
  | i, c :: cs => do
    let ident ← safeIdent c
    let (colIdents, args, placeholders) ← insertCols m (i + 1) cs
    pure (("\"" ++ ident ++ "\"") :: colIdents, m.lookup c :: args, placeholder (i + 1) :: placeholders)

def bindCols (m : GoMap V) : Nat → List String →
    Except String (List String × List (Option V) × Nat)
  | idx, [] => .ok ([], [], idx)
  | idx, c :: cs => do
    let ident ← safeIdent c
    let (parts, args, idx') ← bindCols m (idx + 1) cs
    pure (("\"" ++ ident ++ "\"=" ++ placeholder idx) :: parts, m.lookup c :: args, idx')

def applySQLAction (action : SQLAction V) : Except String (Stmt V) := do
  let table ← safeIdent action.table
  if action.operation = "INSERT" then
    let (colIdents, args, placeholders) ← insertCols action.values 0 (sortedKeys action.values)
    pure ⟨"INSERT INTO \"" ++ table ++ "\" (" ++ ",".intercalate colIdents ++ ") VALUES (" ++
      ",".intercalate placeholders ++ ")", args⟩
  else if action.operation = "UPDATE" then
    let setCols := sortedKeys action.values
    let whereCols := sortedKeys action.where_
    if whereCols.length = 0 then throw "where is required for UPDATE"
    let (setParts, setArgs, idx) ← bindCols action.values 1 setCols
    let (whereParts, whereArgs, _) ← bindCols action.where_ idx whereCols
    pure ⟨"UPDATE \"" ++ table ++ "\" SET " ++ ",".intercalate setParts ++ " WHERE " ++
      " AND ".intercalate whereParts, setArgs ++ whereArgs⟩
  else throw ("unsupported operation: " ++ action.operation)

end TwoPc.Sql
