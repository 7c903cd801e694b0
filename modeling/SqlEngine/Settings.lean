import SqlEngine.Json

/-! # Settings -/

namespace SqlEngine

/-- What is fixed when a database is made: whether conditions are answered through the indexes, and
whether texts longer than their column's limit are refused. -/
structure Settings where
  useIndexes : Bool := true
  enforceLength : Bool := false
  deriving DecidableEq, Repr

namespace Settings

/-- The default settings without indexes. -/
def withoutIndexes : Settings := { useIndexes := false }

/-- A boolean field of an object. A field that is missing has its default; one that is not a boolean
is refused. -/
def flag? (fields : List (String × Json)) (name : String) (default : Bool) : Option Bool :=
  match fields.lookup name with
  | none          => some default
  | some (.bool b) => some b
  | some _        => none

/-- Settings from an object. Fields that mean nothing here are passed over. -/
def ofJson? : Json → Option Settings
  | .object fields => do
    let useIndexes ← flag? fields "use_indexes" true
    let enforceLength ← flag? fields "enforce_varchar_length" false
    return { useIndexes, enforceLength }
  | _              => none

end Settings

end SqlEngine
