import SqlEngine.Database

/-! # A session that shows the engine at work -/

namespace SqlEngine

/-- An outcome as lines of text: the names of the columns, the rows and their number, or the number
of rows affected. -/
def Outcome.lines : Outcome → List String
  | .rows r         =>
    " | ".intercalate r.columns :: r.rows.map (fun row => " | ".intercalate (row.map Value.display))
      ++ ["(" ++ toString r.count ++ " rows)"]
  | .affected count => ["ok, " ++ toString count ++ " affected"]

/-- The lines for the answer to a statement, whether it is an outcome or an error. -/
def answerLines : Except Error Outcome → List String
  | .ok outcome => outcome.lines
  | .error e    => ["error: " ++ e.message]

/-- Runs statements in order, each after a line that shows it, and goes on after errors. -/
def sessionLines : Database → List String → List String
  | _,  []          => []
  | db, sql :: rest =>
    let (answer, next) := (Database.execute sql).outcome db
    ("> " ++ sql) :: answerLines answer ++ sessionLines next rest

def demonstration : List String := [
  "CREATE TABLE users (id INT, name VARCHAR(50), age INT, active BOOLEAN)",
  "INSERT INTO users VALUES (1, 'Alice', 30, TRUE), (2, 'Bob', 25, FALSE)",
  "INSERT INTO users (name, id, age, active) VALUES ('Carol', 3, 41, TRUE)",
  "SELECT * FROM users WHERE age > 25",
  "UPDATE users SET active = TRUE WHERE name = 'Bob'",
  "SELECT name, age FROM users WHERE active = TRUE ORDER BY age LIMIT 2",
  "DELETE FROM users WHERE age >= 40 OR id = 2",
  "SELECT * FROM users",
  "SELECT * FROM users WHERE age > 1 AND id = 1 OR id = 2"]

end SqlEngine

def main : IO Unit :=
  (SqlEngine.sessionLines (.create {}) SqlEngine.demonstration).forM IO.println
