/-!
# Texts of SQL

An SQL text is a list of pieces: pieces that stand as they are, and string literals.  What a client
sends gets into a text as the value of a literal only.

## Main definitions

* `Sql.Piece`, `Sql.write`
* `Sql.quotedLiteral`: the written form of a string literal
* `Sql.quotedName`: the written form of the name of a table or a column
-/

namespace DocQuery.Sql

/-- A piece of an SQL text. -/
inductive Piece where
  /-- Text that stands as it is. -/
  | plain (text : String)
  /-- A string literal of the given value. -/
  | literal (value : String)
deriving DecidableEq

/-- The characters that stand for one character of a literal. -/
def escaped (c : Char) : List Char :=
  match c with
  | '\\' => ['\\', '\\']
  | '"' => ['\\', '"']
  | '\'' => ['\\', '\'']
  | '\x00' => ['\\', '0']
  | '\x08' => ['\\', 'b']
  | '\t' => ['\\', 't']
  | '\x1a' => ['\\', 'z']
  | '\n' => ['\\', 'n']
  | '\r' => ['\\', 'r']
  | c => [c]

/-- A string literal: in single quotes, and marked with an `E` if it holds an escape. -/
def quotedLiteral (value : String) : List Char :=
  let body := value.toList.flatMap escaped
  let quoted := '\'' :: body ++ ['\'']
  if body.contains '\\' then 'E' :: quoted else quoted

/-- A name in double quotes, with the quotes inside it doubled. -/
def quotedName (name : String) : String :=
  String.ofList ('"' :: (name.toList.flatMap fun c => if c = '"' then ['"', '"'] else [c]) ++ ['"'])

namespace Piece

/-- The characters of a piece. -/
def chars : Piece → List Char
  | .plain text => text.toList
  | .literal value => quotedLiteral value

end Piece

/-- The text of pieces. -/
def write (pieces : List Piece) : String := String.ofList (pieces.flatMap Piece.chars)

end DocQuery.Sql
