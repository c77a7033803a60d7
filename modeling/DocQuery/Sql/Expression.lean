import DocQuery.Sql.Text

/-!
# SQL conditions

Conditions as trees, and the text of a tree.  Operands are put in parentheses, with two exceptions:
the constants, and a left operand that is itself joined by the same word.
-/

namespace DocQuery.Sql

/-- How conditions are joined. -/
inductive Junction where
  | all
  | any
deriving DecidableEq

/-- The word between joined conditions. -/
def Junction.word : Junction → String
  | .all => " AND "
  | .any => " OR "

/-- A condition. -/
inductive Expr where
  /-- A condition given by its text. -/
  | fragment (pieces : List Piece)
  | constant (value : Bool)
  | negated (operand : Expr)
  | joined (junction : Junction) (left right : Expr)
deriving DecidableEq

namespace Expr

/-- A condition given by its text, which has no literals. -/
def plain (text : String) : Expr := .fragment [.plain text]

/-- Conditions joined from the left; without any it is the constant that changes nothing. -/
def join (junction : Junction) : List Expr → Expr
  | [] => .constant (junction = .all)
  | first :: rest => rest.foldl (.joined junction) first

/-- Whether an operand stands without parentheses on either side. -/
def isConstant : Expr → Bool
  | .constant _ => true
  | _ => false

/-- Whether a condition is joined in the given way. -/
def isJoinedBy (junction : Junction) : Expr → Bool
  | .joined own _ _ => own = junction
  | _ => false

/-- A text, in parentheses unless it can stand without. -/
def enclosed (bare : Bool) (pieces : List Piece) : List Piece :=
  if bare then pieces else .plain "(" :: pieces ++ [.plain ")"]

/-- The text of a condition. -/
def render : Expr → List Piece
  | .fragment pieces => pieces
  | .constant value => [.plain (if value then "TRUE" else "FALSE")]
  | .negated e => .plain "NOT " :: enclosed e.isConstant e.render
  | .joined junction left right =>
    enclosed (left.isConstant || left.isJoinedBy junction) left.render
      ++ .plain junction.word :: enclosed right.isConstant right.render

end Expr

end DocQuery.Sql
