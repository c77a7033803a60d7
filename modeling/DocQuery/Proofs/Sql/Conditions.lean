import DocQuery.Proofs.Outcome
import DocQuery.Proofs.Sql.Shape
import DocQuery.Sql.Filter

/-!
# Conditions of one shape

Two conditions are alike if they are built in the same way and their literals stand at the same
places.  A text of a condition is put together from parts that lead from one kind of place to
another: every literal begins where a word may begin, and every part that follows a literal or a
path starts with a character that ends it.

## Main definitions

* `Sql.Leads`: where a part of a text leads
* `Sql.Closed`: texts that leave nothing open
* `Sql.PiecesAgree`, `Sql.SameShape`: two lists of pieces have one shape
* `Sql.Expr.Alike`: two conditions are alike
* `Sql.Expr.Alike.render`: the texts of alike conditions have one shape
-/

namespace DocQuery.Sql

variable {before after last : Place → Bool} {s t : String} {ps qs us vs : List Piece}

/-! ### Parts of a text -/

/-- A text agrees with itself, from one kind of place to another. -/
def Leads (before : Place → Bool) (text : String) (after : Place → Bool) : Prop :=
  Agree before text.toList text.toList after

namespace Leads

theorem append (first : Leads before s after) (second : Leads after t last) :
    Leads before (s ++ t) last := by
  rw [Leads, String.toList_append]
  exact Agree.append first second

/-! The parts of a template are fixed texts, for which the conditions of these three are found by
running them. -/

theorem ready (ends : after (scan .between s.toList).1 = true) : Leads Place.isReady s after :=
  Agree.self _ ends

theorem inside (ends : after (scan (.literal false) s.toList).1 = true) :
    Leads Place.isInside s after :=
  Agree.self _ ends

theorem settled
    (ends : s.toList.head?.any splits = true ∧ after (scan .between s.toList).1 = true) :
    Leads Place.isSettled s after := by
  obtain ⟨split, ends⟩ := ends
  rw [Leads]
  cases chars : s.toList with
  | nil => simp [chars] at split
  | cons c rest =>
      rw [chars] at split ends
      exact Agree.settled split (.self _ ends)

/-! The parts that templates share. -/

theorem opening : Leads Place.isReady "(" Place.isReady := .ready (by decide)

theorem closing : Leads Place.isSettled ")" Place.isSettled := .settled (by decide)

theorem typeOf : Leads Place.isReady "(jsonb_typeof(" Place.isReady := .ready (by decide)

theorem blank : Leads Place.isSettled " " Place.isReady := .settled (by decide)

theorem comma : Leads Place.isSettled ", " Place.isReady := .settled (by decide)

end Leads

/-- A text that may stand where a word may begin, and that leaves nothing open. -/
def Closed (text : String) : Prop := Leads Place.isReady text Place.isSettled

/-- Two lists of pieces leave the same in the shape, from one kind of place to another. -/
def PiecesAgree (before : Place → Bool) (ps qs : List Piece) (after : Place → Bool) : Prop :=
  Agree before (ps.flatMap Piece.chars) (qs.flatMap Piece.chars) after

/-- Two lists of pieces have one shape, and leave nothing open. -/
def SameShape (ps qs : List Piece) : Prop := PiecesAgree Place.isReady ps qs Place.isSettled

namespace PiecesAgree

theorem append (first : PiecesAgree before ps qs after) (second : PiecesAgree after us vs last) :
    PiecesAgree before (ps ++ us) (qs ++ vs) last := by
  rw [PiecesAgree, List.flatMap_append, List.flatMap_append]
  exact Agree.append first second

theorem plain (leads : Leads before s after) : PiecesAgree before [.plain s] [.plain s] after := by
  rw [PiecesAgree, List.flatMap_singleton, Piece.chars]
  exact leads

theorem plain_cons (leads : Leads before s after) (rest : PiecesAgree after ps qs last) :
    PiecesAgree before (.plain s :: ps) (.plain s :: qs) last :=
  append (plain leads) rest

theorem literal_cons {value other : String} (rest : PiecesAgree Place.isSettled ps qs last) :
    PiecesAgree Place.isReady (.literal value :: ps) (.literal other :: qs) last :=
  Agree.append (agree_literal value other) rest

end PiecesAgree

/-- Texts that agree up to their ends have one shape. -/
theorem SameShape.shape_write (same : SameShape ps qs) :
    shape (write ps) = shape (write qs) ∧ (shape (write ps)).isSome = true := by
  obtain ⟨left, first, second⟩ := same .between .between rfl rfl
  have nothing {place : Place} (settled : place.isSettled = true) : place.rest? = some [] := by
    cases place <;> first | rfl | cases settled
  simp only [shape, write, String.toList_ofList, nothing first, nothing second, left]
  exact ⟨trivial, rfl⟩

/-! ### Paths -/

theorem leads_step {segment : String} (step : step? segment = some s) :
    Leads Place.isSettled s Place.isSettled := by
  unfold step? at step
  split at step
  · next index =>
      rw [isIndex, Bool.and_eq_true, List.all_eq_true] at index
      rw [← Option.some.inj step]
      have arrow : Leads Place.isSettled "->" Place.isReady := .settled (by decide)
      exact arrow.append (agree_digits index.2)
  · split at step
    · next name =>
        rw [isPlainName, Bool.and_eq_true, List.all_eq_true] at name
        have noQuote : ∀ c ∈ segment.toList, c ≠ '\'' := by
          rintro c mem rfl
          exact absurd (name.2 _ mem) (by decide)
        rw [← Option.some.inj step]
        have opening : Leads Place.isSettled "->'" Place.isInside := .settled (by decide)
        have closing : Leads Place.isInside "'" Place.isSettled := .inside (by decide)
        exact (opening.append (agree_inside noQuote)).append closing
    · cases step

theorem leads_steps {segments : List String} (steps : steps? segments = some s) :
    Leads Place.isSettled s Place.isSettled := by
  induction segments generalizing s with
  | nil =>
      obtain rfl : "" = s := Option.some.inj steps
      exact fun a b fromA fromB => ⟨rfl, fromA, fromB⟩
  | cons segment rest ih =>
      rw [steps?, Option.bind_eq_some_iff] at steps
      obtain ⟨first, step, steps⟩ := steps
      obtain ⟨others, more, rfl⟩ := Option.map_eq_some_iff.mp steps
      exact (leads_step step).append (ih more)

/-- The expression of a path leaves nothing open. -/
theorem closed_pathExpr {root path expr : String} (closed : Closed root)
    (read : pathExpr root path = .ok expr) : Closed expr := by
  rw [pathExpr] at read
  split at read
  · next steps found =>
      rw [← Except.ok.inj read]
      exact closed.append (leads_steps found)
  · cases read

/-- A path is read with one outcome, and an expression for it leaves nothing open. -/
theorem related_pathExpr {root path : String} (closed : Closed root) :
    Except.Related (fun expr other => other = expr ∧ Closed expr)
      (pathExpr root path) (pathExpr root path) :=
  .self fun _ read => ⟨rfl, closed_pathExpr closed read⟩

/-- A number is written with digits only. -/
theorem closed_toString (n : Nat) : Closed (toString n) := by
  have written : (toString n).toList = Nat.toDigits 10 n := String.toList_ofList
  rw [Closed, Leads, written]
  exact agree_digits fun c mem => Nat.isDigit_of_mem_toDigits (by decide) (by decide) mem

/-! ### Conditions -/

namespace Expr

/-- Two conditions are built in the same way, and the texts of their fragments have one shape. -/
inductive Alike : Expr → Expr → Prop
  | fragment {ps qs : List Piece} (same : SameShape ps qs) : Alike (.fragment ps) (.fragment qs)
  | constant (value : Bool) : Alike (.constant value) (.constant value)
  | negated {e f : Expr} (operand : Alike e f) : Alike (.negated e) (.negated f)
  | joined (junction : Junction) {e f e' f' : Expr} (left : Alike e f) (right : Alike e' f') :
    Alike (.joined junction e e') (.joined junction f f')

namespace Alike

variable {e f : Expr} {es fs : List Expr} {junction : Junction}

theorem isConstant (alike : Alike e f) : e.isConstant = f.isConstant := by
  cases alike <;> rfl

theorem isJoinedBy (alike : Alike e f) : e.isJoinedBy junction = f.isJoinedBy junction := by
  cases alike <;> rfl

theorem plain (closed : Closed s) : Alike (.plain s) (.plain s) :=
  .fragment (.plain closed)

/-- Parentheses around a text. -/
theorem enclosed (bare : Bool) (same : SameShape ps qs) :
    SameShape (Expr.enclosed bare ps) (Expr.enclosed bare qs) := by
  cases bare with
  | true => exact same
  | false =>
      exact .plain_cons Leads.opening (same.append (.plain Leads.closing))

/-- **The texts of alike conditions have one shape.** -/
theorem render (alike : Alike e f) : SameShape e.render f.render := by
  induction alike with
  | fragment same => exact same
  | constant value => cases value <;> exact .plain (.ready (by decide))
  | negated operand ih =>
      rw [Expr.render, Expr.render, operand.isConstant]
      have word : Leads Place.isReady "NOT " Place.isReady := .ready (by decide)
      exact .plain_cons word (enclosed _ ih)
  | joined junction left right ihLeft ihRight =>
      rw [Expr.render, Expr.render, left.isConstant, left.isJoinedBy, right.isConstant]
      have word : Leads Place.isSettled junction.word Place.isReady := by
        cases junction <;> exact .settled (by decide)
      exact (enclosed _ ihLeft).append (.plain_cons word (enclosed _ ihRight))

theorem foldl_joined (first : Alike e f) (others : List.Forall₂ Alike es fs) :
    Alike (es.foldl (.joined junction) e) (fs.foldl (.joined junction) f) := by
  induction others generalizing e f with
  | nil => exact first
  | cons head _ ih => exact ih (.joined junction first head)

theorem join (junction : Junction) (each : List.Forall₂ Alike es fs) :
    Alike (.join junction es) (.join junction fs) := by
  cases each with
  | nil => exact .constant _
  | cons head others => exact foldl_joined head others

end Alike

end Expr

end DocQuery.Sql
