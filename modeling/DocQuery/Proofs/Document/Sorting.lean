import DocQuery.Proofs.Document.Order
import DocQuery.Proofs.Store.Answer

/-!
# Sorting is stable and lexicographic

Rows are sorted by inserting one after the other.  Where the order of the sorted values is
transitive, the result is sorted by all keys taken in turn, and rows that no key tells apart keep
their order.

Each insertion keeps both (`sortedFromEnd_insertFromEnd`, `filter_insertFromEnd`).  Neither would
survive an order that is not transitive: a row is compared with its neighbours only, so that it is
also placed rightly beside the others has to follow.

## Main definitions

* `Row.SortTextsIn`: the texts that keys compare in a row
* `Row.fits_order`: the order of rows, three at a time
* `SortedFromEnd`: what an insertion expects and leaves
* `sortRows_stable_lexicographic`
-/

namespace DocQuery

variable {keys : List SortKey} {texts : String → Prop}

/-! ### The order of rows -/

namespace Row

theorem scoreOrder_eq_compare (s t : Option Binary64) :
    scoreOrder s t = compare (s.map (·.orderKey)) (t.map (·.orderKey)) := by
  cases s <;> cases t <;> rfl

theorem scoreOrder_swap (s t : Option Binary64) : (scoreOrder s t).swap = scoreOrder t s := by
  rw [scoreOrder_eq_compare, scoreOrder_eq_compare]
  exact Std.OrientedOrd.eq_swap.symm

theorem fits_scoreOrder (s t u : Option Binary64) :
    Ordering.Fits (scoreOrder s t) (scoreOrder t u) (scoreOrder s u) := by
  simp only [scoreOrder_eq_compare]
  exact fits_compare _ _ _

theorem keyOrder_self (a : Row) (key : SortKey) : keyOrder a a key = .eq := by
  cases key with
  | field path direction =>
      rw [keyOrder, Json.sortOrder_self]
      cases direction <;> rfl
  | textScore =>
      rw [keyOrder, scoreOrder_eq_compare]
      exact Std.ReflOrd.compare_self

theorem keyOrder_swap (a b : Row) (key : SortKey) : (keyOrder a b key).swap = keyOrder b a key := by
  cases key with
  | field path direction =>
      rw [keyOrder, keyOrder, ← Json.sortOrder_swap (a.sortValue path)]
      cases direction <;> rfl
  | textScore => exact scoreOrder_swap b.score a.score

theorem order_self (keys : List SortKey) (a : Row) : a.order keys a = .eq := by
  induction keys with
  | nil => rfl
  | cons key rest ih =>
      rw [order, keyOrder_self, ih]
      rfl

theorem order_swap (keys : List SortKey) (a b : Row) : (a.order keys b).swap = b.order keys a := by
  induction keys with
  | nil => rfl
  | cons key rest ih => rw [order, order, Ordering.swap_then, keyOrder_swap, ih]

/-- The texts of a row that sorting by some keys compares come from a set. -/
def SortTextsIn (keys : List SortKey) (texts : String → Prop) (row : Row) : Prop :=
  ∀ path direction, .field path direction ∈ keys → (row.sortValue path).SortTextsIn texts

variable {a b c : Row}

/-- Where times agree, the order of rows under any keys is transitive. -/
theorem fits_order (agree : TimesAgree texts) (inA : a.SortTextsIn keys texts)
    (inB : b.SortTextsIn keys texts) (inC : c.SortTextsIn keys texts) :
    Ordering.Fits (a.order keys b) (b.order keys c) (a.order keys c) := by
  induction keys with
  | nil => rfl
  | cons key rest ih =>
      have others : ∀ {row : Row}, row.SortTextsIn (key :: rest) texts →
          row.SortTextsIn rest texts := fun inTexts path direction mem =>
        inTexts path direction (List.mem_cons_of_mem key mem)
      refine Ordering.Fits.andThen ?_ fun _ _ => ih (others inA) (others inB) (others inC)
      cases key with
      | textScore =>
          simpa only [keyOrder, scoreOrder_swap] using
            (fits_scoreOrder a.score b.score c.score).swap
      | field path direction =>
          have fits := Json.fits_sortOrder agree (inA path direction List.mem_cons_self)
            (inB path direction List.mem_cons_self) (inC path direction List.mem_cons_self)
          cases direction with
          | ascending => exact fits
          | descending => exact fits.swap

end Row

/-! ### Insertion -/

section Insertion

variable {P : Row → Prop} {row : Row} {sorted : List Row}

/-- Rows from the last one to the first. -/
def SortedFromEnd (keys : List SortKey) (rows : List Row) : Prop :=
  rows.Pairwise fun later earlier => earlier.order keys later ≠ .gt

/-- Among some rows the order under some keys is transitive. -/
def OrderFits (keys : List SortKey) (P : Row → Prop) : Prop :=
  ∀ a b c, P a → P b → P c →
    Ordering.Fits (a.order keys b) (b.order keys c) (a.order keys c)

theorem sortedFromEnd_insertFromEnd (fits : OrderFits keys P) (inRow : P row)
    (inSorted : ∀ other ∈ sorted, P other) (isSorted : SortedFromEnd keys sorted) :
    SortedFromEnd keys (insertFromEnd keys row sorted) := by
  induction sorted with
  | nil => exact List.pairwise_singleton _ _
  | cons last before ih =>
      obtain ⟨inLast, inBefore⟩ := List.forall_mem_cons.mp inSorted
      obtain ⟨behind, rest⟩ := List.pairwise_cons.mp isSorted
      unfold insertFromEnd
      split
      · next first =>
          refine List.pairwise_cons.mpr ⟨fun other mem => ?_, ih inBefore rest⟩
          rcases List.mem_cons.mp ((insertFromEnd_perm row before).subset mem) with rfl | mem
          · rw [first]
            decide
          · exact behind other mem
      · next notFirst =>
          -- the row stays behind the last one, and so behind all that are before that one
          have afterLast : last.order keys row ≠ .gt := by
            rw [← Row.order_swap]
            cases order : row.order keys last <;> simp_all
          refine List.pairwise_cons.mpr ⟨fun other mem => ?_, isSorted⟩
          rcases List.mem_cons.mp mem with rfl | mem
          · exact afterLast
          · exact (fits other last row (inBefore other mem) inLast inRow).ne_gt (behind other mem)
              afterLast

/-- An insertion puts its row behind all rows that no key tells apart from it. -/
theorem filter_insertFromEnd (fits : OrderFits keys P) (inRow : P row)
    (inSorted : ∀ other ∈ sorted, P other) {alike : Row} (inAlike : P alike) :
    (insertFromEnd keys row sorted).filter (alike.order keys · == .eq) =
      (row :: sorted).filter (alike.order keys · == .eq) := by
  induction sorted with
  | nil => rfl
  | cons last before ih =>
      obtain ⟨inLast, inBefore⟩ := List.forall_mem_cons.mp inSorted
      unfold insertFromEnd
      split
      · next first =>
          have apart : ¬ (alike.order keys row = .eq ∧ alike.order keys last = .eq) := by
            rintro ⟨left, right⟩
            have fit := fits row alike last inRow inAlike inLast
            rw [← Row.order_swap, left, right, first] at fit
            cases fit
          rw [List.filter_cons, ih inBefore]
          simp only [List.filter_cons, beq_iff_eq]
          split <;> split <;> simp_all
      · rfl

/-- Inserting rows one after the other sorts them and puts none before one that no key tells apart
from it. -/
theorem sortedFromEnd_foldl (fits : OrderFits keys P) {rows : List Row}
    (inRows : ∀ row ∈ rows, P row) (inSorted : ∀ other ∈ sorted, P other)
    (isSorted : SortedFromEnd keys sorted) :
    SortedFromEnd keys (rows.foldl (fun sorted row => insertFromEnd keys row sorted) sorted) ∧
      ∀ alike, P alike →
        (rows.foldl (fun sorted row => insertFromEnd keys row sorted) sorted).filter
            (alike.order keys · == .eq) =
          (rows.reverse ++ sorted).filter (alike.order keys · == .eq) := by
  induction rows generalizing sorted with
  | nil => exact ⟨isSorted, fun _ _ => rfl⟩
  | cons row rest ih =>
      obtain ⟨inRow, inRest⟩ := List.forall_mem_cons.mp inRows
      have inNext : ∀ other ∈ insertFromEnd keys row sorted, P other := by
        intro other mem
        rcases List.mem_cons.mp ((insertFromEnd_perm row sorted).subset mem) with rfl | mem
        · exact inRow
        · exact inSorted other mem
      obtain ⟨still, same⟩ := ih inRest inNext
        (sortedFromEnd_insertFromEnd fits inRow inSorted isSorted)
      refine ⟨still, fun alike inAlike => ?_⟩
      rw [List.foldl_cons, same alike inAlike, List.filter_append,
        filter_insertFromEnd fits inRow inSorted inAlike, ← List.filter_append, List.reverse_cons,
        List.append_assoc]
      rfl

end Insertion

/-! ### Sorting -/

/-- Where the order of rows is transitive, sorting puts no row before one that comes before it and
leaves rows that no key tells apart in their order. -/
theorem sortRows_of_orderFits {P : Row → Prop} (fits : OrderFits keys P) {rows : List Row}
    (inRows : ∀ row ∈ rows, P row) :
    (sortRows keys rows).Pairwise (fun a b => a.order keys b ≠ .gt) ∧
      ∀ alike, P alike → (sortRows keys rows).filter (alike.order keys · == .eq) =
        rows.filter (alike.order keys · == .eq) := by
  have inNone : ∀ row ∈ ([] : List Row), P row := fun _ mem => absurd mem List.not_mem_nil
  obtain ⟨isSorted, same⟩ := sortedFromEnd_foldl fits inRows inNone List.Pairwise.nil
  refine ⟨List.pairwise_reverse.mpr isSorted, fun alike inAlike => ?_⟩
  rw [sortRows, List.filter_reverse, same alike inAlike, List.append_nil, List.filter_reverse,
    List.reverse_reverse]

/-- **Sorting is stable and lexicographic.**  Where no text among the values at the sort paths is a
timestamp, sorting returns the same rows in an order in which none comes after a later one by the
keys taken in turn, and rows that no key tells apart keep their order. -/
theorem sortRows_stable_lexicographic {rows : List Row}
    (noTimes : ∀ row ∈ rows, ∀ path direction, SortKey.field path direction ∈ keys →
      ∀ text ∈ (row.sortValue path).sortTexts, Instant.ofText? text = none) :
    (sortRows keys rows).Perm rows ∧
      (sortRows keys rows).Pairwise (fun a b => a.order keys b ≠ .gt) ∧
      ∀ alike ∈ rows, (sortRows keys rows).filter (alike.order keys · == .eq) =
        rows.filter (alike.order keys · == .eq) := by
  have agree : TimesAgree fun text => Instant.ofText? text = none := by
    intro u w v x y inU _ _ stamp
    rw [inU] at stamp
    cases stamp
  have fits : OrderFits keys (Row.SortTextsIn keys fun text => Instant.ofText? text = none) :=
    fun _ _ _ => Row.fits_order agree
  obtain ⟨isSorted, same⟩ := sortRows_of_orderFits fits noTimes
  exact ⟨sortRows_perm keys rows, isSorted, fun alike mem => same alike (noTimes alike mem)⟩

/-- A search for fruit that is sorted by kind from the last one on and by relevance: the missing
kind goes to the end, the missing relevance behind the others of its kind, and the two records of
one kind and one relevance stay as they were. -/
theorem sortRows_stable_lexicographic_fruit :
    let fruit (id kind : String) (score : Option Binary64) : Row :=
      ⟨[("_id", .string id), ("kind", .string kind)], score⟩
    let rows := [fruit "a" "apple" (some (.ofInt 1)), ⟨[("_id", .string "b")], some (.ofInt 9)⟩,
      fruit "c" "pear" none, fruit "d" "apple" (some (.ofInt 1)),
      fruit "e" "pear" (some (.ofInt 2))]
    let keys := [.field "kind" .descending, .textScore]
    (∀ row ∈ rows, ∀ path direction, SortKey.field path direction ∈ keys →
      ∀ text ∈ (row.sortValue path).sortTexts, Instant.ofText? text = none) ∧
    (sortRows keys rows).Pairwise (fun a b => a.order keys b ≠ .gt) ∧
    (sortRows keys rows).map (·.sortValue "_id") =
      [.string "e", .string "c", .string "a", .string "d", .string "b"] := by
  intro fruit rows keys
  have noTimes : ∀ row ∈ rows, ∀ path direction, SortKey.field path direction ∈ keys →
      ∀ text ∈ (row.sortValue path).sortTexts, Instant.ofText? text = none := by
    intro row mem path direction isKey
    obtain ⟨rfl, -⟩ : path = "kind" ∧ direction = .descending := by simpa [keys] using isKey
    revert row
    decide +kernel
  exact ⟨noTimes, (sortRows_stable_lexicographic noTimes).2.1, by rfl⟩

end DocQuery
