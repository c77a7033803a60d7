import DocQuery.Document.Order
import DocQuery.Proofs.Json.Equality

/-!
# When the order of values is a total preorder

Sorting places any two values, and it needs their order to be a total preorder: reflexive, the other
way round for exchanged values, and transitive.  The first two always hold.  Transitivity is lost at
one place.  Two timestamps compare as instants, while a timestamp and another text compare by their
characters, so a text that stands between two timestamps by its characters can put them into the
wrong order of time.

This is the only place (`sortOrder_preorder_iff`): on the values whose texts come from a given set,
the order is transitive exactly if no text of the set stands between two timestamps whose order in
time is another one (`TimesAgree`).  Texts inside objects do not matter, because objects are
compared by their written form as a whole.

Transitivity alone cannot be carried through arrays: two arrays whose first elements stand at the
same place are told apart further on, so an induction has to know as well that such elements are
interchangeable.  `Ordering.Fits` says both at once, for three values in a given order.

## Main definitions

* `Ordering.Fits`: what two of three comparisons force the third one to be
* `Json.sortTexts`: the texts of a value that sorting compares
* `TimesAgree`: no other text stands between timestamps that time orders otherwise
* `Json.fits_sortOrder`, `sortOrder_preorder_iff`
-/

/-! ### Three comparisons that fit -/

/-- The comparison of a first and a third thing is the one that the comparisons with a second thing
between them force, if they force one: things at one place are interchangeable, and two steps in one
direction are a step in that direction. -/
def Ordering.Fits : Ordering → Ordering → Ordering → Prop
  | .eq, second, whole => whole = second
  | first, .eq, whole => whole = first
  | .lt, .lt, whole => whole = .lt
  | .gt, .gt, whole => whole = .gt
  | _, _, _ => True

namespace Ordering.Fits

variable {first second whole first' second' whole' : Ordering}

/-- Of three things that fit the first does not come after the third, unless a step goes back. -/
theorem ne_gt (fits : Fits first second whole) (left : first ≠ .gt) (right : second ≠ .gt) :
    whole ≠ .gt := by
  cases first <;> cases second <;> simp_all [Fits]

/-- The comparisons the other way round. -/
theorem swap (fits : Fits first second whole) : Fits first.swap second.swap whole.swap := by
  cases first <;> cases second <;> cases whole <;> simp_all [Fits]

/-- The comparisons from the third thing to the first. -/
theorem reverse (fits : Fits first second whole) : Fits second.swap first.swap whole.swap := by
  cases first <;> cases second <;> cases whole <;> simp_all [Fits]

/-- Two comparisons in a row, of which the second one decides where the first one does not. -/
theorem andThen (fits : Fits first second whole)
    (later : first = .eq → second = .eq → Fits first' second' whole') :
    Fits (first.then first') (second.then second') (whole.then whole') := by
  cases first <;> cases second <;> cases whole <;> simp_all [Fits, Ordering.then] <;>
    cases first' <;> cases second' <;> simp_all

end Ordering.Fits

/-- A total order fits. -/
theorem fits_compare {α : Type} [Ord α] [Std.TransOrd α] (a b c : α) :
    Ordering.Fits (compare a b) (compare b c) (compare a c) := by
  cases left : compare a b with
  | eq => exact Std.TransCmp.congr_left left
  | lt =>
      cases right : compare b c with
      | eq => exact (Std.TransCmp.congr_right right).symm.trans left
      | lt => exact Std.TransCmp.lt_trans left right
      | gt => trivial
  | gt =>
      cases right : compare b c with
      | eq => exact (Std.TransCmp.congr_right right).symm.trans left
      | lt => trivial
      | gt => exact Std.TransCmp.gt_trans left right

namespace DocQuery

/-! ### Instants and texts -/

theorem Instant.order_self (x : Instant) : x.order x = .eq := by
  simp [order]

theorem Instant.order_swap (x y : Instant) : (x.order y).swap = y.order x := by
  rw [order, order, Ordering.swap_then, ← Std.OrientedCmp.eq_swap, ← Std.OrientedCmp.eq_swap]

theorem Instant.fits_order (x y z : Instant) :
    Ordering.Fits (x.order y) (y.order z) (x.order z) :=
  (fits_compare _ _ _).andThen fun _ _ => fits_compare _ _ _

/-- No text that is no timestamp stands, by its characters, between two timestamps that are not in
the same order in time. -/
def TimesAgree (texts : String → Prop) : Prop :=
  ∀ u w v x y, texts u → texts w → texts v → Instant.ofText? u = some x →
    Instant.ofText? w = none → Instant.ofText? v = some y →
    compare u w = .lt → compare w v = .lt → x.order y = .lt

section Texts

variable {texts : String → Prop} {a b c : String}

theorem textOrder_of_instants {x y : Instant} (left : Instant.ofText? a = some x)
    (right : Instant.ofText? b = some y) : textOrder a b = x.order y := by
  rw [textOrder, left, right]

theorem textOrder_of_left (plain : Instant.ofText? a = none) : textOrder a b = compare a b := by
  rw [textOrder, plain]

theorem textOrder_of_right (plain : Instant.ofText? b = none) : textOrder a b = compare a b := by
  rw [textOrder, plain]
  cases Instant.ofText? a <;> rfl

theorem textOrder_self (a : String) : textOrder a a = .eq := by
  unfold textOrder
  split
  · next x y left right =>
      rw [Option.some.inj (left.symm.trans right)]
      exact y.order_self
  · exact Std.ReflCmp.compare_self

theorem compare_swap (a b : String) : (compare a b).swap = compare b a :=
  Std.OrientedOrd.eq_swap.symm

theorem textOrder_swap (a b : String) : (textOrder a b).swap = textOrder b a := by
  cases left : Instant.ofText? a with
  | none =>
      rw [textOrder_of_left left, textOrder_of_right left]
      exact compare_swap a b
  | some x =>
      cases right : Instant.ofText? b with
      | none =>
          rw [textOrder_of_right right, textOrder_of_left right]
          exact compare_swap a b
      | some y =>
          rw [textOrder_of_instants left right, textOrder_of_instants right left]
          exact x.order_swap y

/-- A timestamp is no other text. -/
theorem compare_ne_eq_of_instant {x : Instant} (stamp : Instant.ofText? a = some x)
    (plain : Instant.ofText? b = none) : compare a b ≠ .eq := by
  intro same
  rw [Std.LawfulEqCmp.eq_of_compare same, plain] at stamp
  cases stamp

/-- Another text before or behind two timestamps is on the same side of both of them, as far as
their order in time does not say otherwise. -/
theorem fits_textOrder_plain_right (agree : TimesAgree texts) (inA : texts a) (inB : texts b)
    (inC : texts c) {x y : Instant} (stampA : Instant.ofText? a = some x)
    (stampB : Instant.ofText? b = some y) (plain : Instant.ofText? c = none) :
    Ordering.Fits (textOrder a b) (textOrder b c) (textOrder a c) := by
  rw [textOrder_of_instants stampA stampB, textOrder_of_right plain, textOrder_of_right plain]
  have offA := compare_ne_eq_of_instant stampA plain
  have offB := compare_ne_eq_of_instant stampB plain
  have before : compare a c = .lt → compare b c = .gt → x.order y = .lt := fun left right =>
    agree a c b x y inA inC inB stampA plain stampB left (by rw [← compare_swap, right]; rfl)
  have behind : compare a c = .gt → compare b c = .lt → x.order y = .gt := fun left right => by
    rw [← y.order_swap, agree b c a y x inB inC inA stampB plain stampA right
      (by rw [← compare_swap, left]; rfl)]
    rfl
  cases time : x.order y <;> cases left : compare a c <;> cases right : compare b c <;>
    simp_all [Ordering.Fits]

/-- Another text between two timestamps stands there by their order in time. -/
theorem fits_textOrder_plain_middle (agree : TimesAgree texts) (inA : texts a) (inB : texts b)
    (inC : texts c) {x z : Instant} (stampA : Instant.ofText? a = some x)
    (plain : Instant.ofText? b = none) (stampC : Instant.ofText? c = some z) :
    Ordering.Fits (textOrder a b) (textOrder b c) (textOrder a c) := by
  rw [textOrder_of_right plain, textOrder_of_left plain, textOrder_of_instants stampA stampC]
  have offA := compare_ne_eq_of_instant stampA plain
  have offC := compare_ne_eq_of_instant stampC plain
  have forth : compare a b = .lt → compare b c = .lt → x.order z = .lt :=
    agree a b c x z inA inB inC stampA plain stampC
  have back : compare a b = .gt → compare b c = .gt → x.order z = .gt := fun left right => by
    rw [← z.order_swap, agree c b a z x inC inB inA stampC plain stampA
      (by rw [← compare_swap, right]; rfl) (by rw [← compare_swap, left]; rfl)]
    rfl
  rw [← compare_swap] at offC
  cases left : compare a b <;> cases right : compare b c <;> simp_all [Ordering.Fits]

/-- Where times agree with the texts between them, the order of texts is transitive. -/
theorem fits_textOrder (agree : TimesAgree texts) (inA : texts a) (inB : texts b) (inC : texts c) :
    Ordering.Fits (textOrder a b) (textOrder b c) (textOrder a c) := by
  cases stampA : Instant.ofText? a with
  | none =>
      cases stampB : Instant.ofText? b with
      | none =>
          rw [textOrder_of_left stampA, textOrder_of_left stampB, textOrder_of_left stampA]
          exact fits_compare a b c
      | some y =>
          cases stampC : Instant.ofText? c with
          | none =>
              rw [textOrder_of_left stampA, textOrder_of_right stampC, textOrder_of_left stampA]
              exact fits_compare a b c
          | some z =>
              have back := fits_textOrder_plain_right agree inC inB inA stampC stampB stampA
              simpa only [textOrder_swap] using back.reverse
  | some x =>
      cases stampB : Instant.ofText? b with
      | none =>
          cases stampC : Instant.ofText? c with
          | none =>
              rw [textOrder_of_right stampB, textOrder_of_left stampB, textOrder_of_right stampC]
              exact fits_compare a b c
          | some z => exact fits_textOrder_plain_middle agree inA inB inC stampA stampB stampC
      | some y =>
          cases stampC : Instant.ofText? c with
          | none => exact fits_textOrder_plain_right agree inA inB inC stampA stampB stampC
          | some z =>
              rw [textOrder_of_instants stampA stampB, textOrder_of_instants stampB stampC,
                textOrder_of_instants stampA stampC]
              exact x.fits_order y z

end Texts

/-! ### Values -/

namespace Json

mutual

/-- The texts of a value that sorting compares as texts: those outside its objects. -/
def sortTexts : Json → List String
  | .string text => [text]
  | .array items => itemSortTexts items
  | _ => []
termination_by structural value => value

/-- The texts of the elements of an array that sorting compares. -/
def itemSortTexts : List Json → List String
  | [] => []
  | item :: rest => item.sortTexts ++ itemSortTexts rest
termination_by structural items => items

end

/-- All texts of a value that sorting compares come from a set. -/
def SortTextsIn (texts : String → Prop) (value : Json) : Prop :=
  ∀ text ∈ value.sortTexts, texts text

/-- The order of two values whose kinds have the same rank. -/
def orderWithin : Json → Json → Ordering
  | .array xs, .array ys => sortOrderItems xs ys
  | .object xs, .object ys => compare (Json.object xs).text (Json.object ys).text
  | a, b => (a.comparison b).getD .eq

/-- The kinds decide first. -/
theorem sortOrder_eq (a b : Json) :
    a.sortOrder b = (compare a.kindRank b.kindRank).then (a.orderWithin b) := by
  cases a <;> cases b <;> rfl

/-! ### Reflexive and the other way round -/

theorem sortOrderItems_self {items : List Json} (each : ∀ x ∈ items, x.sortOrder x = .eq) :
    sortOrderItems items items = .eq := by
  induction items with
  | nil => rfl
  | cons x xs ih =>
      rw [sortOrderItems, each x List.mem_cons_self,
        ih fun v mem => each v (List.mem_cons_of_mem x mem)]
      rfl

theorem sortOrder_self (a : Json) : a.sortOrder a = .eq := by
  induction a using inductionOn with
  | null => rfl
  | bool b => cases b <;> rfl
  | number n => exact n.order_self
  | string s => exact textOrder_self s
  | array items ih => exact sortOrderItems_self ih
  | object members => exact Std.ReflOrd.compare_self (a := (Json.object members).text)

theorem sortOrderItems_swap {xs : List Json}
    (each : ∀ x ∈ xs, ∀ y, (x.sortOrder y).swap = y.sortOrder x) (ys : List Json) :
    (sortOrderItems xs ys).swap = sortOrderItems ys xs := by
  induction xs generalizing ys with
  | nil => cases ys <;> rfl
  | cons x xs ih =>
      cases ys with
      | nil => rfl
      | cons y ys =>
          rw [sortOrderItems, sortOrderItems, Ordering.swap_then, each x List.mem_cons_self,
            ih fun v mem => each v (List.mem_cons_of_mem x mem)]

theorem sortOrder_swap (a b : Json) : (a.sortOrder b).swap = b.sortOrder a := by
  induction a using inductionOn generalizing b with
  | array items ih =>
      cases b with
      | array others => exact sortOrderItems_swap ih others
      | _ => rfl
  | object members =>
      cases b with
      | object others => exact compare_swap _ _
      | _ => rfl
  | number n =>
      cases b with
      | number m => exact n.order_swap m
      | _ => rfl
  | string s =>
      cases b with
      | string t => exact textOrder_swap s t
      | _ => rfl
  | bool v =>
      cases b with
      | bool w => cases v <;> cases w <;> rfl
      | _ => rfl
  | null => cases b <;> rfl

/-! ### Transitivity -/

/-- The kinds of three values fit, and only values of one kind are compared any further. -/
theorem fits_of_fits_within {a b c : Json}
    (within : a.kindRank = b.kindRank → b.kindRank = c.kindRank →
      Ordering.Fits (a.orderWithin b) (b.orderWithin c) (a.orderWithin c)) :
    Ordering.Fits (a.sortOrder b) (b.sortOrder c) (a.sortOrder c) := by
  rw [sortOrder_eq a b, sortOrder_eq b c, sortOrder_eq a c]
  exact (fits_compare _ _ _).andThen fun left right =>
    within (Std.LawfulEqCmp.eq_of_compare left) (Std.LawfulEqCmp.eq_of_compare right)

theorem sortTextsIn_cons {texts : String → Prop} {x : Json} {xs : List Json} :
    SortTextsIn texts (.array (x :: xs)) ↔
      SortTextsIn texts x ∧ SortTextsIn texts (.array xs) := by
  simp only [SortTextsIn, sortTexts, itemSortTexts, List.forall_mem_append]

/-- Arrays fit if their elements do. -/
theorem fits_sortOrderItems {texts : String → Prop} {xs ys zs : List Json}
    (each : ∀ x ∈ xs, ∀ y z, SortTextsIn texts x → SortTextsIn texts y → SortTextsIn texts z →
      Ordering.Fits (x.sortOrder y) (y.sortOrder z) (x.sortOrder z))
    (inX : SortTextsIn texts (.array xs)) (inY : SortTextsIn texts (.array ys))
    (inZ : SortTextsIn texts (.array zs)) :
    Ordering.Fits (sortOrderItems xs ys) (sortOrderItems ys zs) (sortOrderItems xs zs) := by
  induction xs generalizing ys zs with
  | nil =>
      cases ys with
      | nil => cases zs <;> rfl
      | cons y ys =>
          cases zs with
          | nil => trivial
          | cons z zs => cases sortOrderItems (y :: ys) (z :: zs) <;> trivial
  | cons x xs ih =>
      cases ys with
      | nil => cases zs <;> trivial
      | cons y ys =>
          cases zs with
          | nil => cases sortOrderItems (x :: xs) (y :: ys) <;> trivial
          | cons z zs =>
              obtain ⟨x₁, x₂⟩ := sortTextsIn_cons.mp inX
              obtain ⟨y₁, y₂⟩ := sortTextsIn_cons.mp inY
              obtain ⟨z₁, z₂⟩ := sortTextsIn_cons.mp inZ
              rw [sortOrderItems, sortOrderItems, sortOrderItems]
              exact (each x List.mem_cons_self y z x₁ y₁ z₁).andThen fun _ _ =>
                ih (fun v mem => each v (List.mem_cons_of_mem x mem)) x₂ y₂ z₂

/-- **Where times agree, the order of values is transitive.** -/
theorem fits_sortOrder {texts : String → Prop} (agree : TimesAgree texts) {a b c : Json}
    (inA : SortTextsIn texts a) (inB : SortTextsIn texts b) (inC : SortTextsIn texts c) :
    Ordering.Fits (a.sortOrder b) (b.sortOrder c) (a.sortOrder c) := by
  induction a using inductionOn generalizing b c with
  | null =>
      refine fits_of_fits_within fun left right => ?_
      cases b <;> cases left
      cases c <;> cases right
      rfl
  | bool _ | number _ | object _ =>
      refine fits_of_fits_within fun left right => ?_
      cases b <;> cases left
      cases c <;> cases right
      exact fits_compare _ _ _
  | string s =>
      refine fits_of_fits_within fun left right => ?_
      cases b <;> cases left
      cases c <;> cases right
      exact fits_textOrder agree (inA _ List.mem_cons_self) (inB _ List.mem_cons_self)
        (inC _ List.mem_cons_self)
  | array items ih =>
      refine fits_of_fits_within fun left right => ?_
      cases b <;> cases left
      cases c <;> cases right
      exact fits_sortOrderItems (fun x mem y z => ih x mem) inA inB inC

end Json

/-- **The order of values is a total preorder exactly as far as times agree.**  It is reflexive and
the other way round for exchanged values; and for every set of texts it is transitive on the values
whose texts come from the set exactly if no other text of the set stands between two of its
timestamps that time orders otherwise. -/
theorem sortOrder_preorder_iff (texts : String → Prop) :
    (∀ a : Json, a.sortOrder a = .eq) ∧
    (∀ a b : Json, b.sortOrder a = (a.sortOrder b).swap) ∧
    ((∀ a b c : Json, a.SortTextsIn texts → b.SortTextsIn texts → c.SortTextsIn texts →
      a.sortOrder b ≠ .gt → b.sortOrder c ≠ .gt → a.sortOrder c ≠ .gt) ↔ TimesAgree texts) := by
  refine ⟨Json.sortOrder_self, fun a b => (Json.sortOrder_swap a b).symm, ⟨?_, ?_⟩⟩
  · intro transitive u w v x y inU inW inV stampU plain stampV before behind
    have single : ∀ text, texts text → (Json.string text).SortTextsIn texts := by
      intro text inTexts other mem
      rwa [List.mem_singleton.mp mem]
    by_contra other
    -- in time `v` does not come after `u`, which comes before `w`, so `v` does not come after `w`
    have vu : (Json.string v).sortOrder (.string u) ≠ .gt := by
      show textOrder v u ≠ .gt
      rw [textOrder_of_instants stampV stampU, ← x.order_swap]
      cases time : x.order y <;> simp_all
    have uw : (Json.string u).sortOrder (.string w) ≠ .gt := by
      show textOrder u w ≠ .gt
      rw [textOrder_of_right plain, before]
      decide
    have vw := transitive _ _ _ (single v inV) (single u inU) (single w inW) vu uw
    refine vw ?_
    show textOrder v w = .gt
    rw [textOrder_of_right plain, ← compare_swap, behind]
    rfl
  · intro agree a b c inA inB inC
    exact (Json.fits_sortOrder agree inA inB inC).ne_gt

/-- Three texts in a circle: each comes before the next one, and the last one before the first. -/
example :
    (Json.string "2024-01-01T09:00:00Z").sortOrder (.string "2024-01-01T09:30") = .lt ∧
    (Json.string "2024-01-01T09:30").sortOrder (.string "2024-01-01T10:00:00+02:00") = .lt ∧
    (Json.string "2024-01-01T10:00:00+02:00").sortOrder (.string "2024-01-01T09:00:00Z") = .lt := by
  decide +kernel

end DocQuery
