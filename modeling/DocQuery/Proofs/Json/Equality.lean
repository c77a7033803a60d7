import DocQuery.Proofs.Json.Keys
import DocQuery.Proofs.Number.Order
import Mathlib.Data.List.Perm.Subperm

/-!
# Equality of values

`Json.equal` compares objects without regard to the order of their members.  It counts members and
looks each key of the left object up in the right one, so it is an equality of values only where no
object repeats a key, which is what `Json.isWellKeyed` asks for at every depth.  There it is
symmetric; it is reflexive there too, and transitive without any condition.

## Main definitions

* `Json.inductionOn`: induction with a hypothesis for every element and every member
* `Json.isWellKeyed`: no object repeats a key, at any depth
* `Json.equal_refl`, `Json.equal_symm`, `Json.equal_trans`
-/

namespace DocQuery

namespace Json

/-- Induction on values: the case of an array has a hypothesis for each element, the case of an
object one for the value of each member. -/
@[elab_as_elim]
theorem inductionOn {motive : Json → Prop} (null : motive .null)
    (bool : ∀ b, motive (.bool b)) (number : ∀ n, motive (.number n))
    (string : ∀ s, motive (.string s))
    (array : ∀ items : List Json, (∀ v ∈ items, motive v) → motive (.array items))
    (object : ∀ members : List (String × Json),
      (∀ member ∈ members, motive member.2) → motive (.object members))
    (v : Json) : motive v := by
  refine @Json.rec motive (fun items => ∀ v ∈ items, motive v)
    (fun members => ∀ member ∈ members, motive member.2) (fun member => motive member.2)
    null bool number string array object ?_ ?_ ?_ ?_ ?_ v
  · simp
  · intro head tail ihHead ihTail v mem
    rcases List.mem_cons.mp mem with rfl | mem
    · exact ihHead
    · exact ihTail v mem
  · simp
  · intro head tail ihHead ihTail member mem
    rcases List.mem_cons.mp mem with rfl | mem
    · exact ihHead
    · exact ihTail member mem
  · exact fun _ _ ih => ih

/-! ### Objects without repeated keys -/

mutual

/-- Whether no object repeats a key, at any depth. -/
def isWellKeyed : Json → Bool
  | .array items => areWellKeyed items
  | .object members => decide (Document.DistinctKeys members) && areWellKeyedMembers members
  | _ => true
termination_by structural v => v

/-- Whether no object among the elements of an array repeats a key. -/
def areWellKeyed : List Json → Bool
  | [] => true
  | v :: vs => v.isWellKeyed && areWellKeyed vs
termination_by structural vs => vs

/-- Whether no object among the values of members repeats a key. -/
def areWellKeyedMembers : List (String × Json) → Bool
  | [] => true
  | (_, v) :: vs => v.isWellKeyed && areWellKeyedMembers vs
termination_by structural vs => vs

end

-- The equations of the two mutual recursions are tagged once for all the lemmas below: generating
-- them takes longer than the lemmas themselves.
attribute [local simp] isWellKeyed areWellKeyed areWellKeyedMembers
attribute [local simp] equal equalItems equalMembers

theorem areWellKeyed_iff {items : List Json} :
    areWellKeyed items = true ↔ ∀ v ∈ items, v.isWellKeyed = true := by
  induction items with
  | nil => simp
  | cons v vs ih => simp [ih]

theorem areWellKeyedMembers_iff {members : List (String × Json)} :
    areWellKeyedMembers members = true ↔ ∀ member ∈ members, member.2.isWellKeyed = true := by
  induction members with
  | nil => simp
  | cons member rest ih =>
      obtain ⟨k, v⟩ := member
      simp [ih]

theorem isWellKeyed_array {items : List Json} :
    (Json.array items).isWellKeyed = true ↔ ∀ v ∈ items, v.isWellKeyed = true := by
  rw [isWellKeyed, areWellKeyed_iff]

theorem isWellKeyed_object {members : List (String × Json)} :
    (Json.object members).isWellKeyed = true ↔
      Document.DistinctKeys members ∧ ∀ member ∈ members, member.2.isWellKeyed = true := by
  rw [isWellKeyed, Bool.and_eq_true, decide_eq_true_iff, areWellKeyedMembers_iff]

/-! ### Equality, read off its parts -/

theorem equalItems_iff {xs ys : List Json} :
    equalItems xs ys = true ↔ List.Forall₂ (fun x y => x.equal y = true) xs ys := by
  induction xs generalizing ys with
  | nil => cases ys <;> simp
  | cons x xs ih => cases ys <;> simp [ih]

theorem equalMembers_iff {xs ys : List (String × Json)} :
    equalMembers xs ys = true ↔
      ∀ member ∈ xs, ∃ y, Document.get? ys member.1 = some y ∧ member.2.equal y = true := by
  induction xs with
  | nil => simp
  | cons member rest ih =>
      obtain ⟨k, x⟩ := member
      cases found : Document.get? ys k with
      | none => simp [found]
      | some y => simp [found, ih]

theorem equal_array {items : List Json} {y : Json} :
    (Json.array items).equal y = true ↔
      ∃ others, y = .array others ∧ List.Forall₂ (fun x y => x.equal y = true) items others := by
  cases y <;> simp [equalItems_iff]

theorem equal_object {members : List (String × Json)} {y : Json} :
    (Json.object members).equal y = true ↔
      ∃ others, y = .object others ∧ members.length = others.length ∧
        ∀ member ∈ members, ∃ y, Document.get? others member.1 = some y ∧
          member.2.equal y = true := by
  cases y <;> simp [equalMembers_iff]

theorem equal_object_object {xs ys : List (String × Json)} :
    (Json.object xs).equal (.object ys) = true ↔ xs.length = ys.length ∧
      ∀ member ∈ xs, ∃ y, Document.get? ys member.1 = some y ∧ member.2.equal y = true := by
  simp [equalMembers_iff]

/-! ### Equality as an equivalence -/

/-- Element by element transitivity, given transitivity for the elements on the left. -/
private theorem forall₂_trans {r : Json → Json → Prop} {xs ys zs : List Json}
    (trans : ∀ x ∈ xs, ∀ y z, r x y → r y z → r x z) (left : List.Forall₂ r xs ys)
    (right : List.Forall₂ r ys zs) : List.Forall₂ r xs zs := by
  induction left generalizing zs with
  | nil => exact right
  | cons head _ step =>
      cases right with
      | cons next tail =>
          exact .cons (trans _ List.mem_cons_self _ _ head next)
            (step (fun x mem => trans x (List.mem_cons_of_mem _ mem)) tail)

/-- Element by element symmetry, given symmetry for the elements. -/
private theorem forall₂_symm {r : Json → Json → Prop} {xs ys : List Json}
    (symm : ∀ x ∈ xs, ∀ y ∈ ys, r x y → r y x) (h : List.Forall₂ r xs ys) :
    List.Forall₂ r ys xs := by
  induction h with
  | nil => exact .nil
  | cons head _ step =>
      exact .cons (symm _ List.mem_cons_self _ List.mem_cons_self head)
        (step fun x inX y inY =>
          symm x (List.mem_cons_of_mem _ inX) y (List.mem_cons_of_mem _ inY))

theorem equal_refl {v : Json} (wellKeyed : v.isWellKeyed = true) : v.equal v = true := by
  induction v using inductionOn with
  | null => rfl
  | bool b => simp
  | number n => exact n.equal_self
  | string s => simp
  | array items ih =>
      rw [isWellKeyed_array] at wellKeyed
      exact equal_array.mpr ⟨items, rfl,
        List.forall₂_same.mpr fun v mem => ih v mem (wellKeyed v mem)⟩
  | object members ih =>
      obtain ⟨distinct, inside⟩ := isWellKeyed_object.mp wellKeyed
      exact equal_object.mpr ⟨members, rfl, rfl, fun member mem =>
        ⟨member.2, Document.get?_of_mem distinct mem, ih member mem (inside member mem)⟩⟩

/-- Only a scalar of the same kind equals a scalar. -/
theorem equal_null {y : Json} : Json.null.equal y = true ↔ .null = y := by
  cases y <;> simp

theorem equal_bool {b : Bool} {y : Json} : (Json.bool b).equal y = true ↔ .bool b = y := by
  cases y <;> simp

theorem equal_string {s : String} {y : Json} :
    (Json.string s).equal y = true ↔ .string s = y := by
  cases y <;> simp

theorem equal_number {n : Number} {y : Json} :
    (Json.number n).equal y = true ↔ ∃ m, y = .number m ∧ n.equal m = true := by
  cases y <;> simp

/-- Equal values are the same value, two numbers, two arrays or two objects. -/
theorem equal_cases {x y : Json} (h : x.equal y = true) :
    x = y ∨ (∃ n m, x = .number n ∧ y = .number m ∧ n.equal m = true) ∨
      (∃ xs ys, x = .array xs ∧ y = .array ys) ∨ ∃ xs ys, x = .object xs ∧ y = .object ys := by
  cases x with
  | null => exact .inl (equal_null.mp h)
  | bool b => exact .inl (equal_bool.mp h)
  | string s => exact .inl (equal_string.mp h)
  | number n =>
      obtain ⟨m, rfl, equal⟩ := equal_number.mp h
      exact .inr (.inl ⟨n, m, rfl, rfl, equal⟩)
  | array items =>
      obtain ⟨others, rfl, -⟩ := equal_array.mp h
      exact .inr (.inr (.inl ⟨items, others, rfl, rfl⟩))
  | object members =>
      obtain ⟨others, rfl, -⟩ := equal_object.mp h
      exact .inr (.inr (.inr ⟨members, others, rfl, rfl⟩))

theorem equal_trans {x y z : Json} (left : x.equal y = true) (right : y.equal z = true) :
    x.equal z = true := by
  induction x using inductionOn generalizing y z with
  | null => rwa [← equal_null.mp left] at right
  | bool b => rwa [← equal_bool.mp left] at right
  | number n =>
      obtain ⟨m, rfl, left⟩ := equal_number.mp left
      obtain ⟨k, rfl, right⟩ := equal_number.mp right
      exact equal_number.mpr ⟨k, rfl, Number.equal_trans left right⟩
  | string s => rwa [← equal_string.mp left] at right
  | array items ih =>
      obtain ⟨ys, rfl, sameLeft⟩ := equal_array.mp left
      obtain ⟨zs, rfl, sameRight⟩ := equal_array.mp right
      exact equal_array.mpr ⟨zs, rfl,
        forall₂_trans (fun x mem _ _ => ih x mem) sameLeft sameRight⟩
  | object members ih =>
      obtain ⟨ys, rfl, sameLength, left⟩ := equal_object.mp left
      obtain ⟨zs, rfl, sameLength', right⟩ := equal_object.mp right
      refine equal_object.mpr ⟨zs, rfl, sameLength.trans sameLength', fun member mem => ?_⟩
      obtain ⟨y, inY, equalY⟩ := left member mem
      obtain ⟨z, inZ, equalZ⟩ := right _ (Document.mem_of_get? inY)
      exact ⟨z, inZ, ih member mem equalY equalZ⟩

/-- The keys of an object are among those of any object that holds an equal partner of each of its
members. -/
theorem keys_subset_of_equal {xs ys : List (String × Json)}
    (found : ∀ member ∈ xs, ∃ y, Document.get? ys member.1 = some y ∧
      member.2.equal y = true) : Document.keys xs ⊆ Document.keys ys := by
  intro key present
  obtain ⟨member, mem, rfl⟩ := List.mem_map.mp present
  obtain ⟨y, inY, -⟩ := found member mem
  exact Document.mem_keys_of_mem (Document.mem_of_get? inY)

/-- A member of the right one of two equal objects has an equal partner in the left one: equally
many distinct keys leave no key over. -/
theorem exists_partner {xs ys : List (String × Json)} (distinct : Document.DistinctKeys xs)
    (distinct' : Document.DistinctKeys ys) (sameLength : xs.length = ys.length)
    (found : ∀ member ∈ xs, ∃ y, Document.get? ys member.1 = some y ∧
      member.2.equal y = true) {member : String × Json} (mem : member ∈ ys) :
    ∃ x, (member.1, x) ∈ xs ∧ x.equal member.2 = true := by
  have subset : Document.keys ys ⊆ Document.keys xs := by
    have sub := List.subperm_of_subset distinct (keys_subset_of_equal found)
    refine (sub.perm_of_length_le ?_).symm.subset
    simp [Document.keys, sameLength]
  have present : member.1 ∈ Document.keys xs := subset (Document.mem_keys_of_mem mem)
  obtain ⟨⟨k, x⟩, inX, sameKey⟩ := List.mem_map.mp present
  obtain ⟨y, inY, equalY⟩ := found _ inX
  simp only at sameKey
  rw [sameKey, Document.get?_of_mem distinct' mem] at inY
  exact ⟨x, sameKey ▸ inX, Option.some.inj inY ▸ equalY⟩

theorem equal_symm {x y : Json} (hx : x.isWellKeyed = true) (hy : y.isWellKeyed = true)
    (h : x.equal y = true) : y.equal x = true := by
  induction x using inductionOn generalizing y with
  | null =>
      obtain rfl := equal_null.mp h
      exact h
  | bool b =>
      obtain rfl := equal_bool.mp h
      exact h
  | number n =>
      obtain ⟨m, rfl, same⟩ := equal_number.mp h
      exact equal_number.mpr ⟨n, rfl, Number.equal_symm same⟩
  | string s =>
      obtain rfl := equal_string.mp h
      exact h
  | array items ih =>
      obtain ⟨ys, rfl, same⟩ := equal_array.mp h
      rw [isWellKeyed_array] at hx hy
      refine equal_array.mpr ⟨items, rfl, forall₂_symm (fun x inX y inY => ?_) same⟩
      exact ih x inX (hx x inX) (hy y inY)
  | object members ih =>
      obtain ⟨ys, rfl, sameLength, found⟩ := equal_object.mp h
      obtain ⟨distinct, inside⟩ := isWellKeyed_object.mp hx
      obtain ⟨distinct', inside'⟩ := isWellKeyed_object.mp hy
      refine equal_object.mpr ⟨members, rfl, sameLength.symm, fun member mem => ?_⟩
      obtain ⟨x, inX, same⟩ := exists_partner distinct distinct' sameLength found mem
      exact ⟨x, Document.get?_of_mem distinct inX,
        ih (member.1, x) inX (inside _ inX) (inside' _ mem) same⟩

end Json

end DocQuery
