import DocQuery.Json.Basic
import Mathlib.Data.List.Nodup

/-!
# Documents as keyed lists

A document is a list of members, read by key.  This module relates the two views: which members a
key reaches, what `insert` and `filter` do to the members and to the keys, and what changes when no
key is repeated.

## Main definitions

* `Document.DistinctKeys`: no key is repeated; the operations on documents keep it
-/

namespace DocQuery.Document

variable {doc : Document} {key : String} {value : Json}

/-! ### Access by key -/

theorem mem_of_get? (found : doc.get? key = some value) : (key, value) ∈ doc := by
  induction doc with
  | nil => simp at found
  | cons member rest ih =>
      obtain ⟨k, v⟩ := member
      rw [get?_cons] at found
      split at found
      · next same => simp [← same, Option.some.inj found]
      · exact List.mem_cons_of_mem _ (ih found)

theorem mem_keys_of_mem (h : (key, value) ∈ doc) : key ∈ doc.keys :=
  List.mem_map_of_mem (f := Prod.fst) h

theorem keys_append (more : Document) : keys (doc ++ more) = doc.keys ++ more.keys :=
  List.map_append

theorem mem_keys_append {more : Document} :
    key ∈ keys (doc ++ more) ↔ key ∈ doc.keys ∨ key ∈ more.keys := by
  rw [keys_append, List.mem_append]

theorem get?_eq_none_iff : doc.get? key = none ↔ key ∉ doc.keys := by
  induction doc with
  | nil => simp [keys]
  | cons member rest ih =>
      obtain ⟨k, v⟩ := member
      rw [get?_cons]
      by_cases same : k = key
      · simp [keys, same]
      · simpa [keys, same, Ne.symm same] using ih

theorem contains_iff : doc.contains key = true ↔ key ∈ doc.keys := by
  rw [contains, Option.isSome_iff_ne_none, Ne, get?_eq_none_iff, not_not]

/-- Of the members that a test on the key keeps, a key reaches what it reached before. -/
theorem get?_filter (keep : String → Bool) :
    get? (doc.filter fun member => keep member.1) key =
      if keep key then doc.get? key else none := by
  induction doc with
  | nil => simp
  | cons member rest ih =>
      obtain ⟨k, v⟩ := member
      by_cases kept : keep k = true <;> by_cases same : k = key <;>
        simp_all [get?_cons]

theorem get?_append (more : Document) :
    get? (doc ++ more) key = (doc.get? key).or (more.get? key) := by
  induction doc with
  | nil => simp
  | cons member rest ih =>
      obtain ⟨k, v⟩ := member
      by_cases same : k = key <;> simp [get?_cons, same, ih]

/-! ### Distinct keys -/

/-- No key is repeated. -/
def DistinctKeys (doc : Document) : Prop := doc.keys.Nodup

instance (doc : Document) : Decidable doc.DistinctKeys :=
  inferInstanceAs (Decidable doc.keys.Nodup)

theorem distinctKeys_nil : DistinctKeys [] := List.nodup_nil

theorem distinctKeys_cons {member : String × Json} :
    DistinctKeys (member :: doc) ↔ member.1 ∉ doc.keys ∧ doc.DistinctKeys := by
  simp [DistinctKeys, keys]

/-- Where no key is repeated, every member is the one that its key reaches. -/
theorem get?_of_mem (distinct : doc.DistinctKeys) (h : (key, value) ∈ doc) :
    doc.get? key = some value := by
  induction doc with
  | nil => simp at h
  | cons member rest ih =>
      obtain ⟨k, v⟩ := member
      obtain ⟨fresh, distinct⟩ := distinctKeys_cons.mp distinct
      rw [get?_cons]
      rcases List.mem_cons.mp h with same | later
      · obtain ⟨rfl, rfl⟩ := Prod.mk.inj same
        rw [if_pos rfl]
      · rw [if_neg, ih distinct later]
        rintro rfl
        exact fresh (mem_keys_of_mem later)

theorem get?_eq_some_iff (distinct : doc.DistinctKeys) :
    doc.get? key = some value ↔ (key, value) ∈ doc :=
  ⟨mem_of_get?, get?_of_mem distinct⟩

theorem DistinctKeys.sublist {sub : Document} (distinct : doc.DistinctKeys)
    (h : sub.Sublist doc) : sub.DistinctKeys :=
  List.Nodup.sublist (h.map Prod.fst) distinct

theorem DistinctKeys.filter (distinct : doc.DistinctKeys) (keep : String × Json → Bool) :
    DistinctKeys (List.filter keep doc) :=
  distinct.sublist List.filter_sublist

/-! ### Writing a key -/

theorem keys_insert : (doc.insert key value).keys =
    if key ∈ doc.keys then doc.keys else doc.keys ++ [key] := by
  induction doc with
  | nil => simp [insert, keys]
  | cons member rest ih =>
      obtain ⟨k, v⟩ := member
      by_cases same : k = key
      · simp [insert, keys, same]
      · have step : keys ((k, v) :: insert rest key value) = k :: (insert rest key value).keys := rfl
        rw [insert, if_neg same, step, ih]
        by_cases present : key ∈ keys rest <;> simp_all [keys, Ne.symm same]

theorem mem_keys_insert {other : String} :
    other ∈ (doc.insert key value).keys ↔ other = key ∨ other ∈ doc.keys := by
  rw [keys_insert]
  split
  · next present =>
      constructor
      · exact Or.inr
      · rintro (rfl | h)
        · exact present
        · exact h
  · simp [or_comm]

theorem insert_ne_nil : doc.insert key value ≠ [] := by
  intro empty
  have found := get?_insert_self doc key value
  rw [empty] at found
  cases found

theorem insert_of_notMem (fresh : key ∉ doc.keys) :
    doc.insert key value = doc ++ [(key, value)] := by
  induction doc with
  | nil => rfl
  | cons member rest ih =>
      obtain ⟨k, v⟩ := member
      simp only [keys, List.map_cons, List.mem_cons, not_or] at fresh
      rw [insert, if_neg (Ne.symm fresh.1), ih fresh.2, List.cons_append]

theorem DistinctKeys.insert (distinct : doc.DistinctKeys) (key : String) (value : Json) :
    (doc.insert key value).DistinctKeys := by
  rw [DistinctKeys, keys_insert]
  split
  · exact distinct
  · next fresh =>
      exact List.nodup_append.mpr ⟨distinct, by simp, by
        rintro a inDoc b inNew rfl
        exact fresh (List.mem_singleton.mp inNew ▸ inDoc)⟩

/-- Writing a key leaves the members of other keys in place. -/
theorem mem_insert_of_ne {member : String × Json} (mem : member ∈ doc) (other : member.1 ≠ key) :
    member ∈ doc.insert key value := by
  induction doc with
  | nil => cases mem
  | cons head rest ih =>
      obtain ⟨k, v⟩ := head
      rw [insert]
      rcases List.mem_cons.mp mem with rfl | later
      · rw [if_neg other]
        exact List.mem_cons_self
      · split
        · exact List.mem_cons_of_mem _ later
        · exact List.mem_cons_of_mem _ (ih later)

/-- After a write every member is the written one or was there before. -/
theorem mem_of_mem_insert {member : String × Json} (mem : member ∈ doc.insert key value) :
    member = (key, value) ∨ member ∈ doc := by
  induction doc with
  | nil => exact .inl (List.mem_singleton.mp mem)
  | cons head rest ih =>
      obtain ⟨k, v⟩ := head
      rw [insert] at mem
      split at mem
      · next same =>
          rw [same] at mem
          exact (List.mem_cons.mp mem).imp_right (List.mem_cons_of_mem _)
      · rcases List.mem_cons.mp mem with rfl | later
        · exact .inr List.mem_cons_self
        · exact (ih later).imp_right (List.mem_cons_of_mem _)

/-- A write to a present key changes the first member of that key and no other. -/
theorem insert_of_get? (found : doc.get? key = some value) :
    ∃ before after, doc = before ++ (key, value) :: after ∧
      ∀ later, doc.insert key later = before ++ (key, later) :: after := by
  induction doc with
  | nil => cases found
  | cons member rest ih =>
      obtain ⟨k, v⟩ := member
      rw [get?_cons] at found
      split at found
      · next same =>
          obtain rfl := Option.some.inj found
          refine ⟨[], rest, by rw [same]; rfl, fun later => ?_⟩
          rw [insert, if_pos same, same]
          rfl
      · next other =>
          obtain ⟨before, after, parts, written⟩ := ih found
          refine ⟨(k, v) :: before, after, by rw [parts]; rfl, fun later => ?_⟩
          rw [insert, if_neg other, written]
          rfl

/-- Of two writes to one key the second counts. -/
theorem insert_insert_self (later : Json) :
    (doc.insert key value).insert key later = doc.insert key later := by
  induction doc with
  | nil => simp [insert]
  | cons head rest ih =>
      obtain ⟨k, v⟩ := head
      by_cases same : k = key
      · simp [insert, same]
      · simp [insert, same, ih]

/-! ### Building a document from members -/

theorem distinctKeys_ofMembers (members : List (String × Json)) :
    (ofMembers members).DistinctKeys := by
  suffices general : ∀ start : Document, start.DistinctKeys →
      (members.foldl (fun doc member => doc.insert member.1 member.2) start).DistinctKeys from
    general [] distinctKeys_nil
  induction members with
  | nil => exact fun _ distinct => distinct
  | cons member rest ih => exact fun start distinct => ih _ (distinct.insert _ _)

/-- Members without a repeated key are the document that they build. -/
theorem ofMembers_of_distinct {members : List (String × Json)} (distinct : DistinctKeys members) :
    ofMembers members = members := by
  suffices general : ∀ start : Document, DistinctKeys (start ++ members) →
      members.foldl (fun doc member => doc.insert member.1 member.2) start = start ++ members from
    general [] distinct
  clear distinct
  induction members with
  | nil => simp
  | cons member rest ih =>
      intro start distinct
      have fresh : member.1 ∉ keys start := by
        intro present
        simp only [DistinctKeys, keys, List.map_append, List.map_cons, List.nodup_append] at distinct
        exact distinct.2.2 _ present _ List.mem_cons_self rfl
      rw [List.foldl_cons, insert_of_notMem fresh, ih _ (by simpa using distinct)]
      simp

end DocQuery.Document
