import DocQuery.Proofs.Document.Exclusion

/-!
# Reading a path

A path is written in one way and read in two.  Sorting, projection and population descend through
objects (`Document.getPath?`); filters also go through arrays (`Document.lookup`).

For the first reading a path is a lens: what is written is read back, the last of two writes counts,
writing what stands there changes nothing, and a path that lies apart from the written one reads as
before, even where an array or a scalar has given way to an object.

The second reading sees what the first one sees.  It reaches more, or anything at all where the first
one finds nothing, only below an array: both take the same step from any other value
(`Document.childrenAt_of_noArray`), so the place where they part holds an array.

## Main definitions

* `Document.setPath_lens`: the laws of reading and writing
* `Document.exists_array_of_spread`: where the two readings part
* `Document.lookup_agrees_getPath?`
-/

namespace DocQuery

/-! ### Reading after a write -/

/-- **A path is a lens.**  What is written at a path is read there; of two writes at one path the
second counts; writing what stands at a path changes nothing, not even the order of keys; and where
neither of two paths leads through the other, a write at one leaves alone what the other reads,
whatever gives way to the write. -/
theorem Document.setPath_lens (doc : Document) (p q : String) (v w : Json) :
    (doc.setPath p v).getPath? p = some v ∧
    (doc.setPath p v).setPath p w = doc.setPath p w ∧
    (doc.getPath? p = some v → doc.setPath p v = doc) ∧
    (Path.Apart p q → (doc.setPath p v).getPath? q = doc.getPath? q) := by
  refine ⟨descend?_write_self (Path.segments_ne_nil p), setPath_setPath, setPath_own, ?_⟩
  intro apart
  obtain ⟨notBelow, notAbove⟩ := Path.apart_iff.mp apart
  exact descend?_write_of_apart notBelow notAbove

/-- Writing the rank that is there gives back the record, and an empty segment is a key like any
other; the array of tags gives way to an object, and the rank beside it stays. -/
theorem Document.setPath_lens_meta :
    let doc : Document := [("meta", .object [("tags", .array [.string "a"]),
      ("rank", .number (.ofNat 3)), ("", .null)]), ("name", .string "Ada")]
    doc.getPath? "meta.rank" = some (.number (.ofNat 3)) ∧
      doc.setPath "meta.rank" (.number (.ofNat 3)) = doc ∧
      doc.getPath? "meta." = some .null ∧ doc.setPath "meta." .null = doc ∧
      Path.Apart "meta.tags.x." "meta.rank" ∧
      (doc.setPath "meta.tags.x." .null).getPath? "meta.rank" = some (.number (.ofNat 3)) := by
  intro doc
  have rank : doc.getPath? "meta.rank" = some (.number (.ofNat 3)) := rfl
  have empty : doc.getPath? "meta." = some .null := rfl
  have apart : Path.Apart "meta.tags.x." "meta.rank" := by decide
  obtain ⟨-, -, ownRank, -⟩ := setPath_lens doc "meta.rank" "" (.number (.ofNat 3)) .null
  obtain ⟨-, -, ownEmpty, -⟩ := setPath_lens doc "meta." "" .null .null
  obtain ⟨-, -, -, elsewhere⟩ := setPath_lens doc "meta.tags.x." "meta.rank" .null .null
  exact ⟨rank, ownRank rank, empty, ownEmpty empty, apart, (elsewhere apart).trans rank⟩

/-! ### One step of either reading -/

variable {doc : Document} {v : Json} {s : String} {path rest : List String}

theorem Json.below?_singleton (v : Json) (s : String) : v.below? [s] = v.member? s := rfl

theorem Json.below?_cons (more : rest ≠ []) :
    v.below? (s :: rest) = (v.member? s).bind fun w => w.below? rest := by
  rw [below?, member?, Option.bind_assoc]
  exact Option.bind_congr fun doc _ => Document.descend?_cons more

namespace Document

/-- Spreading from a record begins at the record itself. -/
theorem lookup_eq_spread (doc : Document) (path : String) :
    doc.lookup path = spread [.object doc] (Path.segments path) := by
  rw [lookup_eq_reached, Path.segments_eq_cons, reached, spread, List.flatMap_singleton]
  rfl

/-- From a value that is no array there is one way on, by the member of that name. -/
theorem childrenAt_of_noArray (noArray : ∀ items, v ≠ .array items) :
    childrenAt s v = (v.member? s).toList := by
  cases v with
  | array items => exact absurd rfl (noArray items)
  | object members => rfl
  | _ => rfl

/-! ### Where the readings part -/

/-- Where spreading reaches a value and descending does not, there is an array on the way. -/
theorem exists_array_of_spread (reached : spread [v] path ≠ []) (missing : v.below? path = none)
    (noArray : ∀ items, v ≠ .array items) (more : path ≠ []) :
    ∃ above rest items, above ++ rest = path ∧ above ≠ [] ∧ rest ≠ [] ∧
      v.below? above = some (.array items) := by
  induction path generalizing v with
  | nil => exact absurd rfl more
  | cons s rest ih =>
      rw [spread, List.flatMap_singleton, childrenAt_of_noArray noArray] at reached
      cases member : v.member? s with
      | none =>
          rw [member] at reached
          exact absurd (spread_eq_flatMap [] rest) reached
      | some w =>
          rw [member, Option.toList_some] at reached
          have goesOn : rest ≠ [] := by
            rintro rfl
            rw [Json.below?_singleton, member] at missing
            cases missing
          rw [Json.below?_cons goesOn, member, Option.bind_some] at missing
          by_cases isArray : ∃ items, w = .array items
          · obtain ⟨items, rfl⟩ := isArray
            exact ⟨[s], rest, items, rfl, List.cons_ne_nil _ _, goesOn, member⟩
          · -- both readings go on from the member alone
            obtain ⟨above, below, items, rfl, some, others, found⟩ :=
              ih reached missing (fun items same => isArray ⟨items, same⟩) goesOn
            refine ⟨s :: above, below, items, rfl, List.cons_ne_nil _ _, others, ?_⟩
            rw [Json.below?_cons some, member]
            exact found

/-- **Filters see what sorting sees, and more of it only below arrays.**  A value that is read at a
path is the only one that a filter sees there; and where a filter sees something at a path that reads
as nothing, an array is read somewhere above it. -/
theorem lookup_agrees_getPath? (doc : Document) (path : String) :
    (∀ value, doc.getPath? path = some value → doc.lookup path = [value]) ∧
    (doc.lookup path ≠ [] → doc.getPath? path = none →
      ∃ above items, Path.covers above path = true ∧ above ≠ path ∧
        doc.getPath? above = some (.array items)) := by
  refine ⟨fun value found => lookup_of_getPath? found, fun reached missing => ?_⟩
  rw [lookup_eq_spread] at reached
  have record : ∀ items, Json.object doc ≠ .array items := fun _ => nofun
  obtain ⟨front, rest, items, split, some, more, found⟩ :=
    exists_array_of_spread reached missing record (Path.segments_ne_nil path)
  have place : Path.segments (Text.join (.singleton '.') front) = front :=
    Path.segments_join some ⟨rest, split⟩
  refine ⟨Text.join (.singleton '.') front, items, ?_, ?_, ?_⟩
  · rw [Path.covers_iff, place]
    exact ⟨rest, split⟩
  · intro same
    rw [same] at place
    rw [place] at split
    exact more (List.append_right_eq_self.mp split)
  · rw [getPath?, place]
    exact found

/-- The owner of an order is seen by both readings; its units are below an array, so that only a
filter sees them. -/
theorem lookup_agrees_getPath?_order :
    let doc : Document := [("meta", .object [("owner", .string "u1")]),
      ("lines", .object [("items", .array [.object [("sku", .string "a")],
        .object [("sku", .string "b")]])])]
    doc.getPath? "meta.owner" = some (.string "u1") ∧
      doc.lookup "meta.owner" = [.string "u1"] ∧
      doc.lookup "lines.items.sku" ≠ [] ∧ doc.getPath? "lines.items.sku" = none ∧
      ∃ above items, Path.covers above "lines.items.sku" = true ∧ above ≠ "lines.items.sku" ∧
        doc.getPath? above = some (.array items) := by
  intro doc
  have owner : doc.getPath? "meta.owner" = some (.string "u1") := rfl
  have reached : doc.lookup "lines.items.sku" ≠ [] := nofun
  have missing : doc.getPath? "lines.items.sku" = none := rfl
  obtain ⟨alone, -⟩ := lookup_agrees_getPath? doc "meta.owner"
  obtain ⟨-, above⟩ := lookup_agrees_getPath? doc "lines.items.sku"
  exact ⟨owner, alone _ owner, reached, missing, above reached missing⟩

end Document

end DocQuery
