import DocQuery.Proofs.Query.Interleaving

/-!
# The window of a page

A page is asked for by its number or by an offset, and the service computes its window with numbers
of 64 bits.  `Page.resolve?` is that computation with every step that such numbers can fail at: a
division by zero, a difference below zero, a sum past the greatest count.  One request makes it
fail, the offset at the greatest count in pages of one record, whose page would have the number
`2 ^ 64`.  For all others it finds the window of `Page.ofRequest`, and what holds of that window over
the natural numbers holds of the computed one (`page_resolution_sound`).

What a response says about its neighbours is read off the number of its page.  This is the truth
about the page that the window starts on, and so about the window if it starts where its page does.
An offset inside a page is reported with the flags of that page (`page_flags`).

## Main definitions

* `Count.add?`, `Count.sub?`, `Count.div?`, `Count.mulBounded`: operations on numbers of 64 bits
* `Page.resolve?`: the window of a request, computed with them
* `Page.resolve?_eq`, `page_resolution_sound`
* `page_flags`
-/

namespace DocQuery

/-! ### Numbers of 64 bits -/

namespace Count

/-- The sum, unless it exceeds the greatest count. -/
def add? (a b : Nat) : Option Nat := if a + b ≤ countLimit then some (a + b) else none

/-- The difference, unless it is below zero. -/
def sub? (a b : Nat) : Option Nat := if b ≤ a then some (a - b) else none

/-- The quotient, unless the divisor is zero. -/
def div? (a b : Nat) : Option Nat := if b = 0 then none else some (a / b)

/-- The product, or the greatest count if that is less. -/
def mulBounded (a b : Nat) : Nat := min (a * b) countLimit

end Count

/-- The numbers of a request have 64 bits. -/
structure PageRequest.IsCounted (wanted : PageRequest) : Prop where
  page : ∀ n ∈ wanted.page, n ≤ countLimit
  limit : ∀ n ∈ wanted.limit, n ≤ countLimit
  offset : ∀ n ∈ wanted.offset, n ≤ countLimit

/-- The bounds of a service have 64 bits. -/
structure PageSettings.IsCounted (settings : PageSettings) : Prop where
  defaultLimit : settings.defaultLimit ≤ countLimit
  maxLimit : settings.maxLimit ≤ countLimit

/-- The numbers of a window have 64 bits. -/
structure Page.IsCounted (window : Page) : Prop where
  page : window.page ≤ countLimit
  limit : window.limit ≤ countLimit
  skip : window.skip ≤ countLimit

namespace Page

variable {wanted : PageRequest} {settings : PageSettings} {window : Page}

/-- The number of the page and the skip that a request for pages of a size comes to. -/
def place? (wanted : PageRequest) (limit : Nat) : Option (Nat × Nat) :=
  match wanted.offset with
  | some offset => do
    let before ← Count.div? offset limit
    let page ← Count.add? before 1
    some (page, offset)
  | none => do
    let page := max 1 (wanted.page.getD 1)
    let before ← Count.sub? page 1
    some (page, Count.mulBounded before limit)

/-- The window of a request, computed with numbers of 64 bits.  The size of a page is found by
comparisons alone. -/
def resolve? (wanted : PageRequest) (settings : PageSettings) : Option Page :=
  let limit := limitOf wanted settings
  (place? wanted limit).map fun (page, skip) =>
    { page, limit, skip, offset := wanted.offset, cursor := wanted.cursor }

/-! ### Resolving a request -/

theorem limitOf_le : limitOf wanted settings ≤ max 1 settings.maxLimit := by
  rw [limitOf]
  exact Nat.min_le_right _ _

/-- Only the greatest offset has no page after it, and only if every record is a page. -/
theorem succ_div_le_iff {offset limit : Nat} (counted : offset ≤ countLimit) (positive : 1 ≤ limit) :
    offset / limit + 1 ≤ countLimit ↔ ¬(offset = countLimit ∧ limit = 1) := by
  have one : 1 < countLimit := by decide
  constructor
  · rintro fits ⟨rfl, rfl⟩
    rw [Nat.div_one] at fits
    omega
  · intro regular
    by_cases single : limit = 1
    · subst single
      have less : offset ≠ countLimit := fun last => regular ⟨last, rfl⟩
      rw [Nat.div_one]
      omega
    · have half : offset / limit ≤ offset / 2 := Nat.div_le_div_left (by omega) (by decide)
      omega

theorem place?_of_offset {offset limit : Nat} (asked : wanted.offset = some offset)
    (positive : limit ≠ 0) : place? wanted limit =
      if offset / limit + 1 ≤ countLimit then some (offset / limit + 1, offset) else none := by
  simp only [place?, asked, Count.div?, if_neg positive, Option.bind_eq_bind, Option.bind_some,
    Count.add?]
  split <;> rfl

theorem place?_of_page {limit : Nat} (asked : wanted.offset = none) : place? wanted limit =
    some (max 1 (wanted.page.getD 1),
      min ((max 1 (wanted.page.getD 1) - 1) * limit) countLimit) := by
  have first : 1 ≤ max 1 (wanted.page.getD 1) := Nat.le_max_left _ _
  simp only [place?, asked, Count.sub?, if_pos first, Option.bind_eq_bind, Option.bind_some,
    Count.mulBounded]

/-- The computation with 64 bits finds the window of the natural numbers, or the page of an offset
has no number. -/
theorem resolve?_eq (wanted : PageRequest) (settings : PageSettings) :
    resolve? wanted settings =
      if ∀ offset ∈ wanted.offset, offset / limitOf wanted settings + 1 ≤ countLimit
      then some (ofRequest wanted settings) else none := by
  have positive : limitOf wanted settings ≠ 0 := Nat.one_le_iff_ne_zero.mp one_le_limitOf
  cases asked : wanted.offset with
  | some offset =>
      rw [resolve?, place?_of_offset asked positive]
      simp only [Option.mem_some_iff, forall_eq']
      split
      · simp only [ofRequest, asked, Option.map_some]
      · rfl
  | none =>
      rw [resolve?, place?_of_page asked, if_pos (by simp)]
      simp only [ofRequest, asked, Option.map_some]

theorem eq_ofRequest_of_resolve? (found : resolve? wanted settings = some window) :
    window = ofRequest wanted settings := by
  rw [resolve?_eq] at found
  split at found
  · exact (Option.some.inj found).symm
  · cases found

/-- Of requests with 64 bits, only one for the greatest offset in pages of one record has no window. -/
theorem resolve?_eq_some_iff (counted : wanted.IsCounted) :
    resolve? wanted settings = some (ofRequest wanted settings) ↔
      ¬(wanted.offset = some countLimit ∧ limitOf wanted settings = 1) := by
  rw [resolve?_eq, Option.ite_none_right_eq_some, and_iff_left rfl]
  cases asked : wanted.offset with
  | none => simp
  | some offset =>
      have positive : 1 ≤ limitOf wanted settings := one_le_limitOf
      simpa using succ_div_le_iff (counted.offset offset asked) positive

/-- What a request comes to: an offset is the skip and decides the page, or the page decides the
skip, which stops at the greatest count. -/
theorem resolve?_cases (found : resolve? wanted settings = some window) :
    window.limit = limitOf wanted settings ∧
      ((∃ offset, wanted.offset = some offset ∧ window.skip = offset ∧
          window.page = offset / window.limit + 1) ∨
        (wanted.offset = none ∧ window.page = max 1 (wanted.page.getD 1) ∧
          window.skip = min ((window.page - 1) * window.limit) countLimit)) := by
  obtain rfl := eq_ofRequest_of_resolve? found
  unfold ofRequest
  cases wanted.offset with
  | some offset => exact ⟨rfl, .inl ⟨offset, rfl, rfl, rfl⟩⟩
  | none => exact ⟨rfl, .inr ⟨rfl, rfl, rfl⟩⟩

/-! ### Where a window lies -/

/-- An offset lies on the page that it is divided into. -/
theorem offset_on_page {offset limit : Nat} (positive : 1 ≤ limit) :
    (offset / limit + 1 - 1) * limit ≤ offset ∧ offset < (offset / limit + 1) * limit := by
  rw [Nat.add_sub_cancel, Nat.mul_comm (offset / limit + 1)]
  exact ⟨Nat.div_mul_le_self offset limit, Nat.lt_mul_div_succ offset positive⟩

/-- A window starts on the page that it reports, unless its skip has stopped before that page. -/
theorem skip_on_page (found : resolve? wanted settings = some window)
    (reached : (window.page - 1) * window.limit ≤ countLimit) :
    (window.page - 1) * window.limit ≤ window.skip ∧ window.skip < window.page * window.limit := by
  obtain ⟨size, offset_or_page⟩ := resolve?_cases found
  have positive : 1 ≤ window.limit := size ▸ one_le_limitOf
  rcases offset_or_page with ⟨offset, -, skip, page⟩ | ⟨-, page, skip⟩
  · rw [skip, page]
    exact offset_on_page positive
  · rw [skip, Nat.min_eq_left reached]
    refine ⟨le_rfl, Nat.mul_lt_mul_of_pos_right ?_ positive⟩
    omega

/-- Without an offset a window starts where its page does. -/
theorem limit_dvd_skip (found : resolve? wanted settings = some window)
    (reached : (window.page - 1) * window.limit ≤ countLimit) (noOffset : wanted.offset = none) :
    window.limit ∣ window.skip := by
  rcases (resolve?_cases found).2 with ⟨offset, asked, -⟩ | ⟨-, -, skip⟩
  · rw [noOffset] at asked
    cases asked
  · rw [skip, Nat.min_eq_left reached]
    exact Nat.dvd_mul_left _ _

/-- The numbers of a window have 64 bits if those of its request have. -/
theorem isCounted_of_resolve? (counted : wanted.IsCounted) (bounds : settings.IsCounted)
    (found : resolve? wanted settings = some window) : window.IsCounted := by
  obtain ⟨size, offset_or_page⟩ := resolve?_cases found
  have one : 1 ≤ countLimit := by decide
  have limit : window.limit ≤ countLimit := by
    have bounded : limitOf wanted settings ≤ max 1 settings.maxLimit := limitOf_le
    have most := bounds.maxLimit
    omega
  rcases offset_or_page with ⟨offset, asked, skip, page⟩ | ⟨noOffset, page, skip⟩
  · refine ⟨?_, limit, skip ▸ counted.offset offset asked⟩
    -- a page that the computation has found is one that its sum has not exceeded
    have positive : limitOf wanted settings ≠ 0 := Nat.one_le_iff_ne_zero.mp one_le_limitOf
    rw [resolve?, place?_of_offset asked positive, ← size] at found
    rw [page]
    by_contra tooFar
    rw [if_neg tooFar] at found
    cases found
  · refine ⟨?_, limit, skip ▸ Nat.min_le_right _ _⟩
    rw [page]
    cases asked : wanted.page with
    | none => exact one
    | some n => exact Nat.max_le.mpr ⟨one, counted.page n asked⟩

end Page

/-- **Resolving a page is sound up to the ends of 64 bits.**  Of all requests and bounds with 64
bits, only the greatest offset in pages of one record has no window.  For every other the computation
with 64 bits succeeds with the window of the natural numbers. -/
theorem page_resolution_sound {wanted : PageRequest} {settings : PageSettings}
    (counted : wanted.IsCounted) (bounds : settings.IsCounted)
    (regular : ¬(wanted.offset = some countLimit ∧ Page.limitOf wanted settings = 1)) :
    ∃ window, Page.resolve? wanted settings = some window ∧
      window = Page.ofRequest wanted settings ∧ window.IsCounted ∧
      1 ≤ window.limit ∧ window.limit ≤ max 1 settings.maxLimit ∧ 1 ≤ window.page ∧
      (∀ offset, wanted.offset = some offset → window.skip = offset ∧
        (window.page - 1) * window.limit ≤ offset ∧ offset < window.page * window.limit) ∧
      (wanted.offset = none → window.page = max 1 (wanted.page.getD 1) ∧
        window.skip = min ((window.page - 1) * window.limit) countLimit) := by
  obtain ⟨window, found, rfl⟩ : ∃ window, Page.resolve? wanted settings = some window ∧
      window = Page.ofRequest wanted settings :=
    ⟨_, (Page.resolve?_eq_some_iff counted).mpr regular, rfl⟩
  obtain ⟨size, offset_or_page⟩ := Page.resolve?_cases found
  have positive : 1 ≤ (Page.ofRequest wanted settings).limit := Page.one_le_limit
  refine ⟨_, found, rfl, Page.isCounted_of_resolve? counted bounds found, positive,
    size ▸ Page.limitOf_le, ?_⟩
  rcases offset_or_page with ⟨offset, asked, skip, page⟩ | ⟨noOffset, page, skip⟩
  · refine ⟨page ▸ Nat.le_add_left 1 _, fun other same => ?_, fun noOffset => ?_⟩
    · obtain rfl : offset = other := Option.some.inj (asked.symm.trans same)
      rw [page]
      exact ⟨skip, Page.offset_on_page positive⟩
    · rw [noOffset] at asked
      cases asked
  · refine ⟨page ▸ Nat.le_max_left 1 _, fun offset asked => ?_, fun _ => ⟨page, skip⟩⟩
    rw [noOffset] at asked
    cases asked

/-- The greatest offset in pages of two records: a size of zero takes the default, and the page is the
last one that has a number. -/
theorem page_resolution_sound_greatest :
    let wanted : PageRequest := ⟨none, some 0, some countLimit, none⟩
    let settings : PageSettings := ⟨2, 100⟩
    wanted.IsCounted ∧ settings.IsCounted ∧
      ¬(wanted.offset = some countLimit ∧ Page.limitOf wanted settings = 1) ∧
      ∃ window, Page.resolve? wanted settings = some window ∧ window.skip = countLimit ∧
        (window.page - 1) * window.limit ≤ countLimit ∧ countLimit < window.page * window.limit := by
  intro wanted settings
  have counted : wanted.IsCounted := ⟨by simp [wanted], by simp [wanted], by simp [wanted]⟩
  have bounds : settings.IsCounted := ⟨by decide, by decide⟩
  have regular : ¬(wanted.offset = some countLimit ∧ Page.limitOf wanted settings = 1) := by decide
  obtain ⟨window, found, -, -, -, -, -, ofOffset, -⟩ := page_resolution_sound counted bounds regular
  exact ⟨counted, bounds, regular, window, found, ofOffset countLimit rfl⟩

/-- In pages of one record the greatest offset has a page without a number. -/
example : Page.resolve? ⟨none, some 1, some countLimit, none⟩ .standard = none := by decide

/-! ### What a page says about its neighbours -/

section Flags

variable {service : Service} {store : RecordStore} {ref : CollectionRef} {request : Request}
  {wanted : PageRequest} {window : Page} {response : Response}

theorem PageSummary.hasPrevious_iff {s : PageSummary} :
    s.hasPrevious = true ↔ 1 < s.currentPage := by
  rw [hasPrevious, decide_eq_true_eq]

/-- A page that holds a place has a page before it exactly if the place is at least a page away from
the start. -/
theorem one_lt_page_iff {page limit skip : Nat} (starts : (page - 1) * limit ≤ skip)
    (ends : skip < page * limit) : 1 < page ↔ limit ≤ skip := by
  constructor
  · intro later
    calc limit = 1 * limit := (Nat.one_mul limit).symm
      _ ≤ (page - 1) * limit := Nat.mul_le_mul_right limit (by omega)
      _ ≤ skip := starts
  · intro away
    by_contra first
    have within : page * limit ≤ 1 * limit := Nat.mul_le_mul_right limit (by omega)
    omega

/-- Where the size of a page divides the skip, the window is the page. -/
theorem page_mul_limit_of_dvd {page limit skip : Nat} (starts : (page - 1) * limit ≤ skip)
    (ends : skip < page * limit) (aligned : limit ∣ skip) : page * limit = skip + limit := by
  obtain ⟨before, rfl⟩ := aligned
  rw [Nat.mul_comm limit before] at starts ends ⊢
  have below : before < page := Nat.lt_of_mul_lt_mul_right ends
  have positive : 0 < limit := by
    by_contra none
    simp [Nat.eq_zero_of_not_pos none] at ends
  have above : page - 1 ≤ before := Nat.le_of_mul_le_mul_right starts positive
  obtain rfl : page = before + 1 := by omega
  exact Nat.succ_mul before limit

/-- A response to a request for a page names the page and its size. -/
theorem Service.summary_of_execute [PatternReader] (paged : request.pagination = some wanted)
    (answered : service.execute store ref request = .ok response) :
    response.summary.currentPage = (Page.ofRequest wanted service.settings).page ∧
      response.summary.pageSize = (Page.ofRequest wanted service.settings).limit := by
  obtain ⟨plan, planned, ran⟩ := Except.bind_eq_ok_iff.mp answered
  obtain ⟨c, -, rest⟩ := Except.bind_eq_ok_iff.mp planned
  obtain rfl := Except.ok.inj rest
  exact (Plan.found_and_counted (Service.pagination_planOf (c := c) paged) ran).2.2

/-- **The flags of a page tell the truth about the page.**  A response says that a page follows
exactly if there are records after the reported page, and that a page precedes exactly if the window
starts at least a page away from the start.  Where the window starts with its page, as it does
without an offset, that is whether there are records after the window and before it. -/
theorem page_flags [PatternReader] (found : Page.resolve? wanted service.settings = some window)
    (reached : (window.page - 1) * window.limit ≤ countLimit)
    (paged : request.pagination = some wanted)
    (answered : service.execute store ref request = .ok response) :
    (window.page - 1) * window.limit ≤ window.skip ∧ window.skip < window.page * window.limit ∧
      (response.summary.hasNext = true ↔
        window.page * window.limit < response.summary.totalCount) ∧
      (response.summary.hasPrevious = true ↔ window.limit ≤ window.skip) ∧
      (window.limit ∣ window.skip →
        (response.summary.hasNext = true ↔
          window.skip + window.limit < response.summary.totalCount) ∧
        (response.summary.hasPrevious = true ↔ 0 < window.skip)) ∧
      (wanted.offset = none → window.limit ∣ window.skip) := by
  obtain ⟨starts, ends⟩ := Page.skip_on_page found reached
  have positive : 1 ≤ window.limit := (Page.resolve?_cases found).1 ▸ Page.one_le_limitOf
  obtain ⟨page, size⟩ := Service.summary_of_execute paged answered
  rw [← Page.eq_ofRequest_of_resolve? found] at page size
  have next : response.summary.hasNext = true ↔
      window.page * window.limit < response.summary.totalCount := by
    rw [PageSummary.hasNext_iff (size ▸ positive), page, size]
  have previous : response.summary.hasPrevious = true ↔ window.limit ≤ window.skip := by
    rw [PageSummary.hasPrevious_iff, page]
    exact one_lt_page_iff starts ends
  refine ⟨starts, ends, next, previous, fun aligned => ⟨?_, ?_⟩, Page.limit_dvd_skip found reached⟩
  · rw [next, page_mul_limit_of_dvd starts ends aligned]
  · rw [previous]
    exact ⟨fun away => by omega, fun some => Nat.le_of_dvd some aligned⟩

end Flags

/-- Three records on pages of two, from the offset two on: the window is the second page. -/
theorem page_flags_measured :
    let store : MemoryStore := ⟨[("log", [measured "a" 3, measured "b" 9, measured "c" 1])], 0⟩
    let wanted : PageRequest := ⟨none, some 2, some 2, none⟩
    let request : Request := { Request.empty with pagination := some wanted }
    ∃ response window, Page.resolve? wanted Service.bare.settings = some window ∧
      (window.page - 1) * window.limit ≤ countLimit ∧
      Service.bare.execute store.records (.definition (.named "log")) request = .ok response ∧
      (response.summary.hasNext = true ↔
        window.page * window.limit < response.summary.totalCount) ∧
      (response.summary.hasPrevious = true ↔ 0 < window.skip) := by
  intro store wanted request
  obtain ⟨response, answered⟩ := Except.exists_eq_ok_of_isOk
    (x := Service.bare.execute store.records (.definition (.named "log")) request)
    (by decide +kernel)
  have found : Page.resolve? wanted Service.bare.settings = some ⟨2, 2, 2, some 2, none⟩ := by decide
  have flags := page_flags found (by decide) rfl answered
  exact ⟨response, _, found, by decide, answered, flags.2.2.1, (flags.2.2.2.2.1 (by decide)).2⟩

/-- Three records on pages of two, from the offset one on: the window ends with the last record and
begins behind the first one, but it lies on the first page, which says that a page follows and that
none precedes. -/
theorem offset_inside_page_has_flags_of_page :
    let store : MemoryStore := ⟨[("log", [measured "a" 3, measured "b" 9, measured "c" 1])], 0⟩
    let wanted : PageRequest := ⟨none, some 2, some 1, none⟩
    let request : Request := { Request.empty with pagination := some wanted }
    ∃ response window, Page.resolve? wanted Service.bare.settings = some window ∧
      (window.page - 1) * window.limit ≤ countLimit ∧
      Service.bare.execute store.records (.definition (.named "log")) request = .ok response ∧
      window.skip < response.summary.totalCount ∧
      ¬(response.summary.hasNext = true ↔
        window.skip + window.limit < response.summary.totalCount) ∧
      ¬(response.summary.hasPrevious = true ↔ 0 < window.skip) := by
  intro store wanted request
  obtain ⟨response, answered⟩ := Except.exists_eq_ok_of_isOk
    (x := Service.bare.execute store.records (.definition (.named "log")) request)
    (by decide +kernel)
  have found : Page.resolve? wanted Service.bare.settings = some ⟨1, 2, 1, some 1, none⟩ := by decide
  have summary : (Service.bare.execute store.records (.definition (.named "log"))
      request).toOption.map (·.summary) = some ⟨3, 1, 2⟩ := by decide +kernel
  rw [answered] at summary
  have numbers : response.summary = ⟨3, 1, 2⟩ := Option.some.inj summary
  refine ⟨response, _, found, by decide, answered, ?_⟩
  rw [numbers]
  decide

end DocQuery
