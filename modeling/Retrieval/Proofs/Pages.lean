import Mathlib.Logic.ExistsUnique
import Retrieval.Proofs.Toggles

namespace Retrieval

/-!
# Pages of results

A page of results begins where the pages before it end, and the place where it
begins is counted without wrapping around: past the greatest number it stays
there.  Below the greatest number every place in the results is on exactly one
page, so that going from page to page passes over nothing and shows nothing
twice.
-/

/-- A place in the results, counted from zero, is inside the window of a request. -/
def SearchRequest.Shows (request : SearchRequest) (place : Nat) : Prop :=
  ∃ size start,
    request.size = some size ∧
      request.start = some start ∧
      start.toNat ≤ place ∧
      place < start.toNat + size.toNat

/-- A page begins after the pages before it, or at the greatest number. -/
theorem toNat_pageStart (page size : UInt64) :
    (pageStart page size).toNat =
      min ((max page.toNat 1 - 1) * size.toNat) (UInt64.size - 1) := by
  have counted : max page.toNat 1 - 1 = page.toNat - 1 := by
    omega
  have writable :
      min ((page.toNat - 1) * size.toNat) (UInt64.size - 1) < UInt64.size := by
    have positive : 0 < UInt64.size := by
      decide
    omega
  rw [counted, pageStart]
  exact UInt64.toNat_ofNat_of_lt' writable

/-- A later page does not begin earlier. -/
theorem pageStart_le_pageStart
    {page later : UInt64}
    (follows : page ≤ later)
    (size : UInt64) :
    pageStart page size ≤ pageStart later size := by
  rw [UInt64.le_iff_toNat_le, toNat_pageStart, toNat_pageStart]
  have before : max page.toNat 1 - 1 ≤ max later.toNat 1 - 1 := by
    have counted := UInt64.le_iff_toNat_le.mp follows
    omega
  have passed := Nat.mul_le_mul_right size.toNat before
  omega

/-- Page zero is the first page. -/
theorem pageStart_zero (size : UInt64) :
    pageStart 0 size = pageStart 1 size := by
  rw [← UInt64.toNat_inj, toNat_pageStart, toNat_pageStart]
  rfl

/-- A place is on the page whose number is found by dividing. -/
theorem on_page_iff
    {page size : UInt64}
    {place : Nat}
    (counted : 1 ≤ page)
    (sized : size ≠ 0)
    (writable : place < UInt64.size - 1) :
    (pageStart page size).toNat ≤ place ∧ place < (pageStart page size).toNat + size.toNat ↔
      page.toNat = place / size.toNat + 1 := by
  have first : 1 ≤ page.toNat :=
    UInt64.le_iff_toNat_le.mp counted
  have positive : 0 < size.toNat :=
    Nat.pos_of_ne_zero fun none => sized (UInt64.toNat_inj.mp none)
  obtain ⟨before, isBefore⟩ : ∃ before, page.toNat = before + 1 :=
    ⟨page.toNat - 1, by omega⟩
  have passed : max page.toNat 1 - 1 = before := by
    omega
  rw [toNat_pageStart, passed, isBefore, Nat.add_right_cancel_iff]
  constructor
  · rintro ⟨reached, notPassed⟩
    -- The page does not begin at the greatest number, which is past the place.
    have exact : min (before * size.toNat) (UInt64.size - 1) = before * size.toNat := by
      omega
    rw [exact] at reached notPassed
    refine (Nat.div_eq_of_lt_le reached ?_).symm
    rwa [Nat.succ_mul]
  · rintro rfl
    have reached := Nat.div_mul_le_self place size.toNat
    have notPassed := Nat.lt_div_mul_add positive (a := place)
    omega

/-- Every place below the greatest number is on exactly one page. -/
theorem exists_unique_page
    {size : UInt64}
    {place : Nat}
    (sized : size ≠ 0)
    (writable : place < UInt64.size - 1) :
    ∃! page : UInt64,
      1 ≤ page ∧
        (pageStart page size).toNat ≤ place ∧
        place < (pageStart page size).toNat + size.toNat := by
  have divided : place / size.toNat ≤ place :=
    Nat.div_le_self place size.toNat
  let page := UInt64.ofNat (place / size.toNat + 1)
  have number : page.toNat = place / size.toNat + 1 :=
    UInt64.toNat_ofNat_of_lt' (by omega)
  have counted : 1 ≤ page := by
    rw [UInt64.le_iff_toNat_le, number]
    exact Nat.le_add_left 1 _
  refine ⟨page, ⟨counted, (on_page_iff counted sized writable).mpr number⟩, ?_⟩
  rintro other ⟨otherCounted, shows⟩
  rw [← UInt64.toNat_inj, number]
  exact (on_page_iff otherCounted sized writable).mp shows

namespace Draft

variable {Strategy : Type} [QueryStrategy Strategy]
variable (draft : Draft Strategy) (settings : CompileSettings)

/-- The request for a page of a known size begins where the page does. -/
theorem compile_page
    {limit : Option UInt64}
    {size : UInt64}
    (known : limit.or draft.limit = some size)
    (page : UInt64) :
    let compiled := draft.compile { limit := limit, page := some page } settings
    compiled.size = some size ∧ compiled.start = some (pageStart page size) := by
  simp [compile, windowSize, windowStart, known]

/-- A place is on a page of a known size if it is inside the window of its request. -/
theorem shows_page_iff
    {limit : Option UInt64}
    {size : UInt64}
    (known : limit.or draft.limit = some size)
    (page : UInt64)
    (place : Nat) :
    (draft.compile { limit := limit, page := some page } settings).Shows place ↔
      (pageStart page size).toNat ≤ place ∧
        place < (pageStart page size).toNat + size.toNat := by
  obtain ⟨hasSize, hasStart⟩ := draft.compile_page settings known page
  simp [SearchRequest.Shows, hasSize, hasStart]

theorem exists_unique_page_showing
    {limit : Option UInt64}
    {size : UInt64}
    (known : limit.or draft.limit = some size)
    (sized : size ≠ 0)
    {place : Nat}
    (writable : place < UInt64.size - 1) :
    ∃! page : UInt64,
      1 ≤ page ∧
        (draft.compile { limit := limit, page := some page } settings).Shows place := by
  simp only [draft.shows_page_iff settings known]
  exact exists_unique_page sized writable

/-- The start of a window with a page is none without a size, and is counted from the page. -/
theorem start_of_page
    {options : SearchOptions}
    {page : UInt64}
    (paged : options.page = some page) :
    let compiled := draft.compile options settings
    (compiled.size = none → compiled.start = none) ∧
      ∀ size,
        compiled.size = some size →
        ∃ start,
          compiled.start = some start ∧
            start.toNat = min ((max page.toNat 1 - 1) * size.toNat) (UInt64.size - 1) := by
  intro compiled
  have counted : compiled.start = compiled.size.map (pageStart page) := by
    simp only [compiled, compile, windowStart, paged]
  rw [counted]
  constructor
  · intro unsized
    rw [unsized]
    rfl
  · intro size sized
    rw [sized]
    exact ⟨_, rfl, toNat_pageStart page size⟩

/--
For every draft and all settings: the size of a window is the limit of the
options, or else that of the draft.  Without a page the window starts at the
offset of the draft; with a page it starts after the pages before it, at most at
the greatest number, or nowhere if it has no size.  The options change nothing
else.  Hence page zero is the first page, a later page does not start earlier,
and every place in the results below the greatest number is on exactly one page,
also when an engine is asked for one page after another.
-/
theorem pages_tile_results :
    (∀ options : SearchOptions,
      let compiled := draft.compile options settings
      (∀ limit, options.limit = some limit → compiled.size = some limit) ∧
        (options.limit = none → compiled.size = draft.limit) ∧
        (options.page = none → compiled.start = draft.offset) ∧
        (∀ page,
          options.page = some page →
          (compiled.size = none → compiled.start = none) ∧
            ∀ size,
              compiled.size = some size →
              ∃ start,
                compiled.start = some start ∧
                  start.toNat =
                    min ((max page.toNat 1 - 1) * size.toNat) (UInt64.size - 1)) ∧
        ∀ others,
          { compiled with size := none, start := none } =
            { draft.compile others settings with size := none, start := none }) ∧
      (∀ limit,
        draft.compile { limit := limit, page := some 0 } settings =
          draft.compile { limit := limit, page := some 1 } settings) ∧
      (∀ limit page later start laterStart,
        page ≤ later →
        (draft.compile { limit := limit, page := some page } settings).start = some start →
        (draft.compile { limit := limit, page := some later } settings).start =
          some laterStart →
        start ≤ laterStart) ∧
      (∀ limit size place,
        limit.or draft.limit = some size →
        size ≠ 0 →
        place < UInt64.size - 1 →
        ∃! page : UInt64,
          1 ≤ page ∧
            (draft.compile { limit := limit, page := some page } settings).Shows place) ∧
      ∀ (engine : Engine) transport history perPage place,
        draft.callback = none →
        perPage ≠ 0 →
        place < UInt64.size - 1 →
        ∃! page : UInt64,
          1 ≤ page ∧
            ∃ compiled options,
              (Action.run transport history (engine.paginate draft perPage page)).messages =
                  [.request (.search compiled options)] ∧
                compiled.Shows place := by
  refine ⟨fun options => ⟨?_, ?_, ?_, ?_, fun others => rfl⟩, ?_, ?_, ?_, ?_⟩
  · intro limit limited
    simp [compile, windowSize, limited]
  · intro unlimited
    simp [compile, windowSize, unlimited]
  · intro unpaged
    simp [compile, windowStart, unpaged]
  · intro page paged
    exact draft.start_of_page settings paged
  · intro limit
    have first : pageStart 0 = pageStart 1 :=
      funext pageStart_zero
    simp [compile, windowSize, windowStart, first]
  · intro limit page later start laterStart follows starts startsLater
    cases known : limit.or draft.limit with
    | none =>
        simp [compile, windowStart, windowSize, known] at starts
    | some size =>
        obtain ⟨_, isStart⟩ := draft.compile_page settings known page
        obtain ⟨_, isLaterStart⟩ := draft.compile_page settings known later
        obtain rfl := Option.some.inj (isStart.symm.trans starts)
        obtain rfl := Option.some.inj (isLaterStart.symm.trans startsLater)
        exact pageStart_le_pageStart follows size
  · intro limit size place known sized writable
    exact draft.exists_unique_page_showing settings known sized writable
  · intro engine transport history perPage place free sized writable
    have known : (some perPage).or draft.limit = some perPage :=
      rfl
    have sent (page : UInt64) :
        (Action.run transport history (engine.paginate draft perPage page)).messages =
          [.request
            (.search (engine.compile draft (.paginate perPage page))
              (.paginate perPage page))] := by
      rw [Engine.paginate, Engine.run_searchWith_of_none _ _ _ _ free]
    obtain ⟨page, ⟨counted, shows⟩, only⟩ :=
      draft.exists_unique_page_showing engine.compileSettings known sized writable
    refine ⟨page, ⟨counted, _, _, sent page, shows⟩, ?_⟩
    rintro other ⟨otherCounted, compiled, options, asked, showsToo⟩
    obtain ⟨⟨rfl, rfl⟩, _⟩ := by
      simpa only [sent, List.cons.injEq, Message.request.injEq, Request.search.injEq]
        using asked
    exact only other ⟨otherCounted, showsToo⟩

/-- A search for everything, eight hits at a time. -/
def byEights : Draft Empty :=
  (start { index := "shop", type := "products" } "").take 8

/-- In pages of eight the place numbered twenty is on the third page alone, before the fourth. -/
theorem third_page_shows_twentieth :
    let settings := CompileSettings.initial
    let request page := byEights.compile { limit := none, page := some page } settings
    (request 3).size = some 8 ∧
      (request 3).Shows 20 ∧
      (∀ page, 1 ≤ page → (request page).Shows 20 → page = 3) ∧
      (∃ start next,
        (request 3).start = some start ∧
          (request 4).start = some next ∧
          start.toNat = 16 ∧
          start ≤ next) ∧
      byEights.callback = none ∧
      ∃! page : UInt64,
        1 ≤ page ∧
          ∃ compiled options,
            (Action.run CannedTransport.initial.toTransport []
                ((Engine.ofSettings EngineSettings.initial).paginate byEights 5 page)).messages =
                [.request (.search compiled options)] ∧
              compiled.Shows 20 := by
  intro settings request
  have known : (none : Option UInt64).or byEights.limit = some 8 :=
    rfl
  obtain ⟨window, _, ordered, onOnePage, paginated⟩ := pages_tile_results byEights settings
  obtain ⟨_, unlimited, _, paged, _⟩ := window { limit := none, page := some 3 }
  have sized : (request 3).size = some 8 :=
    unlimited rfl
  obtain ⟨start, starts, counted⟩ := (paged 3 rfl).2 8 sized
  have isSixteen : start.toNat = 16 := by
    rw [counted]
    decide
  have shows : (request 3).Shows 20 := by
    refine ⟨8, start, sized, starts, ?_, ?_⟩
    · omega
    · rw [isSixteen]
      decide
  have startsNext : (request 4).start = some (pageStart 4 8) :=
    rfl
  have before : start ≤ pageStart 4 8 :=
    ordered none 3 4 start (pageStart 4 8) (by decide) starts startsNext
  obtain ⟨page, _, only⟩ := onOnePage none 8 20 known (by decide) (by decide)
  have alone (other : UInt64) (pageCounted : 1 ≤ other) (shown : (request other).Shows 20) :
      other = 3 := by
    rw [only other ⟨pageCounted, shown⟩, ← only 3 ⟨by decide, shows⟩]
  exact
    ⟨sized, shows, alone, ⟨start, _, starts, startsNext, isSixteen, before⟩, rfl,
      paginated _ _ _ 5 20 rfl (by decide) (by decide)⟩

end Draft

end Retrieval
