import Retrieval.Proofs.QueryMeaning
import Retrieval.Proofs.Sendings

namespace Retrieval

/-!
# Searches and the toggles of a run

A search of an engine without a callback is one request.  Of all that was done
with the engine before, the request shows the last setting of each toggle and
nothing else.  A search with a callback is what the callback does.  The
transport is told each setting, so that its toggles and those of the engine stay
the same as long as no callback sets them.
-/

/-- The last value that is set by items of a list, or the initial one if none sets any. -/
def lastSet (setting? : α → Option β) (initial : β) (items : List α) : β :=
  (items.filterMap setting?).getLast?.getD initial

theorem lastSet_cons
    (setting? : α → Option β)
    (initial : β)
    (first : α)
    (rest : List α) :
    lastSet setting? initial (first :: rest) =
      lastSet setting? ((setting? first).getD initial) rest := by
  cases set : setting? first with
  | none =>
      simp [lastSet, set]
  | some value =>
      simp [lastSet, set, List.getLast?_cons]

theorem lastSet_append
    (setting? : α → Option β)
    (initial : β)
    (first second : List α) :
    lastSet setting? initial (first ++ second) =
      lastSet setting? (lastSet setting? initial first) second := by
  induction first generalizing initial with
  | nil =>
      rfl
  | cons item rest inductionHypothesis =>
      rw [List.cons_append, lastSet_cons, lastSet_cons, inductionHypothesis]

/-- Items that set nothing leave the initial value. -/
theorem lastSet_of_none
    {setting? : α → Option β}
    {items : List α}
    (unset : ∀ item ∈ items, setting? item = none)
    (initial : β) :
    lastSet setting? initial items = initial := by
  have nothing : items.filterMap setting? = [] :=
    List.filterMap_eq_nil_iff.mpr unset
  simp [lastSet, nothing]

namespace Message

/-- A message is a request, and sets no toggle. -/
def IsRequest (message : Message) : Prop :=
  ∃ request, message = .request request

/-- What a message sets a toggle to, if it does. -/
def setting? (toggle : Toggle) : Message → Option Bool
  | .toggle other enabled => if other = toggle then some enabled else none
  | .request _ => none

/-- The state of a toggle is the last setting of it. -/
theorem stateAfter_eq_lastSet
    (toggle : Toggle)
    (initial : Bool)
    (messages : List Message) :
    stateAfter toggle initial messages = lastSet (setting? toggle) initial messages := by
  induction messages generalizing initial with
  | nil =>
      rfl
  | cons message rest inductionHypothesis =>
      rw [lastSet_cons, ← inductionHypothesis]
      cases message with
      | request request =>
          rfl
      | toggle other enabled =>
          by_cases same : other = toggle
          · simp [stateAfter, setting?, same]
          · simp [stateAfter, setting?, same]

end Message

namespace Engine

namespace Operation

/-- What an operation sets a toggle to, if it does. -/
def setting? : Toggle → Operation → Option Bool
  | .debug, .setExplain enabled => some enabled
  | .profile, .setProfile enabled => some enabled
  | _, _ => none

/-- An operation that sets no toggle sends requests alone by itself. -/
theorem isRequest_of_maySend
    {operation : Operation}
    {message : Message}
    (unset : ∀ toggle, operation.setting? toggle = none)
    (sent : operation.MaySend message) :
    message.IsRequest := by
  cases operation with
  | setExplain enabled =>
      cases unset .debug
  | setProfile enabled =>
      cases unset .profile
  | update =>
      rcases sent with ⟨envelope, rfl | rfl⟩
      · exact ⟨_, rfl⟩
      · exact ⟨_, rfl⟩
  | delete | searchRaw =>
      rcases sent with ⟨envelope, rfl⟩
      exact ⟨_, rfl⟩
  | search | paginate =>
      rcases sent with ⟨compiled, options, rfl⟩
      exact ⟨_, rfl⟩
  | setFields | setRawResult | map =>
      cases sent

/-- An operation searches for what a draft asks, with options of its own. -/
inductive SearchesWith [QueryStrategy Strategy] (draft : Draft Strategy) :
    SearchOptions → Operation → Prop where
  /-- A plain search has no options. -/
  | search :
      SearchesWith draft { limit := none, page := none } (.search draft)
  /-- A search for a page has the number of hits on a page and the page as its options. -/
  | paginate
      (perPage page : UInt64) :
      SearchesWith draft { limit := some perPage, page := some page }
        (.paginate draft perPage page)

end Operation

/-- The state of a toggle after some turns: its last setting, or unset at first. -/
def toggled (toggle : Toggle) (turns : List Turn) : Bool :=
  lastSet (fun turn => turn.operation.setting? toggle) false turns

/-- What an engine with given settings contributes to a request after some turns. -/
def contributionAfter (settings : EngineSettings) (turns : List Turn) : CompileSettings where
  defaultField := settings.defaultField
  debug := toggled .debug turns
  profile := toggled .profile turns

namespace Turn

/-- What a turn makes of the contribution of its engine. -/
def contribute (contribution : CompileSettings) (turn : Turn) : CompileSettings :=
  { contribution with
    debug := (turn.operation.setting? .debug).getD contribution.debug
    profile := (turn.operation.setting? .profile).getD contribution.profile }

/-- Only the settings of the toggles change what an engine contributes to a request. -/
theorem compileSettings_after (transport : Transport) (turn : Turn) :
    (turn.after transport).compileSettings = turn.contribute turn.engine.compileSettings := by
  rw [after_eq]
  generalize turn.outcome transport = outcome
  obtain ⟨operation, engine, history⟩ := turn
  cases operation with
  | update records =>
      cases outcome with
      | settled result =>
          cases result <;> rfl
      | _ =>
          rfl
  | _ =>
      rfl

theorem foldl_contribute (contribution : CompileSettings) (turns : List Turn) :
    turns.foldl contribute contribution =
      { defaultField := contribution.defaultField
        debug :=
          lastSet (fun turn => turn.operation.setting? .debug) contribution.debug turns
        profile :=
          lastSet (fun turn => turn.operation.setting? .profile) contribution.profile turns } := by
  induction turns generalizing contribution with
  | nil =>
      rfl
  | cons first rest inductionHypothesis =>
      rw [List.foldl_cons, inductionHypothesis, lastSet_cons, lastSet_cons]
      rfl

/-- A turn whose callback sends requests alone tells the transport what it sets, and no more. -/
theorem lastSet_messages
    {turn : Turn}
    (quiet : turn.operation.CallbackSendsOnly Message.IsRequest)
    (transport : Transport)
    (toggle : Toggle)
    (initial : Bool) :
    lastSet (Message.setting? toggle) initial (turn.messages transport) =
      (turn.operation.setting? toggle).getD initial := by
  by_cases unset : ∀ other, turn.operation.setting? other = none
  · -- A turn that sets no toggle sends requests, which set none either.
    rw [unset toggle]
    apply lastSet_of_none
    intro message member
    have requests :=
      turn.sendsOnly (fun _ => Operation.isRequest_of_maySend unset) quiet transport
    rcases requests message member with ⟨request, rfl⟩
    rfl
  · obtain ⟨operation, engine, history⟩ := turn
    cases operation with
    | setExplain | setProfile =>
        cases toggle <;> rfl
    | _ =>
        refine absurd (fun other => ?_) unset
        cases other <;> rfl

/-- Over turns whose callbacks send requests alone, the transport is told what the turns set. -/
theorem lastSet_flatMap_messages
    (transport : Transport)
    (toggle : Toggle)
    {turns : List Turn}
    (quiet : ∀ turn ∈ turns, turn.operation.CallbackSendsOnly Message.IsRequest)
    (initial : Bool) :
    lastSet (Message.setting? toggle) initial (turns.flatMap (messages transport)) =
      lastSet (fun turn => turn.operation.setting? toggle) initial turns := by
  induction turns generalizing initial with
  | nil =>
      rfl
  | cons first rest inductionHypothesis =>
      obtain ⟨quietFirst, quietRest⟩ := List.forall_mem_cons.mp quiet
      rw [List.flatMap_cons, lastSet_append, lastSet_messages quietFirst,
        inductionHypothesis quietRest, lastSet_cons]

end Turn

/-- What an engine contributes to a request depends on the last setting of each toggle alone. -/
theorem compileSettings_before_turn
    {settings : EngineSettings}
    {transport : Transport}
    {history : List Message}
    {operations : List Operation}
    {earlier later : List Turn}
    {turn : Turn}
    (run : turns transport history (ofSettings settings) operations = earlier ++ turn :: later) :
    turn.engine.compileSettings = contributionAfter settings earlier := by
  have tracked :=
    tracked_before_turn compileSettings Turn.contribute (Turn.compileSettings_after transport)
      run
  rw [tracked, Turn.foldl_contribute]
  rfl

section

variable
  [QueryStrategy Strategy]
  {draft : Draft Strategy}
  (engine : Engine)
  (options : SearchOptions)
  (transport : Transport)
  (history : List Message)

/-- Without a callback a search is one request, and its answer is passed on. -/
theorem run_searchWith_of_none
    (free : draft.callback = none) :
    Action.run transport history (engine.searchWith draft options) =
      let request := Request.search (engine.compile draft options) options
      { value := transport.answer history request
        messages := [.request request]
        notices := [] } := by
  simp only [searchWith, free]
  exact Action.run_request _

/-- With a callback a search is a notice, and then what the callback does. -/
theorem run_searchWith_of_some
    {callback : Callback}
    (handed : draft.callback = some callback) :
    Action.run transport history (engine.searchWith draft options) =
      let own := Action.run transport history (callback draft.query options)
      { own with notices := .searchDelegated draft.query :: own.notices } := by
  simp only [searchWith, handed]
  rfl

end

/-- A turn that searches is the search with its options. -/
theorem Turn.transcript_of_searchesWith
    [QueryStrategy Strategy]
    {draft : Draft Strategy}
    {options : SearchOptions}
    {turn : Turn}
    (searches : turn.operation.SearchesWith draft options)
    (transport : Transport) :
    turn.transcript transport =
      let ran := Action.run transport turn.history (turn.engine.searchWith draft options)
      { value := (.found ran.value, turn.engine)
        messages := ran.messages
        notices := ran.notices } := by
  obtain ⟨operation, engine, history⟩ := turn
  cases searches with
  | search =>
      exact run_conduct transport history engine .found _
  | paginate perPage page =>
      exact run_conduct transport history engine .found _

/--
For every engine, transport and sequence of operations, and for every turn of
it that searches: without a callback its only message is a search with its own
options, compiled with the default field of the first settings and with the last
setting of each toggle before it, and the answer is passed on; with a callback it
sends and answers what the callback does with the free text and the same
options.  If the callbacks send requests alone, toggles of the transport that
were unset at first are at every point as they were last set by a turn.
-/
theorem searches_see_last_toggles
    (settings : EngineSettings)
    (transport : Transport)
    (history : List Message)
    (operations : List Operation)
    (earlier later : List Turn)
    (run : turns transport history (ofSettings settings) operations = earlier ++ later) :
    (∀ turn others,
      later = turn :: others →
      ∀ {Strategy : Type} [QueryStrategy Strategy] (draft : Draft Strategy) options,
        turn.operation.SearchesWith draft options →
        let compiled := draft.compile options (contributionAfter settings earlier)
        (draft.callback = none →
          turn.messages transport = [.request (.search compiled options)] ∧
            turn.outcome transport =
              .found (transport.answer turn.history (.search compiled options)) ∧
            compiled.debug = (toggled .debug earlier || draft.debug) ∧
            compiled.profile = (toggled .profile earlier || draft.profile)) ∧
        ∀ callback,
          draft.callback = some callback →
          let own := Action.run transport turn.history (callback draft.query options)
          turn.messages transport = own.messages ∧
            turn.outcome transport = .found own.value) ∧
      ((∀ operation ∈ operations, operation.CallbackSendsOnly Message.IsRequest) →
        ∀ toggle,
          Message.stateAfter toggle false (earlier.flatMap (Turn.messages transport)) =
            toggled toggle earlier) := by
  constructor
  · rintro turn others rfl Strategy strategies draft options searches compiled
    have transcript := turn.transcript_of_searchesWith searches transport
    have contribution := compileSettings_before_turn run
    have asked : turn.engine.compile draft options = compiled := by
      rw [compile, contribution]
    constructor
    · intro free
      have ran := run_searchWith_of_none turn.engine options transport turn.history free
      rw [asked] at ran
      rw [Turn.messages, Turn.outcome, transcript, ran]
      exact ⟨rfl, rfl, rfl, rfl⟩
    · intro callback handed own
      have ran := run_searchWith_of_some turn.engine options transport turn.history handed
      rw [Turn.messages, Turn.outcome, transcript, ran]
      exact ⟨rfl, rfl⟩
  · intro quiet toggle
    have quietTurns :
        ∀ turn ∈ earlier, turn.operation.CallbackSendsOnly Message.IsRequest := by
      intro turn member
      refine quiet turn.operation ?_
      rw [← operations_of_turns transport history (ofSettings settings) operations, run,
        List.map_append]
      exact List.mem_append_left _ (List.mem_map_of_mem member)
    rw [Message.stateAfter_eq_lastSet]
    exact Turn.lastSet_flatMap_messages transport toggle quietTurns false

/-- A search for a word, without filters and without a callback. -/
def plainSearch : Draft Empty :=
  Draft.start { index := "shop", type := "products" } "phone"

/-- Explanations are asked for and then no longer, and timing is asked for. -/
def settingToggles : List Operation :=
  [.setExplain true, .setProfile true, .setExplain false]

/-- A search after the toggles have been set. -/
def searchTurn : Turn where
  operation := .search plainSearch
  engine := { ofSettings EngineSettings.initial with profile := true }
  history := [.toggle .debug true, .toggle .profile true, .toggle .debug false]

/-- A search for the third page of ten hits, after the plain search. -/
def pageTurn : Turn where
  operation := .paginate plainSearch 10 3
  engine := searchTurn.engine
  history := searchTurn.history ++ searchTurn.messages CannedTransport.initial.toTransport

/--
A search asks for timing and no longer for explanations, as the transport was told
last.  So does the search for the third page of ten hits, which passes over twenty.
-/
theorem search_sees_toggles_as_last_set :
    let transport := CannedTransport.initial.toTransport
    let engine := ofSettings EngineSettings.initial
    let operations := settingToggles ++ [.search plainSearch, .paginate plainSearch 10 3]
    let earlier := turns transport [] engine settingToggles
    let settings : CompileSettings := { defaultField := "_all", debug := false, profile := true }
    let unset : SearchOptions := { limit := none, page := none }
    let thirdPage : SearchOptions := { limit := some 10, page := some 3 }
    let paged := plainSearch.compile thirdPage settings
    turns transport [] engine operations = earlier ++ [searchTurn, pageTurn] ∧
      plainSearch.callback = none ∧
      searchTurn.operation.SearchesWith plainSearch unset ∧
      searchTurn.messages transport =
        [.request (.search (plainSearch.compile unset settings) unset)] ∧
      searchTurn.outcome transport = .found (.ok Response.empty) ∧
      pageTurn.operation.SearchesWith plainSearch thirdPage ∧
      pageTurn.messages transport = [.request (.search paged thirdPage)] ∧
      paged.size = some 10 ∧
      paged.start = some 20 ∧
      paged.debug = false ∧
      paged.profile = true ∧
      Message.stateAfter .debug false (earlier.flatMap (Turn.messages transport)) = false := by
  intro transport engine operations earlier settings unset thirdPage paged
  have run :
      turns transport [] engine operations = earlier ++ [searchTurn, pageTurn] :=
    rfl
  have searches : searchTurn.operation.SearchesWith plainSearch unset :=
    .search
  have searchesPage : pageTurn.operation.SearchesWith plainSearch thirdPage :=
    .paginate 10 3
  have quiet :
      ∀ operation ∈ operations, operation.CallbackSendsOnly Message.IsRequest := by
    simp [operations, settingToggles, Operation.CallbackSendsOnly, plainSearch, Draft.start]
  obtain ⟨seen, told⟩ :=
    searches_see_last_toggles EngineSettings.initial transport [] operations earlier
      [searchTurn, pageTurn] run
  obtain ⟨free, _⟩ := seen searchTurn [pageTurn] rfl plainSearch unset searches
  obtain ⟨messages, outcome, _, _⟩ := free rfl
  -- The page is searched for after the plain search, which sets no toggle.
  obtain ⟨seenLater, _⟩ :=
    searches_see_last_toggles EngineSettings.initial transport [] operations
      (earlier ++ [searchTurn]) [pageTurn] run
  obtain ⟨freeLater, _⟩ := seenLater pageTurn [] rfl plainSearch thirdPage searchesPage
  obtain ⟨pageMessages, _, debugged, profiled⟩ := freeLater rfl
  exact
    ⟨run, rfl, searches, messages, outcome, searchesPage, pageMessages, rfl, rfl, debugged,
      profiled, told quiet .debug⟩

end Engine

end Retrieval
