import Retrieval.Query.Clause

namespace Retrieval

/-!
# The meaning of queries

A query is read back from its JSON form as a condition on documents.  What the
questions about single fields mean is left open, so that everything that is
proved about conditions holds for every search engine that joins them by `bool`
in the usual way: what `must` and `filter` ask for has to hold, and nothing of
what `must_not` asks for may hold.
-/

/-- An interpretation of the questions about single fields as predicates on documents. -/
structure Interpretation (Document : Type) where
  /-- A field matches free text. -/
  text (field words : String) : Document → Prop
  term (field : String) (value : Json) : Document → Prop
  terms (field : String) (values : List Json) : Document → Prop
  range (field : String) (above atLeast below atMost : Option Json) : Document → Prop
  present (field : String) : Document → Prop
  regexp (field pattern flags : String) : Document → Prop

/-- A condition on documents. -/
inductive Condition where
  | always
  | text (field words : String)
  | ofClause (clause : Clause)
  | negation (condition : Condition)
  | both (first second : Condition)
  deriving Repr, DecidableEq

/-- What a clause says about a document. -/
def Clause.Holds
    (interpretation : Interpretation Document)
    (document : Document) :
    Clause → Prop
  | .term field value => interpretation.term field value document
  | .terms field values => interpretation.terms field values document
  | .range field bounds =>
      interpretation.range field bounds.above bounds.atLeast bounds.below bounds.atMost
        document
  | .present field => interpretation.present field document
  | .regexp field pattern flags => interpretation.regexp field pattern flags document

namespace Condition

/-- What a condition says about a document. -/
def Holds
    (interpretation : Interpretation Document)
    (document : Document) :
    Condition → Prop
  | .always => True
  | .text field words => interpretation.text field words document
  | .ofClause clause => clause.Holds interpretation document
  | .negation condition => ¬ condition.Holds interpretation document
  | .both first second =>
      first.Holds interpretation document ∧ second.Holds interpretation document

/-- All of several conditions. -/
def allOf : List Condition → Condition
  | [] => .always
  | first :: rest => .both first (allOf rest)

/-- None of several conditions. -/
def noneOf : List Condition → Condition
  | [] => .always
  | first :: rest => .both (.negation first) (noneOf rest)

/-- Read the bounds of a range; there are no other members than the four bounds. -/
def boundsOf? (members : Members) : Option Bounds :=
  if members.all fun member => ["gt", "gte", "lt", "lte"].contains member.1 then
    some {
      above := Members.find? "gt" members
      atLeast := Members.find? "gte" members
      below := Members.find? "lt" members
      atMost := Members.find? "lte" members }
  else
    none

/-- Read a regular expression on a field, which comes with its flags. -/
def regexpOf? (field : String) (members : Members) : Option Clause :=
  match Members.find? "value" members, Members.find? "flags" members with
  | some (.string pattern), some (.string flags) => some (.regexp field pattern flags)
  | _, _ => none

/-- Read a question about a single field from its word and its body. -/
def ofLeaf? : String → Json → Option Condition
  | "match_all", .object [] => some .always
  | "match", .object [(field, .string words)] => some (.text field words)
  | "term", .object [(field, value)] => some (.ofClause (.term field value))
  | "terms", .object [(field, .array values)] => some (.ofClause (.terms field values))
  | "range", .object [(field, .object members)] =>
      (boundsOf? members).map fun bounds => .ofClause (.range field bounds)
  | "exists", .object [("field", .string field)] => some (.ofClause (.present field))
  | "regexp", .object [(field, .object members)] =>
      (regexpOf? field members).map .ofClause
  | _, _ => none

/-- Join the queries of one occurrence in a `bool`. -/
def ofOccurrence? (word : String) (queries : List Condition) : Option Condition :=
  if word = "must" ∨ word = "filter" then
    some (allOf queries)
  else if word = "must_not" then
    some (noneOf queries)
  else
    none

mutual

/-- Read a query. -/
def ofJson? : Json → Option Condition
  | .object [("bool", .object members)] => ofMembers? members
  | .object [(word, body)] => ofLeaf? word body
  | _ => none

/-- Read a list of queries, all of which must be readable. -/
def ofItems? : List Json → Option (List Condition)
  | [] => some []
  | query :: rest => do
      let first ← ofJson? query
      let others ← ofItems? rest
      return first :: others

/-- Read the members of a `bool`; each of them holds one query or a list of queries. -/
def ofMembers? : List (String × Json) → Option Condition
  | [] => some .always
  | (word, .array items) :: rest => do
      let queries ← ofItems? items
      let first ← ofOccurrence? word queries
      let others ← ofMembers? rest
      return .both first others
  | (word, query) :: rest => do
      let single ← ofJson? query
      let first ← ofOccurrence? word [single]
      let others ← ofMembers? rest
      return .both first others

end

variable
  {Document : Type}
  (interpretation : Interpretation Document)
  (document : Document)

@[simp] theorem holds_allOf (conditions : List Condition) :
    (allOf conditions).Holds interpretation document ↔
      ∀ condition ∈ conditions, condition.Holds interpretation document := by
  induction conditions with
  | nil =>
      simp [allOf, Holds]
  | cons first rest inductionHypothesis =>
      simp [allOf, Holds, inductionHypothesis]

@[simp] theorem holds_noneOf (conditions : List Condition) :
    (noneOf conditions).Holds interpretation document ↔
      ∀ condition ∈ conditions, ¬ condition.Holds interpretation document := by
  induction conditions with
  | nil =>
      simp [noneOf, Holds]
  | cons first rest inductionHypothesis =>
      simp [noneOf, Holds, inductionHypothesis]

/-- The bounds of a range are read back, also those that were not set. -/
@[simp] theorem boundsOf?_toMembers (bounds : Bounds) :
    boundsOf? bounds.toMembers = some bounds := by
  obtain ⟨above, atLeast, below, atMost⟩ := bounds
  cases above <;> cases atLeast <;> cases below <;> cases atMost <;>
    simp [boundsOf?, Bounds.toMembers, Members.find?]

/-- A clause is read back from its JSON form. -/
@[simp] theorem ofJson?_toJson (clause : Clause) :
    ofJson? clause.toJson = some (.ofClause clause) := by
  cases clause with
  | term field value =>
      simp [Clause.toJson, Json.single, ofJson?, ofLeaf?]
  | terms field values =>
      simp [Clause.toJson, Json.single, ofJson?, ofLeaf?]
  | range field bounds =>
      simp [Clause.toJson, Json.single, ofJson?, ofLeaf?, Bounds.toJson]
  | present field =>
      simp [Clause.toJson, Json.single, ofJson?, ofLeaf?]
  | regexp field pattern flags =>
      simp [Clause.toJson, Json.single, ofJson?, ofLeaf?, regexpOf?, Members.find?]

@[simp] theorem ofItems?_toJson (clauses : List Clause) :
    ofItems? (clauses.map Clause.toJson) = some (clauses.map .ofClause) := by
  induction clauses with
  | nil =>
      rfl
  | cons first rest inductionHypothesis =>
      simp [ofItems?, inductionHypothesis]

/-- What is read is a condition that holds under an interpretation as a meaning does. -/
def Means
    (read : Option Condition)
    (meaning : (Document : Type) → Interpretation Document → Document → Prop) :
    Prop :=
  ∃ condition,
    read = some condition ∧
      ∀ Document (interpretation : Interpretation Document) document,
        condition.Holds interpretation document ↔ meaning Document interpretation document

end Condition

/-- What an occurrence asks of a clause. -/
def Occurrence.Asks
    (interpretation : Interpretation Document)
    (document : Document)
    (occurrence : Occurrence)
    (clause : Clause) :
    Prop :=
  match occurrence with
  | .must => clause.Holds interpretation document
  | .mustNot => ¬ clause.Holds interpretation document

/-- What filters ask of a document. -/
def Filters.Hold
    (interpretation : Interpretation Document)
    (document : Document)
    (filters : Filters) :
    Prop :=
  (∀ clause ∈ filters.must, Occurrence.must.Asks interpretation document clause) ∧
    ∀ clause ∈ filters.mustNot, Occurrence.mustNot.Asks interpretation document clause

@[simp] theorem Filters.hold_empty
    (interpretation : Interpretation Document)
    (document : Document) :
    Filters.empty.Hold interpretation document := by
  simp [Hold, empty]

namespace Condition

@[simp] theorem ofJson?_bool (members : Members) :
    ofJson? (Json.single "bool" (.object members)) = ofMembers? members := by
  simp [Json.single, ofJson?]

theorem means_nil :
    Means (ofMembers? []) fun _ _ _ => True :=
  ⟨.always, rfl, fun _ _ _ => Iff.rfl⟩

/-- The queries under `must` and under `filter` have to hold with the rest of a `bool`. -/
theorem means_cons
    {word : String}
    {members : Members}
    {rest : List (String × Json)}
    {first others : (Document : Type) → Interpretation Document → Document → Prop}
    (positive : word = "must" ∨ word = "filter")
    (meansFirst : Means (ofJson? (.object members)) first)
    (meansOthers : Means (ofMembers? rest) others) :
    Means (ofMembers? ((word, .object members) :: rest))
      fun Document interpretation document =>
        first Document interpretation document ∧
          others Document interpretation document := by
  obtain ⟨single, readFirst, tellsFirst⟩ := meansFirst
  obtain ⟨remaining, readOthers, tellsOthers⟩ := meansOthers
  refine
    ⟨.both (allOf [single]) remaining, ?_, fun Document interpretation document => ?_⟩
  · simp [ofMembers?, readFirst, readOthers, ofOccurrence?, positive]
  · rw [Holds, holds_allOf, tellsOthers]
    simp [tellsFirst]

/-- The condition that an occurrence makes of its clauses. -/
def joined (clauses : List Clause) : Occurrence → Condition
  | .must => allOf (clauses.map .ofClause)
  | .mustNot => noneOf (clauses.map .ofClause)

theorem ofOccurrence?_key
    (occurrence : Occurrence)
    (clauses : List Clause) :
    ofOccurrence? occurrence.key (clauses.map .ofClause) =
      some (joined clauses occurrence) := by
  cases occurrence with
  | must =>
      rfl
  | mustNot =>
      rfl

/-- The condition of an occurrence holds exactly if what it asks of each clause does. -/
theorem holds_joined
    (interpretation : Interpretation Document)
    (document : Document)
    (occurrence : Occurrence)
    (clauses : List Clause) :
    (joined clauses occurrence).Holds interpretation document ↔
      ∀ clause ∈ clauses, occurrence.Asks interpretation document clause := by
  cases occurrence with
  | must =>
      simp [joined, Holds, Occurrence.Asks]
  | mustNot =>
      simp [joined, Holds, Occurrence.Asks]

/-- What an occurrence asks of its clauses is asked with the rest of a `bool`. -/
theorem means_side
    (occurrence : Occurrence)
    (clauses : List Clause)
    {rest : List (String × Json)}
    {others : (Document : Type) → Interpretation Document → Document → Prop}
    (meansOthers : Means (ofMembers? rest) others) :
    Means (ofMembers? (Filters.side occurrence clauses ++ rest))
      fun Document interpretation document =>
        (∀ clause ∈ clauses, occurrence.Asks interpretation document clause) ∧
          others Document interpretation document := by
  obtain ⟨remaining, readOthers, tellsOthers⟩ := meansOthers
  cases clauses with
  | nil =>
      exact ⟨remaining, readOthers, by simpa using tellsOthers⟩
  | cons clause more =>
      refine
        ⟨.both (joined (clause :: more) occurrence) remaining, ?_,
          fun Document interpretation document => ?_⟩
      · rw [Filters.side, if_neg (by simp), List.singleton_append, ofMembers?,
          ofItems?_toJson, readOthers]
        simp only [bind, Option.bind, ofOccurrence?_key]
        rfl
      · rw [Holds, holds_joined, tellsOthers]

/-- The member for filters, if there is one, asks that they hold with the rest of a `bool`. -/
theorem means_filters
    (filters : Filters)
    {rest : List (String × Json)}
    {others : (Document : Type) → Interpretation Document → Document → Prop}
    (meansOthers : Means (ofMembers? rest) others) :
    Means
      (ofMembers?
        ((filters.toJson?.map fun written => ("filter", written)).toList ++ rest))
      fun Document interpretation document =>
        filters.Hold interpretation document ∧
          others Document interpretation document := by
  by_cases empty : filters.isEmpty = true
  · obtain ⟨remaining, read, tells⟩ := meansOthers
    obtain ⟨noMust, noMustNot⟩ : filters.must = [] ∧ filters.mustNot = [] := by
      simpa [Filters.isEmpty] using empty
    refine ⟨remaining, ?_, ?_⟩
    · simpa [Filters.toJson?, empty] using read
    · simpa [Filters.Hold, noMust, noMustNot] using tells
  · have sides :=
      means_side .must filters.must (means_side .mustNot filters.mustNot means_nil)
    rw [← ofJson?_bool] at sides
    obtain ⟨condition, read, tells⟩ := means_cons (.inr rfl) sides meansOthers
    refine ⟨condition, ?_, ?_⟩
    · simpa [Filters.toJson?, empty, Json.single] using read
    · simpa [Filters.Hold] using tells

end Condition

end Retrieval
