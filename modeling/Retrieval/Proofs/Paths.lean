import Retrieval.Envelope

namespace Retrieval

/-!
# Dotted paths and nested writes

A text is cut at its dots into parts that hold no dot, and joining the parts
with dots gives the text back.  A value written at a path under an empty body is
wrapped once for every part of the path.
-/

namespace DottedPath

theorem cut_cons
    (c : Char)
    (input : List Char) :
    cut (c :: input) =
      if c = '.' then
        ([], (cut input).1 :: (cut input).2)
      else
        (c :: (cut input).1, (cut input).2) :=
  rfl

/-- Characters up to the first dot are the first part. -/
theorem cut_append_dot
    {first : List Char}
    (dotFree : '.' ∉ first)
    (rest : List Char) :
    cut (first ++ '.' :: rest) = (first, (cut rest).1 :: (cut rest).2) := by
  induction first with
  | nil =>
      simp [cut_cons]
  | cons c others inductionHypothesis =>
      simp only [List.mem_cons, not_or] at dotFree
      obtain ⟨differs, othersFree⟩ := dotFree
      have notDot : c ≠ '.' := fun same => differs same.symm
      simp [cut_cons, notDot, inductionHypothesis othersFree]

theorem cut_of_dotFree
    {input : List Char}
    (dotFree : '.' ∉ input) :
    cut input = (input, []) := by
  induction input with
  | nil =>
      rfl
  | cons c others inductionHypothesis =>
      simp only [List.mem_cons, not_or] at dotFree
      obtain ⟨differs, othersFree⟩ := dotFree
      have notDot : c ≠ '.' := fun same => differs same.symm
      simp [cut_cons, notDot, inductionHypothesis othersFree]

theorem dot_not_mem_cut (input : List Char) :
    '.' ∉ (cut input).1 ∧ ∀ part ∈ (cut input).2, '.' ∉ part := by
  induction input with
  | nil =>
      simp [cut]
  | cons c others inductionHypothesis =>
      obtain ⟨firstFree, othersFree⟩ := inductionHypothesis
      by_cases isDot : c = '.'
      · simp only [cut_cons, isDot, ↓reduceIte, List.mem_cons]
        refine ⟨List.not_mem_nil, ?_⟩
        rintro part (rfl | member)
        · exact firstFree
        · exact othersFree part member
      · simp only [cut_cons, isDot, ↓reduceIte, List.mem_cons, not_or]
        exact ⟨⟨fun same => isDot same.symm, firstFree⟩, othersFree⟩

theorem intercalate_cut (input : List Char) :
    List.intercalate ['.'] ((cut input).1 :: (cut input).2) = input := by
  induction input with
  | nil =>
      rfl
  | cons c others inductionHypothesis =>
      by_cases isDot : c = '.'
      · simp only [cut_cons, isDot, ↓reduceIte]
        simpa [List.intercalate] using inductionHypothesis
      · simp only [cut_cons, isDot, ↓reduceIte]
        cases rest : (cut others).2 with
        | nil =>
            rw [rest] at inductionHypothesis
            simpa [List.intercalate] using inductionHypothesis
        | cons second more =>
            rw [rest] at inductionHypothesis
            simpa [List.intercalate] using inductionHypothesis

/-- All parts of a text, of which there is at least one. -/
def parts (text : String) : List String :=
  (ofText text).head :: (ofText text).rest

/-- The parts of a text hold its characters, cut at the dots. -/
theorem parts_eq (text : String) :
    parts text =
      String.ofList (cut text.toList).1 :: (cut text.toList).2.map String.ofList :=
  rfl

/-- No part of a text holds a dot. -/
theorem dot_not_mem_parts
    {text part : String}
    (member : part ∈ parts text) :
    '.' ∉ part.toList := by
  obtain ⟨firstFree, othersFree⟩ := dot_not_mem_cut text.toList
  simp only [parts_eq, List.mem_cons, List.mem_map] at member
  rcases member with rfl | ⟨characters, inRest, rfl⟩
  · simpa using firstFree
  · simpa using othersFree characters inRest

/-- Joining the parts of a text with dots gives the text back. -/
theorem intercalate_parts (text : String) :
    String.intercalate "." (parts text) = text := by
  apply String.toList_injective
  rw [String.toList_intercalate, parts_eq]
  have restored := intercalate_cut text.toList
  simpa [Function.comp_def] using restored

theorem parts_of_dotFree
    {text : String}
    (dotFree : '.' ∉ text.toList) :
    parts text = [text] := by
  simp [parts_eq, cut_of_dotFree dotFree]

/-- The path of a text without a dot is that text alone. -/
theorem ofText_of_dotFree
    {text : String}
    (dotFree : '.' ∉ text.toList) :
    ofText text = { head := text, rest := [] } := by
  simp [ofText, cut_of_dotFree dotFree]

/-- The path that goes on from a name without a dot to the parts of a text. -/
theorem ofText_append_dot
    {name : String}
    (dotFree : '.' ∉ name.toList)
    (text : String) :
    ofText (name ++ "." ++ text) = { head := name, rest := parts text } := by
  have characters :
      (name ++ "." ++ text).toList = name.toList ++ '.' :: text.toList := by
    simp
  simp [ofText, parts_eq, characters, cut_append_dot dotFree]

/-- Names without dots that are joined with dots are the parts of the joined text. -/
theorem parts_intercalate
    {first : String}
    {rest : List String}
    (dotFree : ∀ part ∈ first :: rest, '.' ∉ part.toList) :
    parts (String.intercalate "." (first :: rest)) = first :: rest := by
  induction rest generalizing first with
  | nil =>
      rw [String.intercalate_singleton]
      exact parts_of_dotFree (dotFree first List.mem_cons_self)
  | cons second others inductionHypothesis =>
      obtain ⟨firstFree, othersFree⟩ := List.forall_mem_cons.mp dotFree
      rw [String.intercalate_cons_cons, parts, ofText_append_dot firstFree,
        inductionHypothesis othersFree]

end DottedPath

namespace Json

/-- A value inside one object for every key of a path. -/
def nested (path : List String) (value : Json) : Json :=
  path.foldr single value

@[simp] theorem nested_cons
    (key : String)
    (path : List String)
    (value : Json) :
    nested (key :: path) value = single key (nested path value) :=
  rfl

/-- A value at the parts of a name is under that name exactly if the name holds no dot. -/
theorem nested_parts_eq_single_iff
    (name : String)
    (value : Json) :
    nested (DottedPath.parts name) value = single name value ↔ '.' ∉ name.toList := by
  constructor
  · intro same
    have first : (DottedPath.ofText name).head = name := by
      simp only [DottedPath.parts, nested_cons, single, Json.object.injEq, List.cons.injEq,
        Prod.mk.injEq] at same
      exact same.1.1
    have member : (DottedPath.ofText name).head ∈ DottedPath.parts name := by
      simp [DottedPath.parts]
    rw [first] at member
    exact DottedPath.dot_not_mem_parts member
  · intro dotFree
    rw [DottedPath.parts_of_dotFree dotFree]
    rfl

end Json

namespace Envelope

/-- A write into nothing wraps the value once for every key. -/
theorem setNested_null
    (path : List String)
    (value : Json) :
    setNested .null path value = .ok (Json.nested path value) := by
  induction path with
  | nil =>
      rfl
  | cons key rest inductionHypothesis =>
      simp [setNested, inductionHypothesis, bind, Except.bind, pure, Except.pure]

/-- A write below an empty object wraps the value once for every key. -/
theorem setNested_emptyObject
    (key : String)
    (rest : List String)
    (value : Json) :
    setNested Json.emptyObject (key :: rest) value =
      .ok (Json.nested (key :: rest) value) := by
  simp [setNested, Json.emptyObject, Members.find?, Members.insert, setNested_null,
    Json.single, bind, Except.bind, pure, Except.pure]

/-- The first write into the body of an envelope, at the parts of a text. -/
theorem set_body_of_none
    {envelope : Envelope}
    (empty : envelope.body = none)
    (text : String)
    (value : Json) :
    envelope.set ("body." ++ text) value =
      .ok { envelope with body := some (Json.nested (DottedPath.parts text) value) } := by
  have path :
      DottedPath.ofText ("body." ++ text) =
        { head := "body", rest := DottedPath.parts text } := by
    have spelled : "body." = "body" ++ "." := by
      decide
    rw [spelled]
    exact DottedPath.ofText_append_dot (by decide) text
  have allowed : "body" ∉ envelope.scope.protectedKeys := by
    cases envelope.scope <;> decide
  simp [set, setAt, path, allowed, empty, DottedPath.parts, setNested_emptyObject,
    bind, Except.bind, pure, Except.pure]

end Envelope

end Retrieval
