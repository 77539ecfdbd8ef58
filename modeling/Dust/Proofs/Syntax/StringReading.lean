import Dust.Proofs.Syntax.Yields

/-!
# Reading strings that are written

A string is a template of its own, which is compiled from the inside of its token. What is written
between the quotes are texts and references, and these are read as in the body of a template. A
body whose texts are kept apart is put together without a change.
-/

namespace Dust

/-! ## Bodies whose texts are kept apart -/

/-- A text stands at the end of a body as it is if no text is before it. -/
theorem Body.push_text {body : Body} {content : String} (solid : content ≠ "")
    (apart : body.getLast?.any Part.isText = false) :
    body.push (.text content) = body ++ [.text content] := by
  have whole : content.isEmpty = false := by simpa using solid
  simp only [push, whole, Bool.false_eq_true, ↓reduceIte]
  split
  · rename_i before last
    rw [last] at apart
    cases apart
  · rfl

/-- Parts of a body whose texts are kept apart are put together as they are. -/
theorem Body.foldl_push {body before : Body} (settled : body.isSettled = true)
    (apart : before.getLast?.any Part.isText = false ∨ body.head?.any Part.isText = false) :
    body.foldl Body.push before = before ++ body := by
  induction body generalizing before with
  | nil => simp
  | cons part rest induction =>
    have last : (before ++ [part]).getLast?.any Part.isText = part.isText := by simp
    have pushed : before.push part = before ++ [part] ∧ isSettled rest = true ∧
        (part.isText = false ∨ rest.head?.any Part.isText = false) := by
      cases part with
      | text content =>
        simp only [isSettled, Bool.and_eq_true, decide_eq_true_eq, Bool.not_eq_true'] at settled
        have first : before.getLast?.any Part.isText = false :=
          apart.resolve_right (by simp [Part.isText])
        exact ⟨push_text settled.1.1 first, settled.2, .inr settled.1.2⟩
      | _ => exact ⟨rfl, settled, .inl rfl⟩
    obtain ⟨pushed, settled, apart⟩ := pushed
    rw [List.foldl_cons, pushed, induction settled (last ▸ apart), List.append_assoc,
      List.singleton_append]

/-- A text is one wherever it is written. -/
theorem Part.isText_unplaced (part : Part) : part.unplaced.isText = part.isText := by
  cases part <;> rfl

/-- Texts are kept apart wherever they are written. -/
theorem Body.isSettled_unplaced (body : Body) :
    isSettled (Part.unplacedBody body) = body.isSettled := by
  induction body with
  | nil => rfl
  | cons part rest induction =>
    have head : (Part.unplacedBody rest).head?.any Part.isText = rest.head?.any Part.isText := by
      cases rest with
      | nil => rfl
      | cons next more => exact Part.isText_unplaced next
    cases part with
    | text content => simp only [Part.unplacedBody, Part.unplaced, isSettled, head, induction]
    | _ => exact induction

/-- Texts are kept apart in bodies with the tree of a body in which they are. -/
theorem Body.isSettled_of_same {placed body : Body}
    (same : Part.unplacedBody placed = Part.unplacedBody body) (settled : body.isSettled = true) :
    placed.isSettled = true := by
  rw [← isSettled_unplaced, same, isSettled_unplaced, settled]

/-- A body with a part that is no text has no text of its own. -/
theorem Body.text?_eq_none {body : Body} {part : Part} (mem : part ∈ body)
    (other : part.isText = false) : body.text? = none := by
  unfold text?
  split
  · cases mem
  · rw [List.mem_singleton.mp mem] at other
    cases other
  · rfl

/-! ## Bodies -/

/-- Nothing raw stands behind a text of a body whose texts are kept apart. -/
theorem rawLength_writtenBody {rest : Body} {later : List Char}
    (apart : rest.head?.any Part.isText = false)
    (opens : ∀ part ∈ rest, part.isText = false →
      ∀ more, rawLength (part.written ++ more) = 0)
    (stops : rawLength later = 0) : rawLength (Part.writtenBody rest ++ later) = 0 := by
  cases rest with
  | nil => exact stops
  | cons part more =>
    rw [Part.writtenBody, List.append_assoc]
    exact opens part List.mem_cons_self apart _

/-- The first part of a body is read before the others, if it is read where it is no text. -/
theorem BodySegments.first {readString : Token → Except Located Body} {source later : List Char}
    {start : Nat} {part : Part} {rest : Body} (settled : Body.isSettled (part :: rest) = true)
    (opens : ∀ part ∈ rest, part.isText = false →
      ∀ more, rawLength (part.written ++ more) = 0)
    (stops : rawLength later = 0)
    (free : ∀ content, part = .text content → '{' ∉ content.toList)
    (read : part.isText = false →
      ∃ segments placed, BodySegments readString source start part.written [part]
        (Part.writtenBody rest ++ later) segments placed) :
    rest.isSettled = true ∧
      ∃ segments placed, BodySegments readString source start part.written [part]
        (Part.writtenBody rest ++ later) segments placed := by
  cases part with
  | text content =>
    simp only [Body.isSettled, Bool.and_eq_true, decide_eq_true_eq, Bool.not_eq_true'] at settled
    exact ⟨settled.2, _, _, BodySegments.text settled.1.1 (free content rfl)
      (rawLength_writtenBody settled.1.2 opens stops)⟩
  | _ => exact ⟨settled, read rfl⟩

/-- A body of texts and references is read with its parts. -/
theorem BodySegments.inString {readString : Token → Except Located Body} {source : List Char}
    {later : List Char} (stops : rawLength later = 0) {body : Body}
    (inString : body.all Part.isWritableInString = true) (settled : body.isSettled = true)
    (start : Nat) :
    ∃ segments placed, BodySegments readString source start (Part.writtenBody body) body later
      segments placed := by
  induction body generalizing start with
  | nil => exact ⟨_, _, BodySegments.nil⟩
  | cons part rest induction =>
    rw [List.all_cons, Bool.and_eq_true] at inString
    obtain ⟨first, others⟩ := inString
    have opens : ∀ part ∈ rest, part.isText = false →
        ∀ more, rawLength (part.written ++ more) = 0 := by
      intro part mem other more
      have writable := List.all_eq_true.mp others part mem
      cases part with
      | text content => cases other
      | reference path filters span => exact BodySegments.rawLength_reference writable
      | _ => cases writable
    have free (content : String) (isText : part = .text content) : '{' ∉ content.toList := by
      subst isText
      intro mem
      have plain := List.all_eq_true.mp first '{' mem
      cases plain
    obtain ⟨settled, segments, placed, front⟩ := BodySegments.first settled opens stops free
      fun other => by
        cases part with
        | text content => cases other
        | reference path filters span => exact BodySegments.reference first
        | _ => cases first
    obtain ⟨more, behind, back⟩ := induction others settled (start + Text.byteSize part.written)
    exact ⟨_, _, front.append back⟩

/-- Adding parts puts them to the innermost body. -/
theorem Assembly.addAll_eq (opened : List OpenTag) (scope : Body) (outer : List Body)
    (blocks : Dict Body) (parts : List Part) :
    Assembly.addAll ⟨opened, scope :: outer, blocks⟩ parts =
      ⟨opened, parts.foldl Body.push scope :: outer, blocks⟩ := by
  induction parts generalizing scope with
  | nil => rfl
  | cons part rest induction => exact induction (scope.push part)

/-- Adding the parts of a body whose texts are kept apart gives the body. -/
theorem Assembly.addAll_settled (opened : List OpenTag) (outer : List Body) (blocks : Dict Body)
    {body : Body} (settled : body.isSettled = true) :
    Assembly.addAll ⟨opened, [] :: outer, blocks⟩ body = ⟨opened, body :: outer, blocks⟩ := by
  rw [addAll_eq, Body.foldl_push settled (.inl rfl), List.nil_append]

/-- There are no segments behind a text. -/
theorem Segment.ofText_nil (readString : Token → Except Located Body) (source : List Char)
    (start : Nat) : Segment.ofText readString source start [] = ⟨[], none⟩ := by
  unfold Segment.ofText Token.meaningful
  rw [Token.stream]
  simp [Stream.withoutBlanks, Segment.stream, TokenMode.failureAtEnd]

/-- The template of a text whose segments are put together. -/
theorem Body.ofText_eq {readString : Token → Except Located Body} {source text : List Char}
    {start : Nat} {segments : List Segment} {body : Body} {blocks : Dict Body}
    (yields : Yields readString source start text segments [])
    (run : Assembly.start.run segments = .ok ⟨[], [body], blocks⟩) :
    Body.ofText readString .preserve source start text = .ok (body, blocks) := by
  have all : Segment.ofText readString source start text = ⟨segments, none⟩ := by
    have found : Segment.ofText readString source start (text ++ []) = _ := yields
    rw [List.append_nil, Segment.ofText_nil] at found
    simpa [Stream.prepend] using found
  show Body.ofSegments (Segment.ofText readString source start text) = _
  rw [all]
  simp only [Body.ofSegments, run, bind, Except.bind]
  rfl

/-- The body of a text that is read as its parts. -/
theorem BodySegments.ofText {readString : Token → Except Located Body} {source text : List Char}
    {start : Nat} {body placed : Body} {segments : List Segment}
    (found : BodySegments readString source start text body [] segments placed)
    (settled : body.isSettled = true) :
    Body.ofText readString .preserve source start text = .ok (placed, []) := by
  apply Body.ofText_eq found.yields
  have run := found.adds Assembly.start []
  rw [List.append_nil] at run
  rw [run, Assembly.start,
    Assembly.addAll_settled _ _ _ (Body.isSettled_of_same found.same settled)]
  rfl

/-! ## Strings -/

/-- A text without escapes stands for itself. -/
theorem unescape_eq_self {text : List Char} (plain : ∀ c ∈ text, c ≠ '\\') :
    unescape text = text := by
  induction text with
  | nil => rfl
  | cons c rest induction =>
    have more := induction fun c mem => plain c (List.mem_cons_of_mem _ mem)
    have other := plain c List.mem_cons_self
    rw [unescape, more]
    intro _ same
    exact absurd same other

/-- Plain characters are neither quotes nor escapes nor braces. -/
theorem ne_of_isPlain {c : Char} (plain : isPlain c = true) : c ≠ '{' ∧ c ≠ '"' ∧ c ≠ '\\' := by
  simpa [isPlain, and_assoc] using plain

/-- The inside of a string. -/
theorem Token.inside_quoted (text : List Char) (start : Nat) :
    Token.inside ⟨.string, '"' :: (text ++ ['"']), start⟩ 1 1 = text := by
  simp [inside]

/-- A string of plain characters is read as its text. -/
theorem Token.stringBody_plain {source : List Char} {text : String} {start : Nat}
    (plain : text.toList.all isPlain = true) :
    ∃ body, Token.stringBody source ⟨.string, quotedText text, start⟩ = .ok body ∧
      body.text? = some text := by
  have each (c : Char) (mem : c ∈ text.toList) := ne_of_isPlain (List.all_eq_true.mp plain c mem)
  have free : '{' ∉ text.toList := fun mem => (each _ mem).1 rfl
  refine ⟨Body.push [] (.text text), ?_, ?_⟩
  · unfold Token.stringBody Token.plainBody quotedText
    rw [inside_quoted, if_neg free, unescape_eq_self fun c mem => (each c mem).2.2,
      String.ofList_toList]
  · by_cases empty : text = ""
    · rw [empty]
      rfl
    · rw [Body.push_text empty rfl]
      rfl

/-- The characters of a part that is written in a string are neither quotes nor escapes. -/
theorem ne_of_mem_written {part : Part} (inString : part.isWritableInString = true) :
    ∀ c ∈ part.written, c ≠ '"' ∧ c ≠ '\\' := by
  cases part with
  | text content =>
    intro c mem
    rw [Part.written] at mem
    exact (ne_of_isPlain (List.all_eq_true.mp inString c mem)).2
  | reference path filters span =>
    intro c mem
    simp only [Part.isWritableInString, Part.isWritableReference, Bool.and_eq_true] at inString
    rw [Part.written, List.mem_cons, List.mem_append, List.mem_singleton] at mem
    rcases mem with rfl | mem | rfl
    · decide
    · have inReference := isReferencePart_of_filtered inString.1 inString.2 c mem
      constructor
      · rintro rfl
        exact absurd inReference (by decide)
      · rintro rfl
        exact absurd inReference (by decide)
    · decide
  | _ => cases inString

/-- The characters of a body are those of its parts. -/
theorem Part.mem_writtenBody {body : Body} {c : Char} :
    c ∈ Part.writtenBody body ↔ ∃ part ∈ body, c ∈ part.written := by
  induction body with
  | nil => simp [writtenBody]
  | cons part rest induction => simp [writtenBody, induction]

/-- The parts of a body with the tree of a body that is written in a string hold no escapes. -/
theorem Part.unescaped_eq_self {body placed : Body}
    (inString : body.all Part.isWritableInString = true)
    (same : Part.unplacedBody placed = Part.unplacedBody body) {part : Part}
    (mem : part ∈ placed) : part.unescaped = part := by
  rw [unplacedBody_eq_map, unplacedBody_eq_map] at same
  have found : part.unplaced ∈ body.map Part.unplaced := same ▸ List.mem_map_of_mem mem
  obtain ⟨origin, isOrigin, equal⟩ := List.mem_map.mp found
  cases part with
  | text content =>
    have text : origin = .text content := by
      cases origin <;> cases equal
      rfl
    have plain := List.all_eq_true.mp inString origin isOrigin
    rw [text] at plain
    have each (c : Char) (mem : c ∈ content.toList) :=
      ne_of_isPlain (List.all_eq_true.mp plain c mem)
    rw [unescaped, unescape_eq_self fun c mem => (each c mem).2.2, String.ofList_toList]
  | _ => rfl

/-- A string of texts and references is read with its parts. -/
theorem Token.stringBody_interpolated {source : List Char} {body : Body} {start : Nat}
    (writable : Body.isWritableString body = true) :
    ∃ placed,
      Token.stringBody source ⟨.string, '"' :: (Part.writtenBody body ++ ['"']), start⟩ =
        .ok placed ∧ Part.unplacedBody placed = Part.unplacedBody body ∧ placed.text? = none := by
  simp only [Body.isWritableString, Bool.and_eq_true] at writable
  obtain ⟨⟨inString, some⟩, settled⟩ := writable
  obtain ⟨reference, isPart, isReference⟩ := List.any_eq_true.mp some
  obtain ⟨segments, placed, found⟩ := @BodySegments.inString (fun string => .ok string.plainBody)
    source [] rfl body inString settled (start + 1)
  have brace : '{' ∈ Part.writtenBody body := by
    refine Part.mem_writtenBody.mpr ⟨reference, isPart, ?_⟩
    cases reference with
    | reference path filters span => exact List.mem_cons_self
    | _ => cases isReference
  have noText : placed.text? = none := by
    have mem : reference.unplaced ∈ placed.map Part.unplaced := by
      rw [← Part.unplacedBody_eq_map, found.same, Part.unplacedBody_eq_map]
      exact List.mem_map_of_mem isPart
    obtain ⟨part, mem, equal⟩ := List.mem_map.mp mem
    refine Body.text?_eq_none mem ?_
    rw [← Part.isText_unplaced, equal, Part.isText_unplaced]
    cases reference with
    | text content => cases isReference
    | _ => rfl
  refine ⟨placed, ?_, found.same, noText⟩
  have joined : placed.foldl (fun (joined : Body) part => joined.push part.unescaped) [] =
      placed := by
    have plain (joined : Body) (part : Part) (mem : part ∈ placed) :
        joined.push part.unescaped = joined.push part := by
      rw [Part.unescaped_eq_self inString found.same mem]
    rw [List.foldl_ext _ _ _ plain]
    exact Body.foldl_push (Body.isSettled_of_same found.same settled) (.inl rfl)
  unfold Token.stringBody
  rw [inside_quoted, if_pos brace, found.ofText settled]
  simp only [bind, Except.bind, joined]

end Dust
