import Dust.Proofs.Syntax.Assembling
import Dust.Proofs.Syntax.TagReading

/-!
# Compiling templates that are written

A template tree that can be written is compiled from its text, up to the places of its parts. The
proof follows the tree: the text of a part is read as segments that add a part with the same tree,
whatever text stands behind it and whatever tags are open around it.
-/

namespace Dust

namespace BodySegments

variable {source later : List Char} {start : Nat}

/-! ## Tags -/

/-- The text of a partial begins with the quotes of its name. -/
theorem begins_target (target : Target) : Begins .openPartial target.written := by
  cases target with
  | static name => exact ⟨rfl, fun _ => rfl⟩
  | dynamic body => exact ⟨rfl, fun _ => rfl⟩

/-- A partial is read with its name, its path and its parameters. -/
theorem inclusion {target : Target} {context : Option Path} {params : List Param} {span : Span}
    (writable : Part.isWritable (.inclusion target context params span) = true) :
    ∃ segments placed, BodySegments (Token.stringBody source) source start
      (Part.written (.inclusion target context params span))
      [.inclusion target context params span] later segments placed := by
  simp only [Part.isWritable, Bool.and_eq_true] at writable
  obtain ⟨⟨writableTarget, writableContext⟩, writableParams⟩ := writable
  have begins := ((begins_target target).append (Path.writtenContext context)).append
    (Param.writtenAll params)
  obtain ⟨opening, enclosed⟩ :=
    @Cuts.enclosed start '>' _ _ _ _ later rfl begins (Cuts.close true later)
  have stops := stops_closeText true later
  obtain ⟨token, placedTarget, name, sameTarget, readTarget⟩ :=
    @Target.tokens_of_written opening source (start + Text.byteSize ['{', '>']) target
      (Path.writtenContext context ++ (Param.writtenAll params ++ (closeText true ++ later)))
      writableTarget
  obtain ⟨way, placedContext, path, sameContext, readContext⟩ :=
    @Path.tokens_of_context opening _ context _ writableContext
      ((stops_writtenAll params).append stops).word
  obtain ⟨more, placedParams, found⟩ :=
    @Param.tokens_of_written opening source _ stops params writableParams
      (start + Text.byteSize ['{', '>'] +
        Text.byteSize (target.written ++ Path.writtenContext context))
  obtain ⟨stop, cut⟩ := enclosed _ ((name.append path).append found.cuts)
  let first : Token := ⟨.openPartial, ['{', '>'], start⟩
  let last : Token := ⟨.selfClose, ['/', '}'], stop⟩
  have read (failure : Option Located) (rest : List Token) :
      Segment.readPartial ⟨source, failure⟩ (Token.stringBody source) first
          ([token] ++ way ++ more ++ [last] ++ rest) =
        .ok (.part (.inclusion placedTarget placedContext placedParams
          (first.span.cover last.span)), rest) := by
    have ends : EndsTag ([last] ++ rest) := @endsTag_close true last rest rfl
    have apart := found.apart ends
    rw [Text.byteSize_append, ← Nat.add_assoc] at apart
    have ending : Input.take ⟨source, failure⟩ .selfClose ([last] ++ rest) = .ok (last, rest) :=
      Input.take_of_kind rfl
    rw [List.append_assoc, List.append_assoc, List.append_assoc, List.singleton_append]
    simp only [Segment.readPartial, readTarget, readContext _ _ apart, found.read failure _ ends,
      ending, bind, Except.bind]
  exact ofRead cut read (by simp only [Part.unplaced, sameTarget, sameContext, found.same])

/-- A section or helper without bodies is read as its tag. -/
theorem elementAlone {head : Head} {params : List Param} {span : Span}
    (writable : head.isWritable = true) (writableParams : params.all Param.isWritable = true)
    (stands : Stands source start (Part.written (.element head params none [] span))) :
    ∃ segments placed, BodySegments (Token.stringBody source) source start
      (Part.written (.element head params none [] span)) [.element head params none [] span] later
      segments placed := by
  rw [Part.written] at stands
  obtain ⟨placed, placedParams, place, same, sameParams, yields⟩ :=
    @Yields.element source later start head params true writable writableParams stands.inside.left
  refine ⟨_, _, part yields ?_⟩
  simp only [Part.unplaced, same, sameParams]

/-- The close tag of a section or helper is read with its key. -/
theorem closesHead {head : Head} (writable : head.isWritable = true)
    (stands : Stands source start (writtenTag '/' head.writtenKey)) :
    ∃ span, Yields (Token.stringBody source) source start (writtenTag '/' head.writtenKey)
      [.closing (String.ofList head.writtenKey) span] later := by
  have ends : Stops isWordPart ('}' :: later) := (stops_closeText false later).word
  refine Yields.closing (Head.begins writable (by decide)) stands.inside fun opening => ?_
  obtain ⟨tokens, _, solid, whole, _⟩ := @Head.tokens_of_written opening source _ _ head writable
    ends stands.inside
  exact ⟨tokens, solid, whole⟩

/-- The close tag of a block or inline partial is read with its name. -/
theorem closesName {readString : Token → Except Located Body} {name : String}
    (word : isWord name = true) (stands : Stands source start (writtenTag '/' name.toList)) :
    ∃ span, Yields readString source start (writtenTag '/' name.toList) [.closing name span]
      later := by
  have begins : Begins .openClose name.toList := Begins.word word (by decide)
  have ends : Stops isWordPart ('}' :: later) := (stops_closeText false later).word
  have found := @Yields.closing readString source later _ _ begins stands.inside fun opening =>
    ⟨_, by simp, CutsWhole.name word ends⟩
  rwa [String.ofList_toList] at found

end BodySegments

/-- A text is read as segments that put bodies with the trees of named bodies behind those that are
complete. -/
structure NamedSegments (source : List Char) (start : Nat) (bodies : List (String × Body))
    (later : List Char) (segments : List Segment) (placed : List (String × Body)) : Prop where
  /-- The segments of the text. -/
  yields : Yields (Token.stringBody source) source start (Part.writtenBodies bodies) segments later
  /-- The bodies have the trees of the named bodies. -/
  same : Part.unplacedBodies placed = Part.unplacedBodies bodies
  /-- The segments put the bodies. -/
  adds : Assembly.AddsBodies segments placed

/-- Names are kept where places are dropped. -/
theorem Part.keys_unplacedBodies (bodies : List (String × Body)) :
    Dict.keys (Part.unplacedBodies bodies) = Dict.keys bodies := by
  induction bodies with
  | nil => rfl
  | cons entry rest induction =>
    obtain ⟨name, body⟩ := entry
    rw [unplacedBodies, Dict.keys, Dict.keys, List.map_cons, List.map_cons]
    exact congrArg (name :: ·) induction

/-- Bodies with the trees of named bodies are in the same order. -/
theorem Part.sorted_of_same {bodies placed : List (String × Body)}
    (same : Part.unplacedBodies placed = Part.unplacedBodies bodies)
    (sorted : Dict.Sorted bodies) : Dict.Sorted placed := by
  have keys := congrArg Dict.keys same
  rw [keys_unplacedBodies, keys_unplacedBodies] at keys
  unfold Dict.Sorted at sorted ⊢
  rw [keys]
  exact sorted

namespace BodySegments

variable {source later : List Char} {start : Nat}

/-- Nothing raw stands where named bodies begin, if nothing raw stands behind them. -/
theorem rawLength_writtenBodies {bodies : List (String × Body)}
    (writable : Part.areWritableBodies bodies = true) (stops : rawLength later = 0) :
    rawLength (Part.writtenBodies bodies ++ later) = 0 := by
  cases bodies with
  | nil => exact stops
  | cons entry rest =>
    obtain ⟨name, body⟩ := entry
    simp only [Part.areWritableBodies, Bool.and_eq_true] at writable
    have begins : Begins .openBody name.toList := Begins.word writable.1.1.1 (by decide)
    rw [Part.writtenBodies, List.append_assoc, List.append_assoc]
    exact rawLength_enclosed rfl begins

/-- A section or helper with bodies is read from its open tag to its close tag. -/
theorem element {head : Head} {params : List Param} {main : Body}
    {bodies : List (String × Body)} {span : Span} (writable : head.isWritable = true)
    (writableParams : params.all Param.isWritable = true) (settled : main.isSettled = true)
    (sorted : Dict.Sorted bodies) (writableBodies : Part.areWritableBodies bodies = true)
    (stands : Stands source start (Part.written (.element head params (some main) bodies span)))
    (readMain : ∀ place later, rawLength later = 0 →
      Stands source place (Part.writtenBody main) →
        ∃ segments placed, BodySegments (Token.stringBody source) source place
          (Part.writtenBody main) main later segments placed)
    (readNamed : ∀ place later, rawLength later = 0 →
      Stands source place (Part.writtenBodies bodies) →
        ∃ segments placed, NamedSegments source place bodies later segments placed) :
    ∃ segments placed, BodySegments (Token.stringBody source) source start
      (Part.written (.element head params (some main) bodies span))
      [.element head params (some main) bodies span] later segments placed := by
  have rawClose : rawLength (writtenTag '/' head.writtenKey ++ later) = 0 :=
    rawLength_enclosed rfl (Head.begins writable (by decide))
  have rawNamed := rawLength_writtenBodies writableBodies rawClose
  rw [Part.written] at stands ⊢
  have standsTag := stands.left.left.left
  obtain ⟨placed, placedParams, place, same, sameParams, opens⟩ :=
    @Yields.element source _ start head params false writable writableParams
      standsTag.inside.left
  obtain ⟨segments, placedMain, mainSegments⟩ := readMain _ _ rawNamed stands.left.left.right
  obtain ⟨more, placedBodies, named⟩ := readNamed _ _ rawClose stands.left.right
  obtain ⟨stop, closes⟩ := @closesHead source later _ head writable stands.right
  have sortedPlaced := Part.sorted_of_same named.same sorted
  have settledMain := Body.isSettled_of_same mainSegments.same settled
  refine ⟨_, [.element placed placedParams (some placedMain) placedBodies (place.cover stop)],
    ((opens.append mainSegments.yields).append named.yields).append closes, ?_, ?_⟩
  · simp only [Part.unplacedBody, Part.unplaced, Part.unplacedMain, same, sameParams,
      mainSegments.same, named.same]
  · exact Assembly.run_element mainSegments.adds settledMain named.adds sortedPlaced placed
      placedParams _ place stop

/-- A block that holds nothing is read as its tag. -/
theorem blockAlone {readString : Token → Except Located Body} {name : Identifier}
    (word : isWord name.name = true) :
    ∃ segments placed, BodySegments readString source start
      (Part.written (.block name none)) [.block name none] later segments placed := by
  obtain ⟨placed, same, yields⟩ :=
    @Yields.block readString source later start name true false word
  refine ⟨_, _, part yields ?_⟩
  simp only [Part.unplaced, Identifier.unplaced, same]

/-- The tags around the body of a block or inline partial. -/
def writtenAround (defines : Bool) (name : String) (body : Body) : List Char :=
  writtenTag (blockSigil defines) name.toList ++ Part.writtenBody body ++
    writtenTag '/' name.toList

/-- A block or inline partial is read from its open tag to its close tag. -/
theorem around {name : Identifier} {body : Body} (defines : Bool)
    (word : isWord name.name = true) (settled : body.isSettled = true)
    (stands : Stands source start (writtenAround defines name.name body))
    (readBody : ∀ place later, rawLength later = 0 →
      Stands source place (Part.writtenBody body) →
        ∃ segments placed, BodySegments (Token.stringBody source) source place
          (Part.writtenBody body) body later segments placed) :
    ∃ (segments : List Segment) (placedName : Identifier) (placed : Body),
      placedName.name = name.name ∧ Part.unplacedBody placed = Part.unplacedBody body ∧
      Yields (Token.stringBody source) source start (writtenAround defines name.name body)
        segments later ∧
      ∀ (assembly : Assembly) (rest : List Segment), assembly.run (segments ++ rest) =
        (if defines then assembly.define name.name placed
          else assembly.add (.block placedName (some placed))).run rest := by
  have begins : Begins .openClose name.name.toList := Begins.word word (by decide)
  have rawClose : rawLength (writtenTag '/' name.name.toList ++ later) = 0 :=
    rawLength_enclosed rfl begins
  unfold writtenAround at stands ⊢
  obtain ⟨placedName, same, opens⟩ :=
    @Yields.block (Token.stringBody source) source _ start name false defines word
  obtain ⟨segments, placed, inside⟩ := readBody _ _ rawClose stands.left.right
  obtain ⟨stop, closes⟩ :=
    @closesName source later _ (Token.stringBody source) name.name word stands.right
  refine ⟨_, placedName, placed, same, inside.same,
    (opens.append inside.yields).append closes, ?_⟩
  intro assembly rest
  have run := Assembly.run_block inside.adds (Body.isSettled_of_same inside.same settled)
    placedName defines stop assembly rest
  rw [same] at run
  simpa using run

/-- A block with a body is read from its open tag to its close tag. -/
theorem block {name : Identifier} {body : Body} (word : isWord name.name = true)
    (settled : body.isSettled = true)
    (stands : Stands source start (Part.written (.block name (some body))))
    (readBody : ∀ place later, rawLength later = 0 →
      Stands source place (Part.writtenBody body) →
        ∃ segments placed, BodySegments (Token.stringBody source) source place
          (Part.writtenBody body) body later segments placed) :
    ∃ segments placed, BodySegments (Token.stringBody source) source start
      (Part.written (.block name (some body))) [.block name (some body)] later segments
      placed := by
  rw [Part.written] at stands ⊢
  obtain ⟨segments, placedName, placed, sameName, same, yields, run⟩ :=
    @around source later start name body false word settled stands readBody
  refine ⟨segments, [.block placedName (some placed)], yields, ?_, run⟩
  simp only [Part.unplacedBody, Part.unplaced, Part.unplacedMain, Identifier.unplaced, sameName,
    same]

end BodySegments

/-! ## Parts and bodies -/

/-- Nothing raw stands where a part begins that is no text. -/
theorem Part.rawLength_written {part : Part} (writable : part.isWritable = true)
    (other : part.isText = false) (later : List Char) :
    rawLength (part.written ++ later) = 0 := by
  cases part with
  | text content => cases other
  | comment content => exact BodySegments.rawLength_comment (of_decide_eq_true writable)
  | reference path filters span => exact BodySegments.rawLength_reference writable
  | element head params main bodies span =>
    simp only [isWritable, Bool.and_eq_true] at writable
    obtain ⟨⟨⟨⟨⟨writableHead, _⟩, _⟩, _⟩, _⟩, _⟩ := writable
    have begins := (Head.begins writableHead head.opens_ne).append (Param.writtenAll params)
    cases main with
    | none => exact rawLength_enclosed head.ofSigil?_sigil begins
    | some body =>
      rw [written, List.append_assoc, List.append_assoc, List.append_assoc]
      exact rawLength_enclosed head.ofSigil?_sigil begins
  | block name main =>
    simp only [isWritable, Bool.and_eq_true] at writable
    have begins : Begins .openBlock name.name.toList := Begins.word writable.1 (by decide)
    cases main with
    | none => exact rawLength_enclosed rfl begins
    | some body =>
      rw [written, List.append_assoc, List.append_assoc]
      exact rawLength_enclosed rfl begins
  | inclusion target context params span =>
    have begins := ((BodySegments.begins_target target).append
      (Path.writtenContext context)).append (Param.writtenAll params)
    exact rawLength_enclosed rfl begins

/-- Nothing raw stands where a part of a body begins that is no text. -/
theorem Part.rawLength_of_mem {body : Body} (writable : Part.areWritable body = true) :
    ∀ part ∈ body, part.isText = false → ∀ later, rawLength (part.written ++ later) = 0 := by
  induction body with
  | nil => simp
  | cons first rest induction =>
    simp only [areWritable, Bool.and_eq_true] at writable
    intro part mem other
    rcases List.mem_cons.mp mem with rfl | mem
    · exact rawLength_written writable.1 other
    · exact induction writable.2 part mem other

mutual

/-- The text of a part that is no text is read as the part. -/
theorem Part.segments_of_written {source : List Char} : ∀ (part : Part) (start : Nat)
    (later : List Char), part.isWritable = true → part.isText = false →
      Stands source start part.written →
        ∃ segments placed, BodySegments (Token.stringBody source) source start part.written [part]
          later segments placed
  | .text _, _, _, _, other, _ => by cases other
  | .comment _, _, _, writable, _, _ =>
    ⟨_, _, BodySegments.comment (of_decide_eq_true writable)⟩
  | .reference _ _ _, _, _, writable, _, _ => BodySegments.reference writable
  | .inclusion _ _ _ _, _, _, writable, _, _ => BodySegments.inclusion writable
  | .block name none, _, _, writable, _, _ => by
    simp only [Part.isWritable, Bool.and_eq_true] at writable
    exact BodySegments.blockAlone writable.1
  | .block name (some body), _, _, writable, _, stands => by
    simp only [Part.isWritable, Part.isWritableMain, Bool.and_eq_true] at writable
    exact BodySegments.block writable.1 writable.2.2 stands fun place later stops stands =>
      Part.segments_of_body body place later writable.2.1 writable.2.2 stops stands
  | .element head params none bodies span, start, later, writable, _, stands => by
    simp only [Part.isWritable, Bool.and_eq_true, Option.isSome_none, Bool.false_or,
      List.isEmpty_iff] at writable
    obtain ⟨⟨⟨⟨⟨writableHead, writableParams⟩, rfl⟩, _⟩, _⟩, _⟩ := writable
    exact BodySegments.elementAlone writableHead writableParams stands
  | .element head params (some main) bodies span, start, later, writable, _, stands => by
    simp only [Part.isWritable, Part.isWritableMain, Bool.and_eq_true, decide_eq_true_eq]
      at writable
    obtain ⟨⟨⟨⟨⟨writableHead, writableParams⟩, _⟩, sorted⟩, writableMain, settled⟩, named⟩ :=
      writable
    exact BodySegments.element writableHead writableParams settled sorted named stands
      (fun place later stops stands =>
        Part.segments_of_body main place later writableMain settled stops stands)
      (fun place later stops stands =>
        Part.segments_of_bodies bodies place later named stops stands)

/-- The text of a body is read as its parts. -/
theorem Part.segments_of_body {source : List Char} : ∀ (body : List Part) (start : Nat)
    (later : List Char), Part.areWritable body = true → Body.isSettled body = true →
      rawLength later = 0 → Stands source start (Part.writtenBody body) →
        ∃ segments placed, BodySegments (Token.stringBody source) source start
          (Part.writtenBody body) body later segments placed
  | [], _, _, _, _, _, _ => ⟨_, _, BodySegments.nil⟩
  | part :: rest, start, later, writable, settled, stops, stands => by
    simp only [Part.areWritable, Bool.and_eq_true] at writable
    have opens := Part.rawLength_of_mem writable.2
    have free (content : String) (isText : part = .text content) : '{' ∉ content.toList := by
      subst isText
      exact of_decide_eq_true writable.1
    obtain ⟨settled, segments, placed, front⟩ := BodySegments.first settled opens stops free
      fun other => Part.segments_of_written part start _ writable.1 other stands.left
    obtain ⟨more, behind, back⟩ := Part.segments_of_body rest _ later writable.2 settled stops
      stands.right
    exact ⟨_, _, front.append back⟩

/-- The text of named bodies is read as the bodies. -/
theorem Part.segments_of_bodies {source : List Char} : ∀ (bodies : List (String × List Part))
    (start : Nat) (later : List Char), Part.areWritableBodies bodies = true →
      rawLength later = 0 → Stands source start (Part.writtenBodies bodies) →
        ∃ segments placed, NamedSegments source start bodies later segments placed
  | [], _, _, _, _, _ => ⟨[], [], Yields.nil, rfl, Assembly.AddsBodies.nil⟩
  | (name, body) :: rest, start, later, writable, stops, stands => by
    simp only [Part.areWritableBodies, Bool.and_eq_true] at writable
    obtain ⟨⟨⟨word, writableBody⟩, settled⟩, others⟩ := writable
    have raw := BodySegments.rawLength_writtenBodies others stops
    obtain ⟨span, tag⟩ := @Yields.body (Token.stringBody source) source _ start name word
    obtain ⟨segments, placed, inside⟩ := Part.segments_of_body body _ _ writableBody settled raw
      stands.left.right
    obtain ⟨more, behind, back⟩ := Part.segments_of_bodies rest _ later others stops stands.right
    refine ⟨_, (name, placed) :: behind, (tag.append inside.yields).append back.yields, ?_, ?_⟩
    · rw [Part.unplacedBodies, Part.unplacedBodies, inside.same, back.same]
    · exact Assembly.AddsBodies.cons inside.adds (Body.isSettled_of_same inside.same settled)
        back.adds span

end

/-! ## Templates -/

/-- The text of inline partials is read as segments that set them aside in their order. -/
theorem Template.segments_of_blocks {source later : List Char} :
    ∀ (blocks : List (String × Body)) (start : Nat), Part.areWritableBodies blocks = true →
      Stands source start (blocks.flatMap writtenBlock) →
        ∃ segments placed,
          Yields (Token.stringBody source) source start (blocks.flatMap writtenBlock) segments
              later ∧
            Part.unplacedBodies placed = Part.unplacedBodies blocks ∧
            ∀ (before : Dict Body) (rest : List Segment), Dict.Sorted (before ++ placed) →
              Assembly.run ⟨[], [[]], before⟩ (segments ++ rest) =
                Assembly.run ⟨[], [[]], before ++ placed⟩ rest
  | [], _, _, _ => ⟨[], [], Yields.nil, rfl, fun before rest _ => by rw [List.append_nil]; rfl⟩
  | (name, body) :: blocks, start, writable, stands => by
    simp only [Part.areWritableBodies, Bool.and_eq_true] at writable
    obtain ⟨⟨⟨word, writableBody⟩, settled⟩, others⟩ := writable
    rw [List.flatMap_cons] at stands ⊢
    obtain ⟨segments, placedName, placed, sameName, same, yields, run⟩ :=
      @BodySegments.around source (blocks.flatMap writtenBlock ++ later) start ⟨name, default⟩ body
        true word settled stands.left fun place later stops stands =>
          Part.segments_of_body body place later writableBody settled stops stands
    obtain ⟨more, behind, back, sameBehind, runBehind⟩ :=
      segments_of_blocks blocks _ others stands.right
    refine ⟨segments ++ more, (name, placed) :: behind, yields.append back, ?_, ?_⟩
    · rw [Part.unplacedBodies, Part.unplacedBodies, same, sameBehind]
    · intro before rest sorted
      have split : before ++ (name, placed) :: behind = before ++ [(name, placed)] ++ behind := by
        simp
      rw [split] at sorted ⊢
      have front : Dict.Sorted (before ++ [(name, placed)]) := sorted.left
      rw [List.append_assoc, run, ← runBehind _ rest sorted, ← Dict.insert_last front]
      rfl

/-- A template that can be written is compiled from its text: the compiled template has its tree,
and keeps the text. -/
theorem Template.compile_written {template : Template} (writable : template.isWritable = true) :
    ∃ compiled,
      Template.compile .preserve (String.ofList template.written) = .ok compiled ∧
        compiled.SameTree template ∧ compiled.source = String.ofList template.written := by
  simp only [isWritable, Bool.and_eq_true, decide_eq_true_eq] at writable
  obtain ⟨⟨⟨writableBody, settled⟩, sorted⟩, writableBlocks⟩ := writable
  have stands : Stands template.written 0
      (template.blocks.flatMap writtenBlock ++ Part.writtenBody template.body) := Stands.self
  obtain ⟨segments, blocks, yields, sameBlocks, runBlocks⟩ :=
    @segments_of_blocks template.written _ template.blocks 0 writableBlocks stands.left
  obtain ⟨more, body, found⟩ := Part.segments_of_body template.body _ [] writableBody settled rfl
    stands.right
  have run : Assembly.start.run (segments ++ more) = .ok ⟨[], [body], blocks⟩ := by
    have first := runBlocks [] more (Part.sorted_of_same sameBlocks sorted)
    have second := found.adds ⟨[], [[]], blocks⟩ []
    rw [Assembly.addAll_settled _ _ _ (Body.isSettled_of_same found.same settled)] at second
    rw [List.append_nil] at second
    exact first.trans second
  have text : Body.ofText (Token.stringBody template.written) .preserve template.written 0
      template.written = .ok (body, blocks) :=
    Body.ofText_eq (yields.append found.yields) run
  refine ⟨⟨String.ofList template.written, body, blocks, none⟩, ?_, ⟨found.same, sameBlocks⟩, rfl⟩
  unfold compile
  rw [String.toList_ofList]
  simp only [text, bind, Except.bind]

/-- A list of guests with a title, a part of every kind, and a string that is rendered. -/
def guestList : Template where
  source := ""
  body :=
    [.comment "guests", .text "Dear ",
      .element (.test .iterate ⟨.relative, [.name "guests", .index 0], default⟩)
        [⟨⟨"gap", default⟩, .literal (.string ", ")⟩,
          ⟨⟨"limit", default⟩, .literal (.integer (-1))⟩,
          ⟨⟨"link", default⟩, .interpolated [.text "guest/",
            .reference ⟨.current, [.name "id"], default⟩ [⟨"u", default⟩] default]⟩]
        (some [.reference
          ⟨.current, [.path ⟨.relative, [.name "key"], default⟩], default⟩ [] default])
        [("else", [.text "nobody"])] default,
      .element (.helper ⟨"sep", default⟩) [] none [] default,
      .block ⟨"footer", default⟩ (some [.text "Bye"]),
      .inclusion (.static "common/end") (some ⟨.current, [], default⟩)
        [⟨⟨"year", default⟩, .path ⟨.relative, [.name "year"], default⟩⟩] default]
  blocks := [("title", [.text "Guests"])]
  path := none

/-- The list of guests can be written, and is compiled from its text. -/
theorem Template.compile_written_guestList :
    guestList.isWritable = true ∧
      ∃ compiled, Template.compile .preserve (String.ofList guestList.written) = .ok compiled ∧
        compiled.SameTree guestList ∧ compiled.source = String.ofList guestList.written :=
  ⟨by decide, compile_written (by decide)⟩

end Dust
