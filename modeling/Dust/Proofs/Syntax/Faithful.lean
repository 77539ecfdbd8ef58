import Dust.Proofs.Render.Ownership
import Dust.Proofs.Syntax.Spaced
import Mathlib.Data.List.Chain

/-!
# Trees that are faithful to a source

A template is faithful to the source it is compiled from if its tree has the shape of the text: what
stands in a part stands inside the span of the part, what stands side by side stands one behind the
other, texts are merged, and what has a main body ends with a close tag of its key. `standsIn` is
the demand on a tree that all of it is so and that it lies in a room, which is a span that may be
greater than what the tree takes.
-/

namespace Dust

/-! ### Spans in spans -/

/-- A span lies in another one. -/
structure Span.Encloses (room span : Span) : Prop where
  /-- It does not begin before it. -/
  start : room.start ≤ span.start
  /-- It does not end behind it. -/
  stop : span.stop ≤ room.stop

namespace Span.Encloses

variable {outer room span : Span}

/-- A span lies in itself. -/
theorem refl (span : Span) : span.Encloses span :=
  ⟨Nat.le_refl _, Nat.le_refl _⟩

/-- What lies in a span lies in every span around it. -/
theorem trans (around : outer.Encloses room) (within : room.Encloses span) : outer.Encloses span :=
  ⟨Nat.le_trans around.start within.start, Nat.le_trans within.stop around.stop⟩

/-- A span lies in one that goes on behind it. -/
theorem upTo {start stop later : Nat} (le : stop ≤ later) :
    Encloses ⟨start, later⟩ ⟨start, stop⟩ :=
  ⟨Nat.le_refl _, le⟩

end Span.Encloses

/-- All places and names of a tree lie in a span. -/
def inside (room : Span) : Demand where
  span := room.Encloses
  name identifier := room.Encloses identifier.span

mutual

/-- The paths in a path stand inside its span, and so do the paths in them. -/
def Path.IsNested : Path → Prop
  | ⟨_, keys, span⟩ => Path.KeysNested span keys

/-- A path in a key stands inside a span. -/
def Key.IsNested (span : Span) : Key → Prop
  | .path path => span.Encloses path.span ∧ path.IsNested
  | _ => True

/-- The paths in keys stand inside a span. -/
def Path.KeysNested (span : Span) : List Key → Prop
  | [] => True
  | key :: rest => key.IsNested span ∧ Path.KeysNested span rest

end

/-- The paths in keys stand inside a span if that of each key does. -/
theorem Path.keysNested_iff {span : Span} {keys : List Key} :
    Path.KeysNested span keys ↔ ∀ key ∈ keys, key.IsNested span := by
  induction keys with
  | nil => simp [Path.KeysNested]
  | cons key rest induction => simp [Path.KeysNested, induction]

/-- A path in a key stands inside every greater span. -/
theorem Key.IsNested.grow {room span : Span} {key : Key} (nested : key.IsNested span)
    (around : room.Encloses span) : key.IsNested room := by
  cases key with
  | path path => exact ⟨around.trans nested.1, nested.2⟩
  | _ => trivial

/-! ### Parts and bodies -/

/-- The span of a part that has one. -/
def Part.span? : Part → Option Span
  | .reference _ _ span => some span
  | .element _ _ _ _ span => some span
  | .inclusion _ _ _ span => some span
  | _ => none

/-- Texts in a body are merged, and its parts stand one behind the other. -/
structure Body.IsTidy (body : Body) : Prop where
  /-- No text is empty, and none follows another one. -/
  settled : body.isSettled = true
  /-- A span ends before those behind it begin. -/
  ordered : (body.filterMap Part.span?).Pairwise fun span later => span.stop ≤ later.start

/-- A body holds something else than text. -/
def Body.IsMixed (body : Body) : Prop :=
  ∃ part ∈ body, part.isText = false

/-- What a tag with bodies looks at is a nested path. -/
def Head.IsTidy : Head → Prop
  | .test _ key => key.IsNested
  | .helper _ => True

/-- The value of a parameter is a nested path or a tidy body that holds more than text. -/
def Argument.IsTidy : Argument → Prop
  | .path way => way.IsNested
  | .literal _ => True
  | .interpolated body => Body.IsTidy body ∧ Body.IsMixed body

/-- A name that is rendered is a tidy body that holds more than text. -/
def Target.IsTidy : Target → Prop
  | .static _ => True
  | .dynamic body => Body.IsTidy body ∧ Body.IsMixed body

/-- The bodies of a part are tidy and its paths are nested. -/
def Part.IsTidy : Part → Prop
  | .text _ => True
  | .comment _ => True
  | .reference path _ _ => path.IsNested
  | .element head params main bodies _ =>
    head.IsTidy ∧ (∀ param ∈ params, param.argument.IsTidy) ∧
      (∀ body ∈ main, Body.IsTidy body) ∧ ∀ entry ∈ bodies, Body.IsTidy entry.2
  | .block _ main => ∀ body ∈ main, Body.IsTidy body
  | .inclusion target context params _ =>
    target.IsTidy ∧ (∀ path ∈ context, path.IsNested) ∧ ∀ param ∈ params, param.argument.IsTidy

/-- The key that the close tag of a section or helper repeats. -/
def Head.key (source : List Char) : Head → List Char
  | .test _ key => key.span.textIn source
  | .helper name => name.name.toList

/-- A text is a close tag with a key, behind which blank space may stand. -/
def ClosesTag (key text : List Char) : Prop :=
  ∃ blanks, (∀ c ∈ blanks, isTagSpace c = true) ∧ text = '{' :: '/' :: (key ++ blanks ++ ['}'])

/-- A section or helper with a main body ends with a close tag of its key. -/
def Part.IsClosed (source : List Char) : Part → Prop
  | .element head _ (some _) _ span =>
    ∃ text tag, span.Shows source text ∧ tag <:+ text ∧ ClosesTag (head.key source) tag
  | _ => True

/-- A part has the shape of its text in a source. -/
structure Part.IsFaithful (source : List Char) (part : Part) : Prop where
  /-- Its span shows a text in braces. -/
  shows : ∀ span ∈ part.span?, ∃ text, span.Shows source text ∧ ['{'] <+: text ∧ ['}'] <:+ text
  /-- All that it holds lies in its span. -/
  holds : ∀ span ∈ part.span?, part.Meets (inside span)
  /-- Its bodies are tidy and its paths are nested. -/
  tidy : part.IsTidy
  /-- It ends with a close tag if it has a main body. -/
  closed : part.IsClosed source

/-- A template has the shape of a source. -/
structure Template.IsFaithful (source : List Char) (template : Template) : Prop where
  /-- What every name and every tag of it says is written at its place. -/
  written : template.Meets (writtenIn source)
  /-- All bodies of it, those in strings and in inline partials too, are tidy, and all parts of them
  have the shape of their texts. -/
  bodies : ∀ body, template.Holds body → body.IsTidy ∧ ∀ part ∈ body, part.IsFaithful source

/-- The parts of a tree have the shape of their texts in a source, and it lies in a room. -/
def standsIn (source : List Char) (room : Span) : Demand :=
  { inside room with part := Part.IsFaithful source }

variable {source : List Char} {outer room span : Span}

/-- What stands in a room stands in every greater one. -/
theorem standsIn_follows (around : outer.Encloses room) :
    (standsIn source room).Follows (standsIn source room) (standsIn source outer) where
  span within _ := around.trans within
  name within _ := around.trans within
  index _ _ := trivial
  float _ _ := trivial
  keys _ _ := trivial
  part faithful _ := faithful

/-- What stands in a room is inside of it. -/
theorem inside_follows : (standsIn source room).Follows (standsIn source room) (inside room) where
  span within _ := within
  name within _ := within
  index _ _ := trivial
  float _ _ := trivial
  keys _ _ := trivial
  part _ _ := trivial

mutual

/-- A nested path stands in every room around its span. -/
theorem Path.IsNested.meets :
    ∀ {path : Path}, path.IsNested → room.Encloses path.span → path.Meets (standsIn source room)
  | ⟨_, _, _⟩, nested, within => ⟨within, Path.KeysNested.meet nested within⟩

/-- A path in a key stands in every room around the span that it is in. -/
theorem Key.IsNested.meets :
    ∀ {span : Span} {key : Key}, key.IsNested span → room.Encloses span →
      key.Meets (standsIn source room)
  | _, .name _, _, _ => trivial
  | _, .index _, _, _ => trivial
  | _, .path _, nested, within => Path.IsNested.meets nested.2 (within.trans nested.1)

/-- The paths in keys stand in every room around the span that they are in. -/
theorem Path.KeysNested.meet :
    ∀ {span : Span} {keys : List Key}, Path.KeysNested span keys → room.Encloses span →
      Path.KeysMeet (standsIn source room) keys
  | _, [], _, _ => trivial
  | _, _ :: _, nested, within =>
    ⟨Key.IsNested.meets nested.1 within, Path.KeysNested.meet nested.2 within⟩

end

/-! ### Parts that are put together -/

variable (demand : Demand)

/-- All that a part holds meets a demand, and so does its span. -/
def Part.PiecesMeet : Part → Prop
  | .text _ => True
  | .comment _ => True
  | .reference path filters span =>
    path.Meets demand ∧ (∀ filter ∈ filters, demand.name filter) ∧ demand.span span
  | .element head params main bodies span =>
    head.Meets demand ∧ Part.ParamsMeet demand params ∧ Part.MainMeets demand main ∧
      demand.keys (bodies.map Prod.fst) ∧ Part.BodiesMeet demand bodies ∧ demand.span span
  | .block name main => demand.name name ∧ Part.MainMeets demand main
  | .inclusion target context params span =>
    target.Meets demand ∧ (∀ path ∈ context, path.Meets demand) ∧
      Part.ParamsMeet demand params ∧ demand.span span

variable {demand}

namespace Part

variable {part : Part}

/-- A part meets a demand if it does itself and all that it holds does. -/
theorem meets_iff : part.Meets demand ↔ demand.part part ∧ part.PiecesMeet demand := by
  cases part <;> simp only [Meets, PiecesMeet, and_true]

/-- What a part holds meets a demand that follows from one that it meets. -/
theorem PiecesMeet.mono {first : Demand} (follows : first.Follows first demand)
    (meets : part.PiecesMeet first) : part.PiecesMeet demand := by
  match part, meets with
  | .text _, _ => trivial
  | .comment _, _ => trivial
  | .reference path _ _, ⟨way, names, place⟩ =>
    exact ⟨path.meets_of_both follows way way,
      fun filter mem => follows.name (names filter mem) (names filter mem),
      follows.span place place⟩
  | .element _ params main bodies _, ⟨tag, given, inner, keys, named, place⟩ =>
    exact ⟨Head.meets_of_both follows tag tag, paramsMeet_of_both follows params given given,
      mainMeets_of_both follows main inner inner, follows.keys keys keys,
      bodiesMeet_of_both follows bodies named named, follows.span place place⟩
  | .block _ main, ⟨named, inner⟩ =>
    exact ⟨follows.name named named, mainMeets_of_both follows main inner inner⟩
  | .inclusion target _ params _, ⟨named, way, given, place⟩ =>
    exact ⟨target.meets_of_both follows named named,
      fun path mem => path.meets_of_both follows (way path mem) (way path mem),
      paramsMeet_of_both follows params given given, follows.span place place⟩

/-- What a part holds in a room is in every greater one. -/
theorem PiecesMeet.grow (around : outer.Encloses room)
    (meets : part.PiecesMeet (standsIn source room)) : part.PiecesMeet (standsIn source outer) :=
  meets.mono (standsIn_follows around)

/-- The span of a part that stands in a room is in it. -/
theorem Meets.encloses (meets : part.Meets (standsIn source room)) :
    ∀ span ∈ part.span?, room.Encloses span := by
  rintro span place
  match part with
  | .text _ => cases place
  | .comment _ => cases place
  | .reference _ _ _ =>
    cases place
    exact meets.2.2.2
  | .element _ _ _ _ _ =>
    cases place
    exact meets.2.2.2.2.2.2
  | .block _ _ => cases place
  | .inclusion _ _ _ _ =>
    cases place
    exact meets.2.2.2.2

/-- A part without a span has the shape of its text if its bodies are tidy. -/
theorem isFaithful_of_span? (none : part.span? = none) (tidy : part.IsTidy) :
    part.IsFaithful source where
  shows := by simp [none]
  holds := by simp [none]
  tidy := tidy
  closed := by
    cases part with
    | element => cases none
    | _ => trivial

/-- A text has the shape of its text. -/
theorem isFaithful_text (content : String) : (Part.text content).IsFaithful source :=
  isFaithful_of_span? rfl trivial

/-- A part with a span around all that it holds stands in every room around its span. -/
theorem PiecesMeet.stands (pieces : part.PiecesMeet (standsIn source span))
    (place : part.span? = some span) (around : room.Encloses span)
    (shows : ∃ text, span.Shows source text ∧ ['{'] <+: text ∧ ['}'] <:+ text)
    (tidy : part.IsTidy) (closed : part.IsClosed source) : part.Meets (standsIn source room) := by
  have holds : part.Meets (inside span) := meets_iff.mpr ⟨trivial, pieces.mono inside_follows⟩
  have faithful : part.IsFaithful source :=
    ⟨by simpa [place] using shows, by simpa [place] using holds, tidy, closed⟩
  exact meets_iff.mpr ⟨faithful, pieces.grow around⟩

end Part

/-! ### Bodies that are put together -/

namespace Body

/-- Texts of a body are settled if none is empty and none follows another one. -/
theorem isSettled_iff {body : Body} :
    body.isSettled = true ↔ (∀ content, .text content ∈ body → content ≠ "") ∧
      body.IsChain fun part next => ¬ (part.isText = true ∧ next.isText = true) := by
  induction body with
  | nil => simp [isSettled]
  | cons part rest induction =>
    rw [List.isChain_cons]
    cases part with
    | text content =>
      have apart : (rest.head?.any Part.isText = false) ↔
          ∀ next ∈ rest.head?, ¬ ((Part.text content).isText = true ∧ next.isText = true) := by
        cases rest.head? <;> simp [Part.isText]
      simp only [isSettled, Bool.and_eq_true, Bool.not_eq_true', decide_eq_true_eq, induction,
        apart, List.mem_cons, Part.text.injEq]
      constructor
      · rintro ⟨⟨solid, first⟩, others, chain⟩
        exact ⟨by rintro _ (rfl | mem); exacts [solid, others _ mem], first, chain⟩
      · rintro ⟨solid, first, chain⟩
        exact ⟨⟨solid _ (.inl rfl), first⟩, fun _ mem => solid _ (.inr mem), chain⟩
    | _ => simp [isSettled, induction, Part.isText]

/-- A part is dropped at the end of a body, joins the last one, or is put behind it. -/
theorem push_cases (body : Body) (part : Part) :
    (part = .text "" ∧ body.push part = body) ∨
      (∃ front before content, body = front ++ [.text before] ∧ part = .text content ∧
        body.push part = front ++ [.text (before ++ content)]) ∨
      (body.push part = body ++ [part] ∧ ∀ content, part = .text content →
        content ≠ "" ∧ ∀ last ∈ body.getLast?, last.isText = false) := by
  unfold push
  split
  · rename_i content
    split
    · rename_i empty
      exact .inl ⟨by simpa using empty, rfl⟩
    · rename_i solid
      split
      · rename_i before last
        exact .inr (.inl ⟨body.dropLast, before, content,
          (List.dropLast_append_getLast? _ last).symm, rfl, rfl⟩)
      · rename_i other
        refine .inr (.inr ⟨rfl, ?_⟩)
        rintro _ ⟨⟩
        refine ⟨by simpa using solid, fun last mem => ?_⟩
        cases last with
        | text before => exact absurd mem (other before)
        | _ => rfl
  · rename_i other
    exact .inr (.inr ⟨rfl, fun content same => absurd same (other content)⟩)

/-- Texts stay settled with one more part. -/
theorem isSettled_push {body : Body} (settled : body.isSettled = true) (part : Part) :
    isSettled (body.push part) = true := by
  rw [isSettled_iff] at settled ⊢
  obtain ⟨solid, chain⟩ := settled
  rcases push_cases body part with ⟨_, same⟩ | ⟨front, before, content, rfl, _, same⟩ |
    ⟨same, apart⟩
  · rw [same]
    exact ⟨solid, chain⟩
  · rw [same]
    rw [List.isChain_append] at chain ⊢
    refine ⟨fun other mem => ?_, chain.1, List.isChain_singleton _, ?_⟩
    · rcases List.mem_append.mp mem with mem | mem
      · exact solid other (List.mem_append_left _ mem)
      · have before_solid := solid before (by simp)
        cases List.mem_singleton.mp mem
        simp [before_solid]
    · rintro last mem _ ⟨⟩
      exact chain.2.2 last mem (.text before) rfl
  · rw [same, List.isChain_append]
    refine ⟨fun content mem => ?_, chain, List.isChain_singleton _, ?_⟩
    · rcases List.mem_append.mp mem with mem | mem
      · exact solid content mem
      · exact (apart content (List.mem_singleton.mp mem).symm).1
    · rintro last mem _ ⟨⟩ ⟨lastText, isText⟩
      cases part with
      | text content => simp [(apart content rfl).2 last mem] at lastText
      | _ => cases isText

/-- One more part brings its span. -/
theorem spans_push (body : Body) (part : Part) :
    (body.push part).filterMap Part.span? = body.filterMap Part.span? ++ part.span?.toList := by
  rcases push_cases body part with ⟨rfl, same⟩ | ⟨front, before, content, rfl, rfl, same⟩ |
    ⟨same, _⟩
  · simp [same, Part.span?]
  · rw [same]
    simp [List.filterMap_cons, Part.span?]
  · rw [same, List.filterMap_append]
    cases place : part.span? <;> simp [place]

/-- A body with settled texts holds more than text if it is no text. -/
theorem isMixed_of_text? {body : Body} (settled : body.isSettled = true)
    (none : body.text? = none) : body.IsMixed := by
  match body, settled, none with
  | [part], _, none =>
    refine ⟨part, List.mem_cons_self, ?_⟩
    cases part with
    | text content => cases none
    | _ => rfl
  | first :: second :: rest, settled, _ =>
    have apart := (List.isChain_cons_cons.mp (isSettled_iff.mp settled).2).1
    cases text : first.isText with
    | false => exact ⟨first, List.mem_cons_self, text⟩
    | true => exact ⟨second, by simp, by simpa [text] using apart⟩

/-- A tidy body stands in a room. -/
structure StandsIn (source : List Char) (room : Span) (body : Body) : Prop where
  /-- It is tidy. -/
  tidy : body.IsTidy
  /-- All that it holds stands in the room. -/
  meets : Part.AllMeet (standsIn source room) body
  /-- The room does not end before it begins. -/
  le : room.start ≤ room.stop

namespace StandsIn

variable {body : Body}

/-- An empty body stands in every room. -/
theorem nil (le : room.start ≤ room.stop) : StandsIn source room [] :=
  ⟨⟨rfl, List.Pairwise.nil⟩, trivial, le⟩

/-- What stands in a room stands in every greater one. -/
theorem grow (stands : body.StandsIn source room) (around : outer.Encloses room) :
    body.StandsIn source outer where
  tidy := stands.tidy
  meets := Part.allMeet_of_both (standsIn_follows around) body stands.meets stands.meets
  le := Nat.le_trans around.start (Nat.le_trans stands.le around.stop)

/-- The spans of the parts of a body are in its room. -/
theorem encloses (stands : body.StandsIn source room) :
    ∀ span ∈ body.filterMap Part.span?, room.Encloses span := by
  intro span mem
  obtain ⟨part, mem, place⟩ := List.mem_filterMap.mp mem
  exact (Part.allMeet_iff.mp stands.meets part mem).encloses span place

/-- With one more part behind it a body stands in a room up to the end of the part. -/
theorem push {start middle : Nat} {part : Part} (stands : body.StandsIn source ⟨start, middle⟩)
    (behind : middle ≤ room.start) (le : room.start ≤ room.stop)
    (meets : part.Meets (standsIn source room)) :
    (body.push part).StandsIn source ⟨start, room.stop⟩ := by
  have start_le : start ≤ middle := stands.le
  have grown : body.StandsIn source ⟨start, room.stop⟩ :=
    stands.grow (.upTo (Nat.le_trans behind le))
  have around : Span.Encloses ⟨start, room.stop⟩ room :=
    ⟨Nat.le_trans start_le behind, Nat.le_refl _⟩
  refine ⟨⟨isSettled_push stands.tidy.settled part, ?_⟩,
    push_meets Part.isFaithful_text grown.meets
      (part.meets_of_both (standsIn_follows around) meets meets), grown.le⟩
  rw [spans_push, List.pairwise_append]
  refine ⟨stands.tidy.ordered, ?_, fun span mem next last => ?_⟩
  · cases part.span? <;> simp
  · have before := (stands.encloses span mem).stop
    have after := (meets.encloses next (by simpa using last)).start
    exact Nat.le_trans before (Nat.le_trans behind after)

/-- A string without the escapes of its texts stands where it stood. -/
theorem unescaped (stands : body.StandsIn source room) :
    Body.StandsIn source room
      (body.foldl (fun (joined : Body) part => joined.push part.unescaped) []) := by
  have spans (joined : Body) :
      (body.foldl (fun (joined : Body) part => joined.push part.unescaped) joined).filterMap
        Part.span? = joined.filterMap Part.span? ++ body.filterMap Part.span? := by
    clear stands
    induction body generalizing joined with
    | nil => simp
    | cons part rest induction =>
      have same : part.unescaped.span? = part.span? := by cases part <;> rfl
      rw [List.foldl_cons, induction, spans_push, same, List.append_assoc]
      cases place : part.span? <;> simp [place]
  refine ⟨⟨?_, ?_⟩, unescaped_meets Part.isFaithful_text stands.meets, stands.le⟩
  · exact List.foldlRecOn body _ (motive := fun joined => isSettled joined = true) rfl
      fun _ settled part _ => isSettled_push settled part.unescaped
  · rw [spans]
    exact stands.tidy.ordered

end StandsIn

end Body

/-! ### Bodies in bodies -/

/-- A string among parameters is tidy if their values are. -/
theorem Quoted.isTidy {list : List Param} {body : Body} (quoted : Quoted list body)
    (tidy : ∀ param ∈ list, param.argument.IsTidy) : body.IsTidy := by
  obtain ⟨⟨name, argument⟩, mem, rfl⟩ := quoted
  exact (tidy _ mem).1

/-- A string in a tidy part is tidy. -/
theorem Part.Quotes.isTidy {part : Part} {body : Body} (quotes : part.Quotes body)
    (tidy : part.IsTidy) : body.IsTidy := by
  match part with
  | .element _ _ _ _ _ => exact Quoted.isTidy quotes tidy.2.1
  | .inclusion _ _ _ _ =>
    obtain ⟨target, _, params⟩ := tidy
    rcases quotes with rfl | quoted
    · exact target.1
    · exact quoted.isTidy params

/-- A body of a tidy part is tidy. -/
theorem Part.Nests.isTidy {part : Part} {body : Body} (nests : part.Nests body)
    (tidy : part.IsTidy) : body.IsTidy := by
  match part with
  | .element _ _ _ _ _ =>
    obtain ⟨_, _, main, named⟩ := tidy
    rcases nests with rfl | rfl | ⟨name, mem⟩
    · exact ⟨rfl, List.Pairwise.nil⟩
    · exact main body rfl
    · exact named _ mem
  | .block _ _ => exact tidy body nests

/-- The parts of a body that stands in a room have the shape of their texts. -/
theorem Body.isFaithful_of_meets {body : Body} (meets : Part.AllMeet (standsIn source room) body) :
    ∀ part ∈ body, part.IsFaithful source := fun part mem =>
  (Part.meets_iff.mp (Part.allMeet_iff.mp meets part mem)).1

/-- Whatever is nested in a body that stands in a room is tidy, and its parts have the shape of
their texts. -/
theorem Body.StandsIn.within {inner body : Body} (stands : body.StandsIn source room)
    (within : Body.Within inner body) :
    inner.IsTidy ∧ ∀ part ∈ inner, part.IsFaithful source := by
  refine ⟨?_, Body.isFaithful_of_meets (within.meets stands.meets)⟩
  cases within with
  | self => exact stands.tidy
  | string within mem quotes =>
    exact quotes.isTidy (Body.isFaithful_of_meets (within.meets stands.meets) _ mem).tidy
  | nested within mem nests =>
    exact nests.isTidy (Body.isFaithful_of_meets (within.meets stands.meets) _ mem).tidy

end Dust
