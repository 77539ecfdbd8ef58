import Dust.Proofs.Engine.Calls
import Dust.Proofs.Engine.Prerun

/-!
# The order of helpers

The helpers of a template are listed as a walk through its tree meets them. The walk takes named
bodies and inline partials in the order of their names, while in the source they stand in any order,
and it does not see bodies that are dropped for later ones of the same name. If no first call is
dropped or met behind another one of its helper, the list is in the order of the first calls in the
source exactly if what is ordered by names is written in this order, as far as first calls go. That
all else is met as it is written follows from the stacks, which hold what has been called since
their tags were opened.
-/

namespace Dust

/-! ### Bodies in an order -/

section Arranged

variable (order : Identifier → Identifier → Prop)

/-- The calls in each named body of a part come before those in the next ones. -/
def Part.NamedInOrder : Part → Prop
  | .element _ _ _ bodies _ => bodies.Pairwise fun entry next =>
      ∀ call ∈ Body.calls entry.2, ∀ later ∈ Body.calls next.2, order call later
  | _ => True

instance [DecidableRel order] (part : Part) : Decidable (part.NamedInOrder order) :=
  match part with
  | .element _ _ _ bodies _ => inferInstanceAs (Decidable (bodies.Pairwise _))
  | .text _ | .comment _ | .reference .. | .block .. | .inclusion .. => .isTrue trivial

/-- The named bodies of all parts in a body come in an order. -/
def Body.IsArranged (body : Body) : Prop :=
  ∀ part ∈ Part.nestedInBody body, part.NamedInOrder order

/-- A body calls what is called in a row, in an order if the body is arranged. -/
structure Body.CallsAmong (room : List Identifier) (body : Body) : Prop where
  /-- It calls nothing else. -/
  within : body.calls ⊆ room
  /-- A walk through it meets the calls in the order. -/
  ordered : body.IsArranged order → body.calls.Pairwise order

/-- What has been called by an open tag and its complete bodies, before the body that goes on. -/
inductive OpenTag.HasCalled : List Identifier → OpenTag → Prop where
  /-- The only body goes on, and nothing of it is known. -/
  | first {tag : OpenTag} (fresh : tag.IsFresh) : HasCalled tag.called tag
  /-- A named body goes on. -/
  | named {front back : List Identifier} {head : Head} {params : List Param} {key : String}
    {span : Span} {main : Body} {bodies : Dict Body} {current : String}
    (mainAmong : main.CallsAmong order front)
    (named : ∀ entry ∈ bodies, Body.CallsAmong order back entry.2) :
    HasCalled (head.called ++ (front ++ back))
      (.element head params key span (some main) bodies (some current))

/-- What has been called so far, by open tags and bodies that are collected. The calls in a tag come
behind those in the tags and bodies around it. -/
inductive Assembly.Collected : List OpenTag → List Body → List Identifier → Prop where
  /-- No tag is open. -/
  | bottom {body : Body} {seen : List Identifier} (among : body.CallsAmong order seen) :
    Collected [] [body] seen
  /-- The innermost tag collects the innermost body. -/
  | tag {opened : List OpenTag} {scopes : List Body} {tag : OpenTag} {body : Body}
    {seen taken room : List Identifier} (around : Collected opened scopes seen)
    (has : tag.HasCalled order taken) (among : body.CallsAmong order room) :
    Collected (tag :: opened) (body :: scopes) (seen ++ (taken ++ room))

/-- What has been called so far in a template that is put together. -/
structure Assembly.Gathers (seen : List Identifier) (assembly : Assembly) : Prop where
  /-- It is called by open tags and bodies that are collected. -/
  collected : Collected order assembly.opened assembly.scopes seen
  /-- Inline partials call nothing else. -/
  blocks : ∀ entry ∈ assembly.blocks, Body.CallsAmong order seen entry.2

end Arranged

variable {order : Identifier → Identifier → Prop}

namespace Body

/-- A body is arranged if both of its halves are. -/
theorem isArranged_append {front back : Body} :
    IsArranged order (front ++ back) ↔ front.IsArranged order ∧ back.IsArranged order := by
  simp [IsArranged, Part.nestedInBody_eq, or_imp, forall_and]

/-- A text has no named bodies. -/
theorem isArranged_text (content : String) : IsArranged order [.text content] := by
  rintro _ (_ | ⟨_, ⟨⟩⟩)
  trivial

/-- A body to which a part is pushed is arranged only if the body and the part are. -/
theorem isArranged_push {body : Body} {part : Part} (arranged : (body.push part).IsArranged order) :
    body.IsArranged order ∧ IsArranged order [part] := by
  rcases push_cases body part with ⟨rfl, same⟩ | ⟨front, before, content, rfl, rfl, same⟩ |
    ⟨same, -⟩
  · exact ⟨same ▸ arranged, isArranged_text _⟩
  · rw [same, isArranged_append] at arranged
    exact ⟨isArranged_append.mpr ⟨arranged.1, isArranged_text _⟩, isArranged_text _⟩
  · exact isArranged_append.mp (same ▸ arranged)

/-- A body in a part is arranged if the part is. -/
theorem isArranged_of_nests {part : Part} {body : Body} (nests : part.Nests body)
    (arranged : IsArranged order [part]) : body.IsArranged order := by
  intro inner mem
  refine arranged inner ?_
  rw [Part.nestedInBody_eq, List.flatMap_singleton]
  exact nests.nestedInBody_subset mem

namespace CallsAmong

variable {room front back : List Identifier} {body : Body} {part : Part}

/-- An empty body calls nothing. -/
theorem nil (room : List Identifier) : CallsAmong order room [] :=
  ⟨List.nil_subset _, fun _ => List.Pairwise.nil⟩

/-- A body calls what is called in a greater row. -/
theorem grow (among : CallsAmong order front body) (subset : front ⊆ room) :
    CallsAmong order room body :=
  ⟨List.Subset.trans among.within subset, among.ordered⟩

/-- A part is pushed that calls what comes behind the calls of the body. -/
theorem push (among : CallsAmong order front body) (pushed : CallsAmong order back [part])
    (ordered : (front ++ back).Pairwise order) :
    CallsAmong order (front ++ back) (body.push part) := by
  have apart := (List.pairwise_append.mp ordered).2.2
  refine ⟨?_, fun arranged => ?_⟩
  · rw [calls_push]
    exact List.append_subset.mpr ⟨List.subset_append_of_subset_left _ among.within,
      List.subset_append_of_subset_right _ pushed.within⟩
  · obtain ⟨bodyArranged, partArranged⟩ := isArranged_push arranged
    rw [calls_push]
    exact List.pairwise_append.mpr ⟨among.ordered bodyArranged, pushed.ordered partArranged,
      fun call mem later behind => apart call (among.within mem) later (pushed.within behind)⟩

/-- A section or helper whose named bodies come behind the main one. -/
theorem element {head : Head} {main : Body} {bodies : Dict Body} (params : List Param) (span : Span)
    (mainAmong : CallsAmong order front main)
    (named : ∀ entry ∈ bodies, CallsAmong order back entry.2)
    (ordered : (head.called ++ (front ++ back)).Pairwise order) :
    CallsAmong order (head.called ++ (front ++ back))
      [.element head params (some main) bodies span] := by
  have namedWithin : callsInAll bodies ⊆ back := fun call mem => by
    obtain ⟨entry, isIn, mem⟩ := List.mem_flatMap.mp mem
    exact (named entry isIn).within mem
  have bodiesWithin : (calls main ++ callsInAll bodies) ⊆ front ++ back :=
    List.append_subset.mpr ⟨List.subset_append_of_subset_left _ mainAmong.within,
      List.subset_append_of_subset_right _ namedWithin⟩
  refine ⟨?_, fun arranged => ?_⟩
  · rw [calls_element]
    exact List.append_subset.mpr ⟨List.subset_append_left _ _,
      List.subset_append_of_subset_right _ bodiesWithin⟩
  · have nested {body : Body}
        (nests : Part.Nests (.element head params (some main) bodies span) body) :
        body.IsArranged order :=
      isArranged_of_nests nests arranged
    have inOrder : Part.NamedInOrder order (.element head params (some main) bodies span) :=
      arranged _ (Part.mem_nestedInBody List.mem_cons_self)
    have mainOrdered := mainAmong.ordered (nested (Or.inr (Or.inl rfl)))
    have namedOrdered : (callsInAll bodies).Pairwise order :=
      List.pairwise_flatMap.mpr ⟨fun entry mem =>
        (named entry mem).ordered (nested (Or.inr (Or.inr ⟨entry.1, mem⟩))), inOrder⟩
    obtain ⟨headOrdered, bodiesOrdered, headApart⟩ := List.pairwise_append.mp ordered
    have apart := (List.pairwise_append.mp bodiesOrdered).2.2
    rw [calls_element]
    refine List.pairwise_append.mpr ⟨headOrdered, List.pairwise_append.mpr ⟨mainOrdered,
      namedOrdered, fun call mem later behind => ?_⟩, fun call mem later behind => ?_⟩
    · exact apart call (mainAmong.within mem) later (namedWithin behind)
    · exact headApart call mem later (bodiesWithin behind)

/-- A block calls what it holds otherwise. -/
theorem block (name : Identifier) (among : CallsAmong order room body) :
    CallsAmong order room [.block name (some body)] := by
  refine ⟨?_, fun arranged => ?_⟩
  · rw [calls_block]
    exact among.within
  · rw [calls_block]
    have nests : Part.Nests (.block name (some body)) body := rfl
    exact among.ordered (isArranged_of_nests nests arranged)

end CallsAmong

end Body

/-! ### Walks in an order -/

namespace Part

mutual

/-- A part in a part is met with the parts in it in a row. -/
theorem withNested_sublist : ∀ (whole : Part), ∀ part ∈ whole.withNested,
    part.withNested.Sublist whole.withNested
  | .element head params main bodies span, part, mem => by
    rcases List.mem_cons.mp mem with rfl | nested
    · exact List.Sublist.refl _
    · refine List.Sublist.cons _ ?_
      rcases List.mem_append.mp nested with inMain | inNamed
      · exact (nestedInMain_sublist main part inMain).trans (List.sublist_append_left _ _)
      · exact (nestedInBodies_sublist bodies part inNamed).trans (List.sublist_append_right _ _)
  | .block name main, part, mem => by
    rcases List.mem_cons.mp mem with rfl | inMain
    · exact List.Sublist.refl _
    · exact (nestedInMain_sublist main part inMain).cons _
  | .text _, part, mem | .comment _, part, mem | .reference .., part, mem
  | .inclusion .., part, mem => by
    obtain rfl := List.mem_singleton.mp mem
    exact List.Sublist.refl _

/-- A part in a main body is met with the parts in it in a row. -/
theorem nestedInMain_sublist : ∀ (main : Option Body), ∀ part ∈ nestedInMain main,
    part.withNested.Sublist (nestedInMain main)
  | none, _, mem => nomatch mem
  | some body, part, mem => nestedInBody_sublist body part mem

/-- A part in named bodies is met with the parts in it in a row. -/
theorem nestedInBodies_sublist : ∀ (bodies : List (String × Body)), ∀ part ∈ nestedInBodies bodies,
    part.withNested.Sublist (nestedInBodies bodies)
  | [], _, mem => nomatch mem
  | (name, body) :: rest, part, mem => by
    rcases List.mem_append.mp mem with here | behind
    · exact (nestedInBody_sublist body part here).trans (List.sublist_append_left _ _)
    · exact (nestedInBodies_sublist rest part behind).trans (List.sublist_append_right _ _)

/-- A part in a body is met with the parts in it in a row. -/
theorem nestedInBody_sublist : ∀ (body : Body), ∀ part ∈ nestedInBody body,
    part.withNested.Sublist (nestedInBody body)
  | [], _, mem => nomatch mem
  | whole :: rest, part, mem => by
    rcases List.mem_append.mp mem with here | behind
    · exact (withNested_sublist whole part here).trans (List.sublist_append_left _ _)
    · exact (nestedInBody_sublist rest part behind).trans (List.sublist_append_right _ _)

end

end Part

/-- A body whose calls are met in an order is arranged. -/
theorem Body.isArranged_of_pairwise {body : Body} (ordered : body.calls.Pairwise order) :
    body.IsArranged order := by
  intro part mem
  have row : (calls [part]).Sublist body.calls := by
    refine List.Sublist.filterMap Part.call? ?_
    rw [Part.nestedInBody_eq [part], List.flatMap_singleton]
    exact Part.nestedInBody_sublist body part mem
  cases part with
  | element head params main bodies span =>
    have whole := ordered.sublist row
    rw [calls_element, List.pairwise_append, List.pairwise_append] at whole
    exact (List.pairwise_flatMap.mp whole.2.1.2.1).2
  | _ => trivial

/-! ### Putting segments together -/

/-- A named body that is complete calls behind those that were complete before. -/
theorem Body.CallsAmong.insert {room back : List Identifier} {bodies : Dict Body} {body : Body}
    (among : body.CallsAmong order room)
    (named : ∀ entry ∈ bodies, Body.CallsAmong order back entry.2) (name : String) :
    ∀ entry ∈ bodies.insert name body, Body.CallsAmong order (back ++ room) entry.2 := by
  intro entry mem
  rcases Dict.mem_insert mem with rfl | mem
  · exact among.grow (List.subset_append_right _ _)
  · exact (named entry mem).grow (List.subset_append_left _ _)

namespace Assembly

/-- More may have been called so far, in an inline partial that is set aside. -/
theorem Collected.grow {opened : List OpenTag} {scopes : List Body} {seen : List Identifier}
    (collected : Collected order opened scopes seen) (more : List Identifier) :
    Collected order opened scopes (seen ++ more) := by
  cases collected with
  | bottom among => exact .bottom (among.grow (List.subset_append_left _ _))
  | @tag opened scopes tag body outer taken room around has among =>
    have grown := Collected.tag around has (among.grow (List.subset_append_left room more))
    simpa using grown

/-- A part is added that calls what comes behind all that has been called. -/
theorem Collected.add {assembly : Assembly} {part : Part} {seen room : List Identifier}
    (collected : Collected order assembly.opened assembly.scopes seen)
    (among : Body.CallsAmong order room [part]) (ordered : (seen ++ room).Pairwise order) :
    Collected order (assembly.add part).opened (assembly.add part).scopes (seen ++ room) := by
  obtain ⟨opened, scopes, blocks⟩ := assembly
  cases collected with
  | bottom collects => exact .bottom (collects.push among ordered)
  | @tag opened scopes tag body outer taken inner around has collects =>
    have innermost : (inner ++ room).Pairwise order := by
      refine ordered.sublist (List.Sublist.append ?_ (List.Sublist.refl room))
      exact (List.sublist_append_right taken inner).trans (List.sublist_append_right outer _)
    have pushed := Collected.tag around has (collects.push among innermost)
    rwa [← List.append_assoc taken, ← List.append_assoc outer] at pushed

/-- At the beginning nothing has been called. -/
theorem start_gathers : start.Gathers order [] :=
  ⟨.bottom (.nil []), by simp [start]⟩

namespace Gathers

variable {assembly next : Assembly} {seen room : List Identifier} {segment : Segment}

/-- Inline partials call nothing else if one is set aside that does not. -/
theorem define {body : Body} (gathers : assembly.Gathers order seen) (name : String)
    (among : body.CallsAmong order seen) : (assembly.define name body).Gathers order seen := by
  refine ⟨gathers.collected, fun entry mem => ?_⟩
  rcases Dict.mem_insert mem with rfl | mem
  · exact among
  · exact gathers.blocks entry mem

/-- A tag that is opened calls first. -/
theorem openTag {tag : OpenTag} (gathers : assembly.Gathers order seen) (fresh : tag.IsFresh) :
    (assembly.openTag tag).Gathers order (seen ++ tag.called) := by
  have opened := Collected.tag gathers.collected (.first fresh) (.nil [])
  rw [List.append_nil] at opened
  exact ⟨opened, fun entry mem =>
    (gathers.blocks entry mem).grow (List.subset_append_left _ _)⟩

/-- The body before a named one is complete with what it has called. -/
theorem beginBody {name : String} {span : Span} (gathers : assembly.Gathers order seen)
    (begun : assembly.beginBody name span = .ok next) : next.Gathers order seen := by
  obtain ⟨collected, inline⟩ := gathers
  cases beginBody_cases begun with
  | @afterMain _ head params key span _ _ body =>
    cases collected with
    | @tag _ _ _ _ seen taken room around has among =>
      cases has with
      | first fresh =>
        obtain ⟨rfl, rfl, -⟩ := fresh
        have complete : OpenTag.HasCalled order (head.called ++ (room ++ []))
            (.element head params key span (some body) [] (some name)) :=
          .named among (by simp)
        have collected := Collected.tag around complete (.nil [])
        rw [List.append_nil, List.append_nil] at collected
        exact ⟨collected, inline⟩
  | @afterNamed _ head params key span _ bodies body current =>
    cases collected with
    | @tag _ _ _ _ seen taken room around has among =>
      cases has with
      | first fresh => exact absurd fresh.2.2 nofun
      | @named front back _ _ _ _ main _ _ mainAmong named =>
        have complete : OpenTag.HasCalled order (head.called ++ (front ++ (back ++ room)))
            (.element head params key span (some main) (bodies.insert current body)
              (some name)) :=
          .named mainAmong (among.insert named current)
        have collected := Collected.tag around complete (.nil [])
        rw [List.append_nil, ← List.append_assoc front, ← List.append_assoc head.called]
          at collected
        exact ⟨collected, inline⟩

/-- A tag that is closed becomes a part that calls what has been called since it was opened. -/
theorem close {key : String} {span : Span} (gathers : assembly.Gathers order seen)
    (ordered : seen.Pairwise order) (closed : assembly.close key span = .ok next) :
    next.Gathers order seen := by
  obtain ⟨collected, inline⟩ := gathers
  -- what the tag and its bodies have called comes behind what was called before it
  have since {before taken : List Identifier} (ordered : (before ++ taken).Pairwise order) :
      taken.Pairwise order := (List.pairwise_append.mp ordered).2.1
  cases close_cases closed with
  | @main _ _ params tagSpan =>
    cases collected with
    | tag around has among =>
      have called := since ordered
      refine ⟨Collected.add around ?_ ordered, by rwa [blocks_add]⟩
      cases has with
      | first fresh =>
        obtain ⟨rfl, rfl, -⟩ := fresh
        have none : ∀ entry ∈ ([] : Dict Body), Body.CallsAmong order [] entry.2 := by simp
        have whole := among.element params (tagSpan.cover span) none
          (by rwa [List.append_nil])
        rwa [List.append_nil] at whole
  | @named _ _ params tagSpan =>
    cases collected with
    | tag around has among =>
      have called := since ordered
      refine ⟨Collected.add around ?_ ordered, by rwa [blocks_add]⟩
      cases has with
      | first fresh => exact absurd fresh.2.2 nofun
      | named mainAmong named =>
        rw [List.append_assoc, List.append_assoc] at called ⊢
        exact mainAmong.element params (tagSpan.cover span) (among.insert named _) called
  | @block _ name =>
    cases collected with
    | tag around has among =>
      have whole := among.block name
      refine ⟨Collected.add around (whole.grow (List.subset_append_right _ _)) ordered, ?_⟩
      rwa [blocks_add]
  | @definition outer name =>
    cases collected with
    | @tag _ _ _ _ seen taken room around has among =>
      have subset : room ⊆ seen ++ (taken ++ room) :=
        List.subset_append_of_subset_right _ (List.subset_append_right _ _)
      have outside : outer.Gathers order (seen ++ (taken ++ room)) := ⟨around.grow _, inline⟩
      exact outside.define name.name (among.grow subset)

/-- A segment calls behind all that has been called. -/
theorem step (gathers : assembly.Gathers order seen) (fresh : segment.OpensFresh)
    (ordered : (seen ++ segment.called).Pairwise order)
    (stepped : assembly.step segment = .ok next) : next.Gathers order (seen ++ segment.called) := by
  have silent (nothing : segment.called = []) (same : next.Gathers order seen) :
      next.Gathers order (seen ++ segment.called) := by
    rwa [nothing, List.append_nil]
  cases segment with
  | part part =>
    cases stepped
    have among : Body.CallsAmong order (Body.calls [part]) [part] :=
      ⟨List.Subset.refl _, fun _ => (List.pairwise_append.mp ordered).2.1⟩
    refine ⟨gathers.collected.add among ordered, ?_⟩
    rw [blocks_add]
    exact fun entry mem => (gathers.blocks entry mem).grow (List.subset_append_left _ _)
  | definition name =>
    cases stepped
    exact silent rfl (gathers.define name (.nil seen))
  | opening tag =>
    cases stepped
    exact gathers.openTag (fresh tag rfl)
  | body name span => exact silent rfl (gathers.beginBody stepped)
  | closing key span =>
    have before := (List.pairwise_append.mp ordered).1
    exact silent rfl (gathers.close before stepped)

/-- Segments call one behind the other. -/
theorem run {segments : List Segment} (gathers : assembly.Gathers order seen)
    (fresh : ∀ segment ∈ segments, segment.OpensFresh)
    (ordered : (seen ++ segments.flatMap Segment.called).Pairwise order)
    (ran : assembly.run segments = .ok next) :
    next.Gathers order (seen ++ segments.flatMap Segment.called) := by
  induction segments generalizing assembly seen with
  | nil =>
    cases ran
    rwa [List.flatMap_nil, List.append_nil]
  | cons segment rest induction =>
    obtain ⟨middle, stepped, ran⟩ := run_cons_eq_ok ran
    obtain ⟨here, behind⟩ := List.forall_mem_cons.mp fresh
    rw [List.flatMap_cons, ← List.append_assoc] at ordered ⊢
    have gathers := gathers.step here (List.pairwise_append.mp ordered).1 stepped
    exact induction gathers behind ordered ran

/-- The body and the inline partials of a template that is complete call what has been called. -/
theorem finish {body : Body} {blocks : Dict Body} (gathers : assembly.Gathers order seen)
    (finished : assembly.finish = .ok (body, blocks)) :
    body.CallsAmong order seen ∧ ∀ entry ∈ blocks, Body.CallsAmong order seen entry.2 := by
  obtain ⟨opened, scopes, blocks⟩ := assembly
  obtain ⟨collected, inline⟩ := gathers
  obtain ⟨rfl, rfl⟩ := finish_cases finished
  cases collected with
  | bottom among =>
    cases finished
    exact ⟨among, inline⟩

end Gathers

end Assembly

/-! ### Templates -/

/-- What a walk through a template orders by names comes in an order: the named bodies of its parts,
and its inline partials behind its body. -/
structure Template.IsArranged (order : Identifier → Identifier → Prop) (template : Template) :
    Prop where
  /-- Named bodies come in the order. -/
  named : ∀ part ∈ template.allParts, part.NamedInOrder order
  /-- Inline partials come in the order, behind the body. -/
  inline : (template.body :: template.blocks.values).Pairwise fun body next =>
    ∀ call ∈ Body.calls body, ∀ later ∈ Body.calls next, order call later

instance [DecidableRel order] (template : Template) : Decidable (template.IsArranged order) :=
  decidable_of_iff
    ((∀ part ∈ template.allParts, part.NamedInOrder order) ∧
      (template.body :: template.blocks.values).Pairwise fun body next =>
        ∀ call ∈ Body.calls body, ∀ later ∈ Body.calls next, order call later)
    ⟨fun both => ⟨both.1, both.2⟩, fun arranged => ⟨arranged.named, arranged.inline⟩⟩

/-- In an order in which a source makes its calls a walk through the template meets them exactly if
the template is arranged in it. -/
theorem Template.pairwise_calls_iff {whitespace : Whitespace} {source : String}
    {template : Template} (compiled : Template.compile whitespace source = .ok template)
    (ordered : (callsIn source.toList).Pairwise order) :
    template.calls.Pairwise order ↔ template.IsArranged order := by
  obtain ⟨segments, assembly, calls, fresh, ran, finished⟩ := Template.compile_segments compiled
  rw [calls] at ordered
  have gathers := Assembly.start_gathers.run fresh ordered ran
  obtain ⟨bodyAmong, inlineAmong⟩ := gathers.finish finished
  rw [calls_eq, List.pairwise_append, Body.callsInAll, List.pairwise_flatMap]
  constructor
  · rintro ⟨inBody, ⟨inEntries, inTurn⟩, behind⟩
    refine ⟨fun part mem => ?_, List.pairwise_cons.mpr ⟨fun body isIn call mem later isLater => ?_,
      List.pairwise_map.mpr inTurn⟩⟩
    · rcases List.mem_append.mp mem with isIn | isIn
      · exact Body.isArranged_of_pairwise inBody part isIn
      · rw [Part.nestedInBodies_eq] at isIn
        obtain ⟨entry, isEntry, isIn⟩ := List.mem_flatMap.mp isIn
        exact Body.isArranged_of_pairwise (inEntries entry isEntry) part isIn
    · obtain ⟨entry, isEntry, rfl⟩ := List.mem_map.mp isIn
      exact behind call mem later (List.mem_flatMap.mpr ⟨entry, isEntry, isLater⟩)
  · rintro ⟨named, inline⟩
    obtain ⟨behind, inTurn⟩ := List.pairwise_cons.mp inline
    refine ⟨bodyAmong.ordered fun part mem => named part (List.mem_append_left _ mem),
      ⟨fun entry isEntry => (inlineAmong entry isEntry).ordered fun part mem => ?_,
        List.pairwise_map.mp inTurn⟩, fun call mem later isLater => ?_⟩
    · refine named part (List.mem_append_right _ ?_)
      rw [Part.nestedInBodies_eq]
      exact List.mem_flatMap.mpr ⟨entry, isEntry, mem⟩
    · obtain ⟨entry, isEntry, isLater⟩ := List.mem_flatMap.mp isLater
      exact behind entry.2 (List.mem_map_of_mem isEntry) call mem later isLater

/-! ### First calls -/

/-- Of the calls of each helper in a row, the one that comes first. -/
def firstOfEach (calls : List Identifier) : List Identifier :=
  calls.eraseDupsBy fun other call => other.name == call.name

/-- Behind the first call all others of its name are passed over. -/
theorem firstOfEach_cons (first : Identifier) (rest : List Identifier) :
    firstOfEach (first :: rest) =
      first :: firstOfEach (rest.filter fun other => !other.name == first.name) := by
  have others : (fun other : Identifier => decide ((other.name == first.name) = false)) =
      fun other => !other.name == first.name := by
    funext other
    cases other.name == first.name <;> rfl
  rw [firstOfEach, List.eraseDupsBy_cons, others]
  rfl

/-- The names of the first calls are all names, each once. -/
theorem map_name_firstOfEach (calls : List Identifier) :
    (firstOfEach calls).map Identifier.name = (calls.map Identifier.name).eraseDups := by
  match calls with
  | [] => rfl
  | first :: rest =>
    rw [firstOfEach_cons, List.map_cons, map_name_firstOfEach, List.map_cons, List.eraseDups_cons,
      List.filter_map]
    rfl
termination_by calls.length
decreasing_by exact Nat.lt_succ_of_le (List.length_filter_le _ _)

/-- The first calls are some of the calls, in the same order. -/
theorem firstOfEach_sublist (calls : List Identifier) : (firstOfEach calls).Sublist calls := by
  match calls with
  | [] => exact List.Sublist.refl _
  | first :: rest =>
    rw [firstOfEach_cons]
    exact ((firstOfEach_sublist _).trans List.filter_sublist).cons_cons first
termination_by calls.length
decreasing_by exact Nat.lt_succ_of_le (List.length_filter_le _ _)

/-- Every call has one of its name among the first ones. -/
theorem exists_firstOfEach {calls : List Identifier} {call : Identifier} (mem : call ∈ calls) :
    ∃ first ∈ firstOfEach calls, first.name = call.name := by
  have listed : call.name ∈ (firstOfEach calls).map Identifier.name := by
    rw [map_name_firstOfEach]
    exact List.mem_eraseDups.mpr (List.mem_map_of_mem mem)
  exact List.mem_map.mp listed

/-- Of calls that are in order none is written before the first one of its name. -/
theorem le_of_mem_firstOfEach {calls : List Identifier} (ordered : calls.Pairwise Identifier.Before)
    {call : Identifier} (mem : call ∈ firstOfEach calls) :
    ∀ other ∈ calls, other.name = call.name → call.span.start ≤ other.span.start := by
  match calls with
  | [] => exact fun _ none => nomatch none
  | first :: rest =>
    intro other isIn same
    obtain ⟨before, behind⟩ := List.pairwise_cons.mp ordered
    rw [firstOfEach_cons] at mem
    rcases List.mem_cons.mp mem with rfl | isOther
    · rcases List.mem_cons.mp isIn with rfl | isBehind
      · exact Nat.le_refl _
      · exact Nat.le_of_lt (before other isBehind)
    · have differs := (List.mem_filter.mp ((firstOfEach_sublist _).mem isOther)).2
      rw [← same] at differs
      have isBehind : other ∈ rest :=
        (List.mem_cons.mp isIn).resolve_left fun whole => by simp [whole] at differs
      exact le_of_mem_firstOfEach (behind.filter _) isOther other
        (List.mem_filter.mpr ⟨isBehind, differs⟩) same
termination_by calls.length
decreasing_by exact Nat.lt_succ_of_le (List.length_filter_le _ _)

/-- The helpers of a template are the names of the calls that a walk meets first. -/
theorem Template.helperNames_eq (template : Template) :
    template.helperNames = (firstOfEach template.calls).map Identifier.name := by
  have same : helperName? = fun part => (Part.call? part).map Identifier.name := by
    funext part
    cases part with
    | element head => cases head <;> rfl
    | _ => rfl
  rw [map_name_firstOfEach, helperNames, calls, List.map_filterMap, same]

/-- No call of the same helper is written before a call. -/
def Identifier.IsFirstIn (source : List Char) (call : Identifier) : Prop :=
  ∀ other ∈ callsIn source, other.name = call.name → call.span.start ≤ other.span.start

instance (source : List Char) (call : Identifier) : Decidable (call.IsFirstIn source) :=
  inferInstanceAs (Decidable (∀ other ∈ callsIn source, _))

/-- Of two first calls one is written before the other. -/
def Identifier.FirstBefore (source : List Char) (call later : Identifier) : Prop :=
  call.IsFirstIn source → later.IsFirstIn source → call.Before later

instance (source : List Char) : DecidableRel (Identifier.FirstBefore source) := fun _ _ =>
  inferInstanceAs (Decidable (_ → _ → _))

/-- The first call of a helper in a source is at a byte. -/
def FirstCalledAt (source : List Char) (name : String) (byte : Nat) : Prop :=
  ∃ call ∈ callsIn source, call.name = name ∧ call.IsFirstIn source ∧ call.span.start = byte

instance (source : List Char) (name : String) (byte : Nat) :
    Decidable (FirstCalledAt source name byte) :=
  inferInstanceAs (Decidable (∃ call ∈ callsIn source, _))

/-- Where a first call is. -/
theorem firstCalledAt_iff {source : List Char} {call : Identifier} (mem : call ∈ callsIn source)
    (first : call.IsFirstIn source) (byte : Nat) :
    FirstCalledAt source call.name byte ↔ byte = call.span.start := by
  constructor
  · rintro ⟨other, isIn, same, otherFirst, rfl⟩
    exact Nat.le_antisymm (otherFirst call mem same.symm) (first other isIn same)
  · rintro rfl
    exact ⟨call, mem, rfl, first, rfl⟩

/-- What is called has a first call. -/
theorem exists_firstCalledAt {source : List Char} {call : Identifier}
    (mem : call ∈ callsIn source) : ∃ byte, FirstCalledAt source call.name byte := by
  obtain ⟨first, isFirst, same⟩ := exists_firstOfEach mem
  exact ⟨first.span.start, first, (firstOfEach_sublist _).mem isFirst, same,
    le_of_mem_firstOfEach (callsIn_ordered source) isFirst, rfl⟩

/-- The helpers of a template are listed in the order of their first calls in a source. -/
def Template.ListsByAppearance (source : List Char) (template : Template) : Prop :=
  template.helperNames.Pairwise fun name later => ∀ here there,
    FirstCalledAt source name here → FirstCalledAt source later there → here < there

/-- A walk through a template meets every helper that it meets at its first call in a source. -/
def Template.MeetsFirstCalls (source : List Char) (template : Template) : Prop :=
  ∀ call ∈ firstOfEach template.calls, call.IsFirstIn source

instance (source : List Char) (template : Template) :
    Decidable (template.MeetsFirstCalls source) :=
  inferInstanceAs (Decidable (∀ call ∈ firstOfEach template.calls, _))

/-- If every helper is met at its first call, the first calls in a template are those that are met
first. -/
theorem Template.MeetsFirstCalls.filter_calls {whitespace : Whitespace} {source : String}
    {template : Template} (meets : template.MeetsFirstCalls source.toList)
    (compiled : Template.compile whitespace source = .ok template) :
    (template.calls.filter fun call => call.IsFirstIn source.toList) =
      firstOfEach template.calls := by
  have within := Template.calls_subset compiled
  have sublist := firstOfEach_sublist template.calls
  have nodup := Template.calls_nodup compiled
  have same : (firstOfEach template.calls).Perm
      (template.calls.filter fun call => call.IsFirstIn source.toList) := by
    refine (List.perm_ext_iff_of_nodup (nodup.sublist sublist) (nodup.filter _)).mpr fun call => ?_
    rw [List.mem_filter, decide_eq_true_eq]
    refine ⟨fun mem => ⟨sublist.mem mem, meets call mem⟩, fun ⟨mem, first⟩ => ?_⟩
    -- the call of this helper that is met first is a first call too, so both are at one place
    obtain ⟨met, isMet, same⟩ := exists_firstOfEach mem
    have metIn := within (sublist.mem isMet)
    have place : met.span.start = call.span.start :=
      Nat.le_antisymm (meets met isMet call (within mem) same.symm) (first met metIn same)
    exact List.inj_on_of_nodup_map (callsIn_places_nodup source.toList) metIn (within mem) place ▸
      isMet
  have all : (firstOfEach template.calls).filter (fun call => call.IsFirstIn source.toList) =
      firstOfEach template.calls :=
    List.filter_eq_self.mpr fun call mem => decide_eq_true (meets call mem)
  have filtered := sublist.filter fun call => decide (call.IsFirstIn source.toList)
  rw [all] at filtered
  exact (filtered.eq_of_length same.length_eq).symm

/-- The helpers of a template are listed once each, and each is called in the source outside of
strings. If a walk through the template meets them at their first calls, they are listed in the
order of these exactly if what the walk orders by names is written in this order. -/
theorem compileSource_lists_by_appearance {whitespace : Whitespace} {source : String}
    {template : Template} (compiled : compileSource whitespace source = .ok template) :
    template.helperNames.Nodup ∧
      (∀ name ∈ template.helperNames, ∃ byte, FirstCalledAt source.toList name byte) ∧
      (template.MeetsFirstCalls source.toList →
        (template.ListsByAppearance source.toList ↔
          template.IsArranged (Identifier.FirstBefore source.toList))) := by
  have compiled := Template.compile_of_compileSource compiled
  have within := Template.calls_subset compiled
  have sublist := firstOfEach_sublist template.calls
  refine ⟨nodup_eraseDups _, fun name mem => ?_, fun meets => ?_⟩
  · rw [Template.helperNames_eq] at mem
    obtain ⟨call, isIn, rfl⟩ := List.mem_map.mp mem
    exact exists_firstCalledAt (within (sublist.mem isIn))
  · have ordered : (callsIn source.toList).Pairwise (Identifier.FirstBefore source.toList) :=
      (callsIn_ordered source.toList).imp fun before _ _ => before
    have byPlace : template.ListsByAppearance source.toList ↔
        (firstOfEach template.calls).Pairwise Identifier.Before := by
      rw [Template.ListsByAppearance, Template.helperNames_eq, List.pairwise_map]
      refine List.Pairwise.iff_of_mem fun {call later} mem laterMem => ?_
      have here := firstCalledAt_iff (within (sublist.mem mem)) (meets call mem)
      have there := firstCalledAt_iff (within (sublist.mem laterMem)) (meets later laterMem)
      simp [here, there, Identifier.Before]
    rw [byPlace, ← meets.filter_calls compiled, List.pairwise_filter,
      ← Template.pairwise_calls_iff compiled ordered]
    simp only [decide_eq_true_eq]
    rfl

/-- A section with named bodies, one of which comes twice, in front of an inline partial, in which a
helper is called once more. -/
theorem compileSource_lists_by_appearance_nested :
    let source :=
      "\x7b@a/\x7d\x7b#s\x7d\x7b@b\x7d\x7b@a/\x7d\x7b:c\x7d\x7b@a/\x7d\x7b:c\x7d\x7b@e/\x7d" ++
        "\x7b:d\x7d\x7b@c/\x7d\x7b/b\x7d\x7b/s\x7d\x7b<p\x7d\x7b@d/\x7d\x7b@b/\x7d\x7b/p\x7d"
    ∃ template, compileSource .compress source = .ok template ∧
      template.helperNames = ["a", "b", "e", "c", "d"] ∧
      template.MeetsFirstCalls source.toList ∧
      template.IsArranged (Identifier.FirstBefore source.toList) ∧
      template.ListsByAppearance source.toList := by
  intro source
  have facts : (compileSource .compress source).toOption.map (fun template =>
      (template.helperNames, decide (template.MeetsFirstCalls source.toList),
        decide (template.IsArranged (Identifier.FirstBefore source.toList)))) =
          some (["a", "b", "e", "c", "d"], true, true) := by
    decide +kernel
  obtain ⟨template, found, same⟩ := Option.map_eq_some_iff.mp facts
  obtain ⟨names, both⟩ := Prod.mk.inj same
  obtain ⟨meets, arranged⟩ := Prod.mk.inj both
  have compiled := Except.eq_ok_of_toOption found
  have meets := of_decide_eq_true meets
  have arranged := of_decide_eq_true arranged
  exact ⟨template, compiled, names, meets, arranged,
    ((compileSource_lists_by_appearance compiled).2.2 meets).mpr arranged⟩

/-- The call in an inline partial in front of another call comes first, and is listed last. -/
theorem compileSource_lists_body_first :
    let source := "\x7b<a\x7d\x7b@x/\x7d\x7b/a\x7d\x7b@y/\x7d"
    ∃ template, compileSource .preserve source = .ok template ∧
      template.helperNames = ["y", "x"] ∧ FirstCalledAt source.toList "x" 6 ∧
      FirstCalledAt source.toList "y" 15 ∧ ¬ template.ListsByAppearance source.toList := by
  intro source
  have listed : (compileSource .preserve source).toOption.map (·.helperNames) =
      some ["y", "x"] := by
    decide +kernel
  obtain ⟨template, found, names⟩ := Option.map_eq_some_iff.mp listed
  have first : FirstCalledAt source.toList "x" 6 := by decide +kernel
  have second : FirstCalledAt source.toList "y" 15 := by decide +kernel
  refine ⟨template, Except.eq_ok_of_toOption found, names, first, second, fun appears => ?_⟩
  rw [Template.ListsByAppearance, names] at appears
  have wrong : 15 < 6 := List.rel_of_pairwise_cons appears List.mem_cons_self 15 6 second first
  omega

end Dust
