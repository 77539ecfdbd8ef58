import Dust.Syntax.Tree

/-!
# What holds of all pieces of a template

A demand says what is asked of places, names, positions, doubles, dictionaries of bodies and parts.
A tree meets it if all pieces in it do, however deep they are nested. Demands are a way to say a
property of trees without saying how trees are walked, and to prove it once for many properties.
-/

namespace Dust

/-- What is asked of the pieces of a template. -/
structure Demand where
  /-- Of the place of a path, a reference, a section, a helper or a partial. -/
  span : Span → Prop := fun _ => True
  /-- Of a name with its place. -/
  name : Identifier → Prop := fun _ => True
  /-- Of a position in a path. -/
  index : Nat → Prop := fun _ => True
  /-- Of a double written in a tag. -/
  float : Float → Prop := fun _ => True
  /-- Of the names of bodies. -/
  keys : List String → Prop := fun _ => True
  /-- Of a part. -/
  part : Part → Prop := fun _ => True

variable (demand : Demand)

mutual

/-- A path meets a demand. -/
def Path.Meets : Path → Prop
  | ⟨_, keys, span⟩ => demand.span span ∧ Path.KeysMeet keys

/-- A key meets a demand. -/
def Key.Meets : Key → Prop
  | .name _ => True
  | .index index => demand.index index
  | .path path => path.Meets

/-- Keys meet a demand. -/
def Path.KeysMeet : List Key → Prop
  | [] => True
  | key :: rest => key.Meets ∧ Path.KeysMeet rest

end

/-- A literal meets a demand. -/
def Literal.Meets : Literal → Prop
  | float x => demand.float x
  | _ => True

/-- What a tag with bodies is meets a demand. -/
def Head.Meets : Head → Prop
  | test _ key => key.Meets demand
  | helper name => demand.name name

mutual

/-- A part meets a demand. -/
def Part.Meets : Part → Prop
  | .text content => demand.part (.text content)
  | .comment content => demand.part (.comment content)
  | .reference path filters span =>
    demand.part (.reference path filters span) ∧ path.Meets demand ∧
      (∀ filter ∈ filters, demand.name filter) ∧ demand.span span
  | .element head params main bodies span =>
    demand.part (.element head params main bodies span) ∧ head.Meets demand ∧
      Part.ParamsMeet params ∧ Part.MainMeets main ∧ demand.keys (bodies.map Prod.fst) ∧
      Part.BodiesMeet bodies ∧ demand.span span
  | .block name main => demand.part (.block name main) ∧ demand.name name ∧ Part.MainMeets main
  | .inclusion target context params span =>
    demand.part (.inclusion target context params span) ∧ target.Meets ∧
      (∀ path ∈ context, path.Meets demand) ∧ Part.ParamsMeet params ∧ demand.span span

/-- A parameter meets a demand. -/
def Param.Meets : Param → Prop
  | ⟨name, argument⟩ => demand.name name ∧ argument.Meets

/-- The value of a parameter meets a demand. -/
def Argument.Meets : Argument → Prop
  | .path path => path.Meets demand
  | .literal literal => literal.Meets demand
  | .interpolated body => Part.AllMeet body

/-- The name of an included template meets a demand. -/
def Target.Meets : Target → Prop
  | .static _ => True
  | .dynamic body => Part.AllMeet body

/-- Parameters meet a demand. -/
def Part.ParamsMeet : List Param → Prop
  | [] => True
  | param :: rest => param.Meets ∧ Part.ParamsMeet rest

/-- A main body meets a demand, if there is one. -/
def Part.MainMeets : Option (List Part) → Prop
  | none => True
  | some body => Part.AllMeet body

/-- Named bodies meet a demand. -/
def Part.BodiesMeet : List (String × List Part) → Prop
  | [] => True
  | (_, body) :: rest => Part.AllMeet body ∧ Part.BodiesMeet rest

/-- Parts meet a demand. -/
def Part.AllMeet : List Part → Prop
  | [] => True
  | part :: rest => part.Meets ∧ Part.AllMeet rest

end

variable {demand}

/-- Keys meet a demand if each of them does. -/
theorem Path.keysMeet_iff {keys : List Key} :
    Path.KeysMeet demand keys ↔ ∀ key ∈ keys, key.Meets demand := by
  induction keys with
  | nil => simp [Path.KeysMeet]
  | cons key rest induction => simp [Path.KeysMeet, induction]

namespace Part

/-- Parameters meet a demand if each of them does. -/
theorem paramsMeet_iff {params : List Param} :
    ParamsMeet demand params ↔ ∀ param ∈ params, param.Meets demand := by
  induction params with
  | nil => simp [ParamsMeet]
  | cons param rest induction => simp [ParamsMeet, induction]

/-- Parts meet a demand if each of them does. -/
theorem allMeet_iff {parts : List Part} :
    AllMeet demand parts ↔ ∀ part ∈ parts, part.Meets demand := by
  induction parts with
  | nil => simp [AllMeet]
  | cons part rest induction => simp [AllMeet, induction]

/-- Named bodies meet a demand if each of them does. -/
theorem bodiesMeet_iff {bodies : List (String × List Part)} :
    BodiesMeet demand bodies ↔ ∀ entry ∈ bodies, AllMeet demand entry.2 := by
  induction bodies with
  | nil => simp [BodiesMeet]
  | cons entry rest induction => simp [BodiesMeet, induction]

end Part

variable (demand)

/-- A template meets a demand. -/
structure Template.Meets (template : Template) : Prop where
  /-- The body meets it. -/
  body : Part.AllMeet demand template.body
  /-- The names of the inline partials meet it. -/
  keys : demand.keys (template.blocks.map Prod.fst)
  /-- The inline partials meet it. -/
  blocks : Part.BodiesMeet demand template.blocks

variable {demand}

/-- What meeting a demand comes to, with the walks spelled out. -/
theorem Template.meets_iff {template : Template} :
    template.Meets demand ↔
      Part.AllMeet demand template.body ∧ demand.keys (template.blocks.map Prod.fst) ∧
        Part.BodiesMeet demand template.blocks :=
  ⟨fun ⟨body, keys, blocks⟩ => ⟨body, keys, blocks⟩, fun ⟨body, keys, blocks⟩ =>
    ⟨body, keys, blocks⟩⟩

/-! ### Demands that follow from others -/

/-- A demand follows from two others for every piece. -/
structure Demand.Follows (first second demand : Demand) : Prop where
  /-- For every place. -/
  span : ∀ {span}, first.span span → second.span span → demand.span span
  /-- For every name. -/
  name : ∀ {name}, first.name name → second.name name → demand.name name
  /-- For every position. -/
  index : ∀ {index}, first.index index → second.index index → demand.index index
  /-- For every double. -/
  float : ∀ {x}, first.float x → second.float x → demand.float x
  /-- For the names of all bodies. -/
  keys : ∀ {names}, first.keys names → second.keys names → demand.keys names
  /-- For every part. -/
  part : ∀ {part}, first.part part → second.part part → demand.part part

variable {first second : Demand}

mutual

/-- A path meets a demand that follows from two that it meets. -/
theorem Path.meets_of_both (follows : first.Follows second demand) (path : Path)
    (meets : path.Meets first) (meets' : path.Meets second) : path.Meets demand := by
  match path, meets, meets' with
  | ⟨_, keys, _⟩, ⟨span, each⟩, ⟨span', each'⟩ =>
    exact ⟨follows.span span span', Path.keysMeet_of_both follows keys each each'⟩

/-- A key meets a demand that follows from two that it meets. -/
theorem Key.meets_of_both (follows : first.Follows second demand) (key : Key)
    (meets : key.Meets first) (meets' : key.Meets second) : key.Meets demand := by
  match key, meets, meets' with
  | .name _, _, _ => trivial
  | .index _, meets, meets' => exact follows.index meets meets'
  | .path path, meets, meets' => exact Path.meets_of_both follows path meets meets'

/-- Keys meet a demand that follows from two that they meet. -/
theorem Path.keysMeet_of_both (follows : first.Follows second demand) (keys : List Key)
    (meets : Path.KeysMeet first keys) (meets' : Path.KeysMeet second keys) :
    Path.KeysMeet demand keys := by
  match keys, meets, meets' with
  | [], _, _ => trivial
  | key :: rest, ⟨here, others⟩, ⟨here', others'⟩ =>
    exact ⟨Key.meets_of_both follows key here here',
      Path.keysMeet_of_both follows rest others others'⟩

end

/-- What a tag is meets a demand that follows from two that it meets. -/
theorem Head.meets_of_both (follows : first.Follows second demand) {head : Head}
    (meets : head.Meets first) (meets' : head.Meets second) : head.Meets demand := by
  cases head with
  | test kind key => exact Path.meets_of_both follows key meets meets'
  | helper name => exact follows.name meets meets'

mutual

/-- A part meets a demand that follows from two that it meets. -/
theorem Part.meets_of_both (follows : first.Follows second demand) (part : Part)
    (meets : part.Meets first) (meets' : part.Meets second) : part.Meets demand := by
  match part, meets, meets' with
  | .text _, meets, meets' => exact follows.part meets meets'
  | .comment _, meets, meets' => exact follows.part meets meets'
  | .reference path filters span, ⟨here, way, names, place⟩, ⟨here', way', names', place'⟩ =>
    exact ⟨follows.part here here', Path.meets_of_both follows path way way',
      fun filter mem => follows.name (names filter mem) (names' filter mem),
      follows.span place place'⟩
  | .element head params main bodies span, ⟨here, tag, given, inner, keys, named, place⟩,
      ⟨here', tag', given', inner', keys', named', place'⟩ =>
    exact ⟨follows.part here here', Head.meets_of_both follows tag tag',
      Part.paramsMeet_of_both follows params given given',
      Part.mainMeets_of_both follows main inner inner', follows.keys keys keys',
      Part.bodiesMeet_of_both follows bodies named named', follows.span place place'⟩
  | .block name main, ⟨here, named, inner⟩, ⟨here', named', inner'⟩ =>
    exact ⟨follows.part here here', follows.name named named',
      Part.mainMeets_of_both follows main inner inner'⟩
  | .inclusion target context params span, ⟨here, named, way, given, place⟩,
      ⟨here', named', way', given', place'⟩ =>
    exact ⟨follows.part here here', Target.meets_of_both follows target named named',
      fun path mem => Path.meets_of_both follows path (way path mem) (way' path mem),
      Part.paramsMeet_of_both follows params given given', follows.span place place'⟩

/-- A parameter meets a demand that follows from two that it meets. -/
theorem Param.meets_of_both (follows : first.Follows second demand) (param : Param)
    (meets : param.Meets first) (meets' : param.Meets second) : param.Meets demand := by
  match param, meets, meets' with
  | ⟨_, argument⟩, ⟨name, value⟩, ⟨name', value'⟩ =>
    exact ⟨follows.name name name', Argument.meets_of_both follows argument value value'⟩

/-- The value of a parameter meets a demand that follows from two that it meets. -/
theorem Argument.meets_of_both (follows : first.Follows second demand) (argument : Argument)
    (meets : argument.Meets first) (meets' : argument.Meets second) : argument.Meets demand := by
  match argument, meets, meets' with
  | .path path, meets, meets' => exact Path.meets_of_both follows path meets meets'
  | .literal (.string _), _, _ => trivial
  | .literal (.integer _), _, _ => trivial
  | .literal (.float _), meets, meets' => exact follows.float meets meets'
  | .interpolated body, meets, meets' => exact Part.allMeet_of_both follows body meets meets'

/-- The name of an included template meets a demand that follows from two that it meets. -/
theorem Target.meets_of_both (follows : first.Follows second demand) (target : Target)
    (meets : target.Meets first) (meets' : target.Meets second) : target.Meets demand := by
  match target, meets, meets' with
  | .static _, _, _ => trivial
  | .dynamic body, meets, meets' => exact Part.allMeet_of_both follows body meets meets'

/-- Parameters meet a demand that follows from two that they meet. -/
theorem Part.paramsMeet_of_both (follows : first.Follows second demand) (params : List Param)
    (meets : Part.ParamsMeet first params) (meets' : Part.ParamsMeet second params) :
    Part.ParamsMeet demand params := by
  match params, meets, meets' with
  | [], _, _ => trivial
  | param :: rest, ⟨here, others⟩, ⟨here', others'⟩ =>
    exact ⟨Param.meets_of_both follows param here here',
      Part.paramsMeet_of_both follows rest others others'⟩

/-- A main body meets a demand that follows from two that it meets. -/
theorem Part.mainMeets_of_both (follows : first.Follows second demand) (main : Option (List Part))
    (meets : Part.MainMeets first main) (meets' : Part.MainMeets second main) :
    Part.MainMeets demand main := by
  match main, meets, meets' with
  | none, _, _ => trivial
  | some body, meets, meets' => exact Part.allMeet_of_both follows body meets meets'

/-- Named bodies meet a demand that follows from two that they meet. -/
theorem Part.bodiesMeet_of_both (follows : first.Follows second demand)
    (bodies : List (String × List Part)) (meets : Part.BodiesMeet first bodies)
    (meets' : Part.BodiesMeet second bodies) : Part.BodiesMeet demand bodies := by
  match bodies, meets, meets' with
  | [], _, _ => trivial
  | (_, body) :: rest, ⟨here, others⟩, ⟨here', others'⟩ =>
    exact ⟨Part.allMeet_of_both follows body here here',
      Part.bodiesMeet_of_both follows rest others others'⟩

/-- Parts meet a demand that follows from two that they meet. -/
theorem Part.allMeet_of_both (follows : first.Follows second demand) (parts : List Part)
    (meets : Part.AllMeet first parts) (meets' : Part.AllMeet second parts) :
    Part.AllMeet demand parts := by
  match parts, meets, meets' with
  | [], _, _ => trivial
  | part :: rest, ⟨here, others⟩, ⟨here', others'⟩ =>
    exact ⟨Part.meets_of_both follows part here here',
      Part.allMeet_of_both follows rest others others'⟩

end

/-- A template meets a demand that follows from two that it meets. -/
theorem Template.meets_of_both (follows : first.Follows second demand) {template : Template}
    (meets : template.Meets first) (meets' : template.Meets second) : template.Meets demand :=
  ⟨Part.allMeet_of_both follows _ meets.body meets'.body, follows.keys meets.keys meets'.keys,
    Part.bodiesMeet_of_both follows _ meets.blocks meets'.blocks⟩

end Dust
