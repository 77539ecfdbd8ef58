import Dust.Proofs.Render.Site
import Mathlib.Data.Finset.Card
import Mathlib.Data.List.Dedup
import Mathlib.Data.Finset.Dedup

/-!
# Which inline partials insert each other

An inline partial is rendered where a block of its name stands, so that inline partials with blocks
in them lead to each other. If they do not lead back to themselves, each name has a rank that is
above those of all inline partials it leads to. A body is smaller than one that it is a string or a
body of.
-/

namespace Dust

open Relation (TransGen)

/-- A body holds a block of a name at any depth, also in strings. What is in the templates that it
includes does not count. -/
inductive Body.Inserts (name : String) : Body → Prop where
  /-- A block is a part of the body. -/
  | here {body : Body} {identifier : Identifier} {main : Option Body}
    (mem : Part.block identifier main ∈ body) (named : identifier.name = name) : Inserts name body
  /-- A block is in a string of a part. -/
  | string {body inner : Body} {part : Part} (mem : part ∈ body) (quotes : part.Quotes inner)
    (inserts : Inserts name inner) : Inserts name body
  /-- A block is in a body of a part. -/
  | nested {body inner : Body} {part : Part} (mem : part ∈ body) (nests : part.Nests inner)
    (inserts : Inserts name inner) : Inserts name body

/-- Some inline partial of one name holds a block of another one. -/
def BlockDepends (templates : List Template) (outer inner : String) : Prop :=
  ∃ template ∈ templates, ∃ body, (outer, body) ∈ template.blocks ∧ Body.Inserts inner body

/-- No inline partial leads back to its own name. -/
def AcyclicBlocks (templates : List Template) : Prop :=
  ∀ name, ¬ TransGen (BlockDepends templates) name name

/-- The names of all inline partials. -/
def blockNames (templates : List Template) : List String :=
  templates.flatMap fun template => template.blocks.keys

open Classical in
/-- How many names of inline partials a name leads to. -/
noncomputable def blockRank (templates : List Template) (name : String) : Nat :=
  ((blockNames templates).toFinset.filter fun other =>
    TransGen (BlockDepends templates) name other).card

variable {templates : List Template}

/-- The name of an inline partial is one of the names. -/
theorem mem_blockNames {template : Template} {name : String} {body : Body}
    (mem : template ∈ templates) (entry : (name, body) ∈ template.blocks) :
    name ∈ blockNames templates :=
  List.mem_flatMap.mpr ⟨template, mem, List.mem_map.mpr ⟨(name, body), entry, rfl⟩⟩

/-- A rank is at most the number of names. -/
theorem blockRank_le (templates : List Template) (name : String) :
    blockRank templates name ≤ (blockNames templates).length := by
  classical
  exact (Finset.card_filter_le _ _).trans (List.toFinset_card_le _)

/-- An inline partial has a higher rank than those that it leads to. -/
theorem blockRank_lt (acyclic : AcyclicBlocks templates) {outer inner : String}
    (depends : BlockDepends templates outer inner) (mem : inner ∈ blockNames templates) :
    blockRank templates inner < blockRank templates outer := by
  classical
  apply Finset.card_lt_card
  rw [Finset.ssubset_iff_of_subset]
  · refine ⟨inner, ?_, ?_⟩
    · exact Finset.mem_filter.mpr ⟨List.mem_toFinset.mpr mem, .single depends⟩
    · intro own
      exact acyclic inner (Finset.mem_filter.mp own).2
  · intro other leads
    obtain ⟨listed, path⟩ := Finset.mem_filter.mp leads
    exact Finset.mem_filter.mpr ⟨listed, .head depends path⟩

/-- A list has a size. -/
theorem sizeOf_list_pos {α : Type} [SizeOf α] (list : List α) : 0 < sizeOf list := by
  cases list with
  | nil => simp only [List.nil.sizeOf_spec]; omega
  | cons first rest => simp only [List.cons.sizeOf_spec]; omega

/-- A string among parameters is smaller than these. -/
theorem Quoted.sizeOf_lt {list : List Param} {body : Body} (quoted : Quoted list body) :
    sizeOf body < sizeOf list := by
  obtain ⟨⟨name, argument⟩, mem, rfl⟩ := quoted
  have smaller := List.sizeOf_lt_of_mem mem
  simp only [Param.mk.sizeOf_spec, Argument.interpolated.sizeOf_spec] at smaller
  omega

/-- A string in a part is smaller than the part. -/
theorem Part.Quotes.sizeOf_lt {part : Part} {body : Body} (quotes : part.Quotes body) :
    sizeOf body < sizeOf part := by
  match part, quotes with
  | .element head list main bodies span, quotes =>
    have smaller := Quoted.sizeOf_lt quotes
    simp only [Part.element.sizeOf_spec]
    omega
  | .inclusion target way list span, .inl same =>
    subst same
    simp only [Part.inclusion.sizeOf_spec, Target.dynamic.sizeOf_spec]
    omega
  | .inclusion target way list span, .inr quoted =>
    have smaller := Quoted.sizeOf_lt quoted
    simp only [Part.inclusion.sizeOf_spec]
    omega

/-- A body of a part is smaller than the part. -/
theorem Part.Nests.sizeOf_lt {part : Part} {body : Body} (nests : part.Nests body) :
    sizeOf body < sizeOf part := by
  match part, nests with
  | .element head list main bodies span, .inl same =>
    subst same
    have positive := sizeOf_list_pos list
    simp only [Part.element.sizeOf_spec, List.nil.sizeOf_spec]
    omega
  | .element head list main bodies span, .inr (.inl same) =>
    subst same
    simp only [Part.element.sizeOf_spec, Option.some.sizeOf_spec]
    omega
  | .element head list main bodies span, .inr (.inr ⟨name, mem⟩) =>
    have smaller := List.sizeOf_lt_of_mem mem
    simp only [Prod.mk.sizeOf_spec] at smaller
    simp only [Part.element.sizeOf_spec]
    omega
  | .block name main, same =>
    cases same
    simp only [Part.block.sizeOf_spec, Option.some.sizeOf_spec]
    omega

/-- The body of a template is smaller than a list that holds the template. -/
theorem Template.sizeOf_body_lt {template : Template} (mem : template ∈ templates) :
    sizeOf template.body < sizeOf templates := by
  have smaller := List.sizeOf_lt_of_mem mem
  obtain ⟨source, body, blocks, path⟩ := template
  simp only [Template.mk.sizeOf_spec] at smaller ⊢
  omega

/-- An inline partial of a template is smaller than a list that holds the template. -/
theorem Template.sizeOf_block_lt {template : Template} (mem : template ∈ templates) {name : String}
    {body : Body} (entry : (name, body) ∈ template.blocks) : sizeOf body < sizeOf templates := by
  have smaller := List.sizeOf_lt_of_mem mem
  have entrySmaller := List.sizeOf_lt_of_mem entry
  obtain ⟨source, main, blocks, path⟩ := template
  simp only [Template.mk.sizeOf_spec, Prod.mk.sizeOf_spec] at smaller entrySmaller
  omega

end Dust
