import Dust.Proofs.Syntax.StringReading

/-!
# Putting bodies together

While the segments of a section or helper are put together, its main body and its named bodies are
complete one after the other, and the tags around it stay as they are. An open tag, the segments of
its bodies and its close tag add one part to what is around them.
-/

namespace Dust

namespace Assembly

/-! ## Blocks -/

/-- Between its tags the body of a block or inline partial is put together, which is added or set
aside. -/
theorem run_block {segments : List Segment} {body : Body} (adds : Adds segments body)
    (settled : body.isSettled = true) (name : Identifier) (defines : Bool) (span : Span)
    (assembly : Assembly) (rest : List Segment) :
    assembly.run
        (.opening (.block name defines) :: (segments ++ .closing name.name span :: rest)) =
      (if defines then assembly.define name.name body
        else assembly.add (.block name (some body))).run rest := by
  rw [run, step, openTag]
  simp only
  rw [adds, addAll_settled _ _ _ settled, run, step, close]
  cases defines <;> simp

/-! ## Sections and helpers -/

/-- A section or helper is open in a template, and its innermost body is complete. This is the main
body, or the last one of the named bodies. -/
inductive Within (outer : Assembly) (head : Head) (params : List Param) (key : String)
    (span : Span) (main : Body) : Dict Body → Assembly → Prop where
  /-- There are no named bodies yet. -/
  | main : Within outer head params key span main []
      ⟨.element head params key span none [] none :: outer.opened, main :: outer.scopes,
        outer.blocks⟩
  /-- The last named body stands behind the others. -/
  | named (bodies : Dict Body) (name : String) (body : Body) :
      Within outer head params key span main (bodies.insert name body)
        ⟨.element head params key span (some main) bodies (some name) :: outer.opened,
          body :: outer.scopes, outer.blocks⟩

section Within

variable {outer assembly : Assembly} {head : Head} {params : List Param} {key : String}
  {span : Span} {main : Body} {bodies : Dict Body}

/-- A named body begins where the body before it is complete. -/
theorem Within.beginBody (within : Within outer head params key span main bodies assembly)
    (name : String) (place : Span) :
    assembly.beginBody name place =
      .ok ⟨.element head params key span (some main) bodies (some name) :: outer.opened,
        [] :: outer.scopes, outer.blocks⟩ := by
  cases within <;> rfl

/-- The close tag adds the section or helper with all its bodies to what is around it. -/
theorem Within.close (within : Within outer head params key span main bodies assembly)
    (place : Span) :
    assembly.close key place =
      .ok (outer.add (.element head params (some main) bodies (span.cover place))) := by
  cases within <;> simp [Assembly.close]

/-- Between the tag of a named body and the next tag the body is put together. -/
theorem Within.run_body {segments : List Segment} {body : Body}
    (within : Within outer head params key span main bodies assembly) (adds : Adds segments body)
    (settled : body.isSettled = true) (name : String) (place : Span) :
    ∃ next, Within outer head params key span main (bodies.insert name body) next ∧
      ∀ rest, assembly.run (.body name place :: (segments ++ rest)) = next.run rest := by
  refine ⟨_, .named bodies name body, fun rest => ?_⟩
  rw [run, step, within.beginBody]
  simp only
  rw [adds, addAll_settled _ _ _ settled]

/-- Between its open tag and the next tag the main body is put together. -/
theorem Within.run_main {segments : List Segment} (adds : Adds segments main)
    (settled : main.isSettled = true) :
    ∃ next, Within outer head params key span main [] next ∧
      ∀ rest, outer.run
        (.opening (.element head params key span none [] none) :: (segments ++ rest)) =
          next.run rest := by
  refine ⟨_, .main, fun rest => ?_⟩
  rw [run, step, openTag]
  simp only
  rw [adds, addAll_settled _ _ _ settled]

end Within

/-- Segments that put named bodies behind those that are complete, whatever section or helper they
belong to. -/
def AddsBodies (segments : List Segment) (added : List (String × Body)) : Prop :=
  ∀ {outer assembly : Assembly} {head : Head} {params : List Param} {key : String} {span : Span}
    {main : Body} {bodies : Dict Body},
    Within outer head params key span main bodies assembly → Dict.Sorted (bodies ++ added) →
      ∃ next, Within outer head params key span main (bodies ++ added) next ∧
        ∀ rest, assembly.run (segments ++ rest) = next.run rest

/-- No segments put no bodies. -/
theorem AddsBodies.nil : AddsBodies [] [] := by
  intro outer assembly head params key span main bodies within _
  rw [List.append_nil]
  exact ⟨assembly, within, fun _ => rfl⟩

/-- A named body is put before those that follow it. -/
theorem AddsBodies.cons {segments more : List Segment} {name : String} {body : Body}
    {added : List (String × Body)} (adds : Adds segments body) (settled : body.isSettled = true)
    (behind : AddsBodies more added) (place : Span) :
    AddsBodies (.body name place :: (segments ++ more)) ((name, body) :: added) := by
  intro outer assembly head params key span main bodies within sorted
  have split : bodies ++ (name, body) :: added = bodies ++ [(name, body)] ++ added := by simp
  rw [split] at sorted ⊢
  have front : Dict.Sorted (bodies ++ [(name, body)]) := sorted.left
  obtain ⟨middle, inside, first⟩ := within.run_body adds settled name place
  rw [Dict.insert_last front] at inside
  obtain ⟨next, last, second⟩ := behind inside sorted
  refine ⟨next, last, fun rest => ?_⟩
  rw [List.cons_append, List.append_assoc, first, second]

/-- Between its tags a section or helper is put together, which is added. -/
theorem run_element {segments more : List Segment} {main : Body} {bodies : Dict Body}
    (adds : Adds segments main) (settled : main.isSettled = true)
    (named : AddsBodies more bodies) (sorted : Dict.Sorted bodies) (head : Head)
    (params : List Param) (key : String) (span place : Span) :
    Adds
      (.opening (.element head params key span none [] none) ::
        (segments ++ more ++ [.closing key place]))
      [.element head params (some main) bodies (span.cover place)] := by
  intro assembly rest
  obtain ⟨middle, inside, first⟩ :=
    @Within.run_main assembly head params key span main segments adds settled
  obtain ⟨next, last, second⟩ := named inside sorted
  rw [List.cons_append, List.append_assoc, List.append_assoc, first, second]
  simp only [List.singleton_append, run, step, last.close]
  rfl

end Assembly

end Dust
