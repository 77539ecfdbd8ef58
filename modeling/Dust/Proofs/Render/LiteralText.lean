import Dust.Proofs.Render.Joining
import Dust.Proofs.Syntax.SpecialCharacters

/-!
# Literal text

Every text can be the text of a template. Its braces and line ends are written as tags, so that
nothing is left in it that a template or its layout could take for something else, and the template
writes the text whatever it is rendered with.
-/

namespace Dust

/-- A character as text of a template: braces and line ends are tags of special characters. -/
def literalCharacter : Char → List Char
  | '{' => specialTag ['l', 'b']
  | '}' => specialTag ['r', 'b']
  | '\n' => specialTag ['n']
  | '\r' => specialTag ['r']
  | c => [c]

/-- A text as text of a template. -/
def literalSource (text : String) : String :=
  String.ofList (text.toList.flatMap literalCharacter)

/-- A character is written as it is or as a tag. -/
theorem spells_literalCharacter (c : Char) : Spells c (literalCharacter c) := by
  unfold literalCharacter
  split
  case h_5 noBrace _ _ _ => exact .plain noBrace
  all_goals exact .special rfl

/-- There are no line ends in what is written. -/
theorem newline_not_mem_literalCharacter (c : Char) : '\n' ∉ literalCharacter c := by
  unfold literalCharacter
  split
  case h_5 noLineEnd _ => simpa using Ne.symm noLineEnd
  all_goals decide

/-- The source of a text is compiled to the text. -/
theorem compile_literalSource (whitespace : Whitespace) (text : String) :
    Template.compile whitespace (literalSource text) =
      .ok ⟨literalSource text, plainBody text, [], none⟩ := by
  have noLineEnd : '\n' ∉ (literalSource text).toList := by
    rw [literalSource, String.toList_ofList, List.mem_flatMap]
    rintro ⟨c, -, mem⟩
    exact newline_not_mem_literalCharacter c mem
  have placed := (Token.meaningful_placedFrom .text 0 (literalSource text).toList
    (show (literalSource text).toList = [] ++ _ ++ [] by simp) rfl).placed
  rw [Template.compile_of_kept fun token mem _ => ?kept]
  case kept =>
    obtain ⟨before, after, same, -⟩ := placed.shown token mem
    have line : '\n' ∉ token.text := fun inside => noLineEnd (by simp [same, inside])
    cases whitespace with
    | preserve => rfl
    | compress => exact compress_eq_self line
  have read := @Body.ofText_spelled (Token.stringBody (literalSource text).toList)
    (literalSource text).toList literalCharacter spells_literalCharacter text.toList 0
  have written : text.toList.flatMap literalCharacter = (literalSource text).toList :=
    String.toList_ofList.symm
  rw [written, String.ofList_toList] at read
  unfold Template.compile
  simp only [read, bind, Except.bind]

/-- Any text can be written as the text of a template. With its braces and line ends as tags it is
compiled, whatever becomes of layout, to a template that has the text as its only part, or no part
if the text is empty, and no inline partials. Rendering the template gives the text, whatever the
data are and with any helpers, filters and other templates. -/
theorem EngineM.renderOutput_literal (whitespace : Whitespace) (text : String) :
    ∃ template, compileSource whitespace (literalSource text) = .ok template ∧
      template.body = (if text = "" then [] else [.text text]) ∧ template.blocks = [] ∧
      ∀ (engine : Engine) (input : RenderInput), 0 < engine.bound →
        ((renderOutput template input).run engine).1 = .ok { text } := by
  refine ⟨⟨literalSource text, plainBody text, [], none⟩, ?_, rfl, rfl, ?_⟩
  · rw [compileSource, compile_literalSource]
    rfl
  · intro engine input positive
    obtain ⟨bound, isBound⟩ := Nat.exists_eq_add_of_lt positive
    rw [Nat.zero_add] at isBound
    rw [renderOutput_run, isBound, Renderer.renderTemplate, Renderer.runFrom_plainBody]
    change Except.ok (({ text := "" } : Output) ++ ({ text } : Output)) = _
    rw [Output.text_append_text, String.empty_append]

/-- Openings of tags, comments and raw text, quotes and line ends are written as they are, also by
an engine with data that could be looked up. -/
theorem EngineM.renderOutput_literal_openings :
    let text := "\x7ba\x7d \x7b! \r\n  \x7b~lb\x7d\x7b`\"\x7b@x\n"
    literalSource text = "\x7b~lb\x7da\x7b~rb\x7d \x7b~lb\x7d! \x7b~r\x7d\x7b~n\x7d  " ++
        "\x7b~lb\x7d~lb\x7b~rb\x7d\x7b~lb\x7d`\"\x7b~lb\x7d@x\x7b~n\x7d" ∧
      ∃ template, compileSource .compress (literalSource text) = .ok template ∧
        ((renderOutput template { data := .map [("a", .integer 1)] }).run
          { sources := Renderer.builtinRenderer.sources }).1 = .ok { text } := by
  intro text
  obtain ⟨template, compiled, -, -, rendered⟩ := renderOutput_literal .compress text
  exact ⟨by decide, template, compiled, rendered _ _ (by decide)⟩

end Dust
