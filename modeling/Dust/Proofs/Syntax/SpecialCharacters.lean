import Dust.Proofs.Syntax.Layout
import Dust.Proofs.Syntax.PlainText

/-!
# Special characters

A character that means something where it stands can be written as a tag with its name. A text whose
characters are written one by one, as they are or as such tags, is read as the text, because the
pieces that come of it are joined again. Compression changes nothing where the raw text has no line
ends.
-/

namespace Dust

/-! ### Tags of special characters -/

/-- The tag of a special character. -/
def specialTag (name : List Char) : List Char :=
  '{' :: '~' :: (name ++ ['}'])

/-- How a character can be written: as it is, unless it is a brace that might open something, or as
the tag of its name. -/
inductive Spells (c : Char) : List Char → Prop where
  /-- The character itself. -/
  | plain (other : c ≠ '{') : Spells c [c]
  /-- The tag of its name. -/
  | special {name : List Char} (named : specialCharacter? name = some c) : Spells c (specialTag name)

/-- The name of a special character has letters, and nothing else. -/
theorem letters_of_specialCharacter? {name : List Char} {c : Char}
    (named : specialCharacter? name = some c) :
    name ≠ [] ∧ ∀ letter ∈ name, letter.isAlpha = true := by
  unfold specialCharacter? at named
  split at named
  case h_6 => cases named
  all_goals exact ⟨by simp, List.all_eq_true.mp (by decide)⟩

/-- A brace opens the tag of a special character. -/
theorem Opening.ofText_special {name : List Char} {c : Char}
    (named : specialCharacter? name = some c) (later : List Char) :
    Opening.ofText ('~' :: (name ++ '}' :: later)) = .token .special (name.length + 2) := by
  obtain ⟨some, letters⟩ := letters_of_specialCharacter? named
  have taken : (name ++ '}' :: later).takeWhile Char.isAlpha = name :=
    takeWhile_append_of_stops letters (.cons (by decide))
  have length : specialLength? (name ++ '}' :: later) = .some name.length := by
    simp [specialLength?, taken, some]
  simp [Opening.ofText, length]

/-- Nothing raw stands where the tag of a special character begins. -/
theorem rawLength_specialTag {name : List Char} {c : Char}
    (named : specialCharacter? name = some c) (later : List Char) :
    rawLength (specialTag name ++ later) = 0 := by
  have opens := Opening.ofText_special named later
  simpa [specialTag] using rawLength_of_opens (by rw [opens]; simp)

/-- The tag of a special character is cut off. -/
theorem Cuts.special {name : List Char} {c : Char} (named : specialCharacter? name = some c)
    {start : Nat} {later : List Char} :
    Cuts .text start (specialTag name) [⟨.special, specialTag name, start⟩] .text later := by
  apply token _ (by decide)
  simp [TokenMode.scan, scanText, Opening.ofText_special named]

/-- The tag of a special character is read as the character. -/
theorem Yields.special {readString : Token → Except Located Body} {source later name : List Char}
    {start : Nat} {c : Char} (named : specialCharacter? name = some c) :
    Yields readString source start (specialTag name) [.part (.text (String.ofList [c]))] later := by
  refine Yields.single (Cuts.special named) fun failure rest => ?_
  have inside : Token.inside ⟨.special, specialTag name, start⟩ 2 1 = name := by
    simp [Token.inside, specialTag]
  simp [Segment.read, inside, named]

/-! ### Texts that are spelled -/

/-- The parts of texts. -/
def Part.texts (pieces : List (List Char)) : List Part :=
  pieces.map fun piece => .text (String.ofList piece)

/-- Parts that are put together are added one after the other. -/
theorem Assembly.run_parts (assembly : Assembly) (parts : List Part) :
    assembly.run (parts.map .part) = .ok (assembly.addAll parts) := by
  induction parts generalizing assembly with
  | nil => rfl
  | cons part rest induction => exact induction (assembly.add part)

/-- Texts that are pushed in a row are one text. -/
theorem Body.foldl_push_texts (body : Body) (pieces : List (List Char)) :
    (Part.texts pieces).foldl Body.push body =
      body.push (.text (String.ofList pieces.flatten)) := by
  induction pieces generalizing body with
  | nil => rfl
  | cons piece rest induction =>
    have pushed := induction (body.push (.text (String.ofList piece)))
    rw [Body.push_push_text, ← String.ofList_append, ← List.flatten_cons] at pushed
    exact pushed

/-- A text that is pushed first is all there is, unless it is empty. -/
theorem Body.nil_push_text (text : String) : Body.push [] (.text text) = plainBody text := by
  by_cases empty : text = ""
  · simp [Body.push, plainBody, empty]
  · simp [Body.push, plainBody, empty]

section Spelled

variable {readString : Token → Except Located Body} {source later : List Char}

/-- A piece of raw text is read as it is, if nothing raw follows it. -/
theorem Yields.raw {start : Nat} {front : List Char} (free : '{' ∉ front)
    (stops : rawLength later = 0) :
    ∃ pieces : List (List Char), pieces.flatten = front ∧
      Yields readString source start front ((Part.texts pieces).map .part) later := by
  cases front with
  | nil => exact ⟨[], rfl, Yields.nil⟩
  | cons first rest =>
    refine ⟨[first :: rest], by simp, Yields.single (Cuts.raw free stops) fun failure tokens => ?_⟩
    simp [Segment.read, Whitespace.apply]

/-- A text whose characters are spelled is read as pieces of it, with the raw text that stands
before it. -/
theorem Yields.spelled {spell : Char → List Char} (spells : ∀ c, Spells c (spell c))
    (stops : rawLength later = 0) (text : List Char) {front : List Char} (free : '{' ∉ front)
    (start : Nat) :
    ∃ pieces : List (List Char), pieces.flatten = front ++ text ∧
      Yields readString source start (front ++ text.flatMap spell)
        ((Part.texts pieces).map .part) later := by
  -- raw characters are gathered in front until a tag or the end cuts them off
  induction text generalizing front start with
  | nil => simpa using Yields.raw free stops
  | cons c rest induction =>
    rw [List.flatMap_cons]
    generalize written : spell c = spelling
    have spells_c := spells c
    rw [written] at spells_c
    cases spells_c with
    | plain other =>
      have free : '{' ∉ front ++ [c] := by simp [free, Ne.symm other]
      simpa using induction free start
    | @special name named =>
      have tagNext : rawLength (specialTag name ++ rest.flatMap spell ++ later) = 0 := by
        rw [List.append_assoc]
        exact rawLength_specialTag named _
      obtain ⟨before, gathered, first⟩ :=
        @Yields.raw readString source _ start front free tagNext
      obtain ⟨behind, joined, others⟩ := @induction [] List.not_mem_nil
        (start + Text.byteSize front + Text.byteSize (specialTag name))
      refine ⟨before ++ [c] :: behind, by simp [gathered, joined], ?_⟩
      rw [List.nil_append] at others
      have tag := @Yields.special readString source (rest.flatMap spell ++ later) name
        (start + Text.byteSize front) c named
      have whole := first.append (tag.append others)
      simpa [Part.texts] using whole

/-- A text whose characters are spelled is compiled to the text. -/
theorem Body.ofText_spelled {spell : Char → List Char} (spells : ∀ c, Spells c (spell c))
    (text : List Char) (start : Nat) :
    Body.ofText readString .preserve source start (text.flatMap spell) =
      .ok (plainBody (String.ofList text), []) := by
  obtain ⟨pieces, joined, yields⟩ :=
    @Yields.spelled readString source [] spell spells rfl text [] List.not_mem_nil start
  apply Body.ofText_eq yields
  rw [Assembly.run_parts, Assembly.start, Assembly.addAll_eq, Body.foldl_push_texts, joined,
    List.nil_append, Body.nil_push_text]

end Spelled

/-! ### Layout of raw text -/

/-- Compression keeps a text without line ends as it is. -/
theorem compress_eq_self {text : List Char} (line : '\n' ∉ text) : compress text = text := by
  unfold compress
  induction text with
  | nil => rfl
  | cons c rest induction =>
    obtain ⟨here, behind⟩ := not_or.mp (mt List.mem_cons.mpr line)
    have noEnd : rest.head? ≠ some '\n' := fun next => behind (List.mem_of_head? next)
    simp [compressFrom, Ne.symm here, noEnd, induction behind]

/-- A token is read alike in both ways if it is no raw text that compression changes. -/
theorem Segment.read_of_kept {input : Input} {readString : Token → Except Located Body}
    {whitespace : Whitespace} {first : Token} {tokens : List Token}
    (kept : first.kind = .raw → whitespace.apply first.text = first.text) :
    read input readString whitespace first tokens =
      read input readString .preserve first tokens := by
  unfold read
  split
  · rename_i raw
    rw [kept raw]
    rfl
  all_goals rfl

/-- Tokens are read alike in both ways if there is no raw text among them that compression
changes. -/
theorem Segment.stream_of_kept {input : Input} {readString : Token → Except Located Body}
    {whitespace : Whitespace} {tokens : List Token}
    (kept : ∀ token ∈ tokens, token.kind = .raw → whitespace.apply token.text = token.text) :
    stream input readString whitespace tokens = stream input readString .preserve tokens := by
  fun_induction stream input readString whitespace tokens with
  | case1 => rw [stream]
  | case2 first rest fault failed =>
    rw [read_of_kept (kept first List.mem_cons_self)] at failed
    rw [stream_of_error _ _ failed]
  | case3 first rest segment later found induction =>
    have behind := induction fun token mem =>
      kept token (List.mem_cons_of_mem _ ((read_suffix found).mem mem))
    rw [read_of_kept (kept first List.mem_cons_self)] at found
    rw [stream_cons found, behind]

/-- A source is compiled alike in both ways if it has no raw text that compression changes. -/
theorem Template.compile_of_kept {whitespace : Whitespace} {source : String}
    (kept : ∀ token ∈ (Token.meaningful .text 0 source.toList).items, token.kind = .raw →
      whitespace.apply token.text = token.text) :
    Template.compile whitespace source = Template.compile .preserve source := by
  have same := @Segment.stream_of_kept
    ⟨source.toList, (Token.meaningful .text 0 source.toList).failure⟩
    (Token.stringBody source.toList) whitespace _ kept
  unfold Template.compile Body.ofText
  exact congrArg (fun segments => Body.ofSegments segments >>= _) same

end Dust
