import Dust.Syntax.Fault
import Dust.Text.Numeric

/-!
# What a brace opens

A brace opens a comment, raw text in quotes, a special character or a tag if the text after it goes
on accordingly. Every other brace is text, so that templates can hold style sheets and scripts.
-/

namespace Dust

/-- Whether a character is blank space in a tag. -/
def isTagSpace (c : Char) : Bool :=
  c = '\t' || c = ' ' || c = '\r' || c = '\n'

/-- Whether a word of a tag can begin with a character. -/
def isWordStart (c : Char) : Bool :=
  c = '_' || c = '$' || Text.isAlphabetic c

/-- Whether a word of a tag can go on with a character. -/
def isWordPart (c : Char) : Bool :=
  c = '_' || c = '$' || c = '-' || Text.isAlphanumeric c

/-- Whether a character can stand in a reference. -/
def isReferencePart (c : Char) : Bool :=
  c = '.' || c = '[' || c = ']' || c = '|' || isWordPart c

/-- Whether a text is the inside of a reference up to a closing brace. -/
def closesReference : List Char → Bool
  | [] => false
  | c :: rest => c = '}' || (isReferencePart c && closesReference rest)

/-- The number of characters before the first mark with a closing brace directly after it. -/
def distanceToMark? (mark : Char) : List Char → Option Nat
  | c :: next :: rest =>
    if c = mark ∧ next = '}' then some 0
    else (distanceToMark? mark (next :: rest)).map (· + 1)
  | _ => none

/-- The number of letters after the mark of a special character, if there are any and a closing
brace follows them. -/
def specialLength? (text : List Char) : Option Nat :=
  let letters := text.takeWhile Char.isAlpha
  if letters ≠ [] ∧ (text.drop letters.length).head? = some '}' then some letters.length else none

/-- Whether a tag can go on with a text after its opening. -/
def beginsTag : List Char → Bool
  | [] => false
  | c :: _ => isWordStart c || c = '.' || c = '"'

/-- What a brace opens. -/
inductive Opening where
  /-- Nothing, so that the brace is text. -/
  | text
  /-- A token that takes a number of characters after the brace. -/
  | token (kind : TokenKind) (more : Nat)
  /-- Something that has no end. -/
  | unclosed (fault : SyntaxFault)
  deriving DecidableEq

/-- What a brace opens, by the text after it. -/
def Opening.ofText : List Char → Opening
  | [] => text
  | '!' :: rest =>
    match distanceToMark? '!' rest with
    | some length => token .comment (length + 3)
    | none => unclosed .unclosedComment
  | '`' :: rest =>
    match distanceToMark? '`' rest with
    | some length => token .rawText (length + 3)
    | none => unclosed .unclosedRawText
  | '~' :: rest =>
    match specialLength? rest with
    | some length => token .special (length + 2)
    | none => text
  | c :: rest =>
    match TokenKind.ofSigil? c with
    | some kind => if beginsTag rest then token kind 1 else text
    | none =>
      if (isWordStart c || c = '.') && closesReference (c :: rest) then token .openReference 0
      else text

namespace Opening

/-- What a brace opens before a character that is no mark of its own. -/
theorem ofText_unmarked {c : Char} (comment : c ≠ '!') (raw : c ≠ '`') (special : c ≠ '~')
    (rest : List Char) :
    ofText (c :: rest) =
      match TokenKind.ofSigil? c with
      | some kind => if beginsTag rest then token kind 1 else text
      | none =>
        if (isWordStart c || c = '.') && closesReference (c :: rest) then token .openReference 0
        else text := by
  rw [ofText.eq_def]
  split
  · contradiction
  · rename_i same
    exact absurd (List.cons.inj same).1 comment
  · rename_i same
    exact absurd (List.cons.inj same).1 raw
  · rename_i same
    exact absurd (List.cons.inj same).1 special
  · rename_i same
    obtain ⟨rfl, rfl⟩ := List.cons.inj same
    rfl

/-- How a brace opens a token, by the text after it. -/
inductive Begins : List Char → TokenKind → Nat → Prop where
  /-- A comment up to its mark. -/
  | comment {rest : List Char} {length : Nat} (ends : distanceToMark? '!' rest = some length) :
    Begins ('!' :: rest) .comment (length + 3)
  /-- Raw text in quotes up to its mark. -/
  | rawText {rest : List Char} {length : Nat} (ends : distanceToMark? '`' rest = some length) :
    Begins ('`' :: rest) .rawText (length + 3)
  /-- A special character by its letters. -/
  | special {rest : List Char} {length : Nat} (ends : specialLength? rest = some length) :
    Begins ('~' :: rest) .special (length + 2)
  /-- A tag by its character. -/
  | tag {sigil : Char} {rest : List Char} {kind : TokenKind}
    (named : TokenKind.ofSigil? sigil = some kind) (goesOn : beginsTag rest = true) :
    Begins (sigil :: rest) kind 1
  /-- A reference, whose inside begins right behind the brace. -/
  | reference {first : Char} {rest : List Char} (word : isWordStart first = true ∨ first = '.')
    (closes : closesReference (first :: rest) = true) : Begins (first :: rest) .openReference 0

/-- A brace opens a token in one of these ways. -/
theorem begins_of_ofText {rest : List Char} {kind : TokenKind} {more : Nat}
    (opens : ofText rest = token kind more) : Begins rest kind more := by
  unfold ofText at opens
  split at opens
  · cases opens
  · split at opens <;> cases opens
    exact .comment (by assumption)
  · split at opens <;> cases opens
    exact .rawText (by assumption)
  · split at opens <;> cases opens
    exact .special (by assumption)
  · split at opens
    · rename_i named
      split at opens <;> cases opens
      exact .tag named (by assumption)
    · split at opens <;> cases opens
      rename_i reference
      rw [Bool.and_eq_true, Bool.or_eq_true, decide_eq_true_eq] at reference
      exact .reference reference.1 reference.2

end Opening

end Dust
