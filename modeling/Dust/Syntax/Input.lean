import Dust.Syntax.Fault

/-!
# Tokens in front of a reader

A reader takes tokens off the front of a list and returns what they mean with the tokens left. What
the tokens alone do not tell is what they were cut from and why there are no more of them.
-/

namespace Dust

/-- What a reader knows beside the tokens in front of it. -/
structure Input where
  /-- The source of the template. -/
  source : List Char
  /-- The fault after the last token, if that is not the end of the text. -/
  failure : Option Located

namespace Input

/-- The fault when something is expected after the last token. -/
def ended (input : Input) (wanted : Expectation) : Located :=
  let size := Text.byteSize input.source
  input.failure.getD ⟨.expected wanted none, size, size⟩

end Input

/-- Two steps in a row succeed when the second one succeeds after the first one. -/
theorem bind_eq_ok {ε α β : Type} {first : Except ε α} {second : α → Except ε β} {result : β}
    (both : (first >>= second) = .ok result) :
    ∃ value, first = .ok value ∧ second value = .ok result := by
  cases first with
  | error fault => cases both
  | ok value => exact ⟨value, rfl, both⟩

/-- The fault when something else than this token is expected. -/
def Token.insteadOf (token : Token) (wanted : Expectation) : Located :=
  ⟨.expected wanted (some token.kind), token.span⟩

/-- Takes a token of a kind off the front. -/
def Input.take (input : Input) (kind : TokenKind) :
    List Token → Except Located (Token × List Token)
  | [] => .error (input.ended (.token kind))
  | token :: rest =>
    if token.kind = kind then .ok (token, rest) else .error (token.insteadOf (.token kind))

/-- A token that is taken leaves the tokens after it. -/
theorem Input.take_eq_ok {input : Input} {kind : TokenKind} {tokens rest : List Token}
    {token : Token} (taken : input.take kind tokens = .ok (token, rest)) :
    tokens = token :: rest ∧ token.kind = kind := by
  cases tokens with
  | nil => simp [take] at taken
  | cons first later =>
    simp only [take] at taken
    split at taken
    · rename_i same
      cases taken
      exact ⟨rfl, same⟩
    · cases taken

/-- A token that is taken leaves the last tokens. -/
theorem Input.take_suffix {input : Input} {kind : TokenKind} {tokens rest : List Token}
    {token : Token} (taken : input.take kind tokens = .ok (token, rest)) : rest <:+ tokens := by
  obtain ⟨rfl, _⟩ := Input.take_eq_ok taken
  exact List.suffix_cons _ _

end Dust
