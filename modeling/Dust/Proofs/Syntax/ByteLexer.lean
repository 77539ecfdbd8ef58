import Dust.Proofs.Text.Bytes
import Dust.Syntax.TokenStream
import Mathlib.Data.Nat.PSub

/-!
# Tokens by bytes

The way to cut a source into tokens that counts bytes. A cursor stands at a byte, texts are cut out
of the source from a computed byte up to the end of the region that is read, and the places of
tokens are sums of numbers of bytes. There is no result if a text is cut out where the source has
none, if a difference is below zero, or if the cursor does not advance.
-/

namespace Dust

/-- A source that is read up to one of its bytes. -/
structure Region where
  /-- The whole source. -/
  source : List Char
  /-- The byte where the region ends. -/
  stop : Nat

/-- What a step of cutting leads to: a token with the byte behind it and where the text goes on, or
a fault. -/
abbrev CutToken := Except Located (TokenKind × Nat × TokenMode)

/-- The byte behind the closing quote of a string. A backslash escapes the character after it. -/
def quoteStop? : Bool → Nat → List Char → Option Nat
  | _, _, [] => none
  | escaped, byte, c :: rest =>
    if c = '"' ∧ escaped = false then some (byte + 1)
    else quoteStop? (!escaped && c = '\\') (byte + c.utf8Size) rest

/-- The byte behind the digits of a number and behind a point with digits after it. A digit has one
byte, and no byte of another character is that of a digit. -/
def numberStop (byte : Nat) (text : List Char) : Nat :=
  let whole := byte + (text.takeWhile Char.isDigit).length
  match text.dropWhile Char.isDigit with
  | '.' :: next :: rest =>
    if next.isDigit then whole + 1 + ((next :: rest).takeWhile Char.isDigit).length else whole
  | _ => whole

/-- The bytes before the end of the name of a partial, or nothing if the text has no such end. The
name is a text with these bytes before the characters that are left. -/
def nameDistance? (name : List Char) : Nat → List Char → Option (Option Nat)
  | _, [] => some none
  | distance, c :: rest => do
    let ends ←
      if c = '/' then (Text.dropBytes? (distance + 1) name).map (·.head? == some '}')
      else some (c = '}' || c = ':' || isTagSpace c)
    if ends then some (some distance) else nameDistance? name (distance + c.utf8Size) rest

namespace Region

variable (region : Region)

/-- The text from a byte on. -/
def textFrom? (byte : Nat) : Option (List Char) :=
  Text.slice? region.source byte region.stop

/-- What a brace opens that goes on up to a mark, given the text behind the brace. -/
def markedAt? (brace : Nat) (behind : List Char) (mark : Char) (kind : TokenKind)
    (fault : SyntaxFault) : Option (Except Located (Option (TokenKind × Nat))) := do
  let inside ← Text.dropBytes? 1 behind
  match Text.bytesBeforeMark? mark inside with
  | some distance => some (.ok (some (kind, brace + 2 + distance + 2)))
  | none => some (.error ⟨fault, brace, brace + 2⟩)

/-- The special character that a brace opens, given the text behind the brace. -/
def specialAt? (brace : Nat) (behind : List Char) :
    Option (Except Located (Option (TokenKind × Nat))) := do
  let inside ← Text.dropBytes? 1 behind
  let all ← Nat.psub (Text.byteSize behind) 1
  let letters := (Text.bytesBefore? (fun c => !c.isAlpha) inside).getD all
  let after ← Text.dropBytes? (1 + letters) behind
  if after.head? = some '}' ∧ 0 < letters then
    some (.ok (some (.special, brace + 2 + letters + 1)))
  else some (.ok none)

/-- What the brace at a byte opens: nothing, or a token with the byte behind it. -/
def openingAt? (brace : Nat) : Option (Except Located (Option (TokenKind × Nat))) := do
  let behind ← region.textFrom? (brace + 1)
  match behind with
  | [] => some (.ok none)
  | '!' :: _ => markedAt? brace behind '!' .comment .unclosedComment
  | '`' :: _ => markedAt? brace behind '`' .rawText .unclosedRawText
  | '~' :: _ => specialAt? brace behind
  | c :: rest =>
    match TokenKind.ofSigil? c with
    | some kind => some (.ok (if beginsTag rest then some (kind, brace + 2) else none))
    | none =>
      some (.ok (if (isWordStart c || c = '.') && closesReference behind then
        some (.openReference, brace + 1) else none))

/-- The first brace from a byte on that opens something, with what it opens. -/
def seek? (byte : Nat) : Option (Option (Nat × Except Located (TokenKind × Nat))) := do
  let text ← region.textFrom? byte
  match Text.bytesBefore? (· = '{') text with
  | none => some none
  | some distance =>
    match ← region.openingAt? (byte + distance) with
    | .error fault => some (some (byte + distance, .error fault))
    | .ok (some found) => some (some (byte + distance, .ok found))
    | .ok none =>
      if byte + distance < region.stop then seek? (byte + distance + 1) else none
termination_by region.stop + 1 - byte

/-- The next token outside of tags. What a brace behind raw text opens is the token after that. -/
def stepText? (byte : Nat) : Option CutToken := do
  match ← region.seek? byte with
  | none => some (.ok (.raw, region.stop, .text))
  | some (brace, opened) =>
    if byte < brace then some (.ok (.raw, brace, .text))
    else
      match opened with
      | .error fault => some (.error fault)
      | .ok (kind, stop) =>
        if kind.opensTag then do
          let inside ← region.textFrom? stop
          let named := kind = .openPartial ∧ inside.head?.any (· ≠ '"')
          some (.ok (kind, stop,
            if named then .partialName ⟨brace, stop⟩ else .tag ⟨brace, stop⟩))
        else some (.ok (kind, stop, .text))

/-- The byte behind the characters of a class, of a text from a byte on. -/
def stopOf (inClass : Char → Bool) : Nat → List Char → Nat
  | _, [] => region.stop
  | byte, c :: rest => if inClass c then stopOf inClass (byte + c.utf8Size) rest else byte

/-- The number, blank space or word that a text inside a tag begins with. -/
def runToken (opening : Span) (byte : Nat) (first : Char) (rest : List Char) : CutToken :=
  let next := byte + first.utf8Size
  if first.isDigit || (first = '-' && rest.head?.any Char.isDigit) then
    .ok (.number, numberStop (byte + 1) rest, .tag opening)
  else if isTagSpace first then
    .ok (.whitespace, region.stopOf isTagSpace next rest, .tag opening)
  else if isWordStart first then
    .ok (.identifier, region.stopOf isWordPart next rest, .tag opening)
  else .error ⟨.unexpectedCharacter, byte, next⟩

/-- The next token inside a tag. -/
def stepTag? (opening : Span) (byte : Nat) : Option CutToken := do
  let text ← region.textFrom? byte
  match text with
  | [] => some (.error ⟨.unclosedTag, opening⟩)
  | first :: rest =>
    match first with
    | '}' => some (.ok (.tagEnd, byte + 1, .text))
    | '/' => do
      let behind ← region.textFrom? (byte + 1)
      if behind.head? = some '}' then some (.ok (.selfClose, byte + 2, .text))
      else some (region.runToken opening byte first rest)
    | '.' => some (.ok (.dot, byte + 1, .tag opening))
    | '[' => some (.ok (.openBracket, byte + 1, .tag opening))
    | ']' => some (.ok (.closeBracket, byte + 1, .tag opening))
    | '|' => some (.ok (.pipe, byte + 1, .tag opening))
    | ':' => some (.ok (.colon, byte + 1, .tag opening))
    | '=' => some (.ok (.equals, byte + 1, .tag opening))
    | '"' =>
      match quoteStop? false (byte + 1) rest with
      | some stop => some (.ok (.string, stop, .tag opening))
      | none => some (.error ⟨.undelimitedString, byte, region.stop⟩)
    | _ => some (region.runToken opening byte first rest)

/-- The name of a partial, or the next token inside the tag if there is no name. -/
def stepName? (opening : Span) (byte : Nat) : Option CutToken := do
  let text ← region.textFrom? byte
  let distance ← nameDistance? text 0 text
  let stop := (distance.map (byte + ·)).getD region.stop
  if byte = stop then region.stepTag? opening byte
  else some (.ok (.partialName, stop, .tag opening))

/-- The next token from a byte on that is not the end. -/
def step? : TokenMode → Nat → Option CutToken
  | .text => region.stepText?
  | .tag opening => region.stepTag? opening
  | .partialName opening => region.stepName? opening

/-- The tokens from a byte on, as their kinds and spans. -/
def stream? (mode : TokenMode) (byte : Nat) : Option (Stream (TokenKind × Span)) :=
  if region.stop ≤ byte then some ⟨[], mode.failureAtEnd⟩
  else
    match region.step? mode byte with
    | none => none
    | some (.error fault) => some ⟨[], some fault⟩
    | some (.ok (kind, stop, next)) =>
      if byte < stop then (stream? next stop).map (Stream.cons (kind, ⟨byte, stop⟩))
      else none
termination_by region.stop - byte

end Region

end Dust
