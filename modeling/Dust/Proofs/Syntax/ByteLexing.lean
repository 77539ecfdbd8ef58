import Dust.Proofs.Syntax.ByteLexer
import Dust.Proofs.Syntax.Placed

/-!
# Cutting by bytes and by characters

Tokens are cut by characters. Cutting them by bytes leads to the same tokens at the same places, in
every region of a source that begins and ends between two characters: at every step the cursor is
the size of what stands before the text that is left, so that no text is cut out where there is
none, no difference is below zero, and the cursor advances by the bytes of a token.
-/

namespace Dust

/-! ### What a token takes -/

/-- A mark with a brace behind it stands at the distance to it. -/
theorem take_of_distanceToMark? {mark : Char} {text : List Char} {length : Nat}
    (found : distanceToMark? mark text = some length) :
    text.take (length + 2) = text.take length ++ [mark, '}'] := by
  fun_induction distanceToMark? mark text generalizing length with
  | case1 c next rest opens =>
    obtain ⟨rfl, rfl⟩ := opens
    cases found
    rfl
  | case2 c next rest _ induction =>
    obtain ⟨less, foundLess, rfl⟩ := Option.map_eq_some_iff.mp found
    simp only [List.take_succ_cons, List.cons_append, List.cons.injEq, true_and] at induction ⊢
    exact induction foundLess
  | case3 => cases found

/-- The name of a special character is letters, and a brace stands behind it. -/
theorem take_of_specialLength? {text : List Char} {length : Nat}
    (found : specialLength? text = some length) :
    length = (text.takeWhile Char.isAlpha).length ∧
      text.take (length + 1) = text.takeWhile Char.isAlpha ++ ['}'] := by
  simp only [specialLength?] at found
  split at found
  · rename_i closes
    cases found
    obtain ⟨later, behind⟩ := List.head?_eq_some_iff.mp closes.2
    refine ⟨rfl, ?_⟩
    rw [List.take_add, Text.take_length_takeWhile, behind]
    rfl
  · cases found

/-- A string ends with its closing quote. -/
theorem take_of_quotedLength? {text : List Char} {length : Nat}
    (found : quotedLength? text = some length) : ∃ inside, text.take length = inside ++ ['"'] := by
  fun_induction quotedLength? text generalizing length with
  | case1 => cases found
  | case2 => cases found; exact ⟨[], rfl⟩
  | case3 c rest induction =>
    obtain ⟨less, foundLess, rfl⟩ := Option.map_eq_some_iff.mp found
    obtain ⟨inside, same⟩ := induction foundLess
    exact ⟨'\\' :: c :: inside, by simp [same]⟩
  | case4 c rest _ _ induction =>
    obtain ⟨less, foundLess, rfl⟩ := Option.map_eq_some_iff.mp found
    obtain ⟨inside, same⟩ := induction foundLess
    exact ⟨c :: inside, by simp [same]⟩

/-- The text behind raw text begins with a brace that opens something, or is empty. -/
theorem drop_rawLength (text : List Char) :
    text.drop (rawLength text) = [] ∨
      ∃ rest, text.drop (rawLength text) = '{' :: rest ∧ Opening.ofText rest ≠ .text := by
  induction text with
  | nil => exact .inl rfl
  | cons c rest induction =>
    unfold rawLength
    split
    · rename_i opens
      obtain ⟨rfl, opens⟩ := opens
      exact .inr ⟨rest, rfl, opens⟩
    · simpa using induction

/-- What has no end begins with a sign of one byte behind the brace. -/
theorem byteSize_of_unclosed {behind : List Char} {fault : SyntaxFault}
    (opens : Opening.ofText behind = .unclosed fault) : Text.byteSize (behind.take 1) = 1 := by
  unfold Opening.ofText at opens
  split at opens
  · cases opens
  · rfl
  · rfl
  · split at opens <;> cases opens
  · split at opens <;> split at opens <;> cases opens

/-- Text without braces belongs to the raw text that it stands before. -/
theorem rawLength_front {front later : List Char} (free : '{' ∉ front) :
    rawLength (front ++ later) = front.length + rawLength later := by
  induction front with
  | nil => simp
  | cons c rest induction =>
    rw [List.mem_cons, not_or] at free
    rw [List.cons_append, rawLength, if_neg fun opens => free.1 opens.1.symm, induction free.2,
      List.length_cons]
    omega

/-- A brace that opens nothing belongs to the raw text that it stands before. -/
theorem rawLength_brace {behind : List Char} (text : Opening.ofText behind = .text) :
    rawLength ('{' :: behind) = rawLength behind + 1 := by
  rw [rawLength, if_neg fun opens => opens.2 text]

/-! ### Distances -/

namespace Text

/-- The bytes before a mark are those of the characters before it. -/
theorem bytesBeforeMark?_eq (mark : Char) (text : List Char) :
    bytesBeforeMark? mark text =
      (distanceToMark? mark text).map fun length => byteSize (text.take length) := by
  fun_induction distanceToMark? mark text with
  | case1 c next rest opens => simp [bytesBeforeMark?, opens, byteSize_nil]
  | case2 c next rest opens induction =>
    rw [bytesBeforeMark?, if_neg opens, induction]
    simp [Function.comp_def, byteSize_cons]
  | case3 text short =>
    unfold bytesBeforeMark?
    split
    · exact absurd rfl (short _ _ _)
    · rfl

/-- The bytes before the end of a run of letters, or all bytes if it does not end, are as many as
the letters. -/
theorem bytesBefore?_letters (text : List Char) :
    (bytesBefore? (fun c => !c.isAlpha) text).getD (byteSize text) =
      (text.takeWhile Char.isAlpha).length := by
  induction text with
  | nil => rfl
  | cons c rest induction =>
    cases letter : c.isAlpha with
    | false => simp [bytesBefore?, letter]
    | true =>
      have size := utf8Size_of_isAlpha letter
      simp only [bytesBefore?, letter, Bool.not_true, Bool.false_eq_true, ↓reduceIte,
        List.takeWhile_cons_of_pos, List.length_cons, byteSize_cons, size, ← induction]
      cases bytesBefore? (fun c => !c.isAlpha) rest with
      | none => exact Nat.add_comm _ _
      | some distance => exact Nat.add_comm _ _

end Text

/-- The closing quote of a string stands behind as many bytes as its characters have. -/
theorem quoteStop?_eq (byte : Nat) (text : List Char) :
    quoteStop? false byte text =
      (quotedLength? text).map fun length => byte + Text.byteSize (text.take length) := by
  fun_induction quotedLength? text generalizing byte with
  | case1 => rfl
  | case2 rest => simp [quoteStop?, Text.byteSize_cons, Text.byteSize_nil, Char.utf8Size]
  | case3 c rest induction =>
    have backslash : ('\\' : Char).utf8Size = 1 := rfl
    simp only [quoteStop?, Char.reduceEq, false_and, ↓reduceIte, decide_true, Bool.not_false,
      Bool.and_self, Bool.not_true, Bool.false_and, and_false, Bool.true_eq_false, induction,
      Option.map_map, Function.comp_def, List.take_succ_cons, Text.byteSize_cons, backslash,
      Nat.add_assoc]
  | case4 c rest quote escape induction =>
    have plain : c ≠ '"' := quote
    by_cases backslash : c = '\\'
    · subst backslash
      cases rest with
      | nil => rfl
      | cons next later => exact (escape next later rfl rfl).elim
    · simp [quoteStop?, plain, backslash, induction, Function.comp_def, Text.byteSize_cons,
        Nat.add_assoc]

/-- A number ends behind as many bytes as its characters have. -/
theorem numberStop_eq (byte : Nat) (text : List Char) :
    numberStop byte text = byte + Text.byteSize (text.take (numberLength text)) := by
  have whole (same : numberLength text = (text.takeWhile Char.isDigit).length) :
      byte + (text.takeWhile Char.isDigit).length =
        byte + Text.byteSize (text.take (numberLength text)) := by
    rw [same, Text.take_length_takeWhile, Text.byteSize_digits]
  unfold numberStop
  dsimp only
  split
  · rename_i next rest point
    split
    · rename_i digit
      have size := Text.utf8Size_of_isDigit digit
      have dot : ('.' : Char).utf8Size = 1 := rfl
      rw [numberLength_of_point point digit, List.take_add, Text.take_length_takeWhile,
        Text.drop_length_takeWhile, point, List.take_succ_cons, List.take_succ_cons,
        Text.take_length_takeWhile, List.takeWhile_cons_of_pos digit, Text.byteSize_append,
        Text.byteSize_cons, Text.byteSize_cons, Text.byteSize_digits, Text.byteSize_digits, size,
        dot, List.length_cons]
      omega
    · rename_i other
      refine whole (numberLength_of_whole fun _ _ same => ?_)
      cases point.symm.trans same
      exact Bool.eq_false_iff.mpr other
  · rename_i other
    exact whole (numberLength_of_whole fun next rest point => (other next rest point).elim)

/-- The name of a partial ends behind as many bytes as its characters have. -/
theorem nameDistance?_eq (front text : List Char) :
    ∃ distance, nameDistance? (front ++ text) (Text.byteSize front) text = some distance ∧
      distance.getD (Text.byteSize (front ++ text)) =
        Text.byteSize (front ++ text.take (partialNameLength text)) := by
  induction text generalizing front with
  | nil => exact ⟨none, rfl, by simp⟩
  | cons c rest induction =>
    have later := induction (front ++ [c])
    simp only [List.append_assoc, List.cons_append, List.nil_append, Text.byteSize_append,
      Text.byteSize_cons, Text.byteSize_nil, Nat.add_zero] at later
    unfold nameDistance? partialNameLength
    by_cases slash : c = '/'
    · subst slash
      have size : Text.byteSize (front ++ ['/']) = Text.byteSize front + 1 := by
        rw [Text.byteSize_append]
        rfl
      have cut : Text.dropBytes? (Text.byteSize front + 1) (front ++ '/' :: rest) = some rest := by
        have cut := Text.dropBytes?_append (front ++ ['/']) rest
        rwa [size, List.append_assoc] at cut
      by_cases closes : rest.head? = some '}'
      · exact ⟨some (Text.byteSize front), by simp [cut, closes], by simp [closes]⟩
      · simpa [cut, closes, isTagSpace, Text.byteSize_append, Text.byteSize_cons] using later
    · by_cases ends : c = '}' ∨ c = ':' ∨ isTagSpace c = true
      · have ends' : (c = '}' || c = ':' || isTagSpace c) = true := by
          simpa [or_assoc] using ends
        refine ⟨some (Text.byteSize front), by simp [slash, ends'], ?_⟩
        rw [if_pos (by tauto)]
        simp
      · have ends' : (c = '}' || c = ':' || isTagSpace c) = false := by
          simpa [not_or, and_assoc] using ends
        rw [if_neg (by tauto : ¬ (c = '}' ∨ c = ':' ∨ isTagSpace c = true ∨ _))]
        simpa [slash, ends', Text.byteSize_append, Text.byteSize_cons] using later

/-! ### Steps -/

namespace Region

variable {region : Region} {byte : Nat} {text : List Char}

/-- A text stands in a source from a byte up to where the region ends. -/
def Holds (region : Region) (byte : Nat) (text : List Char) : Prop :=
  Span.Shows region.source ⟨byte, region.stop⟩ text

/-- The text that stands in a region is what is cut out there. -/
theorem Holds.textFrom? (holds : region.Holds byte text) : region.textFrom? byte = some text :=
  Span.Shows.slice? holds

/-- A region ends behind as many bytes as its text has. -/
theorem Holds.stop (holds : region.Holds byte text) :
    region.stop = byte + Text.byteSize text := by
  obtain ⟨before, after, _, place⟩ := holds
  simp only [Span.mk.injEq, Text.byteSize_append] at place
  omega

/-- A region goes on where a character stands. -/
theorem Holds.lt {first : Char} {rest : List Char} (holds : region.Holds byte (first :: rest)) :
    byte < region.stop := by
  rw [holds.stop]
  exact Text.lt_add_byteSize_cons byte first rest

/-- Behind the bytes of what a text begins with stands the rest of it. -/
theorem Holds.drop {front back : List Char} (holds : region.Holds byte (front ++ back)) :
    region.Holds (byte + Text.byteSize front) back := by
  obtain ⟨before, after, same, place⟩ := holds
  simp only [Span.mk.injEq, Text.byteSize_append] at place
  refine ⟨before ++ front, after, by rw [same]; simp, ?_⟩
  simp only [Span.mk.injEq, Text.byteSize_append]
  omega

/-- Behind a character with one byte stands the rest of a text. -/
theorem Holds.tail {first : Char} {rest : List Char} (ascii : first.utf8Size = 1)
    (holds : region.Holds byte (first :: rest)) : region.Holds (byte + 1) rest := by
  have behind := @Holds.drop region byte [first] rest holds
  rwa [Text.byteSize_cons, ascii, Text.byteSize_nil] at behind

/-- The character of a tag has one byte. -/
theorem utf8Size_of_ofSigil? {c : Char} {kind : TokenKind}
    (named : TokenKind.ofSigil? c = some kind) : c.utf8Size = 1 := by
  unfold TokenKind.ofSigil? at named
  split at named
  any_goals rfl
  cases named

/-- What a brace opens, with the byte behind it. -/
def opened (brace : Nat) (behind : List Char) : Opening → Except Located (Option (TokenKind × Nat))
  | .text => .ok none
  | .token kind more => .ok (some (kind, brace + 1 + Text.byteSize (behind.take more)))
  | .unclosed fault => .error ⟨fault, brace, brace + 2⟩

/-- What goes on up to a mark takes the bytes up to it. -/
theorem markedAt?_eq {brace : Nat} {sign mark : Char} {rest : List Char} {kind : TokenKind}
    {fault : SyntaxFault} (sign_size : sign.utf8Size = 1) (mark_size : mark.utf8Size = 1) :
    markedAt? brace (sign :: rest) mark kind fault =
      some (opened brace (sign :: rest) (match distanceToMark? mark rest with
        | some length => .token kind (length + 3)
        | none => .unclosed fault)) := by
  unfold markedAt?
  rw [Text.dropBytes?_one sign_size, Option.bind_eq_bind, Option.bind_some,
    Text.bytesBeforeMark?_eq]
  cases found : distanceToMark? mark rest with
  | none => rfl
  | some length =>
    have close : ('}' : Char).utf8Size = 1 := rfl
    simp only [Option.map_some, opened, List.take_succ_cons, take_of_distanceToMark? found,
      Text.byteSize_cons, Text.byteSize_append, Text.byteSize_nil, sign_size, mark_size, close]
    simp only [Option.some.injEq, Except.ok.injEq, Prod.mk.injEq, true_and]
    omega

/-- A special character takes the bytes of its letters and of its marks. -/
theorem specialAt?_eq {brace : Nat} {rest : List Char} :
    specialAt? brace ('~' :: rest) =
      some (opened brace ('~' :: rest) (match specialLength? rest with
        | some length => .token .special (length + 2)
        | none => .text)) := by
  have sign : ('~' : Char).utf8Size = 1 := rfl
  have letters := Text.byteSize_letters rest
  have all : Nat.psub (Text.byteSize ('~' :: rest)) 1 = some (Text.byteSize rest) :=
    Nat.psub_eq_some.mpr (by rw [Text.byteSize_cons, sign, Nat.add_comm])
  have behind : Text.dropBytes? (1 + (rest.takeWhile Char.isAlpha).length) ('~' :: rest) =
      some (rest.dropWhile Char.isAlpha) := by
    have cut := Text.dropBytes?_append ('~' :: rest.takeWhile Char.isAlpha)
      (rest.dropWhile Char.isAlpha)
    rwa [Text.byteSize_cons, sign, letters, List.cons_append,
      List.takeWhile_append_dropWhile] at cut
  simp only [specialAt?, Text.dropBytes?_one sign, all, Option.bind_eq_bind, Option.bind_some,
    Text.bytesBefore?_letters, behind]
  cases found : specialLength? rest with
  | none =>
    simp only [specialLength?, Text.drop_length_takeWhile] at found
    split at found
    · cases found
    · rename_i closes
      rw [if_neg]
      · rfl
      · rintro ⟨brace, letters⟩
        exact closes ⟨List.ne_nil_of_length_pos letters, brace⟩
  | some length =>
    obtain ⟨rfl, taken⟩ := take_of_specialLength? found
    simp only [specialLength?, Text.drop_length_takeWhile] at found
    split at found
    · rename_i closes
      have close : ('}' : Char).utf8Size = 1 := rfl
      rw [if_pos ⟨closes.2, List.length_pos_of_ne_nil closes.1⟩]
      simp only [opened, List.take_succ_cons, taken, Text.byteSize_cons, Text.byteSize_append,
        Text.byteSize_nil, sign, close, letters]
      simp only [Option.some.injEq, Except.ok.injEq, Prod.mk.injEq, true_and]
      omega
    · cases found

/-- A brace opens by bytes what it opens by characters. -/
theorem openingAt?_eq {rest : List Char} (holds : region.Holds byte ('{' :: rest)) :
    region.openingAt? byte = some (opened byte rest (Opening.ofText rest)) := by
  have behind := (holds.tail rfl).textFrom?
  simp only [openingAt?, behind, Option.bind_eq_bind, Option.bind_some]
  unfold Opening.ofText
  split
  · rfl
  · exact markedAt?_eq rfl rfl
  · exact markedAt?_eq rfl rfl
  · exact specialAt?_eq
  · rename_i c rest comment quoted special
    cases named : TokenKind.ofSigil? c with
    | some kind =>
      have size := utf8Size_of_ofSigil? named
      simp only [named]
      cases begins : beginsTag rest with
      | true => simp [opened, size, Text.byteSize_cons, Text.byteSize_nil]
      | false => simp [opened]
    | none =>
      simp only [named]
      cases refers : (isWordStart c || decide (c = '.')) && closesReference (c :: rest) with
      | true => simp only [opened, ↓reduceIte]; rfl
      | false => simp only [opened]; rfl

/-- What the first brace opens that does not stand in raw text at the front of a text. -/
def firstOpened (byte : Nat) (text : List Char) :
    Option (Nat × Except Located (TokenKind × Nat)) :=
  match text.drop (rawLength text) with
  | [] => none
  | _ :: behind =>
    let brace := byte + Text.byteSize (text.take (rawLength text))
    match Opening.ofText behind with
    | .text => none
    | .token kind more => some (brace, .ok (kind, brace + 1 + Text.byteSize (behind.take more)))
    | .unclosed fault => some (brace, .error ⟨fault, brace, brace + 2⟩)

/-- Text that holds no brace that opens something is passed over. -/
theorem firstOpened_append {front rest : List Char}
    (raw : rawLength (front ++ rest) = front.length + rawLength rest) :
    firstOpened byte (front ++ rest) = firstOpened (byte + Text.byteSize front) rest := by
  have front_take : (front ++ rest).take (front.length + rawLength rest) =
      front ++ rest.take (rawLength rest) := List.take_length_add_append _
  have front_drop : (front ++ rest).drop (front.length + rawLength rest) =
      rest.drop (rawLength rest) := List.drop_length_add_append _
  simp only [firstOpened, raw, front_take, front_drop, Text.byteSize_append, Nat.add_assoc]

/-- The first brace that opens something is found, with what it opens. -/
theorem seek?_eq (holds : region.Holds byte text) :
    region.seek? byte = some (firstOpened byte text) := by
  -- The search goes on behind a brace that is text, so the induction is on the length of the text.
  induction size : text.length using Nat.strong_induction_on generalizing byte text with
  | h length induction =>
  rw [seek?]
  simp only [holds.textFrom?, Option.bind_eq_bind, Option.bind_some]
  by_cases mem : '{' ∈ text
  · obtain ⟨front, behind, rfl, free⟩ := List.eq_append_cons_of_mem mem
    have none_before : ∀ c ∈ front, decide (c = '{') = false :=
      fun c mem => decide_eq_false fun same => free (same ▸ mem)
    have at_brace := holds.drop
    have brace : ('{' : Char).utf8Size = 1 := rfl
    rw [Text.bytesBefore?_append none_before (by simp)]
    simp only [openingAt?_eq at_brace, Option.bind_some]
    cases opens : Opening.ofText behind with
    | text =>
      have later := induction behind.length (by simp [← size]; omega) (at_brace.tail rfl) rfl
      have raw : rawLength ((front ++ ['{']) ++ behind) =
          (front ++ ['{']).length + rawLength behind := by
        rw [List.append_assoc, List.singleton_append, rawLength_front free, rawLength_brace opens,
          List.length_append, List.length_singleton]
        omega
      have passed := @firstOpened_append byte _ _ raw
      rw [Text.byteSize_append, Text.byteSize_cons, brace, Text.byteSize_nil, ← Nat.add_assoc,
        List.append_assoc, List.singleton_append] at passed
      simp only [opened, if_pos at_brace.lt, later, passed]
    | token kind more =>
      have raw := rawLength_append free (@rawLength_of_opens behind (by simp [opens]))
      simp [opened, firstOpened, raw, opens]
    | unclosed fault =>
      have raw := rawLength_append free (@rawLength_of_opens behind (by simp [opens]))
      simp [opened, firstOpened, raw, opens]
  · have none_at_all : ∀ c ∈ text, decide (c = '{') = false :=
      fun c there => decide_eq_false fun same => mem (same ▸ there)
    have raw : rawLength text = text.length := by
      simpa using @rawLength_append text [] mem rfl
    simp [Text.bytesBefore?_eq_none none_at_all, firstOpened, raw]

/-- What a scan leads to by bytes. -/
def cut (mode : TokenMode) (byte : Nat) (first : Char) (rest : List Char) : Scan → CutToken
  | .fault fault more => .error ⟨fault, byte, byte + Text.byteSize (first :: rest.take more)⟩
  | .token kind more =>
    let token : Token := ⟨kind, first :: rest.take more, byte⟩
    .ok (kind, token.stop, mode.after token (rest.drop more))

variable {first : Char} {rest : List Char}

/-- What stands behind the first characters of a text that a region holds. -/
theorem Holds.after (holds : region.Holds byte (first :: rest)) (more : Nat) :
    region.Holds (byte + Text.byteSize (first :: rest.take more)) (rest.drop more) := by
  apply Holds.drop
  rwa [List.cons_append, List.take_append_drop]

/-- Text that opens nothing is a raw token up to the next brace that opens something. -/
theorem scanText_raw (text : ¬ (first = '{' ∧ Opening.ofText rest ≠ .text)) :
    scanText first rest = .token .raw (rawLength rest) := by
  unfold scanText
  split
  · rename_i brace
    have nothing : Opening.ofText rest = .text := by
      by_contra other
      exact text ⟨brace, other⟩
    rw [nothing]
  · rfl

/-- The next token outside of tags by bytes is the one by characters. -/
theorem stepText?_eq (holds : region.Holds byte (first :: rest)) :
    region.stepText? byte = some (cut .text byte first rest (scanText first rest)) := by
  simp only [stepText?, seek?_eq holds, Option.bind_eq_bind, Option.bind_some]
  by_cases opens : first = '{' ∧ Opening.ofText rest ≠ .text
  · obtain ⟨rfl, opens⟩ := opens
    have raw := rawLength_of_opens opens
    have brace : ('{' : Char).utf8Size = 1 := rfl
    cases opening : Opening.ofText rest with
    | text => exact absurd opening opens
    | unclosed fault =>
      simp [firstOpened, raw, opening, scanText, cut, Text.byteSize_cons, Text.byteSize_nil, brace,
        byteSize_of_unclosed opening]
    | token kind more =>
      have behind := (holds.after more).textFrom?
      rw [Text.byteSize_cons, brace, ← Nat.add_assoc] at behind
      simp only [firstOpened, raw, opening, List.drop_zero, List.take_zero, Text.byteSize_nil,
        Nat.add_zero, Nat.lt_irrefl, ↓reduceIte, behind, Option.bind_some, scanText, cut,
        Token.stop, Text.byteSize_cons, brace, TokenMode.after]
      cases opensTag : kind.opensTag
      · simp [Nat.add_assoc]
      · simp [Nat.add_assoc, Token.span, Token.stop, Text.byteSize_cons, brace]
  · have raw : rawLength (first :: rest) = rawLength rest + 1 := by
      rw [rawLength, if_neg opens]
    rw [scanText_raw opens]
    rcases drop_rawLength (first :: rest) with behind | ⟨behind, found, opens⟩
    · have all : rest.take (rawLength rest) = rest := by
        rw [raw, List.drop_succ_cons, List.drop_eq_nil_iff] at behind
        exact List.take_of_length_le behind
      simp [firstOpened, behind, cut, Token.stop, all, holds.stop, TokenMode.after,
        TokenKind.opensTag]
    · rw [raw, List.drop_succ_cons] at found
      have later := Text.lt_add_byteSize_cons byte first (rest.take (rawLength rest))
      cases opening : Opening.ofText behind with
      | text => exact absurd opening opens
      | _ =>
        simp only [firstOpened, raw, List.drop_succ_cons, found, opening, List.take_succ_cons,
          if_pos later]
        rfl

/-- Characters of a class end behind as many bytes as they have. -/
theorem stopOf_eq {inClass : Char → Bool} (stop : region.stop = byte + Text.byteSize text) :
    region.stopOf inClass byte text = byte + Text.byteSize (text.takeWhile inClass) := by
  induction text generalizing byte with
  | nil => exact stop
  | cons c rest induction =>
    have later := @induction (byte + c.utf8Size) (by rw [stop, Text.byteSize_cons]; omega)
    cases here : inClass c with
    | true => simp [stopOf, here, later, Text.byteSize_cons, Nat.add_assoc]
    | false => simp [stopOf, here, Text.byteSize_nil]

/-- Numbers, blank space and words end by bytes where they end by characters. -/
theorem runToken_eq (opening : Span)
    (stop : region.stop = byte + first.utf8Size + Text.byteSize rest) :
    region.runToken opening byte first rest = cut (.tag opening) byte first rest
      (if first.isDigit || (first = '-' && (rest.head?.any Char.isDigit)) then
        .token .number (numberLength rest)
      else if isTagSpace first then .token .whitespace (rest.takeWhile isTagSpace).length
      else if isWordStart first then .token .identifier (rest.takeWhile isWordPart).length
      else .fault .unexpectedCharacter 0) := by
  unfold runToken
  split
  · rename_i number
    have size : first.utf8Size = 1 := by
      simp only [Bool.or_eq_true, Bool.and_eq_true, decide_eq_true_eq] at number
      rcases number with digit | ⟨rfl, _⟩
      · exact Text.utf8Size_of_isDigit digit
      · rfl
    simp [cut, Token.stop, numberStop_eq, Text.byteSize_cons, size, TokenMode.after, Nat.add_assoc]
  · split
    · simp [cut, Token.stop, stopOf_eq stop, Text.take_length_takeWhile, Text.byteSize_cons,
        TokenMode.after, Nat.add_assoc]
    · split
      · simp [cut, Token.stop, stopOf_eq stop, Text.take_length_takeWhile, Text.byteSize_cons,
          TokenMode.after, Nat.add_assoc]
      · simp [cut, Text.byteSize_cons, Text.byteSize_nil]

/-- The next token inside a tag by bytes is the one by characters. -/
theorem stepTag?_eq (opening : Span) (holds : region.Holds byte (first :: rest)) :
    region.stepTag? opening byte =
      some (cut (.tag opening) byte first rest (scanTag first rest)) := by
  have stop := holds.stop
  rw [Text.byteSize_cons, ← Nat.add_assoc] at stop
  simp only [stepTag?, holds.textFrom?, Option.bind_eq_bind, Option.bind_some]
  split
  · rfl
  · rw [(holds.tail rfl).textFrom?, Option.bind_some]
    by_cases closes : rest.head? = some '}'
    · obtain ⟨later, rfl⟩ := List.head?_eq_some_iff.mp closes
      rfl
    · rw [if_neg closes, runToken_eq opening stop, scanTag]
      simp only [closes, and_false, ↓reduceIte]
      all_goals decide
  iterate 6
    · rfl
  · have quote : ('"' : Char).utf8Size = 1 := rfl
    rw [quoteStop?_eq]
    cases found : quotedLength? rest with
    | none => simp [scanTag, found, cut, stop, Text.byteSize_cons, Nat.add_assoc]
    | some length =>
      simp [scanTag, found, cut, Token.stop, Text.byteSize_cons, quote, TokenMode.after,
        Nat.add_assoc]
  · rename_i slash _ _ _ _ _ _ _
    have apart : ¬ (first = '/' ∧ rest.head? = some '}') := fun closes => slash closes.1
    rw [runToken_eq opening stop, scanTag, if_neg apart]
    all_goals assumption

/-- The name of a partial by bytes is the one by characters. -/
theorem stepName?_eq (opening : Span) (holds : region.Holds byte (first :: rest))
    (begins : beginsTag (first :: rest) = true) (plain : first ≠ '"') :
    region.stepName? opening byte =
      some (cut (.partialName opening) byte first rest
        (.token .partialName (partialNameLength rest))) := by
  obtain ⟨distance, found, size⟩ := nameDistance?_eq [] (first :: rest)
  simp only [List.nil_append, Text.byteSize_nil] at found size
  have length : partialNameLength (first :: rest) = partialNameLength rest + 1 := by
    have goesOn : ¬ (first = '}' ∨ first = ':' ∨ isTagSpace first = true ∨
        (first = '/' ∧ rest.head? = some '}')) := by
      simp only [beginsTag, Bool.or_eq_true, decide_eq_true_eq] at begins
      rcases begins with (word | rfl) | rfl
      · have differs (other : Char) (never : isWordStart other = false) : first ≠ other :=
          ne_of_isWordStart word never
        simp [differs '}' (by decide), differs ':' (by decide), differs '/' (by decide),
          isTagSpace_eq_false_of_isWordStart word]
      · simp [isTagSpace]
      · exact absurd rfl plain
    rw [partialNameLength, if_neg goesOn]
  have stop : (distance.map (byte + ·)).getD region.stop =
      byte + Text.byteSize (first :: rest.take (partialNameLength rest)) := by
    rw [length, List.take_succ_cons] at size
    rw [holds.stop, ← size]
    cases distance <;> rfl
  have advances := Text.lt_add_byteSize_cons byte first (rest.take (partialNameLength rest))
  simp only [stepName?, holds.textFrom?, found, stop, Option.bind_eq_bind, Option.bind_some,
    if_neg (Nat.ne_of_lt advances)]
  rfl

/-! ### Streams -/

/-- A text is where a mode says that it is: the name of a partial begins as a tag can go on, and is
no string. -/
def IsAt : TokenMode → List Char → Prop
  | .partialName _, text => beginsTag text = true ∧ text.head? ≠ some '"'
  | _, _ => True

/-- The text after a token is where the mode after it says. -/
theorem isAt_after {mode : TokenMode} {kind : TokenKind} {more : Nat}
    (scan : mode.scan first rest = .token kind more) :
    IsAt (mode.after ⟨kind, first :: rest.take more, byte⟩ (rest.drop more)) (rest.drop more) := by
  cases mode with
  | text =>
    by_cases opens : kind.opensTag = true
    · obtain ⟨_, begins⟩ := @Token.opens_of_scan _ _ _ _ _ byte scan opens
      simp only [TokenMode.after, opens, ↓reduceIte]
      split
      · rename_i named
        refine ⟨begins, fun quoted => ?_⟩
        simp [quoted] at named
      · trivial
    · simp only [TokenMode.after, opens]
      trivial
  | tag opening =>
    simp only [TokenMode.after]
    split <;> trivial
  | partialName opening => trivial

/-- The next token by bytes is the one by characters. -/
theorem step?_eq (mode : TokenMode) (holds : region.Holds byte (first :: rest))
    (isAt : IsAt mode (first :: rest)) :
    region.step? mode byte = some (cut mode byte first rest (mode.scan first rest)) := by
  cases mode with
  | text => exact stepText?_eq holds
  | tag opening => exact stepTag?_eq opening holds
  | partialName opening =>
    exact stepName?_eq opening holds isAt.1 fun quoted => isAt.2 (by rw [quoted]; rfl)

/-- The kind and the place of a token. -/
def shape (token : Token) : TokenKind × Span :=
  (token.kind, token.span)

/-- The tokens of a text by bytes are those by characters, at the same places. No text is cut out
where there is none, and the cursor advances with every token. -/
theorem stream?_eq (mode : TokenMode) (holds : region.Holds byte text) (isAt : IsAt mode text) :
    region.stream? mode byte =
      some ⟨(Token.stream mode byte text).items.map shape,
        (Token.stream mode byte text).failure⟩ := by
  fun_induction Token.stream mode byte text with
  | case1 mode byte =>
    have stop : region.stop ≤ byte := Nat.le_of_eq holds.stop
    rw [stream?, if_pos stop]
    rfl
  | case2 mode byte first rest fault more scan =>
    rw [stream?, if_neg (Nat.not_le.mpr holds.lt), step?_eq mode holds isAt, scan]
    rfl
  | case3 mode byte first rest kind more scan token =>
    rename_i induction
    have advances : byte < token.stop := Text.lt_add_byteSize_cons ..
    have later := induction (holds.after more) (isAt_after scan)
    rw [stream?, if_neg (Nat.not_le.mpr holds.lt), step?_eq mode holds isAt, scan]
    simp only [cut]
    rw [if_pos advances, later]
    rfl

end Region

end Dust
