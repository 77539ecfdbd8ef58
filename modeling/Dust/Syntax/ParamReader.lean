import Dust.Syntax.PathReader

/-!
# Reading filters and parameters

A chain of filters is a pipe and a name, again and again. A list of parameters is a name, an equals
sign and a value, again and again. Both end where the next token does not go on with them.
-/

namespace Dust

/-- The name that a token spells. -/
def Token.identifier (token : Token) : Identifier :=
  ⟨token.string, token.span⟩

/-- The number that a token spells: an integer if it fits, and otherwise a double. -/
def Token.literal (token : Token) : Except Located Literal :=
  match Number.readInt64? token.text with
  | some n => .ok (.integer n)
  | none =>
    match Number.readFloat? token.text with
    | some x => .ok (.float x)
    | none => .error ⟨.invalidNumber, token.span⟩

/-- Reads a chain of filters. -/
def Identifier.readFilters (input : Input) :
    List Token → Except Located (List Identifier × List Token)
  | [] => .ok ([], [])
  | pipe :: rest =>
    if pipe.kind = .pipe then
      match rest with
      | [] => .error (input.ended (.token .identifier))
      | name :: later =>
        if name.kind = .identifier then do
          let (names, left) ← Identifier.readFilters input later
          .ok (name.identifier :: names, left)
        else .error (name.insteadOf (.token .identifier))
    else .ok ([], pipe :: rest)

/-- The value that the body of a string stands for. -/
def Argument.ofBody (body : Body) : Argument :=
  match body.text? with
  | some text => .literal (.string text)
  | none => .interpolated body

/-- Reads the value of a parameter, given how strings are read. -/
def Argument.read (input : Input) (readString : Token → Except Located Body) :
    List Token → Except Located (Argument × List Token)
  | [] => .error (input.ended .parameterValue)
  | token :: rest =>
    match token.kind with
    | .string => do
      let body ← readString token
      .ok (Argument.ofBody body, rest)
    | .number => do
      let literal ← token.literal
      .ok (.literal literal, rest)
    | .identifier | .dot => do
      let (way, left) ← Path.read input (token :: rest)
      .ok (.path way, left)
    | _ => .error (token.insteadOf .parameterValue)

/-- A chain of filters that is read leaves the last tokens. -/
theorem Identifier.readFilters_suffix {input : Input} {names : List Identifier}
    {tokens left : List Token} (read : readFilters input tokens = .ok (names, left)) :
    left <:+ tokens := by
  fun_induction readFilters input tokens generalizing names left with
  | case1 => cases read; exact List.suffix_rfl
  | case2 => cases read
  | case3 pipe _ name later _ induction =>
    obtain ⟨⟨more, rest⟩, found, read⟩ := bind_eq_ok read
    cases read
    exact ((induction found).trans (List.suffix_cons _ _)).trans (List.suffix_cons _ _)
  | case4 => cases read
  | case5 => cases read; exact List.suffix_rfl

/-- What the value of a parameter is read as: a string, a number or a path. -/
inductive Argument.ReadAs (input : Input) (readString : Token → Except Located Body) :
    List Token → Argument → List Token → Prop where
  | string {token : Token} {rest : List Token} {body : Body} (kind : token.kind = .string)
    (read : readString token = .ok body) :
    ReadAs input readString (token :: rest) (.ofBody body) rest
  | number {token : Token} {rest : List Token} {literal : Literal} (kind : token.kind = .number)
    (read : token.literal = .ok literal) :
    ReadAs input readString (token :: rest) (.literal literal) rest
  | path {tokens rest : List Token} {way : Path} (read : Path.read input tokens = .ok (way, rest)) :
    ReadAs input readString tokens (.path way) rest

/-- The value of a parameter that is read is a string, a number or a path. -/
theorem Argument.read_cases {input : Input} {readString : Token → Except Located Body}
    {argument : Argument} {tokens left : List Token}
    (read : Argument.read input readString tokens = .ok (argument, left)) :
    ReadAs input readString tokens argument left := by
  cases tokens with
  | nil => cases read
  | cons token rest =>
    have ofPath (read : (do
        let (way, left) ← Path.read input (token :: rest)
        Except.ok (Argument.path way, left)) = .ok (argument, left)) :
        ReadAs input readString (token :: rest) argument left := by
      obtain ⟨⟨way, later⟩, found, read⟩ := bind_eq_ok read
      cases read
      exact .path found
    unfold Argument.read at read
    simp only at read
    split at read
    · rename_i kind
      obtain ⟨body, found, read⟩ := bind_eq_ok read
      cases read
      exact .string kind found
    · rename_i kind
      obtain ⟨literal, found, read⟩ := bind_eq_ok read
      cases read
      exact .number kind found
    · exact ofPath read
    · exact ofPath read
    · cases read

/-- The value of a parameter that is read takes the first token, and leaves the last ones. -/
theorem Argument.read_suffix {input : Input} {readString : Token → Except Located Body}
    {argument : Argument} {tokens left : List Token}
    (read : Argument.read input readString tokens = .ok (argument, left)) :
    ∃ first later, tokens = first :: later ∧ left <:+ later := by
  cases Argument.read_cases read with
  | string => exact ⟨_, _, rfl, List.suffix_rfl⟩
  | number => exact ⟨_, _, rfl, List.suffix_rfl⟩
  | path found => exact Path.readStart_suffix found

set_option linter.unusedVariables false in
/-- Reads a list of parameters, given how strings are read. -/
def Param.readAll (input : Input) (readString : Token → Except Located Body)
    (tokens : List Token) : Except Located (List Param × List Token) :=
  match tokens with
  | [] => .ok ([], [])
  | name :: rest =>
    if name.kind = .identifier then
      match equals : input.take .equals rest with
      | .error fault => .error fault
      | .ok (_, valueOn) =>
        match argument : Argument.read input readString valueOn with
        | .error fault => .error fault
        | .ok (value, later) => do
          let (params, left) ← Param.readAll input readString later
          .ok (⟨name.identifier, value⟩ :: params, left)
    else .ok ([], name :: rest)
termination_by tokens.length
decreasing_by
  obtain ⟨same, _⟩ := Input.take_eq_ok equals
  obtain ⟨_, _, again, suffix⟩ := Argument.read_suffix argument
  have shorter := suffix.length_le
  subst same again
  simp only [List.length_cons]
  omega

/-- A list of parameters that is read leaves the last tokens. -/
theorem Param.readAll_suffix {input : Input} {readString : Token → Except Located Body}
    {params : List Param} {tokens left : List Token}
    (read : Param.readAll input readString tokens = .ok (params, left)) : left <:+ tokens := by
  fun_induction Param.readAll input readString tokens generalizing params left with
  | case1 => cases read; exact List.suffix_rfl
  | case2 => cases read
  | case3 => cases read
  | case4 name rest _ _ valueOn equals value later argument induction =>
    obtain ⟨⟨more, last⟩, found, read⟩ := bind_eq_ok read
    cases read
    obtain ⟨same, _⟩ := Input.take_eq_ok equals
    obtain ⟨_, _, again, suffix⟩ := Argument.read_suffix argument
    subst same again
    exact (((induction found).trans suffix).trans (List.suffix_cons _ _)).trans
      ((List.suffix_cons _ _).trans (List.suffix_cons _ _))
  | case5 => cases read; exact List.suffix_rfl

end Dust
