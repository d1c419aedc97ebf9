/-
Reading arguments against a description of what a command accepts.

Options may stand anywhere. An option that takes a value finds it behind an equals
sign or in the next argument; a lone `--` ends the options. What is left over are
the operands, in order.

A description may allow an operand to begin with a hyphen. While such an operand
is the next one due, an argument with a hyphen that is not exactly an option of
the command counts as a value: of the option that waits for one, or else as the
operand. Otherwise an unknown option is an error.
-/
import GridFilter.Text.Basic

set_option autoImplicit false

namespace GridFilter.CommandLine

/-! ## Descriptions -/

/-- What an option does. -/
inductive OptionKind where
  /-- It is there or not. -/
  | flag
  /-- It has a value, of which `accepts` says whether it will do. -/
  | value (accepts : Text → Bool)
  /-- The same, and it may be given several times. -/
  | values (accepts : Text → Bool)
  /-- It asks for a text to be shown instead of anything else. -/
  | display (what : Text)

/-- An option: its name after two hyphens, and the letter that may stand for it
after one. -/
structure OptionSpec where
  name : String
  letter : Option Char := none
  kind : OptionKind

/-- An operand. -/
structure OperandSpec where
  mayBeginWithHyphen : Bool := false
  accepts : Text → Bool := fun _ => true
  required : Bool := true

/-- What a command accepts. -/
structure ArgumentSpec where
  options : List OptionSpec
  operands : List OperandSpec := []

/-- Why reading arguments comes to an end before the last of them. -/
inductive Interruption where
  /-- The arguments are not what the command accepts. -/
  | misuse
  /-- A text is to be shown. -/
  | display (what : Text)
  deriving DecidableEq, Repr

/-! ## Reading -/

/-- What was read so far. -/
structure Scan where
  /-- Options given, with their values, latest first; a flag has the empty value. -/
  given : List (String × Text) := []
  /-- Operands given, latest first. -/
  operands : List Text := []
  /-- The option that waits for its value. -/
  waiting : Option OptionSpec := none
  /-- Options are over. -/
  ended : Bool := false

namespace Scan

/-- The values of an option, first one first. -/
def valuesOf (s : Scan) (name : String) : List Text :=
  (s.given.filterMap fun (n, v) => if n == name then some v else none).reverse

/-- The value of an option. -/
def valueOf? (s : Scan) (name : String) : Option Text := (s.valuesOf name).head?

/-- Whether an option was given. -/
def has (s : Scan) (name : String) : Bool := s.given.any (·.1 == name)

/-- Whether the operand that is due may begin with a hyphen. -/
def hyphenAllowed (spec : ArgumentSpec) (s : Scan) : Bool :=
  spec.operands[s.operands.length]?.any (·.mayBeginWithHyphen)

/-- Records a value of an option. -/
def record (s : Scan) (o : OptionSpec) (v : Text) : Except Interruption Scan :=
  let recorded := { s with given := (o.name, v) :: s.given, waiting := none }
  match o.kind with
  | .values accepts => if accepts v then .ok recorded else .error .misuse
  | .value accepts => if accepts v && !s.has o.name then .ok recorded else .error .misuse
  | _ => .error .misuse

/-- Reads an option with the value attached to it, if there is one. No other option
may wait for a value. -/
def readOption (s : Scan) (o : OptionSpec) (attached : Option Text) :
    Except Interruption Scan :=
  if s.waiting.isSome then .error .misuse
  else match o.kind, attached with
    | .flag, none =>
      if s.has o.name then .error .misuse
      else .ok { s with given := (o.name, []) :: s.given }
    | .display what, none => .error (.display what)
    | .flag, some _ => .error .misuse
    | .display _, some _ => .error .misuse
    | _, some v => s.record o v
    | _, none => .ok { s with waiting := some o }

/-- Reads a value: of the option that waits for one, or of the operand that is
due. -/
def readValue (spec : ArgumentSpec) (s : Scan) (v : Text) : Except Interruption Scan :=
  match s.waiting with
  | some o => s.record o v
  | none =>
    match spec.operands[s.operands.length]? with
    | some operand =>
      if operand.accepts v then .ok { s with operands := v :: s.operands } else .error .misuse
    | none => .error .misuse

/-- Reads one argument. -/
def readArgument (spec : ArgumentSpec) (s : Scan) (arg : Text) : Except Interruption Scan :=
  let unknown : Unit → Except Interruption Scan := fun _ =>
    if s.hyphenAllowed spec then s.readValue spec arg else .error .misuse
  if s.ended then s.readValue spec arg
  else match arg with
    -- What a waiting option gets is never the end of the options.
    | ['-', '-'] => if s.waiting.isSome then .error .misuse else .ok { s with ended := true }
    | '-' :: '-' :: long =>
      let (name, attached) := match Text.splitFirst? '=' long with
        | some (name, v) => (name, some v)
        | none => (long, none)
      match spec.options.find? (·.name.toList == name) with
      | some o => s.readOption o attached
      | none => unknown ()
    | '-' :: c :: more =>
      let known (c : Char) : Option OptionSpec := spec.options.find? (·.letter == some c)
      -- Letters may stand together; one that is unknown makes the whole a value.
      if s.hyphenAllowed spec && (c :: more).any (fun c => (known c).isNone) then unknown ()
      else match known c with
        | some o => s.readOption o none
        | none => .error .misuse
    | arg => s.readValue spec arg

/-- Checks that nothing is missing at the end. -/
def finish (spec : ArgumentSpec) (s : Scan) : Except Interruption Scan :=
  let missing := (spec.operands.drop s.operands.length).any (·.required)
  if s.waiting.isSome || missing then .error .misuse else .ok s

/-- Reads all arguments of a command. -/
def readAll (spec : ArgumentSpec) (args : List Text) : Except Interruption Scan := do
  finish spec (← args.foldlM (readArgument spec) {})

end Scan

end GridFilter.CommandLine
