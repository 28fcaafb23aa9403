/-!
# Arguments of a command line

The words of a command line are switches and operands in any order. A switch has a long name after
two dashes, and its value, if it takes one, is the next word or follows an equals sign; switches
without a value may also be given by letters after one dash. A word of two dashes makes all words
after it operands. Words are taken one after the other, and the first that does not fit ends the
reading.

No switch is known by name here; which there are is said by a `Grammar`.

## Main definitions

* `Arguments.Switch`, `Arguments.Grammar` — what may be given.
* `Arguments.Given` — what was given.
* `Arguments.scan` — what the words of a command line give.
-/

namespace Teamwork.Arguments

/-- Why the words of a command line lead to no request. -/
inductive Stop where
  /-- They do not fit what may be given. -/
  | usage
  /-- They ask for help. -/
  | help
  /-- They ask for the version. -/
  | version
  deriving DecidableEq, Repr

/-- What giving a switch does. -/
inductive Role where
  /-- It is on. -/
  | flag
  /-- It has a value, which must be acceptable. -/
  | value (accepts : String → Bool)
  /-- It ends the reading. -/
  | stop (reason : Stop)

/-- A switch that may be given. -/
structure Switch where
  /-- The long name. -/
  name : String
  /-- What giving it does. -/
  role : Role
  /-- A letter that stands for it. -/
  letter : Option Char := none
  /-- Whether it may be given more than once. -/
  repeats : Bool := false

/-- What a command line may hold. -/
structure Grammar where
  /-- The switches. -/
  switches : List Switch
  /-- The most operands there may be. When there may be none, the first one ends the reading and
  starts a command line of its own. -/
  operands : Nat

/-- What a command line holds. -/
structure Given where
  /-- The switches by their long names, with their values, in the order they were given. -/
  switches : List (String × String)
  /-- The operands in their order. -/
  operands : List String
  deriving DecidableEq, Repr

/-- A word by its form. -/
inductive Word where
  /-- A switch by its long name, perhaps with a value. -/
  | long (name : String) (value : Option String)
  /-- Switches by their letters. -/
  | letters (cs : List Char)
  /-- Two dashes. -/
  | dashes
  /-- Anything else. -/
  | operand (s : String)
  deriving DecidableEq, Repr

/-- The form of a word. A single dash is an operand. -/
def Word.ofString (s : String) : Word :=
  match s.toList with
  | ['-', '-'] => dashes
  | '-' :: '-' :: cs =>
    let value := cs.dropWhile (· ≠ '=')
    long (String.ofList (cs.takeWhile (· ≠ '=')))
      (if value = [] then none else some (String.ofList value.tail))
  | '-' :: c :: cs => letters (c :: cs)
  | _ => operand s

namespace Given

/-- Nothing. -/
def empty : Given :=
  ⟨[], []⟩

/-- One more switch. -/
def add (given : Given) (switch : Switch) (value : String) : Except Stop Given :=
  match switch.role with
  | .stop reason => .error reason
  | .flag | .value _ =>
    if switch.repeats ∨ switch.name ∉ given.switches.map (·.1) then
      .ok { given with switches := given.switches ++ [(switch.name, value)] }
    else .error .usage

/-- Whether a switch was given. -/
def has (given : Given) (name : String) : Bool :=
  (given.switches.lookup name).isSome

/-- The value of a switch. -/
def value? (given : Given) (name : String) : Option String :=
  given.switches.lookup name

/-- The values of a switch that may be given more than once. -/
def values (given : Given) (name : String) : List String :=
  (given.switches.filter (·.1 = name)).map (·.2)

/-- One more operand, if there may be one more. -/
def addOperand (given : Given) (g : Grammar) (s : String) : Except Stop Given :=
  if given.operands.length < g.operands then .ok { given with operands := given.operands ++ [s] }
  else .error .usage

end Given

/-- One more switch with its value. -/
def addValue (given : Given) (switch : Switch) (value : String) : Except Stop Given :=
  match switch.role with
  | .value accepts => if accepts value then given.add switch value else .error .usage
  | _ => .error .usage

/-- More switches without a value, by their letters. -/
def addLetters (g : Grammar) (given : Given) (letters : List Char) : Except Stop Given :=
  letters.foldlM (fun given c =>
    match g.switches.find? (·.letter = some c) with
    | some switch =>
      match switch.role with
      | .value _ => .error .usage
      | _ => given.add switch ""
    | none => .error .usage) given

/-- Whether a word can be the value of the switch before it. -/
def isValue (s : String) : Bool :=
  match Word.ofString s with
  | .operand _ => true
  | _ => false

/-- What words give on top of what was given before them. What comes after the operand that ends the
reading, with that operand, is handed on. -/
def scan (g : Grammar) (given : Given) : List String → Except Stop (Given × List String)
  | [] => .ok (given, [])
  | word :: rest =>
    match Word.ofString word with
    | .dashes => do return (← rest.foldlM (·.addOperand g) given, [])
    | .operand s =>
      if g.operands = 0 then .ok (given, word :: rest)
      else do scan g (← given.addOperand g s) rest
    | .letters cs => do scan g (← addLetters g given cs) rest
    | .long name value =>
      match g.switches.find? (·.name = name), value, rest with
      | none, _, _ => .error .usage
      | some switch, some value, rest => do scan g (← addValue given switch value) rest
      | some switch, none, rest =>
        match switch.role, rest with
        | .value _, next :: rest =>
          if isValue next then do scan g (← addValue given switch next) rest else .error .usage
        | .value _, [] => .error .usage
        | _, rest => do scan g (← given.add switch "") rest

end Teamwork.Arguments
