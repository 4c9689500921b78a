import SqlAdapter.Text.Numeral

/-!
# Arguments

Options stand before the words of a command line. A long option is written with two dashes and its
name, a short one with one dash and its letter; letters of options without a value may be joined. The
value of an option is the next argument, or follows an equals sign, or follows the letter directly. An
argument that begins with a dash is no value unless it is the dash alone. Every option may be given
once, and arguments are judged from left to right.
-/

set_option autoImplicit false

namespace SqlAdapter.CommandLine

/-- What the arguments end in when they are no request. -/
inductive Stop where
  | usage
  /-- The version is asked for. -/
  | version
  deriving DecidableEq, Repr

inductive Switch.Kind where
  | flag
  | version
  /-- An option with a value, and which values it takes. -/
  | value (accepts : String → Bool)

structure Switch where
  name : String
  letter : Option Char := none
  kind : Switch.Kind

/-- The options given so far, each with its value. -/
abbrev Given := List (String × String)

/-- How an argument reads on its own. -/
inductive Shape where
  /-- Two dashes alone: no option follows. -/
  | separator
  | long (name : List Char) (attached : Option (List Char))
  | letters (cs : List Char)
  | word

def attached? : List Char → Option (List Char)
  | '=' :: v => some v
  | _ => none

def shape (argument : String) : Shape :=
  match argument.toList with
  | ['-', '-'] => .separator
  | '-' :: '-' :: r => .long (r.takeWhile (· ≠ '=')) (attached? (r.dropWhile (· ≠ '=')))
  | '-' :: c :: r => .letters (c :: r)
  | _ => .word

def isWord (argument : String) : Bool :=
  match shape argument with
  | .word => true
  | _ => false

/-- Adds an option with its value. -/
def give (s : Switch) (value : String) (g : Given) : Except Stop Given :=
  if (g.lookup s.name).isSome then .error .usage
  else
    match s.kind with
    | .flag => .ok ((s.name, "") :: g)
    | .version => .error .version
    | .value accepts => if accepts value then .ok ((s.name, value) :: g) else .error .usage

/-- Reads joined letters. The last may be an option whose value is the next argument. -/
def readLetters (switches : List Switch) : List Char → Given → Except Stop (Given × Option Switch)
  | [], g => .ok (g, none)
  | c :: r, g =>
    match switches.find? fun s => s.letter = some c with
    | none => .error .usage
    | some s =>
      match s.kind, r with
      | .value _, [] => .ok (g, some s)
      | .value _, v => (give s (String.ofList ((attached? v).getD v)) g).map (·, none)
      | _, r => do
        let g ← give s "" g
        readLetters switches r g

/-- Reads a long option. Its value may be the next argument. -/
def readLong (switches : List Switch) (name : List Char) (attached : Option (List Char))
    (g : Given) : Except Stop (Given × Option Switch) :=
  match switches.find? fun s => s.name.toList = name with
  | none => .error .usage
  | some s =>
    match s.kind, attached with
    | .value _, some v => (give s (String.ofList v) g).map (·, none)
    | .value _, none => .ok (g, some s)
    | _, some _ => .error .usage
    | _, none => (give s "" g).map (·, none)

/-- Reads options up to the first word. -/
def readOptions (switches : List Switch) : List String → Given → Except Stop (Given × List String)
  | [], g => .ok (g, [])
  | a :: rest, g => do
    let option ← match shape a with
      | .word => .ok none
      | .separator => if rest.isEmpty then .ok none else .error .usage
      | .long name attached => (readLong switches name attached g).map some
      | .letters cs => (readLetters switches cs g).map some
    match option with
    | none => .ok (g, if isWord a then a :: rest else [])
    | some (g, none) => readOptions switches rest g
    | some (g, some s) =>
      match rest with
      | v :: rest =>
        if isWord v then do
          let g ← give s v g
          readOptions switches rest g
        else .error .usage
      | [] => .error .usage

/-- Whether a text is a number of connections: an integer with an optional sign that fits 32 bits. -/
def isCount (s : String) : Bool :=
  let (negative, digits) := match s.toList with
    | '-' :: r => (true, r)
    | '+' :: r => (false, r)
    | r => (false, r)
  match Text.readNatural? digits with
  | some (n, []) => n = 0 || (!negative && n < 4294967296)
  | _ => false

end SqlAdapter.CommandLine
