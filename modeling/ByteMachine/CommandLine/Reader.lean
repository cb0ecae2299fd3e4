import ByteMachine.CommandLine.Arguments

/-!
# The standard reader of arguments

Flags and free arguments may be mixed. An argument is made of flags if it begins with a minus sign
and is longer than that: behind two minus signs stands the name of one flag, behind one minus sign
the letters of several. Two minus signs alone end the flags. No flag takes a value, and a name is
never abbreviated, but one that is a single byte long is taken for a letter. Arguments are read from
left to right, and only when all of them are read are repeated flags looked for.
-/
namespace ByteMachine.CommandLine

namespace Flag

/-- The flag of a letter. -/
def ofLetter? (c : Char) : Option Flag := all.find? (·.letter == c)

/-- The flag of a name; a name of one byte is a letter. -/
def ofName? (name : String) : Option Flag :=
  match name.toList with
  | [c] => if c.utf8Size = 1 then ofLetter? c else none
  | _ => all.find? (·.name == name)

end Flag

/-- Why arguments are not understood. -/
inductive UsageError where
  /-- There is no such flag. -/
  | unrecognized (name : String)
  /-- A value is given to a flag. -/
  | unexpectedValue (name : String)
  /-- A flag is given twice. -/
  | repeated (flag : Flag)
  deriving DecidableEq, Repr

namespace UsageError

/-- The error in words. -/
def message : UsageError → String
  | unrecognized name => "Unrecognized option: '" ++ name ++ "'"
  | unexpectedValue name => "Option '" ++ name ++ "' does not take an argument"
  | repeated flag => "Option '" ++ flag.name ++ "' given more than once"

end UsageError

/-- Arguments one by one: the flags and the free arguments, both in order. -/
structure Reading where
  flags : List Flag
  free : List String
  deriving DecidableEq, Repr

namespace Reading

/-- The flag of a letter, or the complaint that there is none. -/
def readLetter (c : Char) : Except UsageError Flag :=
  match Flag.ofLetter? c with
  | some flag => .ok flag
  | none => .error (.unrecognized (String.singleton c))

/-- The flag that stands behind two minus signs. -/
def readName (text : List Char) : Except UsageError Flag :=
  let name := String.ofList (text.takeWhile (· != '='))
  match Flag.ofName? name with
  | none => .error (.unrecognized name)
  | some flag => if '=' ∈ text then .error (.unexpectedValue name) else .ok flag

/-- The flags that an argument is made of, or nothing if it is a free one. -/
def readWord : List Char → Except UsageError (Option (List Flag))
  | '-' :: '-' :: text => (readName text).map fun flag => some [flag]
  | '-' :: c :: cs => ((c :: cs).mapM readLetter).map some
  | _ => .ok none

/-- Reads arguments. -/
def ofArguments : List String → Except UsageError Reading
  | [] => .ok ⟨[], []⟩
  | word :: rest =>
    if word = "--" then .ok ⟨[], rest⟩
    else
      match readWord word.toList with
      | .error e => .error e
      | .ok none => (ofArguments rest).map fun r => { r with free := word :: r.free }
      | .ok (some flags) => (ofArguments rest).map fun r => { r with flags := flags ++ r.flags }

/-- Complains of the first flag that is given twice. -/
def check (r : Reading) : Except UsageError Reading :=
  match Flag.all.find? fun flag => 1 < r.flags.count flag with
  | some flag => .error (.repeated flag)
  | none => .ok r

/-- What the arguments say as a whole. -/
def arguments (r : Reading) : Arguments := ⟨fun flag => flag ∈ r.flags, r.free⟩

end Reading

/-! ## The usage text -/

/-- The column in which descriptions begin. -/
def descriptionColumn : Nat := 24

/-- The line of the usage text for a flag. -/
def flagLine (flag : Flag) : String :=
  let names := "    -" ++ String.singleton flag.letter ++ ", --" ++ flag.name
  let padding := String.ofList (List.replicate (descriptionColumn - names.length) ' ')
  names ++ padding ++ flag.description ++ "\n"

/-- The standard reader. -/
def ArgumentReader.standard : ArgumentReader where
  parse words := (((Reading.ofArguments words).bind Reading.check).map Reading.arguments).mapError
    UsageError.message
  usage brief := brief ++ "\n\nOptions:\n" ++ String.join (Flag.all.map flagLine)

end ByteMachine.CommandLine
