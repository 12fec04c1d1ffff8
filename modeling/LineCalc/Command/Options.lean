/-!
# Options on a command line

An option begins with a dash. A long one has two dashes and takes its value
after an equals sign or from the next argument; a short one has a single dash
and a letter and takes the rest of its argument or the next argument. Short
options without values may share an argument. Two dashes alone end the options,
and a dash alone is no option.
-/

namespace LineCalc.Options

/-- An option, the names it goes by, and whether it takes a value. -/
structure Rule (κ : Type) where
  key : κ
  names : List String
  takesValue : Bool

/-- An option as it was given, with its value if it takes one. -/
structure Given (κ : Type) where
  key : κ
  value : Option String

/-- The options that were given and the other arguments, both in order. -/
structure Parsed (κ : Type) where
  options : List (Given κ)
  operands : List String

variable {κ : Type}

/-- The options given by one argument, and the option that waits for the next
argument as its value. -/
structure Read (κ : Type) where
  options : List (Given κ)
  waiting : Option κ

/-- The rule for a name. -/
def find? (rules : List (Rule κ)) (name : String) : Option (Rule κ) :=
  rules.find? fun rule => name ∈ rule.names

/-- Whether an argument has two dashes in front. -/
def isLong (arg : List Char) : Bool :=
  match arg with
  | '-' :: '-' :: _ => true
  | _ => false

/-- Whether an argument is an option. -/
def isOption (arg : List Char) : Bool :=
  match arg with
  | '-' :: _ :: _ => true
  | _ => false

/-- A name and the value behind the first equals sign, if there is one. -/
def splitValue (arg : List Char) : String × Option String :=
  let name := arg.takeWhile (· != '=')
  match arg.drop name.length with
  | _ :: value => (String.ofList name, some (String.ofList value))
  | [] => (String.ofList name, none)

/-- Read a long option. -/
def readLong? (rules : List (Rule κ)) (arg : List Char) : Option (Read κ) :=
  let (name, value) := splitValue arg
  match find? rules name with
  | none => none
  | some rule =>
      match rule.takesValue, value with
      | true, some value => some ⟨[⟨rule.key, some value⟩], none⟩
      | true, none => some ⟨[], some rule.key⟩
      | false, none => some ⟨[⟨rule.key, none⟩], none⟩
      | false, some _ => none

/-- Read the letters of an argument of short options. -/
def readShort? (rules : List (Rule κ)) : List Char → Option (Read κ)
  | [] => some ⟨[], none⟩
  | c :: rest =>
      match find? rules (String.ofList ['-', c]) with
      | none => none
      | some rule =>
          if rule.takesValue then
            if rest.isEmpty then some ⟨[], some rule.key⟩
            else some ⟨[⟨rule.key, some (String.ofList rest)⟩], none⟩
          else
            (readShort? rules rest).map fun read =>
              { read with options := ⟨rule.key, none⟩ :: read.options }

/-- Read an argument that is an option. -/
def readOption? (rules : List (Rule κ)) (arg : List Char) : Option (Read κ) :=
  if isLong arg then readLong? rules arg else readShort? rules (arg.drop 1)

/-- Read a command line. Behind the first argument that is no option, further
options are read only if the two may be mixed. -/
def parse? (rules : List (Rule κ)) (mixed : Bool) : List String → Option (Parsed κ)
  | [] => some ⟨[], []⟩
  | arg :: rest =>
      if arg = "--" then some ⟨[], rest⟩
      else if isOption arg.toList then
        match readOption? rules arg.toList with
        | none => none
        | some ⟨options, none⟩ =>
            (parse? rules mixed rest).map fun parsed =>
              { parsed with options := options ++ parsed.options }
        | some ⟨options, some key⟩ =>
            match rest with
            | [] => none
            | value :: rest =>
                (parse? rules mixed rest).map fun parsed =>
                  { parsed with options := options ++ ⟨key, some value⟩ :: parsed.options }
      else if mixed then
        (parse? rules mixed rest).map fun parsed =>
          { parsed with operands := arg :: parsed.operands }
      else some ⟨[], arg :: rest⟩

/-- The options given under a key, in order. -/
def Parsed.given [DecidableEq κ] (parsed : Parsed κ) (key : κ) : List (Given κ) :=
  parsed.options.filter fun option => option.key = key

/-- Whether an option is given. -/
def Parsed.has [DecidableEq κ] (parsed : Parsed κ) (key : κ) : Bool :=
  parsed.options.any fun option => option.key = key

/-- The last value given for an option. -/
def Parsed.value? [DecidableEq κ] (parsed : Parsed κ) (key : κ) : Option String :=
  (parsed.given key).getLast?.bind fun option => option.value

end LineCalc.Options
