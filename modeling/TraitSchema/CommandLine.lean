import TraitSchema.Text.Search

namespace TraitSchema

/-- What a program lets its users give: options, which take a value, and flags, which take none. -/
structure CommandSpec where
  options : List String
  flags : List (String × Option Char)

structure Arguments where
  values : List (String × String)
  flags : List String
deriving DecidableEq, Repr

namespace Arguments

def empty : Arguments := ⟨[], []⟩

def value? (args : Arguments) (name : String) : Option String := args.values.lookup name

def has (args : Arguments) (name : String) : Bool := args.flags.contains name

/-- The same with the value of one more option, which must be new and not empty. -/
def withValue? (args : Arguments) (name value : String) : Option Arguments :=
  if value = "" ∨ (args.value? name).isSome then none
  else some { args with values := (name, value) :: args.values }

def withFlag? (args : Arguments) (name : String) : Option Arguments :=
  if args.has name then none else some { args with flags := name :: args.flags }

end Arguments

inductive Command where
  | run (args : Arguments)
  | help
  | wrong
deriving DecidableEq, Repr

namespace Command

def andThen (args : Option Arguments) (next : Arguments → Command) : Command :=
  match args with
  | some args => next args
  | none => .wrong

/-- Reads the letters after a single hyphen. -/
def parseLetters (spec : CommandSpec) (args : Arguments) (next : Arguments → Command) :
    List Char → Command
  | [] => next args
  | c :: cs =>
    if c = 'h' then .help
    else match spec.flags.find? fun flag => flag.2 == some c with
      | some (name, _) => andThen (args.withFlag? name) fun args => parseLetters spec args next cs
      | none => .wrong

def looksLikeOption (word : String) : Bool :=
  match word.toList with
  | '-' :: _ :: _ => true
  | _ => false

def parseFrom (spec : CommandSpec) (args : Arguments) : List String → Command
  | [] => .run args
  | word :: words =>
    match word.toList with
    | ['-', '-'] => if words.isEmpty then .run args else .wrong
    | '-' :: '-' :: body =>
      let name := String.ofList (body.takeWhile (· != '='))
      let given := match body.dropWhile (· != '=') with
        | [] => none
        | _ :: value => some (String.ofList value)
      if spec.options.contains name then
        match given, words with
        | some value, words =>
          andThen (args.withValue? name value) fun args => parseFrom spec args words
        | none, value :: words =>
          if looksLikeOption value then .wrong
          else andThen (args.withValue? name value) fun args => parseFrom spec args words
        | none, [] => .wrong
      else if given.isSome then .wrong
      else if name = "help" then .help
      else if spec.flags.any fun flag => flag.1 == name then
        andThen (args.withFlag? name) fun args => parseFrom spec args words
      else .wrong
    | '-' :: c :: cs =>
      parseLetters spec args (fun args => parseFrom spec args words) (c :: cs)
    | _ => .wrong

def parse (spec : CommandSpec) (words : List String) : Command := parseFrom spec .empty words

end Command

end TraitSchema
