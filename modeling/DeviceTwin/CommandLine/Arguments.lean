import DeviceTwin.Text.Cut

/-!
# Arguments of a command

An argument is a word or an option. Options begin with two hyphens; a value follows as the next
argument or behind an equals sign. Behind `--` everything is a word.
-/
namespace DeviceTwin

inductive OptionForm where
  /-- It stands alone. -/
  | switch
  /-- It has a value, which does not look like an option unless it stands behind an equals sign. -/
  | value
  /-- It has a value of any form. -/
  | anyValue
  deriving DecidableEq, Repr

inductive Argument where
  | word (text : String)
  | separator
  | long (name : String) (attached : Option String)
  | short (letters : List Char)
  deriving DecidableEq, Repr

/-- What an argument is. A single hyphen is a word. -/
def Argument.ofText (text : String) : Argument :=
  match text.toList with
  | ['-', '-'] => separator
  | '-' :: '-' :: cs =>
    match cut? ['='] cs with
    | some (name, attached) => long (String.ofList name) (some (String.ofList attached))
    | none => long (String.ofList cs) none
  | ['-'] => word text
  | '-' :: cs => short cs
  | _ => word text

/-- Whether a value may be the next argument behind an option of this form. -/
def OptionForm.admits (form : OptionForm) (text : String) : Bool :=
  match form, Argument.ofText text with
  | switch, _ => false
  | anyValue, _ => true
  | value, .word _ => true
  | value, _ => false

structure Arguments where
  words : List String
  /-- The options in their order, each with its value. -/
  options : List (String × String)
  deriving DecidableEq, Repr

namespace Arguments

def withWord (a : Arguments) (word : String) : Arguments := { a with words := word :: a.words }

def withOption (a : Arguments) (name value : String) : Arguments :=
  { a with options := (name, value) :: a.options }

/-- Sorts arguments into words and options of known forms. -/
def read? (form? : String → Option OptionForm) : List String → Option Arguments
  | [] => some ⟨[], []⟩
  | arg :: rest =>
    match Argument.ofText arg with
    | .separator => some ⟨rest, []⟩
    | .word w => (read? form? rest).map (·.withWord w)
    | .short _ => none
    | .long name (some v) =>
      match form? name with
      | none | some .switch => none
      | some _ => (read? form? rest).map (·.withOption name v)
    | .long name none =>
      match form? name with
      | none => none
      | some .switch => (read? form? rest).map (·.withOption name "")
      | some form =>
        match rest with
        | [] => none
        | v :: rest =>
          if form.admits v then (read? form? rest).map (·.withOption name v) else none

def values (a : Arguments) (name : String) : List String :=
  (a.options.filter (·.1 = name)).map (·.2)

/-- The value of an option that has to be there and may not be repeated. -/
def required? (a : Arguments) (name : String) : Option String :=
  match a.values name with
  | [v] => some v
  | _ => none

/-- The value of an option that may be missing and may not be repeated. -/
def optional? (a : Arguments) (name : String) : Option (Option String) :=
  match a.values name with
  | [] => some none
  | [v] => some (some v)
  | _ => none

end Arguments
end DeviceTwin
