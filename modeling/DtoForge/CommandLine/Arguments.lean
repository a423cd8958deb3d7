import DtoForge.Text.Numeral
import DtoForge.Text.Lowercase

/-!
Arguments of the commands as options and operands. The reader that takes them from the words after
the program's name is a parameter of the program.
-/

namespace DtoForge.CommandLine

inductive OptionKey
  | help
  | version
  | config
  | outputDirectory
  | policy
  | inlineThreshold
  | dryRun
  | verbose
  | outputPath
  deriving Repr, DecidableEq

/-- The options given, in order and with their values, and the operands. -/
structure Arguments where
  given : List (OptionKey × Text) := []
  operands : List Text := []
  deriving Repr, DecidableEq

namespace Arguments

def has (arguments : Arguments) (key : OptionKey) : Bool := arguments.given.any (·.1 == key)

def value? (arguments : Arguments) (key : OptionKey) : Option Text :=
  (arguments.given.reverse.find? (·.1 == key)).map (·.2)

end Arguments

def policyChoices : List Text := ["auto", "inline", "promote"]

/-- What a reader makes of the words: an answer of its own, such as a help page or a usage error, a
fault that ends the program, or a command with its arguments. -/
inductive Invocation
  | answered (code : Nat) (stdout stderr : Text)
  | raised (kind message : Text)
  | generate (arguments : Arguments)
  | generateConfig (arguments : Arguments)
  deriving Repr, DecidableEq

/-- The arguments for generating name an input, the policy is one of the choices in any case of its
letters, and the threshold is a natural number. -/
structure Arguments.Admitted (arguments : Arguments) : Prop where
  named : arguments.operands ≠ []
  policy : ∀ word, arguments.value? .policy = some word → Text.lower word ∈ policyChoices
  threshold : ∀ word, arguments.value? .inlineThreshold = some word →
    ∃ threshold : Nat, Text.integer? word = some (threshold : Int)

/-- A reader hands over admitted arguments only. -/
structure ArgumentReader where
  read : List Text → Invocation
  admitted : ∀ words arguments, read words = .generate arguments → arguments.Admitted

def textOfLines (lines : List Text) : Text := Text.join (lines.map (· ++ "\n"))

end DtoForge.CommandLine
