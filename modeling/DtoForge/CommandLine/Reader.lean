import DtoForge.CommandLine.Words
import DtoForge.Files.Path

/-!
The reader of arguments: it knows the commands and their options, answers requests for help and
the version, and refuses words that are no arguments. Asking for help comes before all else.
-/

namespace DtoForge.CommandLine

inductive ValueProblem
  | usage (problem : UsageProblem)
  | path (fault : Files.PathFault)

def checkPath (path : Text) : Except ValueProblem Unit :=
  if Files.Path.isUnfitPart path then
    .error (.path (Files.Path.unfitFault ⟨.workingDirectory, [path]⟩))
  else .ok ()

def checkPolicy (given : Text) : Except ValueProblem Unit :=
  if policyChoices.contains (Text.lower given) then .ok ()
  else .error (.usage (.badChoice "--policy" given policyChoices))

def checkThreshold (given : Text) : Except ValueProblem Unit :=
  match Text.integer? given with
  | none => .error (.usage (.notRange "--inline-threshold" given))
  | some value =>
    if value < 0 then .error (.usage (.belowRange "--inline-threshold" value)) else .ok ()

def checkOption (arguments : Arguments) (key : OptionKey) : Except ValueProblem Unit :=
  let value := (arguments.value? key).getD ""
  match key with
  | .config | .outputDirectory | .outputPath => checkPath value
  | .policy => checkPolicy value
  | .inlineThreshold => checkThreshold value
  | .help | .version | .dryRun | .verbose => .ok ()

def checkAll {α : Type} (check : α → Except ValueProblem Unit) : List α → Except ValueProblem Unit
  | [] => .ok ()
  | item :: rest =>
    match check item with
    | .error problem => .error problem
    | .ok _ => checkAll check rest

def checkArguments (arguments : Arguments) : Except ValueProblem Unit :=
  match checkAll (checkOption arguments) arguments.keys with
  | .error problem => .error problem
  | .ok _ => checkAll checkPath arguments.operands

def usageError (command : Command) (problem : UsageProblem) : Invocation :=
  .answered 2 "" (textOfLines (problemLines command problem))

def problemInvocation (command : Command) : ValueProblem → Invocation
  | .usage problem => usageError command problem
  | .path fault => .raised fault.kind fault.message

def generateInvocation (arguments : Arguments) : Invocation :=
  match checkArguments arguments with
  | .error problem => problemInvocation generate problem
  | .ok _ =>
    if arguments.operands.isEmpty then usageError generate (.argumentMissing inputsName)
    else .generate arguments

def generateConfigInvocation (arguments : Arguments) : Invocation :=
  match checkAll (checkOption arguments) arguments.keys with
  | .error problem => problemInvocation generateConfig problem
  | .ok _ =>
    if arguments.operands.isEmpty then .generateConfig arguments
    else usageError generateConfig (.extraArguments arguments.operands)

/-- A command with its words; asking for help comes before all else. -/
def commandInvocation (command : Command) (words : List Text) (use : Arguments → Invocation) :
    Invocation :=
  match argumentsOf command true words with
  | .error problem => usageError command problem
  | .ok arguments =>
    if arguments.has .help then .answered 0 (textOfLines (helpLines command)) ""
    else use arguments

def rootAnswer? (arguments : Arguments) : Option Invocation :=
  match arguments.keys.head? with
  | some .version => some (.answered 0 (programName ++ ", version " ++ programVersion ++ "\n") "")
  | some .help => some (.answered 0 (textOfLines rootHelpLines) "")
  | _ => none

/-- A name that looks like an option is first read as one. -/
def unknownCommand (name : Text) (operands : List Text) : Invocation :=
  let unknown := usageError root (.noCommand name)
  if isOption name then
    match argumentsOf root false operands with
    | .error problem => usageError root problem
    | .ok arguments => (rootAnswer? arguments).getD unknown
  else unknown

def readWords (words : List Text) : Invocation :=
  if words.isEmpty then .answered 2 "" (textOfLines rootHelpLines)
  else
    match argumentsOf root false words with
    | .error problem => usageError root problem
    | .ok arguments =>
      match rootAnswer? arguments, arguments.operands with
      | some answer, _ => answer
      | none, [] => usageError root .commandMissing
      | none, name :: rest =>
        if name = "generate" then commandInvocation generate rest generateInvocation
        else if name = "generate-config" then
          commandInvocation generateConfig rest generateConfigInvocation
        else unknownCommand name (name :: rest)

/-! ### What is handed over -/

theorem check_all_ok {α : Type} {check : α → Except ValueProblem Unit} {items : List α}
    (passed : checkAll check items = .ok ()) : ∀ item ∈ items, check item = .ok () := by
  induction items with
  | nil => exact fun _ member => nomatch member
  | cons first rest induction =>
      rw [checkAll] at passed
      split at passed
      · cases passed
      · rename_i checked
        rw [List.forall_mem_cons]
        exact ⟨checked, induction passed⟩

variable {arguments : Arguments} {words : List Text}

theorem value_checked (checked : checkArguments arguments = .ok ()) {key : OptionKey}
    {value : Text} (found : arguments.value? key = some value) :
    checkOption arguments key = .ok () := by
  unfold checkArguments at checked
  split at checked
  · cases checked
  · rename_i passed
    refine check_all_ok passed key ?_
    obtain ⟨option, held, -⟩ := Option.map_eq_some_iff.mp found
    have member := List.mem_reverse.mp (List.mem_of_find?_eq_some held)
    have keyed : option.1 = key := by simpa using List.find?_some held
    rw [Arguments.keys, List.mem_eraseDups, ← keyed]
    exact List.mem_map_of_mem member

theorem policy_checked (checked : checkArguments arguments = .ok ()) {word : Text}
    (found : arguments.value? .policy = some word) : Text.lower word ∈ policyChoices := by
  have passed := value_checked checked found
  rw [checkOption, found] at passed
  unfold checkPolicy at passed
  split at passed
  · rename_i listed
    exact List.contains_iff_mem.mp listed
  · cases passed

theorem threshold_checked (checked : checkArguments arguments = .ok ()) {word : Text}
    (found : arguments.value? .inlineThreshold = some word) :
    ∃ threshold : Nat, Text.integer? word = some (threshold : Int) := by
  have passed := value_checked checked found
  rw [checkOption, found] at passed
  unfold checkThreshold at passed
  split at passed
  · cases passed
  · rename_i number read
    split at passed
    · cases passed
    · rename_i natural
      exact ⟨number.toNat, by
        rw [Int.toNat_of_nonneg (Int.not_lt.mp natural)]
        exact read⟩

theorem problem_ends (command : Command) (problem : ValueProblem) :
    problemInvocation command problem ≠ .generate arguments := by
  cases problem with
  | usage problem => exact Invocation.noConfusion
  | path fault => exact Invocation.noConfusion

theorem generate_invocation_admitted {given : Arguments}
    (taken : generateInvocation given = .generate arguments) : arguments.Admitted := by
  unfold generateInvocation at taken
  split at taken
  · exact absurd taken (problem_ends _ _)
  · rename_i checked
    split at taken
    · cases taken
    · rename_i named
      cases taken
      exact ⟨fun none => named (none ▸ rfl), fun _ => policy_checked checked,
        fun _ => threshold_checked checked⟩

theorem command_invocation_generate {command : Command} {use : Arguments → Invocation}
    (taken : commandInvocation command words use = .generate arguments) :
    ∃ given, use given = .generate arguments := by
  unfold commandInvocation at taken
  split at taken
  · cases taken
  · split at taken
    · cases taken
    · exact ⟨_, taken⟩

theorem root_answer_ends {given : Arguments} {answer : Invocation}
    (answered : rootAnswer? given = some answer) : answer ≠ .generate arguments := by
  unfold rootAnswer? at answered
  split at answered <;> cases answered <;> exact Invocation.noConfusion

theorem unknown_command_ends (name : Text) (operands : List Text) :
    unknownCommand name operands ≠ .generate arguments := by
  unfold unknownCommand
  dsimp only
  split
  · split
    · exact Invocation.noConfusion
    · rename_i given read
      cases answered : rootAnswer? given with
      | none => exact Invocation.noConfusion
      | some answer => exact root_answer_ends answered
  · exact Invocation.noConfusion

theorem read_words_admitted (taken : readWords words = .generate arguments) :
    arguments.Admitted := by
  unfold readWords at taken
  split at taken
  · cases taken
  · split at taken
    · cases taken
    · split at taken
      · rename_i answered
        exact absurd taken (root_answer_ends answered)
      · cases taken
      · split at taken
        · obtain ⟨given, used⟩ := command_invocation_generate taken
          exact generate_invocation_admitted used
        · split at taken
          · obtain ⟨given, used⟩ := command_invocation_generate taken
            unfold generateConfigInvocation at used
            split at used
            · exact absurd used (problem_ends _ _)
            · split at used
              · cases used
              · cases used
          · exact absurd taken (unknown_command_ends _ _)

def wordReader : ArgumentReader := ⟨readWords, fun _ _ => read_words_admitted⟩

end DtoForge.CommandLine
