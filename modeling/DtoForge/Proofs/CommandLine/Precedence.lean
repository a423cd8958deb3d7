import Mathlib.Data.List.TakeWhile
import DtoForge.CommandLine.Reader
import DtoForge.Document.Yaml.Reader
import DtoForge.Proofs.CommandLine.Generating
import DtoForge.Proofs.Generation.Layers

/-!
Which of options, configuration and input counts in a run of the command for generating. A policy, a
threshold or a directory that is given as an option counts before the configuration, and the
configuration before the input; but the policy `auto` and the empty directory say nothing, so there
the configuration counts. The suffixes have no options and are not treated here.
-/

namespace DtoForge.CommandLine

open Document Files Files.Tree

variable {platform : Platform} {reader : ArgumentReader} {tree before after middle : Tree}
  {words : List Text} {arguments : Arguments} {input : Text} {done rest : List Text}
  {reports : List Report}

/-! ### Words -/

def blankCodes : List Nat :=
  [0x9, 0xa, 0xb, 0xc, 0xd, 0x1c, 0x1d, 0x1e, 0x1f, 0x20, 0x85, 0xa0, 0x1680, 0x2000, 0x2001,
    0x2002, 0x2003, 0x2004, 0x2005, 0x2006, 0x2007, 0x2008, 0x2009, 0x200a, 0x2028, 0x2029, 0x202f,
    0x205f, 0x3000]

theorem blank_code {c : CodePoint} (blank : Text.isBlank c = true) : c.toNat ∈ blankCodes := by
  rw [Text.isBlank, Text.CodeRange.any_holds_iff] at blank
  obtain ⟨range, listed, low, high⟩ := blank
  simp only [Text.blankRanges, List.mem_cons, List.not_mem_nil, or_false] at listed
  simp only [blankCodes, List.mem_cons, List.not_mem_nil, or_false]
  rcases listed with rfl | rfl | rfl | rfl | rfl | rfl | rfl | rfl | rfl | rfl <;>
    simp only at low high <;> omega

theorem lowered_blank {c : CodePoint} (blank : Text.isBlank c = true) :
    c.mapChar Text.lowerChar = c ∧ c ≠ 'Σ' ∧ c ≠ 'İ' := by
  have each : ∀ code ∈ blankCodes,
      (CodePoint.ofNat code).mapChar Text.lowerChar = CodePoint.ofNat code ∧
        CodePoint.ofNat code ≠ 'Σ' ∧ CodePoint.ofNat code ≠ 'İ' := by
    decide +kernel
  have here := each c.toNat (blank_code blank)
  rwa [CodePoint.of_nat_to_nat] at here

theorem blank_mem_lowered {c : CodePoint} (blank : Text.isBlank c = true)
    (before points : List CodePoint) (member : c ∈ points) :
    c ∈ Text.lowerAfter before points := by
  induction points generalizing before with
  | nil => cases member
  | cons first rest induction =>
      rw [Text.lowerAfter]
      rcases List.mem_cons.mp member with rfl | later
      · obtain ⟨same, notSigma, notDotted⟩ := lowered_blank blank
        rw [if_neg notSigma, if_neg notDotted, same]
        exact List.mem_append_left _ List.mem_cons_self
      · exact List.mem_append_right _ (induction (first :: before) later)

theorem strip_eq_self {given : Text}
    (unbroken : ∀ c ∈ (Text.lower given).toList, Text.isBlank c = false) :
    Text.strip given = given := by
  have whole : ∀ c ∈ given.toList, Text.isBlank c = false := by
    intro c member
    rw [← Bool.not_eq_true]
    intro blank
    have kept := blank_mem_lowered blank [] given.toList member
    cases blank.symm.trans (unbroken c kept)
  have nothing (points : List CodePoint) (all : ∀ c ∈ points, Text.isBlank c = false) :
      points.dropWhile Text.isBlank = points := by
    rw [List.dropWhile_eq_self_iff]
    exact fun nonempty => Bool.eq_false_iff.mp (all _ (List.getElem_mem nonempty))
  rw [Text.strip, Text.trimPoints, nothing _ whole, nothing _ (by simpa using whole),
    List.reverse_reverse]

theorem policy_of_choice {word : Text} (listed : Text.lower word ∈ policyChoices) :
    Settings.policyOf "--policy" (.text word) = .ok (Policy.named? (Text.lower word)) := by
  have choices : ∀ choice ∈ policyChoices, choice.toList.any Text.isBlank = false := by
    decide +kernel
  have unbroken : ∀ c ∈ (Text.lower word).toList, Text.isBlank c = false :=
    fun c member => Bool.eq_false_iff.mpr (List.any_eq_false.mp (choices _ listed) c member)
  have some : word ≠ "" := by
    rintro rfl
    revert listed
    decide +kernel
  rw [Settings.policyOf, strip_eq_self unbroken]
  dsimp only
  rw [if_neg some]
  simp only [policyChoices, List.mem_cons, List.not_mem_nil, or_false] at listed
  rcases listed with auto | inline | promote
  · rw [auto]
    rfl
  · rw [inline]
    rfl
  · rw [promote]
    rfl

theorem requested_policy_eq (admitted : arguments.Admitted) {word : Text}
    (found : arguments.value? .policy = some word) :
    requestedPolicy arguments = Policy.named? (Text.lower word) := by
  rw [requestedPolicy, found, Option.bind_some, policy_of_choice (admitted.policy word found)]

/-! ### Options over configuration over input -/

/-- Which setting counts. An option counts where it is given, and else the configuration, and else
the input; the word `auto` and the empty directory are as if they were not given. -/
structure Heeded (arguments : Arguments) (configured : Layer) (alone choice : Choice) : Prop where
  policyGiven : ∀ word, arguments.value? .policy = some word →
    Text.lower word ≠ autoPolicy → choice.policy.name = Text.lower word
  policyOpen : (∀ word, arguments.value? .policy = some word →
    Text.lower word = autoPolicy) → choice.policy = configured.policy.getD alone.policy
  autoCounts : ∀ word, arguments.value? .policy = some word →
    Text.lower word = autoPolicy → (choice.policy = alone.policy ↔
      ∀ policy, configured.policy = some policy → policy = alone.policy)
  thresholdGiven : ∀ word, arguments.value? .inlineThreshold = some word →
    Text.integer? word = some (choice.threshold : Int)
  thresholdOpen : arguments.value? .inlineThreshold = none →
    choice.threshold = configured.threshold.getD alone.threshold
  directoryGiven : ∀ text, arguments.value? .outputDirectory = some text → text ≠ "" →
    choice.directory = Path.parse text
  directoryOpen : (∀ text, arguments.value? .outputDirectory = some text → text = "") →
    choice.directory = configured.directory.getD alone.directory

theorem policy_heeded (admitted : arguments.Admitted) (configured : Layer)
    (alone : Choice) (policy : Policy)
    (chosen : policy = (requestedPolicy arguments).getD (configured.policy.getD alone.policy)) :
    (∀ word, arguments.value? .policy = some word → Text.lower word ≠ autoPolicy →
      policy.name = Text.lower word) ∧
    ((∀ word, arguments.value? .policy = some word → Text.lower word = autoPolicy) →
      policy = configured.policy.getD alone.policy) := by
  constructor
  · intro word found other
    have listed := admitted.policy word found
    rw [requested_policy_eq admitted found] at chosen
    simp only [policyChoices, List.mem_cons, List.not_mem_nil, or_false] at listed
    rcases listed with auto | inline | promote
    · exact absurd auto other
    · rw [inline] at chosen ⊢
      rw [chosen]
      rfl
    · rw [promote] at chosen ⊢
      rw [chosen]
      rfl
  · intro unsaid
    have nothing : requestedPolicy arguments = none := by
      cases found : arguments.value? .policy with
      | none =>
          rw [requestedPolicy, found]
          rfl
      | some word =>
          rw [requested_policy_eq admitted found, unsaid word found]
          rfl
    rw [chosen, nothing, Option.getD_none]

theorem layers_heeded (admitted : arguments.Admitted) (platform : Platform) (tree : Tree)
    (input : Text) :
    Heeded arguments (Settings.saidUnder platform tree (arguments.value? .config))
      (Generation.inputChoice tree input)
      (Generation.layeredChoice platform tree (requestOf arguments input)) := by
  obtain ⟨named, unnamed⟩ := policy_heeded admitted
    (Settings.saidUnder platform tree (arguments.value? .config))
      (Generation.inputChoice tree input)
    (Generation.layeredChoice platform tree (requestOf arguments input)).policy rfl
  refine ⟨named, unnamed, ?_, ?_, ?_, ?_, ?_⟩
  case refine_1 =>
    intro word found auto
    rw [unnamed fun other again => by rw [← auto, ← Option.some.inj (found.symm.trans again)]]
    cases (Settings.saidUnder platform tree (arguments.value? .config)).policy with
    | none => simp
    | some policy => simp
  case refine_2 =>
    intro word found
    obtain ⟨threshold, read⟩ := admitted.threshold word found
    have asked : (requestOf arguments input).inlineThreshold = some (.int threshold) := by
      rw [requestOf, found, Option.bind_some, read, Option.map_some]
    rw [read, Generation.layeredChoice, Layer.over, Generation.requestLayer, asked]
    rfl
  case refine_3 =>
    intro absent
    rw [Generation.layeredChoice, Layer.over, Generation.requestLayer, requestOf, absent]
    rfl
  case refine_4 =>
    intro text found nonempty
    have held : text.isEmpty = false := by
      rw [Text.isEmpty, List.isEmpty_eq_false_iff]
      exact fun nothing => nonempty (Text.to_list_inj.mp nothing)
    have kept : (some text).filter (!·.isEmpty) = some text :=
      Option.filter_eq_some_iff.mpr ⟨rfl, by rw [held]; rfl⟩
    rw [Generation.layeredChoice, Layer.over, Generation.requestLayer, requestOf, found, kept]
    rfl
  case refine_5 =>
    intro unsaid
    have dropped : (arguments.value? .outputDirectory).filter (!·.isEmpty) = none := by
      rw [Option.filter_eq_none_iff]
      intro text found
      simp [unsaid text found, Text.isEmpty]
    rw [Generation.layeredChoice, Layer.over, Generation.requestLayer, requestOf, dropped]
    rfl

/-! ### Runs -/

theorem Batch.cut
    (batch : Batch platform arguments before (done ++ input :: rest) reports after) :
    ∃ earlier middle now next later, Batch platform arguments before done earlier middle ∧
      Turn platform arguments middle input now next ∧
      Batch platform arguments next rest later after ∧
      reports = earlier ++ (now ++ later) := by
  induction done generalizing before reports with
  | nil =>
      cases batch with
      | cons turn others => exact ⟨[], before, _, _, _, .nil before, turn, others, rfl⟩
  | cons first done induction =>
      cases batch with
      | cons turn others =>
          obtain ⟨earlier, middle, now, next, later, batch, here, tail, rfl⟩ := induction others
          exact ⟨_, middle, now, next, later, .cons turn batch, here, tail,
            (List.append_assoc ..).symm⟩

/-- After an exit with zero every input has had a run that followed a choice in which options come
before configuration and configuration before input. -/
theorem options_over_configuration (platform : Platform) (tree : Tree)
    (asked : Asked reader words arguments)
    (ended : (run platform reader tree words).ending = .exit 0)
    (named : arguments.operands = done ++ input :: rest) :
    ∃ reports middle outcome choice, Batch platform arguments tree done reports middle ∧
      (Generation.run platform middle (requestOf arguments input)).2.2 = .ok outcome ∧
      Generation.Follows platform middle (requestOf arguments input) choice outcome ∧
      Heeded arguments (Settings.saidUnder platform middle (arguments.value? .config))
        (Generation.inputChoice middle input) choice := by
  rw [generate_asked platform tree asked] at ended
  obtain ⟨reports, batch, -⟩ := exit_zero_batch ended
  rw [named] at batch
  obtain ⟨earlier, middle, now, next, later, earlierBatch, turn, -, -⟩ := batch.cut
  cases turn with
  | ended notices plan outcome made finished printable =>
      exact ⟨earlier, middle, outcome, _, earlierBatch, finished,
        Generation.ended_run_follows finished,
        layers_heeded (reader.admitted words arguments asked) platform middle input⟩

def configuredFiles : Tree :=
  ⟨[([("a.json" : Text)], .file (Text.stringBytes "\x7b\"x\": 1\x7d")),
    ([("c.yaml" : Text)], .file (Text.stringBytes
      ("resolution: \x7bpolicy: promote, inline_threshold: 1\x7d\n" ++
        "output: \x7bdirectory: out\x7d\n")))], []⟩

def overridingWords : List Text :=
  ["generate", "a.json", "--config", "c.yaml", "--policy", "Inline", "--dry-run"]

def overridingArguments : Arguments where
  given := [(.config, "c.yaml"), (.policy, "Inline"), (.dryRun, "")]
  operands := ["a.json"]

theorem overriding_asked : Asked wordReader overridingWords overridingArguments := by
  unfold Asked
  decide +kernel

theorem overriding_ends :
    (run .standard wordReader configuredFiles overridingWords).ending = .exit 0 := by
  decide +kernel

theorem options_over_configuration_overriding :
    Asked wordReader overridingWords overridingArguments ∧
      (run .standard wordReader configuredFiles overridingWords).ending = .exit 0 ∧
      overridingArguments.operands = [] ++ ("a.json" : Text) :: [] ∧
      ∃ reports middle outcome choice,
        Batch .standard overridingArguments configuredFiles [] reports middle ∧
        (Generation.run .standard middle (requestOf overridingArguments "a.json")).2.2 =
          .ok outcome ∧
        Generation.Follows .standard middle (requestOf overridingArguments "a.json") choice
          outcome ∧
        Heeded overridingArguments (Settings.saidUnder .standard middle (some ("c.yaml" : Text)))
          (Generation.inputChoice middle "a.json") choice :=
  ⟨overriding_asked, overriding_ends, rfl,
    options_over_configuration .standard configuredFiles overriding_asked overriding_ends rfl⟩

def neutralWords : List Text :=
  ["generate", "a.json", "--config", "c.yaml", "--policy", "auto", "--dry-run"]

def neutralArguments : Arguments where
  given := [(.config, "c.yaml"), (.policy, "auto"), (.dryRun, "")]
  operands := ["a.json"]

/-- The option names `auto` for an input that would be inlined, and the run promotes. -/
theorem auto_passed_over :
    Asked wordReader neutralWords neutralArguments ∧
      (run .standard wordReader configuredFiles neutralWords).ending = .exit 0 ∧
      neutralArguments.value? .policy = some autoPolicy ∧
      Source.policyOf (Path.parse "a.json") = .inline ∧
      (Generation.run .standard configuredFiles
        (requestOf neutralArguments "a.json")).2.2.toOption.map (·.policy) = some .promote := by
  unfold Asked
  decide +kernel

end DtoForge.CommandLine
