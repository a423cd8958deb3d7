import DtoForge.Proofs.Generation.Containment

/-!
Where a run takes its policy, its threshold and its output directory from. Request and configuration
are layers over the choice that the input alone gives, and of each setting the uppermost layer
counts that says something of it. What a configuration says is read off its decoded document. How
options become a request is not treated here.
-/

namespace DtoForge

open Document Files

/-- The settings that a request and a configuration have in common. -/
structure Choice where
  policy : Policy
  threshold : Nat
  directory : Path
  deriving Repr, DecidableEq

/-- What is said of these settings in one place. -/
structure Layer where
  policy : Option Policy := none
  threshold : Option Nat := none
  directory : Option Path := none
  deriving Repr, DecidableEq

/-- A choice where a layer says something is that of the layer. -/
def Layer.over (layer : Layer) (below : Choice) : Choice where
  policy := layer.policy.getD below.policy
  threshold := layer.threshold.getD below.threshold
  directory := layer.directory.getD below.directory

def Policy.named? (name : Text) : Option Policy :=
  [Policy.inline, Policy.promote].find? (·.name == name)

/-! ### What a configuration says -/

namespace Settings

variable {platform : Platform} {tree : Tree} {base path : Path} {root entries : Entries}
  {name key : Text} {settings : Settings}

def valueIn (document : Value) (part key : Text) : Option Value :=
  (document.field? part).bind (·.field? key)

/-- No policy has the name `auto`, so it says nothing. -/
def policyIn : Value → Option Policy
  | .text given => Policy.named? (Text.lower (Text.strip given))
  | _ => none

def thresholdIn : Value → Option Nat
  | .int value => some value.toNat
  | _ => none

/-- A directory that starts at a base unless it starts at the root; a blank text says nothing. -/
def directoryIn (tree : Tree) (base : Path) : Value → Option Path
  | .text given =>
    let stripped := Text.strip given
    let path := Path.parse stripped
    if stripped = "" then none
    else if path.isAbsolute then some path
    else some (.ofAbsoluteParts ((base.join path).absoluteParts tree.workingDirectory))
  | _ => none

def saidIn (tree : Tree) (path : Path) (document : Value) : Layer where
  policy := (valueIn document "resolution" "policy").bind policyIn
  threshold := (valueIn document "resolution" "inline_threshold").bind thresholdIn
  directory := (valueIn document "output" "directory").bind (directoryIn tree path.parent)

/-- Some settings hold what a layer says, and where it says nothing they leave the choice open. The
threshold has its default there. -/
structure Say (settings : Settings) (layer : Layer) : Prop where
  policy : settings.resolution.policy = layer.policy
  threshold : settings.resolution.inlineThreshold =
    layer.threshold.getD Resolution.defaultThreshold
  directory : settings.output.directory = layer.directory

theorem section_value (read : sectionOf root name = .ok entries) (key : Text) :
    entries.get? key = valueIn (.map root) name key := by
  have found : (Value.map root).field? name = Entries.get? root name := rfl
  rw [valueIn, found]
  unfold sectionOf at read
  split at read
  · rename_i absent
    cases read
    rw [Entries.present?, Option.filter_eq_none_iff] at absent
    cases held : Entries.get? root name with
    | none => rfl
    | some value =>
        have null : value.isNull = true := by simpa using absent value held
        unfold Value.isNull at null
        split at null
        · rfl
        · cases null
  · rename_i held there
    cases read
    rw [(Option.filter_eq_some_iff.mp there).1]
    rfl
  · cases read

theorem policy_said {policy : Option Policy} {value : Value}
    (read : policyOf name value = .ok policy) : policy = policyIn value := by
  unfold policyOf at read
  split at read
  case h_1 =>
    cases read
    rfl
  case h_2 given =>
    dsimp only at read
    split at read
    · cases read
    split at read
    · rename_i auto
      cases read
      rw [policyIn, auto]
      rfl
    · split at read
      · rename_i policy named
        cases read
        exact named.symm
      · cases read
  case h_3 => cases read

theorem threshold_said {threshold : Nat} {value : Value}
    (read : thresholdOf name value = .ok threshold) : some threshold = thresholdIn value := by
  unfold thresholdOf at read
  split at read
  · split at read
    · cases read
    · cases read
      rfl
  · cases read

theorem directory_said {given : Option Text} {directory : Option Path} {value : Value}
    (read : optionalTextOf name value = .ok given)
    (placed : given.mapM (directoryOf tree base) = .ok directory) :
    directory = directoryIn tree base value := by
  unfold optionalTextOf at read
  split at read
  case h_1 =>
    cases read
    cases placed
    rfl
  case h_2 text =>
    rw [← Except.ok.inj read] at placed
    by_cases blank : Text.strip text = ""
    · rw [if_pos blank] at placed
      rw [directoryIn, if_pos blank]
      exact (Except.ok.inj placed).symm
    · rw [if_neg blank, Option.mapM_some] at placed
      obtain ⟨path, found, same⟩ := map_ok placed
      rw [← same, directoryIn, if_neg blank]
      unfold directoryOf at found
      dsimp only at found
      split at found
      · rename_i absolute
        rw [if_pos absolute, Except.ok.inj found]
      · rename_i relative
        have resolved := map_error_ok found
        rw [Tree.resolve] at resolved
        split at resolved
        · cases resolved
        · rw [if_neg relative, Except.ok.inj resolved]
  case h_3 => cases read

theorem setting_said {α : Type} {default result : α} {read : Value → Except SettingsFault α}
    (found : settingOr entries key default read = .ok result) :
    entries.get? key = none ∧ result = default ∨
      ∃ value, entries.get? key = some value ∧ read value = .ok result := by
  unfold settingOr at found
  split at found
  · rename_i absent
    cases found
    exact .inl ⟨absent, rfl⟩
  · rename_i value there
    exact .inr ⟨value, there, found⟩

theorem resolution_said {resolution : ResolutionSettings}
    (read : resolutionOf root = .ok resolution) :
    resolution.policy = (saidIn tree path (.map root)).policy ∧
      resolution.inlineThreshold =
        (saidIn tree path (.map root)).threshold.getD Resolution.defaultThreshold := by
  obtain ⟨entries, sectioned, read⟩ := bind_ok read
  obtain ⟨policy, policyRead, read⟩ := bind_ok read
  obtain ⟨threshold, thresholdRead, read⟩ := bind_ok read
  cases read
  rw [saidIn, ← section_value sectioned, ← section_value sectioned]
  constructor
  · rcases setting_said policyRead with ⟨absent, rfl⟩ | ⟨value, there, given⟩
    · rw [absent]
      rfl
    · rw [there]
      exact policy_said given
  · rcases setting_said thresholdRead with ⟨absent, rfl⟩ | ⟨value, there, given⟩
    · rw [absent]
      rfl
    · rw [there]
      exact congrArg (·.getD Resolution.defaultThreshold) (threshold_said given)

theorem output_said {output : OutputSettings}
    (read : outputOf tree path.parent root = .ok output) :
    output.directory = (saidIn tree path (.map root)).directory := by
  obtain ⟨entries, sectioned, read⟩ := bind_ok read
  obtain ⟨given, textRead, read⟩ := bind_ok read
  obtain ⟨directory, placed, read⟩ := bind_ok read
  obtain ⟨classSuffix, -, read⟩ := bind_ok read
  obtain ⟨fileSuffix, -, read⟩ := bind_ok read
  cases read
  rw [saidIn, ← section_value sectioned]
  rcases setting_said textRead with ⟨absent, rfl⟩ | ⟨value, there, textRead⟩
  · rw [absent]
    cases placed
    rfl
  · rw [there]
    exact directory_said textRead placed

theorem entries_said (read : ofValue.ofEntries tree path root = .ok settings) :
    settings.Say (saidIn tree path (.map root)) := by
  obtain ⟨resolution, resolutionRead, read⟩ := bind_ok read
  obtain ⟨output, outputRead, read⟩ := bind_ok read
  cases read
  obtain ⟨policy, threshold⟩ := resolution_said resolutionRead
  exact ⟨policy, threshold, output_said outputRead⟩

def saidUnder (platform : Platform) (tree : Tree) (config : Option Text) : Layer :=
  (config.bind fun given => do
    let text ← (readText tree (Path.parse given)).toOption
    let document ← (decode platform .configuration text).toOption
    return saidIn tree (Path.parse given) document).getD {}

theorem loaded_say {config : Option Text} (loaded : load platform tree config = .ok settings) :
    settings.Say (saidUnder platform tree config) := by
  cases config with
  | none =>
      cases loaded
      exact ⟨rfl, rfl, rfl⟩
  | some given =>
      obtain ⟨found, -, loaded⟩ := bind_ok loaded
      dsimp only at loaded
      split at loaded
      · cases loaded
      obtain ⟨text, held, loaded⟩ := bind_ok loaded
      obtain ⟨document, decoded, loaded⟩ := bind_ok loaded
      have said :
          saidUnder platform tree (some given) = saidIn tree (Path.parse given) document := by
        rw [saidUnder, Option.bind_some, map_error_ok held, Except.toOption]
        dsimp only [Option.bind_eq_bind, Option.bind_some]
        rw [map_error_ok decoded]
        rfl
      rw [said]
      unfold ofValue at loaded
      split at loaded
      · exact entries_said loaded
      · exact entries_said loaded
      · cases loaded

end Settings

/-! ### What a run does with it -/

namespace Source

variable {platform : Platform} {tree : Tree} {path : Path} {input : Text} {source : Source}
  {notices : List Notice}

theorem of_value_policy {document : Value} (read : ofValue path document = .ok (source, notices)) :
    source.defaultPolicy = policyOf path := by
  have example_policy (origin : Origin) (sample : Value) :
      (ofExample path origin sample).defaultPolicy = policyOf path := by
    rw [ofExample]
  unfold ofValue at read
  split at read
  case h_1 => cases read
  case h_2 first _ =>
    rw [← (Prod.mk.inj (Except.ok.inj read)).1]
    exact example_policy .listElement first
  case h_3 =>
    split at read
    case h_1 =>
      split at read
      · cases read
      · cases read
      · rw [← (Prod.mk.inj (Except.ok.inj read)).1]
    case h_2 =>
      split at read
      · split at read
        · rw [← (Prod.mk.inj (Except.ok.inj read)).1]
          exact example_policy .responseExample _
        · cases read
      · rw [← (Prod.mk.inj (Except.ok.inj read)).1]
        exact example_policy .wholeDocument _
  all_goals cases read

theorem loaded_policy (loaded : load platform tree input = .ok (source, notices)) :
    source.defaultPolicy = policyOf (Path.parse input) := by
  obtain ⟨found, -, loaded⟩ := bind_ok loaded
  cases found with
  | false => cases loaded
  | true =>
      obtain ⟨text, -, loaded⟩ := bind_ok loaded
      obtain ⟨document, -, loaded⟩ := bind_ok loaded
      exact of_value_policy loaded

end Source

namespace Generation

open Files.Tree

variable {platform : Platform} {tree : Tree} {request : Request} {settings : Settings}
  {source : Source} {planned : Plan} {notices : List Notice}

/-- What a request says; an empty directory says nothing. -/
def requestLayer (request : Request) : Layer where
  policy := request.policy
  threshold := request.inlineThreshold.bind fun
    | .int value => some value.toNat
    | _ => none
  directory := (request.outputDirectory.filter (!·.isEmpty)).map Path.parse

/-- The choice that an input alone gives: the policy by the kind of its file, the default threshold,
and a directory beside it. -/
def inputChoice (tree : Tree) (input : Text) : Choice where
  policy := Source.policyOf (Path.parse input)
  threshold := Resolution.defaultThreshold
  directory := .ofAbsoluteParts
    (((Path.parse input).absoluteParts tree.workingDirectory).dropLast ++ [defaultDirectoryName])

def layeredChoice (platform : Platform) (tree : Tree) (request : Request) : Choice :=
  (requestLayer request).over
    ((Settings.saidUnder platform tree request.config).over (inputChoice tree request.input))

/-- A plan for which some choice counted: its source is resolved under the policy and the threshold
of the choice, and its files are meant for the directory of the choice. -/
structure PlannedUnder (platform : Platform) (tree : Tree) (request : Request) (choice : Choice)
    (plan : Plan) : Prop where
  resolved : ∃ settings source loaded graph noticed,
    loadInputs platform tree request = .ok (settings, source, loaded) ∧ plan.source = source ∧
      Resolution.graphOf ⟨choice.policy, choice.threshold⟩ source.definitions =
        .ok (graph, noticed) ∧
      plan.recordNames = graph.names ∧ plan.units =
        Dart.outputUnits graph.records settings.output.classSuffix settings.output.fileSuffix
  policy : plan.policy = choice.policy
  directory : plan.directory = choice.directory

theorem policy_layered (said : settings.Say (Settings.saidUnder platform tree request.config))
    (kind : source.defaultPolicy = Source.policyOf (Path.parse request.input)) :
    choosePolicy request settings source = (layeredChoice platform tree request).policy := by
  rw [choosePolicy, said.policy, kind]
  cases asked : request.policy with
  | none => simp only [layeredChoice, Layer.over, requestLayer, asked, Option.none_or,
      Option.getD_none, inputChoice]
  | some policy => simp only [layeredChoice, Layer.over, requestLayer, asked, Option.some_or,
      Option.getD_some]

theorem threshold_layered (said : settings.Say (Settings.saidUnder platform tree request.config))
    {policy : Policy} {context : Resolution.Context}
    (made : Resolution.Context.make policy (chooseThreshold request settings) = .ok context) :
    context = ⟨policy, (layeredChoice platform tree request).threshold⟩ := by
  have threshold : context = ⟨policy, context.inlineThreshold⟩ ∧
      chooseThreshold request settings = .int context.inlineThreshold := by
    unfold Resolution.Context.make at made
    split at made
    · rename_i value chosen
      split at made
      · cases made
      · rename_i natural
        cases made
        refine ⟨rfl, chosen.trans ?_⟩
        rw [Int.toNat_of_nonneg (Int.not_lt.mp natural)]
    · cases made
  rw [threshold.1]
  refine congrArg _ ?_
  have chosen := threshold.2
  rw [chooseThreshold] at chosen
  cases asked : request.inlineThreshold with
  | none =>
      rw [asked, Option.getD_none, Document.Scalar.int.injEq] at chosen
      simp only [layeredChoice, Layer.over, requestLayer, asked, Option.bind_none,
        Option.getD_none, inputChoice, ← said.threshold]
      exact (Int.ofNat.inj chosen).symm
  | some given =>
      rw [asked, Option.getD_some] at chosen
      simp only [layeredChoice, Layer.over, requestLayer, asked, Option.bind_some, chosen,
        Option.getD_some, Int.toNat_natCast]

theorem directory_layered (said : settings.Say (Settings.saidUnder platform tree request.config))
    (same : source.path = Path.parse request.input) (fit : source.path.isUnfit = false) :
    chooseDirectory tree request settings source =
      .ok (layeredChoice platform tree request).directory := by
  rw [chooseDirectory, said.directory]
  cases asked : request.outputDirectory.filter (!·.isEmpty) with
  | some given =>
      simp only [layeredChoice, Layer.over, requestLayer, asked, Option.map_some, Option.getD_some]
  | none =>
      have below : (layeredChoice platform tree request).directory =
          (Settings.saidUnder platform tree request.config).directory.getD
            (inputChoice tree request.input).directory := by
        simp only [layeredChoice, Layer.over, requestLayer, asked, Option.map_none,
          Option.getD_none]
      rw [below]
      cases (Settings.saidUnder platform tree request.config).directory with
      | some directory => rfl
      | none =>
          have beside : Path.parse defaultDirectoryName =
              ⟨.workingDirectory, [defaultDirectoryName]⟩ := by
            decide +kernel
          dsimp only
          rw [resolve_of_fit fit, same, beside]
          rfl

theorem planned_under_layers (made : plan platform tree request = (notices, .ok planned)) :
    PlannedUnder platform tree request (layeredChoice platform tree request) planned := by
  unfold plan at made
  split at made
  · cases made
  · rename_i settings source loaded read
    obtain ⟨settingsRead, sourceRead⟩ := inputs_loaded read
    have said := Settings.loaded_say settingsRead
    obtain ⟨-, same, fit⟩ := Source.loaded_facts sourceRead
    have policy := policy_layered said (Source.loaded_policy sourceRead)
    dsimp only at made
    split at made
    · cases made
    · rename_i context contextMade
      have context_eq := threshold_layered said contextMade
      subst context_eq
      split at made
      · cases made
      · rename_i graph noticed resolved
        rw [directory_layered said same fit] at made
        cases made
        rw [policy] at resolved
        exact ⟨⟨settings, source, loaded, graph, noticed, read, rfl, resolved, rfl, rfl⟩, policy,
          rfl⟩

/-- A run that ended under some choice: records resolved under its policy and threshold, files in
its directory. -/
structure Follows (platform : Platform) (tree : Tree) (request : Request) (choice : Choice)
    (outcome : Outcome) : Prop where
  rendered : ∃ settings source loaded graph noticed units,
    loadInputs platform tree request = .ok (settings, source, loaded) ∧
      Resolution.graphOf ⟨choice.policy, choice.threshold⟩ source.definitions =
        .ok (graph, noticed) ∧
      outcome.recordNames = graph.names ∧
      units =
        Dart.outputUnits graph.records settings.output.classSuffix settings.output.fileSuffix ∧
      outcome.fileNames = units.map (·.fileName) ∧
      (request.dryRun = false →
        Wrote tree (run platform tree request).1 choice.directory (units.map (·.file)))
  policy : outcome.policy = choice.policy
  directory : outcome.outputDirectory =
    .ofAbsoluteParts (choice.directory.absoluteParts tree.workingDirectory)

theorem ended_run_follows {outcome : Outcome}
    (ended : (run platform tree request).2.2 = .ok outcome) :
    Follows platform tree request (layeredChoice platform tree request) outcome := by
  obtain ⟨notices, planned, made⟩ := run_ended ended
  have under := planned_under_layers made
  obtain ⟨settings, source, loaded, graph, noticed, read, -, resolved, names, units⟩ :=
    under.resolved
  obtain ⟨-, -, -, -, ends⟩ := planned_run_ended made ended
  rcases ends with ⟨dry, rfl⟩ | ⟨-, wrote, rfl⟩
  · refine ⟨⟨settings, source, loaded, graph, noticed, planned.units, read, resolved, names, units,
      rfl, fun wet => ?_⟩, under.policy, ?_⟩
    · rw [dry] at wet
      cases wet
    · rw [← under.directory]
      rfl
  · refine ⟨⟨settings, source, loaded, graph, noticed, planned.units, read, resolved, names, units,
      rfl, fun _ => ?_⟩, under.policy, ?_⟩
    · rw [← under.directory]
      exact wrote
    · rw [← under.directory]
      rfl

end Generation

end DtoForge
