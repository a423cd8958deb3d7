import DtoForge.Files.Tree

/-!
What operations change in a tree. There are no links, so a walk that succeeds ends at the place that
its path spells, and the changes are known from the paths alone: directories that were missing on
the way, and texts at places. A text that has no bytes leaves the empty text at its place. The
changes of operations in a row add up, and of several texts written at one place the last one stays.
Nothing is said about which operations succeed.
-/

namespace DtoForge.Files

/-- A place that a path comes to on its way, its end included. -/
def Path.LeadsThrough (path : Path) (workingDirectory place : List Text) : Prop :=
  ∃ count ≤ path.parts.length,
    place = Path.absoluteParts workingDirectory ⟨path.anchor, path.parts.take count⟩

theorem Path.leads_to_end (path : Path) (workingDirectory : List Text) :
    path.LeadsThrough workingDirectory (path.absoluteParts workingDirectory) := by
  refine ⟨path.parts.length, Nat.le_refl _, ?_⟩
  rw [List.take_length]

theorem Path.LeadsThrough.of_parent {path : Path} {workingDirectory place : List Text}
    (leads : path.parent.LeadsThrough workingDirectory place) :
    path.LeadsThrough workingDirectory place := by
  obtain ⟨count, within, rfl⟩ := leads
  rw [Path.parent, List.length_dropLast] at within
  refine ⟨count, by omega, ?_⟩
  rw [Path.parent, List.dropLast_eq_take, List.take_take, Nat.min_eq_left within]

def lastText : List (List Text × Text) → List Text → Option Text
  | [], _ => none
  | (other, text) :: rest, place =>
    (lastText rest place).or (if other = place then some text else none)

theorem last_text_append (earlier later : List (List Text × Text)) (place : List Text) :
    lastText (earlier ++ later) place = (lastText later place).or (lastText earlier place) := by
  induction earlier with
  | nil => simp [lastText]
  | cons pair rest induction =>
      simp only [List.cons_append, lastText, induction, Option.or_assoc]

theorem last_text_none {written : List (List Text × Text)} {place : List Text}
    (elsewhere : ∀ pair ∈ written, pair.1 ≠ place) : lastText written place = none := by
  induction written with
  | nil => rfl
  | cons pair rest induction =>
      obtain ⟨here, others⟩ := List.forall_mem_cons.mp elsewhere
      rw [lastText, induction others, if_neg here, Option.or_none]

theorem last_text_of_last {earlier later : List (List Text × Text)} {place : List Text}
    {text : Text} (elsewhere : ∀ pair ∈ later, pair.1 ≠ place) :
    lastText (earlier ++ (place, text) :: later) place = some text := by
  rw [last_text_append, lastText, last_text_none elsewhere, if_pos rfl]
  rfl

theorem last_text_of_mem {written : List (List Text × Text)} {place : List Text}
    {text : Text} (distinct : (written.map (·.1)).Nodup) (member : (place, text) ∈ written) :
    lastText written place = some text := by
  obtain ⟨earlier, later, rfl⟩ := List.append_of_mem member
  apply last_text_of_last
  rw [List.map_append, List.map_cons, List.nodup_append, List.nodup_cons] at distinct
  intro pair held same
  have again : pair.1 ∈ later.map (·.1) := List.mem_map_of_mem held
  rw [same] at again
  exact distinct.2.1.1 again

/-- What a fault leaves of a text that was to be written: nothing, or the empty text if it is the
text that is at fault. -/
def Fault.remnant : Fault → List Text
  | .unencodable _ => [""]
  | .refused _ _ | .unfit _ => []

/-- A fault of the path itself: the system refuses it, unless it cannot be given to the system. -/
structure Fault.Bars (fault : Fault) (path : Path) : Prop where
  refusal : fault.isRefusal = !path.isUnfit
  nothing : fault.remnant = []

theorem Fault.unfit_bars {path : Path} (unfit : path.isUnfit = true) :
    (Fault.unfit path.unfitFault).Bars path := ⟨by rw [unfit]; rfl, rfl⟩

theorem Fault.refused_bars {path : Path} (fit : path.isUnfit = false) (cause : Cause)
    (named : Path) : (Fault.refused cause named).Bars path := ⟨by rw [fit]; rfl, rfl⟩

namespace Tree

variable {before middle after : Tree} {path : Path}

/-- A file at a place has the bytes of a text. -/
def Holds (tree : Tree) (place : List Text) (text : Text) : Prop :=
  ∃ bytes, Text.encodeUtf8 text = .ok bytes ∧ tree.node? place = some (.file bytes)

instance (tree : Tree) (place : List Text) (text : Text) : Decidable (tree.Holds place text) :=
  match encoded : Text.encodeUtf8 text with
  | .ok bytes => decidable_of_iff (tree.node? place = some (.file bytes)) (by
      constructor
      · exact fun held => ⟨bytes, encoded, held⟩
      · rintro ⟨_, same, held⟩
        cases encoded.symm.trans same
        exact held)
  | .error fault => isFalse fun ⟨_, same, _⟩ => nomatch encoded.symm.trans same

theorem Holds.node_eq {place : List Text} {text : Text} (left : before.Holds place text)
    (right : after.Holds place text) : after.node? place = before.node? place := by
  obtain ⟨bytes, encoded, held⟩ := left
  obtain ⟨_, same, again⟩ := right
  cases encoded.symm.trans same
  exact again.trans held.symm

/-- The second tree is the first one with some directories made, all of them at places where there
was nothing, and some texts written, in this order. -/
structure ChangedBy (before after : Tree) (made : List (List Text))
    (written : List (List Text × Text)) : Prop where
  workingDirectory : after.workingDirectory = before.workingDirectory
  fresh : ∀ place ∈ made, before.node? place = none
  holds : ∀ place text, lastText written place = some text → after.Holds place text
  node_elsewhere : ∀ place, lastText written place = none →
    after.node? place = if place ∈ made then some .directory else before.node? place

namespace ChangedBy

variable {made later : List (List Text)} {written next : List (List Text × Text)}

theorem refl (tree : Tree) : ChangedBy tree tree [] [] where
  workingDirectory := rfl
  fresh := List.forall_mem_nil _
  holds := nofun
  node_elsewhere := fun _ _ => rfl

theorem untouched (changed : ChangedBy before middle made written) {place : List Text}
    (absent : middle.node? place = none) :
    lastText written place = none ∧ place ∉ made ∧ before.node? place = none := by
  cases last : lastText written place with
  | some text =>
      obtain ⟨bytes, -, held⟩ := changed.holds place text last
      cases absent.symm.trans held
  | none =>
      rw [changed.node_elsewhere place last] at absent
      by_cases member : place ∈ made
      · rw [if_pos member] at absent
        cases absent
      · rw [if_neg member] at absent
        exact ⟨rfl, member, absent⟩

theorem trans (first : ChangedBy before middle made written)
    (second : ChangedBy middle after later next) :
    ChangedBy before after (made ++ later) (written ++ next) where
  workingDirectory := second.workingDirectory.trans first.workingDirectory
  fresh := by
    intro place member
    rcases List.mem_append.mp member with early | late
    · exact first.fresh place early
    · exact (first.untouched (second.fresh place late)).2.2
  holds := by
    intro place text last
    rw [last_text_append] at last
    cases new : lastText next place with
    | some other =>
        rw [new, Option.some_or] at last
        cases last
        exact second.holds place _ new
    | none =>
        rw [new, Option.none_or] at last
        obtain ⟨bytes, encoded, held⟩ := first.holds place text last
        refine ⟨bytes, encoded, ?_⟩
        rw [second.node_elsewhere place new, if_neg, held]
        intro late
        cases (second.fresh place late).symm.trans held
  node_elsewhere := by
    intro place elsewhere
    rw [last_text_append, Option.or_eq_none_iff] at elsewhere
    rw [second.node_elsewhere place elsewhere.1, first.node_elsewhere place elsewhere.2]
    by_cases late : place ∈ later
    · simp [late]
    · simp [late]

theorem frame (changed : ChangedBy before after made written) {place : List Text}
    (elsewhere : ∀ pair ∈ written, pair.1 ≠ place) :
    after.node? place = before.node? place ∨
      before.node? place = none ∧ after.node? place = some .directory ∧ place ∈ made := by
  rw [changed.node_elsewhere place (last_text_none elsewhere)]
  by_cases member : place ∈ made
  · exact .inr ⟨changed.fresh place member, if_pos member, member⟩
  · exact .inl (if_neg member)

/-- Changes leave no trace just if no directory was made and all texts were there before. -/
theorem unchanged_iff (changed : ChangedBy before after made written)
    (distinct : (written.map (·.1)).Nodup) :
    (∀ place, after.node? place = before.node? place) ↔
      made = [] ∧ ∀ pair ∈ written, before.Holds pair.1 pair.2 := by
  constructor
  · intro same
    constructor
    · apply List.eq_nil_iff_forall_not_mem.mpr
      intro place member
      have absent := changed.fresh place member
      rw [← same place] at absent
      exact (changed.untouched absent).2.1 member
    · intro pair member
      obtain ⟨bytes, encoded, held⟩ :=
        changed.holds pair.1 pair.2 (last_text_of_mem distinct member)
      exact ⟨bytes, encoded, (same pair.1).symm.trans held⟩
  · rintro ⟨rfl, there⟩ place
    by_cases touched : ∃ pair ∈ written, pair.1 = place
    · obtain ⟨pair, member, rfl⟩ := touched
      exact (there pair member).node_eq
        (changed.holds pair.1 pair.2 (last_text_of_mem distinct member))
    · have elsewhere : ∀ pair ∈ written, pair.1 ≠ place := fun pair member same =>
        touched ⟨pair, member, same⟩
      rcases changed.frame elsewhere with same | ⟨-, -, member⟩
      · exact same
      · cases member

end ChangedBy

/-! ### The place of a path -/

theorem walk_place {tree : Tree} {parts place target : List Text} {found : Option Node}
    (walked : tree.walk place parts = .ok (target, found)) :
    target = (parts.foldl Path.pushPart place.reverse).reverse ∧ found = tree.node? target := by
  induction parts generalizing place with
  | nil =>
      rw [walk] at walked
      cases walked
      exact ⟨(List.reverse_reverse target).symm, rfl⟩
  | cons part rest induction =>
      rw [walk] at walked
      split at walked
      · cases walked
      · cases walked
      · rw [List.foldl_cons, Path.pushPart]
        split at walked
        · rename_i parent
          rw [if_pos parent, List.drop_one, List.tail_reverse]
          exact induction walked
        · rename_i proper
          split at walked
          · cases walked
          · rw [if_neg proper, ← List.reverse_concat]
            exact induction walked

theorem locate_place {tree : Tree} {place : List Text} {found : Option Node}
    (located : tree.locate path = .ok (place, found)) :
    place = path.absoluteParts tree.workingDirectory ∧ found = tree.node? place := by
  rw [locate] at located
  split at located
  · cases located
  · obtain ⟨target, node⟩ := walk_place located
    refine ⟨?_, node⟩
    rw [target, Path.absoluteParts]
    split <;> rfl

theorem node_set (tree : Tree) {place : List Text} (proper : place ≠ []) (node : Node)
    (other : List Text) :
    (tree.set place node).node? other = if other = place then some node else tree.node? other := by
  by_cases root : other = []
  · subst root
    rw [if_neg (Ne.symm proper)]
    rfl
  · simp only [node?, List.isEmpty_iff, root, if_false]
    exact find_set_node tree.nodes place other node

theorem node_root (tree : Tree) : tree.node? [] = some .directory := rfl

/-! ### Texts -/

theorem set_changes {place : List Text} {text : Text} {bytes : List UInt8}
    (proper : place ≠ []) (encoded : Text.encodeUtf8 text = .ok bytes) :
    ChangedBy before (before.set place (.file bytes)) [] [(place, text)] where
  workingDirectory := rfl
  fresh := List.forall_mem_nil _
  holds := by
    intro other content last
    rw [lastText, lastText, Option.none_or] at last
    split at last
    · rename_i here
      cases last
      refine ⟨bytes, encoded, ?_⟩
      rw [node_set before proper, if_pos here.symm]
    · cases last
  node_elsewhere := by
    intro other last
    rw [lastText, lastText, Option.none_or] at last
    split at last
    · cases last
    · rename_i elsewhere
      rw [node_set before proper, if_neg (Ne.symm elsewhere)]
      rfl

/-- A path is one that a file can be at: the system takes it, and it leads to no directory. -/
def Takes (tree : Tree) (path : Path) : Prop :=
  path.isUnfit = false ∧
    ∃ place found, tree.locate path = .ok (place, found) ∧ found ≠ some .directory

/-- How writing a text ends. At a path that takes no file nothing happens. A file that is there for
a text without bytes is empty then. -/
inductive Attempt (before : Tree) (path : Path) (text : Text) : Tree × Except Fault Unit → Prop
  | barred (fault : Fault) (bar : ¬ before.Takes path) (own : fault.Bars path) :
      Attempt before path text (before, .error fault)
  | emptied (after : Tree) (fault : Text.EncodeFault) (takes : before.Takes path)
      (unencodable : Text.encodeUtf8 text = .error fault)
      (changed : ChangedBy before after [] [(path.absoluteParts before.workingDirectory, "")]) :
      Attempt before path text (after, .error (.unencodable fault))
  | written (after : Tree) (takes : before.Takes path)
      (changed : ChangedBy before after [] [(path.absoluteParts before.workingDirectory, text)]) :
      Attempt before path text (after, .ok ())

theorem write_text_attempt (before : Tree) (path : Path) (text : Text) :
    Attempt before path text (before.writeText path text) := by
  unfold writeText
  split
  · rename_i unfit
    exact .barred _ (fun takes => nomatch takes.1.symm.trans unfit) (Fault.unfit_bars unfit)
  rename_i fit
  rw [Bool.not_eq_true] at fit
  split
  · rename_i cause unlocated
    refine .barred _ (fun takes => ?_) (Fault.refused_bars fit cause path)
    obtain ⟨-, place, found, located, -⟩ := takes
    cases unlocated.symm.trans located
  · rename_i place located
    refine .barred _ (fun takes => ?_) (Fault.refused_bars fit .isDirectory path)
    obtain ⟨-, _, found, again, noDirectory⟩ := takes
    cases located.symm.trans again
    exact noDirectory rfl
  rename_i place found noDirectory located
  have takes : before.Takes path := ⟨fit, place, found, located, noDirectory⟩
  obtain ⟨rfl, rfl⟩ := locate_place located
  have inside : path.absoluteParts before.workingDirectory ≠ [] := by
    intro root
    exact noDirectory (congrArg before.node? root)
  split
  · rename_i fault unencodable
    exact .emptied _ fault takes unencodable (set_changes inside rfl)
  · rename_i bytes encoded
    exact .written _ takes (set_changes inside encoded)

/-! ### Directories -/

theorem make_directory_changes (made : before.makeDirectory path = .ok after) :
    ChangedBy before after [path.absoluteParts before.workingDirectory] [] := by
  rw [makeDirectory] at made
  split at made
  · cases made
  · cases made
  rename_i place located
  cases made
  obtain ⟨rfl, absent⟩ := locate_place located
  refine ⟨rfl, List.forall_mem_singleton.mpr absent.symm, nofun, fun other _ => ?_⟩
  have inside : path.absoluteParts before.workingDirectory ≠ [] := by
    intro root
    rw [root, node_root] at absent
    cases absent
  rw [node_set before inside]
  simp only [List.mem_singleton]

/-- Making way for a path changes nothing but directories that were missing along it. -/
def MadeWay (before after : Tree) (path : Path) : Prop :=
  ∃ made, ChangedBy before after made [] ∧
    ∀ place ∈ made, path.LeadsThrough before.workingDirectory place

theorem MadeWay.refl (tree : Tree) (path : Path) : MadeWay tree tree path :=
  ⟨[], .refl tree, List.forall_mem_nil _⟩

theorem MadeWay.workingDirectory (way : MadeWay before after path) :
    after.workingDirectory = before.workingDirectory := by
  obtain ⟨made, changed, -⟩ := way
  exact changed.workingDirectory

theorem MadeWay.trans (first : MadeWay before middle path) (second : MadeWay middle after path) :
    MadeWay before after path := by
  obtain ⟨made, changed, leads⟩ := first
  obtain ⟨later, changedLater, leadsLater⟩ := second
  refine ⟨made ++ later, changed.trans changedLater, fun place member => ?_⟩
  rcases List.mem_append.mp member with early | late
  · exact leads place early
  · rw [← changed.workingDirectory]
    exact leadsLater place late

theorem MadeWay.of_parent (way : MadeWay before after path.parent) : MadeWay before after path := by
  obtain ⟨made, changed, leads⟩ := way
  exact ⟨made, changed, fun place member => (leads place member).of_parent⟩

theorem ensure_directory_makes_way (tree : Tree) (path : Path) :
    MadeWay tree (tree.ensureDirectory path).1 path := by
  rw [ensureDirectory]
  split
  · rename_i after made
    exact ⟨_, make_directory_changes made,
      List.forall_mem_singleton.mpr (path.leads_to_end tree.workingDirectory)⟩
  · split
    · exact .refl tree path
    · exact .refl tree path

theorem ensure_directories_makes_way (tree : Tree) (path : Path) :
    MadeWay tree (tree.ensureDirectories path).1 path := by
  fun_induction ensureDirectories tree path with
  | case1 path missing noPart => exact .refl _ path
  | case2 path missing somePart above made ensured induction =>
      rw [ensured] at induction
      exact induction.of_parent.trans (ensure_directory_makes_way above path)
  | case3 path missing somePart above fault ensured induction =>
      rw [ensured] at induction
      exact induction.of_parent
  | case4 path => exact ensure_directory_makes_way _ path

theorem ensure_directory_refused {fault : Fault}
    (failed : (before.ensureDirectory path).2 = .error fault) :
    ∃ cause, fault = .refused cause path := by
  rw [ensureDirectory] at failed
  split at failed
  · cases failed
  · rename_i cause _
    split at failed
    · cases failed
    · cases failed
      exact ⟨cause, rfl⟩

theorem ensure_directories_refused (tree : Tree) (path : Path) {fault : Fault}
    (failed : (tree.ensureDirectories path).2 = .error fault) :
    ∃ cause named, fault = .refused cause named := by
  fun_induction ensureDirectories tree path with
  | case1 path missing noPart =>
      cases failed
      exact ⟨.missing, path, rfl⟩
  | case2 path missing somePart above made ensured induction =>
      obtain ⟨cause, rfl⟩ := ensure_directory_refused failed
      exact ⟨cause, path, rfl⟩
  | case3 path missing somePart above cause ensured induction =>
      rw [ensured] at induction
      exact induction failed
  | case4 path =>
      obtain ⟨cause, rfl⟩ := ensure_directory_refused failed
      exact ⟨cause, path, rfl⟩

theorem make_directories_ends {result : Except Fault Unit}
    (made : before.makeDirectories path = (after, result)) :
    (result = .ok () ∧ path.isUnfit = false) ∨ ∃ fault, result = .error fault ∧
    fault.Bars path := by
  rw [makeDirectories] at made
  split at made
  · rename_i unfit
    cases made
    exact .inr ⟨_, rfl, Fault.unfit_bars unfit⟩
  · rename_i fit
    rw [Bool.not_eq_true] at fit
    cases result with
    | ok _ => exact .inl ⟨rfl, fit⟩
    | error fault =>
        obtain ⟨cause, named, rfl⟩ :=
          ensure_directories_refused before path (congrArg Prod.snd made)
        exact .inr ⟨_, rfl, Fault.refused_bars fit cause named⟩

theorem make_directories_makes_way (tree : Tree) (path : Path) :
    MadeWay tree (tree.makeDirectories path).1 path := by
  rw [makeDirectories]
  split
  · exact .refl tree path
  · exact ensure_directories_makes_way tree path

end Tree

end DtoForge.Files
