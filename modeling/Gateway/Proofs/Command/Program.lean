/-
This file proves what the program leaves behind on files in memory. Names are followed one after the
other, so the first that leads nowhere decides the fault, and no name leads out of the tree: what is
read stands in it. A run ends in one of five ways. What it leaves depends on the input by the first
line alone, and the words of the libraries change neither an answer nor an exit code.
-/

import Gateway.Program
import Gateway.Proofs.Command.FirstLine
import Gateway.Proofs.Command.Protocol

namespace Gateway

/-! ### Names -/

namespace FileTree

namespace Place

variable {place found : Place} {names : List String} {fault : FileFault}

theorem follow_append (place : Place) (names further : List String) :
    place.follow (names ++ further) = (place.follow names).bind fun found => found.follow further :=
  List.foldlM_append

/-- The fault of names is the fault of the first one that leads nowhere. -/
theorem follow_eq_error_iff :
    place.follow names = .error fault ↔
      ∃ before name after found, names = before ++ name :: after ∧
        place.follow before = .ok found ∧ found.enter name = .error fault := by
  constructor
  · intro failed
    induction names generalizing place with
    | nil => cases failed
    | cons name rest inductionHypothesis =>
      rw [follow, List.foldlM_cons] at failed
      cases entered : place.enter name with
      | error earlier =>
        rw [entered] at failed
        cases failed
        exact ⟨[], name, rest, place, rfl, rfl, entered⟩
      | ok next =>
        rw [entered] at failed
        obtain ⟨before, other, after, found, rfl, reached, stops⟩ := inductionHypothesis failed
        refine ⟨name :: before, other, after, found, rfl, ?_, stops⟩
        rw [follow, List.foldlM_cons, entered]
        exact reached
  · rintro ⟨before, name, after, found, rfl, reached, stops⟩
    rw [follow_append, reached]
    change found.follow (name :: after) = .error fault
    rw [follow, List.foldlM_cons, stops]
    rfl

end Place

/-! ### What stands in a tree -/

/-- The files and directories that stand in a tree, the tree among them. -/
inductive Within (root : FileTree) : FileTree → Prop
  | root : Within root root
  | entry {entries : List (String × FileTree)} {name : String} {tree : FileTree}
    (directory : Within root (.directory entries)) (inside : (name, tree) ∈ entries) :
    Within root tree

/-- The place and the directories around it stand in the tree. -/
structure Place.StandsIn (place : Place) (root : FileTree) : Prop where
  tree : root.Within place.tree
  around : ∀ outer ∈ place.around, root.Within outer

namespace Place

variable {root : FileTree} {place found : Place}

theorem standsIn_root (root : FileTree) : (⟨root, []⟩ : Place).StandsIn root where
  tree := .root
  around := List.forall_mem_nil _

/-- A name leads from a place in the tree to one in the tree, even out of a directory. -/
theorem StandsIn.enter (stands : place.StandsIn root) {name : String}
    (entered : place.enter name = .ok found) : found.StandsIn root := by
  obtain ⟨tree, around⟩ := place
  cases tree with
  | file octets => cases entered
  | directory entries =>
    simp only [Place.enter] at entered
    split at entered
    · cases entered
      exact stands
    · split at entered
      · cases around with
        | nil =>
          cases entered
          exact stands
        | cons outer outside =>
          cases entered
          exact ⟨stands.around outer List.mem_cons_self,
            fun other inside => stands.around other (List.mem_cons_of_mem _ inside)⟩
      · split at entered
        · cases entered
        · split at entered
          · cases entered
          · rename_i next isNext
            cases entered
            obtain ⟨before, after, rfl, -⟩ := List.lookup_eq_some_iff.mp isNext
            have inside : (name, next) ∈ before ++ (name, next) :: after := by simp
            exact ⟨.entry stands.tree inside,
              List.forall_mem_cons.mpr ⟨stands.tree, stands.around⟩⟩

theorem StandsIn.follow (stands : place.StandsIn root) {names : List String}
    (reached : place.follow names = .ok found) : found.StandsIn root := by
  induction names generalizing place with
  | nil =>
    cases reached
    exact stands
  | cons name rest inductionHypothesis =>
    rw [Place.follow, List.foldlM_cons] at reached
    cases entered : place.enter name with
    | error fault =>
      rw [entered] at reached
      cases reached
    | ok next =>
      rw [entered] at reached
      exact inductionHypothesis (stands.enter entered) reached

end Place

/-- Whatever a path says, the octets at it are those of a file in the tree. -/
theorem within_of_read {root : FileTree} {path : String} {working : List String}
    {octets : List UInt8} (isRead : root.read path working = .ok octets) :
    root.Within (.file octets) := by
  rw [read] at isRead
  split at isRead
  · cases isRead
  · split at isRead
    · cases isRead
    · cases reached : Place.follow ⟨root, []⟩ (names path working) with
      | error fault =>
        rw [reached] at isRead
        cases isRead
      | ok place =>
        rw [reached] at isRead
        have stands := (Place.standsIn_root root).follow reached
        obtain ⟨tree, around⟩ := place
        cases tree with
        | directory entries => cases isRead
        | file others =>
          cases isRead
          exact stands.tree

end FileTree

/-! ### Runs -/

namespace UsageError

theorem helpText_ne_empty (command : Option Command) : helpText command ≠ "" := by
  have isCons : ∃ line rest, UsageError.helpLines command = line :: rest := by
    cases command with
    | none => exact ⟨_, _, rfl⟩
    | some command => cases command <;> exact ⟨_, _, rfl⟩
  obtain ⟨line, rest, isLines⟩ := isCons
  rw [helpText, isLines, List.map_cons, String.join_cons]
  intro silent
  have lineEnd := (String.append_eq_empty_iff.mp (String.append_eq_empty_iff.mp silent).left).right
  exact absurd lineEnd (by decide)

/-- Arguments that are refused leave no output, and those that ask for help or the version do. -/
theorem output_eq_empty_iff (usage : UsageError) : usage.output = "" ↔ usage.exitCode = 2 := by
  cases usage with
  | help command =>
    have unlike : (0 : UInt32) ≠ 2 := by decide
    exact iff_of_false (helpText_ne_empty command) unlike
  | version => exact iff_of_false (by decide) (by decide)
  | _ => exact iff_of_true rfl rfl

end UsageError

theorem IsObjectLine.ne_empty {output : String} {members : Members}
    (isLine : IsObjectLine output members) : output ≠ "" := by
  obtain ⟨text, isOutput, -⟩ := isLine
  rw [isOutput, Ne, String.ofList_eq_empty_iff]
  exact List.concat_ne_nil _ _

/-- A command that tells how it ended is not silent, also where it failed. -/
theorem Command.output_ne_empty_of_tells {command : Command} {outcome : Outcome}
    {answer : Except CommandError Json} (tells : command.Tells outcome answer) :
    outcome.output ≠ "" := by
  cases tells with
  | completed output => exact output.ne_empty
  | failed output => exact output.ne_empty

namespace Host

variable (files : FileTree) (working : List String)

/-- The configuration that the arguments ask for, from files in memory. -/
def source (asked : Arguments) : ConfigSource :=
  (files.host working []).config (m := Id) asked.configPath

theorem run_of_refused [LibraryReports] (input : List UInt8) {arguments : List String}
    {usage : UsageError} (refused : Arguments.parse arguments = .error usage) :
    (files.host working input).run arguments =
      ⟨usage.output, usage.diagnostics, usage.exitCode⟩ := by
  rw [run, refused]
  rfl

/-- A command that cannot load its configuration does not look at the input. -/
theorem run_of_not_isOk [LibraryReports] (command : Command) {source : ConfigSource}
    (failed : source.load.value.isOk = false) (input other : List UInt8) :
    command.run source input = command.run source other := by
  rw [Command.run, Command.run]
  cases loaded : source.load.value with
  | error error => rfl
  | ok config =>
    rw [loaded] at failed
    cases failed

theorem run_of_parsed [LibraryReports] (input : List UInt8) {arguments : List String}
    {asked : Arguments} (parsed : Arguments.parse arguments = .ok asked) :
    (files.host working input).run arguments =
      let outcome := asked.command.run (source files working asked) input
      ⟨outcome.output, outcome.diagnostics, outcome.exitCode⟩ := by
  rw [run, parsed]
  change (if (source files working asked).load.value.isOk = true then _ else _) = _
  cases loaded : (source files working asked).load.value.isOk with
  | true => rfl
  | false =>
    rw [run_of_not_isOk asked.command loaded input []]
    rfl

/-- A path that stops at one of its names ends the run with the fault of that name. -/
theorem run_of_stops [LibraryReports] (input : List UInt8) {arguments : List String}
    {command : Command} {path : String} {before after : List String} {name : String}
    {found : FileTree.Place} {fault : FileFault}
    (parsed : Arguments.parse arguments = .ok ⟨command, some path⟩)
    (notEmpty : path.isEmpty = false) (fits : path.utf8ByteSize ≤ FileTree.longestPath)
    (isPath : FileTree.names path working = before ++ name :: after)
    (reached : FileTree.Place.follow ⟨files, []⟩ before = .ok found)
    (stops : found.enter name = .error fault) :
    (files.host working input).run arguments =
      ⟨"", (ConfigSource.readError path fault.message).text ++ "\n", 1⟩ := by
  have failed : FileTree.Place.follow ⟨files, []⟩ (FileTree.names path working) = .error fault :=
    FileTree.Place.follow_eq_error_iff.mpr ⟨before, name, after, found, isPath, reached, stops⟩
  have isRead : files.read path working = .error fault := by
    rw [FileTree.read, notEmpty, if_neg Bool.false_ne_true, if_neg (Nat.not_lt.mpr fits), failed]
    rfl
  have isSource : source files working ⟨command, some path⟩ = .unreadable path fault := by
    simp only [source, config, FileTree.host, isRead]
    rfl
  rw [run_of_parsed files working input parsed, isSource]
  rfl

/-- Of the input, nothing but the first line counts. -/
theorem run_eq_of_firstLine_eq [LibraryReports] (arguments : List String)
    {input other : List UInt8}
    (same : RequestLine.firstLine input = RequestLine.firstLine other) :
    (files.host working input).run arguments = (files.host working other).run arguments := by
  cases parsed : Arguments.parse arguments with
  | error usage =>
    rw [run_of_refused files working input parsed, run_of_refused files working other parsed]
  | ok asked =>
    rw [run_of_parsed files working input parsed, run_of_parsed files working other parsed,
      RequestLine.run_congr (RequestLine.read_congr same)]

/-- How a run of the program may end. -/
inductive Ends [LibraryReports] (arguments : List String) (input : List UInt8) : Exit → Prop
  /-- With the help or the version that was asked for. -/
  | told {usage : UsageError} (refused : Arguments.parse arguments = .error usage)
    (code : usage.exitCode = 0) :
    Ends arguments input ⟨usage.output, "", 0⟩
  /-- With what is wrong with the arguments. -/
  | refused {usage : UsageError} (refused : Arguments.parse arguments = .error usage)
    (code : usage.exitCode = 2) :
    Ends arguments input ⟨"", usage.diagnostics, 2⟩
  /-- With what is wrong with the configuration. -/
  | unloaded {asked : Arguments} {error : CommandError}
    (parsed : Arguments.parse arguments = .ok asked)
    (failed : (source files working asked).load.value = .error error) :
    Ends arguments input ⟨"", error.text ++ "\n", 1⟩
  /-- As the command ends. -/
  | commanded {asked : Arguments} {config : Config} {outcome : Outcome}
    (parsed : Arguments.parse arguments = .ok asked)
    (loaded : (source files working asked).load.value = .ok config)
    (tells : asked.command.Tells outcome (asked.command.answerInput config input).value) :
    Ends arguments input ⟨outcome.output, outcome.diagnostics, outcome.exitCode⟩

theorem ends_run [LibraryReports] (arguments : List String) (input : List UInt8) :
    Ends files working arguments input ((files.host working input).run arguments) := by
  cases parsed : Arguments.parse arguments with
  | error usage =>
    rw [run_of_refused files working input parsed]
    cases usage with
    | help command => exact .told parsed rfl
    | version => exact .told parsed rfl
    | _ => exact .refused parsed rfl
  | ok asked =>
    rw [run_of_parsed files working input parsed]
    cases loaded : (source files working asked).load.value with
    | error error =>
      have isOutcome : asked.command.run (source files working asked) input =
          ⟨"", (source files working asked).load.log, some error⟩ := by
        simp only [Command.run, loaded]
      rw [isOutcome, ConfigSource.log_load_of_error loaded]
      exact .unloaded parsed loaded
    | ok config =>
      have isOutcome : asked.command.run (source files working asked) input =
          { asked.command.runWith config input with
            log := (source files working asked).load.log ++
              (asked.command.runWith config input).log } := by
        simp only [Command.run, loaded]
      rw [isOutcome]
      exact .commanded parsed loaded
        (asked.command.tells_runWith (source files working asked).event_of_mem_load config input)

/-- A run is silent exactly if its arguments are refused or its configuration cannot be loaded. -/
theorem output_run_eq_empty_iff [LibraryReports] (arguments : List String) (input : List UInt8) :
    ((files.host working input).run arguments).output = "" ↔
      (∃ usage, Arguments.parse arguments = .error usage ∧ usage.exitCode = 2) ∨
        ∃ asked error, Arguments.parse arguments = .ok asked ∧
          (source files working asked).load.value = .error error := by
  have ends := ends_run files working arguments input
  generalize (files.host working input).run arguments = exit at ends ⊢
  cases ends with
  | @told usage isUsage code =>
    refine iff_of_false (fun silent => ?_) ?_
    · cases code.symm.trans (usage.output_eq_empty_iff.mp silent)
    · rintro (⟨other, isOther, refused⟩ | ⟨asked, error, parsed, -⟩)
      · cases isUsage.symm.trans isOther
        cases code.symm.trans refused
      · cases isUsage.symm.trans parsed
  | refused isUsage code => exact iff_of_true rfl (.inl ⟨_, isUsage, code⟩)
  | unloaded parsed failed => exact iff_of_true rfl (.inr ⟨_, _, parsed, failed⟩)
  | commanded parsed loaded tells =>
    refine iff_of_false (Command.output_ne_empty_of_tells tells) ?_
    rintro (⟨usage, isUsage, -⟩ | ⟨asked, error, isAsked, failed⟩)
    · cases parsed.symm.trans isUsage
    · cases parsed.symm.trans isAsked
      cases loaded.symm.trans failed

end Host

/-! ### The words of the libraries -/

/-- The same value, or errors of one code. -/
inductive SameButWords {α : Type} : Except CommandError α → Except CommandError α → Prop
  | ok (value : α) : SameButWords (.ok value) (.ok value)
  | error (code : CommandErrorCode) (words otherWords : String) :
    SameButWords (.error ⟨code, words⟩) (.error ⟨code, otherWords⟩)

theorem SameButWords.refl {α : Type} (outcome : Except CommandError α) :
    SameButWords outcome outcome := by
  cases outcome with
  | error error => exact .error error.code error.message error.message
  | ok value => exact .ok value

section

variable (one other : LibraryReports)

theorem Query.value_filterFrom_eq (resources : Resources) (statements : List Statement)
    (filtered : Resources) :
    (@Query.filterFrom one resources statements filtered).value =
      (@Query.filterFrom other resources statements filtered).value := by
  induction statements generalizing filtered with
  | nil => rfl
  | cons statement rest inductionHypothesis =>
    simp only [Query.filterFrom]
    cases statement.filterEntry (resources.find? statement.id) with
    | error cause => rfl
    | ok made =>
      cases made with
      | none => exact inductionHypothesis filtered
      | some kept => exact inductionHypothesis (filtered.insert statement.id kept)

theorem sameButWords_filterResults (request : Json) :
    SameButWords (@filterResults one request).value (@filterResults other request).value := by
  simp only [filterResults]
  cases FilterRequest.decode request with
  | error error => exact .error _ _ _
  | ok decoded =>
    dsimp only [Query.applyFilters]
    rw [Query.value_filterFrom_eq one other]
    cases (@Query.filterFrom other decoded.resources decoded.query.statements
      Dictionary.empty).value with
    | error failure => exact .error _ _ _
    | ok results => exact .ok _

theorem RequestLine.sameButWords_read (input : List UInt8) :
    SameButWords (@RequestLine.read one input) (@RequestLine.read other input) := by
  simp only [RequestLine.read]
  cases Text.ofUtf8? (RequestLine.firstLine input) with
  | none => exact .error _ _ _
  | some line =>
    dsimp only
    split
    · exact .error _ _ _
    · cases Json.ofText? line with
      | none => exact .error _ _ _
      | some request => exact .ok _

theorem Command.sameButWords_answerInput (command : Command) (config : Config)
    (input : List UInt8) :
    SameButWords (@Command.answerInput one command config input).value
      (@Command.answerInput other command config input).value := by
  have alike := RequestLine.sameButWords_read one other input
  simp only [Command.answerInput]
  generalize @RequestLine.read one input = request at alike ⊢
  generalize @RequestLine.read other input = otherRequest at alike ⊢
  cases alike with
  | error code words otherWords => exact .error _ _ _
  | ok request =>
    cases command with
    | filter => exact sameButWords_filterResults one other request
    | assemble => exact .refl _

theorem ConfigSource.sameButWords_load (source : ConfigSource) :
    SameButWords (@ConfigSource.load one source).value (@ConfigSource.load other source).value := by
  cases source with
  | absent => exact .ok _
  | unreadable path fault => exact .error _ _ _
  | file path octets =>
    simp only [ConfigSource.load]
    split
    · exact .error _ _ _
    · split
      · exact .error _ _ _
      · exact .ok _

/-- The exit code sees no more of an outcome than whether there is an error. -/
theorem Outcome.alike_of_isSome {outcome other : Outcome}
    (failsAlike : outcome.error.isSome = other.error.isSome)
    (answersAlike : outcome.error = none → outcome.output = other.output) :
    outcome.exitCode = other.exitCode ∧ (outcome.exitCode = 0 → outcome.output = other.output) := by
  rw [exitCode, exitCode, failsAlike]
  refine ⟨rfl, fun zero => answersAlike ?_⟩
  cases isError : other.error with
  | none => rwa [isError, Option.isSome_none, Option.isSome_eq_false_iff, Option.isNone_iff_eq_none]
      at failsAlike
  | some error =>
    rw [isError, Option.isSome_some, if_pos rfl] at zero
    exact absurd zero (by decide)

/-- Whatever the libraries say, a run ends with the same code, and where it does not fail it gives
the same answer. -/
theorem Host.code_run_eq (files : FileTree) (working : List String) (arguments : List String)
    (input : List UInt8) :
    let exit := @Host.run Id _ one (files.host working input) arguments
    let otherExit := @Host.run Id _ other (files.host working input) arguments
    exit.code = otherExit.code ∧ (exit.code = 0 → exit.output = otherExit.output) := by
  intro exit otherExit
  cases parsed : Arguments.parse arguments with
  | error usage =>
    have isExit : exit = otherExit :=
      (@run_of_refused files working one input _ _ parsed).trans
        (@run_of_refused files working other input _ _ parsed).symm
    rw [isExit]
    exact ⟨rfl, fun _ => rfl⟩
  | ok asked =>
    have isExit : exit = _ := @run_of_parsed files working one input _ _ parsed
    have isOther : otherExit = _ := @run_of_parsed files working other input _ _ parsed
    rw [isExit, isOther]
    have loading := ConfigSource.sameButWords_load one other (source files working asked)
    simp only [Command.run, Command.runWith]
    generalize (@ConfigSource.load one (source files working asked)).value = loaded at loading ⊢
    generalize (@ConfigSource.load other (source files working asked)).value = otherLoaded
      at loading ⊢
    cases loading with
    | error code words otherWords =>
      exact Outcome.alike_of_isSome rfl (absurd · (Option.some_ne_none _))
    | ok config =>
      have answered := asked.command.sameButWords_answerInput one other config input
      dsimp only
      generalize (@Command.answerInput one asked.command config input).value = answer
        at answered ⊢
      generalize (@Command.answerInput other asked.command config input).value = otherAnswer
        at answered ⊢
      cases answered with
      | error code words otherWords =>
      exact Outcome.alike_of_isSome rfl (absurd · (Option.some_ne_none _))
      | ok data => exact Outcome.alike_of_isSome rfl fun _ => rfl

end

end Gateway
