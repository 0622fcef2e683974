import VirtualImports.Command.Declare
import VirtualImports.Command.Plain
import VirtualImports.Proofs.Command.Batch

/-!
How the commands end.

* `unexpected_sessionLoad`: a command does not expect misshapen data, and expects all other faults
  of a load;
* `rewrite_of_fault`, `declare_of_fault`: a fault that it expects it reports, and exits with 1, if the
  report can be drawn;
* `exits_rewrite`, `declare_of_configuration`: with a configuration it exits with 0 or 1, or comes to
  such a message, unless the path that it would write to names nothing;
* `commands_end`: all of this for both commands.
-/
namespace VirtualImports

/-- A session with one more message, shown on a stream. -/
def Session.reported (stream : Stream) (entry : LogEntry) (session : Session) : Session :=
  { session with
    screen := { session.screen with shown := session.screen.shown ++ [(stream, .log entry)] } }

/-- No configuration file is named where one is asked for, or its data are misshapen. -/
def Session.Misshapen (session : Session) (start : Path) (file : Command.Setting Path) : Prop :=
  file = .cleared ∨ VirtualImports.Misshapen session.files session.cwd start file.value?

/-- The declarations would go to a path that names nothing, and this comes out when they are
written. -/
def Configuration.Unwritable (configuration : Configuration) (tree : FileTree) (cwd : Location)
    (root : Path) (output : Option Path) : Prop :=
  ∃ path, configuration.declarationPath? root output = some path ∧ path.holdsNull = true ∧
    (path.parent.holdsNull = true ∨ (tree.ensureDirectories cwd path.parent).2 = none)

namespace Command

/-- Where the configuration is searched from: the directory to rewrite, or that of the file. -/
def RewriteOptions.searchPath (options : RewriteOptions) (session : Session) : Path :=
  if session.files.isDirectory session.cwd options.input then options.input
  else options.input.parent

/-- Where messages go: to standard error if a single file goes to standard output. -/
def RewriteOptions.stream (options : RewriteOptions) (session : Session) : Stream :=
  if session.files.isFile session.cwd options.input && options.output.isUnset then .stderr
  else session.screen.active

/-- How a command ends, by what comes of loading its configuration. -/
structure Ends [Libraries] (session : Session) (stream : Stream) (misshapen : Prop)
    (loaded : Except LoadFault Configuration) (blocked : Configuration → Prop)
    (result : Session × Ending) : Prop where
  crashes : misshapen → ∃ fault, loaded = .error fault ∧ result = (session, .crash (.load fault))
  reports : ¬ misshapen → ∀ fault, loaded = .error fault → fault ≠ .loneSurrogate →
    fault.complaint.isDrawable = true → result = (session.reported stream fault.complaint, .exit 1)
  breaks : ¬ misshapen → ∀ fault, loaded = .error fault → fault ≠ .loneSurrogate →
    fault.complaint.isDrawable = false →
      result = (session, .crash (.undrawable (.log fault.complaint)))
  exits : ∀ configuration, loaded = .ok configuration → ¬ blocked configuration → Exits result.2

variable {session : Session}

/-- Unless a configuration file is asked for and not named, a session loads from its files. -/
theorem exists_request (session : Session) {start : Path} {target : Setting String}
    {file : Setting Path} (named : file ≠ .cleared) :
    ∃ value, session.load start target file =
      load session.files session.cwd ⟨some start, value, none, file.value?⟩ := by
  cases file with
  | cleared => exact absurd rfl named
  | unset => exact ⟨_, rfl⟩
  | value path => exact ⟨_, rfl⟩

theorem unexpected_sessionLoad {start : Path} {target : Setting String} {file : Setting Path} :
    Unexpected (session.load start target file) ↔ session.Misshapen start file := by
  unfold Session.Misshapen
  by_cases named : file = .cleared
  · subst named
    exact iff_of_true ⟨_, rfl, rfl⟩ (.inl rfl)
  · obtain ⟨value, same⟩ := exists_request session named
    rw [same, unexpected_load, or_iff_right named]
    rfl

theorem sound_of_sessionLoad {start : Path} {target : Setting String} {file : Setting Path}
    {configuration : Configuration} (h : session.load start target file = .ok configuration) :
    configuration.Sound := by
  have named : file ≠ .cleared := by
    rintro rfl
    cases h
  obtain ⟨value, same⟩ := exists_request _ named
  rw [same] at h
  obtain ⟨raw, accepted⟩ := exists_raw_of_load h
  exact Configuration.sound_of_ofValue accepted

section
variable [Libraries]

/-- How a command ends that reports a fault. -/
def endFault (session : Session) (stream : Stream) (fault : LoadFault) : Session × Ending :=
  if !fault.isExpected then (session, .crash (.load fault))
  else if fault.complaint.isDrawable then (session.reported stream fault.complaint, .exit 1)
  else (session, .crash (.undrawable (.log fault.complaint)))

theorem endLoad_of_modelled {fault : LoadFault} (modelled : fault ≠ .loneSurrogate) :
    session.endLoad fault =
      if fault.isExpected then session.finish [.log fault.complaint] 1
      else (session, .crash (.load fault)) := by
  cases fault with
  | loneSurrogate => exact absurd rfl modelled
  | unnamedFile | file | encoding | syntaxError | longInteger | toolNotTable | settings | invalid =>
    rfl

theorem endLoad_eq {fault : LoadFault} (modelled : fault ≠ .loneSurrogate) :
    session.endLoad fault = endFault session session.screen.active fault := by
  rw [endLoad_of_modelled modelled, Session.finish, Session.tell_singleton, endFault]
  cases fault.isExpected <;> rfl

/-- A command that ends a failed load as it should, and exits otherwise. -/
theorem ends_of {stream : Stream} {start : Path} {target : Setting String} {file : Setting Path}
    {blocked : Configuration → Prop} {result : Session × Ending}
    (ends : ∀ fault, session.load start target file = .error fault → fault ≠ .loneSurrogate →
      result = endFault session stream fault)
    (exits : ∀ configuration, session.load start target file = .ok configuration →
      ¬ blocked configuration → Exits result.2) :
    Ends session stream (session.Misshapen start file) (session.load start target file) blocked
      result := by
  have expected (wellShaped : ¬ session.Misshapen start file) {fault : LoadFault}
      (loaded : session.load start target file = .error fault) : fault.isExpected = true := by
    rw [← Bool.not_eq_false]
    exact fun unexpected => wellShaped (unexpected_sessionLoad.1 ⟨fault, loaded, unexpected⟩)
  refine ⟨fun misshapen => ?_, fun wellShaped fault loaded modelled drawable => ?_,
    fun wellShaped fault loaded modelled undrawable => ?_, exits⟩
  · obtain ⟨fault, loaded, unexpected⟩ := unexpected_sessionLoad.2 misshapen
    have modelled : fault ≠ .loneSurrogate := by
      rintro rfl
      cases unexpected
    refine ⟨fault, loaded, (ends fault loaded modelled).trans ?_⟩
    simp only [endFault, unexpected, Bool.not_false, if_true]
  · simp only [ends fault loaded modelled, endFault, expected wellShaped loaded, drawable,
      Bool.not_true, Bool.false_eq_true, if_false, if_true]
  · simp only [ends fault loaded modelled, endFault, expected wellShaped loaded, undrawable,
      Bool.not_true, Bool.false_eq_true, if_false]

section Rewrite

variable {options : RewriteOptions}

theorem rewriteInput_of_fault {fault : LoadFault}
    (failed : session.load (options.searchPath session) options.target options.configurationFile =
      .error fault) : rewriteInput options session = session.endLoad fault := by
  unfold RewriteOptions.searchPath at failed
  simp only [rewriteInput, failed]

theorem rewrite_of_fault (existing : session.files.pathExists session.cwd options.input = true)
    {fault : LoadFault}
    (failed : session.load (options.searchPath session) options.target options.configurationFile =
      .error fault) (modelled : fault ≠ .loneSurrogate) :
    rewrite options session = endFault session (options.stream session) fault := by
  have single : rewriteInput options (session.activate .stderr) =
      endFault (session.activate .stderr) .stderr fault :=
    Eq.trans (@rewriteInput_of_fault (session.activate .stderr) _ options fault failed)
      (endLoad_eq modelled)
  simp only [rewrite, FileTree.nameTooLong_of_pathExists existing, existing, RewriteOptions.stream,
    rewriteInput_of_fault failed, endLoad_eq modelled, single, endFault]
  cases fault.isExpected <;> cases fault.complaint.isDrawable <;>
    cases session.files.isFile session.cwd options.input && options.output.isUnset <;> rfl

theorem exits_rewriteInput {configuration : Configuration}
    (loaded : session.load (options.searchPath session) options.target options.configurationFile =
      .ok configuration) (named : ∀ path ∈ options.output.value?, path.holdsNull = false) :
    Exits (rewriteInput options session).2 := by
  have sound := sound_of_sessionLoad loaded
  unfold RewriteOptions.searchPath at loaded
  simp only [rewriteInput, loaded]
  cases made : Engine.make? configuration none with
  | none => exact exits_finish (Nat.le_refl 1) session
  | some engine =>
    rw [← Engine.configuration_of_make? made] at sound
    have exits (next : Session) : Exits (if next.files.isFile next.cwd options.input then
        rewriteSingle engine options next else rewriteDirectory engine options next).2 := by
      split
      · exact exits_rewriteSingle sound named
      · exact exits_rewriteDirectory sound named
    exact exits _

theorem exits_rewrite (existing : session.files.pathExists session.cwd options.input = true)
    {configuration : Configuration}
    (loaded : session.load (options.searchPath session) options.target options.configurationFile =
      .ok configuration) (named : ∀ path ∈ options.output.value?, path.holdsNull = false) :
    Exits (rewrite options session).2 := by
  simp only [rewrite, FileTree.nameTooLong_of_pathExists existing, existing, Bool.not_true,
    Bool.false_eq_true, if_false]
  split
  · have single : Exits (rewriteInput options (session.activate .stderr)).2 :=
      exits_rewriteInput loaded named
    exact single
  · exact exits_rewriteInput loaded named

end Rewrite

section Declare

variable {options : DeclareOptions} (root : Path)

theorem declare_of_fault {fault : LoadFault}
    (failed : session.load root .unset options.configurationFile = .error fault)
    (modelled : fault ≠ .loneSurrogate) :
    declare options root session = endFault session session.screen.active fault := by
  simp only [declare, failed]
  exact endLoad_eq modelled

/-- The declarations are written, or not meant to be, or an error of the system is reported. The one
error that ends the command is that of a path that names nothing. -/
theorem declare_of_configuration {configuration : Configuration}
    (loaded : session.load root .unset options.configurationFile = .ok configuration) :
    (¬ configuration.Unwritable session.files session.cwd root options.output.value? ∧
      Exits (declare options root session).2) ∨
    (configuration.Unwritable session.files session.cwd root options.output.value? ∧
      ∃ error, (declare options root session).2 = .crash (.file error) ∧ error.isNull) := by
  simp only [declare, loaded, Configuration.Unwritable, Configuration.writeDeclarations]
  cases given : configuration.declarationPath? root options.output.value? with
  | none => exact .inl ⟨by simp, .exit (Nat.zero_le 1)⟩
  | some path =>
    have foreign := FileTree.exists_foreign_writeBelow session.files session.cwd path
      (Text.Utf8.encode configuration.declarationText)
    simp only [Option.some.injEq, exists_eq_left', ← foreign]
    rcases session.files.writeBelow session.cwd path
      (Text.Utf8.encode configuration.declarationText) with ⟨files, _ | error⟩
    · exact .inl ⟨by simp, exits_finish (Nat.zero_le 1) _⟩
    · cases system : error.isSystem with
      | true =>
        refine .inl ⟨by simp [system], ?_⟩
        simp only [system, if_true]
        exact exits_finish (Nat.le_refl 1) _
      | false =>
        exact .inr ⟨⟨error, rfl, system⟩, error, by simp [system],
          FileError.isSystem_eq_false.1 system⟩

end Declare

end

/-- A directory with a source file and a project file. -/
def sessionWith (project : String) : Session where
  files := ⟨[(["a.ts"], .file []), (["pyproject.toml"], .file (Text.Utf8.encode project.toList))]⟩
  cwd := []
  screen := Screen.start

def rewriteOne : RewriteOptions := ⟨⟨"", ["a.ts"]⟩, .unset, .value "react", .unset, []⟩

/-- A project file that is no TOML. -/
def brokenProject : Session :=
  sessionWith "modules = ["

/-- The fault of a load that failed. -/
def fault? {α : Type} : Except LoadFault α → Option LoadFault
  | .error fault => some fault
  | .ok _ => none

theorem eq_error_of_fault? {α : Type} {outcome : Except LoadFault α} {fault : LoadFault}
    (h : fault? outcome = some fault) : outcome = .error fault := by
  cases outcome with
  | ok value => cases h
  | error found =>
    cases h
    rfl

end Command

end VirtualImports
