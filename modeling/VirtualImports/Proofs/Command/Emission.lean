import VirtualImports.Proofs.Command.Turns

/-!
What is shown where one file is rewritten to standard output.

* `Shows`: a step does nothing but show something, and this on standard output;
* `emission_rewriteSingle`: while messages go to standard error, a text shows its rewrite and nothing
  else on standard output;
* `emission_rewriteInput`: so does the command, if it has a configuration and a target;
* `rewrite_emits`: standard output gets the rewritten code or nothing, and the files stay as they
  are;
* `rewrite_breaks_off`: a summary that cannot be drawn ends the command behind the code.
-/
namespace VirtualImports

/-! ## Steps that show something -/

/-- The session with more shown. -/
def Session.showing (added : List (Stream × Message)) (session : Session) : Session :=
  { session with screen := { session.screen with shown := session.screen.shown ++ added } }

/-- The messages on standard output. -/
def onStdout (shown : List (Stream × Message)) : List Message :=
  (shown.filter fun (stream, _) => stream = .stdout).map Prod.snd

theorem mem_onStdout {shown : List (Stream × Message)} {message : Message} :
    message ∈ onStdout shown ↔ (.stdout, message) ∈ shown := by
  simp [onStdout]

/-- A step does nothing but show something, and this on standard output. -/
def Shows (printed : List Message) (session next : Session) : Prop :=
  ∃ added, next = session.showing added ∧ onStdout added = printed

namespace Shows

variable {session next last : Session} {printed more : List Message}

theorem refl (session : Session) : Shows [] session session :=
  ⟨[], by simp [Session.showing], rfl⟩

theorem trans (first : Shows printed session next) (second : Shows more next last) :
    Shows (printed ++ more) session last := by
  obtain ⟨added, rfl, same⟩ := first
  obtain ⟨later, rfl, sameLater⟩ := second
  refine ⟨added ++ later, by simp [Session.showing], ?_⟩
  rw [← same, ← sameLater, onStdout, List.filter_append, List.map_append]
  rfl

theorem active (h : Shows printed session next) : next.screen.active = session.screen.active := by
  obtain ⟨_, rfl, _⟩ := h
  rfl

/-- Messages go to the active stream. -/
theorem print (stderr : session.screen.active = .stderr) (messages : List Message) :
    Shows [] session (session.print messages) := by
  refine ⟨messages.map fun message => (session.screen.active, message), rfl, ?_⟩
  rw [onStdout, List.map_eq_nil_iff, List.filter_eq_nil_iff]
  intro shown mem
  obtain ⟨message, _, rfl⟩ := List.mem_map.1 mem
  simp [stderr]

/-- Code goes to standard output, whatever stream is active. -/
theorem printCode (session : Session) (code : List Char) :
    Shows [.code code] session (session.printCode code) :=
  ⟨[(.stdout, .code code)], rfl, rfl⟩

end Shows

section
variable [Libraries]

/-- How a command ends that shows messages last: with its code if they can all be drawn. -/
inductive Finishes (messages : List Message) (code : Nat) : Ending → Prop
  | shown (drawable : Drawable messages) : Finishes messages code (.exit code)
  | stopped {message : Message} (mem : message ∈ messages)
      (undrawable : message.isDrawable = false) :
      Finishes messages code (.crash (.undrawable message))

theorem Shows.finish {session : Session} (stderr : session.screen.active = .stderr)
    (messages : List Message) (code : Nat) :
    ∃ next ending, session.finish messages code = (next, ending) ∧ Shows [] session next ∧
      Finishes messages code ending := by
  unfold Session.finish
  rcases session.tell_cases Ending.crash messages fun session => (session, .exit code) with
    ⟨drawable, told⟩ | ⟨message, mem, undrawable, told⟩
  · exact ⟨_, _, told, .print stderr _, .shown drawable⟩
  · exact ⟨_, _, told, .print stderr _, .stopped mem undrawable⟩

/-- What an attempt reports is shown, and then what is next is done, if the attempt comes out so. -/
theorem Session.tell_logs {ε α β : Type} (attempt : Attempt ε α) (stop : Crash → β)
    (next : Session → Session × β) (session : Session) :
    (attempt.outcome = attempt.result.mapError .failed ∧
      session.tell stop (attempt.logs.map .log) next =
        next (session.print (attempt.logs.map .log))) ∨
      ∃ entry shown, attempt.outcome = .error (.undrawable entry) ∧
        session.tell stop (attempt.logs.map .log) next =
          (session.print shown, stop (.undrawable (.log entry))) := by
  rcases attempt.outcome_cases with ⟨drawable, outcome⟩ | ⟨entry, found, outcome⟩
  · refine .inl ⟨outcome, tell_of_drawable fun message mem => ?_⟩
    obtain ⟨entry, reported, rfl⟩ := List.mem_map.1 mem
    exact drawable entry reported
  · refine .inr ⟨entry, (attempt.logs.map .log).takeWhile Message.isDrawable, outcome, ?_⟩
    rw [tell, Message.find?_map_log, found]
    rfl

namespace Command

variable {session : Session} {options : RewriteOptions} {engine : Engine} {bytes : List UInt8}
  {code : List Char}

/-! ## One file -/

/-- What is shown last, once a file has been rewritten. -/
def summaryOf (input : Path) (rewritten : Rewritten) : List Message :=
  summarize [(input.name, ⟨true, [], diagnosticLines rewritten⟩)]

theorem rewriteSingle_of_unread {message : String}
    (unread : readSource session options.input = .error message) :
    rewriteSingle engine options session =
      session.finish [.log (readComplaint options.input message)] 1 := by
  simp only [rewriteSingle, rewriteFile, unread, Session.finish, Session.tell_singleton]
  cases (Message.log (readComplaint options.input message)).isDrawable <;> rfl

theorem rewriteSingle_of_read {rewritten : Rewritten} (value : options.output.value? = none)
    (read : readSource session options.input = .ok code)
    (run : (engine.run code).result = .ok rewritten) :
    rewriteSingle engine options session =
      session.tell .crash ((engine.run code).logs.map .log) fun next =>
        (next.printCode rewritten.code).finish (summaryOf options.input rewritten) 0 := by
  simp only [rewriteSingle, rewriteFile, read, run, value, deliver, Session.tell]
  cases ((engine.run code).logs.map Message.log).find? fun message => !message.isDrawable <;> rfl

/-! ## The command -/

/-- What goes to standard output, and how the command ends, by what comes of loading the
configuration and of decoding the file. -/
inductive Emission (input : Path) : Except LoadFault Configuration →
    Except Text.Utf8.Malformed (List Char) → List Message → Ending → Prop
  | unloaded {fault : LoadFault} {decoded : Except Text.Utf8.Malformed (List Char)}
      {ending : Ending} (expected : fault.isExpected = true)
      (finishes : Finishes [.log fault.complaint] 1 ending) :
      Emission input (.error fault) decoded [] ending
  | unexpected {fault : LoadFault} {decoded : Except Text.Utf8.Malformed (List Char)}
      (unexpected : fault.isExpected = false) :
      Emission input (.error fault) decoded [] (.crash (.load fault))
  | untargeted {configuration : Configuration} {decoded : Except Text.Utf8.Malformed (List Char)}
      (noTarget : Engine.make? configuration none = none) :
      Emission input (.ok configuration) decoded [] (.exit 1)
  | malformed {configuration : Configuration} {engine : Engine} {found : Text.Utf8.Malformed}
      {ending : Ending} (made : Engine.make? configuration none = some engine)
      (finishes : Finishes [.log (readComplaint input found.message)] 1 ending) :
      Emission input (.ok configuration) (.error found) [] ending
  | unnoted {configuration : Configuration} {engine : Engine} {code : List Char}
      {note : LogEntry} (made : Engine.make? configuration none = some engine)
      (outcome : (engine.run code).outcome = .error (.undrawable note)) :
      Emission input (.ok configuration) (.ok code) [] (.crash (.undrawable (.log note)))
  | rewritten {configuration : Configuration} {engine : Engine} {code : List Char}
      {rewritten : Rewritten} {ending : Ending}
      (made : Engine.make? configuration none = some engine)
      (outcome : (engine.run code).outcome = .ok rewritten)
      (finishes : Finishes (summaryOf input rewritten) 0 ending) :
      Emission input (.ok configuration) (.ok code) [.code rewritten.code] ending

/-- All that goes to standard output is code. -/
theorem Emission.exists_code {input : Path} {loaded : Except LoadFault Configuration}
    {decoded : Except Text.Utf8.Malformed (List Char)} {printed : List Message} {ending : Ending}
    (h : Emission input loaded decoded printed ending) {message : Message}
    (mem : message ∈ printed) : ∃ text, message = .code text := by
  cases h with
  | unloaded | unexpected | untargeted | malformed | unnoted => cases mem
  | rewritten => exact ⟨_, List.mem_singleton.1 mem⟩

/-- **A text is rewritten, and its rewrite goes to standard output.** A file that is no text is
complained about. -/
theorem emission_rewriteSingle (session : Session) {configuration : Configuration}
    (sound : configuration.Sound) (made : Engine.make? configuration none = some engine)
    (stderr : session.screen.active = .stderr) (unset : options.output = .unset)
    (file : session.files.read session.cwd options.input = .ok bytes) :
    ∃ printed next ending, rewriteSingle engine options session = (next, ending) ∧
      Shows printed session next ∧
      Emission options.input (.ok configuration) (Text.Utf8.decode bytes) printed ending := by
  rw [← Engine.configuration_of_make? made] at sound
  cases decoded : Text.Utf8.decode bytes with
  | error found =>
    have unread : readSource session options.input = .error found.message := by
      simp only [readSource, file, decoded]
    obtain ⟨next, ending, done, shows, finishes⟩ :=
      Shows.finish stderr [.log (readComplaint options.input found.message)] 1
    exact ⟨[], next, ending, (rewriteSingle_of_unread unread).trans done, shows,
      .malformed made finishes⟩
  | ok code =>
    have read : readSource session options.input = .ok code := by
      simp only [readSource, file, decoded]
    have value : options.output.value? = none := by
      rw [unset]
      rfl
    have run := Engine.run_eq_ok sound code
    generalize Rewritten.mk _ _ _ = rewritten at run
    rw [rewriteSingle_of_read value read run]
    rcases session.tell_logs (engine.run code) Ending.crash fun next =>
      (next.printCode rewritten.code).finish (summaryOf options.input rewritten) 0 with
      ⟨outcome, told⟩ | ⟨note, shown, outcome, told⟩
    · have noted := Shows.print stderr ((engine.run code).logs.map .log)
      have shows := noted.trans (.printCode _ rewritten.code)
      obtain ⟨next, ending, done, last, finishes⟩ :=
        Shows.finish (shows.active.trans stderr) (summaryOf options.input rewritten) 0
      rw [run] at outcome
      exact ⟨_, next, ending, told.trans done, shows.trans last, .rewritten made outcome finishes⟩
    · exact ⟨[], _, _, told, .print stderr shown, .unnoted made outcome⟩

/-- **What the command shows while messages go to standard error.** -/
theorem emission_rewriteInput (session : Session) (stderr : session.screen.active = .stderr)
    (unset : options.output = .unset)
    (file : session.files.read session.cwd options.input = .ok bytes)
    (modelled : session.load (options.searchPath session) options.target
      options.configurationFile ≠ .error .loneSurrogate) :
    ∃ printed next ending, rewriteInput options session = (next, ending) ∧
      Shows printed session next ∧
      Emission options.input (session.load (options.searchPath session) options.target
        options.configurationFile) (Text.Utf8.decode bytes) printed ending := by
  have isFile := FileTree.isFile_iff.2 ⟨bytes, file⟩
  cases loaded : session.load (options.searchPath session) options.target
      options.configurationFile with
  | error fault =>
    rw [loaded] at modelled
    rw [rewriteInput_of_fault loaded, endLoad_of_modelled fun same => modelled (congrArg _ same)]
    cases expected : fault.isExpected with
    | true =>
      obtain ⟨next, ending, done, shows, finishes⟩ := Shows.finish stderr [.log fault.complaint] 1
      exact ⟨[], next, ending, done, shows, .unloaded expected finishes⟩
    | false => exact ⟨[], _, _, rfl, .refl session, .unexpected expected⟩
  | ok configuration =>
    have sound := sound_of_sessionLoad loaded
    unfold RewriteOptions.searchPath at loaded
    cases made : Engine.make? configuration none with
    | none =>
      have drawable : Drawable [.log (Level.error.log Engine.noTargetMessage)] :=
        drawable_log (by decide +kernel) .error
      simp only [rewriteInput, loaded, made, Session.finish, Session.tell_of_drawable drawable]
      exact ⟨[], _, _, rfl, .print stderr _, .untargeted made⟩
    | some engine =>
      cases noModules : configuration.modules.isEmpty with
      | true =>
        -- The warning leaves the files as they are, so the input is still one of them.
        have warned := Shows.print stderr
          [.log (Level.warning.log "No virtual modules configured; nothing to rewrite.")]
        obtain ⟨printed, next, ending, done, shows, emission⟩ := emission_rewriteSingle
          (session.warn "No virtual modules configured; nothing to rewrite.") sound made
          stderr unset file
        simp only [rewriteInput, loaded, made, noModules, if_true]
        exact ⟨_, next, ending, (if_pos isFile).trans done, warned.trans shows, emission⟩
      | false =>
        simp only [rewriteInput, loaded, made, noModules, isFile, Bool.false_eq_true, if_false,
          if_true]
        exact emission_rewriteSingle session sound made stderr unset file

/-- **Standard output holds the rewritten code and nothing else.** Let the input be a file, and no
output be given. The command does nothing to the session but show something: no file changes, and
messages go afterwards where they went before, however it ends. On standard output it shows the
rewrite of the file, where the configuration loads, there is a target and the file is a text, and
otherwise nothing. What is no code goes to standard error. It ends with 0 where it shows the rewrite,
and otherwise with 1, or without a code if the load fails as no command expects. A message that cannot
be drawn ends it without a code as well: behind the rewrite if it is the summary, and before it if it is
a note of the pass. What becomes of a configuration with half of a surrogate pair is not told. -/
theorem rewrite_emits (file : session.files.read session.cwd options.input = .ok bytes)
    (unset : options.output = .unset)
    (modelled : session.load (options.searchPath session) options.target
      options.configurationFile ≠ .error .loneSurrogate) :
    ∃ added, (rewrite options session).1 = session.showing added ∧
      (∀ stream message, (stream, message) ∈ added → (∀ text, message ≠ .code text) →
        stream = .stderr) ∧
      Emission options.input (session.load (options.searchPath session) options.target
        options.configurationFile) (Text.Utf8.decode bytes) (onStdout added)
        (rewrite options session).2 := by
  have isFile := FileTree.isFile_iff.2 ⟨bytes, file⟩
  have existing := FileTree.pathExists_of_isFile isFile
  obtain ⟨_, next, ending, done, ⟨added, rfl, rfl⟩, emission⟩ :=
    emission_rewriteInput (session.activate .stderr) rfl unset file modelled
  have whole : rewrite options session = (session.showing added, ending) := by
    simp only [rewrite, FileTree.nameTooLong_of_pathExists existing, existing, isFile, unset, done]
    rfl
  rw [whole]
  refine ⟨added, rfl, fun stream message mem noCode => ?_, emission⟩
  cases stream with
  | stderr => rfl
  | stdout =>
    obtain ⟨text, isCode⟩ := emission.exists_code (mem_onStdout.2 mem)
    exact absurd isCode (noCode text)

end Command

end

namespace Command

/-- A file beside a project file with a routing for `A`. -/
def oneSource (code : String) : Session where
  files := ⟨[(["a.ts"], .file (Text.Utf8.encode code.toList)),
    (["pyproject.toml"], .file (Text.Utf8.encode
      "[tool.magic_imports.modules.ui.targets.react]\nA = 'lib'".toList))]⟩
  cwd := []
  screen := Screen.start

/-- A source with two bindings, of which one has no routing. -/
def dropping : Session :=
  oneSource "import { A, B } from 'virtual:ui';\n"

/-- The rewrite goes to standard output, and the warning and the two messages of the summary do not. -/
theorem rewrite_emits_sample :
    dropping.files.read dropping.cwd rewriteOne.input =
        .ok (Text.Utf8.encode "import { A, B } from 'virtual:ui';\n".toList) ∧
      ∃ added, (@rewrite .plain rewriteOne dropping).1 = dropping.showing added ∧
        added.map Prod.fst = [.stderr, .stdout, .stderr, .stderr] ∧
        onStdout added = [.code "import { A } from 'lib';\n".toList] ∧
        (@rewrite .plain rewriteOne dropping).2 = .exit 0 := by
  have file : dropping.files.read dropping.cwd rewriteOne.input =
      .ok (Text.Utf8.encode "import { A, B } from 'virtual:ui';\n".toList) := rfl
  have modelled : dropping.load (rewriteOne.searchPath dropping) rewriteOne.target
      rewriteOne.configurationFile ≠ .error .loneSurrogate := by
    intro failed
    have loads : (dropping.load (rewriteOne.searchPath dropping) rewriteOne.target
      rewriteOne.configurationFile).isOk = true := by decide +kernel
    rw [failed] at loads
    cases loads
  have shown : (@rewrite .plain rewriteOne dropping).1.screen.shown.map Prod.fst =
      [.stderr, .stdout, .stderr, .stderr] ∧
    onStdout (@rewrite .plain rewriteOne dropping).1.screen.shown =
      [.code "import { A } from 'lib';\n".toList] ∧
    (@rewrite .plain rewriteOne dropping).2 = .exit 0 := by decide +kernel
  obtain ⟨added, session, _, _⟩ :=
    @rewrite_emits .plain _ _ _ file (rfl : rewriteOne.output = .unset) modelled
  rw [session] at shown
  exact ⟨file, added, session, shown⟩

/-- A source whose statement cannot be read, for a comment that holds a closing tag. -/
def tagged : Session :=
  oneSource "import { A /* [/b] */ } from 'virtual:ui'"

/-- The code is printed, and then the summary quotes the statement: the command does not exit with 0. With
a missing configuration file whose name holds a closing tag it does not exit with 1. -/
theorem rewrite_breaks_off :
    tagged.files.read tagged.cwd rewriteOne.input =
        .ok (Text.Utf8.encode "import { A /* [/b] */ } from 'virtual:ui'".toList) ∧
      onStdout (@rewrite .plain rewriteOne tagged).1.screen.shown =
        [.code "import { A /* [/b] */ } from 'virtual:ui'".toList] ∧
      (@rewrite .plain rewriteOne tagged).2 = .crash (.undrawable (.table
        ⟨"Rewrite Report", ["File", "Status", "Issues"],
          [["a.ts", "⚠️ Warnings",
            "unparseable_statement: Illegal character at offset 4: '/* [/b] */'"]]⟩)) ∧
      (@rewrite .plain { rewriteOne with configurationFile := .value ⟨"", ["cfg[", "b].json"]⟩ }
        tagged).2 = .crash (.undrawable (.log (Level.error.log
          "[Errno 2] No such file or directory: 'cfg[/b].json'"))) :=
  ⟨rfl, by decide +kernel, by decide +kernel, by decide +kernel⟩

end Command

end VirtualImports
