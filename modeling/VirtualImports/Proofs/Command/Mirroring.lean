import VirtualImports.Command.Plain
import VirtualImports.Proofs.Command.Turns

/-!
What the rewrite of a directory leaves at the destination of a source.

* `readSource_of_grows`: a source reads as before unless it has been written;
* `mirrors_of_turns`: a destination holds the rewrite of what its source held when its turn came;
* `rewrite_mirrors`: that is what the source held when the command started, unless an earlier turn has
  written the source itself, and then it is what that turn wrote;
* `rewrite_overwrites`: a directory that is rewritten to a place inside it may lose a source.
-/
namespace VirtualImports.Command

open Text

variable {engine : Engine} {start now next last : Session} {input output : Path}
  {before after rest : List (List String)} {parts : List String} {reports : Entries FileReport}

/-- A file is read alike after turns that did not write it. -/
theorem readSource_of_grows {path : Path} {made written : Location → Prop} {bytes : List UInt8}
    (cwd : last.cwd = start.cwd) (grows : FileTree.Grows made written start.files last.files)
    (way : start.files.Passes (path.start start.cwd) path.parts)
    (file : start.files.get? (path.place start.cwd) = some (.file bytes))
    (unwritten : ¬ written (path.place start.cwd)) :
    readSource last path = readSource start path := by
  have kept : last.files.get? (path.place start.cwd) = some (.file bytes) :=
    (grows.file_iff unwritten).2 file
  rw [readSource, readSource, cwd,
    FileTree.read_congr (grows.passes way) way (kept.trans file.symm)]

/-- A readable source whose destination can be written is delivered there. -/
theorem Turn.delivers {report : FileReport} {code : List Char}
    (turn : Turn engine input output now next report) (read : readSource now input = .ok code)
    (writable : now.files.Writable now.cwd output) :
    ∃ rewritten, (engine.run code).result = .ok rewritten ∧
      next.files.get? (output.place now.cwd) = some (.file (Utf8.encode rewritten.code)) ∧
      next.files.Passes (output.start now.cwd) output.parts := by
  cases turn with
  | unread unreadable =>
    rw [read] at unreadable
    cases unreadable
  | unwritten _ _ writes => cases writes.done_iff.2 writable
  | written other run writes =>
    rw [read] at other
    cases other
    exact ⟨_, run, writes.file rfl, writes.passes rfl⟩

/-- A path holds the rewrite of a text. -/
def Delivered (engine : Engine) (session : Session) (path : Path) (code : List Char) : Prop :=
  ∃ rewritten, (engine.run code).result = .ok rewritten ∧
    session.files.read session.cwd path = .ok (Utf8.encode rewritten.code)

/-- A path to which a text without statements of mapped modules is delivered holds that text. -/
theorem Delivered.read_of_absent {session : Session} {path : Path} {code : List Char}
    (delivered : Delivered engine session path code) (sound : engine.configuration.Sound)
    (absent : ∀ module ∈ engine.mapped, Statement.find module.1 code = []) :
    session.files.read session.cwd path = .ok (Utf8.encode code) := by
  obtain ⟨rewritten, run, read⟩ := delivered
  rw [Engine.run_of_absent sound absent] at run
  cases run
  exact read

theorem Delivered.readSource_of_absent {session : Session} {path : Path} {code : List Char}
    (delivered : Delivered engine session path code) (sound : engine.configuration.Sound)
    (absent : ∀ module ∈ engine.mapped, Statement.find module.1 code = [])
    (decoded : Utf8.decode (Utf8.encode code) = .ok code) : readSource session path = .ok code := by
  rw [readSource, delivered.read_of_absent sound absent]
  simp only [decoded]

/-- A source is the destination of an earlier one. -/
def Overwritten (session : Session) (input output : Path) (before : List (List String))
    (parts : List String) : Prop :=
  ∃ other ∈ before,
    (output.below other).place session.cwd = (input.below parts).place session.cwd

/-- Neither place is inside the other one. -/
def Separate (a b : Location) : Prop :=
  ¬ a <+: b ∧ ¬ b <+: a

/-- What names nothing below one directory names nothing below another one. -/
theorem IsBatch.holdsNull_destination {files : List (List String)}
    (batch : IsBatch start input output files) {code : List Char}
    (read : readSource now (input.below parts) = .ok code) :
    (output.below parts).holdsNull = false := by
  have own := holdsNull_of_readSource read
  rw [Path.holdsNull_join, Bool.or_eq_false_iff] at own ⊢
  exact ⟨batch.outputNamed, own.2⟩

/-- Only a directory inside another one or around it comes to hold sources of that one. -/
theorem IsBatch.ne_source {files : List (List String)} {other : List String}
    (batch : IsBatch start input output files)
    (separate : Separate (output.place start.cwd) (input.place start.cwd)) (memOther : other ∈ files)
    (mem : parts ∈ files) :
    (output.below other).place start.cwd ≠ (input.below parts).place start.cwd := by
  intro same
  have inside := List.prefix_append (output.place start.cwd) other
  rw [← batch.place_destination memOther, same, batch.place_source mem] at inside
  rcases List.prefix_or_prefix_of_prefix inside (List.prefix_append _ parts) with h | h
  · exact separate.1 h
  · exact separate.2 h

/-- Where the output is the input, or neither is inside the other one, sources are kept until their
turns come. -/
theorem IsBatch.not_overwritten (batch : IsBatch start input output (before ++ parts :: after))
    (outside : output.place start.cwd = input.place start.cwd ∨
      Separate (output.place start.cwd) (input.place start.cwd)) :
    ¬ Overwritten start input output before parts := by
  rintro ⟨other, memOther, same⟩
  rcases outside with itself | separate
  · rw [batch.place_destination (by simp [memOther]), batch.place_source (by simp), itself] at same
    obtain rfl := List.append_cancel_left same
    exact (List.nodup_append.1 batch.nodup).2.2 other memOther other (by simp) rfl
  · exact batch.ne_source separate (by simp [memOther]) (by simp) same

/-- A source reads as at the start, unless its place was an earlier one's destination. -/
theorem readSource_of_moves {files done : List (List String)}
    (reached : Moves start output done start now) (batch : IsBatch start input output files)
    (mem : parts ∈ files) (kept : ¬ Overwritten start input output done parts) :
    readSource now (input.below parts) = readSource start (input.below parts) := by
  obtain ⟨bytes, file⟩ := (batch.holds parts mem).file
  rw [← batch.place_source mem] at file
  refine readSource_of_grows reached.cwd reached.grows (batch.passes mem) file ?_
  rintro ⟨other, memOther, _, same⟩
  exact kept ⟨other, memOther, same.symm⟩

/-- A source that was an earlier one's destination reads as it does in the end. -/
theorem readSource_of_overwritten
    (batch : IsBatch start input output (before ++ parts :: after))
    (reached : Moves start output before start now)
    (rest : Moves start output (parts :: after) now last)
    (overwritten : Overwritten start input output before parts) :
    readSource last (input.below parts) = readSource now (input.below parts) := by
  obtain ⟨other, memOther, same⟩ := overwritten
  have mem : parts ∈ before ++ parts :: after := by simp
  obtain ⟨bytes, file⟩ := (batch.holds parts mem).file
  rw [← batch.place_source mem] at file
  obtain ⟨_, fileNow⟩ := reached.grows.file file
  have way := reached.grows.passes (batch.passes mem)
  have others : ∀ again ∈ parts :: after, again ∈ before ++ parts :: after ∧ again ≠ other :=
    fun again later => ⟨List.mem_append_right _ later,
      ((List.nodup_append.1 batch.nodup).2.2 other memOther again later).symm⟩
  have unwritten := batch.not_writtenFor (List.mem_append_left _ memOther) others
  rw [same] at unwritten
  rw [← reached.cwd] at way fileNow unwritten
  exact readSource_of_grows rest.cwd rest.grows way fileNow unwritten

/-- What the destination of a source holds in the end: the rewrite of what the source held at the start,
or of what it holds in the end if its place was an earlier one's destination. -/
structure Mirrors (engine : Engine) (start last : Session) (input output : Path)
    (before : List (List String)) (parts : List String) : Prop where
  kept : ¬ Overwritten start input output before parts →
    ∀ code, readSource start (input.below parts) = .ok code →
      Delivered engine last (output.below parts) code
  overwritten : Overwritten start input output before parts →
    ∀ code, readSource last (input.below parts) = .ok code →
      Delivered engine last (output.below parts) code

/-- **The turn of a source.** Its destination comes to hold the rewrite of what it held when its turn
came. -/
theorem mirrors_of_turns (batch : IsBatch start input output (before ++ parts :: after ++ rest))
    (turns : Turns engine input output start (before ++ parts :: after) next reports)
    (rested : Moves start output rest next last)
    (writable : start.files.canWrite start.cwd (output.below parts) = true) :
    Mirrors engine start last input output before parts := by
  obtain ⟨now, turned, report, reached, turn, moves, later⟩ := exists_turn batch turns rested
  rw [List.append_assoc, List.cons_append] at batch
  have mem : parts ∈ before ++ parts :: (after ++ rest) := by simp
  have others := others_of_nodup (fun _ => id) batch.nodup
  -- the destination is written in this turn, and not again
  have delivered (code : List Char) (read : readSource now (input.below parts) = .ok code) :
      Delivered engine last (output.below parts) code := by
    have writes := (FileTree.canWrite_iff (batch.holdsNull_destination read)).1 writable
    have writableNow := (reached.writable_iff batch mem fun other early =>
      others other (List.mem_append_left _ early)).2 writes
    obtain ⟨rewritten, run, file, way⟩ := turn.delivers read writableNow
    have cwd : now.cwd = start.cwd := reached.cwd
    rw [cwd] at file way
    have unwritten := batch.not_writtenFor mem fun other late =>
      others other (List.mem_append_right before late)
    refine ⟨rewritten, run, ?_⟩
    rw [later.cwd, moves.cwd, cwd,
      FileTree.read_eq_ok (batch.holdsNull_destination read) (later.grows.passes way)]
    exact (later.grows.file_iff unwritten).2 file
  constructor
  · intro kept code read
    exact delivered code ((readSource_of_moves reached batch mem kept).trans read)
  · intro overwritten code read
    refine delivered code (Eq.trans ?_ read)
    exact (readSource_of_overwritten batch reached (moves.append later) overwritten).symm

/-- What has been shown before is no matter. -/
theorem Mirrors.of_print {notes : List Message}
    (h : Mirrors engine (start.print notes) last input output before parts) :
    Mirrors engine start last input output before parts :=
  ⟨h.kept, h.overwritten⟩

/-- A source among the first files of a batch comes behind the same ones there. -/
theorem exists_split_of_mem {done : List (List String)}
    (nodup : (before ++ parts :: after).Nodup) (same : before ++ parts :: after = done ++ rest)
    (mem : parts ∈ done) : ∃ between, done = before ++ parts :: between ∧ after = between ++ rest := by
  have fresh : parts ∉ before := fun early =>
    (List.nodup_append.1 nodup).2.2 parts early parts List.mem_cons_self rfl
  rcases List.append_eq_append_iff.1 same with ⟨between, rfl, split⟩ | ⟨between, rfl, _⟩
  · cases between with
    | nil =>
      rw [List.append_nil] at mem
      exact absurd mem fresh
    | cons first between =>
      obtain ⟨rfl, rfl⟩ := List.cons.inj split
      exact ⟨between, rfl, rfl⟩
  · exact absurd (List.mem_append_left between mem) fresh

/-! ## The command -/

section
variable [Libraries] {options : RewriteOptions} {session : Session} {configuration : Configuration}

/-- A source whose destination can be written is mirrored there, unless a message that cannot be drawn ends
the command before its turn is over. -/
theorem mirrors_of_rewrite (directory : session.files.isDirectory session.cwd options.input = true)
    (given : options.output = .value output) (named : output.holdsNull = false)
    (loaded : session.load (options.searchPath session) options.target options.configurationFile =
      .ok configuration)
    (made : Engine.make? configuration none = some engine)
    (split : sources session options.input options.suffixes = before ++ parts :: after)
    (writable : session.files.canWrite session.cwd (output.below parts) = true) :
    Mirrors engine session (rewrite options session).1 options.input output before parts ∨
      ∃ done rest message, before ++ parts :: after = done ++ rest ∧ parts ∉ done ∧
        message.isDrawable = false ∧ (rewrite options session).2 = .crash (.undrawable message) := by
  have ran := ran_rewrite directory given named loaded made
  have batch := isBatch_sources options.suffixes directory named
  rw [split] at ran batch
  generalize rewrite options session = result at ran
  generalize whole : before ++ parts :: after = files at ran
  cases ran with
  | @through _ notes last reports harmless turns =>
    subst whole
    have noted := batch.print notes
    rw [← List.append_nil (before ++ parts :: after)] at noted
    have rested : Moves (session.print notes) output [] last (last.print (closing reports)) :=
      ⟨rfl, .refl _⟩
    exact .inl (mirrors_of_turns noted turns rested writable).of_print
  | @halted done rest notes now last reports message turns halt undrawable =>
    by_cases mem : parts ∈ done
    · obtain ⟨between, rfl, rfl⟩ := exists_split_of_mem batch.nodup whole mem
      rw [whole] at batch
      obtain ⟨begun, rested⟩ := begun_of_halt (batch.print notes) turns halt
      exact .inl (mirrors_of_turns begun turns rested writable).of_print
    · exact .inr ⟨done, rest, message, rfl, mem, undrawable, rfl⟩

end

/-- A directory with a source `a.ts`, and with another one of this name in a directory `out`. -/
def nested : Session where
  files := ⟨[
    (["pyproject.toml"],
      .file (Utf8.encode "[tool.magic_imports.modules.ui.targets]\nreact = 'lib'".toList)),
    (["src"], .directory),
    (["src", "a.ts"], .file (Utf8.encode "let a".toList)),
    (["src", "out"], .directory),
    (["src", "out", "a.ts"], .file (Utf8.encode "let b".toList))]⟩
  cwd := []
  screen := Screen.start

/-- The directory is rewritten to `out`. -/
def intoItself : RewriteOptions :=
  ⟨⟨"", ["src"]⟩, .value ⟨"", ["src", "out"]⟩, .value "react", .unset, []⟩

theorem sources_nested :
    sources nested intoItself.input intoItself.suffixes = [["a.ts"], ["out", "a.ts"]] := by
  have located : nested.files.locate nested.cwd intoItself.input = .ok ["src"] := by decide +kernel
  have listed : (nested.files.entries.filterMap (nested.files.below? ["src"])).eraseDups =
      [["a.ts"], ["out", "a.ts"]] := by decide +kernel
  rw [sources_of_sorted located listed (by decide +kernel)]
  decide +kernel

/-- Its configuration maps one module, which is not located in its sources. -/
theorem exists_engine_nested :
    ∃ configuration engine, nested.load (intoItself.searchPath nested) intoItself.target
        intoItself.configurationFile = .ok configuration ∧
      Engine.make? configuration none = some engine ∧ engine.configuration.Sound ∧
      ∀ code ∈ ["let a".toList, "let b".toList], ∀ module ∈ engine.mapped,
        Statement.find module.1 code = [] := by
  have listed : ((nested.load (intoItself.searchPath nested) intoItself.target
      intoItself.configurationFile).toOption.bind (Engine.make? · none)).map
        (fun engine => engine.mapped.map Prod.fst) = some ["virtual:ui"] := by decide +kernel
  obtain ⟨configuration, engine, loaded, made, sound, mapped⟩ := exists_engine listed
  refine ⟨configuration, engine, loaded, made, sound, fun code listed module mem => ?_⟩
  rw [List.mem_singleton.1 (mapped module mem)]
  simp only [List.mem_cons, List.not_mem_nil, or_false] at listed
  rcases listed with rfl | rfl <;> decide +kernel

/-- As `Libraries.plain`, but text that it cannot draw is shown as it stands. -/
@[reducible]
def lenient : Libraries where
  draw? text := some ((Tags.draw? text).getD text.toList)
  isSome_draw? _ _ := rfl
  wording _ := ""

theorem isDrawable_lenient (message : Message) :
    @Message.isDrawable lenient.toMarkup message = true := by
  cases message with
  | log entry =>
    obtain ⟨level, text⟩ := entry
    cases level <;> rfl
  | line text => rfl
  | table report => exact List.all_eq_true.2 fun _ _ => rfl
  | code text => rfl

theorem rewrite_nested_exits : (@rewrite lenient intoItself nested).2 = .exit 0 := by
  obtain ⟨configuration, engine, loaded, made, _⟩ := exists_engine_nested
  have ran := @ran_rewrite engine nested ⟨"", ["src", "out"]⟩ intoItself lenient configuration
    (by decide +kernel) rfl (by decide) loaded made
  exact @Ran.exits _ _ _ _ _ lenient.toMarkup _ ran isDrawable_lenient

end VirtualImports.Command
