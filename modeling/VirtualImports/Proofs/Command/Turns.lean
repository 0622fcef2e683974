import VirtualImports.Proofs.Command.Endings
import VirtualImports.Proofs.Files.Below
import VirtualImports.Proofs.Files.Growth

/-!
The files of a batch, one turn after the other.

* `turn_rewriteFile`: a file cannot be read, or it is read and rewritten and cannot be written, or it
  is written, unless a message that cannot be drawn ends its turn;
* `course_rewriteFiles`: so a batch has its turns, up to such a message;
* `Moves.writable_iff`: no turn changes which files can be written;
* `moves_of_turns`: turns make directories on the way to their destinations, and write those that
  could be written when the command started;
* `exists_turn`: one turn, with what comes before it and what comes after it;
* `ran_rewrite`: what the command makes of a directory.
-/
namespace VirtualImports

/-! ## Messages -/

theorem Screen.print_append (a b : List Message) (screen : Screen) :
    screen.print (a ++ b) = (screen.print a).print b := by
  simp [print]

theorem Session.print_append (a b : List Message) (session : Session) :
    session.print (a ++ b) = (session.print a).print b := by
  simp [print, Screen.print_append]

/-- Messages that report no error, and show no table. -/
def Harmless (notes : List Message) : Prop :=
  ∀ message ∈ notes, ∃ entry, message = .log entry ∧ entry.level ≠ .error

theorem harmless_nil : Harmless [] :=
  nofun

theorem harmless_singleton {level : Level} (h : level ≠ .error) (text : String) :
    Harmless [.log (level.log text)] := by
  intro message mem
  exact ⟨_, List.mem_singleton.1 mem, h⟩

theorem Harmless.append {first second : List Message} (h : Harmless first)
    (later : Harmless second) : Harmless (first ++ second) := by
  intro message mem
  exact (List.mem_append.1 mem).elim (h message) (later message)

theorem Engine.harmless_run (engine : Engine) (code : List Char) :
    Harmless ((engine.run code).logs.map Message.log) := by
  intro message mem
  obtain ⟨entry, reported, rfl⟩ := List.mem_map.1 mem
  refine ⟨entry, rfl, ?_⟩
  rcases cases_of_mem_logs reported with warning | note
  · rw [warning]
    nofun
  · obtain ⟨_, _, _, _, rfl⟩ := mem_notes.1 note
    nofun

namespace Command

variable {engine : Engine} {session : Session}

/-- What comes of rewriting one file to another: the session after it, and a report. -/
inductive Turn (engine : Engine) (input output : Path) (session : Session) :
    Session → FileReport → Prop
  | unread {message : String} (unreadable : readSource session input = .error message) :
      Turn engine input output session (session.print [.log (readComplaint input message)])
        ⟨false, [message], []⟩
  | unwritten {code : List Char} {rewritten : Rewritten} {notes : List Message}
      {files : FileTree} {error : FileError} (read : readSource session input = .ok code)
      (run : (engine.run code).result = .ok rewritten)
      (writes : session.files.Writes session.cwd output (Text.Utf8.encode rewritten.code)
        (files, some error)) (harmless : Harmless notes) :
      Turn engine input output session
        ({ session with files := files }.print
          (notes ++ [Message.log (writeComplaint output error.message)]))
        ⟨false, [error.message], diagnosticLines rewritten⟩
  | written {code : List Char} {rewritten : Rewritten} {notes : List Message} {files : FileTree}
      (read : readSource session input = .ok code)
      (run : (engine.run code).result = .ok rewritten)
      (writes : session.files.Writes session.cwd output (Text.Utf8.encode rewritten.code)
        (files, none)) (harmless : Harmless notes) :
      Turn engine input output session ({ session with files := files }.print notes)
        ⟨true, [], diagnosticLines rewritten⟩

/-- What a message that cannot be drawn leaves behind: at most the next output, if there is one, has
been written. -/
inductive Halt (next : Option Path) (session : Session) : Session → Prop
  | unwritten (shown : List Message) : Halt next session (session.print shown)
  | written {output : Path} {bytes : List UInt8} {result : FileTree × Option FileError}
      (here : next = some output) (writes : session.files.Writes session.cwd output bytes result)
      (shown : List Message) :
      Halt next session ({ session with files := result.1 }.print shown)

/-- The turns of several files, one after the other. -/
inductive Turns (engine : Engine) (input output : Path) :
    Session → List (List String) → Session → Entries FileReport → Prop
  | nil (session : Session) : Turns engine input output session [] session []
  | cons {session next last : Session} {parts : List String} {rest : List (List String)}
      {report : FileReport} {reports : Entries FileReport}
      (turn : Turn engine (input.below parts) (output.below parts) session next report)
      (later : Turns engine input output next rest last reports) :
      Turns engine input output session (parts :: rest) last
        ((Path.toText ⟨"", parts⟩, report) :: reports)

/-- How far a batch comes: through all of its files, or to a message that cannot be drawn. -/
inductive Course [Markup] (engine : Engine) (input output : Path) (session : Session) :
    List (List String) → Session × Except Crash (Entries FileReport) → Prop
  | through {files : List (List String)} {last : Session} {reports : Entries FileReport}
      (turns : Turns engine input output session files last reports) :
      Course engine input output session files (last, .ok reports)
  | halted {done rest : List (List String)} {now last : Session} {reports : Entries FileReport}
      {message : Message} (turns : Turns engine input output session done now reports)
      (halt : Halt (rest.head?.map output.below) now last)
      (undrawable : message.isDrawable = false) :
      Course engine input output session (done ++ rest) (last, .error (.undrawable message))

theorem Halt.refl (next : Option Path) (session : Session) : Halt next session session := by
  have halt : Halt next session (session.print []) := .unwritten []
  rwa [Session.print_nil] at halt

section
variable [Libraries]

/-- A file that was read and rewritten is delivered, or a message about that cannot be drawn. -/
theorem turn_deliver {input output : Path} {code : List Char} {rewritten : Rewritten}
    {notes : List Message} (named : output.holdsNull = false)
    (read : readSource session input = .ok code) (run : (engine.run code).result = .ok rewritten)
    (harmless : Harmless notes) :
    (∃ next report, deliver input (some output) rewritten (session.print notes) =
        (next, .ok report) ∧ Turn engine input output session next report) ∨
    ∃ next message, deliver input (some output) rewritten (session.print notes) =
        (next, .error (.undrawable message)) ∧
      message.isDrawable = false ∧ Halt (some output) session next := by
  have writes := FileTree.writes_writeBelow session.files session.cwd named
    (Text.Utf8.encode rewritten.code)
  have foreign := FileTree.exists_foreign_writeBelow session.files session.cwd output
    (Text.Utf8.encode rewritten.code)
  rw [deliver]
  rcases written : (session.print notes).files.writeBelow (session.print notes).cwd output
    (Text.Utf8.encode rewritten.code) with ⟨files, _ | error⟩
  · replace written : session.files.writeBelow session.cwd output _ = (files, none) := written
    rw [written] at writes
    have told := Session.tell_cases Except.error
      (if rewritten.changed then [.log (rewroteNote input output)] else [])
      (fun session => (session, .ok (⟨true, [], diagnosticLines rewritten⟩ : FileReport)))
      ({ session with files := files }.print notes)
    have note : Harmless (if rewritten.changed then [.log (rewroteNote input output)] else []) := by
      split
      · exact harmless_singleton (by decide) _
      · exact harmless_nil
    rcases told with ⟨_, told⟩ | ⟨stuck, _, undrawable, told⟩
    · rw [← Session.print_append] at told
      exact .inl ⟨_, _, told, .written read run writes (harmless.append note)⟩
    · rw [← Session.print_append] at told
      exact .inr ⟨_, stuck, told, undrawable, .written rfl writes _⟩
  · replace written : session.files.writeBelow session.cwd output _ = (files, some error) := written
    rw [written] at writes foreign
    have system : error.isSystem = true := by
      rw [← Bool.not_eq_false]
      intro isForeign
      obtain ⟨null, _⟩ := foreign.1 ⟨error, rfl, isForeign⟩
      rw [named] at null
      cases null
    have told := Session.tell_cases Except.error [.log (writeComplaint output error.message)]
      (fun session => (session,
        .ok (⟨false, [error.message], diagnosticLines rewritten⟩ : FileReport)))
      ({ session with files := files }.print notes)
    simp only [system, if_true]
    rcases told with ⟨_, told⟩ | ⟨stuck, _, undrawable, told⟩
    · rw [← Session.print_append] at told
      exact .inl ⟨_, _, told, .unwritten read run writes harmless⟩
    · rw [← Session.print_append] at told
      exact .inr ⟨_, stuck, told, undrawable, .written rfl writes _⟩

/-- **The turn of a file.** It ends in a report, or at a message that cannot be drawn. -/
theorem turn_rewriteFile (sound : engine.configuration.Sound) (session : Session)
    {input output : Path} (named : input.holdsNull = false → output.holdsNull = false) :
    (∃ next report, rewriteFile engine input (some output) session = (next, .ok report) ∧
      Turn engine input output session next report) ∨
    ∃ next message, rewriteFile engine input (some output) session =
        (next, .error (.undrawable message)) ∧
      message.isDrawable = false ∧ Halt (some output) session next := by
  unfold rewriteFile
  split
  · rename_i message unreadable
    rcases session.tell_cases Except.error [.log (readComplaint input message)] fun session =>
      (session, .ok (⟨false, [message], []⟩ : FileReport))
        with ⟨_, told⟩ | ⟨stuck, _, undrawable, told⟩
    · exact .inl ⟨_, _, told, .unread unreadable⟩
    · exact .inr ⟨_, _, told, undrawable, .unwritten _⟩
  · rename_i code read
    have run := Engine.run_eq_ok sound code
    have named := named (holdsNull_of_readSource read)
    have harmless := engine.harmless_run code
    generalize Rewritten.mk _ _ _ = rewritten at run
    simp only [run]
    rcases session.tell_cases Except.error ((engine.run code).logs.map .log)
      (deliver input (some output) rewritten) with ⟨_, told⟩ | ⟨stuck, _, undrawable, told⟩
    · rw [told]
      exact turn_deliver named read run harmless
    · exact .inr ⟨_, _, told, undrawable, .unwritten _⟩

/-- **The course of a batch.** -/
theorem course_rewriteFiles (sound : engine.configuration.Sound) (session : Session)
    (input : Path) {output : Path} (named : output.holdsNull = false)
    (files : List (List String)) :
    Course engine input output session files (rewriteFiles engine input output session files) := by
  induction files generalizing session with
  | nil => exact .through (.nil session)
  | cons parts rest ih =>
    -- What names nothing to write to names nothing to read from, and is not read.
    have plain : (input.below parts).holdsNull = false → (output.below parts).holdsNull = false := by
      intro own
      rw [Path.holdsNull_join, Bool.or_eq_false_iff] at own ⊢
      exact ⟨named, own.2⟩
    rcases turn_rewriteFile sound session plain with
      ⟨next, report, done, turn⟩ | ⟨next, stuck, stopped, undrawable, halt⟩
    · have later := ih next
      simp only [rewriteFiles, done]
      generalize rewriteFiles engine input output next rest = result at later
      cases later with
      | through turns => exact .through (.cons turn turns)
      | halted turns halt undrawable => exact .halted (.cons turn turns) halt undrawable
    · simp only [rewriteFiles, stopped]
      have halted : Course engine input output session ([] ++ parts :: rest) _ :=
        .halted (.nil session) halt undrawable
      exact halted

end

theorem Turns.split {input output : Path} {session last : Session}
    {first second : List (List String)} {reports : Entries FileReport}
    (h : Turns engine input output session (first ++ second) last reports) :
    ∃ next before after, Turns engine input output session first next before ∧
      Turns engine input output next second last after := by
  induction first generalizing session reports with
  | nil => exact ⟨session, [], reports, .nil session, h⟩
  | cons parts first ih =>
    cases h with
    | cons turn later =>
      obtain ⟨next, before, after, early, late⟩ := ih later
      exact ⟨next, _, after, .cons turn early, late⟩

/-! ## Batches -/

/-- Files below one directory, to be rewritten to another. -/
structure IsBatch (session : Session) (input output : Path) (files : List (List String)) : Prop where
  inputNamed : input.holdsNull = false
  outputNamed : output.holdsNull = false
  reached : session.files.Passes (input.start session.cwd) input.parts
  directory : session.files.get? (input.place session.cwd) = some .directory
  holds : ∀ parts ∈ files, session.files.Holds (input.place session.cwd) parts
  nodup : files.Nodup

section Batches

variable {input output : Path} {files done rest : List (List String)} {parts other : List String}
  {place : Location}

namespace IsBatch

/-- Messages are not part of it. -/
theorem print (batch : IsBatch session input output files) (notes : List Message) :
    IsBatch (session.print notes) input output files :=
  ⟨batch.inputNamed, batch.outputNamed, batch.reached, batch.directory, batch.holds, batch.nodup⟩

theorem ne_nil (batch : IsBatch session input output files) (mem : parts ∈ files) : parts ≠ [] :=
  (batch.holds parts mem).ne_nil batch.directory

/-- The way to a file of the batch can be gone. -/
theorem passes (batch : IsBatch session input output files) (mem : parts ∈ files) :
    session.files.Passes ((input.below parts).start session.cwd) (input.below parts).parts := by
  rw [Path.start_below, Path.below_eq]
  exact FileTree.passes_append.2 ⟨batch.reached, (batch.holds parts mem).reached⟩

theorem place_source (batch : IsBatch session input output files) (mem : parts ∈ files) :
    (input.below parts).place session.cwd = input.place session.cwd ++ parts :=
  Path.place_below (batch.holds parts mem).plain

theorem place_destination (batch : IsBatch session input output files) (mem : parts ∈ files) :
    (output.below parts).place session.cwd = output.place session.cwd ++ parts :=
  Path.place_below (batch.holds parts mem).plain

/-- Different files go to different places. -/
theorem eq_of_place (batch : IsBatch session input output files) (mem : parts ∈ files)
    (memOther : other ∈ files)
    (same : (output.below parts).place session.cwd = (output.below other).place session.cwd) :
    parts = other := by
  rw [batch.place_destination mem, batch.place_destination memOther] at same
  exact List.append_cancel_left same

/-- A destination does not lie on the way to that of another file, unless it lies on the way to its
own. -/
theorem notMem_passed (batch : IsBatch session input output files) (mem : parts ∈ files)
    (memOther : other ∈ files)
    (unpassed : (output.below parts).place session.cwd ∉
      (output.below parts).parent.passed session.cwd) :
    (output.below parts).place session.cwd ∉ (output.below other).parent.passed session.cwd := by
  have plain := (batch.holds parts mem).plain
  have plainOther := (batch.holds other memOther).plain
  rw [Path.mem_passed_below (batch.ne_nil mem) plain, not_or] at unpassed
  rw [Path.mem_passed_below (batch.ne_nil memOther) plainOther, not_or]
  refine ⟨unpassed.1, ?_⟩
  rintro ⟨lead, leads, same⟩
  rw [batch.place_destination mem] at same
  obtain rfl := List.append_cancel_left same
  have above : parts <+: other := leads.trans (List.dropLast_prefix other)
  obtain rfl := (batch.holds _ mem).eq_of_isPrefix (batch.holds _ memOther) above
  have shorter := leads.length_le
  have ne := List.length_pos_iff.2 (batch.ne_nil mem)
  rw [List.length_dropLast] at shorter
  omega

end IsBatch

/-- In a list without repetitions, what stands around one of the files is others of them. -/
theorem others_of_nodup {before after : List (List String)}
    (listed : ∀ other ∈ before ++ parts :: after, other ∈ files)
    (nodup : (before ++ parts :: after).Nodup) :
    ∀ other ∈ before ++ after, other ∈ files ∧ other ≠ parts := by
  intro other mem
  constructor
  · refine listed other ?_
    rw [List.mem_append, List.mem_cons]
    exact (List.mem_append.1 mem).imp_right .inr
  · rintro rfl
    exact (List.nodup_cons.1 (List.nodup_middle.1 nodup)).1 mem

/-- Where directories may be made for files. -/
def madeFor (session : Session) (output : Path) (files : List (List String)) (place : Location) :
    Prop :=
  ∃ parts ∈ files, place ∈ (output.below parts).parent.passed session.cwd

/-- Where files are written: the destinations that can be. -/
def writtenFor (session : Session) (output : Path) (files : List (List String))
    (place : Location) : Prop :=
  ∃ parts ∈ files, session.files.Writable session.cwd (output.below parts) ∧
    place = (output.below parts).place session.cwd

/-- A destination is not written for other files. -/
theorem IsBatch.sublist {begun : List (List String)} (batch : IsBatch session input output files)
    (h : begun.Sublist files) : IsBatch session input output begun :=
  ⟨batch.inputNamed, batch.outputNamed, batch.reached, batch.directory,
    fun parts mem => batch.holds parts (h.subset mem), batch.nodup.sublist h⟩

theorem IsBatch.not_writtenFor (batch : IsBatch session input output files) (mem : parts ∈ files)
    (others : ∀ other ∈ done, other ∈ files ∧ other ≠ parts) :
    ¬ writtenFor session output done ((output.below parts).place session.cwd) := by
  rintro ⟨other, memDone, _, same⟩
  obtain ⟨memOther, ne⟩ := others other memDone
  exact ne (batch.eq_of_place mem memOther same).symm

/-- `next` comes out of `session` by the turns of some files. Which destinations can be written is seen
from `start`. -/
structure Moves (start : Session) (output : Path) (done : List (List String))
    (session next : Session) : Prop where
  cwd : next.cwd = session.cwd
  grows : FileTree.Grows (madeFor start output done) (writtenFor start output done) session.files
    next.files

section Moves

variable {start next last : Session}

namespace Moves

theorem refl (start : Session) (output : Path) (session : Session) :
    Moves start output [] session session :=
  ⟨rfl, .refl session.files⟩

theorem mono (moves : Moves start output done session next)
    (more : ∀ parts ∈ done, parts ∈ files) : Moves start output files session next :=
  ⟨moves.cwd, moves.grows.mono (fun _ ⟨parts, mem, made⟩ => ⟨parts, more parts mem, made⟩)
    fun _ ⟨parts, mem, written⟩ => ⟨parts, more parts mem, written⟩⟩

theorem append (first : Moves start output done session next)
    (second : Moves start output rest next last) : Moves start output (done ++ rest) session last := by
  have early := first.mono fun _ => List.mem_append_left rest
  have late := second.mono fun _ => List.mem_append_right done
  exact ⟨late.cwd.trans early.cwd, early.grows.trans late.grows⟩

/-- No turn changes which destinations can be written. -/
theorem writable_iff (reached : Moves start output done start session)
    (batch : IsBatch start input output files) (mem : parts ∈ files)
    (earlier : ∀ other ∈ done, other ∈ files ∧ other ≠ parts) :
    session.files.Writable session.cwd (output.below parts) ↔
      start.files.Writable start.cwd (output.below parts) := by
  have unwritten : ∀ place ∈ FileTree.passed ((output.below parts).start start.cwd)
      (output.below parts).parent.parts, ¬ writtenFor start output done place := by
    rintro place way ⟨other, memDone, writable, rfl⟩
    exact batch.notMem_passed (earlier other memDone).1 mem writable.unpassed way
  have open_ := reached.grows.isOpen_iff unwritten
  have kept (unpassed : (output.below parts).place start.cwd ∉
      (output.below parts).parent.passed start.cwd) :
      session.files.get? ((output.below parts).place start.cwd) = some .directory ↔
        start.files.get? ((output.below parts).place start.cwd) = some .directory := by
    refine reached.grows.directory_iff ?_
    rintro ⟨other, memDone, way⟩
    exact batch.notMem_passed mem (earlier other memDone).1 unpassed way
  rw [reached.cwd]
  constructor
  · rintro ⟨isOpen, short, noDirectory, unpassed⟩
    exact ⟨open_.1 isOpen, short, mt (kept unpassed).2 noDirectory, unpassed⟩
  · rintro ⟨isOpen, short, noDirectory, unpassed⟩
    exact ⟨open_.2 isOpen, short, mt (kept unpassed).1 noDirectory, unpassed⟩

end Moves

/-- Writing a destination makes directories on the way to it, and writes it where it can be written. -/
theorem moves_of_writes {bytes : List UInt8} {result : FileTree × Option FileError}
    (reached : Moves start output done start session) (batch : IsBatch start input output files)
    (mem : parts ∈ files) (earlier : ∀ other ∈ done, other ∈ files ∧ other ≠ parts)
    (writes : session.files.Writes session.cwd (output.below parts) bytes result)
    (messages : List Message) :
    Moves start output [parts] session ({ session with files := result.1 }.print messages) := by
  refine ⟨rfl, writes.grows.mono (fun place way => ?_) fun place isWritten => ?_⟩
  · rw [reached.cwd] at way
    exact ⟨parts, List.mem_singleton_self parts, way⟩
  · obtain ⟨writable, same⟩ := isWritten
    rw [reached.cwd] at same
    exact ⟨parts, List.mem_singleton_self parts,
      (reached.writable_iff batch mem earlier).1 writable, same⟩

/-- A turn writes its destination, or nothing. -/
theorem moves_of_turn {report : FileReport} (reached : Moves start output done start session)
    (batch : IsBatch start input output files) (mem : parts ∈ files)
    (earlier : ∀ other ∈ done, other ∈ files ∧ other ≠ parts)
    (turn : Turn engine (input.below parts) (output.below parts) session next report) :
    Moves start output [parts] session next := by
  cases turn with
  | unread => exact ⟨rfl, .refl _⟩
  | unwritten _ _ writes => exact moves_of_writes reached batch mem earlier writes _
  | written _ _ writes => exact moves_of_writes reached batch mem earlier writes _

/-- A message that cannot be drawn writes the next destination, or nothing. -/
theorem moves_of_halt (reached : Moves start output done start session)
    (batch : IsBatch start input output files) (listed : ∀ parts ∈ done ++ rest, parts ∈ files)
    (nodup : (done ++ rest).Nodup) (halt : Halt (rest.head?.map output.below) session last) :
    Moves start output (rest.take 1) session last := by
  cases halt with
  | unwritten shown => exact ⟨rfl, .refl _⟩
  | written here writes shown =>
    obtain ⟨parts, first, rfl⟩ := Option.map_eq_some_iff.1 here
    obtain ⟨later, rfl⟩ := List.head?_eq_some_iff.1 first
    have earlier : ∀ other ∈ done, other ∈ files ∧ other ≠ parts := fun other early =>
      others_of_nodup listed nodup other (List.mem_append_left later early)
    exact moves_of_writes reached batch (listed parts (by simp)) earlier writes shown

/-- **What a run of turns does.** It makes directories on the way to its destinations, and writes those
that could be written when the command started. -/
theorem moves_of_turns {reports : Entries FileReport}
    (reached : Moves start output done start session) (batch : IsBatch start input output files)
    (listed : ∀ parts ∈ done ++ rest, parts ∈ files) (nodup : (done ++ rest).Nodup)
    (turns : Turns engine input output session rest last reports) :
    Moves start output rest session last := by
  induction turns generalizing done with
  | nil session => exact .refl start output session
  | @cons session next last parts rest report reports turn later ih =>
    have earlier : ∀ other ∈ done, other ∈ files ∧ other ≠ parts := fun other mem =>
      others_of_nodup listed nodup other (List.mem_append_left rest mem)
    have moves := moves_of_turn reached batch (listed parts (by simp)) earlier turn
    have whole : done ++ [parts] ++ rest = done ++ parts :: rest := by simp
    exact moves.append (ih (reached.append moves) (whole ▸ listed) (whole ▸ nodup))

/-- A message that cannot be drawn leaves a batch of the files whose turns have begun. -/
theorem begun_of_halt {reports : Entries FileReport} (batch : IsBatch start input output (done ++ rest))
    (turns : Turns engine input output start done session reports)
    (halt : Halt (rest.head?.map output.below) session last) :
    IsBatch start input output (done ++ rest.take 1) ∧
      Moves start output (rest.take 1) session last := by
  have turned := moves_of_turns (.refl start output start) batch
    (fun _ => List.mem_append_left rest) (List.nodup_append.1 batch.nodup).1 turns
  exact ⟨batch.sublist ((List.take_sublist 1 rest).append_left done),
    moves_of_halt turned batch (fun _ => id) batch.nodup halt⟩

/-- **One turn among others.** What comes before it and what comes after it make directories and write
their own destinations. -/
theorem exists_turn {before after : List (List String)} {reports : Entries FileReport}
    (batch : IsBatch start input output (before ++ parts :: after ++ rest))
    (turns : Turns engine input output start (before ++ parts :: after) session reports)
    (rested : Moves start output rest session last) :
    ∃ now next report, Moves start output before start now ∧
      Turn engine (input.below parts) (output.below parts) now next report ∧
      Moves start output [parts] now next ∧ Moves start output (after ++ rest) next last := by
  have nodup := batch.nodup
  rw [List.append_assoc, List.cons_append] at batch nodup
  have others := others_of_nodup (fun _ => id) nodup
  have started := Moves.refl start output start
  obtain ⟨now, early, late, first, second⟩ := turns.split
  cases second with
  | @cons _ next _ _ _ report _ turn later =>
    have reached : Moves start output before start now :=
      moves_of_turns started batch (fun _ => List.mem_append_left _)
        (List.nodup_append.1 nodup).1 first
    have moves : Moves start output [parts] now next :=
      moves_of_turn reached batch (by simp) (fun other mem => others other
        (List.mem_append_left _ mem)) turn
    have whole : before ++ [parts] ++ after ++ rest = before ++ parts :: (after ++ rest) := by simp
    have turned : Moves start output after next session := by
      refine moves_of_turns (reached.append moves) batch (fun other mem => ?_) ?_ later
      · rw [← whole]
        exact List.mem_append_left rest mem
      · rw [← whole] at nodup
        exact (List.nodup_append.1 nodup).1
    exact ⟨now, next, report, reached, turn, moves, turned.append rested⟩

end Moves

/-! ## The command -/

/-- The endings of the names of source files. -/
def RewriteOptions.suffixes (options : RewriteOptions) : List String :=
  if options.extensions.isEmpty then defaultExtensions else options.extensions

variable {options : RewriteOptions} {extensions : List String}

/-- The sources of a directory are files below it that have one of the suffixes. -/
theorem mem_sources (directory : session.files.isDirectory session.cwd input = true) :
    parts ∈ sources session input extensions ↔
      session.files.Holds (input.place session.cwd) parts ∧
        Path.suffix ⟨"", parts⟩ ∈ extensions := by
  obtain ⟨_, located, _, _⟩ := FileTree.exists_place_of_isDirectory directory
  simp [sources, located, FileTree.mem_filesBelow]

/-- Listed files that are in order are the sources, if their suffixes are. -/
theorem sources_of_sorted {top : Location}
    (located : session.files.locate session.cwd input = .ok top)
    (listed : (session.files.entries.filterMap (session.files.below? top)).eraseDups = files)
    (sorted : files.Pairwise fun a b => (!Path.partsLt b a) = true) :
    sources session input extensions =
      files.filter fun parts => extensions.contains (Path.suffix ⟨"", parts⟩) := by
  simp only [sources, located]
  rw [FileTree.filesBelow, listed, List.mergeSort_of_pairwise sorted]

theorem isBatch_sources (extensions : List String)
    (directory : session.files.isDirectory session.cwd input = true)
    (named : output.holdsNull = false) :
    IsBatch session input output (sources session input extensions) := by
  obtain ⟨inputNamed, located, way, there⟩ := FileTree.exists_place_of_isDirectory directory
  refine ⟨inputNamed, named, way, there, fun parts mem => ((mem_sources directory).1 mem).1, ?_⟩
  rw [sources, located]
  exact (FileTree.nodup_filesBelow _ _).filter _

/-- What is shown after the files of a batch: nothing if there are none. -/
def closing (reports : Entries FileReport) : List Message :=
  if reports = [] then [] else summarize reports

/-- A configuration that loads and has a target makes an engine, and its mapped modules are known. -/
theorem exists_engine {specifiers : List String}
    (listed : ((session.load (options.searchPath session) options.target
      options.configurationFile).toOption.bind (Engine.make? · none)).map
        (fun engine => engine.mapped.map Prod.fst) = some specifiers) :
    ∃ configuration engine, session.load (options.searchPath session) options.target
        options.configurationFile = .ok configuration ∧
      Engine.make? configuration none = some engine ∧ engine.configuration.Sound ∧
      ∀ module ∈ engine.mapped, module.1 ∈ specifiers := by
  obtain ⟨engine, made, mapped⟩ := Option.map_eq_some_iff.1 listed
  obtain ⟨configuration, loaded, made⟩ := Option.bind_eq_some_iff.1 made
  rw [Except.toOption_eq_some] at loaded
  have sound := sound_of_sessionLoad loaded
  rw [← Engine.configuration_of_make? made] at sound
  refine ⟨configuration, engine, loaded, made, sound, fun module mem => ?_⟩
  rw [← mapped]
  exact List.mem_map_of_mem mem

/-- What comes of a directory: all of its sources have their turns, and the command exits with 0; or a
message that cannot be drawn ends it behind some of them. -/
inductive Ran [Markup] (engine : Engine) (input output : Path) (start : Session) :
    List (List String) → Session × Ending → Prop
  | through {files : List (List String)} {notes : List Message} {last : Session}
      {reports : Entries FileReport} (harmless : Harmless notes)
      (turns : Turns engine input output (start.print notes) files last reports) :
      Ran engine input output start files (last.print (closing reports), .exit 0)
  | halted {done rest : List (List String)} {notes : List Message} {now last : Session}
      {reports : Entries FileReport} {message : Message}
      (turns : Turns engine input output (start.print notes) done now reports)
      (halt : Halt (rest.head?.map output.below) now last)
      (undrawable : message.isDrawable = false) :
      Ran engine input output start (done ++ rest) (last, .crash (.undrawable message))

/-- Harmless messages may come first. -/
theorem Ran.of_print [Markup] {notes : List Message} {result : Session × Ending}
    (harmless : Harmless notes) (ran : Ran engine input output (session.print notes) files result) :
    Ran engine input output session files result := by
  cases ran with
  | through later turns =>
    rw [← Session.print_append] at turns
    exact .through (harmless.append later) turns
  | halted turns halt undrawable =>
    rw [← Session.print_append] at turns
    exact .halted turns halt undrawable

/-- Where every message can be drawn, the command exits with 0. -/
theorem Ran.exits [Markup] {result : Session × Ending}
    (ran : Ran engine input output session files result)
    (drawable : ∀ message : Message, message.isDrawable = true) : result.2 = .exit 0 := by
  cases ran with
  | through => rfl
  | halted _ _ undrawable =>
    rw [drawable] at undrawable
    cases undrawable

theorem ran_rewriteDirectory [Libraries] (sound : engine.configuration.Sound) (session : Session)
    (given : options.output = .value output) (named : output.holdsNull = false) :
    Ran engine options.input output session (sources session options.input options.suffixes)
      (rewriteDirectory engine options session) := by
  have value : options.output.value? = some output := by
    rw [given]
    rfl
  generalize listed : sources session options.input options.suffixes = found
  unfold RewriteOptions.suffixes at listed
  simp only [rewriteDirectory, value, listed]
  split
  · rename_i none
    rw [List.isEmpty_iff] at none
    subst none
    have told : Harmless [.log (Level.warning.log ("No source files found in " ++
      options.input.toText))] := harmless_singleton (by decide) _
    have ran : Ran engine options.input output session []
        ((session.warn ("No source files found in " ++ options.input.toText)).print (closing []),
          .exit 0) := .through told (.nil _)
    rw [closing, if_pos rfl, Session.print_nil] at ran
    exact ran
  · rename_i some
    rw [Session.tell_singleton]
    split
    · have course := course_rewriteFiles sound
        (session.print [.log (startNote found.length options.input)]) options.input named found
      generalize rewriteFiles engine options.input output _ found = result at course
      cases course with
      | @through _ last reports turns =>
        have ne : reports ≠ [] := by
          rintro rfl
          cases turns
          exact some rfl
        dsimp only
        unfold Session.finish
        rcases last.tell_cases Ending.crash (summarize reports) fun session => (session, .exit 0)
          with ⟨_, told⟩ | ⟨message, _, undrawable, told⟩
        · have ran := Ran.through (harmless_singleton (by decide) _) turns
          rw [closing, if_neg ne] at ran
          rw [told]
          exact ran
        · have halt : Halt (([] : List (List String)).head?.map output.below) last _ :=
            .unwritten ((summarize reports).takeWhile Message.isDrawable)
          have ran := Ran.halted turns halt undrawable
          rw [List.append_nil] at ran
          rw [told]
          exact ran
      | halted turns halt undrawable => exact .halted turns halt undrawable
    · rename_i undrawable
      have turns : Turns engine options.input output (session.print []) [] session [] := by
        rw [Session.print_nil]
        exact .nil session
      exact .halted turns (.refl (found.head?.map output.below) session)
        (Bool.eq_false_iff.2 undrawable)

/-- A loaded configuration with a target goes on to the directory. -/
theorem rewrite_of_directory [Libraries] {configuration : Configuration}
    (directory : session.files.isDirectory session.cwd options.input = true)
    (loaded : session.load (options.searchPath session) options.target options.configurationFile =
      .ok configuration)
    (made : Engine.make? configuration none = some engine) :
    rewrite options session = rewriteDirectory engine options
      (if configuration.modules.isEmpty then
        session.warn "No virtual modules configured; nothing to rewrite."
      else session) := by
  obtain ⟨_, located, _, there⟩ := FileTree.exists_place_of_isDirectory directory
  have existing : session.files.pathExists session.cwd options.input = true := by
    simp [FileTree.pathExists, FileTree.node?, located, there]
  have noFile : session.files.isFile session.cwd options.input = false := by
    simp [FileTree.isFile, FileTree.node?, located, there]
  have noFileLater (text : String) :
      (session.warn text).files.isFile (session.warn text).cwd options.input = false := noFile
  unfold RewriteOptions.searchPath at loaded
  simp only [rewrite, FileTree.nameTooLong_of_pathExists existing, existing, noFile, rewriteInput,
    loaded, made, Bool.not_true, Bool.false_and, Bool.false_eq_true, if_false]
  split
  · rw [if_neg (ne_true_of_eq_false (noFileLater _))]
  · rw [if_neg (ne_true_of_eq_false noFile)]

/-- What a loaded configuration with a target makes of a directory: its sources are rewritten turn by
turn, up to a message that cannot be drawn. -/
theorem ran_rewrite [Libraries] {configuration : Configuration}
    (directory : session.files.isDirectory session.cwd options.input = true)
    (given : options.output = .value output) (named : output.holdsNull = false)
    (loaded : session.load (options.searchPath session) options.target options.configurationFile =
      .ok configuration)
    (made : Engine.make? configuration none = some engine) :
    Ran engine options.input output session (sources session options.input options.suffixes)
      (rewrite options session) := by
  have sound := sound_of_sessionLoad loaded
  rw [← Engine.configuration_of_make? made] at sound
  rw [rewrite_of_directory directory loaded made]
  split
  · have ran := ran_rewriteDirectory sound
      (session.warn "No virtual modules configured; nothing to rewrite.") given named
    have warned : Harmless [.log (Level.warning.log
      "No virtual modules configured; nothing to rewrite.")] := harmless_singleton (by decide) _
    exact .of_print warned ran
  · exact ran_rewriteDirectory sound session given named

end Batches

end Command

end VirtualImports
