import VirtualImports.Proofs.Configuration.Settings
import VirtualImports.Proofs.Files.Writing
import VirtualImports.Proofs.Rewrite.Success

/-!
Rewriting files with an engine whose passes do not fail.

* `Session.tell_cases`: messages are shown, or shown up to the first that cannot be drawn;
* `settles_deliver`, `settles_rewriteFile`: a file ends in a report, whether or not it could be read and
  written, unless a message about it cannot be drawn;
* `settles_rewriteFiles`: nothing else ends a batch;
* `exits_rewriteSingle`, `exits_rewriteDirectory`: so the command ends with an exit code, or with such a
  message.

The one thing that can go wrong otherwise is a path to write to that names nothing.
-/
namespace VirtualImports

/-- A path that text was read from names something. -/
theorem Command.holdsNull_of_readSource {session : Session} {input : Path} {code : List Char}
    (h : readSource session input = .ok code) : input.holdsNull = false := by
  unfold readSource at h
  split at h
  · cases h
  · exact FileTree.holdsNull_of_read ‹_›

theorem Session.print_nil (session : Session) : session.print [] = session := by
  simp [print, Screen.print]

variable [Libraries]

/-! ## Messages -/

/-- Messages that can all be drawn. -/
def Drawable (messages : List Message) : Prop :=
  ∀ message ∈ messages, message.isDrawable = true

theorem drawable_singleton {message : Message} : Drawable [message] ↔ message.isDrawable = true :=
  List.forall_mem_singleton

/-- Text without closing tags can be drawn at any level. -/
theorem drawable_log {text : String} (plain : ¬ ['[', '/'] <:+: text.toList) (level : Level) :
    Drawable [.log ⟨level, text⟩] := by
  rw [drawable_singleton]
  cases level with
  | warning => rfl
  | info | success | error => exact Markup.isSome_draw? text plain

namespace Session

variable {β : Type} {stop : Crash → β} {messages : List Message} {next : Session → Session × β}
  {session : Session}

theorem tell_of_drawable (drawable : Drawable messages) :
    session.tell stop messages next = next (session.print messages) := by
  have none : messages.find? (fun message => !message.isDrawable) = none := by
    rw [List.find?_eq_none]
    intro message mem
    simp [drawable message mem]
  rw [tell, none]

/-- **Messages are shown up to the first that cannot be drawn.** -/
theorem tell_cases (stop : Crash → β) (messages : List Message) (next : Session → Session × β)
    (session : Session) :
    (Drawable messages ∧ session.tell stop messages next = next (session.print messages)) ∨
      ∃ message ∈ messages, message.isDrawable = false ∧ session.tell stop messages next =
        (session.print (messages.takeWhile Message.isDrawable), stop (.undrawable message)) := by
  cases found : messages.find? fun message => !message.isDrawable with
  | none =>
    rw [List.find?_eq_none] at found
    have drawable : Drawable messages := fun message mem => by simpa using found message mem
    exact .inl ⟨drawable, tell_of_drawable drawable⟩
  | some message =>
    have undrawable := List.find?_some found
    refine .inr ⟨message, List.mem_of_find?_eq_some found, by simpa using undrawable, ?_⟩
    rw [tell, found]

/-- What holds of all that is next, and of a crash, holds when messages are told. -/
theorem tell_imp {P : β → Prop} (messages : List Message) (session : Session)
    (stopped : ∀ message : Message, message.isDrawable = false → P (stop (.undrawable message)))
    (done : ∀ session, P (next session).2) : P (session.tell stop messages next).2 := by
  rcases session.tell_cases stop messages next with ⟨_, told⟩ | ⟨message, _, undrawable, told⟩
  · rw [told]
    exact done _
  · rw [told]
    exact stopped message undrawable

end Session

theorem Session.tell_singleton {β : Type} (stop : Crash → β) (message : Message)
    (next : Session → Session × β) (session : Session) :
    session.tell stop [message] next =
      if message.isDrawable then next (session.print [message])
      else (session, stop (.undrawable message)) := by
  unfold tell
  cases drawable : message.isDrawable with
  | true => simp [drawable]
  | false => simp [drawable, print_nil]

/-! ## Files -/

/-- Work comes to its end, or to a message that cannot be drawn. -/
inductive Settles {α : Type} : Except Crash α → Prop
  | done (value : α) : Settles (.ok value)
  | stopped {message : Message} (undrawable : message.isDrawable = false) :
      Settles (.error (.undrawable message))

/-- A command exits with 0 or 1, or comes to a message that cannot be drawn. -/
inductive Exits : Ending → Prop
  | exit {code : Nat} (le : code ≤ 1) : Exits (.exit code)
  | stopped {message : Message} (undrawable : message.isDrawable = false) :
      Exits (.crash (.undrawable message))

theorem exits_finish {messages : List Message} {code : Nat} (le : code ≤ 1) (session : Session) :
    Exits (session.finish messages code).2 :=
  Session.tell_imp messages session (fun _ => .stopped) fun _ => .exit le

namespace Command

variable {engine : Engine} {session : Session}

theorem settles_deliver {input : Path} {output : Option Path} {rewritten : Rewritten}
    (named : ∀ path ∈ output, path.holdsNull = false) :
    Settles (deliver input output rewritten session).2 := by
  cases output with
  | none => exact .done _
  | some path =>
    rw [deliver]
    split
    · rename_i files error failed
      have system : error.isSystem = true := by
        rw [← Bool.not_eq_false]
        intro foreign
        obtain ⟨null, _⟩ := (FileTree.exists_foreign_writeBelow _ _ _ _).1
          ⟨error, congrArg Prod.snd failed, foreign⟩
        rw [named path rfl] at null
        cases null
      simp only [system, if_true]
      exact Session.tell_imp _ _ (fun _ => .stopped) fun _ => .done _
    · exact Session.tell_imp _ _ (fun _ => .stopped) fun _ => .done _

/-- **A file ends in a report,** if the messages about it can be drawn. -/
theorem settles_rewriteFile (sound : engine.configuration.Sound) (session : Session) {input : Path}
    {output : Option Path}
    (named : input.holdsNull = false → ∀ path ∈ output, path.holdsNull = false) :
    Settles (rewriteFile engine input output session).2 := by
  unfold rewriteFile
  split
  · exact Session.tell_imp _ _ (fun _ => .stopped) fun _ => .done _
  · rename_i code read
    simp only [Engine.run_eq_ok sound code]
    exact Session.tell_imp _ _ (fun _ => .stopped) fun _ =>
      settles_deliver (named (holdsNull_of_readSource read))

/-- **No file ends a batch,** but for a message that cannot be drawn. -/
theorem settles_rewriteFiles (sound : engine.configuration.Sound) (session : Session)
    {input output : Path} (named : output.holdsNull = false) (files : List (List String)) :
    Settles (rewriteFiles engine input output session files).2 := by
  induction files generalizing session with
  | nil => exact .done []
  | cons parts rest ih =>
    -- What names nothing to write to names nothing to read from, and is not read.
    have plain : (input.join ⟨"", parts⟩).holdsNull = false →
        ∀ path ∈ some (output.join ⟨"", parts⟩), path.holdsNull = false := by
      intro own path same
      cases same
      rw [Path.holdsNull_join, Bool.or_eq_false_iff] at own ⊢
      exact ⟨named, own.2⟩
    have file := settles_rewriteFile sound session plain
    rw [rewriteFiles]
    split
    · rename_i crashed
      rw [crashed] at file
      cases file with
      | stopped undrawable => exact .stopped undrawable
    · rename_i next _ _
      have later := ih next
      split
      · rename_i crashed
        rw [crashed] at later
        cases later with
        | stopped undrawable => exact .stopped undrawable
      · exact .done _

variable {options : RewriteOptions}

theorem exits_rewriteSingle (sound : engine.configuration.Sound)
    (named : ∀ path ∈ options.output.value?, path.holdsNull = false) :
    Exits (rewriteSingle engine options session).2 := by
  have file : Settles (rewriteFile engine options.input options.output.value? session).2 :=
    settles_rewriteFile sound session fun _ => named
  unfold rewriteSingle
  split
  · rename_i crashed
    rw [crashed] at file
    cases file with
    | stopped undrawable => exact .stopped undrawable
  · split
    · exact exits_finish (Nat.zero_le 1) _
    · exact .exit (Nat.le_refl 1)

theorem exits_rewriteDirectory (sound : engine.configuration.Sound)
    (named : ∀ path ∈ options.output.value?, path.holdsNull = false) :
    Exits (rewriteDirectory engine options session).2 := by
  unfold rewriteDirectory
  split
  · exact exits_finish (Nat.le_refl 1) session
  rename_i output given
  dsimp only
  generalize sources session options.input
    (if options.extensions.isEmpty then defaultExtensions else options.extensions) = found
  split
  · exact .exit (Nat.zero_le 1)
  refine Session.tell_imp _ _ (fun _ => .stopped) fun next => ?_
  have batch : Settles (rewriteFiles engine options.input output next found).2 :=
    settles_rewriteFiles sound next (named output given) found
  split
  · rename_i crashed
    rw [crashed] at batch
    cases batch with
    | stopped undrawable => exact .stopped undrawable
  · exact exits_finish (Nat.zero_le 1) _

end Command

end VirtualImports
