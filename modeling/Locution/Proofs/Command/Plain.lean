import Locution.Proofs.Command.Reading

/-! # What a command line asks for apart from its form

Some choices only say how a run goes about its task and in which form it speaks: JSON, no colour,
one item after the other, more notes, or the mismatches of a scan only. What they leave of the
arguments are the plain arguments (`Arguments.plain`), which come of what is plain on the two levels
of a command line (`arguments_plain`, `task?_plain`). What is plain on a level is read without
looking at choices of form (`Given.stable_plain`).
-/

namespace Locution.Command

/-- Whether a flag does more than to choose the form. -/
def Flag.isPlain : Flag → Bool
  | .noFallback => true
  | .json | .sequential | .noColour | .mismatches => false

namespace Given

/-- What was given, without the choices of form. -/
def plain (given : Given) : Given :=
  { given with flags := given.flags.filter Flag.isPlain, verbosity := 0 }

/-- Giving a value does not look at choices of form. -/
theorem addValue_plain (given : Given) (setting : Setting) (text : String) :
    given.plain.addValue setting text = (given.addValue setting text).map plain := by
  unfold addValue plain
  by_cases there : given.values.any (·.1 == setting) = true
  · rw [if_pos there, if_pos there]
    rfl
  · rw [if_neg there, if_neg there]
    split <;> rfl

/-- What is pending does not look at choices of form. -/
theorem settle_plain (given : Given) (pending : Pending) :
    given.plain.settle pending = (given.settle pending).map plain := by
  cases pending with
  | nothing => rfl
  | waiting setting => rfl
  | value setting text => exact given.addValue_plain setting text
  | operand kind text =>
      simp only [settle]
      split <;> rfl

/-- A choice of form adds nothing to what is left without them; any other choice adds itself. -/
theorem plain_addFlag {given next : Given} {flag : Flag} (added : given.addFlag flag = .ok next) :
    next.plain = { given.plain with flags := given.plain.flags ++ [flag].filter Flag.isPlain } := by
  unfold addFlag at added
  split at added
  · cases added
  · obtain rfl := Except.ok.inj added
    rw [plain, plain, List.filter_append]

/-- Reading a command line does not look at choices of form. -/
theorem stable_plain : Stable fun first second => first.plain = second.plain where
  settle pending := by
    intro first second firstNext secondNext same firstSettled secondSettled
    dsimp only at firstSettled secondSettled
    have firstPlain := first.settle_plain pending
    have secondPlain := second.settle_plain pending
    rw [firstSettled, same, secondPlain, secondSettled] at firstPlain
    exact (Except.ok.inj firstPlain).symm
  addFlag flag := by
    intro first second firstNext secondNext same firstAdded secondAdded
    rw [plain_addFlag firstAdded, plain_addFlag secondAdded, same]
  addVerbose := .ok fun _ _ same => same

end Given

namespace Task

/-- A task, without the choice of what it shows. -/
def plain : Task → Task
  | .scan corpus _ => .scan corpus false
  | task => task

end Task

namespace Arguments

/-- Arguments, without the choices of form. -/
def plain (arguments : Arguments) : Arguments :=
  { arguments with
    task := arguments.task.plain, json := false, sequential := false, noColour := false,
    verbosity := 0 }

end Arguments

/-- Leaving out the choices of form leaves out no other choice. -/
theorem Given.contains_plain (given : Given) (flag : Flag) (plain : flag.isPlain = true) :
    given.plain.flags.contains flag = given.flags.contains flag := by
  rw [Bool.eq_iff_iff]
  simp only [Given.plain, List.contains_iff_mem, List.mem_filter, plain, and_true]

/-- No choice of form is left when they are left out. -/
theorem Given.contains_plain_form (given : Given) (flag : Flag) (form : flag.isPlain = false) :
    given.plain.flags.contains flag = false := by
  refine Bool.eq_false_iff.mpr fun there => ?_
  have kept := (List.mem_filter.mp (List.contains_iff_mem.mp there)).2
  rw [form] at kept
  cases kept

/-- The task of what is plain is the plain task. -/
theorem task?_plain (word : String) (given : Given) :
    task? word given.plain = (task? word given).map Task.plain := by
  have operands : given.plain.operands = given.operands := rfl
  unfold task?
  rw [operands, given.contains_plain_form .mismatches rfl]
  split <;> rfl

/-- The plain arguments come of what is plain on both levels. -/
theorem arguments_plain (surroundings : Surroundings) (outer inner : Given) (task : Task) :
    (arguments surroundings outer inner task).plain =
      arguments surroundings outer.plain inner.plain task.plain := by
  simp only [arguments, Arguments.plain, Given.contains_plain _ .noFallback rfl,
    Given.contains_plain_form _ .json rfl, Given.contains_plain_form _ .sequential rfl,
    Given.contains_plain_form _ .noColour rfl, Bool.or_self]
  rfl

end Locution.Command
