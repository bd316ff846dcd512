import Mathlib.Data.List.Forall2
import ChatTemplate.CommandLine.Options
import ChatTemplate.Proofs.Trimming
import ChatTemplate.Trace

/-! The custom commands on a command line. Where the arguments are accepted, every value of the option
names a command and gives its text, and no other argument adds a command. -/
namespace ChatTemplate.CommandArguments
open CommandLine Trimming

/-- What stands before a value in the same argument. -/
def marker : String := "--command="

/-- The value that an argument has attached. -/
def attached? (arg : String) : Option String :=
  if marker.toList.isPrefixOf arg.toList then
    some (String.ofList (arg.toList.drop marker.toList.length))
  else none

/-- The values of the option in order, attached or in the next argument. Nothing behind the separator
is an option. -/
def commandValues (waiting : Bool) : List String → List String
  | [] => []
  | arg :: rest =>
    if waiting then arg :: commandValues false rest
    else if arg = "--" then []
    else if arg = "--command" then commandValues true rest
    else (attached? arg).toList ++ commandValues false rest

/-- A value writes a name and a text around its first equals sign. Blanks around the name do not
count, and something else has to be left of it. -/
def Names (value : String) (command : String × String) : Prop :=
  ∃ written, value = written ++ "=" ++ command.2 ∧ '=' ∉ written.toList ∧
    command.1 = Text.trimmed written ∧ command.1 ≠ ""

/-- The values are the commands that have come in, in order. -/
def Gains (before after : Options) (values : List String) : Prop :=
  ∃ commands, after.commands = before.commands ++ commands ∧ List.Forall₂ Names values commands

theorem names_of_readCommand? (read : readCommand? value = some command) : Names value command := by
  unfold readCommand? at read
  split at read
  · next name body cut =>
    obtain ⟨whole, unmarked⟩ := Text.cutAt?_eq_some cut
    split at read
    · cases read
    · next visible =>
      cases read
      refine ⟨String.ofList name, ?_, by simpa using unmarked, by simp [Text.trimmed], ?_⟩
      · rw [← String.ofList_toList (s := value), whole]
        simp [← String.toList_inj]
      · intro empty
        have blank : Blank name := trim_eq_nil_iff.mp (by simpa using empty)
        exact visible (List.all_eq_true.mpr blank)
  · cases read

theorem set_of_once {set : α → Options} (taken : once free value set = .ok options) :
    ∃ a, value = some a ∧ options = set a := by
  unfold once at taken
  split at taken
  · exact ⟨_, rfl, (Except.ok.inj taken).symm⟩
  · cases taken

theorem gains_of_same (same : after.commands = before.commands) : Gains before after [] :=
  ⟨[], by rw [same, List.append_nil], .nil⟩

theorem Gains.trans (first : Gains before middle values) (second : Gains middle after more) :
    Gains before after (values ++ more) := by
  obtain ⟨commands, grown, named⟩ := first
  obtain ⟨others, again, also⟩ := second
  exact ⟨commands ++ others, by rw [again, grown, List.append_assoc], List.rel_append named also⟩

theorem gains_take (taken : options.take option value = .ok next) :
    Gains options next (if option = .command then [value] else []) := by
  cases option with
  | command =>
    simp only [Options.take] at taken
    split at taken
    · next command read =>
      cases taken
      exact ⟨[command], rfl, .cons (names_of_readCommand? read) .nil⟩
    · cases taken
  | text | context | config | waitMs =>
    obtain ⟨_, -, rfl⟩ := set_of_once taken
    exact gains_of_same rfl

theorem gains_takeSource (taken : options.takeSource value = .ok next) : Gains options next [] := by
  obtain ⟨_, -, rfl⟩ := set_of_once taken
  exact gains_of_same rfl

theorem gains_takeVerbose (taken : options.takeVerbose = .ok next) : Gains options next [] := by
  unfold Options.takeVerbose at taken
  split at taken
  · cases taken
  · cases taken
    exact gains_of_same rfl

/-- The option has no letter. -/
theorem ofLetter?_ne (found : Valued.ofLetter? letter = some option) : option ≠ .command := by
  rintro rfl
  unfold Valued.ofLetter? at found
  split at found <;> cases found

theorem gains_letter (found : Valued.ofLetter? letter = some option)
    (taken : options.take option value = .ok next) : Gains options next [] := by
  have gains := gains_take taken
  rwa [if_neg (ofLetter?_ne found)] at gains

theorem gains_takeLetters (taken : takeLetters options letters = .ok next) :
    Gains options next.options [] ∧ next.waiting ≠ some .command := by
  fun_induction takeLetters options letters with
  | case1 options =>
    cases taken
    exact ⟨gains_of_same rfl, nofun⟩
  | case2 options rest ih =>
    obtain ⟨verbose, first, taken⟩ := ok_of_bind taken
    obtain ⟨gains, waiting⟩ := ih _ taken
    exact ⟨(gains_takeVerbose first).trans gains, waiting⟩
  | case3 | case4 | case5 => cases taken
  | case6 options letter _ _ _ option found =>
    cases taken
    exact ⟨gains_of_same rfl, fun same => ofLetter?_ne found (Option.some.inj same)⟩
  | case7 options letter _ _ _ option value found =>
    obtain ⟨attached, first, taken⟩ := ok_of_bind taken
    cases taken
    exact ⟨gains_letter found first, nofun⟩
  | case8 options letter _ _ _ option value _ _ found =>
    obtain ⟨attached, first, taken⟩ := ok_of_bind taken
    cases taken
    exact ⟨gains_letter found first, nofun⟩

theorem ofName?_eq_command_iff : Valued.ofName? name = some .command ↔ name = "command" := by
  unfold Valued.ofName?
  split <;> simp_all

/-- The option by its long name, cut off at the first equals sign. -/
theorem attached?_eq_some_iff (spelled : arg.toList = '-' :: '-' :: written) :
    attached? arg = some value ↔
      Text.cutAt? '=' written = some ("command".toList, value.toList) := by
  constructor
  · intro attached
    unfold attached? at attached
    split at attached
    · next marked =>
      obtain ⟨rest, split⟩ := List.isPrefixOf_iff_prefix.mp marked
      cases attached
      rw [← split] at spelled ⊢
      obtain rfl : "command=".toList ++ rest = written := by simpa [marker] using spelled
      simp [Text.cutAt?]
    · cases attached
  · intro cut
    obtain ⟨whole, -⟩ := Text.cutAt?_eq_some cut
    have split : arg.toList = marker.toList ++ value.toList := by rw [spelled, whole]; rfl
    rw [attached?, if_pos (List.isPrefixOf_iff_prefix.mpr ⟨_, split.symm⟩), split]
    simp

theorem attached?_cut (spelled : arg.toList = '-' :: '-' :: written)
    (cut : Text.cutAt? '=' written = some (name, value)) :
    attached? arg = if String.ofList name = "command" then some (String.ofList value) else none := by
  split
  · next named =>
    rw [attached?_eq_some_iff spelled, cut, ← named]
    simp
  · next other =>
    refine Option.eq_none_iff_forall_ne_some.mpr fun text attached => other ?_
    rw [attached?_eq_some_iff spelled, cut] at attached
    simp only [Option.some.injEq, Prod.mk.injEq] at attached
    rw [attached.1, String.ofList_toList]

theorem attached?_uncut (spelled : arg.toList = '-' :: '-' :: written)
    (uncut : Text.cutAt? '=' written = none) : attached? arg = none := by
  refine Option.eq_none_iff_forall_ne_some.mpr fun text attached => ?_
  rw [attached?_eq_some_iff spelled, uncut] at attached
  cases attached

/-- Of the long options only this one adds commands, and only with its value attached. -/
theorem gains_takeLong (spelled : arg.toList = '-' :: '-' :: written) (other : arg ≠ "--command")
    (taken : takeLong options written = .ok next) :
    Gains options next.options (attached? arg).toList ∧ next.waiting ≠ some .command := by
  unfold takeLong at taken
  split at taken
  · next name value cut =>
    split at taken
    · next option found =>
      obtain ⟨attached, first, taken⟩ := ok_of_bind taken
      cases taken
      have named : String.ofList name = "command" ↔ option = .command := by
        rw [← ofName?_eq_command_iff, found, Option.some.injEq]
      have gains := gains_take first
      rw [attached?_cut spelled cut]
      refine ⟨?_, nofun⟩
      split
      · next known => rwa [if_pos (named.mp known)] at gains
      · next unknown => rwa [if_neg (mt named.mpr unknown)] at gains
    · cases taken
  · next uncut =>
    rw [attached?_uncut spelled uncut]
    split at taken
    · obtain ⟨verbose, first, taken⟩ := ok_of_bind taken
      cases taken
      exact ⟨gains_takeVerbose first, nofun⟩
    · cases taken
    · cases taken
    · split at taken
      · next option found =>
        cases taken
        refine ⟨gains_of_same rfl, ?_⟩
        rintro ⟨⟩
        have known := congrArg String.toList (ofName?_eq_command_iff.mp found)
        rw [String.toList_ofList] at known
        exact other (String.toList_inj.mp (by rw [spelled, known]; rfl))
      · cases taken

theorem of_plain (plain : Argument.of arg = .plain value) :
    value = arg ∧ ¬ ['-', '-'] <+: arg.toList := by
  unfold Argument.of at plain
  split at plain <;> cases plain
  next notMarks notLong _ =>
    refine ⟨rfl, fun ⟨rest, marked⟩ => ?_⟩
    exact notLong rest marked.symm

theorem of_separator (separator : Argument.of arg = .separator) : arg = "--" := by
  unfold Argument.of at separator
  split at separator <;> cases separator
  next spelled => exact String.toList_inj.mp spelled

theorem of_long (long : Argument.of arg = .long written) :
    arg.toList = '-' :: '-' :: written ∧ arg ≠ "--" := by
  unfold Argument.of at long
  split at long <;> cases long
  next notMarks spelled =>
    refine ⟨spelled, ?_⟩
    rintro rfl
    exact notMarks (by simpa using spelled.symm)

theorem of_letters (letters : Argument.of arg = .letters written) : ¬ ['-', '-'] <+: arg.toList := by
  unfold Argument.of at letters
  split at letters <;> cases letters
  next single spelled =>
    rintro ⟨rest, marked⟩
    rw [spelled] at marked
    cases marked
    exact single rfl

/-- Where no value is awaited, only what begins like a long option gives one. -/
theorem commandValues_unmarked (unmarked : ¬ ['-', '-'] <+: arg.toList) (rest : List String) :
    commandValues false (arg :: rest) = commandValues false rest := by
  have separator : arg ≠ "--" := by
    rintro rfl
    exact unmarked ⟨[], rfl⟩
  have option : arg ≠ "--command" := by
    rintro rfl
    exact unmarked ⟨"command".toList, rfl⟩
  have unattached : marker.toList.isPrefixOf arg.toList = false := by
    rw [Bool.eq_false_iff]
    intro marked
    obtain ⟨value, split⟩ := List.isPrefixOf_iff_prefix.mp marked
    exact unmarked ⟨"command=".toList ++ value, split⟩
  simp [commandValues, separator, option, attached?, unattached]

theorem takeLong_command : takeLong options "command".toList = .ok ⟨options, some .command⟩ := rfl

/-- From any state the rest of the arguments adds the commands of its values. -/
theorem gains_readFrom (read : readFrom options waiting ended args = .ok final) :
    Gains options final
      (if ended then [] else commandValues (decide (waiting = some .command)) args) := by
  fun_induction readFrom options waiting ended args with
  | case1 => cases read
  | case2 options waiting ended idle =>
    cases read
    rw [commandValues, ite_self]
    exact gains_of_same rfl
  | case3 options waiting arg rest ih =>
    obtain ⟨next, first, read⟩ := ok_of_bind read
    exact (gains_takeSource first).trans (ih next read)
  | case4 options ended arg rest running option value plain ih =>
    obtain ⟨next, first, read⟩ := ok_of_bind read
    obtain ⟨rfl, unmarked⟩ := of_plain plain
    have gains := (gains_take first).trans (ih next read)
    rw [if_neg running]
    -- The argument is a value of the option if that is the one that was waiting for it.
    by_cases named : option = .command
    · subst named
      exact gains
    · rw [if_neg named] at gains
      rw [decide_eq_false (by simpa using named), commandValues_unmarked unmarked]
      exact gains
  | case5 => cases read
  | case6 options ended arg rest running value plain ih =>
    obtain ⟨next, first, read⟩ := ok_of_bind read
    obtain ⟨rfl, unmarked⟩ := of_plain plain
    rw [if_neg running, decide_eq_false nofun, commandValues_unmarked unmarked]
    exact (gains_takeSource first).trans (ih next read)
  | case7 options ended arg rest running separator ih =>
    rw [if_neg running, of_separator separator]
    exact ih read
  | case8 options ended arg rest running written long ih =>
    obtain ⟨taken, first, read⟩ := ok_of_bind read
    obtain ⟨spelled, apart⟩ := of_long long
    have later := ih taken read
    rw [if_neg running]
    by_cases whole : arg = "--command"
    · subst whole
      obtain rfl : "command".toList = written := by simpa using spelled
      rw [takeLong_command] at first
      cases first
      exact later
    · obtain ⟨gains, waiting⟩ := gains_takeLong spelled whole first
      rw [decide_eq_false waiting] at later
      have values : commandValues false (arg :: rest) =
          (attached? arg).toList ++ commandValues false rest := by
        simp [commandValues, apart, whole]
      rw [decide_eq_false nofun, values]
      exact gains.trans later
  | case9 options ended arg rest running written letters ih =>
    obtain ⟨taken, first, read⟩ := ok_of_bind read
    obtain ⟨gains, waiting⟩ := gains_takeLetters first
    have later := ih taken read
    rw [decide_eq_false waiting] at later
    rw [if_neg running, decide_eq_false nofun, commandValues_unmarked (of_letters letters)]
    exact gains.trans later

/-- The options hold the commands that the values name, in the same order. -/
theorem names_ofArguments (accepted : Options.ofArguments args = .ok options) :
    List.Forall₂ Names (commandValues false args) options.commands := by
  obtain ⟨read, first, checked⟩ := ok_of_bind accepted
  split at checked
  · cases checked
  · cases checked
    obtain ⟨commands, grown, named⟩ := gains_readFrom first
    rw [grown]
    exact named

end ChatTemplate.CommandArguments
