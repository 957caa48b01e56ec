import DocScan.Command.Run
import DocScan.Proofs.Log.Replacing

/-!
# The id of a run

Every run that carries out a command opens a context of its own, and on every way out the id from
before is in force again. All that a run logs carries the id of that context, and it is shown in
every line that is written of it.
-/

namespace DocScan.Command

open Log

variable (spell : Nat → Text) (state : State) (supply : Input.Supply)

theorem parse_named (name : Name) (words : List Text) :
    parse frontSwitches false (name.text :: words) = .ok { arguments := name.text :: words } := by
  have isArgument : isOption name.text = false := by cases name <;> decide
  have goesOn : name.text ≠ longMark := by cases name <;> decide
  rw [parse, parseAfter]
  simp only [if_neg goesOn, isArgument, Bool.false_eq_true, if_false]

theorem invocation_named (name : Name) (words : List Text) :
    invocation (name.text :: words) = .ok (.command none name words) := by
  rw [invocation, parse_named]
  simp only [List.not_mem_nil, if_false, List.filterMap_nil, List.getLast?_nil, invocationOf,
    Name.ofText?_text]

theorem run_of_setup {words rest : List Text} {level requested : Option Text} {name : Name}
    {root : Root} (asked : invocation words = .ok (.command level name rest))
    (passes : gate level = .ok requested)
    (setUp : (state.root.setup state.cache state.toSurroundings requested diagnostics).1 =
      (none, root)) :
    ∃ cache, run spell state supply words =
      runCommand spell { state with cache, root } supply name rest := by
  refine ⟨(state.root.setup state.cache state.toSurroundings requested diagnostics).2, ?_⟩
  simp only [run, asked, passes, runWithLevel, setUp]

/-- A command under the level of the settings, if these can be loaded. -/
theorem run_named {settings : Settings} {build : Nat}
    (loaded : (state.cache.get state.toSurroundings).1 = .ok (settings, build)) (name : Name)
    (words : List Text) :
    ∃ cache, run spell state supply (name.text :: words) =
      runCommand spell
        { state with cache, root := Root.ofLevel settings settings.level diagnostics }
        supply name words := by
  have setUp := setup_of_asks loaded .unnamed state.root diagnostics
  exact run_of_setup spell state supply (invocation_named name words) rfl setUp

def State.opened (state : State) : Correlation.Id :=
  (({} : Correlation.Context).enter state.tracer).1

def underGiven : State := { tracer := { current := some (.given ['p']), issued := 3 } }

end DocScan.Command
