import ChatTemplate.CommandLine.Outcome

/-! The program: it reads the files that its arguments name and prints the outcome. -/
namespace ChatTemplate.CommandLine

/-- Every file that options can name. -/
def Options.fileNames (options : Options) : List String :=
  [options.config.getD standardConfigName] ++ options.source.toList ++ options.context.toList

/-- The text of a file, or why there is none. A report of the wrong type names the file where it could
not be opened; a directory opens and has no name in the report. -/
def readText (name : String) : IO (Except FileFault String) := do
  try
    return .ok (← IO.FS.readFile name)
  catch
    | .noFileOrDirectory .. => return .error .notFound
    | .inappropriateType (some _) .. => return .error .notADirectory
    | .inappropriateType none .. => return .error .isADirectory
    | _ => return .error .notText

end ChatTemplate.CommandLine

open ChatTemplate CommandLine in
def main (args : List String) : IO UInt32 := do
  let names := match Options.ofArguments args with
    | .ok options => options.fileNames
    | .error _ => []
  let found ← names.mapM fun name => return (name, ← readText name)
  let files : Files := fun name => (found.lookup name).getD (.error .notFound)
  let outcome := CommandLine.run files args
  (← IO.getStdout).putStr outcome.output
  (← IO.getStderr).putStr outcome.errors
  return outcome.code.toUInt32
