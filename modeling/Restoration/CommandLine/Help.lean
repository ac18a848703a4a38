/-
What is printed about the command line: the commands, and the options of
each of them.
-/
import Restoration.CommandLine.Reading

namespace Restoration.CommandLine

-- ============================================================== program

/-- The name of the program. -/
def programName : String := "aeneas-serve"

/-- The version of the program. -/
def programVersion : String := "0.1.0"

/-- What the program does. -/
def programAbout : String := "Serve ancient-text restoration over HTTP"

-- ================================================================= lists

/-- Two columns under a title, the second one as far to the left as the
first one lets it. -/
def columns (title : String) (rows : List (String × String)) : String :=
  let width := (rows.map (·.1.length)).foldl max 0
  let row := fun (r : String × String) =>
    "  " ++ r.1 ++
      String.ofList (List.replicate (width - r.1.length + 2) ' ') ++ r.2 ++ "\n"
  title ++ ":\n" ++ String.join (rows.map row)

/-- How an option is listed. -/
def optionRow (i : Item) : String × String :=
  let letter :=
    match i.letter? with
    | some c => s!"-{c}, "
    | none => "    "
  (letter ++ i.display, i.about)

-- ================================================================= pages

/-- The description of the whole. -/
def overview : String :=
  let commands := Verb.all.map fun v => (v.name, v.about)
  programAbout ++ "\n\n" ++ s!"Usage: {programName} <COMMAND>\n\n" ++
    columns "Commands"
      (commands ++
        [(helpName,
          "Print this message or the help of the given subcommand(s)")]) ++
    "\n" ++ columns "Options" (topOptions.map optionRow)

/-- The description of a command. -/
def Verb.description (v : Verb) : String :=
  let about := if v.about = "" then "" else v.about ++ "\n\n"
  let words := v.words.map fun i => " " ++ i.display
  let wordList :=
    if v.words.isEmpty then ""
    else columns "Arguments" (v.words.map fun i => (i.display, i.about)) ++ "\n"
  let options := if v.options = [.help] then "" else " [OPTIONS]"
  about ++ s!"Usage: {programName} {v.name}" ++ options ++ String.join words ++
    "\n\n" ++ wordList ++ columns "Options" (v.options.map optionRow)

/-- The description of what help is asked about. -/
def Topic.description : Topic → String
  | .all => overview
  | .verb v => v.description
  | .help =>
    "Print this message or the help of the given subcommand(s)\n\n" ++
      s!"Usage: {programName} {helpName} [COMMAND]...\n\n" ++
      columns "Arguments" [("[COMMAND]...", "Print help for the subcommand(s)")]

end Restoration.CommandLine
