import Contention.CommandLine.Options

namespace Contention.CommandLine

def programName : String := "gridlock"

def versionLine : String := programName ++ " 0.1.0\n"

def about : String := "Resource contention harness with deadlock avoidance and detection"

def usageLine : String := "Usage: " ++ programName ++ " [OPTIONS]"

def indent : String := "          "

def Entry.heading (entry : Entry) : String :=
  let short :=
    match entry.short with
    | some letter => "-" ++ String.singleton letter ++ ", "
    | none => "    "
  "  " ++ short ++ entry.usage

def choiceLine (width : Nat) (choice : Choice) : String :=
  let padding := String.ofList (List.replicate (width - choice.text.length) ' ')
  "\n" ++ indent ++ "- " ++ choice.text ++ ": " ++ padding ++ choice.meaning

def Entry.longText (entry : Entry) : String :=
  let choices :=
    if entry.choices.isEmpty then ""
    else
      let width := (entry.choices.map (·.text.length)).foldl max 0
      "\n\n" ++ indent ++ "Possible values:" ++
        String.join (entry.choices.map (choiceLine width))
  let initial :=
    match entry.initial with
    | some value => "\n" ++ indent ++ "\n" ++ indent ++ "[default: " ++ value ++ "]"
    | none => ""
  entry.heading ++ "\n" ++ indent ++ entry.longSummary.getD entry.summary ++ choices ++ initial

def Entry.briefText (width : Nat) (entry : Entry) : String :=
  let initial :=
    match entry.initial with
    | some value => " [default: " ++ value ++ "]"
    | none => ""
  let choices :=
    if entry.choices.isEmpty then ""
    else " [possible values: " ++ ", ".intercalate (entry.choices.map (·.text)) ++ "]"
  let padding := String.ofList (List.replicate (width - entry.heading.length) ' ')
  entry.heading ++ padding ++ "  " ++ entry.summary ++ initial ++ choices

def headingWidth : Nat := (entries.map (·.heading.length)).foldl max 0

def helpPage (long : Bool) : String :=
  let options :=
    if long then "\n\n".intercalate (entries.map Entry.longText)
    else "\n".intercalate (entries.map (Entry.briefText headingWidth))
  about ++ "\n\n" ++ usageLine ++ "\n\nOptions:\n" ++ options ++ "\n"

def errorPage (error : UsageError) : String :=
  let usage :=
    if error.showsUsage then [Text.Piece.plain "\n\n", .apart usageLine] else []
  Text.visiblePage
    ([.apart "error:", .plain " "] ++ error.message ++ usage ++
      [.plain "\n\nFor more information, try '", .apart "--help", .plain "'.\n"])

end Contention.CommandLine
