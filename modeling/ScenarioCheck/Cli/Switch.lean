import ScenarioCheck.Ordered

/-! The switches of the command line, and its usage. -/
namespace ScenarioCheck.Cli

def programName : String := "step-forge-check"

inductive Switch where
  | help
  | config
  | format
  | output
  | noColor
  | listSteps
  | verbose
  deriving DecidableEq, Inhabited, Repr

namespace Switch

def all : List Switch := [.help, .config, .format, .output, .noColor, .listSteps, .verbose]

/-- How a switch is written: with one dash and a letter, or with two dashes and a word. -/
def spellings : Switch → List String
  | .help => ["-h", "--help"]
  | .config => ["-c", "--config"]
  | .format => ["--format"]
  | .output => ["-o", "--output"]
  | .noColor => ["--no-color"]
  | .listSteps => ["--list-steps"]
  | .verbose => ["-v", "--verbose"]

def shown (s : Switch) : String := "/".intercalate s.spellings

def takesValue : Switch → Bool
  | .config | .format | .output => true
  | .help | .noColor | .listSteps | .verbose => false

def spelled : List (String × Switch) := all.flatMap fun s => s.spellings.map (·, s)

def ofSpelling? (text : String) : Option Switch := Ordered.get? text spelled

example : all.all (fun s => s.spellings.all fun t => ofSpelling? t == some s) := by decide

end Switch

def usage : String :=
  "usage: step-forge-check [-h] [-c CONFIG] [--format \x7bterminal,json\x7d]\n" ++
  "                        [-o OUTPUT] [--no-color] [--list-steps] [-v]\n" ++
  "                        [paths ...]\n"

def help : String :=
  usage ++
  "\n" ++
  "step-forge-check: validate Gherkin scenarios against step-forge step definitions\n" ++
  "\n" ++
  "positional arguments:\n" ++
  "  paths                 Feature files or directories (default: feature-files\n" ++
  "                        from pyproject.toml)\n" ++
  "\n" ++
  "options:\n" ++
  "  -h, --help            show this help message and exit\n" ++
  "  -c CONFIG, --config CONFIG\n" ++
  "                        Path to pyproject.toml\n" ++
  "  --format \x7bterminal,json\x7d\n" ++
  "                        Output format\n" ++
  "  -o OUTPUT, --output OUTPUT\n" ++
  "                        Output file for JSON (default: stdout)\n" ++
  "  --no-color            Disable colored output\n" ++
  "  --list-steps          List the extracted step definitions and exit\n" ++
  "  -v, --verbose         Show debug logging\n"

end ScenarioCheck.Cli
