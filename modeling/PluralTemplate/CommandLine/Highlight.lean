import PluralTemplate.Dictionary
import PluralTemplate.Numeral
import PluralTemplate.Text.Split

/-!
# Highlighting

Text is highlighted if the environment asks for it, or if the output is taken for a
terminal that is known to have colors. The output of the program is never a terminal, but
the environment can have that overlooked.
-/

set_option autoImplicit false

namespace PluralTemplate.CommandLine

/-- Environment variables by name. -/
abbrev Environment := Dictionary String

namespace Environment

/-- Whether a variable has a value of a certain form. -/
def satisfies (environment : Environment) (name : String) (p : String → Bool) : Bool :=
  (environment.get? name).elim false p

/-- Whether highlighting is asked for in so many words: by a level other than zero. -/
def forcesColor (environment : Environment) : Bool :=
  match environment.get? "FORCE_COLOR" with
  | some "true" => true
  | some "" => true
  | some "false" => false
  | some level =>
    let digits := if level.toList.head? = some '+' then level.toList.tail else level.toList
    !(Numeral.isDigits digits && Numeral.value digits == 0)
  | none => environment.satisfies "CLICOLOR_FORCE" (· != "0")

/-- Whether highlighting is ruled out. -/
def refusesColor (environment : Environment) : Bool :=
  environment.satisfies "NO_COLOR" (· != "0") || environment.satisfies "TERM" (· == "dumb")
    || !environment.satisfies "IGNORE_IS_TERMINAL" (· != "0")

/-- What the names of terminals with colors begin with. -/
def colorTerminalBeginnings : List String :=
  ["screen", "xterm", "vt100", "vt220", "rxvt"]

/-- What the names of terminals with colors contain. -/
def colorTerminalParts : List String := ["color", "ansi", "cygwin", "linux"]

/-- What the names of terminals with many colors end in. -/
def colorTerminalEndings : List String := ["direct", "truecolor", "256", "256color"]

/-- Whether the name of a terminal says that it has colors. -/
def isColorTerminal (name : String) : Bool :=
  colorTerminalBeginnings.any (fun part => part.toList.isPrefixOf name.toList)
    || colorTerminalParts.any (fun part => 1 < (Text.split part name).length)
    || colorTerminalEndings.any (fun part => part.toList.isSuffixOf name.toList)

/-- Variables that services for continuous integration set. -/
def serviceVariables : List String :=
  ["CI_NAME", "GITHUB_ACTION", "GITLAB_CI", "NETLIFY", "TRAVIS", "CODEBUILD_SRC_DIR",
   "BUILDER_OUTPUT", "GITLAB_DEPLOYMENT", "NOW_GITHUB_DEPLOYMENT", "NOW_BUILDER",
   "BITBUCKET_DEPLOYMENT", "GERRIT_PROJECT", "SYSTEM_TEAMFOUNDATIONCOLLECTIONURI",
   "BITRISE_IO", "BUDDY_WORKSPACE_ID", "BUILDKITE", "CIRRUS_CI", "APPVEYOR", "CIRCLECI",
   "SEMAPHORE", "DRONE", "DSARI", "TDDIUM", "STRIDER", "TASKCLUSTER_ROOT_URL",
   "JENKINS_URL", "bamboo.buildKey", "GO_PIPELINE_NAME", "HUDSON_URL", "WERCKER", "MAGNUM",
   "NEVERCODE", "RENDER", "SAIL_CI", "SHIPPABLE"]

/-- Whether the program is run by such a service. -/
def isService (environment : Environment) : Bool :=
  environment.satisfies "CI" (fun value => ["true", "1", "woodpecker"].contains value)
    || serviceVariables.any environment.contains

/-- Whether the terminal is known to have colors. -/
def hasColorTerminal (environment : Environment) : Bool :=
  environment.contains "COLORTERM" || environment.satisfies "TERM" isColorTerminal
    || environment.satisfies "TERM_PROGRAM" (["iTerm.app", "Apple_Terminal"].contains ·)
    || environment.satisfies "CLICOLOR" (· != "0") || environment.isService

/-- Whether text is highlighted when nothing is said on the command line. -/
def wantsColor (environment : Environment) : Bool :=
  environment.forcesColor || (!environment.refusesColor && environment.hasColorTerminal)

/-- The variables that highlighting depends on. -/
def colorVariables : List String :=
  ["FORCE_COLOR", "CLICOLOR_FORCE", "NO_COLOR", "TERM", "IGNORE_IS_TERMINAL", "COLORTERM",
   "TERM_PROGRAM", "CLICOLOR", "CI"] ++ serviceVariables

end Environment

end PluralTemplate.CommandLine
