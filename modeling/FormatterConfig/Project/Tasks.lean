import FormatterConfig.Value.Display

set_option autoImplicit false

/-! # Development tasks

The tasks that check and package the project. A task asks for packages to be installed and commands
to be run, in order; the checks that depend on the version of the interpreter run once for each
supported version. -/

namespace FormatterConfig.Project

/-- What a task asks for. -/
inductive Action where
  | log (message : String)
  | install (arguments : List String)
  | run (arguments : List String)
  deriving DecidableEq

/-- A task. -/
inductive Task where
  | checks
  | lint
  | lintFix
  | formatCheck
  | format
  | propertyTest
  | packageCheck
  deriving DecidableEq

/-- The versions of the interpreter that a task runs with. -/
inductive Interpreters where
  | any
  | running
  | listed (versions : List String)
  deriving DecidableEq

/-- The release of this project. -/
def ownRelease : String := "0.1.0"

/-- The versions that this project supports. -/
def ownVersions : List String := ["3.10", "3.11", "3.12", "3.13"]

/-- The extra with the tools for development. -/
def developmentExtra : String := ".[dev]"

/-- Installs the project and the tools for development. -/
def installTools : Action := .install ["-e", developmentExtra]

namespace Task

/-- The tasks in order. -/
def all : List Task :=
  [.checks, .lint, .lintFix, .formatCheck, .format, .propertyTest, .packageCheck]

/-- The name by which a task is started. -/
def name : Task → String
  | .checks => "qa"
  | .lint => "lint"
  | .lintFix => "lint_fixall"
  | .formatCheck => "format_check"
  | .format => "format"
  | .propertyTest => "property_test"
  | .packageCheck => "package_check"

/-- What a task is for. -/
def description : Task → String
  | .checks => "Run tests + pyright (per Python version)."
  | .lint => "Static analysis."
  | .lintFix => "Run ruff with --fix (auto-fix lint issues)."
  | .formatCheck => "Check code formatting."
  | .format => "Format code (auto-fix)."
  | .propertyTest => "Run the property tests with a larger example budget (developer only)."
  | .packageCheck => "Build sdist/wheel and validate distribution metadata (twine)."

/-- The versions of the interpreter that a task runs with. -/
def interpreters : Task → Interpreters
  | .checks => .listed ownVersions
  | .packageCheck => .running
  | _ => .any

/-- The tasks that run when none is named. -/
def defaults : List Task := [.lint, .formatCheck]

/-- The task with a name. -/
def ofName? (name : String) : Option Task := all.find? fun t => t.name == name

end Task

/-- The tool that makes the tasks' environments. -/
def environmentTool : String := "uv"

/-- What a task did, and why it stopped if it failed. -/
structure TaskRun where
  actions : List Action
  failure : Option String
  deriving DecidableEq

/-- The first part of the checks: the tests, with the arguments of the caller. -/
def testActions (arguments : List String) : List Action :=
  [.log ("Supported Python versions: " ++ ", ".intercalate ownVersions),
    installTools,
    .run (["pytest", "-q", "tests", "-m", "not slow and not hypothesis_slow"] ++ arguments)]

/-- The checks with a version of the interpreter, which has to be a text that is not empty. -/
def runChecks (interpreter : Value) (arguments : List String) : TaskRun :=
  match interpreter.text? with
  | some version =>
    if version = "" then
      ⟨testActions arguments, some ("Unexpected session.python value: " ++ interpreter.display)⟩
    else ⟨testActions arguments ++ [.run ["pyright", "--pythonversion", version]], none⟩
  | none =>
    ⟨testActions arguments, some ("Unexpected session.python value: " ++ interpreter.display)⟩

/-- Runs a task with a version of the interpreter and the arguments of the caller. -/
def Task.run (task : Task) (interpreter : Value) (arguments : List String) : TaskRun :=
  match task with
  | .checks => runChecks interpreter arguments
  | .lint =>
    ⟨[installTools, .run ["ruff", "check", "."],
      .run ["pydoclint", "-q", "src/fourmolu_config", "tests"]], none⟩
  | .lintFix => ⟨[installTools, .run ["ruff", "check", "--fix", "."]], none⟩
  | .formatCheck => ⟨[installTools, .run ["ruff", "format", "--check", "."]], none⟩
  | .format => ⟨[installTools, .run ["ruff", "format", "."]], none⟩
  | .propertyTest =>
    ⟨[installTools,
      .run ["pytest", "-vv", "tests", "-k",
        "associative or identity or total or cover or parses_back",
        "--hypothesis-profile=thorough", "--hypothesis-show-statistics"]], none⟩
  | .packageCheck =>
    ⟨[.install ["build", "twine"],
      .run ["python", "-c", "import shutil; shutil.rmtree('dist', ignore_errors=True)"],
      .run ["python", "-m", "build", "--sdist", "--wheel"],
      .run ["twine", "check", "dist/*"]], none⟩

end FormatterConfig.Project
