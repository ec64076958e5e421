import Backtest.Shell.Octets

/-!
# Invocations

A shell is started with a command. One that begins with a sign, a minus or a plus, is taken for options:
letters that set them or take them away. Then the command is missing, and the shell tells so; or some
letter is no option.

* `Invocation.Refusal`, what a shell that does not run leaves; `Invocation.refusal?`.
-/

namespace Backtest.Shell.Invocation

/-- What a shell leaves that runs no command. -/
structure Refusal where
  code : Nat
  output : Octets
  errors : Octets

/-- The options by their names, with their letters and whether they are set at first. -/
def options : List (String × Option Char × Bool) :=
  [("allexport", some 'a', false), ("braceexpand", some 'B', true), ("emacs", none, true),
    ("errexit", some 'e', false), ("errtrace", some 'E', false), ("functrace", some 'T', false),
    ("hashall", some 'h', true), ("histexpand", some 'H', false), ("history", none, false),
    ("ignoreeof", none, false), ("interactive-comments", none, true), ("keyword", some 'k', false),
    ("monitor", some 'm', false), ("noclobber", some 'C', false), ("noexec", some 'n', false),
    ("noglob", some 'f', false), ("nolog", none, false), ("notify", some 'b', false),
    ("nounset", some 'u', false), ("onecmd", some 't', false), ("physical", some 'P', false),
    ("pipefail", none, false), ("posix", none, false), ("privileged", some 'p', false),
    ("verbose", some 'v', false), ("vi", none, false), ("xtrace", some 'x', false)]

/-- The letters that are options only when a shell is started. -/
def startLetters : Octets := "cDilOrs".toList

/-- How a shell is started. -/
def usage : List String :=
  ["Usage:\tbash [GNU long option] [option] ...",
    "\tbash [GNU long option] [option] script-file ...", "GNU long options:", "\t--debug", "\t--debugger",
    "\t--dump-po-strings", "\t--dump-strings", "\t--help", "\t--init-file", "\t--login",
    "\t--noediting", "\t--noprofile", "\t--norc", "\t--posix", "\t--pretty-print", "\t--rcfile",
    "\t--restricted", "\t--verbose", "\t--version", "Shell options:",
    "\t-ilrsD or -c command or -O shopt_option\t\t(invocation only)",
    "\t-abefhkmnptuvxBCEHPT or -o option"]

/-- The options that letters changed, the last first. -/
abbrev Changes := List (Char × Bool)

/-- Whether an option is set. -/
def isSet (changes : Changes) (letter : Option Char) (first : Bool) : Bool :=
  (letter.bind fun c => List.lookup c changes).getD first

/-- The options and whether they are set, as a table or as commands. -/
def listing (table : Bool) (changes : Changes) : Octets :=
  options.flatMap fun (name, letter, first) =>
    let set := isSet changes letter first
    let line := if table then
        name ++ String.ofList (List.replicate (15 - name.length) ' ') ++ "\t" ++
          (if set then "on" else "off")
      else "set " ++ (if set then "-o " else "+o ") ++ name
    (line ++ "\n").toList

/-- What letters behind a sign come to. -/
def letters (sign : Char) (changes : Changes) (output : Octets) : Octets → Refusal
  | [] =>
    { code := if isSet changes (some 'e') false then 1 else 2, output
      errors := "bash: -c: option requires an argument\n".toList }
  | c :: cs =>
    if c == 'o' then letters sign changes (output ++ listing (sign == '-') changes) cs
    else if startLetters.contains c then letters sign changes output cs
    else if options.any fun (_, letter, _) => letter == some c then
      letters sign ((c, sign == '-') :: changes) output cs
    else
      let fault := "bash: ".toList ++ [sign, c] ++ ": invalid option\n".toList
      if isSet changes (some 'e') false then { code := 1, output, errors := fault }
      else { code := 2, output, errors := fault ++ usage.flatMap fun l => (l ++ "\n").toList }

/-- What a shell leaves for a command that it takes for options. -/
def refusal? (command : Octets) : Option Refusal :=
  match command with
  | ['-', '-'] => some (letters '-' [] [] [])
  | c :: cs => if c == '-' || c == '+' then some (letters c [] [] cs) else none
  | [] => none

end Backtest.Shell.Invocation
