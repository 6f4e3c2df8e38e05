import PolicyEditor.Error
import PolicyEditor.Pattern.Parser
import PolicyEditor.Text.Blank

/-!
# Configuration of a policy

The file `config` of a policy has lines of the form `key = value;`.  Of all keys only
`ignore_files` has a meaning: a pattern for the names of files and directories that are no part of
the policy.

## Main definitions

* `Config` : the configuration of a policy.
* `Config.parse` : the configuration of a text.
* `Config.ignores` : the names that are left out.
-/

namespace PolicyEditor

/-- The configuration of a policy. -/
structure Config where
  /-- Matches the names of files and directories that are no part of the policy. -/
  ignored : Pattern CharClass
deriving DecidableEq, Repr

namespace Config

/-- The names that are ignored by default: those of files of version control systems and of copies
made by text editors. -/
def defaultIgnored : Pattern.Expression :=
  let anything := .repeated 0 none false (.chars false (.allBut ['\n']))
  .sequence [.edge .start,
    .group (.oneOf [.text "CVS".toList, .text "RCS".toList,
      .sequence [.text ".#".toList, anything], .sequence [anything, .text "~".toList]]),
    .edge .stop]

example : Pattern.Expression.parse? "^(CVS|RCS|\\.#.*|.*~)$" = some defaultIgnored := by
  decide +kernel

/-- The configuration without a setting. -/
def default : Config where
  ignored := defaultIgnored.toPattern

/-- The name is left out. -/
def ignores (config : Config) (name : String) : Bool :=
  config.ignored.occursIn name

/-- The value of a setting: white space around it and one semicolon at its end do not belong to
it. -/
def value (text : List Char) : String :=
  String.ofList (Text.trimEnd (Text.dropLastChar ';' (Text.trim text)))

/-- The configuration after a setting. -/
def assign (config : Config) (key : List Char) (value : String) : Except BadConfig Config :=
  if Text.trim key = "ignore_files".toList then
    match Pattern.parse? value with
    | some ignored => .ok { config with ignored }
    | none => .error .pattern
  else .ok config

/-- The configuration after a line.  Empty lines and comments have no effect. -/
def readLine (config : Config) (line : List Char) : Except BadConfig Config :=
  let line := Text.trim line
  match line with
  | [] | '#' :: _ => .ok config
  | _ =>
    match Text.cutAt? '=' line with
    | some (key, rest) => config.assign key (value rest)
    | none => .error (.line (String.ofList line))

/-- The configuration of a text. -/
def parse (text : String) : Except PolicyError Config :=
  ((Text.fields '\n' text.toList).foldlM readLine default).mapError .config

end Config

end PolicyEditor
