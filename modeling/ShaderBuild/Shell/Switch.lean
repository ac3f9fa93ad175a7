import ShaderBuild.Shell.Session

/-! # Options by their names

The options of the extended dialect.  Some of them change what commands do, and have a field of
their own among the settings; the others are only known to be set or not.  There are two families:
those of `set`, of which some have a letter, and those of `shopt`. -/

namespace ShaderBuild.Shell

/-- An option of the extended dialect. -/
structure Switch where
  name : String
  letter : Option Char := none
  isOn : Settings → Bool
  set : Bool → Settings → Settings

namespace Switch

/-- An option that is only known to be set or not. -/
def noted (name : String) (letter : Option Char) : Switch where
  name := name
  letter := letter
  isOn s := s.others.contains name
  set on s :=
    let others := s.others.filter (· != name)
    { s with others := if on then name :: others else others }

/-- The options of `set`, in the order of their names. -/
def family : List Switch :=
  [⟨"allexport", 'a', Settings.exportAll, fun b s => { s with exportAll := b }⟩,
    ⟨"braceexpand", 'B', fun s => !s.noBraces, fun b s => { s with noBraces := !b }⟩,
    noted "emacs" none,
    ⟨"errexit", 'e', Settings.stopAtFailure, fun b s => { s with stopAtFailure := b }⟩,
    ⟨"errtrace", 'E', Settings.failuresInside, fun b s => { s with failuresInside := b }⟩,
    noted "functrace" 'T', noted "hashall" 'h', noted "histexpand" 'H', noted "history" none,
    noted "ignoreeof" none, noted "interactive-comments" none, noted "keyword" 'k',
    noted "monitor" 'm',
    ⟨"noclobber", 'C', Settings.protectFiles, fun b s => { s with protectFiles := b }⟩,
    ⟨"noexec", 'n', Settings.noRun, fun b s => { s with noRun := b }⟩,
    ⟨"noglob", 'f', Settings.noPatterns, fun b s => { s with noPatterns := b }⟩,
    noted "nolog" none, noted "notify" 'b',
    ⟨"nounset", 'u', Settings.unsetIsError, fun b s => { s with unsetIsError := b }⟩,
    noted "onecmd" 't',
    ⟨"physical", 'P', Settings.physicalPaths, fun b s => { s with physicalPaths := b }⟩,
    ⟨"pipefail", none, Settings.anyStageFails, fun b s => { s with anyStageFails := b }⟩,
    noted "posix" none, noted "privileged" 'p',
    ⟨"verbose", 'v', Settings.verbose, fun b s => { s with verbose := b }⟩,
    noted "vi" none,
    ⟨"xtrace", 'x', Settings.trace, fun b s => { s with trace := b }⟩]

/-- The options of `shopt`, in the order of their names. -/
def finerFamily : List Switch :=
  ["autocd", "assoc_expand_once", "cdable_vars", "cdspell", "checkhash", "checkjobs",
    "checkwinsize", "cmdhist", "compat31", "compat32", "compat40", "compat41", "compat42",
    "compat43", "compat44", "complete_fullquote", "direxpand", "dirspell"].map (noted · none)
  ++ [⟨"dotglob", none, Settings.hiddenToo, fun b s => { s with hiddenToo := b }⟩,
    noted "execfail" none,
    ⟨"expand_aliases", none, Settings.aliases, fun b s => { s with aliases := b }⟩,
    noted "extdebug" none,
    ⟨"extglob", none, Settings.groups, fun b s => { s with groups := b }⟩,
    noted "extquote" none,
    ⟨"failglob", none, Settings.failIfNone, fun b s => { s with failIfNone := b }⟩,
    noted "force_fignore" none, noted "globasciiranges" none, noted "globskipdots" none,
    ⟨"globstar", none, Settings.deepStars, fun b s => { s with deepStars := b }⟩]
  ++ ["gnu_errfmt", "histappend", "histreedit", "histverify", "hostcomplete",
    "huponexit"].map (noted · none)
  ++ [⟨"inherit_errexit", none, Settings.inheritsStop, fun b s => { s with inheritsStop := b }⟩,
    noted "interactive_comments" none,
    ⟨"lastpipe", none, Settings.lastStageInside, fun b s => { s with lastStageInside := b }⟩]
  ++ ["lithist", "localvar_inherit", "localvar_unset", "login_shell", "mailwarn",
    "no_empty_cmd_completion"].map (noted · none)
  ++ [⟨"nocaseglob", none, Settings.anyCasePaths, fun b s => { s with anyCasePaths := b }⟩,
    ⟨"nocasematch", none, Settings.anyCase, fun b s => { s with anyCase := b }⟩,
    noted "noexpand_translation" none,
    ⟨"nullglob", none, Settings.emptyIfNone, fun b s => { s with emptyIfNone := b }⟩]
  ++ ["patsub_replacement", "progcomp", "progcomp_alias", "promptvars", "restricted_shell",
    "shift_verbose", "sourcepath", "varredir_close", "xpg_echo"].map (noted · none)

/-- The settings that a shell of the extended dialect starts with. -/
def start : Settings :=
  { others := ["hashall", "interactive-comments", "checkwinsize", "cmdhist", "complete_fullquote",
      "extquote", "force_fignore", "globasciiranges", "globskipdots", "hostcomplete",
      "interactive_comments", "patsub_replacement", "progcomp", "promptvars", "sourcepath"] }

/-- The names of the options of a family that are set, between colons. -/
def names (family : List Switch) (s : Settings) : String :=
  ":".intercalate ((family.filter fun x => x.isOn s).map Switch.name)

/-- An option as listings show it. -/
def line (x : Switch) (s : Settings) : String :=
  x.name ++ String.ofList (List.replicate (15 - x.name.length) ' ') ++ "\t"
    ++ (if x.isOn s then "on" else "off") ++ "\n"

end Switch

end ShaderBuild.Shell
