import ReactLint.Regex.Basic
import ReactLint.Rule.Basic

/-!
# Rules on components

Components that are not memoised, and calls left over from debugging.
-/

namespace ReactLint.Catalog

open Regex

def memoMissingLargeComponentRegex : Regex :=
  .ofList (word "function" ++ someBlanks :: .group 1 (.ofList [
      .one (among [upperItem]), many (among [lowerItem, upperItem, digitItem])]) ::
    blanks :: word "(" ++ free ")" :: word ")" ++ blanks :: word "\x7b" ++ lazyFree "\x7d" ::
    .group 2 (oneOf [word "useState", word "useEffect"]) :: lazyFree "\x7d" :: word "\x7d" ++
    blanks :: word "export" ++ someBlanks :: word "default" ++ someBlanks :: .backref 1 .exact ::
    blanks :: word ";")

/-- A named component that uses state or effects and is exported bare by the same name. -/
def memoMissingLargeComponent : Rule where
  id := "D001"
  type := "memo-missing-large-component"
  title := "Missing React.memo on potentially large component"
  why := "Components that render complex DOM structures, large lists, or frequently receive " ++
      "unstable props (like inline functions/objects) should be wrapped in `React.memo` to " ++
      "skip unnecessary re-renders when their props have not changed."
  fix := "Wrap the component definition in `React.memo(...)` or consider using `useMemo` if " ++
      "the component uses hooks internally."
  severity := .medium
  pattern :=
    { source := "function\\s+([A-Z][a-zA-Z0-9]*)\\s*\\([^)]*\\)\\s*\\\x7b[^\x7d]*?(useState|useEffect)[^\x7d]*?\\\x7d\\s*export\\s+default\\s+\\1\\s*;"
      flags := 16
      regex := memoMissingLargeComponentRegex
      groupCount := 2 }

def consoleCallRegex : Regex :=
  .ofList (word "console." ++
    .group 1 (oneOf [word "log", word "debug", word "info", word "trace"]) :: blanks :: word "(")

def consoleCall : Rule where
  id := "E001"
  type := "console-call-in-component"
  title := "console call left in component code"
  why := "Logging inside a component body or effect runs on every render or effect pass. It " ++
      "clutters the console and serialising large objects costs time in hot render paths."
  fix := "Remove the call, or guard it behind a development-only flag."
  severity := .info
  pattern :=
    { source := "console\\.(log|debug|info|trace)\\s*\\("
      flags := 0
      regex := consoleCallRegex
      groupCount := 1 }

end ReactLint.Catalog
