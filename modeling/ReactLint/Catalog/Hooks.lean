import ReactLint.Regex.Basic
import ReactLint.Rule.Basic

/-!
# Rules on hooks

Dependency lists of effects and memoised values, and the initial value of state.
-/

namespace ReactLint.Catalog

open Regex

/-- The arguments of an expression-bodied arrow: no comma, and parentheses one level deep. -/
def arguments : Regex :=
  .loop (oneOf [[.one (noneOf ",()")], word "(" ++ free "()" :: word ")"]) ⟨0, none⟩ .greedy

def useEffectMissingDepsRegex : Regex :=
  .ofList (word "useEffect" ++ blanks :: word "(" ++ blanks :: word "(" ++ blanks :: word ")" ++
    blanks :: word "=>" ++ blanks :: word "\x7b" ++ free "\x7d" :: word "\x7d" ++ blanks ::
    word ")")

/-- An effect without parameters whose call closes right behind its body has no dependency list. -/
def useEffectMissingDeps : Rule where
  id := "A001"
  type := "useEffect-missing-deps"
  title := "Missing dependency array in useEffect"
  why := "This effect runs after every render, potentially causing infinite loops or " ++
      "performance degradation by re-running unnecessary cleanup and setup on every state " ++
      "change."
  fix := "Add an empty dependency array (`[]`) if the effect should only run once, or " ++
      "include all external variables and functions referenced inside the effect."
  severity := .high
  pattern :=
    { source := "useEffect\\s*\\(\\s*\\(\\s*\\)\\s*=>\\s*\\\x7b[^\x7d]*\\\x7d\\s*\\)"
      flags := 0
      regex := useEffectMissingDepsRegex
      groupCount := 0 }

def useMemoMissingDepsRegex : Regex :=
  .ofList (.group 1 (oneOf [word "useMemo", word "useCallback"]) :: blanks :: word "(" ++ blanks ::
    .group 2 (oneOf [
      word "(" ++ free ")" :: word ")" ++ blanks :: word "=>" ++ blanks :: word "\x7b" ++
        free "\x7d" :: word "\x7d",
      word "(" ++ free ")" :: word ")" ++ blanks :: word "=>" ++ [blanks, arguments],
      [free ",()"]]) :: blanks :: word ")")

/-- A memoised value or callback whose only argument is a block-bodied arrow, an expression-bodied
arrow with one level of inner parentheses, or a bare reference has no dependency list. -/
def useMemoMissingDeps : Rule where
  id := "A002"
  type := "useMemo-missing-deps"
  title := "useMemo/useCallback missing dependency array"
  why := "If `useMemo` or `useCallback` is used without a dependency array, it provides no " ++
      "memoization benefit and may even hurt performance slightly due to the overhead of " ++
      "the hook call."
  fix := "Always provide a dependency array (`[]` or `[deps]`). If you do not need " ++
      "memoization, remove the hook."
  severity := .medium
  pattern :=
    { source := "(useMemo|useCallback)\\s*\\(\\s*(\\([^)]*\\)\\s*=>\\s*\\\x7b[^\x7d]*\\\x7d|\\([^)]*\\)\\s*=>\\s*(?:[^,()]|\\([^()]*\\))*|[^,()]*)\\s*\\)"
      flags := 0
      regex := useMemoMissingDepsRegex
      groupCount := 2 }

def useStateInitializerRegex : Regex :=
  .ofList (word "useState(" ++ blanks :: .group 1 (.ofList [
      .one (among [lowerItem, upperItem, .char '_', .char '$']),
      many (among [lowerItem, upperItem, digitItem, .char '_', .char '$'])]) ::
    blanks :: word ")")

/-- State that starts from a bare identifier; cheap values are on the allow-list. -/
def useStateInitializer : Rule where
  id := "A003"
  type := "useState-incorrect-initializer"
  title := "useState slow initializer function"
  why := "If `useState` is initialized with a function instead of a simple value, that " ++
      "function is executed on *every* render, wasting CPU cycles. Initializer functions " ++
      "should only be used for expensive computations."
  fix := "If the initializer is expensive, wrap it in an arrow function (`useState(() => " ++
      "expensiveFunc())`). If it is not expensive, use the value directly " ++
      "(`useState(simpleValue)`)."
  severity := .low
  pattern :=
    { source := "useState\\(\\s*([a-zA-Z_$][a-zA-Z0-9_$]*)\\s*\\)"
      flags := 0
      regex := useStateInitializerRegex
      groupCount := 1 }
  allowList := some (.text "safe_state_initializers")

end ReactLint.Catalog
