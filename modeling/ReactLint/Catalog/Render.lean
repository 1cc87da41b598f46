import ReactLint.Context

/-!
# Rules on stable rendering

Props that are new on every render, and keys of lists.
-/

namespace ReactLint.Catalog

open Regex

/-- `=` and an arrow function in braces. -/
def arrowProp : List Regex :=
  word "=" ++ blanks :: word "\x7b" ++ blanks :: word "(" ++ free ")" :: word ")" ++ blanks ::
    word "=>" ++ blanks :: free "\x7d" :: word "\x7d"

def inlineArrowFunctionRegex : Regex :=
  .ofList (.group 1 (oneOf [
      word "on" ++ [.one (among [upperItem]), free "="],
      word "value", word "onChange", word "onClick"]) :: arrowProp)

/-- A prop that is given an arrow function in place. -/
def inlineArrowFunction : Rule where
  id := "B001"
  type := "jsx-inline-arrow-function"
  title := "Inline arrow function in JSX prop (Anonymous functions)"
  why := "A new function instance is created on every render, which prevents memoized child " ++
      "components (like `React.memo`) from optimizing rendering, leading to unnecessary " ++
      "re-renders."
  fix := "Define the function outside the component or use the `useCallback` hook to " ++
      "memoize the function reference."
  severity := .medium
  pattern :=
    { source := "(on[A-Z][^=]*|value|onChange|onClick)=\\s*\\\x7b\\s*\\([^)]*\\)\\s*=>\\s*[^\x7d]*\\\x7d"
      flags := 0
      regex := inlineArrowFunctionRegex
      groupCount := 1 }

def inlineObjectLiteralRegex : Regex :=
  .ofList (.group 1 (oneOf [word "data", word "style", word "options", word "items", word "config",
      word "user", word "settings"]) ::
    word "=" ++ blanks :: word "\x7b" ++ blanks ::
    .group 2 (oneOf [
      word "\x7b" ++ free "\x7d" :: word "\x7d",
      word "[" ++ free "]" :: word "]"]) :: blanks :: word "\x7d")

/-- A prop that is given an object or a list in place. -/
def inlineObjectLiteral : Rule where
  id := "B002"
  type := "jsx-inline-object-literal"
  title := "Inline object/array literal in JSX prop"
  why := "A new object or array instance is created on every render. Even if the content is " ++
      "the same, the reference changes, forcing unnecessary re-renders in memoized child " ++
      "components."
  fix := "Define the object/array outside the component or use the `useMemo` hook to " ++
      "memoize the reference."
  severity := .medium
  pattern :=
    { source := "(data|style|options|items|config|user|settings)=\\s*\\\x7b\\s*(\\\x7b[^\x7d]*\\\x7d|\\[[^\\]]*\\])\\s*\\\x7d"
      flags := 0
      regex := inlineObjectLiteralRegex
      groupCount := 2 }

def arrayIndexKeyRegex : Regex :=
  .ofList (word "key" ++ blanks :: word "=" ++ blanks :: word "\x7b" ++ blanks ::
    .group 1 (oneOf [word "index", word "i"]) :: blanks :: word "\x7d")

def arrayIndexKey : Rule where
  id := "B003"
  type := "jsx-array-index-key"
  title := "Using array index as key in list rendering"
  why := "Using the array index as the `key` prop can cause incorrect behavior and " ++
      "performance issues when the list items are reordered, filtered, or added/removed. " ++
      "React cannot efficiently track the element identities."
  fix := "Use a unique, stable ID from the data itself (e.g., `item.id`). If no stable ID " ++
      "exists, you may need to generate one."
  severity := .high
  pattern :=
    { source := "key\\s*=\\s*\\\x7b\\s*(index|i)\\s*\\\x7d"
      flags := 0
      regex := arrayIndexKeyRegex
      groupCount := 1 }

def memoChildInlineFunctionRegex : Regex :=
  .ofList (.group 1 (.ofList (word "on" ++
      [.one (among [upperItem]), many (among [upperItem, lowerItem, digitItem])])) :: arrowProp)

/-- As `inlineArrowFunction` for handler props, in a text that wraps something in `memo`. -/
def memoChildInlineFunction : Rule where
  id := "B004"
  type := "memo-child-inline-function"
  title := "Inline function passed as prop in a file using React.memo"
  why := "This file relies on `React.memo`, which skips re-renders only when every prop is " ++
      "referentially equal. An inline function is a new reference on each render, so the " ++
      "memoized child re-renders anyway."
  fix := "Wrap the handler in `useCallback` with the correct dependencies, or hoist it out " ++
      "of the component if it does not close over props or state."
  severity := .high
  pattern :=
    { source := "(on[A-Z][A-Za-z0-9]*)=\\s*\\\x7b\\s*\\([^)]*\\)\\s*=>\\s*[^\x7d]*\\\x7d"
      flags := 0
      regex := memoChildInlineFunctionRegex
      groupCount := 1 }
  gate := some (.text Context.memoWrapper)

end ReactLint.Catalog
