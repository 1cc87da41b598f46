import ReactLint.Disk.Basic
import ReactLint.Pattern.Parser
import ReactLint.Reader
import ReactLint.Toml.Document
import ReactLint.Yaml.Document

/-!
# The readers of the program

Configuration files are in TOML and rule files in YAML, both encoded in UTF-8. How deeply documents
and patterns may be nested, and how deeply the values that are shown, depends on the machine; so
does the table of the names of characters.
-/

namespace ReactLint.Readers

def textOf (bytes : ByteArray) : Read String := (Place.textOf bytes).mapError .fault

def standard (called : List Char → Option Nat := Text.ofCharacterName?) (nesting : Nat := 480)
    (room : Nat := 950) : Readers where
  config bytes := do Toml.decode nesting (← textOf bytes)
  rules bytes := do Yaml.decode nesting (← textOf bytes)
  pattern source flags := Pattern.parse called nesting source.toList flags
  room

end ReactLint.Readers
