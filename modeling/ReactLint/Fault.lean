/-!
# Faults

A `Fault` is a failure that no part of the tool expects: a value of a kind that an operation cannot
use, a limit of the machine or of a reader, a text that no console takes. What cannot be read is
either malformed, which the tool expects and reports, or a fault of its reader.
-/

namespace ReactLint

inductive Fault where
  | notIterable
  | notKey
  | unknownField
  | notNumber
  | flagNotText
  | notExtendable
  | localeFlag
  | alphabetClash
  | tooManyDigits
  | tooDeep
  | repeatTooLarge
  | flagsTooLarge
  | notUtf8
  | noSuchFile
  | isFolder
  | notFolder
  | nameTooLong
  | badScalar
  | unknownTruth
  | emptyNumber
  | notMoment
  | pointTooLarge
  | unpairedUnit
  | unmatchedTag
  deriving DecidableEq, Repr

def Fault.message : Fault → String
  | .notIterable => "a list is needed"
  | .notKey => "a list or a mapping is no key"
  | .unknownField => "rules have no such field"
  | .notNumber => "a number is needed"
  | .flagNotText => "a flag name is a text"
  | .notExtendable => "only a list can be extended"
  | .localeFlag => "the flag for the locale does not go with a text"
  | .alphabetClash => "the flags for two alphabets exclude each other"
  | .tooManyDigits => "a number has too many digits"
  | .tooDeep => "something is nested too deeply"
  | .repeatTooLarge => "a repeat count is too large"
  | .flagsTooLarge => "a set of flags is too large"
  | .notUtf8 => "a text is not in UTF-8"
  | .noSuchFile => "no such file or folder"
  | .isFolder => "a file is needed, not a folder"
  | .notFolder => "a folder is needed, not a file"
  | .nameTooLong => "a file name is too long"
  | .badScalar => "a scalar has not the form that its tag asks for"
  | .unknownTruth => "a truth value is none of the known words"
  | .emptyNumber => "a number has no digits"
  | .notMoment => "a moment has not the form of one"
  | .pointTooLarge => "an escaped code point is too large"
  | .unpairedUnit => "a text has one half of a pair of units without the other"
  | .unmatchedTag => "a closing tag matches no open one"

def Fault.ofResult? {α : Type} : Except Fault α → Option Fault
  | .ok _ => none
  | .error f => some f

inductive ReadError where
  | malformed
  | fault (f : Fault)
  deriving DecidableEq, Repr

/-- The outcome of reading a document, a pattern or a part of one. -/
abbrev Read := Except ReadError

def ReadError.fault? : ReadError → Option Fault
  | .malformed => none
  | .fault f => some f

end ReactLint
