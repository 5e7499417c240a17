import LendingClient.Text.Digits
import LendingClient.Text.Split

/-!
# Version numbers

Whether a text is the version of a release: three numbers with points between them, then, if there
are any, the parts of a mark for what comes before the release behind a hyphen, and the parts of a
mark for the build behind a plus sign.
-/

namespace LendingClient.Text

/-- A number without zeros in front. -/
def isPlainNumber (chars : List Char) : Bool :=
  !chars.isEmpty && chars.all Char.isDigit && (chars.length == 1 || chars.head? != some '0')

/-- The largest number of a version. -/
def largestVersionNumber : Nat := UInt64.size - 1

/-- A number of a version. -/
def isVersionNumber (chars : List Char) : Bool :=
  isPlainNumber chars &&
    valueOfDigits chars ≤ largestVersionNumber

/-- A part of a mark: letters, digits and hyphens. -/
def isMarkPart (chars : List Char) : Bool :=
  !chars.isEmpty && chars.all fun c => c.isAlphanum || c == '-'

/-- A part of the mark for what comes before a release; one that is a number has no zeros in
front. -/
def isEarlyPart (chars : List Char) : Bool :=
  isMarkPart chars && (!chars.all Char.isDigit || isPlainNumber chars)

/-- Whether what follows a sign, if the sign is there, is a mark. -/
def isMarked (isPart : List Char → Bool) : List Char → Bool
  | [] => true
  | _ :: mark => (split '.' mark).all isPart

/-- The version of a release. -/
def isVersion (chars : List Char) : Bool :=
  let release := chars.takeWhile (· ≠ '+')
  let numbers := split '.' (release.takeWhile (· ≠ '-'))
  numbers.length == 3 && numbers.all isVersionNumber &&
    isMarked isEarlyPart (release.dropWhile (· ≠ '-')) &&
    isMarked isMarkPart (chars.dropWhile (· ≠ '+'))

end LendingClient.Text
