import LayeredConfig.Error
import LayeredConfig.Text.Digits
import LayeredConfig.Text.Split

/-!
# Name, version and release

An `Nvr` identifies a build of a package by its name, its version and its release, and
sometimes an epoch.  `Nvr.parse` reads it from a text such as `name-version-release`, behind
any path and with the epoch before the name, before the version or after the release, in each
case set off by a colon.  `Nvr.text` writes the three parts without the epoch.
-/

namespace LayeredConfig

/-- A build of a package. -/
structure Nvr where
  name : String
  version : String
  release : String
  epoch : Option UInt64
  deriving DecidableEq

namespace Nvr

/-- Takes an epoch off that stands after the last dash or before the first one.  The epoch is
empty if there is no colon or if dashes stand on both sides of it; more than one colon is a
flaw. -/
def splitOuterEpoch? (text : List Char) : Option (List Char × List Char) :=
  match Text.splitFirst? ':' text with
  | none => some (text, [])
  | some (before, after) =>
    if ':' ∈ after then none
    else if '-' ∉ after then some (before, after)
    else if '-' ∉ before then some (after, before)
    else some (text, [])

/-- The parts between the last two dashes: what stands before them, between them and after
them. -/
def splitParts? (text : List Char) : Option (List Char × List Char × List Char) :=
  (Text.splitLast? '-' text).bind fun (before, release) =>
    (Text.splitLast? '-' before).map fun (name, version) => (name, version, release)

/-- Takes an epoch off that stands before the version, unless there is one already. -/
def splitInnerEpoch (epoch version : List Char) : List Char × List Char :=
  if epoch.isEmpty then (Text.splitFirst? ':' version).getD ([], version) else (epoch, version)

/-- The number of an epoch; a plus sign is allowed. -/
def epochNumber? (epoch : List Char) : Option UInt64 :=
  let digits := match epoch with
    | '+' :: digits => digits
    | digits => digits
  (Text.decimal? digits).bind fun n => if n < UInt64.size then some (.ofNat n) else none

/-- Reads a build, or says what is wrong with the text. -/
def read (text : List Char) : Except NvrFlaw Nvr :=
  match splitOuterEpoch? (Text.afterLast '/' text) with
  | none => .error .colons
  | some (nvr, outer) =>
    match splitParts? nvr with
    | none => .error .parts
    | some (name, version, release) =>
      let (epoch, version) := splitInnerEpoch outer version
      let build (epoch : Option UInt64) : Nvr :=
        ⟨.ofList name, .ofList version, .ofList release, epoch⟩
      if epoch.isEmpty then .ok (build none)
      else
        match epochNumber? epoch with
        | some n => .ok (build (some n))
        | none => .error (.epoch (.ofList epoch))

/-- The build that a text names. -/
def parse (text : String) : Except Error Nvr := (read text.toList).mapError (.invalidNvr text)

/-- The name, the version and the release, with dashes between them. -/
def text (nvr : Nvr) : String := nvr.name ++ "-" ++ nvr.version ++ "-" ++ nvr.release

end Nvr

end LayeredConfig
