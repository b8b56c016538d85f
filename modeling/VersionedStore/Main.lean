import Std.Time.DateTime.Timestamp
import VersionedStore.Instant.Unix
import VersionedStore.Showcase.Showing

/-!
# The showing as a program

Reads the environment, a settings file, the clock and random digits, and writes what a showing logs.
-/

namespace VersionedStore

/-- What the clock shows. -/
def currentInstant : IO Instant := do
  let t ← Std.Time.Timestamp.now
  let nanoseconds := t.toNanosecondsSinceUnixEpoch.val.toNat
  return (Instant.ofUnix? (nanoseconds / 1000000000) (nanoseconds % 1000000000)).getD .epoch

/-- A UUID of random digits. -/
def randomUuid : IO Uuid := do
  let bytes ← IO.getRandomBytes 16
  let digits := bytes.toList.flatMap fun b ↦ [.ofNat (b.toNat / 16), .ofNat b.toNat]
  return (Uuid.ofRandom? digits).getD (Schema.initial .uuid)

/-- What is found at a path. -/
def contentAt (path : String) : IO Settings.FileContent := do
  try
    return .bytes (← IO.FS.readBinFile path)
  catch
    | .inappropriateType .. => return .directory
    | _ => return .nothing

/-- What a showing takes from the environment. -/
def surroundings : IO Showcase.Surroundings := do
  let file ← match ← IO.getEnv "R01F_CONFIG" with
    | some path => pure (some (path, ← contentAt path))
    | none => pure none
  let keys := [Settings.readOnlyKey, Settings.generateOidsKey, Settings.createMissingKey]
  let texts ← keys.mapM fun key ↦ return (key, ← IO.getEnv key)
  let moments ← (List.range 8).mapM fun _ ↦ return (⟨← currentInstant, ← randomUuid⟩ : Moment)
  let correlation ← randomUuid
  return {
    file
    lookup := fun key ↦ (texts.lookup key).join
    moment := fun i ↦ moments.getD i ⟨.epoch, correlation⟩
    correlation }

end VersionedStore

open VersionedStore in
/-- Run a showing; an error is told and gives the status one. -/
def main : IO UInt32 := do
  let showing := Showcase.Showing.of (← surroundings)
  for e in showing.entries (Showcase.filterOf (← IO.getEnv "RUST_LOG")) do
    IO.println (e.stamped (← currentInstant).text)
  match showing.error with
  | none => return 0
  | some message =>
    IO.eprintln ("Error: " ++ message)
    return 1
