import Extraction.Cli.Run

/-! # The program -/

namespace Extraction.Cli

/-- The number of an error, which some functions report with its sign changed. -/
def errorNumber (code : UInt32) : Nat :=
  if code.toNat < UInt32.size / 2 then code.toNat else UInt32.size - code.toNat

def ofNumber (n : Nat) (details : String) : IoError :=
  match n with
  | 2 => .notFound
  | 13 => .permissionDenied
  | 20 => .notDirectory
  | 21 => .isDirectory
  | 28 => .noSpace
  | 36 => .nameTooLong
  | n => .other s!"{details} (os error {n})"

def ioError : IO.Error → IoError
  | .noFileOrDirectory _ code details => ofNumber (errorNumber code) details
  | .inappropriateType _ code details => ofNumber (errorNumber code) details
  | .permissionDenied _ code details => ofNumber (errorNumber code) details
  | .invalidArgument _ code details => ofNumber (errorNumber code) details
  | .resourceExhausted _ code details => ofNumber (errorNumber code) details
  | .hardwareFault code details => ofNumber (errorNumber code) details
  | e => .other e.toString

def readFile (path : String) : IO (Except IoError (List UInt8)) := do
  try
    let bytes ← IO.FS.readBinFile path
    return .ok bytes.toList
  catch e => return .error (ioError e)

/-- Opens a file, which makes or empties it, and writes to it. What the device does not take is
noticed only when all is passed on to it. -/
def writeFile (path : String) (bytes : List UInt8) : IO (Option IoError) := do
  try
    IO.FS.withFile path .write fun file => do
      file.write ⟨bytes.toArray⟩
      file.flush
    return none
  catch e => return some (ioError e)

/-- Access to the files of the machine. -/
def machineFiles : Access IO where
  read := readFile
  write := writeFile

end Extraction.Cli

open Extraction.Cli

def main (args : List String) : IO UInt32 := do
  let report ← execute machineFiles args
  (← IO.getStdout).putStr report.out
  (← IO.getStderr).putStr report.err
  return UInt32.ofNat report.code
