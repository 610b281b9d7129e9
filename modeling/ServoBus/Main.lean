import ServoBus.CommandLine.MasterProgram
import ServoBus.CommandLine.ServoProgram

/-!
# The program

With the word "servo" in front, the program serves a servo on its standard streams: it hears what
comes in and answers on what goes out. Otherwise it is a bus master that sends one request to a
servo which it serves itself. Both keep the servo's registers in the storage file.
-/

namespace ServoBus.Program

/-- What is at the path of the storage file. -/
def readEntry (path : String) : IO FileEntry := do
  try
    return .regular (← IO.FS.readBinFile path).toList
  catch _ => return .absent

/-- Writes the content of the storage file, if it has any. -/
def writeEntry (file : StoredFile) : IO Unit := do
  match file.entry with
  | .regular content => IO.FS.writeBinFile file.path ⟨content.toArray⟩
  | _ => return ()

/-- Hears bytes until they end, and keeps the registers after each part of them. -/
partial def serve (service : Service) (connection : Connection) : IO UInt32 := do
  let input ← (← IO.getStdin).read 256
  if input.isEmpty then return 0
  let heard := connection.hear input.toList
  let output ← IO.getStdout
  output.write ⟨heard.replies.toArray⟩
  output.flush
  writeEntry (service.close heard.audience).storage
  serve service heard.audience

def runServo (words : List String) : IO UInt32 := do
  match CommandLine.Start.ofWords .up words .absent with
  | .exits code => return code.toUInt32
  | .serves service =>
      let entry ← readEntry service.storage.path
      let service := { service with storage := { service.storage with entry } }
      match service.accept with
      | .error fault =>
          IO.eprintln fault.message
          return 101
      | .ok connection => serve service connection

def runMaster (words : List String) : IO UInt32 := do
  let config : Config := {}
  let file : StoredFile := ⟨config.storagePath, ← readEntry config.storagePath⟩
  match Service.bind .up config {} file with
  | .error cause =>
      IO.eprintln cause.message
      return 1
  | .ok service =>
      match CommandLine.runMaster .up service words with
      | .error fault =>
          IO.eprintln fault.message
          return 101
      | .ok (output, service) =>
          IO.print output.stdout
          IO.eprint output.stderr
          writeEntry service.storage
          return output.exitCode.toUInt32

end ServoBus.Program

def main (words : List String) : IO UInt32 :=
  match words with
  | "servo" :: rest => ServoBus.Program.runServo rest
  | _ => ServoBus.Program.runMaster words
