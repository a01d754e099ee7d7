import BusContract.Files.Host
import BusContract.Text.Lines
import BusContract.Text.Utf8

/-!
# Text files

A text file is read as UTF-8, and all kinds of line ends are read as line feeds.
-/

namespace BusContract

/-- Why a text file cannot be read. -/
inductive TextFileFault where
  | file (fault : FileFault)
  | undecodable (fault : Utf8.Fault)
  deriving Repr, DecidableEq

/-- What is said about the fault. -/
def TextFileFault.message : TextFileFault → String
  | file fault => fault.message
  | undecodable fault => fault.message

/-- The text of the file that a path leads to. -/
def Host.readText (host : Host) (p : FilePath) : Except TextFileFault (List Char) :=
  match host.readBytes p with
  | .error fault => .error (.file fault)
  | .ok bytes =>
    match Utf8.decode bytes with
    | .error fault => .error (.undecodable fault)
    | .ok text => .ok (foldLineEnds text)

end BusContract
