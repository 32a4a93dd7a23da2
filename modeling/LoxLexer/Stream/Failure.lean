/-! # Failures of input and output

A failure has a kind, by which callers tell failures apart, and a message for the user.
-/

set_option autoImplicit false

namespace LoxLexer

namespace Failure

inductive Kind where
  | notFound | permissionDenied | connectionReset | brokenPipe | notADirectory | isADirectory
  | invalidInput | invalidData | invalidFilename | timedOut | writeZero | storageFull
  | unexpectedEnd | other
deriving DecidableEq

end Failure

structure Failure where
  kind : Failure.Kind
  message : String
deriving DecidableEq

namespace Failure

/-! ## Failures with a fixed text -/

/-- A writer took no byte of what it was given. -/
def nothingWritten : Failure := ⟨.writeZero, "failed to write whole buffer"⟩

/-- The other end of a stream is gone. -/
def closed : Failure := ⟨.brokenPipe, "closed"⟩

def noSpace : Failure := ⟨.storageFull, "No space left on device (os error 28)"⟩

/-- What was read is not text. -/
def notText : Failure := ⟨.invalidData, "stream did not contain valid UTF-8"⟩

def noSuchFile : Failure := ⟨.notFound, "No such file or directory (os error 2)"⟩

def fileAsDirectory : Failure := ⟨.notADirectory, "Not a directory (os error 20)"⟩

def directoryAsFile : Failure := ⟨.isADirectory, "Is a directory (os error 21)"⟩

def nameTooLong : Failure := ⟨.invalidFilename, "File name too long (os error 36)"⟩

def nulInName : Failure := ⟨.invalidInput, "file name contained an unexpected NUL byte"⟩

end Failure

end LoxLexer
