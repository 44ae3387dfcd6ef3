/-!
# Transcripts

What a program prints, each channel on its own.
-/

namespace DeclaredSchema

structure Transcript where
  out : String := ""
  err : String := ""
  deriving DecidableEq, Repr

namespace Transcript

def append (a b : Transcript) : Transcript := ⟨a.out ++ b.out, a.err ++ b.err⟩

instance : Append Transcript := ⟨append⟩

/-- A line of output. -/
def line (text : String) : Transcript := { out := text ++ "\n" }

/-- A line on the error channel. -/
def note (text : String) : Transcript := { err := text ++ "\n" }

def lines (texts : List String) : Transcript := { out := String.join (texts.map (· ++ "\n")) }

def notes (texts : List String) : Transcript := { err := String.join (texts.map (· ++ "\n")) }

end Transcript

end DeclaredSchema
