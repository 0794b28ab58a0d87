import MarkupActions.Text.Utf8

/-!
# MarkupActions.InputStream

**Input that is read line by line.** A stream is the bytes still to come and what happens behind
them: the end of the input, or a failure. Reading takes everything through the next newline. A
failure strikes only when the bytes have run out before a newline, and what had been read of that
line is then lost.
-/

namespace MarkupActions

/-- A stream of bytes at some position. -/
structure InputStream where
  bytes : List UInt8
  /-- The failure behind the last byte; none when the input just ends. -/
  failure : Option String
  deriving Inhabited

namespace InputStream

/-- The byte that ends a line. -/
def newline : UInt8 := 10

/-- The byte that may stand in front of it. -/
def carriageReturn : UInt8 := 13

/-- The bytes through the first newline, whether there was one, and the bytes behind it. -/
def cutLine : List UInt8 → List UInt8 × Bool × List UInt8
  | [] => ([], false, [])
  | b :: rest =>
      if b = newline then ([b], true, rest)
      else
        let (line, ended, after) := cutLine rest
        (b :: line, ended, after)

/-- What came of asking for a line. -/
inductive Reading where
  /-- The bytes of a line with the newline that ends it, none at the end of the input. -/
  | line (bytes : List UInt8)
  | failed (reason : String)

/-- Read a line: what came of it, and the stream behind it. -/
def readLine (s : InputStream) : Reading × InputStream :=
  let (line, ended, after) := cutLine s.bytes
  let rest := { s with bytes := after }
  match ended, s.failure with
  | false, some reason => (.failed reason, rest)
  | _, _ => (.line line, rest)

/-- The bytes without a certain last one. -/
def dropEnd (b : UInt8) (bytes : List UInt8) : List UInt8 :=
  if bytes.getLast? = some b then bytes.dropLast else bytes

/-- A line without its end: one newline, and one carriage return in front of it. -/
def stripEnd (line : List UInt8) : List UInt8 := dropEnd carriageReturn (dropEnd newline line)

/-- The text of a line, none for the empty line that stands for the end of the input. -/
def lineText? (line : List UInt8) : Option String :=
  if line.isEmpty then none else some (Text.Utf8.decode (stripEnd line))

end InputStream

end MarkupActions
