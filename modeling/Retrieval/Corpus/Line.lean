/-!
# Lines

Octets fall into lines at line feeds.  A line feed ends a line and takes a carriage return before it
along; what follows the last line feed is a line unless it is empty, and keeps its carriage return.
-/

namespace Retrieval

/-- The octet of the line feed. -/
def lineFeed : UInt8 := 0x0A

/-- The octet of the carriage return. -/
def carriageReturn : UInt8 := 0x0D

/-- A line whose octets are given the latest first, at a line feed. -/
def endedLine (read : List UInt8) : List UInt8 :=
  match read with
  | last :: rest => if last = carriageReturn then rest.reverse else read.reverse
  | [] => []

/-- The lines of octets, when the octets `read`, the latest first, belong to the first line. -/
def linesFrom (read : List UInt8) : List UInt8 → List (List UInt8)
  | [] => if read.isEmpty then [] else [read.reverse]
  | octet :: rest =>
    if octet = lineFeed then endedLine read :: linesFrom [] rest
    else linesFrom (octet :: read) rest

/-- The lines of octets. -/
def lines (octets : List UInt8) : List (List UInt8) :=
  linesFrom [] octets

end Retrieval
