import ListenDeck.Json.Record

/-!
# Counts

The server gives the length of a list as a number or as a numeral in a string.

* `readCount?`: the count of either form.
-/

namespace ListenDeck.Server

/-- The count a value gives: a whole number of 64 bits without sign, or a numeral of one with blanks
around it. -/
def readCount? : Json → Option UInt64
  | .string s => Text.readUInt64? (Text.trim s)
  | j => j.uint64?

/-- The count of a list, zero if the record does not give it; all of a value that is given is
read. -/
def readTotal? (slot : Option Json) : Option UInt64 :=
  Json.withDefault 0 (fun j => if j.readable then readCount? j else none) slot

/-- The record of a count alone. -/
def totalOfJson? (j : Json) : Option UInt64 :=
  if j.isRecord ["total_count"] then readTotal? (j.slot 0 "total_count") else none

end ListenDeck.Server
