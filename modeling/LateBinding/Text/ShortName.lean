/-!
# Short names

A full type name such as `alloc::vec::Vec<alloc::string::String>` is printed without the paths
in front of its segments, here `Vec<String>`.

* `isDelimiter` — the characters that end a segment: brackets, commas, blanks and the marks of
  references and pointers;
* `strip` — the scan itself, over characters: a double colon drops the segment read so far;
* `shortName` — the same on strings.

A double colon is recognised from the left, so of three colons in a row the last one is kept.
-/

namespace LateBinding

/-- The characters between two segments of a type name. -/
def isDelimiter (c : Char) : Bool :=
  c ∈ ['<', '>', ',', ' ', '&', '(', ')', '[', ']', ';', '*']

namespace ShortName

/-- Scan a type name whose current segment starts with `segment`.  A double colon drops the
segment, a delimiter closes it, any other character extends it. -/
def strip (segment : List Char) : List Char → List Char
  | [] => segment
  | ':' :: ':' :: rest => strip [] rest
  | c :: rest =>
    if isDelimiter c then segment ++ c :: strip [] rest
    else strip (segment ++ [c]) rest

end ShortName

/-- The type name `full` without the path in front of any of its segments. -/
def shortName (full : String) : String :=
  String.ofList (ShortName.strip [] full.toList)

end LateBinding
